/-
**Bindings of the surfaces to the menu.**

The contract of a menu keeps its products, questions and options by their references.  Each surface has a file
of bindings, one for every reference of the contract.  A question or an option whose reference is taken is an
error; a product whose reference is taken replaces the product that had it.

Main definitions:

* `CafePosInterop.menuContract` — the contract of a menu;
* `CafePosInterop.buildPreviewBindingRegistry` — the bindings of a surface;
* `CafePosInterop.OneToOne` — the products of the contract are those of the snapshot, each of them once.

Main results:

* `CafePosInterop.oneToOne_insertAll_iff` — a dictionary holds what was put into it when the keys differ;
* `CafePosInterop.products_kept_iff` — when no product of a snapshot is lost.
-/

import Wuchang.ContentHash
import Wuchang.QuickclickMenu

set_option relaxedAutoImplicit false
set_option autoImplicit false

namespace CafePosInterop

open Py QuickclickMenu
open CoreEncoding (Normal Fault)

/-! ### Dictionaries -/

/-- `d[k] = v`, on the items in the order they were put in. -/
def insertItem {α : Type} (k : PyStr) (v : α) : List (PyStr × α) → List (PyStr × α)
  | [] => [(k, v)]
  | p :: d => if p.1 = k then (k, v) :: d else p :: insertItem k v d

/-- `{k: v for k, v in items}` -/
def insertAll {α : Type} (items : List (PyStr × α)) : List (PyStr × α) :=
  items.foldl (fun d p => insertItem p.1 p.2 d) []

section Insert

variable {α : Type} {k : PyStr} {v : α} {d : List (PyStr × α)}

/-- A key that is new is put at the end. -/
theorem insertItem_of_not_mem (h : k ∉ d.map Prod.fst) : insertItem k v d = d ++ [(k, v)] := by
  induction d with
  | nil => rfl
  | cons p d ih =>
      rw [List.map_cons, List.mem_cons, not_or] at h
      rw [insertItem, if_neg (Ne.symm h.1), ih h.2]
      rfl

/-- A key that is there keeps its place. -/
theorem length_insertItem_of_mem (h : k ∈ d.map Prod.fst) : (insertItem k v d).length = d.length := by
  induction d with
  | nil => cases h
  | cons p d ih =>
      rw [insertItem]
      split_ifs with hp
      · rfl
      · rw [List.map_cons, List.mem_cons] at h
        rw [List.length_cons, List.length_cons, ih (h.resolve_left (Ne.symm hp))]

theorem length_insertItem_le : (insertItem k v d).length ≤ d.length + 1 := by
  by_cases h : k ∈ d.map Prod.fst
  · rw [length_insertItem_of_mem h]
    omega
  · rw [insertItem_of_not_mem h]
    simp

theorem length_foldl_le (items d : List (PyStr × α)) :
    (items.foldl (fun d p => insertItem p.1 p.2 d) d).length ≤ d.length + items.length := by
  induction items generalizing d with
  | nil => simp
  | cons p items ih =>
      have hfirst : (insertItem p.1 p.2 d).length ≤ d.length + 1 := length_insertItem_le
      have hrest := ih (insertItem p.1 p.2 d)
      rw [List.foldl_cons, List.length_cons]
      omega

/-- A dictionary that grows with every item gets different keys only. -/
theorem nodup_of_length_foldl {items d : List (PyStr × α)}
    (h : (items.foldl (fun d p => insertItem p.1 p.2 d) d).length = d.length + items.length) :
    (items.map Prod.fst).Nodup ∧ ∀ p ∈ items, p.1 ∉ d.map Prod.fst := by
  induction items generalizing d with
  | nil => simp
  | cons p items ih =>
      rw [List.foldl_cons, List.length_cons] at h
      have hrest := length_foldl_le items (insertItem p.1 p.2 d)
      have hnew : p.1 ∉ d.map Prod.fst := by
        intro hmem
        rw [length_insertItem_of_mem hmem] at hrest
        omega
      rw [insertItem_of_not_mem hnew] at h
      obtain ⟨hnodup, hdiffer⟩ := ih (by rw [h, List.length_append, List.length_singleton]; omega)
      have hsplit : ∀ q ∈ items, q.1 ∉ d.map Prod.fst ∧ q.1 ≠ p.1 := by
        intro q hq
        have := hdiffer q hq
        rw [List.map_append, List.mem_append, not_or] at this
        exact ⟨this.1, by simpa using this.2⟩
      refine ⟨?_, List.forall_mem_cons.2 ⟨hnew, fun q hq => (hsplit q hq).1⟩⟩
      rw [List.map_cons, List.nodup_cons]
      refine ⟨fun hmem => ?_, hnodup⟩
      obtain ⟨q, hq, heq⟩ := List.mem_map.1 hmem
      exact (hsplit q hq).2 heq

/-- Items with different keys are put one behind the other. -/
theorem foldl_insertItem {items d : List (PyStr × α)} (hnodup : (items.map Prod.fst).Nodup)
    (h : ∀ p ∈ items, p.1 ∉ d.map Prod.fst) :
    items.foldl (fun d p => insertItem p.1 p.2 d) d = d ++ items := by
  induction items generalizing d with
  | nil => simp
  | cons p items ih =>
      rw [List.map_cons, List.nodup_cons] at hnodup
      obtain ⟨hnew, hrest⟩ := List.forall_mem_cons.1 h
      rw [List.foldl_cons, insertItem_of_not_mem hnew, ih hnodup.2, List.append_assoc]
      · rfl
      · intro q hq
        rw [List.map_append, List.mem_append, not_or]
        refine ⟨hrest q hq, fun hmem => hnodup.1 ?_⟩
        rw [List.map_singleton, List.mem_singleton] at hmem
        exact hmem ▸ List.mem_map_of_mem hq

theorem lookup_of_nodup {items : List (PyStr × α)} (hnodup : (items.map Prod.fst).Nodup) {p : PyStr × α}
    (hp : p ∈ items) : items.lookup p.1 = some p.2 := by
  induction items with
  | nil => cases hp
  | cons q items ih =>
      rw [List.map_cons, List.nodup_cons] at hnodup
      rcases List.mem_cons.1 hp with rfl | hp
      · rw [List.lookup_cons, beq_self_eq_true]
      · have hne : p.1 ≠ q.1 := fun heq => hnodup.1 (heq ▸ List.mem_map_of_mem hp)
        rw [List.lookup_cons, beq_false_of_ne hne]
        exact ih hnodup.2 hp

/-- A dictionary holds what was put into it, each value once and under its key, exactly when the keys differ. -/
theorem oneToOne_insertAll_iff {items : List (PyStr × α)} :
    (((insertAll items).map Prod.snd).Perm (items.map Prod.snd) ∧
      ∀ p ∈ items, (insertAll items).lookup p.1 = some p.2) ↔ (items.map Prod.fst).Nodup := by
  constructor
  · rintro ⟨hperm, -⟩
    have hlength := hperm.length_eq
    rw [List.length_map, List.length_map] at hlength
    exact (nodup_of_length_foldl (d := []) (by rw [List.length_nil, Nat.zero_add]; exact hlength)).1
  · intro hnodup
    have hself : insertAll items = items := foldl_insertItem (d := []) hnodup (by simp)
    rw [hself]
    exact ⟨List.Perm.refl _, fun p hp => lookup_of_nodup hnodup hp⟩

end Insert

/-! ### The contract of a menu -/

/-- What is read from files. -/
structure Files where
  /-- `json.loads` of the snapshot, if it can be read and parsed. -/
  snapshot : Option PyVal
  /-- `_file_sha256(snapshot_path)` -/
  snapshotSha256 : Except Fault PyStr
  /-- `_file_sha256(SCENARIO_ROUTE_TABLE_PATH)` -/
  scenarioRouteTableSha256 : Except Fault PyStr
  /-- `_file_sha256(CAPABILITY_REGISTRY_PATH)` -/
  capabilityRegistrySha256 : Except Fault PyStr

/-- `raise FieldApplicationError(reason_code)` -/
def fail {α : Type} (reasonCode : String) : Except Fault α := CoreEncoding.fail reasonCode "$"

/-- `_json_object` -/
def jsonObject (content : Option PyVal) (reasonCode : String) : Except Fault PyVal :=
  match content with
  | some (.dict items) => .ok (.dict items)
  | _ => fail reasonCode

/-- `except (KeyError, TypeError, ValueError)`; the program's own exceptions are `ValueError`s. -/
def wrapped {α : Type} (reasonCode : String) : Except Fault α → Except Fault α
  | .ok a => .ok a
  | .error e =>
      match e with
      | .own _ => fail reasonCode
      | .builtin .keyError => fail reasonCode
      | .builtin .typeError => fail reasonCode
      | .builtin .valueError => fail reasonCode
      | .builtin .unicodeEncodeError => fail reasonCode
      | e => .error e

/-- A question of the contract. -/
structure BoundQuestion where
  question : WebQuestion
  groupId : PyVal
  sourceRef : PyStr

/-- An option of the contract. -/
structure BoundOption where
  option : WebOption
  groupId : PyVal
  questionRef : PyStr
  sourceRef : PyStr

/-- The loop over the options of a question. -/
def addOptions (lib : Library) (menuId groupId : PyVal) (questionRef : PyStr)
    (done : List (PyStr × BoundOption)) : List WebOption → Except Fault (List (PyStr × BoundOption))
  | [] => .ok done
  | option :: options => do
      let ref ← sourceOptionRef lib menuId (.str option.id)
      if (done.lookup ref).isSome then fail "CAFE_POS_SOURCE_OPTION_DUPLICATE"
      else addOptions lib menuId groupId questionRef (done ++ [(ref, ⟨option, groupId, questionRef, ref⟩)]) options

/-- The questions and the options that are bound. -/
abbrev Bound := List (PyStr × BoundQuestion) × List (PyStr × BoundOption)

/-- The loop over the questions of a group. -/
def addQuestions (lib : Library) (menuId groupId : PyVal) (done : Bound) :
    List WebQuestion → Except Fault Bound
  | [] => .ok done
  | question :: questions => do
      let ref ← sourceQuestionRef lib menuId (.str question.id)
      if (done.1.lookup ref).isSome then fail "CAFE_POS_SOURCE_QUESTION_DUPLICATE"
      else do
        let options ← addOptions lib menuId groupId ref done.2 question.options
        addQuestions lib menuId groupId (done.1 ++ [(ref, ⟨question, groupId, ref⟩)], options) questions

/-- The loop over the groups. -/
def addGroups (lib : Library) (menuId : PyVal) (done : Bound) : List WebGroup → Except Fault Bound
  | [] => .ok done
  | group :: groups => do
      let done ← addQuestions lib menuId group.id done group.questions
      addGroups lib menuId done groups

/-- What `_menu_contract` returns. -/
structure Contract where
  snapshot : PyVal
  snapshotFileSha256 : PyStr
  webData : WebData
  products : List (PyStr × WebProduct)
  questions : List (PyStr × BoundQuestion)
  options : List (PyStr × BoundOption)

/-- `_menu_contract` -/
def menuContract (lib : Library) (files : Files) : Except Fault Contract := do
  let snapshot ← jsonObject files.snapshot "CAFE_POS_MENU_SNAPSHOT_INVALID"
  let webData ← wrapped "CAFE_POS_MENU_SNAPSHOT_INVALID" (buildWebData lib snapshot)
  let products := insertAll (webData.products.map fun product => (product.sourceRef, product))
  let bound ← addGroups lib webData.source.id ([], []) webData.optionGroups
  let sha256 ← files.snapshotSha256
  pure ⟨snapshot, sha256, webData, products, bound.1, bound.2⟩

/-! ### The bindings of a surface -/

/-- `_surface`, for a text and its capital letters. -/
def surfaceOf (upper : PyStr → PyStr) (lib : Library) (surface : PyVal) : Except Fault String :=
  let normalized := upper (strip (str lib surface))
  match CoreEncoding.supportedSurfaces.find? fun s => cp s = normalized with
  | some s => .ok s
  | none => CoreEncoding.fail "CAFE_POS_SURFACE_NOT_SUPPORTED" "$.surface"

/-- The bindings of one type, in the order of their references. -/
def bindings (lib : Library) (surface entityType : String) (refs : List PyStr) : Except Fault PyVal := do
  let records ← (refs.mergeSort fun a b => a ≤ b).mapM fun ref => do
    let surfaceRef ← CoreEncoding.buildSurfaceBindingRef lib.nfc (lit surface) (lit entityType) (.str ref)
    pure (obj [("source_ref", .str ref), ("surface_ref", .str surfaceRef)])
  pure (.list records)

/-- A source of authority. -/
def authoritySource (path : String) (sha256 : Except Fault PyStr) : Except Fault PyVal := do
  let sha256 ← sha256
  pure (obj [("path", lit path), ("sha256", .str sha256)])

/-- `build_preview_binding_registry` -/
def buildPreviewBindingRegistry (upper : PyStr → PyStr) (lib : Library) (surface : PyVal) (files : Files) :
    Except Fault PyVal := do
  let surface ← surfaceOf upper lib surface
  let contract ← menuContract lib files
  let encoding ← CoreEncoding.encodingRegistrySha256 lib.nfc
  let scenario ← authoritySource "runtime/total_field/secondary_cloud/scenario_route_table.json"
    files.scenarioRouteTableSha256
  let capability ← authoritySource "runtime/total_field/secondary_cloud/capability_registry.json"
    files.capabilityRegistrySha256
  let products ← bindings lib surface "PRODUCT" (contract.products.map Prod.fst)
  let questions ← bindings lib surface "QUESTION" (contract.questions.map Prod.fst)
  let options ← bindings lib surface "OPTION" (contract.options.map Prod.fst)
  let registry := fields [
    ("adi_internal_rules_disclosed", .bool false),
    ("authority_sources", obj [("capability_registry", capability), ("scenario_route_table", scenario)]),
    ("encoding_registry", obj [("content_sha256", .str encoding),
      ("version", lit CoreEncoding.encodingRegistryVersion)]),
    ("option_bindings", options),
    ("product_bindings", products),
    ("production_bindings", .bool false),
    ("public_boundary", lit "OPAQUE_REF_ONLY"),
    ("question_bindings", questions),
    ("schema_version", lit "W7TP-CAFE-POS-SURFACE-BINDINGS/1.0"),
    ("side_effects", obj [("db_write", .bool false), ("formal_pos_order", .bool false),
      ("network_call", .bool false), ("odoo_write", .bool false), ("payment_capture", .bool false)]),
    ("source_snapshot", obj [("authority_state", contract.webData.source.authorityState),
      ("menu_id", contract.webData.source.id), ("snapshot_file_sha256", .str contract.snapshotFileSha256),
      ("source_export_sha256", contract.webData.source.sha256)]),
    ("state", lit "DERIVED_NON_AUTHORITATIVE_PREVIEW"),
    ("surface", lit surface)]
  let sha256 ← ContentHash.canonicalSha256 lib.nfc (.dict registry)
  pure (.dict (setKey (cp "content_sha256") (.str sha256) registry))

/-! ### The products of the contract -/

/-- The products of a contract are those of the snapshot outside the categories that are left out: each of them
once, as it is made of the snapshot, and under its reference. -/
def OneToOne (lib : Library) (snapshot : PyVal) (active : List PyVal) (products : List (PyStr × WebProduct)) :
    Prop :=
  ∃ made, List.Forall₂ (fun product webProduct => buildProduct lib snapshot product = .ok webProduct) active made ∧
    (products.map Prod.snd).Perm made ∧ ∀ w ∈ made, products.lookup w.sourceRef = some w

/-- The coordinate of a product, in its normal form. -/
def normalCoordinate (lib : Library) (product : PyVal) : Except Fault PyStr := do
  let coordinate ← coordinateOf lib product
  CoreEncoding.segment lib.nfc coordinate (cp "$.entity_coordinate")

/-- The reference of a product is made of the menu and of the coordinate. -/
theorem sourceRef_of_buildProduct {lib : Library} {snapshot product : PyVal} {w : WebProduct}
    (h : buildProduct lib snapshot product = .ok w) : ∃ menu coordinate, menuIdOf snapshot = .ok (.str menu) ∧
      normalCoordinate lib product = .ok coordinate ∧
      w.sourceRef = cp "QUICKCLICK" ++ 58 :: lib.nfc menu ++ 58 :: coordinate := by
  simp only [buildProduct, bind_eq_ok_iff] at h
  obtain ⟨v, hv, _, _, _, _, menuId, hmenu, ref, href, _, _, _, _, _, _, _, _, _, _, h⟩ := h
  obtain rfl := pure_eq_ok_iff.1 h
  obtain ⟨t, ht, menu, coordinate, htype, rfl, rfl, -, hpattern, hcode⟩ :=
    CoreEncoding.buildSourceCoordinate_eq_ok_iff.1 href
  obtain rfl := cp_injective (PyVal.str.inj htype)
  refine ⟨menu, lib.nfc coordinate, hmenu, ?_, hcode⟩
  rw [normalCoordinate, hv, ok_bind]
  exact CoreEncoding.segment_eq_ok_iff.2 ⟨coordinate, rfl, rfl, hpattern⟩

/-- The references of two products are equal exactly when their coordinates are. -/
theorem sourceRef_eq_iff {lib : Library} {snapshot product product' : PyVal} {w w' : WebProduct}
    (h : buildProduct lib snapshot product = .ok w) (h' : buildProduct lib snapshot product' = .ok w') :
    w.sourceRef = w'.sourceRef ↔ normalCoordinate lib product = normalCoordinate lib product' := by
  obtain ⟨menu, coordinate, hmenu, hcoordinate, href⟩ := sourceRef_of_buildProduct h
  obtain ⟨menu', coordinate', hmenu', hcoordinate', href'⟩ := sourceRef_of_buildProduct h'
  have hsame : menu' = menu := by
    rw [hmenu] at hmenu'
    exact (PyVal.str.inj (Except.ok.inj hmenu')).symm
  rw [href, href', hcoordinate, hcoordinate', hsame, List.append_right_inj, List.cons_inj_right,
    Except.ok.injEq]

/-- An element on one side has its element on the other. -/
theorem exists_of_mem {α β : Type} {R : α → β → Prop} {xs : List α} {ys : List β} (h : List.Forall₂ R xs ys)
    {x : α} (hx : x ∈ xs) : ∃ y ∈ ys, R x y := by
  induction h with
  | nil => cases hx
  | cons hxy _ ih =>
      rcases List.mem_cons.1 hx with rfl | hx
      · exact ⟨_, List.mem_cons_self, hxy⟩
      · obtain ⟨y, hy, hr⟩ := ih hx
        exact ⟨y, List.mem_cons_of_mem _ hy, hr⟩

/-- Elements that correspond differ on one side exactly when they do on the other. -/
theorem nodup_map_iff {α β γ δ : Type} {R : α → β → Prop} {f : α → γ} {g : β → δ} {xs : List α} {ys : List β}
    (h : List.Forall₂ R xs ys) (heq : ∀ x y x' y', R x y → R x' y' → (f x = f x' ↔ g y = g y')) :
    (xs.map f).Nodup ↔ (ys.map g).Nodup := by
  induction h with
  | nil => simp
  | @cons x y xs ys hxy hrest ih =>
      rw [List.map_cons, List.map_cons, List.nodup_cons, List.nodup_cons, ih]
      refine and_congr_left fun _ => not_congr ?_
      rw [List.mem_map, List.mem_map]
      constructor
      · rintro ⟨x', hx', he⟩
        obtain ⟨y', hy', hr⟩ := exists_of_mem hrest hx'
        exact ⟨y', hy', (heq _ _ _ _ hr hxy).1 he⟩
      · rintro ⟨y', hy', he⟩
        obtain ⟨x', hx', hr⟩ := exists_of_mem hrest.flip hy'
        exact ⟨x', hx', (heq _ _ _ _ hr hxy).2 he⟩

/-- What the bindings of a surface are made of. -/
theorem contract_of_registry {upper : PyStr → PyStr} {lib : Library} {surface registry : PyVal} {files : Files}
    (h : buildPreviewBindingRegistry upper lib surface files = .ok registry) :
    ∃ contract, menuContract lib files = .ok contract := by
  simp only [buildPreviewBindingRegistry, bind_eq_ok_iff] at h
  obtain ⟨_, _, contract, hcontract, _⟩ := h
  exact ⟨contract, hcontract⟩

theorem of_wrapped {α : Type} {reasonCode : String} {r : Except Fault α} {a : α}
    (h : wrapped reasonCode r = .ok a) : r = .ok a := by
  match r with
  | .ok b => exact h
  | .error (.own _) => cases h
  | .error (.builtin e) => cases e <;> cases h

theorem jsonObject_eq_ok {content : Option PyVal} {reasonCode : String} {v : PyVal}
    (h : jsonObject content reasonCode = .ok v) : content = some v := by
  unfold jsonObject at h
  split at h
  · rw [Except.ok.inj h]
  · cases h

/-- The products of the contract are put under their references, one after the other. -/
theorem products_menuContract {lib : Library} {files : Files} {contract : Contract}
    (h : menuContract lib files = .ok contract) :
    ∃ snapshot active made, files.snapshot = some snapshot ∧ activeOf snapshot = .ok active ∧
      List.Forall₂ (fun product webProduct => buildProduct lib snapshot product = .ok webProduct) active made ∧
      contract.products = insertAll (made.map fun w => (w.sourceRef, w)) := by
  simp only [menuContract, bind_eq_ok_iff] at h
  obtain ⟨snapshot, hsnapshot, web, hweb, bound, -, sha256, -, h⟩ := h
  obtain rfl := pure_eq_ok_iff.1 h
  obtain ⟨active, hactive, hmade⟩ := products_buildWebData (of_wrapped hweb)
  exact ⟨snapshot, active, web.products, jsonObject_eq_ok hsnapshot, hactive, hmade, rfl⟩

/-- The products made of the same ones are the same. -/
theorem made_unique {lib : Library} {snapshot : PyVal} {active : List PyVal} {made made' : List WebProduct}
    (h : List.Forall₂ (fun product webProduct => buildProduct lib snapshot product = .ok webProduct) active made)
    (h' : List.Forall₂ (fun product webProduct => buildProduct lib snapshot product = .ok webProduct) active made') :
    made = made' :=
  List.right_unique_forall₂' (fun _ _ _ hb hc => Except.ok.inj (hb.symm.trans hc)) h h'

/-- Whenever a surface gets its bindings, the products of the contract are those of the snapshot, one by one,
exactly when the coordinates of these products differ in their normal form. -/
theorem products_kept_iff {upper : PyStr → PyStr} {lib : Library} {surface registry : PyVal} {files : Files}
    (h : buildPreviewBindingRegistry upper lib surface files = .ok registry) :
    ∃ snapshot contract active, files.snapshot = some snapshot ∧ menuContract lib files = .ok contract ∧
      activeOf snapshot = .ok active ∧
      (OneToOne lib snapshot active contract.products ↔ (active.map (normalCoordinate lib)).Nodup) := by
  obtain ⟨contract, hcontract⟩ := contract_of_registry h
  obtain ⟨snapshot, active, made, hsnapshot, hactive, hmade, hproducts⟩ := products_menuContract hcontract
  refine ⟨snapshot, contract, active, hsnapshot, hcontract, hactive, ?_⟩
  have hcoordinates : (made.map WebProduct.sourceRef).Nodup ↔ (active.map (normalCoordinate lib)).Nodup :=
    (nodup_map_iff hmade fun _ _ _ _ hb hc => (sourceRef_eq_iff hb hc).symm).symm
  have hkeys : (made.map fun w => (w.sourceRef, w)).map Prod.fst = made.map WebProduct.sourceRef := by
    rw [List.map_map]
    rfl
  have hvalues : (made.map fun w => (w.sourceRef, w)).map Prod.snd = made := by
    rw [List.map_map]
    exact List.map_id _
  rw [← hcoordinates, ← hkeys, ← oneToOne_insertAll_iff, hvalues, List.forall_mem_map, ← hproducts]
  constructor
  · rintro ⟨made', hmade', hkept⟩
    rw [made_unique hmade hmade']
    exact hkept
  · intro hkept
    exact ⟨made, hmade, hkept⟩

/-! ### Bindings are ASCII -/

theorem ascii_of_isHex64 {s : PyStr} (h : Sha256.isHex64 s = true) : (s.all fun c => c < 128) = true := by
  simp only [Sha256.isHex64, Bool.and_eq_true, List.all_eq_true, Bool.or_eq_true, decide_eq_true_eq] at h ⊢
  intro c hc
  have := h.2 c hc
  omega

theorem isHex64_canonicalSha256 {nfc : Normal} {v : PyVal} {s : PyStr}
    (h : CoreEncoding.canonicalSha256 nfc v = .ok s) : Sha256.isHex64 s = true := by
  rw [CoreEncoding.canonicalSha256] at h
  split_ifs at h
  · obtain ⟨_, _, h⟩ := bind_eq_ok_iff.1 h
    obtain ⟨bytes, _, h⟩ := bind_eq_ok_iff.1 h
    obtain rfl := pure_eq_ok_iff.1 h
    exact Sha256.isHex64_hexdigest bytes
  · cases h

/-- The references of a surface are ASCII. -/
theorem ascii_of_buildSurfaceBindingRef {nfc : Normal} {surface entityType sourceRef : PyVal} {s : PyStr}
    (h : CoreEncoding.buildSurfaceBindingRef nfc surface entityType sourceRef = .ok s) :
    (s.all fun c => c < 128) = true := by
  rw [CoreEncoding.buildSurfaceBindingRef] at h
  split at h
  · cases h
  · rename_i name hname
    split at h
    · cases h
    · rename_i type htype
      obtain ⟨_, _, h⟩ := bind_eq_ok_iff.1 h
      split_ifs at h
      · cases h
      · obtain ⟨digest, hdigest, h⟩ := bind_eq_ok_iff.1 h
        obtain rfl := pure_eq_ok_iff.1 h
        have hfront : ∀ name ∈ CoreEncoding.supportedSurfaces, ∀ type ∈ CoreEncoding.supportedEntityTypes,
            ((CoreEncoding.surfacePrefix name type ++ cp ":v1:sha256:").all fun c => c < 128) = true := by
          decide +kernel
        rw [List.all_append, Bool.and_eq_true]
        exact ⟨hfront name (List.mem_of_find?_eq_some hname) type (List.mem_of_find?_eq_some htype),
          ascii_of_isHex64 (isHex64_canonicalSha256 hdigest)⟩

/-- A dictionary is ASCII when its keys and its values are. -/
theorem isAscii_obj {l : List (String × PyVal)}
    (hkeys : ContentHash.isAscii (obj (l.map fun p => (p.1, .none))) = true)
    (hvalues : ∀ p ∈ l, ContentHash.isAscii p.2 = true) : ContentHash.isAscii (obj l) = true := by
  obtain ⟨hsorted, hitems⟩ := Bool.and_eq_true_iff.1 hkeys
  refine Bool.and_eq_true_iff.2 ⟨?_, ContentHash.isAsciiItems_iff.2 fun p hp => ?_⟩
  · rw [decide_eq_true_eq, Sorted, fields, List.map_map] at hsorted ⊢
    rw [List.map_map] at hsorted
    exact hsorted
  · obtain ⟨q, hq, rfl⟩ := List.mem_map.1 hp
    obtain ⟨k, hk, hascii, -⟩ := ContentHash.isAsciiItems_iff.1 hitems (key q.1, .none)
      (List.mem_map.2 ⟨(q.1, .none), List.mem_map.2 ⟨q, hq, rfl⟩, rfl⟩)
    exact ⟨k, hk, hascii, hvalues q hq⟩

/-! ### Two products with one SKU -/

/-- A library for texts in normal form. -/
def sampleLibrary : Library := ⟨id, fun _ => [], fun _ => .ok [], fun _ _ => .none⟩

/-- A tea; its number is the first argument. -/
def sampleProduct (id : String) : PyVal := obj [
  ("base_price", .int 60), ("category", lit "茶"), ("name", lit "T"), ("option_group_ids", .list []),
  ("product_code", .none), ("product_id", lit id), ("sku", lit "S1")]

def sampleSha256 : PyStr := List.replicate 64 48

/-- A menu of teas. -/
def sampleSnapshot (ids : List String) : PyVal := obj [
  ("authority_state", lit "OBSERVED"),
  ("counts", obj [("option_groups", .int 0), ("option_items", .int 0), ("products", .int ids.length),
    ("raw_option_rows", .int 0), ("source_warnings", .int 0)]),
  ("menu", obj [("menu_id", lit "M1"), ("name", lit "M")]),
  ("option_groups", .list []),
  ("products", .list (ids.map sampleProduct)),
  ("source", obj [("modified_at", lit "T0"), ("sha256", .str sampleSha256)])]

def sampleFiles (ids : List String) : Files :=
  ⟨some (sampleSnapshot ids), .ok sampleSha256, .ok sampleSha256, .ok sampleSha256⟩

/-- The reference of the products of the sample. -/
def sampleRef : PyStr := cp "QUICKCLICK:M1:S1"

/-- What is made of a product of the sample. -/
def sampleMade (id : String) : WebProduct :=
  ⟨cp "S1", lit id, .none, sampleRef, lit "T", cp "tea-other", lit "茶", .int 60, .list []⟩

def sampleSource (n : ℕ) : WebSource :=
  ⟨lit "M1", lit "M", .str sampleSha256, lit "T0", lit "OBSERVED", .int n, n, .int 0, .int 0, .int 0, .int 0,
    .int 0⟩

/-- A tea has a reference and a known category. -/
theorem tea_sample : sourceProductRef sampleLibrary (lit "M1") (lit "S1") = .ok sampleRef ∧
    majorOf (lit "茶") = .ok (cp "tea-other") ∧ (lit "S1").truthy = true ∧ isExcluded (lit "茶") = false ∧
    isKnown (lit "茶") = true := by
  decide +kernel

theorem buildProduct_sample (ids : List String) (id : String) :
    buildProduct sampleLibrary (sampleSnapshot ids) (sampleProduct id) = .ok (sampleMade id) := by
  obtain ⟨hsourceRef, hmajor, htruthy, -⟩ := tea_sample
  simp [buildProduct, sampleProduct, sampleSnapshot, coordinateOf, menuIdOf, at_obj, htruthy, hsourceRef,
    hmajor]
  rfl

theorem category_sample (id : String) :
    ((sampleProduct id).at "category" : Except Fault PyVal) = .ok (lit "茶") := by
  simp [sampleProduct, at_obj]

theorem activeProducts_sample (ids : List String) :
    activeProducts (ids.map sampleProduct) = .ok (ids.map sampleProduct) := by
  have hincluded : isExcluded (lit "茶") = false := tea_sample.2.2.2.1
  induction ids with
  | nil => rfl
  | cons id ids ih =>
      rw [List.map_cons, activeProducts, category_sample, ok_bind, if_pos (by rfl), ih, ok_bind, hincluded]
      rfl

theorem checkCategories_sample (ids : List String) : checkCategories (ids.map sampleProduct) = .ok () := by
  have hknown : isKnown (lit "茶") = true := tea_sample.2.2.2.2
  have hall : (ids.map sampleProduct).mapM (fun product => (product.at "category" : Except Fault PyVal)) =
      .ok ((ids.map sampleProduct).map fun _ => lit "茶") := by
    refine mapM_eq_ok fun product hproduct => ?_
    obtain ⟨id, -, rfl⟩ := List.mem_map.1 hproduct
    exact category_sample id
  have hhashable : ((ids.map sampleProduct).map fun _ => lit "茶").all isHashable = true := by
    rw [List.all_map, List.all_eq_true]
    exact fun _ _ => rfl
  have hcategories : ((ids.map sampleProduct).map fun _ => lit "茶").all isKnown = true := by
    rw [List.all_map, List.all_eq_true]
    exact fun _ _ => hknown
  rw [checkCategories, hall, ok_bind, if_pos hhashable, if_pos hcategories]
  rfl

theorem buildWebData_sample (ids : List String) : buildWebData sampleLibrary (sampleSnapshot ids) =
    .ok ⟨sampleSource ids.length, buildRefs sampleLibrary (sampleSource ids.length) (ids.map sampleMade),
      ids.map sampleMade, []⟩ := by
  have hmade : (ids.map sampleProduct).mapM (buildProduct sampleLibrary (sampleSnapshot ids)) =
      .ok (ids.map sampleMade) := by
    rw [List.mapM_map]
    exact mapM_eq_ok fun id _ => buildProduct_sample ids id
  have hrows : ((sampleSnapshot ids).at "products" : Except Fault PyVal) = .ok (.list (ids.map sampleProduct)) := by
    simp [sampleSnapshot, at_obj]
  have hgroups : ((sampleSnapshot ids).at "option_groups" : Except Fault PyVal) = .ok (.list []) := by
    simp [sampleSnapshot, at_obj]
  have hsource : buildSource sampleLibrary (sampleSnapshot ids) (ids.map sampleMade).length =
      .ok (sampleSource ids.length) := by
    simp [buildSource, sampleSnapshot, at_obj, minus]
    rfl
  rw [buildWebData, hrows, ok_bind, elementsOf, ok_bind, checkCategories_sample, ok_bind, hgroups, ok_bind,
    elementsOf, ok_bind, List.mapM_nil]
  change (activeProducts _ >>= _) = _
  rw [activeProducts_sample, ok_bind, hmade, ok_bind, hsource]
  rfl


/-- The contract of the sample. -/
def sampleContract (ids : List String) : Contract :=
  ⟨sampleSnapshot ids, sampleSha256, ⟨sampleSource ids.length,
    buildRefs sampleLibrary (sampleSource ids.length) (ids.map sampleMade), ids.map sampleMade, []⟩,
    insertAll ((ids.map sampleMade).map fun product => (product.sourceRef, product)), [], []⟩

theorem menuContract_sample (ids : List String) :
    menuContract sampleLibrary (sampleFiles ids) = .ok (sampleContract ids) := by
  have hjson : jsonObject (sampleFiles ids).snapshot "CAFE_POS_MENU_SNAPSHOT_INVALID" = .ok (sampleSnapshot ids) :=
    rfl
  rw [menuContract, hjson, ok_bind, buildWebData_sample]
  rfl

theorem encodingRegistrySha256_sample :
    (CoreEncoding.encodingRegistrySha256 sampleLibrary.nfc).toBool = true := by
  simp only [CoreEncoding.encodingRegistrySha256, CoreEncoding.encodingRegistry, CoreEncoding.formatOf,
    CoreEncoding.fieldDimensions, List.map, obj, fields, key, lit, cp_eq_codes]
  decide +kernel

/-- The sample has its bindings, where its products have one reference. -/
theorem exists_registry_sample {ids : List String} (h : (sampleContract ids).products.map Prod.fst = [sampleRef]) :
    ∃ registry, buildPreviewBindingRegistry id sampleLibrary (lit "ADI_AI") (sampleFiles ids) = .ok registry := by
  obtain ⟨surfaceRef, hsurface⟩ : ∃ surfaceRef, CoreEncoding.buildSurfaceBindingRef sampleLibrary.nfc
      (lit "ADI_AI") (lit "PRODUCT") (.str sampleRef) = .ok surfaceRef :=
    exists_ok_of_toBool (by decide +kernel)
  obtain ⟨sha256, hsha256⟩ := exists_ok_of_toBool encodingRegistrySha256_sample
  have hascii := ascii_of_buildSurfaceBindingRef hsurface
  have hascii' := ascii_of_isHex64 (isHex64_canonicalSha256 hsha256)
  have hnone (entityType : String) : bindings sampleLibrary "ADI_AI" entityType [] = .ok (.list []) := by
    rw [bindings, List.mergeSort_nil]
    rfl
  have hproducts : bindings sampleLibrary "ADI_AI" "PRODUCT" ((sampleContract ids).products.map Prod.fst) =
      .ok (.list [obj [("source_ref", .str sampleRef), ("surface_ref", .str surfaceRef)]]) := by
    rw [h, bindings, List.mergeSort_singleton, List.mapM_cons, List.mapM_nil, hsurface]
    rfl
  have hname : surfaceOf id sampleLibrary (lit "ADI_AI") = .ok "ADI_AI" := by decide +kernel
  refine exists_bind hname (exists_bind (menuContract_sample ids) (exists_bind hsha256 (exists_bind rfl
    (exists_bind rfl (exists_bind hproducts (exists_bind (hnone _) (exists_bind (hnone _)
    (exists_bind_pure_iff.2 ((ContentHash.canonicalSha256_ascii (fun _ _ => rfl) ?_).imp fun _ h => h.1)))))))))
  refine isAscii_obj (by simp only [List.map]; decide +kernel) ?_
  simp only [List.forall_mem_cons]
  refine ⟨rfl, by decide +kernel, isAscii_obj (by simp only [List.map]; decide +kernel) ?_, rfl, ?_, rfl,
    by decide +kernel, rfl, by decide +kernel, by decide +kernel, ?_, by decide +kernel, by decide +kernel, by simp⟩
  · simp only [List.forall_mem_cons]
    exact ⟨hascii', by decide +kernel, by simp⟩
  · refine ContentHash.isAsciiList_iff.2 (List.forall_mem_cons.2 ⟨?_, by simp⟩)
    refine isAscii_obj (by simp only [List.map]; decide +kernel) ?_
    simp only [List.forall_mem_cons]
    exact ⟨by decide +kernel, hascii, by simp⟩
  · change ContentHash.isAscii (obj [("authority_state", lit "OBSERVED"), ("menu_id", lit "M1"),
      ("snapshot_file_sha256", .str sampleSha256), ("source_export_sha256", .str sampleSha256)]) = true
    decide +kernel


theorem products_kept_sample : ∃ registry snapshot contract active,
    buildPreviewBindingRegistry id sampleLibrary (lit "ADI_AI") (sampleFiles ["1"]) = .ok registry ∧
      (sampleFiles ["1"]).snapshot = some snapshot ∧ menuContract sampleLibrary (sampleFiles ["1"]) = .ok contract ∧
      activeOf snapshot = .ok active ∧
      (OneToOne sampleLibrary snapshot active contract.products ↔
        (active.map (normalCoordinate sampleLibrary)).Nodup) := by
  obtain ⟨registry, h⟩ := @exists_registry_sample ["1"] rfl
  obtain ⟨snapshot, contract, active, hkept⟩ := products_kept_iff h
  exact ⟨registry, snapshot, contract, active, h, hkept⟩

/-- Two teas with one SKU: the surface gets its bindings, and one of the teas is lost. -/
theorem not_oneToOne_sample : ∃ registry snapshot contract active,
    buildPreviewBindingRegistry id sampleLibrary (lit "ADI_AI") (sampleFiles ["1", "2"]) = .ok registry ∧
      (sampleFiles ["1", "2"]).snapshot = some snapshot ∧
      menuContract sampleLibrary (sampleFiles ["1", "2"]) = .ok contract ∧ activeOf snapshot = .ok active ∧
      ¬OneToOne sampleLibrary snapshot active contract.products := by
  obtain ⟨registry, h⟩ := @exists_registry_sample ["1", "2"] rfl
  have hactive : activeOf (sampleSnapshot ["1", "2"]) = .ok (["1", "2"].map sampleProduct) := by
    have hrows : ((sampleSnapshot ["1", "2"]).at "products" : Except Fault PyVal) =
        .ok (.list (["1", "2"].map sampleProduct)) := by simp [sampleSnapshot, at_obj]
    rw [activeOf, hrows]
    exact activeProducts_sample _
  refine ⟨registry, _, _, _, h, rfl, menuContract_sample _, hactive, ?_⟩
  rintro ⟨made, hmade, hperm, -⟩
  have hlength := hperm.length_eq
  rw [← hmade.length_eq] at hlength
  cases hlength

end CafePosInterop
