/-
**Menu changes in batches.**

`menu_batch_governance.py`: one operation is previewed on up to a hundred menu items at once, and what a change
has set can be set back, as long as nobody has changed the item since.  Every value goes through `_menu_values`,
more than once, so what is accepted must be left as it is the next time.

Main definitions:

* `MenuBatch.buildBatchPreview` — the rows of a preview, before and after;
* `MenuBatch.buildReversalValues` — the values that set a change back;
* `MenuBatch.Settled` — items that `_menu_values` accepts as they are.

Main results:

* `MenuBatch.settled_of_menuValues`, `MenuBatch.menuValues_settled` — what is accepted once is settled, and left as
  it is from then on;
* `MenuBatch.reversible` — every change of a batch can be set back, and from no other state.
-/

import Mathlib.Data.List.Dedup
import Wuchang.MenuGovernance
import Wuchang.PyEq

set_option relaxedAutoImplicit false
set_option autoImplicit false

namespace MenuBatch

open Py MenuGovernance

variable (lib : Library)

/-! ### Previews -/

/-- `{**items, **changes}` -/
def merged (items changes : Items) : Items :=
  changes.foldl (fun d p => match p.1 with
    | .str k => setKey k p.2 d
    | .other => d ++ [p]) items

/-- `_menu_values`, for the items of the dictionary. -/
def valuesOf (value : PyVal) (fieldName : String) : Except Fault Items := do
  let values ← menuValues lib value fieldName
  match values with
  | .dict items => pure items
  | _ => .error (.builtin .typeError)

/-- What an operation sets. -/
def proposedValues (operation value : PyVal) : Except Fault Items :=
  if pyEq operation (lit "set_price") then valuesOf lib (obj [("list_price", value)]) "BATCH"
  else if pyEq operation (lit "set_categories") then valuesOf lib (obj [("pos_category_ids", value)]) "BATCH"
  else if pyEq operation (lit "pause") then .ok (fields [("available_in_pos", .bool false)])
  else if pyEq operation (lit "archive") then
    .ok (fields [("active", .bool false), ("available_in_pos", .bool false)])
  else if pyEq operation (lit "reactivate") then
    .ok (fields [("active", .bool true), ("available_in_pos", .bool true)])
  else governanceError ["BATCH_OPERATION_INVALID"]

/-- What differs between two states, of what was proposed. -/
def diffOf (proposed before after : Items) : Items :=
  proposed.filterMap fun p => match p.1 with
    | .str k =>
        let old := (getItem before k).getD .none
        let new := (getItem after k).getD .none
        if pyEq old new then none else some (.str k, obj [("after", new), ("before", old)])
    | .other => none

/-- A row of a preview. -/
structure Row where
  before : Items
  after : Items
  diff : Items

/-- The dictionary of a row. -/
def Row.toVal (row : Row) : PyVal :=
  obj [("after", .dict row.after), ("before", .dict row.before), ("diff", .dict row.diff)]

/-- The row of an item. -/
def rowOf (proposed before : Items) : Row :=
  ⟨before, merged before proposed, diffOf proposed before (merged before proposed)⟩

/-- The loop over the snapshots; the codes that have been seen are kept. -/
def previewRows (proposed : Items) (seen : List PyVal) : List PyVal → Except Fault (List Row)
  | [] => .ok []
  | snapshot :: snapshots => do
      let before ← valuesOf lib snapshot "BEFORE"
      let code := (PyVal.dict before).get "thing_code"
      if ¬code.truthy then governanceError ["BATCH_IDENTITY_MISSING_OR_DUPLICATE"]
      else if ¬isHashable code then .error (.builtin .typeError)
      else if seen.any (pyEq code) then governanceError ["BATCH_IDENTITY_MISSING_OR_DUPLICATE"]
      else do
        let rows ← previewRows proposed (code :: seen) snapshots
        pure (rowOf proposed before :: rows)

/-- A preview. -/
structure Preview where
  operation : PyVal
  rows : List Row
  changedCount : ℕ
  sha256 : PyStr

/-- The dictionary that is hashed. -/
def previewVal (operation : PyVal) (rows : List Row) : PyVal := obj [
  ("changed_count", .int (rows.countP fun row => row.diff ≠ [])), ("operation", operation),
  ("product_write", .bool false), ("rows", .list (rows.map Row.toVal)),
  ("schema", lit "wuchang-menu-batch-preview/1.0")]

/-- `build_batch_preview` -/
def buildBatchPreview (snapshots operation value : PyVal) : Except Fault Preview :=
  match snapshots with
  | .list snapshots =>
      if ¬(1 ≤ snapshots.length ∧ snapshots.length ≤ 100) then governanceError ["BATCH_SIZE_INVALID"]
      else do
        let proposed ← proposedValues lib operation value
        let _ ← stableSha256 lib (.dict proposed)
        let rows ← previewRows lib proposed [] snapshots
        let sha256 ← stableSha256 lib (previewVal operation rows)
        pure ⟨operation, rows, rows.countP fun row => row.diff ≠ [], sha256⟩
  | _ => governanceError ["BATCH_SIZE_INVALID"]

/-- `{key: before[key] for key in proposed}` -/
def restored (before proposed : Items) : Items :=
  proposed.filterMap fun p => match p.1 with
    | .str k => (getItem before k).map fun v => (.str k, v)
    | .other => none

/-- `build_reversal_values` -/
def buildReversalValues (before proposed current : PyVal) : Except Fault Items := do
  let before ← valuesOf lib before "BEFORE"
  let proposed ← valuesOf lib proposed "PROPOSED"
  let current ← valuesOf lib current "CURRENT"
  if ¬pyEq (.dict current) (.dict (merged before proposed)) then governanceError ["REVERSAL_BASE_CHANGED"]
  else if (getItem proposed (cp "image_sha256")).isSome then
    governanceError ["REVERSAL_IMAGE_PREIMAGE_UNAVAILABLE"]
  else if proposed = [] ∨ ¬proposed.all (fun p => before.any fun q => q.1 = p.1) then
    governanceError ["REVERSAL_PREIMAGE_INCOMPLETE"]
  else pure (restored before proposed)

/-! ### Merged items -/

/-- Items in their order, with texts as keys. -/
structure Proper (items : Items) : Prop where
  sorted : Sorted items
  keys : ∀ p ∈ items, ∃ k, p.1 = .str k

variable {lib}

section Proper

variable {items changes : Items} {k : PyStr} {v : PyVal}

theorem proper_nil : Proper [] := ⟨List.Pairwise.nil, by simp⟩

theorem Proper.setKey (h : Proper items) : Proper (setKey k v items) := by
  refine ⟨sorted_setKey k v h.sorted h.keys, fun p hp => ?_⟩
  rcases mem_setKey hp with rfl | hp
  · exact ⟨k, rfl⟩
  · exact h.keys p hp

/-- Such items are given by the values of their keys. -/
theorem Proper.ext (h : Proper items) (h' : Proper changes) (hget : ∀ k, getItem items k = getItem changes k) :
    items = changes := by
  have hother : ∀ {xs : Items}, Proper xs → ∀ p ∈ xs, p.1 ≠ .other := by
    intro xs hxs p hp heq
    obtain ⟨k, hk⟩ := hxs.keys p hp
    rw [hk] at heq
    cases heq
  exact eq_of_getItem h.sorted h'.sorted (hother h) (hother h') hget

/-- A key that is set to what it is changes nothing. -/
theorem Proper.setKey_eq (h : Proper items) (hget : getItem items k = some v) : Py.setKey k v items = items := by
  refine h.setKey.ext h fun l => ?_
  rw [getItem_setKey]
  split_ifs with hl
  · rw [hl, hget]
  · rfl

theorem Proper.tail {p : PyKey × PyVal} (h : Proper (p :: items)) : Proper items :=
  ⟨(sorted_cons.1 h.sorted).2, fun q hq => h.keys q (List.mem_cons_of_mem _ hq)⟩

theorem Proper.merged (h : Proper items) (h' : Proper changes) : Proper (merged items changes) := by
  induction changes generalizing items with
  | nil => exact h
  | cons p changes ih =>
      obtain ⟨k, v⟩ := p
      obtain ⟨k, rfl⟩ := h'.keys _ List.mem_cons_self
      exact ih h.setKey h'.tail

/-- A key that is changed has the new value, another one the old. -/
theorem getItem_merged (h : Proper changes) (items : Items) (k : PyStr) :
    getItem (MenuBatch.merged items changes) k = (getItem changes k).or (getItem items k) := by
  induction changes generalizing items with
  | nil => rfl
  | cons p changes ih =>
      obtain ⟨l, v⟩ := p
      obtain ⟨l, rfl⟩ := h.keys _ List.mem_cons_self
      have hnone := getItem_of_sorted_cons h.sorted
      change getItem (MenuBatch.merged (Py.setKey l v items) changes) k = _
      rw [ih h.tail, getItem_setKey, getItem]
      by_cases hk : k = l
      · rw [hk, hnone, if_pos rfl, if_pos rfl]
        rfl
      · rw [if_neg hk, if_neg fun heq => hk (PyKey.str.inj heq).symm]

theorem restored_cons (before : Items) (k : PyStr) (v : PyVal) (proposed : Items) :
    restored before ((.str k, v) :: proposed) =
      ((getItem before k).map fun w => (.str k, w)).toList ++ restored before proposed := by
  cases h : getItem before k <;> simp [restored, h]

theorem mem_restored {before proposed : Items} {p : PyKey × PyVal} (h : p ∈ restored before proposed) :
    ∃ q ∈ proposed, q.1 = p.1 := by
  obtain ⟨q, hq, hqp⟩ := List.mem_filterMap.1 h
  refine ⟨q, hq, ?_⟩
  split at hqp
  · next heq =>
      obtain ⟨w, -, rfl⟩ := Option.map_eq_some_iff.1 hqp
      exact heq
  · cases hqp

/-- What is set back has the keys that were proposed, with the values they had. -/
theorem proper_restored (before : Items) {proposed : Items} (h : Proper proposed) :
    Proper (restored before proposed) ∧
      ∀ k, getItem (restored before proposed) k = (getItem proposed k).bind fun _ => getItem before k := by
  induction proposed with
  | nil => exact ⟨proper_nil, fun k => rfl⟩
  | cons p proposed ih =>
      obtain ⟨l, v⟩ := p
      obtain ⟨l, rfl⟩ := h.keys _ List.mem_cons_self
      obtain ⟨hproper, hget⟩ := ih h.tail
      rw [restored_cons]
      cases hl : getItem before l with
      | none =>
          refine ⟨hproper, fun k => ?_⟩
          rw [Option.map_none, Option.toList_none, List.nil_append, hget, getItem]
          split_ifs with hk
          · rw [← PyKey.str.inj hk, getItem_of_sorted_cons h.sorted, hl]
            rfl
          · rfl
      | some w =>
          rw [Option.map_some, Option.toList_some, List.singleton_append]
          refine ⟨⟨sorted_cons.2 ⟨fun q hq => ?_, hproper.sorted⟩, List.forall_mem_cons.2 ⟨⟨l, rfl⟩, hproper.keys⟩⟩,
            fun k => ?_⟩
          · obtain ⟨r, hr, hkey⟩ := mem_restored hq
            exact hkey ▸ (sorted_cons.1 h.sorted).1 r hr
          · rw [getItem, getItem, hget]
            split_ifs with hk
            · rw [← PyKey.str.inj hk, hl]
              rfl
            · rfl

/-- What was changed is set back. -/
theorem merged_restored {before proposed : Items} (hbefore : Proper before) (hproposed : Proper proposed)
    (hkeys : ∀ k v, getItem proposed k = some v → ∃ w, getItem before k = some w) :
    MenuBatch.merged (MenuBatch.merged before proposed) (restored before proposed) = before := by
  obtain ⟨hproper, hget⟩ := proper_restored before hproposed
  refine ((hbefore.merged hproposed).merged hproper).ext hbefore fun k => ?_
  rw [getItem_merged hproper, hget, getItem_merged hproposed]
  cases hk : getItem proposed k with
  | none => rfl
  | some v =>
      obtain ⟨w, hw⟩ := hkeys k v hk
      rw [hw]
      rfl

end Proper

/-! ### Normal values -/

variable (lib) in
/-- What is documented of the form NFC, and of the texts of lists and dictionaries. -/
structure Lawful : Prop where
  nfc_nfc : ∀ s, lib.nfc (lib.nfc s) = lib.nfc s
  /-- The form NFC is closed under taking a piece of a text. -/
  nfc_infix : ∀ s t, t <:+: s → lib.nfc s = s → lib.nfc t = t
  nfc_ascii : ∀ s, (∀ c ∈ s, c < 128) → lib.nfc s = s
  /-- `str([…])` begins with a bracket. -/
  text_list : ∀ xs, (lib.text (.list xs)).head? = some 91
  /-- `str({…})` begins with a brace. -/
  text_dict : ∀ items, (lib.text (.dict items)).head? = some 123

theorem nfc_key (hlib : Lawful lib) {k : String} (h : k ∈ menuValueKeys) : lib.nfc (cp k) = cp k := by
  refine hlib.nfc_ascii _ ?_
  have hall : ∀ k ∈ menuValueKeys, ∀ c ∈ cp k, c < 128 := by decide +kernel
  exact hall k h

/-- The items of a dictionary whose keys are in their normal form and order. -/
theorem normalizeItems_sorted {done items : Items} (hsorted : Sorted (done ++ items))
    (hkeys : ∀ p ∈ items, ∃ k, p.1 = .str k ∧ lib.nfc k = k) :
    normalizeItems lib done items = done ++ items.map fun p => (p.1, normalize lib p.2) := by
  induction items generalizing done with
  | nil => rw [normalizeItems, List.map_nil, List.append_nil]
  | cons p items ih =>
      obtain ⟨k, v⟩ := p
      obtain ⟨⟨k, rfl, hk⟩, hrest⟩ := List.forall_mem_cons.1 hkeys
      have hbefore : ∀ q ∈ done, q.1.lt (.str k) := by
        intro q hq
        rw [Sorted, List.map_append, List.pairwise_append] at hsorted
        exact hsorted.2.2 q.1 (List.mem_map_of_mem hq) _ (by simp)
      have hsorted' : Sorted ((done ++ [(.str k, normalize lib v)]) ++ items) := by
        rw [Sorted, List.map_append, List.map_append, List.append_assoc]
        rw [Sorted, List.map_append] at hsorted
        exact hsorted
      rw [normalizeItems, hk, setKey_of_lt hbefore, ih hsorted' hrest, List.append_assoc]
      rfl

/-- The values of a dictionary are brought into their normal form. -/
theorem proper_normalizeItems {done items : Items} (hdone : Proper done)
    (hkeys : ∀ p ∈ items, ∃ k, p.1 = .str k ∧ lib.nfc k = k) :
    Proper (normalizeItems lib done items) ∧ ∀ p ∈ normalizeItems lib done items,
      p ∈ done ∨ ∃ q ∈ items, p = (q.1, normalize lib q.2) := by
  induction items generalizing done with
  | nil => exact ⟨hdone, fun p hp => .inl hp⟩
  | cons q items ih =>
      obtain ⟨⟨k, hkey, hk⟩, hrest⟩ := List.forall_mem_cons.1 hkeys
      obtain ⟨l, v⟩ := q
      obtain rfl := hkey
      rw [normalizeItems, hk]
      obtain ⟨hproper, hmem⟩ := ih hdone.setKey hrest
      refine ⟨hproper, fun p hp => ?_⟩
      rcases hmem p hp with hp | ⟨q, hq, rfl⟩
      · rcases mem_setKey hp with rfl | hp
        · exact .inr ⟨_, List.mem_cons_self, rfl⟩
        · exact .inl hp
      · exact .inr ⟨q, List.mem_cons_of_mem _ hq, rfl⟩

/-! ### The checks of a value -/

variable (lib) in
/-- The check of a value, by its key. -/
def checkOf (fieldName k : String) : PyVal → Except Fault PyVal :=
  if k = "thing_code" then
    refuseIf (fun v => !isThingCode (lib.str (orEmpty v))) [fieldName, "_THING_CODE_INVALID"]
  else if k = "name" then checkName lib fieldName
  else if k = "list_price" then refuseIf badPrice [fieldName, "_PRICE_INVALID"]
  else if k = "pos_category_ids" then checkCategories fieldName
  else if k = "option_group_id" then
    refuseIf (fun v => !isNoneOrFalse v && !isPositiveId v) [fieldName, "_OPTION_GROUP_ID_INVALID"]
  else if k = "image_sha256" then
    refuseIf (fun v => !isNoneOrFalse v && !Sha256.isHex64 (lib.str v)) [fieldName, "_IMAGE_SHA256_INVALID"]
  else if k = "available_in_pos" then refuseIf (fun v => !isBool v) [fieldName, "_AVAILABLE_IN_POS_INVALID"]
  else refuseIf (fun v => !isBool v) [fieldName, "_ACTIVE_INVALID"]

variable (lib) in
/-- The checks, one key after the other. -/
def runChecks (fieldName : String) (ks : List String) (items : Items) : Except Fault Items :=
  ks.foldlM (fun items k => checkKey k (checkOf lib fieldName k) items) items

/-- `_menu_values` brings the values into their normal form and checks them. -/
theorem menuValues_dict (items : Items) (fieldName : String) : menuValues lib (.dict items) fieldName =
    if ¬items.all (fun p => menuValueKeys.any fun k => p.1 = key k) then
      governanceError [fieldName, "_FIELD_NOT_ALLOWED"]
    else runChecks lib fieldName menuValueKeys (normalizeItems lib [] items) >>= fun items =>
      pure (.dict items) := by
  rw [menuValues]
  refine ite_congr rfl (fun _ => rfl) fun _ => ?_
  simp only [runChecks, menuValueKeys, List.foldlM_cons, List.foldlM_nil, checkOf, String.reduceEq, if_true,
    if_false, bind_assoc, pure_bind]

theorem checkKey_eq_ok_iff {k : String} {check : PyVal → Except Fault PyVal} {items items' : Items} :
    checkKey k check items = .ok items' ↔ (getItem items (cp k) = none ∧ items' = items) ∨
      ∃ v w, getItem items (cp k) = some v ∧ check v = .ok w ∧ items' = setKey (cp k) w items := by
  rw [checkKey]
  cases getItem items (cp k) with
  | none => simp [eq_comm]
  | some v =>
      refine bind_eq_ok_iff.trans ⟨?_, ?_⟩
      · rintro ⟨w, hw, h⟩
        exact .inr ⟨v, w, rfl, hw, (pure_eq_ok_iff.1 h).symm⟩
      · rintro (⟨hnone, _⟩ | ⟨u, w, hu, hw, rfl⟩)
        · cases hnone
        · obtain rfl := Option.some.inj hu
          exact ⟨w, hw, rfl⟩

/-- What is left of the checks: every value is what its check returned, and nothing else has changed. -/
theorem of_runChecks {fieldName : String} {ks : List String} {items items' : Items} (hnodup : ks.Nodup)
    (hproper : Proper items) (h : runChecks lib fieldName ks items = .ok items') :
    Proper items' ∧ (∀ k, (∀ name ∈ ks, cp name ≠ k) → getItem items' k = getItem items k) ∧
      ∀ name ∈ ks, ∀ w, getItem items' (cp name) = some w →
        ∃ v, getItem items (cp name) = some v ∧ checkOf lib fieldName name v = .ok w := by
  induction ks generalizing items with
  | nil =>
      obtain rfl := pure_eq_ok_iff.1 h
      exact ⟨hproper, fun k _ => rfl, by simp⟩
  | cons name ks ih =>
      rw [runChecks, List.foldlM_cons, bind_eq_ok_iff] at h
      obtain ⟨middle, hfirst, hrest⟩ := h
      obtain ⟨hnew, hnodup⟩ := List.nodup_cons.1 hnodup
      have hstep : Proper middle ∧ (∀ k, cp name ≠ k → getItem middle k = getItem items k) ∧
          ∀ w, getItem middle (cp name) = some w →
            ∃ v, getItem items (cp name) = some v ∧ checkOf lib fieldName name v = .ok w := by
        rcases checkKey_eq_ok_iff.1 hfirst with ⟨hnone, rfl⟩ | ⟨v, w, hv, hw, rfl⟩
        · exact ⟨hproper, fun k _ => rfl, fun w hw => absurd (hnone.symm.trans hw) (by simp)⟩
        · refine ⟨hproper.setKey, fun k hk => by rw [getItem_setKey, if_neg (Ne.symm hk)], fun u hu => ?_⟩
          rw [getItem_setKey, if_pos rfl] at hu
          exact ⟨v, hv, Option.some.inj hu ▸ hw⟩
      obtain ⟨hproper', hothers, hvalue⟩ := hstep
      obtain ⟨hproper'', hothers', hvalues⟩ := ih hnodup hproper' hrest
      have hkeep : ∀ name' ∈ ks, cp name ≠ cp name' := fun name' hname' heq =>
        hnew (cp_injective heq ▸ hname')
      refine ⟨hproper'', fun k hk => ?_, List.forall_mem_cons.2 ⟨fun w hw => ?_, fun name' hname' w hw => ?_⟩⟩
      · rw [hothers' k fun name' hname' => hk name' (List.mem_cons_of_mem _ hname'),
          hothers k (hk name List.mem_cons_self)]
      · rw [hothers' _ fun name' hname' => (hkeep name' hname').symm] at hw
        exact hvalue w hw
      · obtain ⟨v, hv, hcheck⟩ := hvalues name' hname' w hw
        rw [hothers _ (hkeep name' hname')] at hv
        exact ⟨v, hv, hcheck⟩

/-- Values that their checks leave as they are stay. -/
theorem runChecks_self {fieldName : String} {ks : List String} {items : Items} (hproper : Proper items)
    (h : ∀ name ∈ ks, ∀ v, getItem items (cp name) = some v → checkOf lib fieldName name v = .ok v) :
    runChecks lib fieldName ks items = .ok items := by
  induction ks with
  | nil => rfl
  | cons name ks ih =>
      obtain ⟨hname, hrest⟩ := List.forall_mem_cons.1 h
      have hfirst : checkKey name (checkOf lib fieldName name) items = .ok items := by
        rw [checkKey_eq_ok_iff]
        cases hv : getItem items (cp name) with
        | none => exact .inl ⟨rfl, rfl⟩
        | some v => exact .inr ⟨v, v, rfl, hname v hv, (hproper.setKey_eq hv).symm⟩
      rw [runChecks, List.foldlM_cons, hfirst]
      exact ih hrest

/-! ### Settled values -/

variable (lib) in
/-- A value that is in its normal form and passes its check as it is. -/
structure SettledValue (k : String) (v : PyVal) : Prop where
  normal : normalize lib v = v
  checked : ∀ fieldName, checkOf lib fieldName k v = .ok v

theorem refuseIf_eq_ok_iff {bad : PyVal → Bool} {parts : List String} {v w : PyVal} :
    refuseIf bad parts v = .ok w ↔ bad v = false ∧ w = v := by
  rw [refuseIf]
  cases bad v <;> simp [governanceError, eq_comm]

theorem normalize_normalize_str (hlib : Lawful lib) {u : PyVal} {s : PyStr} (h : normalize lib u = .str s) :
    lib.nfc s = s := by
  cases u with
  | str t =>
      obtain rfl := PyVal.str.inj h
      exact hlib.nfc_nfc t
  | list xs => cases h
  | dict items => cases h
  | _ => cases h

/-- A value without parts is in its normal form. -/
theorem normalize_of_flat {v : PyVal} (hstr : ∀ s, v = .str s → lib.nfc s = s) (hlist : ∀ xs, v ≠ .list xs)
    (hdict : ∀ items, v ≠ .dict items) : normalize lib v = v := by
  cases v with
  | str s => rw [MenuGovernance.normalize, hstr s rfl]
  | list xs => exact absurd rfl (hlist xs)
  | dict items => exact absurd rfl (hdict items)
  | _ => rfl

section Checks

variable {fieldName : String} {u v w : PyVal}

/-- A check that leaves the value as it is settles a value without parts. -/
theorem settledValue_of_refuseIf (hlib : Lawful lib) {k suffix : String} {bad : PyVal → Bool}
    (hcheck : ∀ fieldName, checkOf lib fieldName k = refuseIf bad [fieldName, suffix])
    (hlist : ∀ xs, bad (.list xs) = true) (hdict : ∀ items, bad (.dict items) = true)
    (h : checkOf lib fieldName k (normalize lib u) = .ok w) : SettledValue lib k w := by
  rw [hcheck, refuseIf_eq_ok_iff] at h
  obtain ⟨hgood, rfl⟩ := h
  refine ⟨normalize_of_flat (fun s hs => normalize_normalize_str hlib hs) (fun xs hxs => ?_) fun items hitems => ?_,
    fun fieldName => ?_⟩
  · rw [hxs, hlist] at hgood
    cases hgood
  · rw [hitems, hdict] at hgood
    cases hgood
  · rw [hcheck, refuseIf_eq_ok_iff]
    exact ⟨hgood, rfl⟩

theorem head_of_isThingCode {s : PyStr} (h : isThingCode s = true) : s.head? = some 87 := by
  obtain ⟨t, rfl⟩ := List.isPrefixOf_iff_prefix.1 (Bool.and_eq_true_iff.1 h).1
  have hhead : (cp "W7TP_THING_REF:v1:PRODUCT:sha256:").head? = some 87 := by decide +kernel
  rw [List.head?_append, hhead]
  rfl

/-- No text of a container is a code. -/
theorem not_isThingCode (hlib : Lawful lib) (v : PyVal) (hv : (∃ xs, v = .list xs) ∨ ∃ items, v = .dict items) :
    isThingCode (lib.str (orEmpty v)) = false := by
  rw [Bool.eq_false_iff]
  intro h
  have hhead := head_of_isThingCode h
  rw [orEmpty] at hhead
  split_ifs at hhead
  · rcases hv with ⟨xs, rfl⟩ | ⟨items, rfl⟩
    · cases (hlib.text_list xs).symm.trans hhead
    · cases (hlib.text_dict items).symm.trans hhead
  · cases hhead

/-- Nor a hash. -/
theorem not_isHex64 {s : PyStr} (h : s.head? = some 91 ∨ s.head? = some 123) : Sha256.isHex64 s = false := by
  rw [Bool.eq_false_iff]
  intro hhex
  cases s with
  | nil => simp at h
  | cons c s =>
      simp only [Sha256.isHex64, List.all_cons, Bool.and_eq_true, Bool.or_eq_true, decide_eq_true_eq] at hhex
      simp only [List.head?_cons, Option.some.injEq] at h
      omega

theorem checkOf_name : checkOf lib fieldName "name" = checkName lib fieldName := by
  simp only [checkOf, String.reduceEq, if_true, if_false]

/-- A name is settled when it is in the form NFC. -/
theorem settledValue_name (h : checkOf lib fieldName "name" v = .ok w)
    (hname : ∀ s, w = .str s → lib.nfc s = s) : SettledValue lib "name" w := by
  rw [checkOf_name, checkName] at h
  split_ifs at h with hbad
  · cases h
  · obtain rfl := Except.ok.inj h
    have hsame : lib.str (orEmpty (.str (strip (lib.str (orEmpty v))))) = strip (lib.str (orEmpty v)) := by
      rw [orEmpty, PyVal.truthy, if_pos (by simpa using (not_or.1 hbad).1)]
      rfl
    refine ⟨congrArg PyVal.str (hname _ rfl), fun fieldName => ?_⟩
    rw [checkOf_name, checkName, hsame, strip_strip, if_neg hbad]

/-- Numbers that are sorted and without repetitions are read back so, and stay as they are. -/
theorem mergeSort_numbers {number : PyVal → Option ℤ} (h : ∀ n, number (.int n) = some n) (ids : List PyVal) :
    let sorted := (ids.filterMap number).dedup.mergeSort fun m n => decide (m ≤ n)
    ((sorted.map PyVal.int).filterMap number).dedup.mergeSort (fun m n => decide (m ≤ n)) = sorted := by
  intro sorted
  have hperm : sorted.Perm (ids.filterMap number).dedup := List.mergeSort_perm _ _
  have hnodup : sorted.Nodup := hperm.nodup_iff.2 (List.nodup_dedup _)
  have hpairwise : sorted.Pairwise fun m n => decide (m ≤ n) = true :=
    List.pairwise_mergeSort (fun a b c hab hbc => by simp only [decide_eq_true_eq] at *; omega)
      (fun a b => by simp only [Bool.or_eq_true, decide_eq_true_eq]; omega) _
  have hnumbers : (sorted.map PyVal.int).filterMap number = sorted := by
    rw [List.filterMap_map, show number ∘ PyVal.int = some from funext h]
    exact List.filterMap_some
  rw [hnumbers, List.dedup_eq_self.2 hnodup, List.mergeSort_of_pairwise hpairwise]

/-- Sorted identifiers without repetitions stay as they are. -/
theorem sortedIds_sortedIds (ids : List PyVal) : sortedIds (sortedIds ids) = sortedIds ids := by
  unfold sortedIds
  refine congrArg (List.map PyVal.int) (mergeSort_numbers ?_ ids)
  intro n
  rfl

theorem all_sortedIds {ids : List PyVal} (h : ids.all isPositiveId = true) :
    (sortedIds ids).all isPositiveId = true := by
  rw [List.all_eq_true] at h ⊢
  intro v hv
  obtain ⟨n, hn, rfl⟩ := List.mem_map.1 hv
  rw [List.mem_mergeSort, List.mem_dedup, List.mem_filterMap] at hn
  obtain ⟨u, hu, hun⟩ := hn
  cases u with
  | int m =>
      obtain rfl := Option.some.inj hun
      exact h _ hu
  | _ => cases hun

theorem normalizeList_sortedIds (ids : List PyVal) : normalizeList lib (sortedIds ids) = sortedIds ids := by
  rw [sortedIds]
  generalize (List.mergeSort _ _ : List ℤ) = numbers
  induction numbers with
  | nil => rfl
  | cons n numbers ih =>
      rw [List.map_cons, normalizeList, ih]
      rfl

theorem checkOf_categories : checkOf lib fieldName "pos_category_ids" = checkCategories fieldName := by
  simp only [checkOf, String.reduceEq, if_true, if_false]

/-- Categories are settled. -/
theorem settledValue_categories (h : checkOf lib fieldName "pos_category_ids" v = .ok w) :
    SettledValue lib "pos_category_ids" w := by
  rw [checkOf_categories] at h
  cases v with
  | list ids =>
      rw [checkCategories] at h
      split_ifs at h with hall
      · obtain rfl := Except.ok.inj h
        refine ⟨congrArg PyVal.list (normalizeList_sortedIds ids), fun fieldName => ?_⟩
        rw [checkOf_categories, checkCategories, if_pos (all_sortedIds hall), sortedIds_sortedIds]
      · cases h
  | _ => cases h

/-- What a check returns is settled; a name must be in the form NFC. -/
theorem settledValue_of_check (hlib : Lawful lib) {k : String} (hk : k ∈ menuValueKeys)
    (h : checkOf lib fieldName k (normalize lib u) = .ok w)
    (hname : k = "name" → ∀ s, w = .str s → lib.nfc s = s) : SettledValue lib k w := by
  have hnone : ∀ xs, pyEq (.list xs) .none = false ∧ pyEq (.list xs) (.bool false) = false := by
    intro xs
    simp [pyEq, numOf]
  have hnone' : ∀ items, pyEq (.dict items) .none = false ∧ pyEq (.dict items) (.bool false) = false := by
    intro items
    simp [pyEq, numOf]
  simp only [menuValueKeys, List.mem_cons, List.not_mem_nil, or_false] at hk
  rcases hk with rfl | rfl | rfl | rfl | rfl | rfl | rfl | rfl
  · refine settledValue_of_refuseIf hlib
      (fun fieldName => by simp only [checkOf, if_true]; rfl) (fun xs => ?_) (fun items => ?_) h
    · rw [not_isThingCode hlib _ (.inl ⟨xs, rfl⟩)]
      rfl
    · rw [not_isThingCode hlib _ (.inr ⟨items, rfl⟩)]
      rfl
  · exact settledValue_name h (hname rfl)
  · exact settledValue_of_refuseIf hlib
      (fun fieldName => by simp only [checkOf, String.reduceEq, if_true, if_false]; rfl) (fun _ => rfl) (fun _ => rfl) h
  · exact settledValue_categories h
  · refine settledValue_of_refuseIf hlib
      (fun fieldName => by simp only [checkOf, String.reduceEq, if_true, if_false]; rfl) (fun xs => ?_)
      (fun items => ?_) h
    · simp [isNoneOrFalse, hnone, isPositiveId]
    · simp [isNoneOrFalse, hnone', isPositiveId]
  · refine settledValue_of_refuseIf hlib
      (fun fieldName => by simp only [checkOf, String.reduceEq, if_true, if_false]; rfl) (fun xs => ?_)
      (fun items => ?_) h
    · simp [isNoneOrFalse, hnone, Library.str, not_isHex64 (.inl (hlib.text_list xs))]
    · simp [isNoneOrFalse, hnone', Library.str, not_isHex64 (.inr (hlib.text_dict items))]
  · exact settledValue_of_refuseIf hlib
      (fun fieldName => by simp only [checkOf, String.reduceEq, if_true, if_false]; rfl) (fun _ => rfl) (fun _ => rfl) h
  · exact settledValue_of_refuseIf hlib
      (fun fieldName => by simp only [checkOf, String.reduceEq, if_false]; rfl) (fun _ => rfl) (fun _ => rfl) h

end Checks

/-! ### Settled items -/

variable (lib) in
/-- Items that `_menu_values` accepts as they are. -/
structure Settled (items : Items) : Prop where
  proper : Proper items
  values : ∀ p ∈ items, ∃ k ∈ menuValueKeys, p.1 = key k ∧ SettledValue lib k p.2

variable (lib) in
/-- The name, if there is one, is in the form NFC. -/
def NameNormal (items : Items) : Prop := ∀ s, getItem items (cp "name") = some (.str s) → lib.nfc s = s

theorem Settled.value {items : Items} (h : Settled lib items) {k : String} {v : PyVal}
    (hv : getItem items (cp k) = some v) : SettledValue lib k v := by
  obtain ⟨name, -, hkey, hvalue⟩ := h.values _ (item_mem_of_getItem hv)
  obtain rfl : k = name := key_inj.1 hkey
  exact hvalue

theorem Settled.merged {items changes : Items} (h : Settled lib items) (h' : Settled lib changes) :
    Settled lib (merged items changes) := by
  have hproper := h.proper.merged h'.proper
  refine ⟨hproper, fun p hp => ?_⟩
  obtain ⟨l, v⟩ := p
  obtain ⟨l, rfl⟩ := hproper.keys _ hp
  have hget := getItem_of_mem hproper.sorted hp
  rw [getItem_merged h'.proper] at hget
  cases hl : getItem changes l with
  | some w =>
      rw [hl] at hget
      obtain rfl := Option.some.inj hget
      exact h'.values _ (item_mem_of_getItem hl)
  | none =>
      rw [hl] at hget
      exact h.values _ (item_mem_of_getItem hget)

/-- Settled items are in their normal form. -/
theorem Settled.normalizeItems (hlib : Lawful lib) {items : Items} (h : Settled lib items) :
    normalizeItems lib [] items = items := by
  rw [normalizeItems_sorted (by simpa using h.proper.sorted), List.nil_append]
  · refine (List.map_congr_left fun p hp => ?_).trans (List.map_id items)
    obtain ⟨k, -, -, hvalue⟩ := h.values p hp
    rw [hvalue.normal]
    rfl
  · intro p hp
    obtain ⟨k, hk, hkey, -⟩ := h.values p hp
    exact ⟨cp k, hkey, nfc_key hlib hk⟩

/-- Settled items are left as they are. -/
theorem menuValues_settled (hlib : Lawful lib) {items : Items} (h : Settled lib items) (fieldName : String) :
    menuValues lib (.dict items) fieldName = .ok (.dict items) := by
  have hallowed : items.all (fun p => menuValueKeys.any fun k => p.1 = key k) = true := by
    rw [List.all_eq_true]
    intro p hp
    obtain ⟨k, hk, hkey, -⟩ := h.values p hp
    exact List.any_eq_true.2 ⟨k, hk, by simpa using hkey⟩
  have hchecks : runChecks lib fieldName menuValueKeys items = .ok items :=
    runChecks_self h.proper fun name _ v hv => (h.value hv).checked fieldName
  rw [menuValues_dict, if_neg (by simpa using hallowed), h.normalizeItems hlib, hchecks]
  rfl

/-- The items of a dictionary. -/
def itemsOf : PyVal → Items
  | .dict items => items
  | _ => []

/-- What is accepted is a dictionary; each of its values is what the check returned for a value that was given. -/
theorem of_menuValues (hlib : Lawful lib) {v w : PyVal} {fieldName : String}
    (h : menuValues lib v fieldName = .ok w) :
    ∃ items, w = .dict items ∧ Proper items ∧ ∀ l w, getItem items l = some w → ∃ k ∈ menuValueKeys, l = cp k ∧
      ∃ q ∈ itemsOf v, q.1 = key k ∧ checkOf lib fieldName k (normalize lib q.2) = .ok w := by
  cases v with
  | none =>
      obtain rfl := Except.ok.inj h
      exact ⟨[], rfl, proper_nil, fun l w hw => by cases hw⟩
  | dict items =>
      rw [menuValues_dict] at h
      split_ifs at h with hallowed
      · obtain ⟨items', hrun, h⟩ := bind_eq_ok_iff.1 h
        obtain rfl := pure_eq_ok_iff.1 h
        have hkeys : ∀ p ∈ items, ∃ k ∈ menuValueKeys, p.1 = key k := by
          intro p hp
          obtain ⟨k, hk, hkey⟩ := List.any_eq_true.1 (List.all_eq_true.1 hallowed p hp)
          exact ⟨k, hk, of_decide_eq_true hkey⟩
        have hfixed : ∀ p ∈ items, ∃ k, p.1 = .str k ∧ lib.nfc k = k := by
          intro p hp
          obtain ⟨k, hk, hkey⟩ := hkeys p hp
          exact ⟨cp k, hkey, nfc_key hlib hk⟩
        obtain ⟨hnormal, hvalues⟩ := proper_normalizeItems proper_nil hfixed
        have hget : ∀ l v, getItem (normalizeItems lib [] items) l = some v → ∃ k ∈ menuValueKeys, l = cp k ∧
            ∃ q ∈ items, q.1 = key k ∧ v = normalize lib q.2 := by
          intro l v hv
          rcases hvalues _ (item_mem_of_getItem hv) with hmem | ⟨q, hq, heq⟩
          · cases hmem
          · obtain ⟨k, hk, hkey⟩ := hkeys q hq
            obtain ⟨hl, rfl⟩ := Prod.mk.inj heq
            exact ⟨k, hk, PyKey.str.inj (hl.trans hkey), q, hq, hkey, rfl⟩
        obtain ⟨hproper, hothers, hchecked⟩ := of_runChecks (by decide) hnormal hrun
        refine ⟨items', rfl, hproper, fun l w hw => ?_⟩
        obtain ⟨k, hk, rfl⟩ : ∃ k ∈ menuValueKeys, l = cp k := by
          by_contra hnot
          have hsame := hothers l fun name hname heq => hnot ⟨name, hname, heq.symm⟩
          obtain ⟨k, hk, hl, -⟩ := hget l w (hsame ▸ hw)
          exact hnot ⟨k, hk, hl⟩
        obtain ⟨v, hv, hcheck⟩ := hchecked k hk w hw
        obtain ⟨k', -, heq, q, hq, hkey, rfl⟩ := hget _ v hv
        exact ⟨k, hk, rfl, q, hq, cp_injective heq ▸ hkey, hcheck⟩
      · cases h
  | _ => cases h

/-- What is accepted is settled, when its name is in the form NFC. -/
theorem settled_of_menuValues (hlib : Lawful lib) {v : PyVal} {items : Items} {fieldName : String}
    (h : menuValues lib v fieldName = .ok (.dict items)) (hname : NameNormal lib items) : Settled lib items := by
  obtain ⟨_, heq, hproper, hvalues⟩ := of_menuValues hlib h
  obtain rfl := PyVal.dict.inj heq
  refine ⟨hproper, fun p hp => ?_⟩
  obtain ⟨l, w⟩ := p
  obtain ⟨l, rfl⟩ := hproper.keys _ hp
  have hw := getItem_of_mem hproper.sorted hp
  obtain ⟨k, hk, rfl, q, -, -, hcheck⟩ := hvalues l w hw
  refine ⟨k, hk, rfl, settledValue_of_check hlib hk hcheck ?_⟩
  rintro rfl s rfl
  exact hname s hw

/-- The name of a menu item, if there is one, is a text. -/
def NameText (v : PyVal) : Prop := ∀ p ∈ itemsOf v, p.1 = key "name" → ∃ s, p.2 = .str s

theorem infix_of_strip (s : PyStr) : strip s <:+: s :=
  (List.rdropWhile_prefix _ _).isInfix.trans (List.dropWhile_suffix _).isInfix

/-- The name that is left of a text is in the form NFC. -/
theorem nameNormal_of_text (hlib : Lawful lib) {v : PyVal} {items : Items} {fieldName : String}
    (h : menuValues lib v fieldName = .ok (.dict items)) (htext : NameText v) : NameNormal lib items := by
  obtain ⟨_, heq, -, hvalues⟩ := of_menuValues hlib h
  obtain rfl := PyVal.dict.inj heq
  intro s hs
  obtain ⟨k, hk, hl, q, hq, hkey, hcheck⟩ := hvalues _ _ hs
  obtain rfl := cp_injective hl
  obtain ⟨t, ht⟩ := htext q hq hkey
  rw [checkOf_name, ht, MenuGovernance.normalize, checkName] at hcheck
  split_ifs at hcheck with hbad
  · cases hcheck
  · obtain rfl := PyVal.str.inj (Except.ok.inj hcheck)
    have horigin : lib.str (orEmpty (.str (lib.nfc t))) = lib.nfc t := by
      rw [orEmpty]
      split_ifs with htruthy
      · rfl
      · exact (by simpa [PyVal.truthy] using htruthy : lib.nfc t = []).symm
    rw [horigin]
    exact hlib.nfc_infix _ _ (infix_of_strip _) (hlib.nfc_nfc t)

/-! ### What an operation sets -/

theorem valuesOf_eq_ok_iff {v : PyVal} {fieldName : String} {items : Items} :
    valuesOf lib v fieldName = .ok items ↔ menuValues lib v fieldName = .ok (.dict items) := by
  rw [valuesOf, bind_eq_ok_iff]
  constructor
  · rintro ⟨w, hw, h⟩
    cases w with
    | dict items' =>
        obtain rfl := pure_eq_ok_iff.1 h
        exact hw
    | _ => cases h
  · intro h
    exact ⟨_, h, rfl⟩

theorem ne_nil_of_runChecks {fieldName : String} {ks : List String} {items items' : Items} (hne : items ≠ [])
    (h : runChecks lib fieldName ks items = .ok items') : items' ≠ [] := by
  induction ks generalizing items with
  | nil =>
      obtain rfl := pure_eq_ok_iff.1 h
      exact hne
  | cons name ks ih =>
      rw [runChecks, List.foldlM_cons, bind_eq_ok_iff] at h
      obtain ⟨middle, hfirst, hrest⟩ := h
      refine ih ?_ hrest
      rcases checkKey_eq_ok_iff.1 hfirst with ⟨-, rfl⟩ | ⟨v, w, -, -, rfl⟩
      · exact hne
      · intro heq
        have hget := getItem_setKey (k := cp name) (l := cp name) w items
        rw [heq, if_pos rfl] at hget
        cases hget

variable (lib) in
/-- What can be proposed for a batch. -/
structure Proposal (proposed : Items) : Prop where
  settled : Settled lib proposed
  ne_nil : proposed ≠ []
  noImage : getItem proposed (cp "image_sha256") = none

/-- One value that is accepted is a proposal. -/
theorem proposal_of_value (hlib : Lawful lib) {k : String} {value : PyVal} {proposed : Items}
    (hname : k ≠ "name") (himage : k ≠ "image_sha256")
    (h : valuesOf lib (obj [(k, value)]) "BATCH" = .ok proposed) : Proposal lib proposed := by
  have haccepted := valuesOf_eq_ok_iff.1 h
  obtain ⟨_, heq, -, hvalues⟩ := of_menuValues hlib haccepted
  obtain rfl := PyVal.dict.inj heq
  have honly : ∀ name w, getItem proposed (cp name) = some w → name = k := by
    intro name w hw
    obtain ⟨k', -, hk', q, hq, hkey, -⟩ := hvalues _ _ hw
    obtain rfl := List.mem_singleton.1 hq
    rw [cp_injective hk']
    exact (key_inj.1 hkey).symm
  refine ⟨settled_of_menuValues hlib haccepted fun s hs => absurd (honly _ _ hs).symm hname, ?_, ?_⟩
  · rw [obj, menuValues_dict] at haccepted
    split_ifs at haccepted
    · obtain ⟨_, hrun, h⟩ := bind_eq_ok_iff.1 haccepted
      obtain rfl := PyVal.dict.inj (pure_eq_ok_iff.1 h)
      exact ne_nil_of_runChecks (by simp [fields, key, normalizeItems, setKey]) hrun
    · cases haccepted
  · rw [Option.eq_none_iff_forall_ne_some]
    exact fun w hw => himage (honly _ _ hw).symm

/-- Values that are Booleans are a proposal. -/
theorem proposal_of_flags {l : List (String × Bool)} (hsorted : keysSorted (l.map Prod.fst)) (hne : l ≠ [])
    (hkeys : ∀ p ∈ l, p.1 = "active" ∨ p.1 = "available_in_pos") :
    Proposal lib (fields (l.map fun p => (p.1, .bool p.2))) := by
  have hflag : ∀ b : Bool, ∀ k, k = "active" ∨ k = "available_in_pos" → SettledValue lib k (.bool b) := by
    intro b k hk
    refine ⟨rfl, fun fieldName => ?_⟩
    rcases hk with rfl | rfl
    · simp only [checkOf, String.reduceEq, if_false]
      rfl
    · simp only [checkOf, String.reduceEq, if_true, if_false]
      rfl
  have hmem : ∀ p ∈ fields (l.map fun p => (p.1, PyVal.bool p.2)), ∃ q ∈ l, p = (key q.1, .bool q.2) := by
    intro p hp
    obtain ⟨q, hq, rfl⟩ := List.mem_map.1 hp
    obtain ⟨r, hr, rfl⟩ := List.mem_map.1 hq
    exact ⟨r, hr, rfl⟩
  refine ⟨⟨⟨?_, fun p hp => ?_⟩, fun p hp => ?_⟩, by simpa [fields] using hne, ?_⟩
  · rw [sorted_fields, List.map_map]
    exact hsorted
  · obtain ⟨q, hq, rfl⟩ := hmem p hp
    exact ⟨cp q.1, rfl⟩
  · obtain ⟨q, hq, rfl⟩ := hmem p hp
    refine ⟨q.1, ?_, rfl, hflag q.2 q.1 (hkeys q hq)⟩
    rcases hkeys q hq with h | h <;> simp [h, menuValueKeys]
  · rw [Option.eq_none_iff_forall_ne_some]
    intro w hw
    obtain ⟨q, hq, heq⟩ := hmem _ (item_mem_of_getItem hw)
    have himage : "image_sha256" = q.1 := key_inj.1 (Prod.mk.inj heq).1
    rcases hkeys q hq with h | h <;> simp [h] at himage

/-- What an operation sets is a proposal. -/
theorem proposal_of_operation (hlib : Lawful lib) {operation value : PyVal} {proposed : Items}
    (h : proposedValues lib operation value = .ok proposed) : Proposal lib proposed := by
  rw [proposedValues] at h
  split_ifs at h
  · exact proposal_of_value hlib (by decide) (by decide) h
  · exact proposal_of_value hlib (by decide) (by decide) h
  · obtain rfl := Except.ok.inj h
    exact proposal_of_flags (l := [("available_in_pos", false)]) (by decide +kernel) (by simp) (by simp)
  · obtain rfl := Except.ok.inj h
    exact proposal_of_flags (l := [("active", false), ("available_in_pos", false)]) (by decide +kernel) (by simp)
      (by simp)
  · obtain rfl := Except.ok.inj h
    exact proposal_of_flags (l := [("active", true), ("available_in_pos", true)]) (by decide +kernel) (by simp)
      (by simp)
  · cases h

/-! ### Values that are hashed -/

theorem normalizeList_eq_map (xs : List PyVal) : normalizeList lib xs = xs.map (normalize lib) := by
  induction xs with
  | nil => rfl
  | cons x xs ih => rw [normalizeList, ih, List.map_cons]

/-- A dictionary with ASCII keys is brought into its normal form value by value. -/
theorem normalize_obj (hlib : Lawful lib) {l : List (String × PyVal)} (hsorted : keysSorted (l.map Prod.fst))
    (hascii : ∀ p ∈ l, ∀ c ∈ cp p.1, c < 128) :
    normalize lib (obj l) = obj (l.map fun p => (p.1, normalize lib p.2)) := by
  have hitems := @normalizeItems_sorted lib [] (fields l)
    (by rw [List.nil_append]; exact sorted_fields.2 hsorted) fun p hp => by
      obtain ⟨q, hq, rfl⟩ := List.mem_map.1 hp
      exact ⟨cp q.1, rfl, hlib.nfc_ascii _ (hascii q hq)⟩
  rw [obj, MenuGovernance.normalize, hitems, List.nil_append, obj, fields, fields, List.map_map, List.map_map]
  rfl

/-- A value that can be written down: neither foreign objects nor infinities. -/
def Writable (v : PyVal) : Prop := PyJson.serialisable v = true ∧ PyJson.allFinite v = true

theorem writable_of_stableSha256 {v : PyVal} {sha256 : PyStr} (h : stableSha256 lib v = .ok sha256) :
    Writable (normalize lib v) := by
  rw [stableSha256] at h
  obtain ⟨json, hjson, -⟩ := bind_eq_ok_iff.1 h
  rw [canonicalJson] at hjson
  obtain ⟨text, htext, hjson⟩ := bind_eq_ok_iff.1 hjson
  rw [PyJson.dumps] at htext
  split_ifs at htext hjson with hwritten hfinite
  exact ⟨hwritten, hfinite⟩

theorem Writable.of_obj {l : List (String × PyVal)} (h : Writable (obj l)) {p : String × PyVal} (hp : p ∈ l) :
    Writable p.2 := ⟨PyJson.serialisable_obj.1 h.1 p hp, PyJson.allFinite_obj.1 h.2 p hp⟩

theorem Writable.of_list {xs : List PyVal} (h : Writable (.list xs)) {x : PyVal} (hx : x ∈ xs) : Writable x :=
  ⟨PyJson.serialisableList_iff.1 h.1 x hx, PyJson.allFiniteList_iff.1 h.2 x hx⟩

/-- The rows of a preview that is hashed can be written down. -/
theorem writable_after (hlib : Lawful lib) {operation : PyVal} {rows : List Row} {sha256 : PyStr}
    (h : stableSha256 lib (previewVal operation rows) = .ok sha256) {row : Row} (hrow : row ∈ rows)
    (hsettled : Settled lib row.after) : Writable (.dict row.after) := by
  have hpreview := writable_of_stableSha256 h
  rw [previewVal, normalize_obj hlib (by simp only [List.map]; decide +kernel)
    (by simp only [List.forall_mem_cons]; decide +kernel)] at hpreview
  have hrows : Writable (normalize lib (.list (rows.map Row.toVal))) :=
    hpreview.of_obj (List.mem_map.2 ⟨("rows", .list (rows.map Row.toVal)), by simp, rfl⟩)
  rw [MenuGovernance.normalize, normalizeList_eq_map] at hrows
  have hone : Writable (normalize lib row.toVal) :=
    hrows.of_list (List.mem_map_of_mem (List.mem_map_of_mem hrow))
  rw [Row.toVal, normalize_obj hlib (by simp only [List.map]; decide +kernel)
    (by simp only [List.forall_mem_cons]; decide +kernel)] at hone
  have hafter : Writable (normalize lib (.dict row.after)) :=
    hone.of_obj (List.mem_map.2 ⟨("after", .dict row.after), by simp, rfl⟩)
  rwa [MenuGovernance.normalize, hsettled.normalizeItems hlib] at hafter

/-! ### Reversals -/

/-- A row is made of a snapshot that is accepted. -/
theorem of_previewRows {proposed : Items} {seen snapshots : List PyVal} {rows : List Row}
    (h : previewRows lib proposed seen snapshots = .ok rows) : ∀ row ∈ rows, ∃ snapshot ∈ snapshots,
      menuValues lib snapshot "BEFORE" = .ok (.dict row.before) ∧ row = rowOf proposed row.before := by
  induction snapshots generalizing seen rows with
  | nil =>
      obtain rfl := Except.ok.inj h
      simp
  | cons snapshot snapshots ih =>
      rw [previewRows] at h
      obtain ⟨before, hbefore, h⟩ := bind_eq_ok_iff.1 h
      simp only at h
      split_ifs at h
      · cases h
      · obtain ⟨rest, hrest, h⟩ := bind_eq_ok_iff.1 h
        obtain rfl := pure_eq_ok_iff.1 h
        refine List.forall_mem_cons.2 ⟨⟨snapshot, List.mem_cons_self, valuesOf_eq_ok_iff.1 hbefore, rfl⟩,
          fun row hrow => ?_⟩
        obtain ⟨snapshot', hmem, hrow'⟩ := ih hrest row hrow
        exact ⟨snapshot', List.mem_cons_of_mem _ hmem, hrow'⟩
      · cases h

/-- A change is set back exactly from the state it has led to. -/
theorem buildReversalValues_eq_ok_iff (hlib : Lawful lib) {before proposed : Items} (hbefore : Settled lib before)
    (hproposed : Proposal lib proposed) (hkeys : ∀ p ∈ proposed, ∃ q ∈ before, q.1 = p.1) {current : PyVal}
    {r : Items} : buildReversalValues lib (.dict before) (.dict proposed) current = .ok r ↔
      r = restored before proposed ∧ ∃ c, menuValues lib current "CURRENT" = .ok (.dict c) ∧
        pyEq (.dict c) (.dict (merged before proposed)) = true := by
  have hall : proposed.all (fun p => before.any fun q => q.1 = p.1) = true := by
    rw [List.all_eq_true]
    intro p hp
    obtain ⟨q, hq, hkey⟩ := hkeys p hp
    exact List.any_eq_true.2 ⟨q, hq, decide_eq_true hkey⟩
  have hcomplete : ¬(proposed = [] ∨ ¬proposed.all (fun p => before.any fun q => q.1 = p.1)) :=
    not_or.2 ⟨hproposed.ne_nil, not_not.2 hall⟩
  have himage : ¬(getItem proposed (cp "image_sha256")).isSome = true := by
    rw [hproposed.noImage]
    simp
  rw [buildReversalValues, valuesOf_eq_ok_iff.2 (menuValues_settled hlib hbefore _), ok_bind,
    valuesOf_eq_ok_iff.2 (menuValues_settled hlib hproposed.settled _), ok_bind, bind_eq_ok_iff]
  constructor
  · rintro ⟨c, hc, h⟩
    by_cases hequal : pyEq (.dict c) (.dict (merged before proposed)) = true
    · rw [if_neg (not_not.2 hequal), if_neg himage, if_neg hcomplete] at h
      exact ⟨(pure_eq_ok_iff.1 h).symm, c, valuesOf_eq_ok_iff.1 hc, hequal⟩
    · rw [if_pos hequal] at h
      cases h
  · rintro ⟨rfl, c, hc, hequal⟩
    refine ⟨c, valuesOf_eq_ok_iff.2 hc, ?_⟩
    rw [if_neg (not_not.2 hequal), if_neg himage, if_neg hcomplete]
    rfl

variable (lib) in
/-- A change from one state to another can be set back: the first state is restored from the second one, and from
no state that is not brought into the second one. -/
structure Reversible (proposed before after : Items) : Prop where
  restores : ∃ r, buildReversalValues lib (.dict before) (.dict proposed) (.dict after) = .ok r ∧
    merged after r = before
  onlyFrom : ∀ current, (∃ r, buildReversalValues lib (.dict before) (.dict proposed) current = .ok r) ↔
    ∃ c, menuValues lib current "CURRENT" = .ok c ∧ pyEq c (.dict (merged before proposed)) = true

theorem reversible_row (hlib : Lawful lib) {before proposed : Items} (hbefore : Settled lib before)
    (hproposed : Proposal lib proposed) (hkeys : ∀ p ∈ proposed, ∃ q ∈ before, q.1 = p.1)
    (hwritable : Writable (.dict (merged before proposed))) :
    Reversible lib proposed before (merged before proposed) := by
  have hrestored := fun current r =>
    @buildReversalValues_eq_ok_iff lib hlib before proposed hbefore hproposed hkeys current r
  constructor
  · refine ⟨restored before proposed, (hrestored _ _).2 ⟨rfl, _, menuValues_settled hlib
      (hbefore.merged hproposed.settled) _, PyJson.pyEq_self hwritable.1 hwritable.2⟩,
      merged_restored hbefore.proper hproposed.settled.proper fun k v hv => ?_⟩
    obtain ⟨q, hq, hkey⟩ := hkeys _ (item_mem_of_getItem hv)
    obtain ⟨l, w⟩ := q
    obtain rfl : l = .str k := hkey
    exact ⟨w, getItem_of_mem hbefore.proper.sorted hq⟩
  · intro current
    constructor
    · rintro ⟨r, hr⟩
      obtain ⟨-, c, hc, hequal⟩ := (hrestored _ _).1 hr
      exact ⟨_, hc, hequal⟩
    · rintro ⟨v, hv, hequal⟩
      obtain ⟨c, rfl, -⟩ := of_menuValues hlib hv
      exact ⟨_, (hrestored _ _).2 ⟨rfl, c, hv, hequal⟩⟩

/-- Every row of a preview whose keys were there and whose name, if there is one, is in the form NFC can be set
back; the name is in this form when it was given as a text, and then the values are left as they are from then
on. -/
theorem reversible (hlib : Lawful lib) :
    (∀ snapshots operation value preview, buildBatchPreview lib snapshots operation value = .ok preview →
      ∃ proposed, proposedValues lib operation value = .ok proposed ∧ ∀ row ∈ preview.rows,
        row.after = merged row.before proposed ∧
        (NameNormal lib row.before → (∀ p ∈ proposed, ∃ q ∈ row.before, q.1 = p.1) →
          Reversible lib proposed row.before row.after)) ∧
      ∀ v fieldName values, menuValues lib v fieldName = .ok values → ∃ items, values = .dict items ∧
        (NameText v → NameNormal lib items) ∧
        (NameNormal lib items → ∀ fieldName, menuValues lib values fieldName = .ok values) := by
  constructor
  · intro snapshots operation value preview h
    cases snapshots with
    | list snapshots =>
        rw [buildBatchPreview] at h
        split_ifs at h
        · obtain ⟨proposed, hproposed, h⟩ := bind_eq_ok_iff.1 h
          obtain ⟨_, -, h⟩ := bind_eq_ok_iff.1 h
          obtain ⟨rows, hrows, h⟩ := bind_eq_ok_iff.1 h
          obtain ⟨sha256, hsha256, h⟩ := bind_eq_ok_iff.1 h
          obtain rfl := pure_eq_ok_iff.1 h
          have hproposal := proposal_of_operation hlib hproposed
          refine ⟨proposed, hproposed, fun row hrow => ?_⟩
          obtain ⟨snapshot, -, hbefore, heq⟩ := of_previewRows hrows row hrow
          have hafter : row.after = merged row.before proposed := by rw [heq]; rfl
          refine ⟨hafter, fun hname hkeys => ?_⟩
          have hsettled := settled_of_menuValues hlib hbefore hname
          have hwritable := writable_after hlib hsha256 hrow (hafter ▸ hsettled.merged hproposal.settled)
          rw [hafter] at hwritable ⊢
          exact reversible_row hlib hsettled hproposal hkeys hwritable
        · cases h
    | _ => cases h
  · intro v fieldName values h
    obtain ⟨items, rfl, -⟩ := of_menuValues hlib h
    exact ⟨items, rfl, nameNormal_of_text hlib h, fun hname fieldName =>
      menuValues_settled hlib (settled_of_menuValues hlib h hname) fieldName⟩

/-! ### A paused item -/

/-- A library for texts in the form NFC. -/
def sampleLibrary : Library where
  nfc := id
  isDecimal c := 48 ≤ c && c ≤ 57
  text v := match v with
    | .list _ => cp "[...]"
    | .dict _ => cp "\x7b...\x7d"
    | _ => []

theorem lawful_sampleLibrary : Lawful sampleLibrary where
  nfc_nfc _ := rfl
  nfc_infix _ _ _ _ := rfl
  nfc_ascii _ _ := rfl
  text_list _ := (by decide +kernel : (cp "[...]").head? = some 91)
  text_dict _ := (by decide +kernel : (cp "\x7b...\x7d").head? = some 123)

/-- The code of the item. -/
def sampleCode : PyStr := cp "W7TP_THING_REF:v1:PRODUCT:sha256:" ++ List.replicate 64 48

/-- An item that is offered. -/
def sampleItem (name : String) : Items := fields [
  ("available_in_pos", .bool true), ("list_price", .int 60), ("name", lit name), ("thing_code", .str sampleCode)]

/-- What pausing an item sets. -/
def samplePaused : Items := fields [("available_in_pos", .bool false)]

/-- The item is accepted as it is. -/
theorem menuValues_sample : menuValues sampleLibrary (.dict (sampleItem "T")) "BEFORE" =
    .ok (.dict (sampleItem "T")) := rfl

theorem operation_sample : proposedValues sampleLibrary (lit "pause") .none = .ok samplePaused := by
  simp [proposedValues, lit, samplePaused, cp_inj]

/-- The preview of the sample. -/
theorem preview_sample : ∃ preview,
    buildBatchPreview sampleLibrary (.list [.dict (sampleItem "T")]) (lit "pause") .none = .ok preview ∧
      preview.rows = [rowOf samplePaused (sampleItem "T")] := by
  obtain ⟨_, hproposed⟩ : ∃ sha256, stableSha256 sampleLibrary (.dict samplePaused) = .ok sha256 :=
    exists_ok_of_toBool (by decide +kernel)
  obtain ⟨sha256, hsha256⟩ : ∃ sha256, stableSha256 sampleLibrary
      (previewVal (lit "pause") [rowOf samplePaused (sampleItem "T")]) = .ok sha256 :=
    exists_ok_of_toBool (by decide +kernel)
  have hrows : previewRows sampleLibrary samplePaused [] [.dict (sampleItem "T")] =
      .ok [rowOf samplePaused (sampleItem "T")] := by
    rw [previewRows, valuesOf_eq_ok_iff.2 menuValues_sample, ok_bind]
    have hcode : (PyVal.dict (sampleItem "T")).get "thing_code" = .str sampleCode := by
      simp [PyVal.get, sampleItem]
    simp only [hcode]
    rfl
  refine ⟨⟨lit "pause", [rowOf samplePaused (sampleItem "T")],
    [rowOf samplePaused (sampleItem "T")].countP fun row => row.diff ≠ [], sha256⟩, ?_, rfl⟩
  exact bind_eq_ok_iff.2 ⟨_, operation_sample, bind_eq_ok_iff.2 ⟨_, hproposed, bind_eq_ok_iff.2 ⟨_, hrows,
    bind_eq_ok_iff.2 ⟨_, hsha256, rfl⟩⟩⟩⟩

theorem keys_sample : ∀ p ∈ samplePaused, ∃ q ∈ sampleItem "T", q.1 = p.1 := by
  intro p hp
  obtain rfl := List.mem_singleton.1 hp
  exact ⟨_, List.mem_cons_self, rfl⟩

/-- The sample can be set back. -/
theorem reversible_sample : ∃ preview proposed,
    buildBatchPreview sampleLibrary (.list [.dict (sampleItem "T")]) (lit "pause") .none = .ok preview ∧
      proposedValues sampleLibrary (lit "pause") .none = .ok proposed ∧
      ∀ row ∈ preview.rows, Reversible sampleLibrary proposed row.before row.after := by
  obtain ⟨preview, hpreview, hrows⟩ := preview_sample
  obtain ⟨proposed, hproposed, h⟩ := (reversible lawful_sampleLibrary).1 _ _ _ _ hpreview
  obtain rfl : samplePaused = proposed := Except.ok.inj (operation_sample.symm.trans hproposed)
  refine ⟨preview, samplePaused, hpreview, hproposed, fun row hrow => ?_⟩
  have hone := (h row hrow).2
  rw [hrows, List.mem_singleton] at hrow
  rw [hrow] at hone ⊢
  exact hone (fun _ _ => rfl) keys_sample

/-- A state that differs from the one the change has led to, by a space in front of the name and one behind it, is
set back as well. -/
theorem reversal_from_other_sample : ∃ preview proposed,
    buildBatchPreview sampleLibrary (.list [.dict (sampleItem "T")]) (lit "pause") .none = .ok preview ∧
      proposedValues sampleLibrary (lit "pause") .none = .ok proposed ∧
      ∃ row ∈ preview.rows, (∀ p ∈ proposed, ∃ q ∈ row.before, q.1 = p.1) ∧
        ∃ current, pyEq current (.dict (merged row.before proposed)) = false ∧
          ∃ r, buildReversalValues sampleLibrary (.dict row.before) (.dict proposed) current = .ok r := by
  obtain ⟨preview, hpreview, hrows⟩ := preview_sample
  refine ⟨preview, samplePaused, hpreview, operation_sample, rowOf samplePaused (sampleItem "T"), by simp [hrows],
    keys_sample, .dict (merged (sampleItem " T ") samplePaused), by decide +kernel, _, rfl⟩

end MenuBatch
