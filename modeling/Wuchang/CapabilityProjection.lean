/-
**The projection of a task, and the validator of projections.**

What a projection lists as required is the least set that has what the task requires by itself and is closed
under the dependencies: this is the worklist.  The validator accepts a projection that was built unless one of
the identifiers in the registry ends in a line feed.  The pattern of the schema accepts such an identifier,
since its `$` also matches before a line feed at the end, but `fullmatch` does not.

Main definitions:

* `CapabilityContext.RequiredSet` — the sets that have what a task requires, and are closed;
* `CapabilityContext.Projected` — what is required is the least such set, and the validator accepts.

Main results:

* `CapabilityContext.isLeast_requiredIds` — the worklist computes the least such set;
* `CapabilityContext.projected_iff` — when a projection that was built is accepted.
-/

import Wuchang.CapabilityGraph
import Mathlib.Data.List.Sort

set_option relaxedAutoImplicit false
set_option autoImplicit false

namespace CapabilityContext

open Py JsonSchema

/-! ### What is required -/

/-- The sets that have what a task requires by itself, and what the capabilities in them depend on. -/
def RequiredSet (registry : Registry) (requested refs : List PyStr) (s : Set PyStr) : Prop :=
  (∀ cid ∈ requested, cid ∈ s) ∧ dynamicContext ∈ s ∧
    (∀ c ∈ registry.capabilities, (∃ ref ∈ c.sourceRefs, ref ∈ refs) → c.capabilityId ∈ s) ∧
    ∀ c ∈ registry.capabilities, c.capabilityId ∈ s → ∀ dep ∈ c.requires, dep ∈ s

section Required

variable {registry : Registry} {requested refs : List PyStr}

theorem mem_seeds {cid : PyStr} : cid ∈ seeds registry requested refs ↔ cid ∈ requested ∨
    cid = dynamicContext ∨ ∃ c ∈ registry.capabilities, (∃ ref ∈ c.sourceRefs, ref ∈ refs) ∧
      c.capabilityId = cid := by
  simp [seeds, and_assoc]

/-- **What is required is the least closed set.** -/
theorem isLeast_requiredIds (hids : registry.ids.Nodup) :
    IsLeast {s | RequiredSet registry requested refs s} {cid | cid ∈ requiredIds registry requested refs} := by
  have hsupport : ∀ cid, ∀ dep ∈ registry.requires cid,
      dep ∈ (registry.capabilities.flatMap Capability.requires).toFinset := by
    intro cid dep hdep
    obtain ⟨c, hc, -, hdep⟩ := (mem_requires hids).1 hdep
    exact List.mem_toFinset.2 (List.mem_flatMap.2 ⟨c, hc, hdep⟩)
  have hcard := List.toFinset_card_le (registry.capabilities.flatMap Capability.requires)
  have hpending : ∀ cid, cid ∈ seeds registry requested refs ↔ cid ∈ seeds registry requested refs :=
    fun _ => Iff.rfl
  have hleast := Worklist.isLeast_close hsupport hpending (Nat.add_le_add_left hcard _)
  have hsets : {s | RequiredSet registry requested refs s} = {s : Set PyStr |
      (∀ cid ∈ seeds registry requested refs, cid ∈ s) ∧
        ∀ cid ∈ s, ∀ dep ∈ registry.requires cid, dep ∈ s} := by
    ext s
    constructor
    · rintro ⟨hrequested, hdynamic, htouched, hclosed⟩
      refine ⟨fun cid hcid => ?_, fun cid hcid dep hdep => ?_⟩
      · rcases mem_seeds.1 hcid with hcid | rfl | ⟨c, hc, href, rfl⟩
        · exact hrequested cid hcid
        · exact hdynamic
        · exact htouched c hc href
      · obtain ⟨c, hc, rfl, hdep'⟩ := (mem_requires hids).1 hdep
        exact hclosed c hc hcid dep hdep'
    · rintro ⟨hseeds, hclosed⟩
      refine ⟨fun cid hcid => hseeds cid (mem_seeds.2 (.inl hcid)), hseeds _ (mem_seeds.2 (.inr (.inl rfl))),
        fun c hc href => hseeds _ (mem_seeds.2 (.inr (.inr ⟨c, hc, href, rfl⟩))), fun c hc hcid dep hdep => ?_⟩
      exact hclosed _ hcid dep ((mem_requires hids).2 ⟨c, hc, rfl, hdep⟩)
  rw [hsets]
  exact hleast

theorem nodup_requiredIds : (requiredIds registry requested refs).Nodup :=
  Worklist.nodup_close _ (List.nodup_dedup _)

end Required

/-! ### The registry -/

/-- What the checks of an accepted registry say. -/
structure Accepted (registry : Registry) : Prop where
  ids : registry.ids.Nodup
  classes : (registry.capabilities.map Capability.capabilityClass).Nodup
  covered : ∀ c, c ∈ registry.capabilities.map Capability.capabilityClass ↔ c ∈ requiredClasses.map cp
  pattern : ∀ c ∈ registry.capabilities, isCapabilityId (chomp c.capabilityId) = true
  requires : ∀ c ∈ registry.capabilities, ∀ dep ∈ c.requires, dep ∈ registry.ids

theorem isCapabilityId_of_capability {v : PyVal} (h : capability v = true) :
    isCapabilityId (chomp (readCapability v).capabilityId) = true := by
  rw [capability, Bool.and_eq_true] at h
  have hconforms : capabilityId (v.get "capability_id") = true :=
    get_of_record h.1 (by decide) (by simp [capabilityProperties])
  obtain ⟨s, hs, hpattern⟩ := of_text hconforms
  rw [readCapability, hs]
  exact hpattern

theorem accepted_of_load {root : Root} {registry : Registry}
    (h : loadInternalizationRegistry root = .ok registry) : Accepted registry := by
  obtain ⟨schema, -, h⟩ := bind_eq_ok_iff.1 h
  obtain ⟨v, -, h⟩ := bind_eq_ok_iff.1 h
  split_ifs at h with hschema hwall
  · dsimp only at h
    split_ifs at h with hids hclasses hcovered
    · obtain ⟨⟨⟩, -, h⟩ := bind_eq_ok_iff.1 h
      obtain ⟨done, hgraph, h⟩ := bind_eq_ok_iff.1 h
      obtain ⟨⟨⟩, -, h⟩ := bind_eq_ok_iff.1 h
      obtain rfl := pure_eq_ok_iff.1 h
      refine ⟨hids, hclasses, fun c => ⟨hcovered.1 c, hcovered.2 c⟩, fun c hc => ?_, fun c hc dep hdep => ?_⟩
      · obtain ⟨w, hw, rfl⟩ := List.mem_map.1 hc
        have hcapabilities : listOf 8 capability (v.get "capabilities") = true :=
          get_of_record hschema (by decide) (by simp [registryProperties])
        obtain ⟨xs, hxs, hconforms⟩ := of_listOf hcapabilities
        rw [hxs] at hw
        exact isCapabilityId_of_capability (hconforms w hw)
      · exact requires_of_graph hgraph ((mem_requires hids).2 ⟨c, hc, rfl, hdep⟩)
    all_goals cases h
  · dsimp only at h
    split_ifs at h
    all_goals cases h
  · cases h

/-- An identifier that conforms to the schema matches in full when it does not end in a line feed. -/
theorem isCapabilityId_iff {s : PyStr} (h : isCapabilityId (chomp s) = true) :
    isCapabilityId s = true ↔ s.getLast? ≠ some 10 := by
  constructor
  · intro hs hlast
    simp only [isCapabilityId, Bool.and_eq_true, List.all_eq_true] at hs
    have hfeed := hs.2 10 (List.mem_of_getLast? hlast)
    exact absurd hfeed (by decide)
  · intro hlast
    rwa [chomp, if_neg hlast] at h

/-! ### What is built -/

/-- What the validator reads in a row of the catalogue. -/
structure IsRow (c : Capability) (row : PyVal) : Prop where
  requires : ∃ items, row = .dict items ∧
    getItem items (cp "requires_capability_ids") = some (texts c.requires)
  capabilityId : row.get "capability_id" = .str c.capabilityId
  capabilityClass : row.get "capability_class" = .str c.capabilityClass
  reference : row.get "capability_ref" = .str (capabilityRef c.capabilityId)
  effect : row.get "effect_authorization" = lit "NOT_GRANTED_BY_CONTEXT"
  readiness : row.get "runtime_readiness" = lit "NOT_REOBSERVED"

theorem isRow_of_catalogueRow {root : Root} {required : List PyStr} {c : Capability} {row : PyVal}
    (h : catalogueRow root required c = .ok row) : IsRow c row := by
  obtain ⟨bindings, -, h⟩ := bind_eq_ok_iff.1 h
  obtain rfl := pure_eq_ok_iff.1 h
  refine ⟨⟨_, rfl, ?_⟩, ?_, ?_, ?_, ?_, ?_⟩
  all_goals simp

/-- The capabilities in the order of the catalogue. -/
def Registry.rows (registry : Registry) : List Capability :=
  registry.capabilities.mergeSort fun a b => a.capabilityId ≤ b.capabilityId

theorem rows_perm (registry : Registry) : registry.rows.Perm registry.capabilities := List.mergeSort_perm _ _

theorem ids_rows_perm (registry : Registry) : (registry.rows.map Capability.capabilityId).Perm registry.ids :=
  (rows_perm registry).map _

section Rows

variable {rows : List Capability} {catalogue : List PyVal}

theorem map_id_of_isRow (h : List.Forall₂ IsRow rows catalogue) :
    catalogue.map (fun row => textOf (row.get "capability_id")) = rows.map Capability.capabilityId := by
  induction h with
  | nil => rfl
  | cons hrow _ ih => rw [List.map_cons, List.map_cons, ih, hrow.capabilityId, textOf]

theorem map_class_of_isRow (h : List.Forall₂ IsRow rows catalogue) :
    catalogue.map (fun row => textOf (row.get "capability_class")) = rows.map Capability.capabilityClass := by
  induction h with
  | nil => rfl
  | cons hrow _ ih => rw [List.map_cons, List.map_cons, ih, hrow.capabilityClass, textOf]

/-- All rows have identifiers and classes if and only if the identifiers match. -/
theorem all_isId_iff (h : List.Forall₂ IsRow rows catalogue) :
    (catalogue.all fun row => row.isDict && isId (row.get "capability_id") &&
      isText (row.get "capability_class")) = true ↔ ∀ c ∈ rows, isCapabilityId c.capabilityId = true := by
  induction h with
  | nil => simp
  | cons hrow _ ih =>
      obtain ⟨items, rfl, -⟩ := hrow.requires
      rw [List.all_cons, Bool.and_eq_true, ih, List.forall_mem_cons, hrow.capabilityId,
        hrow.capabilityClass]
      simp [PyVal.isDict, isId, isText]

end Rows

/-- What the validator reads in a projection without its hash. -/
structure IsProjection (registry : Registry) (ids : List PyStr) (taskId : PyStr) (rows : List PyVal)
    (system : PyVal) (out : Items) : Prop where
  catalogue : getOr out "catalogue" (.list []) = .list rows
  count : (PyVal.dict out).get "catalogue_count" = .int rows.length
  coverage : ∃ coverage, getOr out "coverage" (.dict []) = .dict coverage ∧
    (PyVal.dict coverage).get "registry_entries_complete" = .bool true ∧
    (PyVal.dict coverage).get "all_technologies_complete" = .bool false
  effect : (PyVal.dict out).get "effect_authorization" = lit "NOT_GRANTED_BY_CONTEXT"
  missing : (PyVal.dict out).get "missing_required_capability_ids" =
    texts (sortTexts (ids.filter fun cid => cid ∉ registry.ids))
  required : getItem out (cp "required_capability_ids") = some (texts (sortTexts ids))
  schema : getItem out (cp "schema_id") = some (lit "W7TP_CAPABILITY_CONTEXT_PROJECTION/1.0")
  state : (PyVal.dict out).get "state" = stateOf (sortTexts (ids.filter fun cid => cid ∉ registry.ids))
  frame : getOr out "system_frame" (.dict []) = system
  task : (PyVal.dict out).get "task_ref" = .str (cp "task:" ++ taskId)
  unhashed : getItem out (cp "projection_sha256") = none

theorem isProjection_fields (registry : Registry) (required : List PyStr) (taskId : PyStr)
    (catalogue bindings indices : List PyVal) (frame : PyVal) :
    IsProjection registry required taskId catalogue frame
      (fields (projectionFields registry required taskId catalogue bindings indices frame)) where
  catalogue := by simp [getOr, projectionFields]
  count := by simp [PyVal.get, projectionFields]
  coverage := by
    have hcoverage : getOr (fields (projectionFields registry required taskId catalogue bindings indices
        frame)) "coverage" (.dict []) = coverageOf indices := by
      simp [getOr, projectionFields]
    rw [hcoverage, coverageOf, obj]
    refine ⟨_, rfl, ?_, ?_⟩
    · simp [PyVal.get]
    · simp [PyVal.get]
  effect := by simp [PyVal.get, projectionFields]
  missing := by simp [PyVal.get, projectionFields]
  required := by simp [projectionFields]
  schema := by simp [projectionFields]
  state := by simp [PyVal.get, projectionFields]
  frame := by simp [getOr, projectionFields]
  task := by simp [PyVal.get, projectionFields]
  unhashed := by simp [projectionFields]

/-- The parts of a projection that was built. -/
structure Built (registry : Registry) (required : List PyStr) (taskId : PyStr) (value : PyVal) where
  catalogue : List PyVal
  frame : PyVal
  out : Items
  digest : PyStr
  rows : List.Forall₂ IsRow registry.rows catalogue
  stands : frameStands frame = true
  projection : IsProjection registry required taskId catalogue frame out
  hash : projectionHash (.dict out) = .ok digest
  eq : value = .dict (setKey (cp "projection_sha256") (.str digest) out)

theorem stands_of_systemFrame {contract frame : PyVal} (h : systemFrame contract = .ok frame)
    (hsemantics : pyEq (contract.get "semantics") (lit "8_IN_1_SINGLE_DYNAMIC_STATE_FIELD") = true) :
    frameStands frame = true := by
  obtain ⟨canonicalId, -, h⟩ := bind_eq_ok_iff.1 h
  obtain ⟨version, -, h⟩ := bind_eq_ok_iff.1 h
  obtain ⟨semantics, hat, h⟩ := bind_eq_ok_iff.1 h
  obtain ⟨dimensions, -, h⟩ := bind_eq_ok_iff.1 h
  obtain rfl := pure_eq_ok_iff.1 h
  rw [get_of_at hat] at hsemantics
  rw [pyEq_lit.1 hsemantics]
  simp [frameStands, truth, constant]

theorem semantics_of_currentContract {root : Root} {binding : List (String × PyVal)} {contract : PyVal}
    (h : currentContract root = .ok (binding, contract)) :
    pyEq (contract.get "semantics") (lit "8_IN_1_SINGLE_DYNAMIC_STATE_FIELD") = true := by
  obtain ⟨pointer, -, h⟩ := bind_eq_ok_iff.1 h
  split at h
  · obtain ⟨binding', -, h⟩ := bind_eq_ok_iff.1 h
    split_ifs at h with hhash
    · obtain ⟨contract', -, h⟩ := bind_eq_ok_iff.1 h
      split_ifs at h with hmismatch
      · cases h
      · obtain ⟨-, rfl⟩ := Prod.mk.inj (pure_eq_ok_iff.1 h)
        simp only [not_or, not_not] at hmismatch
        exact hmismatch.2.2.2
    · cases h
  · cases h

theorem built_of_build {root : Root} {task : Items} {value : PyVal} {taskId : PyStr} {registry : Registry}
    {requested refs : List PyStr} (htask : getItem task (cp "TASK_ID") = some (.str taskId))
    (hload : loadInternalizationRegistry root = .ok registry)
    (hrequested : idList (getOr task "REQUIRED_CAPABILITY_IDS" (.list [])) = .ok requested)
    (hrefs : taskSourceRefs task = .ok refs) (h : buildCapabilityContextProjection root task = .ok value) :
    Nonempty (Built registry (requiredIds registry requested refs) taskId value) := by
  rw [buildCapabilityContextProjection, htask] at h
  dsimp only at h
  split_ifs at h with hempty
  · cases h
  · rw [hload, ok_bind] at h
    obtain ⟨⟨contractBinding, contract⟩, hcontract, h⟩ := bind_eq_ok_iff.1 h
    dsimp only at h
    rw [hrequested, ok_bind, hrefs, ok_bind] at h
    obtain ⟨catalogue, hcatalogue, h⟩ := bind_eq_ok_iff.1 h
    obtain ⟨indices, -, h⟩ := bind_eq_ok_iff.1 h
    obtain ⟨frame, hframe, h⟩ := bind_eq_ok_iff.1 h
    obtain ⟨first, -, h⟩ := bind_eq_ok_iff.1 h
    obtain ⟨others, -, h⟩ := bind_eq_ok_iff.1 h
    obtain ⟨digest, hdigest, h⟩ := bind_eq_ok_iff.1 h
    have hrows : List.Forall₂ IsRow registry.rows catalogue :=
      (forall₂_of_mapM hcatalogue).imp fun _ _ hrow => isRow_of_catalogueRow hrow
    exact ⟨⟨catalogue, frame, _, digest, hrows,
      stands_of_systemFrame hframe (semantics_of_currentContract hcontract),
      isProjection_fields registry _ taskId catalogue _ indices frame, hdigest, (pure_eq_ok_iff.1 h).symm⟩⟩

/-! ### What the validator finds -/

/-- Texts in the order of their code points do not depend on the order they came in. -/
theorem sortTexts_congr {l l' : List PyStr} (h : l.Perm l') : sortTexts l = sortTexts l' := by
  have hle : (sortTexts l).Pairwise (· ≤ ·) := List.pairwise_mergeSort' (· ≤ ·) _
  have hle' : (sortTexts l').Pairwise (· ≤ ·) := List.pairwise_mergeSort' (· ≤ ·) _
  exact (((List.mergeSort_perm _ _).trans h).trans (List.mergeSort_perm _ _).symm).eq_of_pairwise' hle hle'

theorem mem_sortTexts {l : List PyStr} {s : PyStr} : s ∈ sortTexts l ↔ s ∈ l :=
  (List.mergeSort_perm _ _).mem_iff

theorem pyEq_texts (ts : List PyStr) : pyEq (texts ts) (texts ts) = true := by
  induction ts with
  | nil => rfl
  | cons t ts ih =>
      rw [texts, pyEq] at ih ⊢
      rw [List.map_cons, pyEqList, Bool.and_eq_true]
      exact ⟨pyEq_str.2 rfl, ih⟩

theorem all_isId_texts (ts : List PyStr) :
    (ts.map PyVal.str).all isId = true ↔ ∀ t ∈ ts, isCapabilityId t = true := by
  rw [List.all_map, List.all_eq_true]
  rfl

theorem map_textOf_texts (ts : List PyStr) : (ts.map PyVal.str).map textOf = ts := by
  rw [List.map_map]
  exact List.map_id _

/-- A list of identifiers that match and differ. -/
theorem idList_texts {ts : List PyStr} (hids : ∀ t ∈ ts, isCapabilityId t = true) (hnodup : ts.Nodup) :
    idList (texts ts) = .ok ts := by
  rw [texts, idList, if_pos ⟨(all_isId_texts ts).2 hids, (map_textOf_texts ts).symm ▸ hnodup⟩,
    map_textOf_texts]

theorem of_idList {v : PyVal} {ids : List PyStr} (h : idList v = .ok ids) :
    ∀ cid ∈ ids, isCapabilityId cid = true := by
  cases v with
  | list xs =>
      rw [idList] at h
      split_ifs at h with hxs
      · obtain rfl := Except.ok.inj h
        intro cid hcid
        obtain ⟨x, hx, rfl⟩ := List.mem_map.1 hcid
        have hid := List.all_eq_true.1 hxs.1 x hx
        cases x with
        | str s => exact hid
        | _ => cases hid
      · cases h
  | _ => cases h

/-- What is required matches when the identifiers of the registry do. -/
theorem isCapabilityId_of_required {registry : Registry} {requested refs : List PyStr} {v : PyVal}
    (haccepted : Accepted registry) (hrequested : idList v = .ok requested)
    (hids : ∀ c ∈ registry.capabilities, isCapabilityId c.capabilityId = true) :
    ∀ cid ∈ requiredIds registry requested refs, isCapabilityId cid = true := by
  have hregistered : ∀ cid ∈ registry.ids, isCapabilityId cid = true := by
    intro cid hcid
    obtain ⟨c, hc, rfl⟩ := List.mem_map.1 hcid
    exact hids c hc
  -- the identifiers that match have what the task requires, and are closed
  have hset : RequiredSet registry requested refs {cid | isCapabilityId cid = true} := by
    refine ⟨of_idList hrequested, ?_, fun c hc _ => hids c hc, fun c hc _ dep hdep => ?_⟩
    · change isCapabilityId dynamicContext = true
      decide
    · exact hregistered dep (haccepted.requires c hc dep hdep)
  exact fun cid hcid => (isLeast_requiredIds haccepted.ids).2 hset hcid

section Validate

variable {registry : Registry} {required : List PyStr} {taskId : PyStr} {value : PyVal}
  {catalogue : List PyVal} {frame : PyVal} {out : Items}

theorem pyEq_int (n : ℤ) : pyEq (.int n) (.int n) = true := by simp [pyEq, numOf, numEq]

/-- The check of the catalogue, when the identifiers match. -/
theorem checkCatalogue_ok (haccepted : Accepted registry) (hrows : List.Forall₂ IsRow registry.rows catalogue)
    (hout : IsProjection registry required taskId catalogue frame out)
    (hids : ∀ c ∈ registry.capabilities, isCapabilityId c.capabilityId = true) :
    checkCatalogue out = .ok (catalogue, registry.rows.map Capability.capabilityId,
      registry.rows.map Capability.capabilityClass) := by
  have hclasses := (rows_perm registry).map Capability.capabilityClass
  have hlength : (registry.rows.map Capability.capabilityClass).length = requiredClasses.length := by
    have hperm : (registry.capabilities.map Capability.capabilityClass).Perm (requiredClasses.map cp) := by
      refine (List.perm_ext_iff_of_nodup haccepted.classes ?_).2 haccepted.covered
      exact (by decide : requiredClasses.Nodup).map cp_injective
    rw [(hclasses.trans hperm).length_eq, List.length_map]
  have hall := (all_isId_iff hrows).2 fun c hc => hids c ((rows_perm registry).mem_iff.1 hc)
  rw [checkCatalogue, hout.catalogue]
  dsimp only
  rw [hout.count, pyEq_int, if_neg (by simp), hall, if_neg (by simp), map_id_of_isRow hrows,
    map_class_of_isRow hrows, if_neg]
  simp only [not_or, not_not]
  refine ⟨(ids_rows_perm registry).nodup_iff.2 haccepted.ids, ⟨fun c hc => ?_, fun c hc => ?_⟩, hlength⟩
  · exact (haccepted.covered c).1 (hclasses.mem_iff.1 hc)
  · exact hclasses.mem_iff.2 ((haccepted.covered c).2 hc)

/-- And when one does not. -/
theorem checkCatalogue_error (hrows : List.Forall₂ IsRow registry.rows catalogue)
    (hout : IsProjection registry required taskId catalogue frame out)
    (hids : ¬∀ c ∈ registry.capabilities, isCapabilityId c.capabilityId = true) :
    checkCatalogue out = rejected "CAPABILITY_CONTEXT_CATALOGUE_INVALID" := by
  have hall : (catalogue.all fun row => row.isDict && isId (row.get "capability_id") &&
      isText (row.get "capability_class")) = false := by
    rw [← Bool.not_eq_true, all_isId_iff hrows]
    exact fun h => hids fun c hc => h c ((rows_perm registry).mem_iff.2 hc)
  rw [checkCatalogue, hout.catalogue]
  dsimp only
  rw [hout.count, pyEq_int, if_neg (by simp), hall, if_pos (by simp)]

/-- The rows pass their checks when what is required is closed. -/
theorem checkRow_ok {c : Capability} {row : PyVal} (hrow : IsRow c row)
    (hclosed : c.capabilityId ∈ required → ∀ dep ∈ c.requires, dep ∈ required) :
    checkRow (sortTexts required) row = .ok () := by
  obtain ⟨items, rfl, hrequires⟩ := hrow.requires
  have hcovered : c.capabilityId ∈ required →
      subsetOf (sortTexts required) (getOr items "requires_capability_ids" (.list [])) = .ok true := by
    intro hmem
    rw [getOr, hrequires, Option.getD_some, texts, subsetOf, iter, ok_bind, if_neg]
    · rw [List.all_map]
      refine congrArg Except.ok (List.all_eq_true.2 fun dep hdep => ?_)
      refine List.any_eq_true.2 ⟨dep, mem_sortTexts.2 (hclosed hmem dep hdep), ?_⟩
      exact pyEq_str.2 rfl
    · rw [not_not, List.all_map, List.all_eq_true]
      exact fun dep _ => rfl
  rw [checkRow, hrow.capabilityId, textOf, hrow.reference, if_neg (by simp), hrow.effect, hrow.readiness]
  by_cases hmem : c.capabilityId ∈ required
  · simp only [mem_sortTexts, hmem, if_true, hcovered hmem, ok_bind]
    simp [pure_eq_ok_iff]
  · simp only [mem_sortTexts, hmem, if_false, pure_bind]
    simp [pure_eq_ok_iff]

theorem forM_checkRow {rows : List Capability} (hrows : List.Forall₂ IsRow rows catalogue)
    (hclosed : ∀ c ∈ rows, c.capabilityId ∈ required → ∀ dep ∈ c.requires, dep ∈ required) :
    catalogue.forM (checkRow (sortTexts required)) = .ok () := by
  induction hrows with
  | nil => rfl
  | cons hrow _ ih =>
      obtain ⟨hc, hrest⟩ := List.forall_mem_cons.1 hclosed
      rw [List.forM, checkRow_ok hrow hc, ok_bind]
      exact ih hrest

/-- What is missing is what is required and not registered. -/
theorem missing_eq : sortTexts ((sortTexts required).filter fun cid =>
      cid ∉ registry.rows.map Capability.capabilityId) =
    sortTexts (required.filter fun cid => cid ∉ registry.ids) := by
  have hmem : ∀ cid, cid ∈ registry.rows.map Capability.capabilityId ↔ cid ∈ registry.ids :=
    fun cid => (ids_rows_perm registry).mem_iff
  simp only [hmem]
  exact sortTexts_congr ((List.mergeSort_perm _ _).filter _)

/-- The claims on the coverage stand. -/
theorem checkCoverage_ok (hout : IsProjection registry required taskId catalogue frame out) :
    checkCoverage out (sortTexts (required.filter fun cid => cid ∉ registry.ids)) = .ok () := by
  obtain ⟨coverage, hcoverage, hcomplete, htechnologies⟩ := hout.coverage
  rw [checkCoverage, hout.state, stateOf, pyEq_lit.2 rfl, if_neg (by simp), hcoverage]
  dsimp only
  rw [hcomplete, htechnologies, hout.effect, if_neg (by simp [truth])]

/-- **The validator accepts what was built if and only if the identifiers of the registry match.** -/
theorem validate_built_iff (haccepted : Accepted registry) (built : Built registry required taskId value)
    (hids : (∀ c ∈ registry.capabilities, isCapabilityId c.capabilityId = true) →
      ∀ cid ∈ required, isCapabilityId cid = true) (hnodup : required.Nodup)
    (hclosed : ∀ c ∈ registry.capabilities, c.capabilityId ∈ required → ∀ dep ∈ c.requires, dep ∈ required) :
    (∃ out, validateCapabilityContextProjection value (cp "task:" ++ taskId) none = .ok out) ↔
      ∀ c ∈ registry.capabilities, isCapabilityId c.capabilityId = true := by
  obtain ⟨catalogue, frame, out, digest, hrows, hframe, hout, hdigest, rfl⟩ := built
  have herase := eraseKey_setKey (.str digest) (ne_of_getItem_none hout.unhashed)
  have hschema : (PyVal.dict (setKey (cp "projection_sha256") (.str digest) out)).get "schema_id" =
      lit "W7TP_CAPABILITY_CONTEXT_PROJECTION/1.0" := by
    rw [PyVal.get, getItem_setKey, if_neg (by simp [cp_inj]), hout.schema, Option.getD_some]
  rw [validateCapabilityContextProjection]
  dsimp only
  rw [hschema, pyEq_lit.2 rfl, if_neg (by simp), getItem_setKey, if_pos rfl]
  dsimp only
  rw [herase, hdigest, ok_bind, if_neg (by simp), hout.task, pyEq_str.2 rfl, if_neg (by simp)]
  by_cases hmatch : ∀ c ∈ registry.capabilities, isCapabilityId c.capabilityId = true
  · refine iff_of_true ?_ hmatch
    have hsorted : idList (texts (sortTexts required)) = .ok (sortTexts required) := by
      refine idList_texts (fun cid hcid => hids hmatch cid (mem_sortTexts.1 hcid)) ?_
      exact (List.mergeSort_perm _ _).nodup_iff.2 hnodup
    have hchecked := forM_checkRow hrows fun c hc => hclosed c ((rows_perm registry).mem_iff.1 hc)
    rw [checkCatalogue_ok haccepted hrows hout hmatch, ok_bind]
    dsimp only
    rw [if_neg (by simp), getOr, hout.required, Option.getD_some, hsorted, ok_bind, hout.frame, hframe,
      if_neg (by simp), missing_eq, hout.missing, pyEq_texts, if_neg (by simp), hchecked, ok_bind, checkCoverage_ok hout,
      ok_bind]
    exact ⟨_, rfl⟩
  · refine iff_of_false ?_ hmatch
    rintro ⟨accepted, haccepted⟩
    rw [checkCatalogue_error hrows hout hmatch] at haccepted
    cases haccepted

end Validate

/-! ### The hash of a projection -/

/-- A value with a canonical text has a hash. -/
theorem projectionHash_ok {v : PyVal} (h : Canonical v) : ∃ digest, projectionHash v = .ok digest := by
  obtain ⟨hplain, hfinite⟩ := h
  obtain ⟨bytes, hbytes⟩ : ∃ bytes, (PyJson.dumps PyJson.compact v >>= encodeUtf8 : Except Fault _) =
      .ok bytes := PyJson.dumps_plain (encodable_cp ",") (encodable_cp ":") hplain
  obtain ⟨text, htext, hraw⟩ := bind_eq_ok_iff.1 hbytes
  rw [projectionHash, htext, ok_bind, if_neg (by simp [hfinite]), hraw]
  exact ⟨_, rfl⟩

theorem canonical_str {s : PyStr} (h : Encodable s) : Canonical (.str s) := ⟨.str s h, rfl⟩

theorem canonical_texts {ts : List PyStr} (h : ∀ t ∈ ts, Encodable t) : Canonical (texts ts) := by
  refine canonical_list fun x hx => ?_
  obtain ⟨t, ht, rfl⟩ := List.mem_map.1 hx
  exact canonical_str (h t ht)

theorem canonical_sourceBinding {root : Root} {ref : PyStr} {binding : List (String × PyVal)}
    (href : Encodable ref) (h : sourceBinding root ref = .ok binding) : Canonical (obj binding) := by
  have hbinding : ∀ {state : String} {sha256 : PyVal}, Canonical sha256 →
      Canonical (obj (bindingOf ref state sha256)) := by
    intro state sha256 hsha256
    refine canonical_obj ?_
    simp only [bindingOf, List.forall_mem_cons]
    exact ⟨canonical_str href, hsha256, canonical_lit state, by simp⟩
  have hnone : Canonical .none := ⟨.none, rfl⟩
  rw [sourceBinding] at h
  split_ifs at h
  · cases h
  · obtain rfl := Except.ok.inj h
    exact hbinding hnone
  · cases h
  · split at h
    · obtain rfl := Except.ok.inj h
      exact hbinding (canonical_str (encodable_of_isHex64 (Sha256.isHex64_hexdigest _)))
    · obtain rfl := Except.ok.inj h
      exact hbinding hnone
    · obtain rfl := Except.ok.inj h
      exact hbinding hnone

/-- The texts of a capability. -/
def Capability.allTexts (c : Capability) : List PyStr :=
  [c.capabilityId, c.capabilityClass, c.status, c.ownerRef, c.coordinateRef, c.mode] ++ c.sourceRefs ++
    c.resourceRefs ++ c.nodeScope ++ c.riskTags ++ c.requires

theorem canonical_catalogueRow {root : Root} {required : List PyStr} {c : Capability} {row : PyVal}
    (htexts : ∀ t ∈ c.allTexts, Encodable t) (h : catalogueRow root required c = .ok row) : Canonical row := by
  simp only [Capability.allTexts, List.forall_mem_append, List.forall_mem_cons] at htexts
  obtain ⟨⟨⟨⟨⟨⟨hid, hclass, hstatus, howner, hcoordinate, hmode, -⟩, hsources⟩, hresources⟩, hnodes⟩, hrisks⟩,
    hrequires⟩ := htexts
  obtain ⟨bindings, hbindings, h⟩ := bind_eq_ok_iff.1 h
  obtain rfl := pure_eq_ok_iff.1 h
  have hbound : Canonical (.list (bindings.map obj)) := by
    refine canonical_list fun x hx => ?_
    obtain ⟨binding, hbinding, rfl⟩ := List.mem_map.1 hx
    obtain ⟨ref, href, hget⟩ := (mem_of_mapM hbindings).1 hbinding
    exact canonical_sourceBinding (hsources ref href) hget
  have href : Encodable (capabilityRef c.capabilityId) := encodable_append.2 ⟨encodable_cp _, hid⟩
  refine canonical_obj ?_
  simp only [List.forall_mem_cons]
  exact ⟨canonical_str hclass, canonical_str hid, canonical_str href, canonical_str hcoordinate,
    canonical_lit _, canonical_str hmode, canonical_texts hnodes, canonical_str howner,
    canonical_str hstatus, canonical_texts hrequires, canonical_texts hresources, canonical_texts hrisks,
    canonical_lit _, canonical_lit _, hbound, by simp⟩

theorem canonical_coverageOf {indices : List PyVal} (h : ∀ v ∈ indices, Canonical v) :
    Canonical (coverageOf indices) := by
  have hrefs : ∀ v ∈ (indices.filter fun v => pyEq (v.get "content_scope") (lit "REFERENCE_ONLY")).map
      (fun v => v.get "ref"), Canonical v := by
    intro v hv
    obtain ⟨w, hw, rfl⟩ := List.mem_map.1 hv
    exact (h w (List.mem_of_mem_filter hw)).get "ref"
  refine canonical_obj ?_
  simp only [List.forall_mem_cons]
  exact ⟨canonical_bool _, canonical_lit _, canonical_lit _, canonical_bool _, canonical_lit _, canonical_lit _,
    canonical_lit _, canonical_list hrefs, by simp⟩

/-- A projection of parts with canonical texts has one. -/
theorem canonical_projectionFields {registry : Registry} {required : List PyStr} {taskId : PyStr}
    {catalogue indices : List PyVal} {bindings : List (List (String × PyVal))} {frame : PyVal}
    (hrequired : ∀ cid ∈ required, Encodable cid) (htask : Encodable taskId)
    (hcatalogue : ∀ row ∈ catalogue, Canonical row) (hbindings : ∀ b ∈ bindings, Canonical (obj b))
    (hindices : ∀ v ∈ indices, Canonical v) (hframe : Canonical frame) :
    Canonical (.dict (fields (projectionFields registry required taskId catalogue (bindings.map obj) indices
      frame))) := by
  have hmissing : ∀ cid ∈ sortTexts (required.filter fun cid => cid ∉ registry.ids), Encodable cid :=
    fun cid hcid => hrequired cid (List.mem_of_mem_filter (mem_sortTexts.1 hcid))
  have hbound : ∀ v ∈ bindings.map obj, Canonical v := by
    intro v hv
    obtain ⟨b, hb, rfl⟩ := List.mem_map.1 hv
    exact hbindings b hb
  have href : Encodable (cp "task:" ++ taskId) := encodable_append.2 ⟨encodable_cp _, htask⟩
  refine canonical_obj ?_
  rw [projectionFields]
  simp only [List.forall_mem_cons]
  exact ⟨canonical_list hcatalogue, ⟨.int _, rfl⟩, canonical_coverageOf hindices, canonical_lit _,
    canonical_texts hmissing, canonical_texts fun cid hcid => hrequired cid (mem_sortTexts.1 hcid),
    canonical_lit _, canonical_list hbound, canonical_list hindices, canonical_lit _, hframe, canonical_str href,
    by simp⟩

/-! ### The projection of a task -/

/-- What is listed as required is the least set that has what the task requires and is closed, and the
validator accepts the projection for the task. -/
def Projected (registry : Registry) (requested refs : List PyStr) (taskId : PyStr) (value : PyVal) : Prop :=
  (∃ required, value.get "required_capability_ids" = texts required ∧
    IsLeast {s | RequiredSet registry requested refs s} {cid | cid ∈ required}) ∧
  ∃ out, validateCapabilityContextProjection value (cp "task:" ++ taskId) none = .ok out

/-- **A projection that was built.**  For a registry that is accepted and a task whose projection is built,
what is required is the least closed set and the validator accepts the projection if and only if no identifier
in the registry ends in a line feed. -/
theorem projected_iff {root : Root} {task : Items} {value : PyVal} {taskId : PyStr} {registry : Registry}
    {requested refs : List PyStr} (htask : getItem task (cp "TASK_ID") = some (.str taskId))
    (hload : loadInternalizationRegistry root = .ok registry)
    (hrequested : idList (getOr task "REQUIRED_CAPABILITY_IDS" (.list [])) = .ok requested)
    (hrefs : taskSourceRefs task = .ok refs) (h : buildCapabilityContextProjection root task = .ok value) :
    Projected registry requested refs taskId value ↔
      ∀ c ∈ registry.capabilities, c.capabilityId.getLast? ≠ some 10 := by
  have haccepted := accepted_of_load hload
  obtain ⟨built⟩ := built_of_build htask hload hrequested hrefs h
  have hleast := @isLeast_requiredIds registry requested refs haccepted.ids
  have hvalid := validate_built_iff haccepted built
    (isCapabilityId_of_required haccepted hrequested) nodup_requiredIds hleast.1.2.2.2
  have hfeed : (∀ c ∈ registry.capabilities, isCapabilityId c.capabilityId = true) ↔
      ∀ c ∈ registry.capabilities, c.capabilityId.getLast? ≠ some 10 :=
    forall₂_congr fun c hc => isCapabilityId_iff (haccepted.pattern c hc)
  rw [Projected, hvalid, hfeed]
  refine and_iff_right ⟨sortTexts (requiredIds registry requested refs), ?_, ?_⟩
  · rw [built.eq, PyVal.get, getItem_setKey, if_neg (by simp [cp_inj]), built.projection.required,
      Option.getD_some]
  · have hsame : {cid | cid ∈ sortTexts (requiredIds registry requested refs)} =
        {cid | cid ∈ requiredIds registry requested refs} := Set.ext fun cid => mem_sortTexts
    rw [hsame]
    exact hleast

/-- A capability of the registry below. -/
def sampleCapability (id : PyVal) (cls : String) : PyVal := obj [("capability_class", lit cls),
  ("capability_id", id),
  ("d3_coordinate", obj [("coordinate_ref", lit "c"), ("node_scope", .list [lit "n"]), ("owner_ref", lit "o")]),
  ("d5_execution", obj [("direct_effect", .bool false), ("mode", lit "READ_ONLY"),
    ("side_effect_boundary", lit "b")]),
  ("d7_risk", obj [("fail_closed", .bool true), ("risk_tags", .list [])]),
  ("d8_authority", obj [("canonical", .bool false), ("final_decision", .bool false),
    ("provider_authority", .bool false), ("requires_total_field_verify", .bool true)]),
  ("resource_refs", .list []), ("selection_tags", .list [lit "t"]), ("source_refs", .list [lit "x:y"]),
  ("status", lit "IMPLEMENTED")]

/-- A registry in which one identifier ends in some text. -/
def sampleValue (ending : String) : PyVal := obj [
  ("authority_boundary", obj [("external_authority_inherited", .bool false),
    ("formal_effect_boundary", lit "TAIJI01_TOTAL_FIELD"), ("provider_authority", .bool false),
    ("total_field_verify_required", .bool true)]),
  ("canonical", .bool false),
  ("capabilities", .list [sampleCapability (.str (cp "CAP_INTERNAL_A_V1" ++ cp ending)) "CLAW",
    sampleCapability (lit "CAP_INTERNAL_B_V1") "LLM", sampleCapability (lit "CAP_INTERNAL_C_V1") "STATIC_PULL",
    sampleCapability (lit "CAP_INTERNAL_DYNAMIC_CONTEXT_V1") "DYNAMIC_CONTEXT",
    sampleCapability (lit "CAP_INTERNAL_E_V1") "NODE_COMPUTE",
    sampleCapability (lit "CAP_INTERNAL_F_V1") "ORIGIN_CELL", sampleCapability (lit "CAP_INTERNAL_G_V1") "GST",
    sampleCapability (lit "CAP_INTERNAL_H_V1") "NVR_READ"]),
  ("registry_role", lit "OVERLAY_ONLY_DOES_NOT_REPLACE_EXISTING_OWNERS"),
  ("schema_version", lit "W7TP-CAPABILITY-INTERNALIZATION-REGISTRY/1.0"),
  ("source_registry_refs", .list [lit "x:y"]), ("state", lit "ACTIVE_INTERNALIZATION_INDEX")]

/-- The contract in force. -/
def sampleContract : PyVal := obj [("canonical_id", lit "w"), ("dimensions", .list []),
  ("semantics", lit "8_IN_1_SINGLE_DYNAMIC_STATE_FIELD"), ("version", lit "1")]

/-- The pointer to it. -/
def samplePointer : PyVal := obj [("canonical_id", lit "w"), ("canonical_path", lit "contract.json"),
  ("canonical_sha256", .str (Sha256.hexdigest [])), ("state", lit "ACTIVE_CANONICAL"), ("version", lit "1")]

/-- The files of the registry, its schema, the pointer and the contract. -/
def sampleRoot (ending : String) : Root where
  entry path :=
    if path = cp schemaRel then .file [] none (some (obj []))
    else if path = cp registryRel then .file [] none (some (sampleValue ending))
    else if path = cp pointerRel then .file [] none (some samplePointer)
    else if path = cp "contract.json" then .file [] none (some sampleContract)
    else .missing
  outside _ := false
  schemaErrorPath _ := cp "$"


/-- A task. -/
def sampleTask : Items := fields [("TASK_ID", lit "T-1")]

/-- The registry that is read. -/
def sampleRegistry (ending : String) : Registry := readRegistry (sampleValue ending)

/-- The registry is in the order of the catalogue, and its texts can be encoded. -/
theorem registry_sample {ending : String} (h : ending = "" ∨ ending = "\n") :
    (sampleRegistry ending).rows = (sampleRegistry ending).capabilities ∧
      ∀ c ∈ (sampleRegistry ending).capabilities, ∀ t ∈ c.allTexts, Encodable t := by
  refine ⟨List.mergeSort_of_pairwise ?_, ?_⟩
  · rcases h with rfl | rfl
    · decide
    · decide
  · change ∀ c ∈ (sampleRegistry ending).capabilities, ∀ t ∈ c.allTexts, ∀ code ∈ t, ¬IsSurrogate code
    rcases h with rfl | rfl
    · decide
    · decide

/-- The frame of the contract. -/
def sampleFrame : PyVal := obj [("adi_definition_ref", lit "AGENTS.md#2.2"),
  ("canonical_id", lit "w"), ("dimensions", .list []),
  ("effect_authority_ref", lit "runtime/total_field/ACTIVE_TOTAL_FIELD_AUTHORITY.json"),
  ("founder_definition_authority", lit "FOUNDER_ONLY"), ("provider_authority", .bool false),
  ("semantics", lit "8_IN_1_SINGLE_DYNAMIC_STATE_FIELD"), ("version", lit "1")]

theorem currentContract_sample (ending : String) : currentContract (sampleRoot ending) =
    .ok (bindingOf (cp "contract.json") "FILE_HASH_OBSERVED" (.str (Sha256.hexdigest [])),
      sampleContract) := by
  have hpointer : loadJson (sampleRoot ending) (cp pointerRel) "CAPABILITY_CONTEXT_POINTER_MISSING" =
      .ok samplePointer := rfl
  have hbinding : sourceBinding (sampleRoot ending) (cp "contract.json") =
      .ok (bindingOf (cp "contract.json") "FILE_HASH_OBSERVED" (.str (Sha256.hexdigest []))) := rfl
  have hpath : samplePointer.get "canonical_path" = .str (cp "contract.json") := by simp [samplePointer, lit]
  have hsame : pyEq (bindingSha256 (bindingOf (cp "contract.json") "FILE_HASH_OBSERVED"
      (.str (Sha256.hexdigest [])))) (samplePointer.get "canonical_sha256") = true := by
    rw [show samplePointer.get "canonical_sha256" = .str (Sha256.hexdigest []) by simp [samplePointer]]
    exact pyEq_str.2 rfl
  rw [currentContract, hpointer, ok_bind, hpath]
  dsimp only
  rw [hbinding, ok_bind, hsame]
  rfl

set_option maxRecDepth 4000 in
theorem load_sample {ending : String} (h : ending = "" ∨ ending = "\n") :
    loadInternalizationRegistry (sampleRoot ending) = .ok (sampleRegistry ending) := by
  rcases h with rfl | rfl
  · rfl
  · rfl

/-- The projection of the task is built. -/
theorem build_sample {ending : String} (h : ending = "" ∨ ending = "\n") :
    ∃ value, buildCapabilityContextProjection (sampleRoot ending) sampleTask = .ok value := by
  obtain ⟨hrows, htexts⟩ := registry_sample h
  rw [Registry.rows] at hrows
  have hrequired : requiredIds (sampleRegistry ending) [] [] = [dynamicContext] := by
    rcases h with rfl | rfl
    · rfl
    · rfl
  obtain ⟨catalogue, hcatalogue⟩ : ∃ catalogue, (sampleRegistry ending).capabilities.mapM
      (catalogueRow (sampleRoot ending) [dynamicContext]) = .ok catalogue := by
    rcases h with rfl | rfl
    · exact ⟨_, rfl⟩
    · exact ⟨_, rfl⟩
  obtain ⟨first, hfirst⟩ : ∃ first, [registryRel, schemaRel, pointerRel].mapM
      (fun ref => sourceBinding (sampleRoot ending) (cp ref)) = .ok first := ⟨_, rfl⟩
  obtain ⟨others, hothers⟩ : ∃ others, boundRefs.mapM
      (fun ref => sourceBinding (sampleRoot ending) (cp ref)) = .ok others := ⟨_, rfl⟩
  have hindices : (sampleRegistry ending).sourceRegistryRefs.mapM
      (sourceIndexProjection (sampleRoot ending)) = .ok [referenceOnly (bindingOf (cp "x:y")
        "EXTERNAL_REFERENCE_NOT_PROBED" .none)] := by
    have hbinding : sourceBinding (sampleRoot ending) (cp "x:y") =
      .ok (bindingOf (cp "x:y") "EXTERNAL_REFERENCE_NOT_PROBED" .none) := rfl
    have hrefs : (sampleRegistry ending).sourceRegistryRefs = [cp "x:y"] := by
      simp [sampleRegistry, readRegistry, sampleValue, itemsOf, textOf, lit]
    rw [hrefs, List.mapM_cons, sourceIndexProjection, hbinding, ok_bind, if_pos]
    · rfl
    · simp [bindingOf, List.lookup_cons, lit, cp_inj]
  rw [buildCapabilityContextProjection, show getItem sampleTask (cp "TASK_ID") = some (.str (cp "T-1")) from rfl]
  dsimp only
  rw [if_neg (by decide), load_sample h, ok_bind, currentContract_sample, ok_bind]
  dsimp only
  rw [show idList (getOr sampleTask "REQUIRED_CAPABILITY_IDS" (PyVal.list [])) = .ok [] from rfl, ok_bind,
    show taskSourceRefs sampleTask = .ok [] from rfl, ok_bind, hrows, hrequired, hcatalogue, ok_bind, hindices,
    ok_bind]
  have hframe : systemFrame sampleContract = .ok sampleFrame := rfl
  rw [hframe, ok_bind, hfirst, ok_bind, hothers, ok_bind]
  have hrows' : ∀ row ∈ catalogue, Canonical row := by
    intro row hrow
    obtain ⟨c, hc, hget⟩ := (mem_of_mapM hcatalogue).1 hrow
    exact canonical_catalogueRow (htexts c hc) hget
  have hcontract : Canonical (obj (bindingOf (cp "contract.json") "FILE_HASH_OBSERVED"
      (.str (Sha256.hexdigest [])))) := by
    have hbinding : sourceBinding (sampleRoot ending) (cp "contract.json") =
        .ok (bindingOf (cp "contract.json") "FILE_HASH_OBSERVED" (.str (Sha256.hexdigest []))) := rfl
    exact canonical_sourceBinding (encodable_cp _) hbinding
  have hbindings : ∀ binding ∈ first ++ bindingOf (cp "contract.json") "FILE_HASH_OBSERVED"
      (.str (Sha256.hexdigest [])) :: others, Canonical (obj binding) := by
    refine List.forall_mem_append.2 ⟨fun binding hbinding => ?_, List.forall_mem_cons.2 ⟨hcontract,
      fun binding hbinding => ?_⟩⟩
    · obtain ⟨ref, -, hget⟩ := (mem_of_mapM hfirst).1 hbinding
      exact canonical_sourceBinding (encodable_cp _) hget
    · obtain ⟨ref, -, hget⟩ := (mem_of_mapM hothers).1 hbinding
      exact canonical_sourceBinding (encodable_cp _) hget
  have hnone : Canonical .none := ⟨.none, rfl⟩
  have hlist : Canonical (.list []) := canonical_list (by simp)
  have hindex : Canonical (referenceOnly (bindingOf (cp "x:y") "EXTERNAL_REFERENCE_NOT_PROBED" .none)) := by
    refine canonical_obj ?_
    simp only [bindingOf, List.forall_mem_cons]
    exact ⟨canonical_lit _, canonical_lit _, hlist, canonical_str (encodable_cp _), hnone, canonical_lit _, by simp⟩
  have hsystem : Canonical sampleFrame := by
    refine canonical_obj ?_
    simp only [List.forall_mem_cons]
    exact ⟨canonical_lit _, canonical_lit _, hlist, canonical_lit _, canonical_lit _, canonical_bool _,
      canonical_lit _, canonical_lit _, by simp⟩
  have hdynamic : ∀ cid ∈ [dynamicContext], Encodable cid := by
    rw [List.forall_mem_singleton]
    exact encodable_cp _
  have hcanonical := @canonical_projectionFields (sampleRegistry ending) _ _ _ _ _ _ hdynamic (encodable_cp "T-1")
    hrows' hbindings (List.forall_mem_singleton.2 hindex) hsystem
  obtain ⟨digest, hdigest⟩ := projectionHash_ok hcanonical
  rw [hdigest]
  exact ⟨_, rfl⟩

set_option maxRecDepth 4000 in
/-- The projection of the task is the least closed set, and it is accepted. -/
theorem projected_sample : ∃ value, buildCapabilityContextProjection (sampleRoot "") sampleTask = .ok value ∧
    Projected (sampleRegistry "") [] [] (cp "T-1") value := by
  obtain ⟨value, hvalue⟩ := build_sample (.inl rfl)
  have htask : getItem sampleTask (cp "TASK_ID") = some (.str (cp "T-1")) := rfl
  refine ⟨value, hvalue, (projected_iff htask (load_sample (.inl rfl)) rfl rfl hvalue).2 ?_⟩
  decide

set_option maxRecDepth 4000 in
/-- With an identifier that ends in a line feed the registry is accepted and the projection is built, but it is
rejected by the validator. -/
theorem not_projected_feed : ∃ value,
    loadInternalizationRegistry (sampleRoot "\n") = .ok (sampleRegistry "\n") ∧
    buildCapabilityContextProjection (sampleRoot "\n") sampleTask = .ok value ∧
    ¬Projected (sampleRegistry "\n") [] [] (cp "T-1") value := by
  obtain ⟨value, hvalue⟩ := build_sample (.inr rfl)
  have hload := load_sample (.inr rfl)
  have htask : getItem sampleTask (cp "TASK_ID") = some (.str (cp "T-1")) := rfl
  have hrequested : idList (getOr sampleTask "REQUIRED_CAPABILITY_IDS" (.list [])) = .ok [] := rfl
  refine ⟨value, hload, hvalue, fun hprojected => ?_⟩
  have haccepted := accepted_of_load hload
  have hleast := @isLeast_requiredIds (sampleRegistry "\n") [] [] haccepted.ids
  obtain ⟨built⟩ := built_of_build htask hload hrequested rfl hvalue
  have hmatch := (validate_built_iff haccepted built (isCapabilityId_of_required haccepted hrequested)
    nodup_requiredIds hleast.1.2.2.2).1 hprojected.2
  exact absurd hmatch (by decide)

end CapabilityContext
