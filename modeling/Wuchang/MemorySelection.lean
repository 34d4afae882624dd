/-
**The smallest sufficient memory set.**

A task requires objects of the ADI, and these depend on others.  The objects are checked and indexed by their
ids; a worklist, which is sorted after every object, selects what is required and what it depends on, refuses
an object that is missing or is not for the receiver, and a packet lists what was selected.

The text of a dependency that is not a string is a parameter.  The lists of required ids are lists of texts.

Main definitions:

* `MemorySelection.Request` — the arguments;
* `MemorySelection.selectSmallestSufficientMemorySet` — the selection, for as many rounds of the loop as are
  allowed;
* `MemorySelection.Reach` — the ids that can be reached from those that are required;
* `MemorySelection.Shuffled` — a request with its objects, ids and dependencies in another order.

Main results:

* `MemorySelection.of_indexObjects` — what the checks accept;
* `MemorySelection.ends_of_accepted` — how the selection ends;
* `MemorySelection.smallest_sufficient` — the selection ends, selects what can be reached, and does not depend
  on the order of the arguments.
-/

import Wuchang.CheckedClosure
import Wuchang.FieldPacket
import Wuchang.CapabilityProjection

set_option relaxedAutoImplicit false
set_option autoImplicit false

namespace MemorySelection

open Py
open CapabilityContext (climbs sortTexts sortTexts_congr mem_sortTexts)

/-! ### Objects -/

/-- An exception: a `ValueError` with a message is the module's own. -/
abbrev Fault := Raise PyStr

/-- `raise ValueError(message)` -/
def raised {α : Type} (message : PyStr) : Except Fault α := .error (.own message)

/-- The arguments. -/
structure Request where
  intentRef : PyStr
  /-- `qualified_capability_packet.get("qualified")` -/
  qualified : PyVal
  /-- `qualified_capability_packet.get("object_refs") or []` -/
  objectRefs : List PyStr
  /-- `current_task_state.get("required_object_ids") or []` -/
  requiredObjectIds : List PyStr
  adiObjects : List Items
  receiverId : PyStr

/-- A text that is not empty. -/
def isText : PyVal → Bool
  | .str s => s ≠ []
  | _ => false

/-- `_require_sha256` -/
def isSha256 : PyVal → Bool
  | .str s => Sha256.isHex64 s
  | _ => false

/-- The checks of one object, which has its id. -/
def checkObject (item : Items) : Except Fault PyStr :=
  match (PyVal.dict item).get "object_id", (PyVal.dict item).get "coordinate" with
  | .str objectId, .str coordinate =>
      if objectId = [] then raised (cp "ADI_OBJECT_COORDINATE_INVALID")
      else if (cp "/").isPrefixOf coordinate || climbs coordinate || 92 ∈ coordinate then
        raised (cp "ADI_OBJECT_COORDINATE_INVALID")
      else if !isSha256 ((PyVal.dict item).get "sha256") then
        raised (cp "HASH_INVALID:ADI:" ++ objectId ++ cp ":sha256")
      else if !isText ((PyVal.dict item).get "lineage_ref") then raised (cp "ADI_LINEAGE_REF_REQUIRED:" ++ objectId)
      else if !isText ((PyVal.dict item).get "evidence_ref") then
        raised (cp "ADI_EVIDENCE_REF_REQUIRED:" ++ objectId)
      else .ok objectId
  | _, _ => raised (cp "ADI_OBJECT_COORDINATE_INVALID")

/-- The objects by their ids. -/
abbrev Index := List (PyStr × Items)

/-- The loop that fills the index. -/
def indexObjects (index : Index) : List Items → Except Fault Index
  | [] => .ok index
  | item :: items => do
      let objectId ← checkObject item
      if objectId ∈ index.map Prod.fst then raised (cp "ADI_OBJECT_ID_COLLISION")
      else indexObjects (index ++ [(objectId, item)]) items

/-! ### The selection -/

/-- `s in v` -/
def contains (v : PyVal) (s : PyStr) : Except Fault Bool :=
  match v with
  | .list xs => .ok (xs.any fun x => match x with
      | .str t => t = s
      | _ => false)
  | .str t => .ok (s <:+: t)
  | .dict items => .ok (items.any fun p => p.1 = .str s)
  | _ => .error (.builtin .typeError)

/-- What a loop over a value goes through. -/
def elementsOf : PyVal → Except Fault (List PyVal)
  | .list xs => .ok xs
  | .str s => .ok (s.map fun c => .str [c])
  | .dict items => .ok (items.map fun p => match p.1 with
      | .str s => .str s
      | .other => .other)
  | _ => .error (.builtin .typeError)

/-- `for d in v or []` -/
def elementsOrNone (v : PyVal) : Except Fault (List PyVal) := if v.truthy then elementsOf v else .ok []

/-- `not consumers or s in consumers` -/
def isFor (consumers : PyVal) (s : PyStr) : Except Fault Bool :=
  if consumers.truthy then contains consumers s else .ok true

/-- The dependencies that are put on the list; only a text can be selected, and a list or a dictionary cannot
be looked up. -/
def appended (str : PyVal → PyStr) (selected : List PyStr) : List PyVal → Except Fault (List PyStr)
  | [] => .ok []
  | .str s :: vs => do
      let rest ← appended str selected vs
      pure (if s ∈ selected then rest else s :: rest)
  | .list _ :: _ => .error (.builtin .typeError)
  | .dict _ :: _ => .error (.builtin .typeError)
  | v :: vs => do
      let rest ← appended str selected vs
      pure (str v :: rest)

/-- The body of the loop, for an object that is not selected yet. -/
def visit (str : PyVal → PyStr) (index : Index) (receiverId : PyStr) (selected : List PyStr) (objectId : PyStr) :
    Except Fault (List PyStr) :=
  match index.lookup objectId with
  | none => raised (cp "ADI_REQUIRED_OBJECT_NOT_FOUND:" ++ objectId)
  | some item => do
      let compatible ← isFor ((PyVal.dict item).get "consumers") receiverId
      if !compatible then raised (cp "ADI_RECEIVER_INCOMPATIBLE:" ++ objectId)
      else do
        let elements ← elementsOrNone ((PyVal.dict item).get "dependencies")
        appended str selected elements

/-- The entry of a selected object. -/
def selectedObject (objectId : PyStr) (item : Items) : PyVal := obj [
  ("capability_ref", (PyVal.dict item).get "capability_ref"), ("coordinate", (PyVal.dict item).get "coordinate"),
  ("evidence_ref", (PyVal.dict item).get "evidence_ref"), ("lineage_ref", (PyVal.dict item).get "lineage_ref"),
  ("object_id", .str objectId), ("reconstruction_rule", (PyVal.dict item).get "reconstruction_rule"),
  ("sha256", (PyVal.dict item).get "sha256"), ("state", (PyVal.dict item).get "state"),
  ("verification_rule", (PyVal.dict item).get "verification_rule")]

/-- The packet without its hash. -/
def memorySet (r : Request) (index : Index) (selected : List PyStr) : List (String × PyVal) := [
  ("excluded_object_count", .int (index.length - selected.length)),
  ("float_authority_dependency", TotalField.floatAuthorityDependency),
  ("intent_ref", .str r.intentRef),
  ("receiver_id", .str r.receiverId),
  ("schema_id", lit "W7TP_ADI_SMALLEST_SUFFICIENT_MEMORY_SET_V1"),
  ("selected_objects", .list ((sortTexts selected).map fun objectId =>
    selectedObject objectId ((index.lookup objectId).getD []))),
  ("selection_predicates", .list [lit "OBJECT_ID_EXACT", lit "COORDINATE_EXACT", lit "STATE_BOUND",
    lit "LINEAGE_BOUND", lit "DEPENDENCY_CLOSURE", lit "EVIDENCE_BOUND", lit "RECEIVER_COMPATIBLE"]),
  ("semantic_similarity_used", .bool false)]

/-- `select_smallest_sufficient_memory_set`, for as many rounds of the loop as are allowed. -/
def selectSmallestSufficientMemorySet (str : PyVal → PyStr) (rounds : ℕ) (r : Request) :
    Option (Except Fault PyVal) :=
  match r.qualified with
  | .bool true => match indexObjects [] r.adiObjects with
    | .error e => some (.error e)
    | .ok index =>
        let required := (r.requiredObjectIds ++ r.objectRefs).dedup
        let outcome := CheckedClosure.run (visit str index r.receiverId) sortTexts rounds [] (sortTexts required)
        outcome.map fun selected => do
          let selected ← selected
          TotalField.finalizePacket (memorySet r index selected)
  | _ => some (raised (cp "QUALIFIED_CAPABILITY_PACKET_REQUIRED"))

/-- The selection ends with an outcome, however many rounds more are allowed. -/
def Ends (str : PyVal → PyStr) (r : Request) (outcome : Except Fault PyVal) : Prop :=
  ∃ rounds, ∀ more, rounds ≤ more → selectSmallestSufficientMemorySet str more r = some outcome

/-! ### What the checks accept -/

/-- The id of an object. -/
def idOf (item : Items) : PyStr :=
  match (PyVal.dict item).get "object_id" with
  | .str s => s
  | _ => []

/-- The object with an id. -/
def objectIn (objects : List Items) (objectId : PyStr) : Option Items :=
  objects.find? fun item => idOf item = objectId

/-- The texts in a list. -/
def textsIn : PyVal → List PyStr
  | .list xs => xs.filterMap fun x => match x with
      | .str s => some s
      | _ => none
  | _ => []

/-- The dependencies of an object. -/
def dependenciesOf (item : Items) : List PyStr := textsIn ((PyVal.dict item).get "dependencies")

/-- The dependencies are a list of texts, if there are any. -/
def TextDependencies (item : Items) : Prop :=
  ((PyVal.dict item).get "dependencies").truthy = false ∨
    (PyVal.dict item).get "dependencies" = .list ((dependenciesOf item).map .str)

/-- An object is for the receiver: it has no consumers, or the receiver is among them. -/
def ForReceiver (receiverId : PyStr) (item : Items) : Prop :=
  ((PyVal.dict item).get "consumers").truthy = false ∨
    contains ((PyVal.dict item).get "consumers") receiverId = .ok true

section Checks

variable {index : Index} {objects : List Items} {item : Items} {objectId : PyStr}

theorem idOf_of_checkObject (h : checkObject item = .ok objectId) : idOf item = objectId := by
  unfold checkObject at h
  unfold idOf
  split at h
  · rename_i s coordinate hid hcoordinate
    rw [hid]
    split_ifs at h
    · cases h
    · cases h
    · cases h
    · cases h
    · cases h
    · exact Except.ok.inj h
  · cases h

/-- **What the checks accept.**  Every object passes its checks, no two have one id, and the index has them by
their ids. -/
theorem of_indexObjects {full : Index} (h : indexObjects index objects = .ok full) :
    full = index ++ objects.map (fun item => (idOf item, item)) ∧
      (∀ item ∈ objects, checkObject item = .ok (idOf item)) ∧
      ((index.map Prod.fst).Nodup → (full.map Prod.fst).Nodup) := by
  induction objects generalizing index with
  | nil =>
      obtain rfl := Except.ok.inj h
      simp
  | cons item objects ih =>
      rw [indexObjects] at h
      obtain ⟨objectId, hcheck, h⟩ := bind_eq_ok_iff.1 h
      obtain rfl := idOf_of_checkObject hcheck
      split_ifs at h with hcollision
      · cases h
      · obtain ⟨hfull, hall, hnodup⟩ := ih h
        refine ⟨?_, List.forall_mem_cons.2 ⟨hcheck, hall⟩, fun hindex => hnodup ?_⟩
        · rw [hfull, List.append_assoc]
          rfl
        · rw [List.map_append, List.map_singleton]
          refine List.nodup_append.2 ⟨hindex, List.nodup_singleton _, fun s hs t ht hst => ?_⟩
          rw [List.mem_singleton] at ht
          rw [hst, ht] at hs
          exact hcollision hs

/-- Objects that pass their checks and have different ids are indexed. -/
theorem indexObjects_ok (hcheck : ∀ item ∈ objects, checkObject item = .ok (idOf item))
    (hnodup : (index.map Prod.fst ++ objects.map idOf).Nodup) :
    indexObjects index objects = .ok (index ++ objects.map fun item => (idOf item, item)) := by
  induction objects generalizing index with
  | nil => simp [indexObjects]
  | cons item objects ih =>
      obtain ⟨hitem, hcheck⟩ := List.forall_mem_cons.1 hcheck
      have hnew : idOf item ∉ index.map Prod.fst := fun hmem =>
        (List.nodup_append.1 hnodup).2.2 _ hmem _ List.mem_cons_self rfl
      have hnodup' : ((index ++ [(idOf item, item)]).map Prod.fst ++ objects.map idOf).Nodup := by
        simpa using hnodup
      rw [indexObjects, hitem, ok_bind, if_neg hnew, ih hcheck hnodup', List.append_assoc]
      rfl

theorem lookup_index (objects : List Items) (objectId : PyStr) :
    (objects.map fun item => (idOf item, item)).lookup objectId = objectIn objects objectId := by
  induction objects with
  | nil => rfl
  | cons item objects ih =>
      rw [List.map_cons, List.lookup_cons, objectIn, List.find?_cons]
      by_cases hid : idOf item = objectId
      · simp [hid]
      · have hne : (objectId == idOf item) = false := beq_eq_false_iff_ne.2 fun h => hid h.symm
        rw [hne, decide_eq_false hid]
        exact ih

/-- The object with an id is one of the objects, and has the id. -/
theorem of_objectIn (h : objectIn objects objectId = some item) : item ∈ objects ∧ idOf item = objectId :=
  ⟨List.mem_of_find?_eq_some h, by simpa using List.find?_some h⟩

end Checks

/-! ### The visits of the loop -/

/-- What follows an id. -/
def nextOf (r : Request) (objectId : PyStr) : List PyStr := ((objectIn r.adiObjects objectId).map dependenciesOf).getD []

/-- The object with an id is there and is for the receiver. -/
def Available (r : Request) (objectId : PyStr) : Prop :=
  ∃ item, objectIn r.adiObjects objectId = some item ∧ ForReceiver r.receiverId item

/-- The ids that can be reached from those that are required, along dependencies. -/
def Reach (r : Request) : PyStr → Prop := CheckedClosure.Reachable (nextOf r) (r.requiredObjectIds ++ r.objectRefs)

/-- The index of the objects of a request. -/
def Request.index (r : Request) : Index := r.adiObjects.map fun item => (idOf item, item)

section Visits

variable {str : PyVal → PyStr} {r : Request} {selected : List PyStr} {objectId : PyStr}

/-- Texts that are not selected are put on the list. -/
theorem appended_texts (ts : List PyStr) :
    appended str selected (ts.map .str) = .ok (ts.filter fun t => t ∉ selected) := by
  induction ts with
  | nil => rfl
  | cons t ts ih =>
      rw [List.map_cons, appended, ih, ok_bind, List.filter_cons]
      by_cases ht : t ∈ selected
      · simp [ht]
        rfl
      · simp [ht]
        rfl

theorem textsIn_falsy {v : PyVal} (h : v.truthy = false) : textsIn v = [] := by
  cases v with
  | list xs =>
      cases xs with
      | nil => rfl
      | cons x xs => cases h
  | _ => rfl

/-- The dependencies of an object. -/
theorem elementsOrNone_dependencies {item : Items} (h : TextDependencies item) :
    elementsOrNone ((PyVal.dict item).get "dependencies") = .ok ((dependenciesOf item).map .str) := by
  rw [elementsOrNone]
  split_ifs with htruthy
  · rcases h with h | h
    · rw [h] at htruthy
      cases htruthy
    · rw [h]
      rfl
  · rw [Bool.not_eq_true] at htruthy
    rw [dependenciesOf, textsIn_falsy htruthy]
    rfl

theorem isFor_eq_true_iff {receiverId : PyStr} {item : Items} :
    isFor ((PyVal.dict item).get "consumers") receiverId = .ok true ↔ ForReceiver receiverId item := by
  rw [isFor, ForReceiver]
  cases ((PyVal.dict item).get "consumers").truthy with
  | true => simp
  | false => simp

/-- What a visit does. -/
theorem visits (htexts : ∀ item ∈ r.adiObjects, TextDependencies item) :
    CheckedClosure.Visits (visit str r.index r.receiverId) (Available r) (nextOf r) := by
  have hvisit : ∀ selected objectId, (∃ item, objectIn r.adiObjects objectId = some item ∧
        ForReceiver r.receiverId item ∧ visit str r.index r.receiverId selected objectId =
          .ok ((dependenciesOf item).filter fun t => t ∉ selected)) ∨
      ¬Available r objectId ∧ ∃ e, visit str r.index r.receiverId selected objectId = .error e := by
    intro selected objectId
    unfold visit
    rw [Request.index, lookup_index]
    cases hobject : objectIn r.adiObjects objectId with
    | none =>
        refine .inr ⟨?_, _, rfl⟩
        rintro ⟨item, hitem, -⟩
        rw [hobject] at hitem
        cases hitem
    | some item =>
        have hunavailable : ¬ForReceiver r.receiverId item → ¬Available r objectId := by
          rintro hnot ⟨other, hother, hfor⟩
          rw [hobject] at hother
          exact hnot (Option.some.inj hother ▸ hfor)
        have helements := elementsOrNone_dependencies (htexts item (of_objectIn hobject).1)
        dsimp only
        cases hfor : isFor ((PyVal.dict item).get "consumers") r.receiverId with
        | error e =>
            refine .inr ⟨hunavailable fun h => ?_, e, rfl⟩
            rw [isFor_eq_true_iff.2 h] at hfor
            cases hfor
        | ok compatible =>
            cases compatible with
            | false =>
                refine .inr ⟨hunavailable fun h => ?_, _, rfl⟩
                rw [isFor_eq_true_iff.2 h] at hfor
                cases hfor
            | true =>
                refine .inl ⟨item, rfl, isFor_eq_true_iff.1 hfor, ?_⟩
                rw [ok_bind, helements]
                exact appended_texts _
  refine ⟨?_, ?_, ?_, ?_⟩
  · intro selected objectId e h
    rcases hvisit selected objectId with ⟨item, -, -, hok⟩ | ⟨hnot, -⟩
    · rw [hok] at h
      cases h
    · exact hnot
  · intro selected objectId followers h
    rcases hvisit selected objectId with ⟨item, hobject, hfor, -⟩ | ⟨-, e, he⟩
    · exact ⟨item, hobject, hfor⟩
    · rw [he] at h
      cases h
  · intro selected objectId followers h t ht
    rcases hvisit selected objectId with ⟨item, hobject, -, hok⟩ | ⟨-, e, he⟩
    · rw [hok] at h
      obtain rfl := Except.ok.inj h
      rw [nextOf, hobject]
      exact (List.mem_filter.1 ht).1
    · rw [he] at h
      cases h
  · intro selected objectId followers h t ht
    rcases hvisit selected objectId with ⟨item, hobject, -, hok⟩ | ⟨-, e, he⟩
    · rw [hok] at h
      obtain rfl := Except.ok.inj h
      rw [nextOf, hobject] at ht
      by_cases hselected : t ∈ selected
      · exact .inr hselected
      · exact .inl (List.mem_filter.2 ⟨ht, by simpa using hselected⟩)
    · rw [he] at h
      cases h

end Visits

/-! ### How the selection ends -/

/-- A request that the checks accept, with lists of texts for dependencies. -/
structure Accepted (r : Request) : Prop where
  qualified : r.qualified = .bool true
  indexed : ∃ index, indexObjects [] r.adiObjects = .ok index
  texts : ∀ item ∈ r.adiObjects, TextDependencies item

section Outcome

variable {str : PyVal → PyStr} {r : Request}

theorem Accepted.index (h : Accepted r) : indexObjects [] r.adiObjects = .ok r.index := by
  obtain ⟨index, hindex⟩ := h.indexed
  rw [hindex, (of_indexObjects hindex).1]
  rfl

/-- The loop of an accepted request ends. -/
theorem exists_selected (h : Accepted r) : ∃ rounds outcome,
    CheckedClosure.run (visit str r.index r.receiverId) sortTexts rounds []
      (sortTexts (r.requiredObjectIds ++ r.objectRefs).dedup) = some outcome := by
  refine @CheckedClosure.exists_run _ _ _ _ (r.adiObjects.map idOf).toFinset (fun selected objectId followers hvisit => ?_)
    _ _ _
  obtain ⟨item, hobject, -⟩ := (visits h.texts).accepted selected objectId followers hvisit
  obtain ⟨hmem, hid⟩ := of_objectIn hobject
  exact List.mem_toFinset.2 (List.mem_map.2 ⟨item, hmem, hid⟩)

/-- **How the selection ends.**  An id can be reached that is missing or is not for the receiver, and the
selection raises; or it ends with the packet of what can be reached. -/
theorem ends_of_accepted (h : Accepted r) :
    (∃ id e, Reach r id ∧ ¬Available r id ∧ Ends str r (.error e)) ∨
      (∀ id, Reach r id → Available r id) ∧ ∃ selected : List PyStr, selected.Nodup ∧
        (∀ id, id ∈ selected ↔ Reach r id) ∧ Ends str r (TotalField.finalizePacket (memorySet r r.index selected)) := by
  obtain ⟨rounds, outcome, hrun⟩ := @exists_selected str r h
  have hperm : ∀ l, (sortTexts l).Perm l := fun l => List.mergeSort_perm _ _
  have hpending : ∀ id, id ∈ sortTexts (r.requiredObjectIds ++ r.objectRefs).dedup ↔
      id ∈ r.requiredObjectIds ++ r.objectRefs := by
    intro id
    rw [mem_sortTexts, List.mem_dedup]
  have hselect : ∀ more, rounds ≤ more → selectSmallestSufficientMemorySet str more r =
      some (outcome >>= fun selected => TotalField.finalizePacket (memorySet r r.index selected)) := by
    intro more hle
    rw [selectSmallestSufficientMemorySet, h.qualified]
    dsimp only
    rw [h.index]
    dsimp only
    rw [CheckedClosure.run_of_le hle hrun]
    rfl
  cases outcome with
  | error e =>
      obtain ⟨id, hreach, hnot⟩ := CheckedClosure.run_error (visits h.texts) hperm hpending hrun
      exact .inl ⟨id, e, hreach, hnot, rounds, hselect⟩
  | ok selected =>
      obtain ⟨hnodup, hmem, havailable⟩ := CheckedClosure.run_ok (visits h.texts) hperm hpending hrun
      exact .inr ⟨havailable, selected, hnodup, hmem, rounds, hselect⟩

/-- A selection has one outcome. -/
theorem Ends.unique {outcome outcome' : Except Fault PyVal} (h : Ends str r outcome) (h' : Ends str r outcome') :
    outcome = outcome' := by
  obtain ⟨rounds, h⟩ := h
  obtain ⟨rounds', h'⟩ := h'
  have heq := h (rounds + rounds') (by omega)
  rw [h' (rounds + rounds') (by omega)] at heq
  exact (Option.some.inj heq).symm

/-! ### The packet -/

/-- Everything that the packet has can be hashed: it is JSON, and its texts can be encoded. -/
structure Hashable (r : Request) : Prop where
  intentRef : Encodable r.intentRef
  receiverId : Encodable r.receiverId
  objects : ∀ id item, Reach r id → objectIn r.adiObjects id = some item →
    PyJson.Plain Encodable (selectedObject id item)

/-- The packet of what can be reached is finalized if it can be hashed. -/
theorem finalizePacket_memorySet_iff {selected : List PyStr} (havailable : ∀ id, Reach r id → Available r id)
    (hmem : ∀ id, id ∈ selected ↔ Reach r id) :
    (∃ packet, TotalField.finalizePacket (memorySet r r.index selected) = (.ok packet : Except Fault PyVal)) ↔
      Hashable r := by
  rw [TotalField.finalizePacket_isOk_iff]
  have hentries : (∀ v ∈ (sortTexts selected).map fun objectId =>
        selectedObject objectId ((r.index.lookup objectId).getD []), PyJson.Plain Encodable v) ↔
      ∀ id item, Reach r id → objectIn r.adiObjects id = some item →
        PyJson.Plain Encodable (selectedObject id item) := by
    rw [List.forall_mem_map]
    constructor
    · intro h id item hreach hobject
      have hplain := h id (mem_sortTexts.2 ((hmem id).2 hreach))
      rwa [Request.index, lookup_index, hobject] at hplain
    · intro h id hid
      have hreach := (hmem id).1 (mem_sortTexts.1 hid)
      obtain ⟨item, hobject, -⟩ := havailable id hreach
      rw [Request.index, lookup_index, hobject]
      exact h id item hreach hobject
  rw [memorySet]
  simp only [List.forall_mem_cons, List.not_mem_nil, IsEmpty.forall_iff, implies_true, and_true,
    PyJson.plain_str_iff, PyJson.plain_list_iff, PyJson.plain_lit, TotalField.floatAuthorityDependency, true_and,
    PyJson.Plain.int, PyJson.Plain.bool, hentries]
  exact ⟨fun h => ⟨h.1, h.2.1, h.2.2⟩, fun h => ⟨h.1, h.2, h.3⟩⟩

/-- The ids of the selected objects of a packet. -/
def selectedIds (packet : PyVal) : List PyVal :=
  match packet.get "selected_objects" with
  | .list xs => xs.map fun x => x.get "object_id"
  | _ => []

theorem selectedIds_memorySet {index : Index} {selected : List PyStr} {packet : PyVal}
    (h : TotalField.finalizePacket (memorySet r index selected) = (.ok packet : Except Fault PyVal)) :
    selectedIds packet = (sortTexts selected).map .str := by
  have hget : packet.get "selected_objects" = .list ((sortTexts selected).map fun objectId =>
      selectedObject objectId ((index.lookup objectId).getD [])) := by
    rw [TotalField.get_finalizePacket h (by decide)]
    simp [memorySet]
  rw [selectedIds, hget]
  dsimp only
  rw [List.map_map]
  refine List.map_congr_left fun objectId _ => ?_
  simp [selectedObject]

end Outcome

/-! ### The order of the arguments -/

/-- An object with its dependencies in another order. -/
structure SameObject (item item' : Items) : Prop where
  fields : ∀ k, k ≠ "dependencies" → (PyVal.dict item').get k = (PyVal.dict item).get k
  dependencies : (dependenciesOf item').Perm (dependenciesOf item)
  texts : TextDependencies item'

/-- A request with its objects, its required ids and references, and the dependencies of the objects in another
order. -/
structure Shuffled (r r' : Request) : Prop where
  intentRef : r'.intentRef = r.intentRef
  qualified : r'.qualified = r.qualified
  receiverId : r'.receiverId = r.receiverId
  objectRefs : r'.objectRefs.Perm r.objectRefs
  requiredObjectIds : r'.requiredObjectIds.Perm r.requiredObjectIds
  objects : ∃ objects : List Items, objects.Perm r.adiObjects ∧ List.Forall₂ SameObject objects r'.adiObjects

section Order

variable {str : PyVal → PyStr} {r r' : Request} {item item' : Items} {objects objects' : List Items}

theorem SameObject.idOf (h : SameObject item item') : idOf item' = idOf item := by
  rw [MemorySelection.idOf, h.fields _ (by decide), MemorySelection.idOf]

theorem SameObject.checkObject (h : SameObject item item') : checkObject item' = checkObject item := by
  rw [MemorySelection.checkObject, h.fields _ (by decide), h.fields _ (by decide), h.fields _ (by decide),
    h.fields _ (by decide), h.fields _ (by decide), MemorySelection.checkObject]

theorem SameObject.forReceiver_iff (h : SameObject item item') (receiverId : PyStr) :
    ForReceiver receiverId item' ↔ ForReceiver receiverId item := by
  rw [ForReceiver, h.fields _ (by decide), ForReceiver]

theorem SameObject.selectedObject (h : SameObject item item') (objectId : PyStr) :
    selectedObject objectId item' = selectedObject objectId item := by
  simp only [MemorySelection.selectedObject, h.fields "capability_ref" (by decide), h.fields "coordinate" (by decide),
    h.fields "evidence_ref" (by decide), h.fields "lineage_ref" (by decide),
    h.fields "reconstruction_rule" (by decide), h.fields "sha256" (by decide), h.fields "state" (by decide),
    h.fields "verification_rule" (by decide)]

theorem map_idOf (h : List.Forall₂ SameObject objects objects') : objects'.map idOf = objects.map idOf := by
  induction h with
  | nil => rfl
  | cons hitem _ ih => rw [List.map_cons, List.map_cons, hitem.idOf, ih]

theorem exists_same (h : List.Forall₂ SameObject objects objects') :
    ∀ item' ∈ objects', ∃ item ∈ objects, SameObject item item' := by
  induction h with
  | nil => exact fun _ hmem => absurd hmem List.not_mem_nil
  | @cons item item' objects objects' hitem _ ih =>
      refine List.forall_mem_cons.2 ⟨⟨item, List.mem_cons_self, hitem⟩, fun other hother => ?_⟩
      obtain ⟨same, hsame, h⟩ := ih other hother
      exact ⟨same, List.mem_cons_of_mem _ hsame, h⟩

/-- The object with an id, where ids are different. -/
theorem objectIn_eq_some_iff (hnodup : (objects.map idOf).Nodup) {id : PyStr} :
    objectIn objects id = some item ↔ item ∈ objects ∧ idOf item = id := by
  refine ⟨of_objectIn, ?_⟩
  rintro ⟨hmem, hid⟩
  cases hfound : objectIn objects id with
  | none => exact absurd hid (by simpa using List.find?_eq_none.1 hfound item hmem)
  | some other =>
      obtain ⟨hother, hid'⟩ := of_objectIn hfound
      rw [List.inj_on_of_nodup_map hnodup hother hmem (hid'.trans hid.symm)]

theorem objectIn_perm (hperm : objects.Perm objects') (hnodup : (objects'.map idOf).Nodup) (id : PyStr) :
    objectIn objects id = objectIn objects' id := by
  have hnodup' : (objects.map idOf).Nodup := (hperm.map idOf).nodup_iff.2 hnodup
  ext item
  rw [objectIn_eq_some_iff hnodup', objectIn_eq_some_iff hnodup, hperm.mem_iff]

theorem objectIn_same (h : List.Forall₂ SameObject objects objects') (id : PyStr) :
    Option.Rel SameObject (objectIn objects id) (objectIn objects' id) := by
  induction h with
  | nil => exact .none
  | @cons item item' objects objects' hitem _ ih =>
      rw [objectIn, objectIn, List.find?_cons, List.find?_cons, hitem.idOf]
      cases decide (idOf item = id) with
      | true => exact .some hitem
      | false => exact ih

/-- The objects with an id are the same but for the order of their dependencies. -/
theorem Shuffled.objectIn (h : Shuffled r r') (hr : Accepted r) (id : PyStr) :
    Option.Rel SameObject (objectIn r.adiObjects id) (objectIn r'.adiObjects id) := by
  obtain ⟨objects, hperm, hsame⟩ := h.objects
  have hnodup := (of_indexObjects hr.index).2.2 List.nodup_nil
  rw [Request.index, List.map_map] at hnodup
  rw [← objectIn_perm hperm hnodup]
  exact objectIn_same hsame id

theorem Shuffled.accepted (h : Shuffled r r') (hr : Accepted r) : Accepted r' := by
  obtain ⟨objects, hperm, hsame⟩ := h.objects
  obtain ⟨-, hcheck, hnodup⟩ := of_indexObjects hr.index
  have hnodup := hnodup List.nodup_nil
  rw [Request.index, List.map_map] at hnodup
  have hall := exists_same hsame
  refine ⟨h.qualified.trans hr.qualified, ⟨_, indexObjects_ok (fun item' hitem' => ?_) ?_⟩, fun item' hitem' => ?_⟩
  · obtain ⟨item, hitem, hsame⟩ := hall item' hitem'
    rw [hsame.checkObject, hsame.idOf]
    exact hcheck item (hperm.mem_iff.1 hitem)
  · rw [List.map_nil, List.nil_append, map_idOf hsame]
    exact (hperm.map idOf).nodup_iff.2 hnodup
  · obtain ⟨item, -, hsame⟩ := hall item' hitem'
    exact hsame.texts

theorem Shuffled.mem_nextOf (h : Shuffled r r') (hr : Accepted r) (id dependency : PyStr) :
    dependency ∈ nextOf r' id ↔ dependency ∈ nextOf r id := by
  have hobject := h.objectIn hr id
  rw [nextOf, nextOf]
  generalize MemorySelection.objectIn r.adiObjects id = found, MemorySelection.objectIn r'.adiObjects id = found'
    at hobject ⊢
  cases hobject with
  | none => exact Iff.rfl
  | some hsame => exact hsame.dependencies.mem_iff

/-- What can be reached does not depend on the order. -/
theorem Shuffled.reach_iff (h : Shuffled r r') (hr : Accepted r) (id : PyStr) : Reach r' id ↔ Reach r id := by
  have hstart : ∀ a, a ∈ r'.requiredObjectIds ++ r'.objectRefs ↔ a ∈ r.requiredObjectIds ++ r.objectRefs :=
    fun a => (h.requiredObjectIds.append h.objectRefs).mem_iff
  exact ⟨CheckedClosure.Reachable.congr (fun a => (hstart a).1) fun a b => (h.mem_nextOf hr a b).1,
    CheckedClosure.Reachable.congr (fun a => (hstart a).2) fun a b => (h.mem_nextOf hr a b).2⟩

theorem Shuffled.available_iff (h : Shuffled r r') (hr : Accepted r) (id : PyStr) :
    Available r' id ↔ Available r id := by
  have hobject := h.objectIn hr id
  rw [Available, Available]
  generalize MemorySelection.objectIn r.adiObjects id = found, MemorySelection.objectIn r'.adiObjects id = found'
    at hobject ⊢
  cases hobject with
  | none => simp
  | some hsame => simpa [h.receiverId] using hsame.forReceiver_iff r.receiverId

/-- The packet does not depend on the order. -/
theorem Shuffled.memorySet (h : Shuffled r r') (hr : Accepted r) {selected selected' : List PyStr}
    (hperm : selected'.Perm selected) :
    memorySet r' r'.index selected' = memorySet r r.index selected := by
  obtain ⟨objects, hobjects, hsame⟩ := h.objects
  have hlen : r'.index.length = r.index.length := by
    rw [Request.index, Request.index, List.length_map, List.length_map, ← hsame.length_eq, hobjects.length_eq]
  have hentry : ∀ id, MemorySelection.selectedObject id ((r'.index.lookup id).getD []) =
      MemorySelection.selectedObject id ((r.index.lookup id).getD []) := by
    intro id
    have hobject := h.objectIn hr id
    rw [Request.index, Request.index, lookup_index, lookup_index]
    generalize MemorySelection.objectIn r.adiObjects id = found, MemorySelection.objectIn r'.adiObjects id = found'
      at hobject ⊢
    cases hobject with
    | none => rfl
    | some hsame => exact hsame.selectedObject id
  simp only [MemorySelection.memorySet, hlen, hperm.length_eq, h.intentRef, h.receiverId, sortTexts_congr hperm,
    hentry]

end Order

/-! ### The smallest sufficient set -/

/-- **The smallest sufficient set.**  The selection ends.  It raises if and only if an id can be reached that
is missing or belongs to an object that is not for the receiver, or the packet cannot be hashed.  Otherwise it
selects the ids that can be reached, each once, and the order of the arguments does not change the packet. -/
theorem smallest_sufficient (str : PyVal → PyStr) (r : Request) (h : Accepted r) :
    ∃ outcome, Ends str r outcome ∧
      ((∃ e, outcome = .error e) ↔ (∃ id, Reach r id ∧ ¬Available r id) ∨ ¬Hashable r) ∧
      (∀ packet, outcome = .ok packet → (selectedIds packet).Nodup ∧
        ∀ v, v ∈ selectedIds packet ↔ ∃ id, Reach r id ∧ v = .str id) ∧
      ∀ r', Shuffled r r' → ∀ packet, outcome = .ok packet → Ends str r' (.ok packet) := by
  rcases @ends_of_accepted str r h with ⟨id, e, hreach, hnot, hends⟩ | ⟨havailable, selected, hnodup, hmem, hends⟩
  · refine ⟨.error e, hends, iff_of_true ⟨e, rfl⟩ (.inl ⟨id, hreach, hnot⟩), ?_, ?_⟩
    · intro packet hpacket
      cases hpacket
    · intro r' _ packet hpacket
      cases hpacket
  · refine ⟨_, hends, ?_, ?_, ?_⟩
    · rw [← finalizePacket_memorySet_iff havailable hmem]
      cases TotalField.finalizePacket (memorySet r r.index selected) with
      | error e => simp
      | ok packet => simpa using havailable
    · intro packet hpacket
      rw [selectedIds_memorySet hpacket]
      refine ⟨List.Nodup.map (fun s t hst => PyVal.str.inj hst) ?_, fun v => ?_⟩
      · exact (List.mergeSort_perm _ _).nodup_iff.2 hnodup
      · simp only [List.mem_map, mem_sortTexts, hmem]
        exact ⟨fun ⟨id, hid, hv⟩ => ⟨id, hid, hv.symm⟩, fun ⟨id, hid, hv⟩ => ⟨id, hid, hv.symm⟩⟩
    · intro r' hshuffled packet hpacket
      rcases @ends_of_accepted str r' (hshuffled.accepted h) with
        ⟨id, e, hreach, hnot, -⟩ | ⟨-, selected', hnodup', hmem', hends'⟩
      · have := havailable id ((hshuffled.reach_iff h id).1 hreach)
        exact absurd ((hshuffled.available_iff h id).2 this) hnot
      · have hperm : selected'.Perm selected := (List.perm_ext_iff_of_nodup hnodup' hnodup).2 fun id => by
          rw [hmem', hmem, hshuffled.reach_iff h]
        rwa [hshuffled.memorySet h hperm, hpacket] at hends'

/-- An object that depends on itself, with a state. -/
def sampleObject (state : PyVal) : Items := fields [("coordinate", lit "adi/a"), ("dependencies", .list [lit "a"]),
  ("evidence_ref", lit "e"), ("lineage_ref", lit "l"), ("object_id", lit "a"),
  ("sha256", .str (List.replicate 64 48)), ("state", state)]

/-- A request for the object. -/
def sampleRequest (state : PyVal) : Request where
  intentRef := cp "intent"
  qualified := .bool true
  objectRefs := []
  requiredObjectIds := [cp "a"]
  adiObjects := [sampleObject state]
  receiverId := cp "receiver"

theorem dict_sample (state : PyVal) : PyVal.dict (sampleObject state) = obj [("coordinate", lit "adi/a"),
    ("dependencies", .list [lit "a"]), ("evidence_ref", lit "e"), ("lineage_ref", lit "l"), ("object_id", lit "a"),
    ("sha256", .str (List.replicate 64 48)), ("state", state)] := rfl

theorem checkObject_sample (state : PyVal) : checkObject (sampleObject state) = .ok (cp "a") := by
  have hid : (PyVal.dict (sampleObject state)).get "object_id" = .str (cp "a") := by
    simp [dict_sample, lit]
  have hcoordinate : (PyVal.dict (sampleObject state)).get "coordinate" = .str (cp "adi/a") := by
    simp [dict_sample, lit]
  have hsha : (PyVal.dict (sampleObject state)).get "sha256" = .str (List.replicate 64 48) := by
    simp [dict_sample]
  have hlineage : (PyVal.dict (sampleObject state)).get "lineage_ref" = .str (cp "l") := by
    simp [dict_sample, lit]
  have hevidence : (PyVal.dict (sampleObject state)).get "evidence_ref" = .str (cp "e") := by
    simp [dict_sample, lit]
  rw [checkObject, hid, hcoordinate, hsha, hlineage, hevidence]
  decide +kernel

theorem accepted_sample (state : PyVal) : Accepted (sampleRequest state) := by
  have hcheck := checkObject_sample state
  refine ⟨rfl, ⟨_, indexObjects_ok ?_ ?_⟩, ?_⟩
  · intro item hitem
    rw [List.mem_singleton.1 hitem, hcheck, idOf_of_checkObject hcheck]
  · exact List.nodup_singleton _
  · intro item hitem
    rw [List.mem_singleton.1 hitem]
    refine .inr ?_
    rw [dependenciesOf]
    simp [dict_sample, textsIn, lit]

/-- The request is satisfied. -/
theorem smallest_sufficient_sample : ∃ outcome, Ends (fun _ => []) (sampleRequest (lit "READY")) outcome ∧
    ((∃ e, outcome = .error e) ↔ (∃ id, Reach (sampleRequest (lit "READY")) id ∧
      ¬Available (sampleRequest (lit "READY")) id) ∨ ¬Hashable (sampleRequest (lit "READY"))) := by
  obtain ⟨outcome, hends, herror, -⟩ := smallest_sufficient (fun _ => []) (sampleRequest (lit "READY"))
    (accepted_sample _)
  exact ⟨outcome, hends, herror⟩

/-- A state that cannot be encoded is raised for, although its object is there. -/
theorem unencodable_state : ¬∀ (str : PyVal → PyStr) (r : Request), Accepted r → ∃ outcome, Ends str r outcome ∧
    ((∃ e, outcome = .error e) ↔ ∃ id, Reach r id ∧ ¬Available r id) := by
  intro h
  have haccepted := accepted_sample (.str [0xD800])
  have hobject : objectIn (sampleRequest (.str [0xD800])).adiObjects (cp "a") =
      some (sampleObject (.str [0xD800])) := by
    have hid := idOf_of_checkObject (checkObject_sample (.str [0xD800]))
    change objectIn [sampleObject (.str [0xD800])] (cp "a") = _
    rw [objectIn, List.find?_cons, hid, decide_eq_true rfl]
  have hnext : ∀ id ∈ nextOf (sampleRequest (.str [0xD800])) (cp "a"), id = cp "a" := by
    intro id hid
    rw [nextOf, hobject] at hid
    simpa [dependenciesOf, dict_sample, textsIn, lit] using hid
  have hreach : ∀ id, Reach (sampleRequest (.str [0xD800])) id → id = cp "a" := fun id hid =>
    CheckedClosure.Reachable.mem (s := {a | a = cp "a"}) (fun a ha => by simpa [sampleRequest] using ha)
      (fun a ha b hb => hnext b ((show a = cp "a" from ha) ▸ hb)) hid
  have havailable : ∀ id, Reach (sampleRequest (.str [0xD800])) id → Available (sampleRequest (.str [0xD800])) id := by
    intro id hid
    rw [hreach id hid]
    refine ⟨_, hobject, .inl ?_⟩
    simp [dict_sample]
    rfl
  obtain ⟨outcome, hends, herror⟩ := h (fun _ => []) _ haccepted
  rcases @ends_of_accepted (fun _ => []) _ haccepted with ⟨id, e, hid, hnot, -⟩ | ⟨-, selected, -, hmem, hends'⟩
  · exact hnot (havailable id hid)
  · cases houtcome : outcome with
    | error e =>
        obtain ⟨id, hid, hnot⟩ := herror.1 ⟨e, houtcome⟩
        exact hnot (havailable id hid)
    | ok packet =>
        rw [houtcome] at hends
        have hhashable := (finalizePacket_memorySet_iff havailable hmem).1 ⟨packet, (hends'.unique hends)⟩
        have hplain := hhashable.objects (cp "a") _ (.start (by simp [sampleRequest])) hobject
        have hstate := (PyJson.plain_obj_iff.1 hplain) ("state", .str [0xD800]) (by simp [dict_sample])
        rw [PyJson.plain_str_iff] at hstate
        exact hstate 0xD800 List.mem_cons_self (by decide)

end MemorySelection
