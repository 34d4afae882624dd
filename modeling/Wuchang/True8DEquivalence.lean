/-
**The comparison of two total field states.**

`compare_tfs_equivalence` compares two states with their identities in two ways: it compares their canonical
texts, and it walks through both states at once and collects the paths at which they differ.  A boolean and
a number are different here, although the interpreter takes `True` for `1`, because the types of the leaves
are compared as well.

Without floats both ways find the same: two states have one text exactly when no path is found, and exactly
when they are the same.  With floats they do not, since `0.0` and `-0.0` are equal and are written
differently.

Main definitions:

* `True8D.differencePaths` — the paths at which two values differ;
* `True8D.coerceTfs` — a state with its identities, from what can be compared;
* `True8D.compareTfsEquivalence` — the comparison;
* `True8D.NoFloat` — a value in which no float occurs.

Main results:

* `True8D.differencePaths_eq_nil_iff` — no path is found exactly when two values are the same;
* `True8D.write_eq_iff` — canonical texts are the same exactly when the values are;
* `True8D.compare_match_iff` — the comparison is exact.
-/

import Wuchang.True8DRuntime

set_option relaxedAutoImplicit false
set_option autoImplicit false

namespace True8D

open Py

/-! ### The paths at which two values differ -/

/-- `type(v)` -/
inductive JsonType where
  | none
  | bool
  | int
  | float
  | str
  | list
  | dict
  | other
  deriving DecidableEq, Repr

/-- The type of a value. -/
def typeOf : PyVal → JsonType
  | .none => .none
  | .bool _ => .bool
  | .int _ => .int
  | .float _ => .float
  | .str _ => .str
  | .list _ => .list
  | .dict _ => .dict
  | .other => .other

/-- The paths of the elements of a list from an index on. -/
def indexPaths (path : PyStr) (i : ℕ) (xs : List PyVal) : List PyStr :=
  (List.range xs.length).map fun j => atIndex path (i + j)

/-- The keys of a dictionary that another one does not have, each with its path. -/
def missingPaths (path : PyStr) (xs ys : Items) : List (PyStr × List PyStr) :=
  (ys.filter fun q => (getItem xs (keyText q.1)).isNone).map fun q =>
    (keyText q.1, [atKey path (keyText q.1)])

mutual

/-- `_difference_paths` -/
def differencePaths (path : PyStr) : PyVal → PyVal → List PyStr
  | .dict xs, .dict ys =>
      ((differenceItems path ys xs ++ missingPaths path xs ys).mergeSort fun a b => a.1 ≤ b.1).flatMap Prod.snd
  | .list xs, .list ys => differenceList path 0 xs ys
  | left, right => if !pyEq left right || typeOf left ≠ typeOf right then [path] else []

/-- The paths below the keys of a dictionary, by its keys. -/
def differenceItems (path : PyStr) (ys : Items) : Items → List (PyStr × List PyStr)
  | [] => []
  | (k, v) :: xs =>
      (keyText k, match getItem ys (keyText k) with
        | some w => differencePaths (atKey path (keyText k)) v w
        | none => [atKey path (keyText k)]) :: differenceItems path ys xs

/-- The paths below the elements of two lists, from an index on. -/
def differenceList (path : PyStr) (i : ℕ) : List PyVal → List PyVal → List PyStr
  | x :: xs, y :: ys => differencePaths (atIndex path i) x y ++ differenceList path (i + 1) xs ys
  | [], ys => indexPaths path i ys
  | xs, [] => indexPaths path i xs

end

/-- A value in which no float occurs. -/
inductive NoFloat : PyVal → Prop
  | none : NoFloat .none
  | bool (b : Bool) : NoFloat (.bool b)
  | int (n : ℤ) : NoFloat (.int n)
  | str (s : PyStr) : NoFloat (.str s)
  | list (xs : List PyVal) (h : ∀ x ∈ xs, NoFloat x) : NoFloat (.list xs)
  | dict (items : Items) (h : ∀ p ∈ items, NoFloat p.2) : NoFloat (.dict items)

/-- Two values that are no containers are the same when they are equal and have the same type, unless they
are floats. -/
theorem leaf_eq_iff {v w : PyVal} (hfloat : ∀ x, v ≠ .float x) (hlist : ∀ xs, v ≠ .list xs)
    (hdict : ∀ items, v ≠ .dict items) (hother : v ≠ .other) :
    pyEq v w = true ∧ typeOf v = typeOf w ↔ v = w := by
  cases v with
  | float x => exact absurd rfl (hfloat x)
  | list xs => exact absurd rfl (hlist xs)
  | dict items => exact absurd rfl (hdict items)
  | other => exact absurd rfl hother
  | none => cases w <;> simp [pyEq, typeOf, numOf]
  | bool b => cases b <;> cases w <;> simp [pyEq, typeOf, numOf, numEq]
  | int n => cases w <;> simp [pyEq, typeOf, numOf, numEq]
  | str s => cases w <;> simp [pyEq, typeOf, numOf]

/-- A leaf differs from a value nowhere when they are the same. -/
theorem leafPaths_eq_nil_iff {path : PyStr} {v w : PyVal} (hfloat : ∀ x, v ≠ .float x)
    (hlist : ∀ xs, v ≠ .list xs) (hdict : ∀ items, v ≠ .dict items) (hother : v ≠ .other) :
    differencePaths path v w = [] ↔ v = w := by
  have hleaf : differencePaths path v w = if !pyEq v w || typeOf v ≠ typeOf w then [path] else [] := by
    cases v with
    | list xs => exact absurd rfl (hlist xs)
    | dict items => exact absurd rfl (hdict items)
    | _ => cases w <;> rw [differencePaths] <;> simp
  rw [hleaf, ← leaf_eq_iff hfloat hlist hdict hother]
  cases pyEq v w <;> simp

/-- The elements of two lists differ nowhere when they are the same. -/
theorem differenceList_eq_nil_iff {xs ys : List PyVal}
    (ih : ∀ x ∈ xs, ∀ path w, IsJson w → (differencePaths path x w = [] ↔ x = w))
    (hys : ∀ y ∈ ys, IsJson y) (path : PyStr) (i : ℕ) : differenceList path i xs ys = [] ↔ xs = ys := by
  induction xs generalizing i ys with
  | nil =>
      cases ys with
      | nil => simp [differenceList, indexPaths]
      | cons y ys => simp [differenceList, indexPaths]
  | cons x xs ihxs =>
      cases ys with
      | nil => simp [differenceList, indexPaths]
      | cons y ys =>
          rw [List.forall_mem_cons] at ih hys
          rw [differenceList, List.append_eq_nil_iff, ih.1 _ y hys.1, ihxs ih.2 hys.2, List.cons.injEq]

/-- The items of a dictionary differ nowhere from another one when it has all of them. -/
theorem differenceItems_eq_nil_iff {path : PyStr} {xs ys : Items}
    (ih : ∀ p ∈ xs, ∀ path w, IsJson w → (differencePaths path p.2 w = [] ↔ p.2 = w))
    (hys : ∀ q ∈ ys, IsJson q.2) :
    (differenceItems path ys xs).flatMap Prod.snd = [] ↔
      ∀ p ∈ xs, getItem ys (keyText p.1) = some p.2 := by
  induction xs with
  | nil => simp [differenceItems]
  | cons p xs ihxs =>
      obtain ⟨k, v⟩ := p
      rw [List.forall_mem_cons] at ih
      rw [differenceItems, List.flatMap_cons, List.append_eq_nil_iff, ihxs ih.2, List.forall_mem_cons]
      refine and_congr_left' ?_
      cases hget : getItem ys (keyText k) with
      | none => simp
      | some w =>
          obtain ⟨q, hq, rfl⟩ := mem_of_getItem hget
          rw [ih.1 _ _ (hys q hq), Option.some.injEq]
          exact eq_comm

theorem missingPaths_eq_nil_iff {path : PyStr} {xs ys : Items} :
    (missingPaths path xs ys).flatMap Prod.snd = [] ↔
      ∀ q ∈ ys, (getItem xs (keyText q.1)).isSome = true := by
  rw [List.flatMap_eq_nil_iff]
  constructor
  · intro h q hq
    by_contra hnone
    have := h (keyText q.1, [atKey path (keyText q.1)])
      (List.mem_map_of_mem (List.mem_filter.2 ⟨hq, by simpa using hnone⟩))
    cases this
  · intro h p hp
    obtain ⟨q, hq, rfl⟩ := List.mem_map.1 hp
    have := h q (List.mem_filter.1 hq).1
    rw [Option.isSome_iff_ne_none] at this
    exact absurd (List.mem_filter.1 hq).2 (by simpa using this)

/-- Sorted items with text keys are the same when each has the items of the other. -/
theorem items_eq_iff {xs ys : Items} (hxs : IsJson (.dict xs)) (hys : IsJson (.dict ys)) :
    ((∀ p ∈ xs, getItem ys (keyText p.1) = some p.2) ∧ ∀ q ∈ ys, (getItem xs (keyText q.1)).isSome = true) ↔
      xs = ys := by
  cases hxs with
  | dict _ hxsorted hxkeys _ =>
  cases hys with
  | dict _ hysorted hykeys _ =>
      have hkeys : ∀ {zs : Items}, (∀ p ∈ zs, ∃ s, p.1 = .str s ∧ True) → ∀ p ∈ zs, p.1 ≠ .other := by
        intro zs hzs p hp
        obtain ⟨s, hs, -⟩ := hzs p hp
        rw [hs]
        exact PyKey.noConfusion
      constructor
      · rintro ⟨hall, hsome⟩
        refine eq_of_getItem hxsorted hysorted (hkeys hxkeys) (hkeys hykeys) fun k => ?_
        cases hget : getItem xs k with
        | some v => exact (hall _ (item_mem_of_getItem hget)).symm
        | none =>
            cases hget' : getItem ys k with
            | none => rfl
            | some w =>
                have := hsome _ (item_mem_of_getItem hget')
                rw [keyText, hget] at this
                cases this
      · rintro rfl
        have hall : ∀ p ∈ xs, getItem xs (keyText p.1) = some p.2 := by
          rintro ⟨k, v⟩ hp
          obtain ⟨s, hs, -⟩ := hxkeys _ hp
          obtain rfl : k = .str s := hs
          exact getItem_of_mem hxsorted hp
        exact ⟨hall, fun q hq => by rw [hall q hq]; rfl⟩

/-- **No path is found exactly when two values are the same.** -/
theorem differencePaths_eq_nil_iff {v w : PyVal} (hfloat : NoFloat v) (hv : IsJson v) (hw : IsJson w)
    (path : PyStr) : differencePaths path v w = [] ↔ v = w := by
  induction hfloat generalizing path w with
  | none => exact leafPaths_eq_nil_iff (by simp) (by simp) (by simp) (by simp)
  | bool b => exact leafPaths_eq_nil_iff (by simp) (by simp) (by simp) (by simp)
  | int n => exact leafPaths_eq_nil_iff (by simp) (by simp) (by simp) (by simp)
  | str s => exact leafPaths_eq_nil_iff (by simp) (by simp) (by simp) (by simp)
  | list xs _ ih =>
      cases hv with
      | list _ hxs =>
          cases hw with
          | list ys hys =>
              rw [differencePaths, differenceList_eq_nil_iff (fun x hx path w hw => ih x hx (hxs x hx) hw path) hys,
                PyVal.list.injEq]
          | _ => simp [differencePaths, typeOf]
  | dict xs _ ih =>
      have hxsorted := hv
      cases hv with
      | dict _ _ _ hxs =>
          have hysorted := hw
          cases hw with
          | dict ys _ _ hys =>
              have hperm := (List.mergeSort_perm (differenceItems path ys xs ++ missingPaths path xs ys)
                fun a b => a.1 ≤ b.1).flatMap_right Prod.snd
              rw [differencePaths, ← List.length_eq_zero_iff, hperm.length_eq, List.length_eq_zero_iff,
                List.flatMap_append, List.append_eq_nil_iff, missingPaths_eq_nil_iff,
                differenceItems_eq_nil_iff (fun p hp path w hw => ih p hp (hxs p hp) hw path) hys,
                items_eq_iff hxsorted hysorted, PyVal.dict.injEq]
          | _ => simp [differencePaths, typeOf]

/-! ### Canonical texts -/

theorem canonicalJson_eq (v : JSONValue) : canonicalJson v.1 = .ok (PyJson.write PyJson.compact v.1) := by
  rw [canonicalJson, deepCopyJson_eq]
  rfl

/-- **Canonical texts are the same exactly when the values are.** -/
theorem write_eq_iff (v w : JSONValue) :
    PyJson.write PyJson.compact v.1 = PyJson.write PyJson.compact w.1 ↔ v = w := by
  constructor
  · intro h
    have hv := PyJson.loads_write_of_json PyJson.simple_compact v.2
    have hw := PyJson.loads_write_of_json PyJson.simple_compact w.2
    rw [h] at hv
    exact Subtype.ext (Option.some.inj (hv.symm.trans hw))
  · rintro rfl
    rfl

/-! ### The comparison -/

/-- `STATE_REF_PREFIX` -/
def stateRefPrefix : String := "tfs-state:candidate:v0.1:"

/-- `TFID_PREFIX` -/
def tfidPrefix : String := "tfid:candidate:v0.1:"

/-- A text with a prefix, and a hash after it. -/
def isHashRef (pre : String) (value : PyStr) : Bool :=
  (cp pre).isPrefixOf value && Sha256.isHex64 (value.drop pre.length)

/-- `TFS(...)` -/
def TFS.make (state : EightFieldState) (stateRef tfid totalFieldHash : PyStr) : Except Fault TFS := do
  rejectIf (¬isHashRef stateRefPrefix stateRef) "ERR_STATE_REF_FORMAT" []
  rejectIf (¬isHashRef tfidPrefix tfid) "ERR_TFID_FORMAT" []
  rejectIf (¬Sha256.isHex64 totalFieldHash) "ERR_TOTAL_FIELD_HASH_FORMAT" []
  pure ⟨state, stateRef, tfid, totalFieldHash⟩

/-- `TFS.to_dict` -/
def TFS.toDict (t : TFS) : JSONValue :=
  jsonObj [("state", t.state.toDict), ("state_ref", jsonText t.stateRef), ("tfid", jsonText t.tfid),
    ("total_field_hash", jsonText t.totalFieldHash)]
    (show keysSorted ["state", "state_ref", "tfid", "total_field_hash"] by decide)

/-- What can be compared. -/
inductive Node where
  | tfs (t : TFS)
  | result (r : ConvergenceResult)
  | mapping (data : Items)

/-- `_coerce_tfs`, of a state. -/
def recreate (t : TFS) : Except Fault TFS := do
  let state ← EightFieldState.fromMapping t.state.toDict.1
  TFS.make state t.stateRef t.tfid t.totalFieldHash

/-- `_coerce_tfs` -/
def coerceTfs : Node → Except Fault TFS
  | .tfs t => recreate t
  | .result r => recreate r.tfs
  | .mapping data =>
      match (getItem data (cp "state")).getD ((PyVal.dict data).get "committed") with
      | .dict value => do
          let state ← EightFieldState.fromMapping (.dict value)
          let stateRef ← requireNonEmptyText ((PyVal.dict data).get "state_ref") (cp "state_ref")
          let tfid ← requireNonEmptyText ((PyVal.dict data).get "tfid") (cp "tfid")
          let totalFieldHash ←
            requireNonEmptyText ((PyVal.dict data).get "total_field_hash") (cp "total_field_hash")
          TFS.make state stateRef tfid totalFieldHash
      | _ => reject "ERR_TFS_STATE_REQUIRED" []

/-- `status` -/
inductive EquivalenceStatus where
  | matched
  | mismatch
  deriving DecidableEq, Repr

/-- `EquivalenceResult`, without the two fields that are the same for every result. -/
structure EquivalenceResult where
  status : EquivalenceStatus
  canonicalStateMatch : Bool
  canonicalTfsMatch : Bool
  stateRefMatch : Bool
  tfidMatch : Bool
  totalFieldHashMatch : Bool
  differencePaths : List PyStr
  status_iff : status = .matched ↔ (canonicalStateMatch && canonicalTfsMatch && stateRefMatch && tfidMatch &&
    totalFieldHashMatch) = true

/-- `paths` -/
def pathsOf (left right : TFS) : List PyStr :=
  differencePaths (cp "$.state") left.state.toDict.1 right.state.toDict.1 ++
    (if left.stateRef ≠ right.stateRef then [cp "$.state_ref"] else []) ++
    (if left.tfid ≠ right.tfid then [cp "$.tfid"] else []) ++
    if left.totalFieldHash ≠ right.totalFieldHash then [cp "$.total_field_hash"] else []

/-- `compare_tfs_equivalence` -/
def compareTfsEquivalence (nodeA nodeB : Node) : Except Fault EquivalenceResult := do
  let left ← coerceTfs nodeA
  let right ← coerceTfs nodeB
  let leftState ← canonicalJson left.state.toDict.1
  let rightState ← canonicalJson right.state.toDict.1
  let leftTfs ← canonicalJson left.toDict.1
  let rightTfs ← canonicalJson right.toDict.1
  let matched := leftState == rightState && leftTfs == rightTfs && left.stateRef == right.stateRef &&
    left.tfid == right.tfid && left.totalFieldHash == right.totalFieldHash
  pure {
    status := if matched then .matched else .mismatch
    canonicalStateMatch := leftState == rightState
    canonicalTfsMatch := leftTfs == rightTfs
    stateRefMatch := left.stateRef == right.stateRef
    tfidMatch := left.tfid == right.tfid
    totalFieldHashMatch := left.totalFieldHash == right.totalFieldHash
    differencePaths := (pathsOf left right).dedup.mergeSort fun a b => a ≤ b
    status_iff := by cases h : matched <;> simpa [matched] using h }

/-- A state whose identities have their form is compared as it is. -/
theorem coerceTfs_tfs {t : TFS} (h : TFS.make t.state t.stateRef t.tfid t.totalFieldHash = .ok t) :
    coerceTfs (.tfs t) = .ok t := by
  rw [coerceTfs, recreate, EightFieldState.fromMapping_toDict, ok_bind]
  exact h

/-- The states and the identities are the same, a truth value and a number never. -/
def Same (left right : TFS) : Prop :=
  left.state.toDict.1 = right.state.toDict.1 ∧ left.stateRef = right.stateRef ∧ left.tfid = right.tfid ∧
    left.totalFieldHash = right.totalFieldHash

theorem toDict_eq_of_same {left right : TFS} (h : Same left right) : left.toDict = right.toDict := by
  obtain ⟨hstate, href, htfid, hhash⟩ := h
  rw [TFS.toDict, TFS.toDict]
  simp only [Subtype.ext hstate, href, htfid, hhash]

theorem pathsOf_eq_nil_iff {left right : TFS} (hfloat : NoFloat left.state.toDict.1) :
    pathsOf left right = [] ↔ Same left right := by
  rw [pathsOf, List.append_eq_nil_iff, List.append_eq_nil_iff, List.append_eq_nil_iff,
    differencePaths_eq_nil_iff hfloat left.state.toDict.2 right.state.toDict.2, Same, and_assoc, and_assoc]
  simp

/-- **The comparison is exact.**  Two nodes match exactly when no path is found, and no path is found exactly
when their states and identities are the same; it is enough that the first state has no floats. -/
theorem compare_match_iff {nodeA nodeB : Node} {left right : TFS} (hleft : coerceTfs nodeA = .ok left)
    (hright : coerceTfs nodeB = .ok right) (hfloat : NoFloat left.state.toDict.1) :
    ∃ r, compareTfsEquivalence nodeA nodeB = .ok r ∧ (r.status = .matched ↔ r.differencePaths = []) ∧
      (r.differencePaths = [] ↔ Same left right) := by
  have hrun : ∃ r, compareTfsEquivalence nodeA nodeB = .ok r ∧
      (r.status = .matched ↔ Same left right) ∧ (r.differencePaths = [] ↔ pathsOf left right = []) := by
    rw [compareTfsEquivalence, hleft, ok_bind, hright, ok_bind, canonicalJson_eq, ok_bind, canonicalJson_eq,
      ok_bind, canonicalJson_eq, ok_bind, canonicalJson_eq, ok_bind]
    refine ⟨_, rfl, ?_, ?_⟩
    · have hmatched : (PyJson.write PyJson.compact left.state.toDict.1 ==
          PyJson.write PyJson.compact right.state.toDict.1 && PyJson.write PyJson.compact left.toDict.1 ==
          PyJson.write PyJson.compact right.toDict.1 && left.stateRef == right.stateRef &&
          left.tfid == right.tfid && left.totalFieldHash == right.totalFieldHash) = true ↔ Same left right := by
        simp only [Bool.and_eq_true, beq_iff_eq, write_eq_iff, and_assoc]
        constructor
        · rintro ⟨hstate, -, href, htfid, hhash⟩
          exact ⟨congrArg Subtype.val hstate, href, htfid, hhash⟩
        · intro h
          exact ⟨Subtype.ext h.1, toDict_eq_of_same h, h.2⟩
      rw [← hmatched]
      dsimp only
      split
      · next h => exact iff_of_true rfl h
      · next h => exact iff_of_false EquivalenceStatus.noConfusion h
    · dsimp only
      rw [← List.length_eq_zero_iff, (List.mergeSort_perm _ _).length_eq, List.length_eq_zero_iff,
        List.dedup_eq_nil]
  obtain ⟨r, hr, hstatus, hpaths⟩ := hrun
  have hnil := @pathsOf_eq_nil_iff left right hfloat
  exact ⟨r, hr, hstatus.trans (hpaths.trans hnil).symm, hpaths.trans hnil⟩

/-- A state that is given by its first field. -/
def sampleState (d1 : JSONValue) : EightFieldState :=
  ⟨d1, jsonText [], jsonText [], jsonText [], jsonText [], jsonText [], jsonText [], jsonText []⟩

/-- It with its identities. -/
def sampleTfs (d1 : JSONValue) : TFS :=
  let hash := cp "0000000000000000000000000000000000000000000000000000000000000000"
  ⟨sampleState d1, cp stateRefPrefix ++ hash, cp tfidPrefix ++ hash, hash⟩

theorem coerceTfs_sample (d1 : JSONValue) : coerceTfs (.tfs (sampleTfs d1)) = .ok (sampleTfs d1) :=
  coerceTfs_tfs rfl

/-- The states with `True` and with `1` do not match. -/
theorem compare_sample : ∃ r, compareTfsEquivalence (.tfs (sampleTfs ⟨.bool true, .bool true⟩))
    (.tfs (sampleTfs ⟨.int 1, .int 1⟩)) = .ok r ∧ (r.status = .matched ↔ r.differencePaths = []) ∧
      (r.differencePaths = [] ↔ Same (sampleTfs ⟨.bool true, .bool true⟩) (sampleTfs ⟨.int 1, .int 1⟩)) := by
  refine compare_match_iff (coerceTfs_sample _) (coerceTfs_sample _) (.dict _ ?_)
  simp only [sampleTfs, sampleState, EightFieldState.fields, fields, List.map_cons, List.map_nil,
    List.forall_mem_cons, List.not_mem_nil, IsEmpty.forall_iff, implies_true, and_true]
  exact ⟨.bool true, .str _, .str _, .str _, .str _, .str _, .str _, .str _⟩

end True8D
