/-
**The values of the TRUE8D runtime.**

`tfct_true8d_runtime_candidate.py` computes with JSON values.  Whatever it is given it copies first: the copy
is refused when it is no JSON, and has none of the caller's containers in it.  An event, an observation
domain and a state of eight fields are made from mappings with exactly the keys they have to have.

A state is given by JSON values, so what was copied once is copied without a change.

Main definitions:

* `True8D.deepCopyJson`, `True8D.canonicalSha256` — a copy, and the hash of a canonical text;
* `True8D.closedMapping` — a copy with given keys;
* `True8D.Event`, `True8D.ObservationDomain`, `True8D.EightFieldState`.

Main results:

* `True8D.deepCopyJson_eq` — a JSON value is its own copy;
* `True8D.EightFieldState.fromMapping_toDict` — a state is made from its own mapping.
-/

import Wuchang.CoordinateTransition
import Wuchang.PyFloatRead

set_option relaxedAutoImplicit false
set_option autoImplicit false

namespace True8D

open Py

/-- `RuntimeCandidateError` -/
structure RuntimeCandidateError where
  reasonCode : String
  detail : PyStr
  deriving DecidableEq, Repr

/-- An exception: a `RuntimeCandidateError`, or one of the interpreter's. -/
abbrev Fault := Raise RuntimeCandidateError

/-- `raise RuntimeCandidateError(reason_code, detail)` -/
def reject {α : Type} (reasonCode : String) (detail : PyStr) : Except Fault α := .error (.own ⟨reasonCode, detail⟩)

/-- `if c: raise RuntimeCandidateError(reason_code, detail)` -/
def rejectIf (c : Prop) [Decidable c] (reasonCode : String) (detail : PyStr) : Except Fault Unit :=
  raiseIf c ⟨reasonCode, detail⟩

theorem rejectIf_neg {c : Prop} [Decidable c] (h : ¬c) (reasonCode : String) (detail : PyStr) :
    rejectIf c reasonCode detail = .ok () := raiseIf_neg h _

theorem rejectIf_eq_ok_iff {c : Prop} [Decidable c] {reasonCode : String} {detail : PyStr} {u : Unit} :
    rejectIf c reasonCode detail = .ok u ↔ ¬c := raiseIf_eq_ok_iff

/-! ### Copies -/

/-- A value of the type `JSONValue`. -/
abbrev IsJson : PyVal → Prop := Json fun _ => True

/-- `f"{path}.{key}"` -/
def atKey (path k : PyStr) : PyStr := path ++ cp "." ++ k

/-- `f"{path}[{index}]"` -/
def atIndex (path : PyStr) (i : ℕ) : PyStr := path ++ cp "[" ++ intText i ++ cp "]"

mutual

/-- `_clone_json` -/
def cloneJson (path : PyStr) : PyVal → Except Fault PyVal
  | .none => .ok .none
  | .bool b => .ok (.bool b)
  | .int n => .ok (.int n)
  | .str s => .ok (.str s)
  | .float x => do
      rejectIf (¬x.isFinite) "ERR_NON_FINITE_NUMBER" path
      pure (.float x)
  | .list xs => do
      let ys ← cloneList path 0 xs
      pure (.list ys)
  | .dict items => do
      let cloned ← cloneItems path [] items
      pure (.dict cloned)
  | .other => reject "ERR_NON_JSON_VALUE" path

/-- The elements of a list, from the index `i` on. -/
def cloneList (path : PyStr) (i : ℕ) : List PyVal → Except Fault (List PyVal)
  | [] => .ok []
  | x :: xs => do
      let y ← cloneJson (atIndex path i) x
      let ys ← cloneList path (i + 1) xs
      pure (y :: ys)

/-- The items of a dictionary, added to those that are cloned already. -/
def cloneItems (path : PyStr) (cloned : Items) : Items → Except Fault Items
  | [] => .ok cloned
  | (.other, _) :: _ => reject "ERR_JSON_OBJECT_KEY_TYPE" path
  | (.str k, item) :: items => do
      let v ← cloneJson (atKey path k) item
      cloneItems path (setKey k v cloned) items

end

theorem isJson_of_cloneList {xs : List PyVal} (ih : ∀ x ∈ xs, ∀ path w, cloneJson path x = .ok w → IsJson w)
    {path : PyStr} {i : ℕ} {ys : List PyVal} (h : cloneList path i xs = .ok ys) : ∀ y ∈ ys, IsJson y := by
  induction xs generalizing i ys with
  | nil =>
      cases h
      simp
  | cons x xs ihxs =>
      rw [cloneList] at h
      obtain ⟨y, hy, h⟩ := bind_eq_ok_iff.1 h
      obtain ⟨zs, hzs, h⟩ := bind_eq_ok_iff.1 h
      obtain rfl := pure_eq_ok_iff.1 h
      exact List.forall_mem_cons.2 ⟨ih x (by simp) _ _ hy, ihxs (fun x hx => ih x (by simp [hx])) hzs⟩

theorem isJson_of_cloneItems {items : Items}
    (ih : ∀ p ∈ items, ∀ path w, cloneJson path p.2 = .ok w → IsJson w) {path : PyStr} {cloned out : Items}
    (hcloned : IsJson (.dict cloned)) (h : cloneItems path cloned items = .ok out) : IsJson (.dict out) := by
  induction items generalizing cloned with
  | nil =>
      cases h
      exact hcloned
  | cons p items ihitems =>
      obtain ⟨k, item⟩ := p
      cases k with
      | other => cases h
      | str k =>
          rw [cloneItems] at h
          obtain ⟨v, hv, h⟩ := bind_eq_ok_iff.1 h
          exact ihitems (fun p hp => ih p (by simp [hp]))
            (hcloned.setKey trivial (ih (.str k, item) (by simp) _ _ hv)) h

/-- What was cloned is JSON. -/
theorem isJson_of_cloneJson {v w : PyVal} {path : PyStr} (h : cloneJson path v = .ok w) : IsJson w := by
  induction v using PyVal.induct generalizing path w with
  | none =>
      cases h
      exact .none
  | bool b =>
      cases h
      exact .bool b
  | int n =>
      cases h
      exact .int n
  | str s =>
      cases h
      exact .str s
  | other => cases h
  | float x =>
      rw [cloneJson] at h
      obtain ⟨_, hfinite, h⟩ := bind_eq_ok_iff.1 h
      obtain rfl := pure_eq_ok_iff.1 h
      exact .float x (not_not.1 (rejectIf_eq_ok_iff.1 hfinite))
  | list xs ih =>
      rw [cloneJson] at h
      obtain ⟨ys, hys, h⟩ := bind_eq_ok_iff.1 h
      obtain rfl := pure_eq_ok_iff.1 h
      exact .list ys (isJson_of_cloneList (fun x hx path w => ih x hx) hys)
  | dict items ih =>
      rw [cloneJson] at h
      obtain ⟨cloned, hcloned, h⟩ := bind_eq_ok_iff.1 h
      obtain rfl := pure_eq_ok_iff.1 h
      exact isJson_of_cloneItems (fun p hp path w => ih p hp) (.dict [] (by decide) (by simp) (by simp)) hcloned

theorem cloneList_of_isJson {xs : List PyVal} (h : ∀ x ∈ xs, ∀ path, cloneJson path x = .ok x) (path : PyStr)
    (i : ℕ) : cloneList path i xs = .ok xs := by
  induction xs generalizing i with
  | nil => rfl
  | cons x xs ih =>
      rw [cloneList, h x (by simp), ok_bind, ih fun y hy => h y (by simp [hy])]
      rfl

/-- Sorted items are added behind those that are there already. -/
theorem cloneItems_of_isJson {items : Items} (h : ∀ p ∈ items, ∀ path, cloneJson path p.2 = .ok p.2)
    (keys : ∀ p ∈ items, ∃ s, p.1 = .str s ∧ True) (path : PyStr) (cloned : Items)
    (hsorted : Sorted (cloned ++ items)) : cloneItems path cloned items = .ok (cloned ++ items) := by
  induction items generalizing cloned with
  | nil =>
      rw [List.append_nil]
      rfl
  | cons p items ih =>
      obtain ⟨s, hs, -⟩ := keys p (by simp)
      have hlt : ∀ q ∈ cloned, q.1.lt (.str s) := by
        intro q hq
        rw [Sorted, List.map_append, List.pairwise_append] at hsorted
        exact hs ▸ hsorted.2.2 q.1 (List.mem_map_of_mem hq) p.1 (by simp)
      obtain ⟨k, v⟩ := p
      obtain rfl : k = .str s := hs
      have hv : cloneJson (atKey path s) v = .ok v := h (.str s, v) (by simp) _
      rw [cloneItems, hv, ok_bind, setKey_of_lt hlt, ih (fun q hq => h q (by simp [hq]))
        (fun q hq => keys q (by simp [hq])), List.append_assoc, List.singleton_append]
      rwa [List.append_assoc, List.singleton_append]

/-- A JSON value is its own clone. -/
theorem cloneJson_of_isJson {v : PyVal} (hv : IsJson v) (path : PyStr) : cloneJson path v = .ok v := by
  induction hv generalizing path with
  | none => rfl
  | bool b => rfl
  | int n => rfl
  | str s => rfl
  | float x h =>
      rw [cloneJson, rejectIf_neg (not_not.2 h)]
      rfl
  | list xs _ ih =>
      rw [cloneJson, cloneList_of_isJson ih]
      rfl
  | dict items sorted keys _ ih =>
      rw [cloneJson, cloneItems_of_isJson ih keys path [] sorted]
      rfl

/-- `JSONValue` -/
abbrev JSONValue := {v : PyVal // IsJson v}

/-- `deep_copy_json`; a clone can be serialised. -/
def deepCopyJson (value : PyVal) : Except Fault JSONValue :=
  match h : cloneJson (cp "$") value with
  | .ok cloned => .ok ⟨cloned, isJson_of_cloneJson h⟩
  | .error e => .error e

/-- **A JSON value is its own copy.** -/
@[simp] theorem deepCopyJson_eq (v : JSONValue) : deepCopyJson v.1 = .ok v := by
  have hclone := cloneJson_of_isJson v.2 (cp "$")
  rw [deepCopyJson]
  split
  · next cloned h =>
      rw [hclone, Except.ok.injEq] at h
      subst h
      rfl
  · next e h =>
      rw [hclone] at h
      cases h

/-- A dictionary literal of JSON values, written in the order of its keys. -/
def jsonObj (l : List (String × JSONValue)) (h : keysSorted (l.map Prod.fst)) : JSONValue :=
  ⟨obj (l.map fun p => (p.1, p.2.1)), by
    refine Json.obj _ rfl ?_ (fun _ _ => trivial) fun p hp => ?_
    · rwa [List.map_map]
    · obtain ⟨q, -, rfl⟩ := List.mem_map.1 hp
      exact q.2.2⟩

/-- A text as a JSON value. -/
def jsonText (s : PyStr) : JSONValue := ⟨.str s, .str s⟩

/-- `canonical_json` -/
def canonicalJson (value : PyVal) : Except Fault PyStr := do
  let cloned ← deepCopyJson value
  pure (PyJson.write PyJson.compact cloned.1)

/-- `canonical_sha256` -/
def canonicalSha256 (value : PyVal) : Except Fault PyStr := do
  let text ← canonicalJson value
  let bytes ← encodeUtf8 text
  pure (Sha256.hexdigest bytes)

/-! ### Checked members -/

/-- `_require_non_empty_text` -/
def requireNonEmptyText (value : PyVal) (fieldName : PyStr) : Except Fault PyStr :=
  match value with
  | .str (c :: s) => .ok (c :: s)
  | _ => reject "ERR_REQUIRED_REFERENCE" fieldName

/-- The names that a dictionary has no item for. -/
def missingKeys (items : Items) (required : List String) : List PyStr :=
  (required.filter fun k => (getItem items (cp k)).isNone).map cp

/-- `_closed_mapping`; the required names are given in their order. -/
def closedMapping (value : PyVal) (required : List String) (location : PyStr) : Except Fault JSONValue :=
  match value with
  | .dict raw => do
      let cloned ← deepCopyJson (.dict raw)
      let missing := missingKeys (CoordinateTransition.itemsOf cloned.1) required
      rejectIf (missing ≠ []) "ERR_REQUIRED_MEMBER_MISSING" (location ++ cp ":" ++ (cp ",").intercalate missing)
      let extras := CoordinateTransition.unsupportedKeys (CoordinateTransition.itemsOf cloned.1) required
      rejectIf (extras ≠ []) "ERR_UNKNOWN_MEMBER" (location ++ cp ":" ++ (cp ",").intercalate extras)
      pure cloned
  | _ => reject "ERR_MAPPING_REQUIRED" location

/-- The value of a name in a JSON value. -/
def JSONValue.get (v : JSONValue) (k : String) : JSONValue :=
  ⟨v.1.get k, by
    obtain ⟨v, hv⟩ := v
    cases hv with
    | dict items _ _ hvals =>
        dsimp only [PyVal.get]
        cases hget : getItem items (cp k) with
        | some w =>
            obtain ⟨p, hp, rfl⟩ := mem_of_getItem hget
            exact hvals p hp
        | none => exact .none
    | _ => exact .none⟩

/-! ### Events and observation domains -/

/-- `Event` -/
structure Event where
  eventRef : PyStr
  eventCode : PyStr
  eventId : PyStr
  logicalTime : JSONValue
  ruleSetRef : PyStr
  priorityPolicyRef : PyStr
  observationDomainRef : PyStr

/-- The members of an event. -/
def eventMembers : List String := ["event_code", "event_id", "event_ref", "logical_time",
  "observation_domain_ref", "priority_policy_ref", "rule_set_ref"]

/-- `Event.from_mapping` -/
def Event.fromMapping (value : PyVal) : Except Fault Event := do
  let data ← closedMapping value eventMembers (cp "event")
  let eventRef ← requireNonEmptyText (data.get "event_ref").1 (cp "event_ref")
  let eventCode ← requireNonEmptyText (data.get "event_code").1 (cp "event_code")
  let eventId ← requireNonEmptyText (data.get "event_id").1 (cp "event_id")
  let ruleSetRef ← requireNonEmptyText (data.get "rule_set_ref").1 (cp "rule_set_ref")
  let priorityPolicyRef ← requireNonEmptyText (data.get "priority_policy_ref").1 (cp "priority_policy_ref")
  let observationDomainRef ←
    requireNonEmptyText (data.get "observation_domain_ref").1 (cp "observation_domain_ref")
  pure ⟨eventRef, eventCode, eventId, data.get "logical_time", ruleSetRef, priorityPolicyRef,
    observationDomainRef⟩

/-- `ObservationDomain` -/
structure ObservationDomain where
  observationDomainRef : PyStr
  configured : Bool
  observations : JSONValue

/-- `ObservationDomain.from_mapping` -/
def ObservationDomain.fromMapping (value : PyVal) : Except Fault ObservationDomain := do
  let data ← closedMapping value ["configured", "observation_domain_ref", "observations"]
    (cp "observation_domain")
  rejectIf (¬(data.get "observations").1.isDict) "ERR_MAPPING_REQUIRED" (cp "observations")
  let observationDomainRef ←
    requireNonEmptyText (data.get "observation_domain_ref").1 (cp "observation_domain_ref")
  match (data.get "configured").1 with
  | .bool configured => pure ⟨observationDomainRef, configured, data.get "observations"⟩
  | _ => reject "ERR_OBSERVATION_DOMAIN_CONFIGURED_TYPE" (cp "configured")

/-! ### States -/

/-- `EightFieldState` -/
structure EightFieldState where
  D1 : JSONValue
  D2 : JSONValue
  D3 : JSONValue
  D4 : JSONValue
  D5 : JSONValue
  D6 : JSONValue
  D7 : JSONValue
  D8 : JSONValue

/-- `FIELD_NAMES` -/
def fieldNames : List String := ["D1", "D2", "D3", "D4", "D5", "D6", "D7", "D8"]

/-- `EightFieldState.from_mapping` -/
def EightFieldState.fromMapping (value : PyVal) : Except Fault EightFieldState := do
  let data ← closedMapping value fieldNames (cp "eight_field_state")
  pure ⟨data.get "D1", data.get "D2", data.get "D3", data.get "D4", data.get "D5", data.get "D6",
    data.get "D7", data.get "D8"⟩

/-- The fields of a state, by their names. -/
def EightFieldState.fields (state : EightFieldState) : List (String × JSONValue) := [
  ("D1", state.D1), ("D2", state.D2), ("D3", state.D3), ("D4", state.D4), ("D5", state.D5),
  ("D6", state.D6), ("D7", state.D7), ("D8", state.D8)]

theorem EightFieldState.map_fields (state : EightFieldState) : state.fields.map Prod.fst = fieldNames := rfl

/-- `EightFieldState.to_dict` -/
def EightFieldState.toDict (state : EightFieldState) : JSONValue :=
  jsonObj state.fields (state.map_fields ▸ by decide)

/-- A mapping with exactly the names is its own copy. -/
theorem closedMapping_jsonObj {l : List (String × JSONValue)} {required : List String}
    (h : keysSorted (l.map Prod.fst)) (hnames : l.map Prod.fst = required) (location : PyStr) :
    closedMapping (jsonObj l h).1 required location = .ok (jsonObj l h) := by
  subst hnames
  have hmissing : missingKeys (fields (l.map fun p => (p.1, p.2.1))) (l.map Prod.fst) = [] := by
    rw [missingKeys, List.map_eq_nil_iff, List.filter_eq_nil_iff]
    intro k hk
    rw [Option.isNone_iff_eq_none]
    intro hnone
    obtain ⟨p, hp, rfl⟩ := List.mem_map.1 hk
    refine ne_of_getItem_none hnone (key p.1, p.2.1) ?_ rfl
    rw [fields, List.map_map]
    exact List.mem_map_of_mem hp
  have hextra : CoordinateTransition.unsupportedKeys (fields (l.map fun p => (p.1, p.2.1)))
      (l.map Prod.fst) = [] := by
    rw [CoordinateTransition.unsupportedKeys, List.filterMap_eq_nil_iff]
    intro q hq
    rw [fields, List.map_map] at hq
    obtain ⟨p, hp, rfl⟩ := List.mem_map.1 hq
    refine if_pos (List.any_eq_true.2 ⟨p.1, List.mem_map_of_mem hp, ?_⟩)
    simp
  have hcopy : deepCopyJson (.dict (fields (l.map fun p => (p.1, p.2.1)))) = .ok (jsonObj l h) :=
    deepCopyJson_eq (jsonObj l h)
  have hitems : CoordinateTransition.itemsOf (jsonObj l h).1 = fields (l.map fun p => (p.1, p.2.1)) := rfl
  change closedMapping (.dict (fields (l.map fun p => (p.1, p.2.1)))) _ _ = _
  rw [closedMapping, hcopy, ok_bind]
  dsimp only
  rw [hitems, hmissing, hextra, rejectIf_neg (not_not.2 rfl), ok_bind, rejectIf_neg (not_not.2 rfl)]
  rfl

theorem get_jsonObj {l : List (String × JSONValue)} (h : keysSorted (l.map Prod.fst)) (k : String) :
    ((jsonObj l h).get k).1 = (getItem (fields (l.map fun p => (p.1, p.2.1))) (cp k)).getD .none := rfl

/-- **A state is made from its own mapping.** -/
@[simp] theorem EightFieldState.fromMapping_toDict (state : EightFieldState) :
    fromMapping state.toDict.1 = .ok state := by
  rw [fromMapping, toDict, closedMapping_jsonObj _ state.map_fields, ok_bind]
  refine congrArg Except.ok ?_
  obtain ⟨D1, D2, D3, D4, D5, D6, D7, D8⟩ := state
  rw [EightFieldState.mk.injEq]
  refine ⟨?_, ?_, ?_, ?_, ?_, ?_, ?_, ?_⟩ <;> exact Subtype.ext (by simp [get_jsonObj, EightFieldState.fields])

end True8D
