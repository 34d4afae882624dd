/-
**The references of a task packet.**

`select_task_state_support_refs` chooses, for one task of the work ledger, some of its actions and some ADI
records that the task or these actions name.  The actions are the last completed ones, and after them the
current one when it is given; the records are asked of the ADI service one after the other until there are
enough.

The current action takes one place of the budget, and the others get what is left.  When the budget is one
nothing is left, but the slice that should then be empty is the whole list.

The items of a dictionary are here in the order in which they were read.

Main definitions:

* `TaskStatePacket.collectAdiRefCandidates` — the references that occur in a value;
* `TaskStatePacket.adiRecordContextEligible` — whether the service has a current record for a reference;
* `TaskStatePacket.selectTaskStateSupportRefs` — the selection;
* `TaskStatePacket.Respects` — what a selection promises.

Main results:

* `TaskStatePacket.mem_collect_iff` — the candidates are the references that occur in a value;
* `TaskStatePacket.of_chooseRecords` — the records that are chosen;
* `TaskStatePacket.respects_iff` — when a selection keeps its promises.
-/

import Wuchang.PyEq
import Wuchang.PyJson
import Mathlib.Data.List.Nodup

set_option relaxedAutoImplicit false
set_option autoImplicit false

namespace TaskStatePacket

open Py

/-- `TaskStatePacketError`, by its code. -/
structure TaskStatePacketError where
  code : String
  deriving DecidableEq, Repr

/-- An exception. -/
abbrev Fault := Raise TaskStatePacketError

/-- `raise TaskStatePacketError(code)` -/
def hold {α : Type} (code : String) : Except Fault α := .error (.own ⟨code⟩)

/-- What the selection takes from outside. -/
structure Around where
  /-- `state/WORK_LEDGER.json`, if it can be read. -/
  work : Option PyVal
  /-- `state/ACTION_LEDGER.json`, if it can be read. -/
  action : Option PyVal
  /-- The answer of the ADI service to a request for one record, if there is one. -/
  answer : PyStr → Option PyVal
  /-- `str` of a value that is no text. -/
  text : PyVal → PyStr

/-! ### References -/

/-- A character of `REF_RE` that may come first. -/
def isAlnum (c : ℕ) : Bool := (65 ≤ c && c ≤ 90) || (97 ≤ c && c ≤ 122) || (48 ≤ c && c ≤ 57)

/-- A character of `REF_RE`. -/
def isRefChar (c : ℕ) : Bool := isAlnum c || (cp "._:@/+-").contains c

/-- `REF_RE` -/
def isRef : PyStr → Bool
  | [] => false
  | c :: s => isAlnum c && s.all isRefChar && s.length ≤ 511

/-- `_require_ref` -/
def requireRef (v : PyVal) (code : String) : Except Fault PyStr :=
  match v with
  | .str s => if isRef s then .ok s else hold code
  | _ => hold code

/-- `_ADI_REF_PREFIXES` -/
def adiRefPrefixes : List String :=
  ["capability:", "design:", "evidence:", "history:", "skill:", "task-state:"]

/-- `value.startswith(_ADI_REF_PREFIXES)` -/
def isAdiRef (s : PyStr) : Bool := adiRefPrefixes.any fun p => (cp p).isPrefixOf s

mutual

/-- `_collect_adi_ref_candidates` -/
def collectAdiRefCandidates : PyVal → List PyStr
  | .str s => if isAdiRef s then [s] else []
  | .dict items => collectItems items
  | .list xs => collectList xs
  | _ => []

/-- Those of the elements of a list. -/
def collectList : List PyVal → List PyStr
  | [] => []
  | x :: xs => collectAdiRefCandidates x ++ collectList xs

/-- Those of the values of a mapping. -/
def collectItems : Items → List PyStr
  | [] => []
  | (_, v) :: items => collectAdiRefCandidates v ++ collectItems items

end

/-- A text occurs in a value. -/
inductive Occurs (s : PyStr) : PyVal → Prop
  | here : Occurs s (.str s)
  | element {xs : List PyVal} {x : PyVal} (h : x ∈ xs) (hx : Occurs s x) : Occurs s (.list xs)
  | value {items : Items} {p : PyKey × PyVal} (h : p ∈ items) (hp : Occurs s p.2) : Occurs s (.dict items)

theorem mem_collectList {s : PyStr} {xs : List PyVal} :
    s ∈ collectList xs ↔ ∃ x ∈ xs, s ∈ collectAdiRefCandidates x := by
  induction xs with
  | nil => simp [collectList]
  | cons x xs ih => simp [collectList, ih]

theorem mem_collectItems {s : PyStr} {items : Items} :
    s ∈ collectItems items ↔ ∃ p ∈ items, s ∈ collectAdiRefCandidates p.2 := by
  induction items with
  | nil => simp [collectItems]
  | cons p items ih => simp [collectItems, ih]

/-- The candidates are the references that occur in a value. -/
theorem mem_collect_iff {s : PyStr} {v : PyVal} :
    s ∈ collectAdiRefCandidates v ↔ isAdiRef s = true ∧ Occurs s v := by
  constructor
  · intro h
    induction v using PyVal.induct with
    | str t =>
        rw [collectAdiRefCandidates] at h
        split at h
        · next href =>
            rw [List.mem_singleton.1 h]
            exact ⟨href, .here⟩
        · cases h
    | list xs ih =>
        rw [collectAdiRefCandidates, mem_collectList] at h
        obtain ⟨x, hx, h⟩ := h
        exact ⟨(ih x hx h).1, .element hx (ih x hx h).2⟩
    | dict items ih =>
        rw [collectAdiRefCandidates, mem_collectItems] at h
        obtain ⟨p, hp, h⟩ := h
        exact ⟨(ih p hp h).1, .value hp (ih p hp h).2⟩
    | _ => cases h
  · rintro ⟨href, hoccurs⟩
    induction hoccurs with
    | here => rw [collectAdiRefCandidates, if_pos href, List.mem_singleton]
    | element hx _ ih => exact mem_collectList.2 ⟨_, hx, ih⟩
    | value hp _ ih => exact mem_collectItems.2 ⟨_, hp, ih⟩

/-! ### The records of the service -/

/-- One code point of `s.upper()`, where what comes out is ASCII or has ASCII in it.  Every other code
point gives code points outside ASCII, and so is one itself: it is left as it is. -/
def upperCharAscii (c : ℕ) : PyStr :=
  if 97 ≤ c ∧ c ≤ 122 then [c - 32]
  else match c with
  | 0xDF => cp "SS"
  | 0x131 => cp "I"
  | 0x149 => 0x2BC :: cp "N"
  | 0x17F => cp "S"
  | 0x1F0 => cp "J" ++ [0x30C]
  | 0x1E96 => cp "H" ++ [0x331]
  | 0x1E97 => cp "T" ++ [0x308]
  | 0x1E98 => cp "W" ++ [0x30A]
  | 0x1E99 => cp "Y" ++ [0x30A]
  | 0x1E9A => cp "A" ++ [0x2BE]
  | 0xFB00 => cp "FF"
  | 0xFB01 => cp "FI"
  | 0xFB02 => cp "FL"
  | 0xFB03 => cp "FFI"
  | 0xFB04 => cp "FFL"
  | 0xFB05 | 0xFB06 => cp "ST"
  | c => [c]

/-- `s.upper()`, as far as the search for an ASCII text can tell. -/
def upperAscii (s : PyStr) : PyStr := s.flatMap upperCharAscii

/-- `str(v)` -/
def str (around : Around) : PyVal → PyStr
  | .str s => s
  | v => around.text v

/-- `_INELIGIBLE_CONTEXT_MARKERS` -/
def ineligibleContextMarkers : List String := ["SUPERSEDED", "STALE", "REVOKED", "HISTORICAL_EVIDENCE_ONLY"]

/-- `v is False` -/
def isFalse : PyVal → Bool
  | .bool b => !b
  | _ => false

/-- `payload.get(key, "")` -/
def getOrEmpty (payload : PyVal) (k : String) : PyVal :=
  match payload with
  | .dict items => (getItem items (cp k)).getD (lit "")
  | _ => lit ""

/-- `_adi_payload_context_eligible` -/
def adiPayloadContextEligible (around : Around) (payload : PyVal) : Bool :=
  let marks := ["CURRENT_AUTHORITY", "CURRENT_CONTEXT_ELIGIBLE", "DYNAMIC_CONTEXT_ELIGIBLE",
    "RUNTIME_DECISION_ELIGIBLE"]
  if marks.any fun k => isFalse (payload.get k) then false
  else
    let searchable := (cp " ").intercalate (["status", "state", "knowledge_type", "evidence_class"].map
      fun k => upperAscii (str around (getOrEmpty payload k)))
    !ineligibleContextMarkers.any fun marker => decide (cp marker <:+: searchable)

/-- `_post_json` of the request for one record; a reference that cannot be encoded is not caught. -/
def postJson (around : Around) (recordId : PyStr) : Except Fault PyVal := do
  let body ← PyJson.dumps PyJson.compact (obj [("ids", .list [.str recordId])])
  let _ ← (encodeUtf8 body : Except Fault (List UInt8))
  match around.answer recordId with
  | none => hold "HOLD_TASK_PACKET_NATIVE_ADI_UNAVAILABLE"
  | some (.dict items) => pure (.dict items)
  | some _ => hold "HOLD_TASK_PACKET_NATIVE_ADI_RESPONSE_INVALID"

/-- What `_adi_record_context_eligible` makes of the answer. -/
def answerEligible (around : Around) (recordId : PyStr) (value : PyVal) : Bool :=
  match (value.get "reference_lookup").get "entries", (value.get "delta").get "state_atoms" with
  | .list [.dict entry], .list [atom] =>
      pyEq ((PyVal.dict entry).get "id") (.str recordId) &&
        match atom.get "payload" with
        | .dict payload => adiPayloadContextEligible around (.dict payload)
        | _ => false
  | _, _ => false

/-- `_adi_record_context_eligible` -/
def adiRecordContextEligible (around : Around) (recordId : PyStr) : Except Fault Bool :=
  match postJson around recordId with
  | .ok value => .ok (answerEligible around recordId value)
  | .error (.own _) => .ok false
  | .error e => .error e

/-! ### The selection -/

/-- What `for item in v` goes through. -/
def elementsOf : PyVal → Except Fault (List PyVal)
  | .list xs => .ok xs
  | .dict items => .ok (items.map fun p => match p.1 with
      | .str s => .str s
      | .other => .other)
  | .str s => .ok (s.map fun c => .str [c])
  | _ => .error (.builtin .typeError)

/-- `ledger.get(k, [])`, as what is gone through. -/
def entriesOf (ledger : Items) (k : String) : Except Fault (List PyVal) :=
  elementsOf ((getItem ledger (cp k)).getD (.list []))

/-- `isinstance(item, dict) and item.get("TASK_ID") == task_ref` -/
def isOfTask (taskRef : PyStr) : PyVal → Bool
  | .dict item => pyEq ((PyVal.dict item).get "TASK_ID") (.str taskRef)
  | _ => false

/-- An action with a text as its `ACTION_ID`. -/
structure Action where
  actionId : PyStr
  item : PyVal

/-- An entry of the ledger as an action of a task. -/
def Action.ofEntry (taskRef : PyStr) (item : PyVal) : Option Action :=
  if isOfTask taskRef item then
    match item.get "ACTION_ID" with
    | .str actionId => some ⟨actionId, item⟩
    | _ => none
  else none

/-- `matching_actions` before they are sorted. -/
def actionsOf (taskRef : PyStr) (entries : List PyVal) : List Action :=
  entries.filterMap (Action.ofEntry taskRef)

/-- `v or w` -/
def orElse (v w : PyVal) : PyVal := if v.truthy then v else w

/-- The key by which actions are sorted. -/
def Action.sortKey (around : Around) (a : Action) : PyStr × PyStr :=
  (str around (orElse (orElse (a.item.get "LAST_UPDATE") (a.item.get "STARTED_AT")) (lit "")), a.actionId)

/-- `a <= b` for tuples. -/
def keyLe (a b : PyStr × PyStr) : Bool := a.1 < b.1 || (a.1 == b.1 && a.2 ≤ b.2)

/-- `matching_actions` -/
def matchingActions (around : Around) (taskRef : PyStr) (entries : List PyVal) : List Action :=
  (actionsOf taskRef entries).mergeSort fun a b => keyLe (a.sortKey around) (b.sortKey around)

/-- The action is done and has an effect. -/
def Action.completed (a : Action) : Bool :=
  pyEq (a.item.get "STATE") (lit "DONE") &&
    match a.item.get "LAST_CONFIRMED_EFFECT" with
    | .dict _ => true
    | _ => false

/-- `xs[-n:]`, which is the whole list for `n = 0`. -/
def lastSlice {α : Type} (n : ℕ) (xs : List α) : List α := if n = 0 then xs else xs.drop (xs.length - n)

/-- A budget: a number that is not a truth value, between one and the most that is allowed. -/
def checkBudget (most : ℕ) : PyVal → Except Fault ℕ
  | .int n => if 1 ≤ n ∧ n ≤ most then .ok n.toNat else hold "HOLD_TASK_PACKET_SELECTION_BUDGET_INVALID"
  | _ => hold "HOLD_TASK_PACKET_SELECTION_BUDGET_INVALID"

/-- `selected_actions` -/
def selectActions (matching : List Action) (currentActionId : Option PyStr) (maxActions : ℕ) :
    Except Fault (List Action) :=
  let selected := lastSlice maxActions (matching.filter Action.completed)
  match currentActionId with
  | some (c :: s) =>
      match matching.find? fun a => a.actionId = c :: s with
      | none => hold "HOLD_TASK_PACKET_CURRENT_ACTION_NOT_FOUND"
      | some current =>
          .ok (lastSlice (maxActions - 1) (selected.filter fun a => a.actionId ≠ c :: s) ++ [current])
  | _ => .ok selected

/-- The references that occur in what is chosen, the latest first. -/
def candidatesOf (task : PyVal) (selected : List Action) : List PyStr :=
  (match task.get "D4_EVIDENCE" with
    | .list evidence => evidence.reverse.flatMap collectAdiRefCandidates
    | _ => []) ++
  selected.reverse.flatMap fun a =>
    collectAdiRefCandidates (a.item.get "LAST_CONFIRMED_EFFECT") ++
      collectAdiRefCandidates (a.item.get "LAST_TOOL_EFFECT")

/-- `list(dict.fromkeys(xs))`, without those seen before. -/
def fromKeys (seen : List PyStr) : List PyStr → List PyStr
  | [] => []
  | x :: xs => if x ∈ seen then fromKeys seen xs else x :: fromKeys (x :: seen) xs

/-- The loop over the candidates: `n` records can still be chosen. -/
def chooseRecords (around : Around) : ℕ → List PyStr → Except Fault (List PyStr)
  | _, [] => .ok []
  | 0, _ :: _ => .ok []
  | n + 1, candidate :: candidates => do
      let eligible ← adiRecordContextEligible around candidate
      if eligible then do
        let chosen ← chooseRecords around n candidates
        pure (candidate :: chosen)
      else chooseRecords around (n + 1) candidates

/-- What is returned. -/
structure Selection where
  actionRefs : List PyStr
  adiRecordIds : List PyStr

/-- A ledger that could be read. -/
def readLedger (file : Option PyVal) : Except Fault PyVal :=
  match file with
  | none => hold "HOLD_TASK_PACKET_LEDGER_SELECTION_UNAVAILABLE"
  | some v => .ok v

/-- The items of a ledger. -/
def ledgerItems : PyVal → Except Fault Items
  | .dict items => .ok items
  | _ => hold "HOLD_TASK_PACKET_LEDGER_SELECTION_INVALID"

/-- `select_task_state_support_refs` -/
def selectTaskStateSupportRefs (around : Around) (taskId : PyVal) (currentActionId : Option PyStr)
    (maxActions maxAdiRefs : PyVal) : Except Fault Selection := do
  let taskRef ← requireRef taskId "HOLD_TASK_PACKET_TASK_ID_INVALID"
  let maxActions ← checkBudget 32 maxActions
  let maxAdiRefs ← checkBudget 64 maxAdiRefs
  let work ← readLedger around.work
  let action ← readLedger around.action
  let work ← ledgerItems work
  let action ← ledgerItems action
  let tasks ← entriesOf work "TASKS"
  match tasks.find? (isOfTask taskRef) with
  | none => hold "HOLD_TASK_PACKET_TASK_NOT_FOUND"
  | some task => do
      let entries ← entriesOf action "ACTIONS"
      let selected ← selectActions (matchingActions around taskRef entries) currentActionId maxActions
      if selected = [] then hold "HOLD_TASK_PACKET_NO_ACTION_REFS_SELECTED" else do
      let records ← chooseRecords around maxAdiRefs (fromKeys [] (candidatesOf task selected))
      if records = [] then hold "HOLD_TASK_PACKET_NO_NATIVE_ADI_REFS_SELECTED"
      else pure ⟨selected.map Action.actionId, records⟩

/-! ### Slices and records -/

section Lists

variable {α : Type}

theorem lastSlice_sublist (n : ℕ) (xs : List α) : (lastSlice n xs).Sublist xs := by
  unfold lastSlice
  split
  · exact List.Sublist.refl _
  · exact List.drop_sublist _ _

/-- A slice from the end keeps its bound, unless the bound is zero. -/
theorem length_lastSlice {n : ℕ} (hn : n ≠ 0) (xs : List α) : (lastSlice n xs).length ≤ n := by
  rw [lastSlice, if_neg hn, List.length_drop]
  omega

/-- The last element alone is the slice of length one. -/
theorem lastSlice_one (xs : List α) : lastSlice 1 xs = xs.getLast?.toList := by
  induction xs using List.reverseRecOn with
  | nil => rfl
  | append_singleton xs x _ => simp [lastSlice]

end Lists

theorem mem_fromKeys {x : PyStr} {xs : List PyStr} : ∀ {seen}, x ∈ fromKeys seen xs → x ∈ xs ∧ x ∉ seen := by
  induction xs with
  | nil => simp [fromKeys]
  | cons y xs ih =>
      intro seen h
      rw [fromKeys] at h
      split at h
      · exact ⟨List.mem_cons_of_mem _ (ih h).1, (ih h).2⟩
      · next hy =>
          rcases List.mem_cons.1 h with rfl | h
          · exact ⟨List.mem_cons_self, hy⟩
          · exact ⟨List.mem_cons_of_mem _ (ih h).1, fun hseen => (ih h).2 (List.mem_cons_of_mem _ hseen)⟩

theorem nodup_fromKeys (xs : List PyStr) : ∀ seen, (fromKeys seen xs).Nodup := by
  induction xs with
  | nil => intro seen; exact List.nodup_nil
  | cons y xs ih =>
      intro seen
      rw [fromKeys]
      split
      · exact ih seen
      · exact List.nodup_cons.2 ⟨fun h => (mem_fromKeys h).2 List.mem_cons_self, ih _⟩

/-- The records are some of the candidates, in their order, and not more than allowed. -/
theorem of_chooseRecords {around : Around} {candidates : List PyStr} :
    ∀ {n : ℕ} {chosen : List PyStr}, chooseRecords around n candidates = .ok chosen →
      chosen.Sublist candidates ∧ chosen.length ≤ n := by
  induction candidates with
  | nil =>
      intro n chosen h
      cases h
      exact ⟨List.Sublist.refl _, Nat.zero_le _⟩
  | cons c candidates ih =>
      intro n chosen h
      cases n with
      | zero =>
          cases h
          exact ⟨List.nil_sublist _, Nat.zero_le _⟩
      | succ n =>
          rw [chooseRecords] at h
          obtain ⟨eligible, -, h⟩ := bind_eq_ok_iff.1 h
          split at h
          · obtain ⟨rest, hrest, h⟩ := bind_eq_ok_iff.1 h
            cases h
            have hih := ih hrest
            exact ⟨hih.1.cons_cons c, Nat.succ_le_succ hih.2⟩
          · have hih := ih h
            exact ⟨hih.1.cons c, hih.2⟩

/-! ### The actions -/

theorem of_ofEntry {taskRef : PyStr} {item : PyVal} {a : Action} (h : Action.ofEntry taskRef item = some a) :
    item.get "TASK_ID" = .str taskRef ∧ item.get "ACTION_ID" = .str a.actionId ∧ a.item = item := by
  unfold Action.ofEntry at h
  split at h
  · next htask =>
      split at h
      · next actionId hid =>
          cases h
          refine ⟨?_, hid, rfl⟩
          cases item with
          | dict items => exact pyEq_str.1 htask
          | _ => cases htask
      · cases h
  · cases h

/-- The `ACTION_ID` of an entry, if it is a text. -/
def entryId (item : PyVal) : Option PyStr :=
  match item.get "ACTION_ID" with
  | .str s => some s
  | _ => none

theorem entryId_of_ofEntry {taskRef : PyStr} {item : PyVal} {a : Action}
    (h : Action.ofEntry taskRef item = some a) : entryId item = some a.actionId := by
  rw [entryId, (of_ofEntry h).2.1]

/-- The identifiers of a task's actions are among those of the ledger. -/
theorem sublist_actionIds (taskRef : PyStr) (entries : List PyVal) :
    ((actionsOf taskRef entries).map Action.actionId).Sublist (entries.filterMap entryId) := by
  induction entries with
  | nil => exact List.Sublist.refl _
  | cons item entries ih =>
      rw [actionsOf, List.filterMap_cons, List.filterMap_cons, ← actionsOf]
      cases hentry : Action.ofEntry taskRef item with
      | none =>
          cases entryId item with
          | none => exact ih
          | some s => exact ih.cons s
      | some a =>
          rw [entryId_of_ofEntry hentry]
          exact ih.cons_cons _

section Actions

variable {around : Around} {taskRef : PyStr} {entries : List PyVal}

theorem nodup_matchingActions (hunique : (entries.filterMap entryId).Nodup) :
    ((matchingActions around taskRef entries).map Action.actionId).Nodup :=
  ((List.mergeSort_perm _ _).map _).nodup_iff.2 (hunique.sublist (sublist_actionIds taskRef entries))

theorem of_mem_matchingActions {a : Action} (h : a ∈ matchingActions around taskRef entries) :
    a.item ∈ entries ∧ a.item.get "TASK_ID" = .str taskRef ∧ a.item.get "ACTION_ID" = .str a.actionId := by
  obtain ⟨item, hitem, hentry⟩ := List.mem_filterMap.1 (List.mem_mergeSort.1 h)
  obtain ⟨htask, hid, heq⟩ := of_ofEntry hentry
  rw [heq]
  exact ⟨hitem, htask, hid⟩

end Actions

/-- The action that was completed last. -/
def latestCompleted (matching : List Action) : Option Action := (matching.filter Action.completed).getLast?

/-- What is chosen when the current action is given: the others in the rest of the budget, and then it. -/
theorem of_current {matching : List Action} {current : Action} {maxActions : ℕ} (hpos : maxActions ≠ 0)
    (hunique : (matching.map Action.actionId).Nodup) (hcurrent : current ∈ matching) :
    let others := lastSlice (maxActions - 1) ((lastSlice maxActions (matching.filter Action.completed)).filter
      fun a => a.actionId ≠ current.actionId)
    (∀ a ∈ others ++ [current], a ∈ matching) ∧ ((others ++ [current]).map Action.actionId).Nodup ∧
      ((others ++ [current]).length ≤ maxActions ↔ (maxActions = 1 →
        ∀ a, latestCompleted matching = some a → a.actionId = current.actionId)) := by
  intro others
  have hothers : others.Sublist ((lastSlice maxActions (matching.filter Action.completed)).filter
      fun a => a.actionId ≠ current.actionId) := lastSlice_sublist _ _
  have hmatching : others.Sublist matching :=
    hothers.trans (List.filter_sublist.trans ((lastSlice_sublist _ _).trans List.filter_sublist))
  refine ⟨?_, ?_, ?_⟩
  · intro a ha
    rcases List.mem_append.1 ha with ha | ha
    · exact hmatching.subset ha
    · rw [List.mem_singleton.1 ha]
      exact hcurrent
  · rw [List.map_append, List.map_singleton, List.nodup_append]
    refine ⟨hunique.sublist (hmatching.map _), List.nodup_singleton _, ?_⟩
    intro x hx y hy
    obtain ⟨a, ha, rfl⟩ := List.mem_map.1 hx
    rw [List.mem_singleton.1 hy]
    exact of_decide_eq_true (List.mem_filter.1 (hothers.subset ha)).2
  · rw [List.length_append, List.length_singleton]
    by_cases hone : maxActions = 1
    · -- the slice that should be empty is the whole list
      have hwhole : others = (latestCompleted matching).toList.filter
          fun a => a.actionId ≠ current.actionId := by
        simp only [others, hone, Nat.sub_self]
        rw [lastSlice, if_pos rfl, lastSlice_one]
        rfl
      rw [hwhole, hone]
      cases latestCompleted matching with
      | none => simp
      | some a =>
          by_cases ha : a.actionId = current.actionId
          · simp [ha]
          · simp [ha]
    · have hlength : others.length ≤ maxActions - 1 := length_lastSlice (by omega) _
      refine iff_of_true (by omega) fun h => absurd h hone

/-- What is chosen of the actions of a task. -/
theorem of_selectActions {matching selected : List Action} {current : Option PyStr} {maxActions : ℕ}
    (hpos : maxActions ≠ 0) (hunique : (matching.map Action.actionId).Nodup)
    (h : selectActions matching current maxActions = .ok selected) :
    (∀ a ∈ selected, a ∈ matching) ∧ (selected.map Action.actionId).Nodup ∧
      (∀ actionId, current = some actionId → actionId ≠ [] →
        (selected.map Action.actionId).getLast? = some actionId) ∧
      (selected.length ≤ maxActions ↔ (maxActions = 1 → ∀ actionId, current = some actionId →
        actionId ≠ [] → ∀ a, latestCompleted matching = some a → a.actionId = actionId)) := by
  have hlast := (lastSlice_sublist maxActions (matching.filter Action.completed)).trans List.filter_sublist
  unfold selectActions at h
  dsimp only at h
  split at h
  · next c s =>
      split at h
      · cases h
      · next current hfind =>
          cases h
          have hid : current.actionId = c :: s := by simpa using List.find?_some hfind
          have hgiven := of_current hpos hunique (List.mem_of_find?_eq_some hfind)
          rw [hid] at hgiven
          refine ⟨hgiven.1, hgiven.2.1, ?_, hgiven.2.2.trans (imp_congr_right fun _ => ?_)⟩
          · rintro actionId hcurrent -
            cases hcurrent
            simp [hid]
          · simp
  · next hnone =>
      cases h
      have hempty : ∀ actionId, current = some actionId → actionId = [] := by
        intro actionId hcurrent
        cases actionId with
        | nil => rfl
        | cons c s => exact absurd hcurrent (hnone c s)
      refine ⟨fun a ha => hlast.subset ha, hunique.sublist (hlast.map _), ?_, ?_⟩
      · exact fun actionId hcurrent hne => absurd (hempty _ hcurrent) hne
      · exact iff_of_true (length_lastSlice hpos _) fun _ actionId hcurrent hne =>
          absurd (hempty _ hcurrent) hne

/-! ### What a selection promises -/

/-- The entries of a ledger, if it has any. -/
def ledgerEntries (file : Option PyVal) (k : String) : List PyVal :=
  match file with
  | some (.dict items) =>
      match entriesOf items k with
      | .ok entries => entries
      | .error _ => []
  | _ => []

/-- An entry of the action ledger is the action of a task with an identifier. -/
def IsActionOf (around : Around) (taskRef actionId : PyStr) (item : PyVal) : Prop :=
  item ∈ ledgerEntries around.action "ACTIONS" ∧ item.get "TASK_ID" = .str taskRef ∧
    item.get "ACTION_ID" = .str actionId

/-- A selection keeps its budgets and names nothing twice; its actions are those of the task, the current one
the last; its records occur in the evidence of the task or in the effects of a chosen action. -/
structure Respects (around : Around) (taskRef : PyStr) (currentActionId : Option PyStr)
    (maxActions maxAdiRefs : ℤ) (r : Selection) : Prop where
  actions : r.actionRefs.length ≤ maxActions
  records : r.adiRecordIds.length ≤ maxAdiRefs
  actionsNodup : r.actionRefs.Nodup
  recordsNodup : r.adiRecordIds.Nodup
  ofTask : ∀ actionId ∈ r.actionRefs, ∃ item, IsActionOf around taskRef actionId item
  current : ∀ actionId, currentActionId = some actionId → actionId ≠ [] →
    r.actionRefs.getLast? = some actionId
  grounded : ∀ recordId ∈ r.adiRecordIds,
    (∃ task, (ledgerEntries around.work "TASKS").find? (isOfTask taskRef) = some task ∧
      Occurs recordId (task.get "D4_EVIDENCE")) ∨
    ∃ actionId ∈ r.actionRefs, ∃ item, IsActionOf around taskRef actionId item ∧
      (Occurs recordId (item.get "LAST_CONFIRMED_EFFECT") ∨ Occurs recordId (item.get "LAST_TOOL_EFFECT"))

/-- The identifiers of the action ledger are all different. -/
def UniqueActionIds (around : Around) : Prop :=
  ((ledgerEntries around.action "ACTIONS").filterMap entryId).Nodup

/-- With a budget of one action, no action but the current one was completed last. -/
def LeavesRoom (around : Around) (taskRef : PyStr) (currentActionId : Option PyStr) (maxActions : ℤ) : Prop :=
  maxActions = 1 → ∀ actionId, currentActionId = some actionId → actionId ≠ [] →
    ∀ a, latestCompleted (matchingActions around taskRef (ledgerEntries around.action "ACTIONS")) = some a →
      a.actionId = actionId

theorem mem_candidatesOf {task : PyVal} {selected : List Action} {s : PyStr}
    (h : s ∈ candidatesOf task selected) : Occurs s (task.get "D4_EVIDENCE") ∨
      ∃ a ∈ selected, Occurs s (a.item.get "LAST_CONFIRMED_EFFECT") ∨
        Occurs s (a.item.get "LAST_TOOL_EFFECT") := by
  rcases List.mem_append.1 h with h | h
  · left
    split at h
    · next evidence hevidence =>
        obtain ⟨x, hx, hs⟩ := List.mem_flatMap.1 h
        rw [hevidence]
        exact .element (List.mem_reverse.1 hx) (mem_collect_iff.1 hs).2
    · cases h
  · right
    obtain ⟨a, ha, hs⟩ := List.mem_flatMap.1 h
    refine ⟨a, List.mem_reverse.1 ha, ?_⟩
    exact (List.mem_append.1 hs).imp (fun h => (mem_collect_iff.1 h).2) fun h => (mem_collect_iff.1 h).2

theorem eq_of_requireRef {s ref : PyStr} {code : String} (h : requireRef (.str s) code = .ok ref) : s = ref := by
  unfold requireRef at h
  dsimp only at h
  split at h
  · exact Except.ok.inj h
  · cases h

theorem of_checkBudget {most n : ℕ} {v : ℤ} (h : checkBudget most (.int v) = .ok n) : 1 ≤ v ∧ v.toNat = n := by
  unfold checkBudget at h
  dsimp only at h
  split at h
  · next hv => exact ⟨hv.1, Except.ok.inj h⟩
  · cases h

theorem eq_of_readLedger {file : Option PyVal} {v : PyVal} {items : Items} (hread : readLedger file = .ok v)
    (hitems : ledgerItems v = .ok items) : file = some (.dict items) := by
  cases file with
  | none => cases hread
  | some w =>
      cases hread
      cases v with
      | dict _ => rw [Except.ok.inj hitems]
      | _ => cases hitems

theorem ledgerEntries_eq {file : Option PyVal} {items : Items} {k : String} {entries : List PyVal}
    (hfile : file = some (.dict items)) (hentries : entriesOf items k = .ok entries) :
    ledgerEntries file k = entries := by
  simp only [ledgerEntries, hfile, hentries]

/-- What a selection was made from. -/
theorem of_selectTaskStateSupportRefs {around : Around} {taskRef : PyStr} {current : Option PyStr}
    {maxActions maxAdiRefs : ℤ} {r : Selection}
    (h : selectTaskStateSupportRefs around (.str taskRef) current (.int maxActions) (.int maxAdiRefs) = .ok r) :
    1 ≤ maxActions ∧ 1 ≤ maxAdiRefs ∧ ∃ task selected,
      (ledgerEntries around.work "TASKS").find? (isOfTask taskRef) = some task ∧
      selectActions (matchingActions around taskRef (ledgerEntries around.action "ACTIONS")) current
        maxActions.toNat = .ok selected ∧
      r.actionRefs = selected.map Action.actionId ∧
      chooseRecords around maxAdiRefs.toNat (fromKeys [] (candidatesOf task selected)) = .ok r.adiRecordIds := by
  unfold selectTaskStateSupportRefs at h
  obtain ⟨ref, href, h⟩ := bind_eq_ok_iff.1 h
  obtain ⟨actions, hactions, h⟩ := bind_eq_ok_iff.1 h
  obtain ⟨records, hrecords, h⟩ := bind_eq_ok_iff.1 h
  obtain ⟨work, hwork, h⟩ := bind_eq_ok_iff.1 h
  obtain ⟨action, haction, h⟩ := bind_eq_ok_iff.1 h
  obtain ⟨workItems, hworkItems, h⟩ := bind_eq_ok_iff.1 h
  obtain ⟨actionItems, hactionItems, h⟩ := bind_eq_ok_iff.1 h
  obtain ⟨tasks, htasks, h⟩ := bind_eq_ok_iff.1 h
  have hfile := eq_of_readLedger hwork hworkItems
  have hactionFile := eq_of_readLedger haction hactionItems
  obtain rfl : taskRef = ref := eq_of_requireRef href
  obtain ⟨hpos, rfl⟩ := of_checkBudget hactions
  obtain ⟨hpos', rfl⟩ := of_checkBudget hrecords
  split at h
  · cases h
  · next task hfind =>
      obtain ⟨entries, hentries, h⟩ := bind_eq_ok_iff.1 h
      obtain ⟨selected, hselected, h⟩ := bind_eq_ok_iff.1 h
      split at h
      · cases h
      · obtain ⟨chosen, hchosen, h⟩ := bind_eq_ok_iff.1 h
        split at h
        · cases h
        · cases h
          refine ⟨hpos, hpos', task, selected, ?_, ?_, rfl, hchosen⟩
          · rw [ledgerEntries_eq hfile htasks]
            exact hfind
          · rw [ledgerEntries_eq hactionFile hentries]
            exact hselected

/-- A selection keeps its promises exactly when a budget of one action leaves room for the current one. -/
theorem respects_iff {around : Around} {taskRef : PyStr} {currentActionId : Option PyStr}
    {maxActions maxAdiRefs : ℤ} {r : Selection} (hunique : UniqueActionIds around)
    (hrun : selectTaskStateSupportRefs around (.str taskRef) currentActionId (.int maxActions)
      (.int maxAdiRefs) = .ok r) :
    Respects around taskRef currentActionId maxActions maxAdiRefs r ↔
      LeavesRoom around taskRef currentActionId maxActions := by
  obtain ⟨hactions, hrecords, task, selected, htask, hselected, hrefs, hchosen⟩ :=
    of_selectTaskStateSupportRefs hrun
  obtain ⟨hmem, hnodup, hlast, hlength⟩ :=
    of_selectActions (by omega) (nodup_matchingActions hunique) hselected
  obtain ⟨hsub, hle⟩ := of_chooseRecords hchosen
  have hcount : (r.actionRefs.length : ℤ) ≤ maxActions ↔ selected.length ≤ maxActions.toNat := by
    rw [hrefs, List.length_map]
    omega
  have hroom : LeavesRoom around taskRef currentActionId maxActions ↔ selected.length ≤ maxActions.toNat := by
    rw [hlength, LeavesRoom]
    exact imp_congr_left (by omega)
  have haction : ∀ a ∈ selected, IsActionOf around taskRef a.actionId a.item := fun a ha =>
    of_mem_matchingActions (hmem a ha)
  rw [hroom, ← hcount]
  refine ⟨Respects.actions, fun hbudget => ?_⟩
  constructor
  case actions => exact hbudget
  case records => omega
  case actionsNodup => exact hrefs ▸ hnodup
  case recordsNodup => exact (nodup_fromKeys _ _).sublist hsub
  case ofTask =>
    intro actionId hid
    obtain ⟨a, ha, rfl⟩ := List.mem_map.1 (hrefs ▸ hid)
    exact ⟨a.item, haction a ha⟩
  case current => exact hrefs ▸ hlast
  case grounded =>
    intro recordId hid
    rcases mem_candidatesOf (mem_fromKeys (hsub.subset hid)).1 with hevidence | ⟨a, ha, heffect⟩
    · exact .inl ⟨task, htask, hevidence⟩
    · exact .inr ⟨a.actionId, hrefs ▸ List.mem_map_of_mem ha, a.item, haction a ha, heffect⟩

/-! ### A budget of one action -/

/-- An action of the task, done, with an effect that names a record. -/
def sampleAction (actionId : String) : PyVal := obj [
  ("ACTION_ID", lit actionId),
  ("LAST_CONFIRMED_EFFECT", obj [("adi_ref", lit "evidence:effect-1")]),
  ("LAST_UPDATE", lit "2026-07-01T00:00:00Z"),
  ("STATE", lit "DONE"),
  ("TASK_ID", lit "TASK-1")]

/-- A ledger with two actions of the task, and a service that has a current record of every reference. -/
def sampleAround : Around where
  work := some (obj [("TASKS", .list [obj [("TASK_ID", lit "TASK-1")]])])
  action := some (obj [("ACTIONS", .list [sampleAction "ACTION-1", sampleAction "ACTION-2"])])
  answer recordId := some (obj [
    ("delta", obj [("state_atoms", .list [obj [("payload", obj [])]])]),
    ("reference_lookup", obj [("entries", .list [obj [("id", .str recordId)]])])])
  text _ := []

def sampleSelection : Selection := ⟨[cp "ACTION-2", cp "ACTION-1"], [cp "evidence:effect-1"]⟩

def sampleEntries : List PyVal := [sampleAction "ACTION-1", sampleAction "ACTION-2"]

theorem matching_sample : matchingActions sampleAround (cp "TASK-1") sampleEntries =
    [⟨cp "ACTION-1", sampleAction "ACTION-1"⟩, ⟨cp "ACTION-2", sampleAction "ACTION-2"⟩] := by
  have hactions : actionsOf (cp "TASK-1") sampleEntries =
      [⟨cp "ACTION-1", sampleAction "ACTION-1"⟩, ⟨cp "ACTION-2", sampleAction "ACTION-2"⟩] := rfl
  rw [matchingActions, hactions]
  exact List.mergeSort_of_pairwise (by decide)

/-- The current action is chosen together with the one that was completed last. -/
theorem run_sample : selectTaskStateSupportRefs sampleAround (lit "TASK-1") (some (cp "ACTION-1")) (.int 1)
    (.int 16) = .ok sampleSelection := by
  have hselected : selectActions (matchingActions sampleAround (cp "TASK-1") sampleEntries)
      (some (cp "ACTION-1")) 1 = .ok [⟨cp "ACTION-2", sampleAction "ACTION-2"⟩,
        ⟨cp "ACTION-1", sampleAction "ACTION-1"⟩] := by
    rw [matching_sample]
    rfl
  have htask : requireRef (lit "TASK-1") "HOLD_TASK_PACKET_TASK_ID_INVALID" = .ok (cp "TASK-1") := rfl
  have hactions : checkBudget 32 (.int 1) = .ok 1 := rfl
  have hrecords : checkBudget 64 (.int 16) = .ok 16 := rfl
  rw [selectTaskStateSupportRefs, htask, ok_bind, hactions, ok_bind, hrecords, ok_bind]
  change (selectActions (matchingActions sampleAround (cp "TASK-1") sampleEntries) (some (cp "ACTION-1")) 1 >>=
    _) = _
  rw [hselected]
  rfl

/-- A budget of one action is not kept. -/
theorem not_respects_sample : ¬∀ r, selectTaskStateSupportRefs sampleAround (lit "TASK-1")
    (some (cp "ACTION-1")) (.int 1) (.int 16) = .ok r →
      Respects sampleAround (cp "TASK-1") (some (cp "ACTION-1")) 1 16 r := fun h =>
  absurd (h _ run_sample).actions (by decide)

/-- The theorem on this selection. -/
theorem respects_iff_sample : UniqueActionIds sampleAround ∧
    (Respects sampleAround (cp "TASK-1") (some (cp "ACTION-1")) 1 16 sampleSelection ↔
      LeavesRoom sampleAround (cp "TASK-1") (some (cp "ACTION-1")) 1) := by
  have hunique : UniqueActionIds sampleAround := by
    change ([cp "ACTION-1", cp "ACTION-2"] : List PyStr).Nodup
    decide
  exact ⟨hunique, respects_iff hunique run_sample⟩

end TaskStatePacket
