/-
**Conversation events: what is projected, and what is applied.**

`intent_continuity.py` turns a verified candidate of a conversation into an event for the work ledger
(`project_verified_conversation_candidate`), and applies events (`apply_conversation_event`).  The event of
a blocker names the blocker, and the list it joins is read when the event is applied.  The event of a hold
or of a piece of evidence carries the whole list as it was when the candidate was projected, and replaces
the list of the task.

Each call is one step; the files are kept as the values their texts stand for.  `str` of a value and the
decimal digits of Unicode are parameters.

Main definitions:

* `IntentContinuity.projectVerifiedConversationCandidate`, `IntentContinuity.applyConversationEvent` — the
  two functions;
* `IntentContinuity.Step`, `IntentContinuity.run` — runs of such calls on one ledger;
* `IntentContinuity.NothingLost` — what an applied candidate has contributed is in the task.

Main results:

* `IntentContinuity.nothingLost_of_undisturbed` — nothing is lost while no list has grown between the
  projection of a candidate and the application of its event.
-/

import Wuchang.WorkLedger
import Wuchang.ActionLedger

set_option relaxedAutoImplicit false
set_option autoImplicit false

namespace IntentContinuity

open Py WorkLedger

/-- What the module uses of Python. -/
structure Library where
  /-- `str(v)` -/
  strOf : PyVal → PyStr
  /-- the characters `\d` matches -/
  isDecimal : ℕ → Bool

/-! ### Candidates -/

/-- `CONVERSATION_EVENT_KINDS` -/
def conversationEventKinds : List String := ["INTENT", "TASK", "STATE_CHANGE", "BLOCKER", "HOLD",
  "REVOCATION", "CONFLICT", "EVIDENCE", "NEXT_ACTION"]

/-- The items of a candidate. -/
abbrev Candidate := Items

/-- `candidate.get(k)` -/
def Candidate.get (candidate : Candidate) (k : String) : PyVal := (PyVal.dict candidate).get k

/-- `_TASK_ID_RE.fullmatch(s)` -/
def isTaskId (lib : Library) (s : PyStr) : Bool :=
  [cp "T-", cp "NLDEV-"].any fun stem =>
    stem.isPrefixOf s && s.length = stem.length + 3 && (s.drop stem.length).all lib.isDecimal

/-- The items of a dictionary as keyword arguments; the keys are texts. -/
def kwargsOf (items : Items) : Kwargs := items.filterMap fun p =>
  match p.1 with
  | .str k => some (k, p.2)
  | .other => none

/-- `task[k]` of a task that has the field. -/
def fieldList (task : Task) (field : String) : Except Fault (List PyVal) := elements (task.get field)

/-- The item a piece of evidence adds. -/
def evidenceItem (candidate : Candidate) (payload : Items) : PyVal :=
  .dict (updateItems (fields [("EVIDENCE_TYPE", lit "VERIFIED_CONVERSATION_EVENT"),
    ("SOURCE_COORDINATE", candidate.get "source_coordinate"),
    ("SOURCE_SHA256", candidate.get "source_sha256")]) (kwargsOf payload))

/-- The text a hold adds to the blockers. -/
def holdConstraint (lib : Library) (payload : Items) : PyVal :=
  .str (lib.strOf ((getItem payload (cp "constraint")).getD (lit "CONVERSATION_HOLD")))

/-- A `TASK_UPDATED` event. -/
def taskUpdated (taskId : PyVal) (changes : List (String × PyVal)) : PyVal :=
  obj [("TASK_ID", taskId), ("changes", obj changes), ("type", lit "TASK_UPDATED")]

/-- A `TASK_BLOCKED` event. -/
def taskBlocked (taskId blocker : PyVal) : PyVal :=
  obj [("TASK_ID", taskId), ("blocker", blocker), ("type", lit "TASK_BLOCKED")]

/-- The checks of a candidate and its receipt: the task it is about, and its payload. -/
def checkCandidate (lib : Library) (candidate : Candidate) (receipt : Items) :
    Except Fault (Option PyStr × Items) := do
  let receiptGet := fun k => (PyVal.dict receipt).get k
  if ¬(candidate.get "candidate_only" matches .bool true) ∨
      ¬(candidate.get "authority_granted" matches .bool false) ∨
      ¬(candidate.get "requires_total_field_verify" matches .bool true) then
    refuse "conversation candidate authority boundary invalid"
  else if ¬pyEq (receiptGet "final_decision") (lit "ALLOW") ∨
      ¬pyEq (receiptGet "fixed_point_status") (lit "REACHED") then
    refuse "conversation candidate not verified by Total Field"
  else do
    let known ← inTexts (candidate.get "kind") conversationEventKinds
    match known, candidate.get "payload" with
    | true, .dict payload =>
        match candidate.get "task_id" with
        | .none => pure (none, payload)
        | .str taskId =>
            if isTaskId lib taskId then pure (some taskId, payload)
            else refuse "conversation candidate task_id invalid"
        | _ => refuse "conversation candidate task_id invalid"
    | _, _ => refuse "conversation candidate structure invalid"

/-- The event of a candidate, for the task as it is. -/
def eventOf (lib : Library) (candidate : Candidate) (payload : Items) (taskId : PyVal) (task : Task) :
    Except Fault (Option PyVal) := do
  let kind := candidate.get "kind"
  if pyEq kind (lit "STATE_CHANGE") then
    let state := (PyVal.dict payload).get "state"
    if pyEq state (lit "DONE") then
      pure (some (obj [("TASK_ID", taskId), ("evidence", obj [
        ("EVIDENCE_TYPE", lit "VERIFIED_CONVERSATION_EVENT"),
        ("SOURCE_COORDINATE", candidate.get "source_coordinate"),
        ("SOURCE_SHA256", candidate.get "source_sha256")]), ("type", lit "TASK_COMPLETED")]))
    else do
      let known ← inTexts state ["TODO", "DOING", "BLOCKED", "HOLD", "CANCELLED"]
      if ¬known then refuse "conversation candidate state invalid"
      else pure (some (taskUpdated taskId [("STATE", state)]))
  else if pyEq kind (lit "NEXT_ACTION") then
    let nextAction := (getItem payload (cp "next_action")).getD (lit "")
    pure (some (taskUpdated taskId [("NEXT_ACTION", .str (lib.strOf nextAction))]))
  else if pyEq kind (lit "BLOCKER") then do
    let blocker ← (PyVal.dict payload).at "blocker"
    pure (some (taskBlocked taskId (.str (lib.strOf blocker))))
  else if pyEq kind (lit "HOLD") then do
    let blockers ← fieldList task "BLOCKERS"
    let constraint := holdConstraint lib payload
    pure (some (taskUpdated taskId [("BLOCKERS", .list (if blockers.any (pyEq constraint) then blockers
      else blockers ++ [constraint])), ("STATE", lit "HOLD")]))
  else if pyEq kind (lit "EVIDENCE") then do
    let evidence ← fieldList task "D4_EVIDENCE"
    pure (some (taskUpdated taskId
      [("D4_EVIDENCE", .list (evidence ++ [evidenceItem candidate payload]))]))
  else pure none

/-- `project_verified_conversation_candidate`, where `file` is the work ledger. -/
def projectVerifiedConversationCandidate (lib : Library) (candidate : Candidate) (receipt : Items)
    (file : PyVal) : Except Fault (Option PyVal) := do
  let (taskId, payload) ← checkCandidate lib candidate receipt
  match taskId with
  | none => pure none
  | some taskId => do
      let ledger ← load file
      let i ← findTask (.str taskId) ledger.tasks
      eventOf lib candidate payload (.str taskId) (ledger.tasks.getD i [])

/-! ### Events -/

/-- `_save` of the work ledger: what is not JSON, or cannot be encoded, is not written. -/
def saveWork (times : Times) (ledger : Ledger) : Except Fault PyVal := do
  let data := ledger.value times.updatedAt
  let text ← PyJson.dumps PyJson.spaced data
  let _ ← encodeUtf8 text
  pure data

/-- A method of an instance that has loaded the file: the task it returns, and the file it leaves. -/
def callMethod (times : Times) (file : PyVal) (ledger : Ledger) (method : Method Edit) :
    Except Fault (Task × PyVal) := do
  let (edit, ledger) ← callOn method ledger
  if edit.saves then do
    let data ← saveWork times ledger
    pure (edit.task, data)
  else pure (edit.task, file)

/-- `**event.get("changes", {})` of `update_task`, whose own parameters cannot be among them. -/
def changesOf (event : PyVal) : Except Fault Kwargs :=
  match event with
  | .dict items =>
      match (getItem items (cp "changes")).getD (.dict []) with
      | .dict changes =>
          if changes.all fun p => p.1 ≠ key "self" && p.1 ≠ key "task_id" && p.1 ≠ .other then
            .ok (kwargsOf changes)
          else .error (.builtin .typeError)
      | _ => .error (.builtin .typeError)
  | _ => .error (.builtin .attributeError)

/-- The exceptions of the action ledger among those of the work ledger. -/
def ofActionFault : ActionLedger.Fault → Fault
  | .own (.valueError message) => .own (.valueError message)
  | .builtin b => .builtin b

/-- `begin_action(**event["action"])`: exactly its parameters are given. -/
def beginArgs (action : PyVal) : Except Fault ActionLedger.BeginArgs :=
  match action with
  | .dict items =>
      if keysAre items ["action_id", "task_id", "turn_id", "process_id", "target_coordinate", "tool",
          "idempotency_key"] then
        .ok ⟨action.get "action_id", action.get "task_id", action.get "turn_id", action.get "process_id",
          action.get "target_coordinate", action.get "tool", action.get "idempotency_key"⟩
      else .error (.builtin .typeError)
  | _ => .error (.builtin .typeError)

/-- The call of the action ledger an event asks for; a new instance has loaded the file already. -/
def actionOperation (event : PyVal) (memory : List ActionLedger.Action) :
    Except Fault ActionLedger.Operation := do
  let kind := event.get "type"
  if pyEq kind (lit "ACTION_STARTED") then do
    let action ← event.at "action"
    let args ← beginArgs action
    pure (.beginAction args)
  else if pyEq kind (lit "ACTION_WAITING") then do
    let actionId ← event.at "ACTION_ID"
    pure (ActionLedger.markWaiting actionId (event.get "last_tool_effect"))
  else if pyEq kind (lit "ACTION_INTERRUPTED") then do
    let actionId ← event.at "ACTION_ID"
    let error ← event.at "error"
    pure (ActionLedger.markInterrupted actionId error (event.get "last_confirmed_effect")
      (event.get "last_tool_effect") (event.get "resume_from"))
  else if pyEq kind (lit "ACTION_RESUMED") then do
    let actionId ← event.at "ACTION_ID"
    let resumeFrom ← event.at "resume_from"
    pure (.resumeAction memory actionId (event.get "new_process_id") resumeFrom)
  else if pyEq kind (lit "ACTION_COMPLETED") then do
    let actionId ← event.at "ACTION_ID"
    pure (ActionLedger.completeAction actionId (event.get "confirmed_effect"))
  else if pyEq kind (lit "ACTION_FAILED") then do
    let actionId ← event.at "ACTION_ID"
    let error ← event.at "error"
    pure (ActionLedger.failAction actionId error (event.get "last_tool_effect"))
  else refuse "unsupported conversation event type"

/-- The two ledgers. -/
structure Files where
  work : PyVal
  actions : Option PyVal

/-- The readings of the clock in a call. -/
structure Clock where
  work : Times
  actions : ActionLedger.Times

/-- The call of the work ledger an event asks for, if it asks for one. -/
def taskMethod (times : Times) (event : PyVal) : Option (Except Fault (Method Edit)) :=
  let kind := event.get "type"
  if pyEq kind (lit "TASK_CREATED") then some do
    let task ← event.at "task"
    match task with
    | .dict task => pure (createTask times task)
    | _ => .error (.builtin .attributeError)
  else if pyEq kind (lit "TASK_UPDATED") then some do
    let taskId ← event.at "TASK_ID"
    let changes ← changesOf event
    pure (updateTask times taskId changes)
  else if pyEq kind (lit "TASK_COMPLETED") then some do
    let taskId ← event.at "TASK_ID"
    pure (completeTask times taskId (event.get "evidence") none)
  else if pyEq kind (lit "TASK_BLOCKED") then some do
    let taskId ← event.at "TASK_ID"
    let blocker ← event.at "blocker"
    pure (blockTask times taskId blocker)
  else none

/-- `apply_conversation_event`: the task or the action it returns, and the files it leaves. -/
def applyConversationEvent (clock : Clock) (event : PyVal) (files : Files) :
    Except Fault (Items × Files) := do
  let ledger ← load files.work
  match taskMethod clock.work event with
  | some method => do
      let method ← method
      let (task, file) ← callMethod clock.work files.work ledger method
      pure (task, { files with work := file })
  | none => do
      let memory ← (ActionLedger.loadOrInit clock.actions files.actions).mapError ofActionFault
      let operation ← actionOperation event memory.actions
      let (action, file) ←
        (ActionLedger.perform clock.actions operation files.actions).mapError ofActionFault
      pure (action, { files with actions := file })

/-! ### Runs -/

/-- A candidate that was projected: its event, and the work ledger it was projected from. -/
structure Projection where
  candidate : Candidate
  event : PyVal
  seen : PyVal

/-- The files, the events that were projected so far, and those that were applied. -/
structure System where
  files : Files
  pool : List Projection
  applied : List Projection

/-- A call of one of the two functions; an event of the pool is applied. -/
inductive Step where
  | project (candidate : Candidate) (receipt : Items)
  | apply (n : ℕ) (clock : Clock)

section Runs

variable (lib : Library)

/-- One call. -/
def step (s : System) : Step → System
  | .project candidate receipt =>
      match projectVerifiedConversationCandidate lib candidate receipt s.files.work with
      | .ok (some event) => { s with pool := s.pool ++ [⟨candidate, event, s.files.work⟩] }
      | _ => s
  | .apply n clock =>
      match s.pool[n]? with
      | none => s
      | some p =>
          match applyConversationEvent clock p.event s.files with
          | .ok (_, files) => { s with files := files, applied := s.applied ++ [p] }
          | .error _ => s

/-- A run of calls. -/
def run (s : System) (steps : List Step) : System := steps.foldl (step lib) s

/-- The elements of a list. -/
def listItems : PyVal → List PyVal
  | .list xs => xs
  | _ => []

/-- A list of a task. -/
def fieldOf (file taskId : PyVal) (field : String) : List PyVal :=
  match findTask taskId (tasksOf file) with
  | .ok i => listItems (((tasksOf file).getD i []).get field)
  | .error _ => []

/-- What a candidate contributes to a list of its task. -/
def contribution (candidate : Candidate) : Option (String × PyVal) :=
  match candidate.get "payload" with
  | .dict payload =>
      if pyEq (candidate.get "kind") (lit "EVIDENCE") then
        some ("D4_EVIDENCE", evidenceItem candidate payload)
      else if pyEq (candidate.get "kind") (lit "HOLD") then some ("BLOCKERS", holdConstraint lib payload)
      else if pyEq (candidate.get "kind") (lit "BLOCKER") then
        some ("BLOCKERS", .str (lib.strOf ((PyVal.dict payload).get "blocker")))
      else none
  | _ => none

/-- The value, or one that is equal to it. -/
def Listed (item : PyVal) (xs : List PyVal) : Prop := ∃ x ∈ xs, x = item ∨ pyEq x item = true

/-- What every applied candidate has contributed is in its task. -/
def NothingLost (s : System) : Prop :=
  ∀ p ∈ s.applied, ∀ field item, contribution lib p.candidate = some (field, item) →
    Listed item (fieldOf s.files.work (p.candidate.get "task_id") field)

/-- The candidates of a run are pieces of evidence, blockers and holds about one task. -/
def OnTask (taskId : PyStr) (steps : List Step) : Prop :=
  ∀ candidate receipt, Step.project candidate receipt ∈ steps →
    candidate.get "task_id" = .str taskId ∧
      (candidate.get "kind" = lit "EVIDENCE" ∨ candidate.get "kind" = lit "BLOCKER" ∨
        candidate.get "kind" = lit "HOLD")

/-- When the event of a hold or of a piece of evidence is applied, its list names nothing but what the
projection has seen, and the candidate's own item. -/
def Undisturbed (s : System) : Step → Prop
  | .project _ _ => True
  | .apply n _ => ∀ p, s.pool[n]? = some p → p.candidate.get "kind" ≠ lit "BLOCKER" →
      ∀ field item, contribution lib p.candidate = some (field, item) →
        ∀ x ∈ fieldOf s.files.work (p.candidate.get "task_id") field,
          Listed x (fieldOf p.seen (p.candidate.get "task_id") field ++ [item])

/-- Every event of a run is applied undisturbed. -/
def UndisturbedRun (s : System) : List Step → Prop
  | [] => True
  | first :: steps => Undisturbed lib s first ∧ UndisturbedRun (step lib s first) steps

end Runs

/-! ### Lists that hold an item -/

theorem listed_of_mem {item : PyVal} {xs : List PyVal} (h : item ∈ xs) : Listed item xs :=
  ⟨item, h, .inl rfl⟩

/-- What is listed stays listed in a list that holds every element of the first. -/
theorem Listed.trans {item : PyVal} {xs ys : List PyVal} (h : Listed item xs)
    (hxs : ∀ x ∈ xs, Listed x ys) : Listed item ys := by
  obtain ⟨x, hx, hitem⟩ := h
  obtain ⟨y, hy, hxy⟩ := hxs x hx
  refine ⟨y, hy, ?_⟩
  rcases hitem with rfl | hitem
  · exact hxy
  · rcases hxy with rfl | hxy
    · exact .inr hitem
    · exact .inr (pyEq_trans hxy hitem)

/-- Equal lists hold equal elements. -/
theorem listed_of_pyEqList {xs ys : List PyVal} (h : pyEqList xs ys = true) :
    ∀ y ∈ ys, Listed y xs := by
  induction xs generalizing ys with
  | nil =>
      cases ys with
      | nil => simp
      | cons y ys => cases h
  | cons x xs ih =>
      cases ys with
      | nil => simp
      | cons y ys =>
          rw [pyEqList, Bool.and_eq_true] at h
          rw [List.forall_mem_cons]
          refine ⟨⟨x, by simp, .inr h.1⟩, fun z hz => ?_⟩
          obtain ⟨w, hw, hwz⟩ := ih h.2 z hz
          exact ⟨w, by simp [hw], hwz⟩

/-- A list with one more element, unless it has an equal one already. -/
def addNew (item : PyVal) (xs : List PyVal) : List PyVal :=
  if xs.any (pyEq item) then xs else xs ++ [item]

theorem listed_addNew {item : PyVal} {xs : List PyVal} :
    ∀ x ∈ xs ++ [item], Listed x (addNew item xs) := by
  intro x hx
  rw [addNew]
  split_ifs with hany
  · rcases List.mem_append.1 hx with hx | hx
    · exact listed_of_mem hx
    · obtain rfl := List.mem_singleton.1 hx
      obtain ⟨y, hy, hxy⟩ := List.any_eq_true.1 hany
      exact ⟨y, hy, .inr (pyEq_symm hxy)⟩
  · exact listed_of_mem hx

/-! ### What an update does to a list -/

theorem fieldOf_eq {file taskId : PyVal} {i : ℕ} {task : Task}
    (hi : findTask taskId (tasksOf file) = .ok i) (hget : (tasksOf file)[i]? = some task)
    (field : String) : fieldOf file taskId field = listItems (task.get field) := by
  rw [fieldOf, hi]
  simp [hget]

theorem of_saveWork {times : Times} {ledger : Ledger} {data : PyVal}
    (h : saveWork times ledger = .ok data) : data = ledger.value times.updatedAt := by
  rw [saveWork] at h
  obtain ⟨text, -, h⟩ := bind_eq_ok_iff.1 h
  obtain ⟨raw, -, h⟩ := bind_eq_ok_iff.1 h
  exact (pure_eq_ok_iff.1 h).symm

/-- After an update, a list that was asked for holds its elements, and another one is as before. -/
theorem fieldOf_update {times : Times} {file file' taskId : PyVal} {ledger : Ledger} {changes : Kwargs}
    {task : Task} (hload : load file = .ok ledger)
    (h : callMethod times file ledger (updateTask times taskId changes) = .ok (task, file'))
    (hid : changes.lookup (cp "TASK_ID") = none) {field : String} (hfield : field ≠ "LAST_UPDATE") :
    (changes.lookup (cp field) = none → fieldOf file' taskId field = fieldOf file taskId field) ∧
      ∀ xs, changes.lookup (cp field) = some (.list xs) →
        ∀ x ∈ xs, Listed x (fieldOf file' taskId field) := by
  obtain ⟨⟨edit, ledger'⟩, hcall, h⟩ := bind_eq_ok_iff.1 h
  dsimp only at h
  obtain ⟨i, t, hi, hget, hdone⟩ := of_updateTask hcall
  have htasks := of_load hload
  rw [htasks] at hi hget
  rcases hdone with ⟨heffective, hsaves⟩ | ⟨hsaves, hset⟩
  · -- a closed task that is asked for nothing new: the file stays, and equals what was asked for
    rw [if_neg (by simp [hsaves])] at h
    obtain ⟨-, rfl⟩ := Prod.mk.inj (pure_eq_ok_iff.1 h)
    refine ⟨fun _ => rfl, fun xs hlookup => ?_⟩
    rw [fieldOf_eq hi hget]
    have hsame : pyEq (t.get field) (.list xs) = true := by
      obtain ⟨before, after, rfl, -⟩ := List.lookup_eq_some_iff.1 hlookup
      have hequal := List.any_eq_false.1 heffective (cp field, .list xs) (by simp)
      simpa [WorkLedger.Task.get, PyVal.get] using hequal
    cases hold : t.get field with
    | list ys =>
        rw [hold] at hsame
        exact listed_of_pyEqList hsame
    | _ =>
        rw [hold] at hsame
        simp [pyEq, numOf] at hsame
  · rw [if_pos hsaves] at h
    obtain ⟨data, hsave, h⟩ := bind_eq_ok_iff.1 h
    obtain ⟨-, rfl⟩ := Prod.mk.inj (pure_eq_ok_iff.1 h)
    have hafter : tasksOf data = (tasksOf file).set i (updated times t changes) := by
      rw [of_saveWork hsave, tasksOf_value, hset, htasks]
    have hfound : findTask taskId (tasksOf data) = .ok i := by
      rw [hafter]
      refine findTask_set hi ?_
      rw [updated_get (by decide), hid, Option.none_or]
      exact of_findTask_get hi hget
    have hnew : fieldOf data taskId field = listItems ((updated times t changes).get field) := by
      refine fieldOf_eq hfound ?_ field
      rw [hafter, List.getElem?_set_self (List.getElem?_eq_some_iff.1 hget).1]
    rw [hnew, updated_get hfield]
    refine ⟨fun hlookup => ?_, fun xs hlookup => ?_⟩
    · rw [hlookup, Option.none_or, fieldOf_eq hi hget]
      rfl
    · rw [hlookup, Option.some_or]
      exact fun x hx => listed_of_mem hx

/-! ### What an event does -/

section Events

variable {lib : Library} {taskId : PyStr}

theorem kwargsOf_fields (changes : List (String × PyVal)) :
    kwargsOf (fields changes) = changes.map fun p => (cp p.1, p.2) := by
  induction changes with
  | nil => rfl
  | cons p changes ih =>
      rw [List.map_cons, ← ih]
      rfl

theorem lookup_changes (k : String) (changes : List (String × PyVal)) :
    (changes.map fun p => (cp p.1, p.2)).lookup (cp k) = changes.lookup k := by
  induction changes with
  | nil => rfl
  | cons p changes ih =>
      rw [List.map_cons, List.lookup_cons, List.lookup_cons, ih]
      by_cases h : k = p.1
      · rw [h, beq_self_eq_true, beq_self_eq_true]
      · rw [beq_false_of_ne h, beq_false_of_ne fun heq => h (cp_inj.1 heq)]

/-- An update event is applied by `update_task` with its changes. -/
theorem taskMethod_updated (times : Times) (taskId : PyVal) {changes : List (String × PyVal)}
    (h : ∀ p ∈ changes, p.1 ≠ "self" ∧ p.1 ≠ "task_id") :
    taskMethod times (taskUpdated taskId changes) =
      some (.ok (updateTask times taskId (changes.map fun p => (cp p.1, p.2)))) := by
  have hnames : ∀ p ∈ fields changes, p.1 ≠ key "self" ∧ p.1 ≠ key "task_id" ∧ p.1 ≠ .other := by
    intro p hp
    obtain ⟨change, hchange, rfl⟩ := List.mem_map.1 hp
    obtain ⟨hself, htask⟩ := h change hchange
    exact ⟨fun heq => hself (key_inj.1 heq), fun heq => htask (key_inj.1 heq), by simp [key]⟩
  have hchanges : changesOf (taskUpdated taskId changes) =
      .ok (changes.map fun p => (cp p.1, p.2)) := by
    rw [← kwargsOf_fields]
    simpa [changesOf, taskUpdated, obj] using fun k v hp => hnames (k, v) hp
  have htype : (taskUpdated taskId changes).get "type" = lit "TASK_UPDATED" := by simp [taskUpdated]
  have hid : (taskUpdated taskId changes).at "TASK_ID" = (.ok taskId : Except Fault PyVal) := by
    simp [taskUpdated, obj, PyVal.at]
  rw [taskMethod, htype]
  rw [if_neg (by decide), if_pos (by decide), hid, hchanges]
  rfl

theorem taskMethod_blocked (times : Times) (taskId blocker : PyVal) :
    taskMethod times (taskBlocked taskId blocker) = some (.ok (blockTask times taskId blocker)) := by
  have htype : (taskBlocked taskId blocker).get "type" = lit "TASK_BLOCKED" := by simp [taskBlocked]
  have hid : (taskBlocked taskId blocker).at "TASK_ID" = (.ok taskId : Except Fault PyVal) := by
    simp [taskBlocked, obj, PyVal.at]
  have hblocker : (taskBlocked taskId blocker).at "blocker" = (.ok blocker : Except Fault PyVal) := by
    simp [taskBlocked, obj, PyVal.at]
  rw [taskMethod, htype]
  rw [if_neg (by decide), if_neg (by decide), if_neg (by decide), if_pos (by decide), hid, hblocker]
  rfl

/-- An event about a task is a call of a method of the work ledger. -/
theorem of_applyConversationEvent {clock : Clock} {event : PyVal} {files files' : Files} {task : Items}
    {method : Method Edit} (hmethod : taskMethod clock.work event = some (.ok method))
    (h : applyConversationEvent clock event files = .ok (task, files')) :
    ∃ ledger, load files.work = .ok ledger ∧
      callMethod clock.work files.work ledger method = .ok (task, files'.work) := by
  obtain ⟨ledger, hload, h⟩ := bind_eq_ok_iff.1 h
  rw [hmethod] at h
  dsimp only at h
  rw [ok_bind] at h
  obtain ⟨⟨t, file⟩, hcall, h⟩ := bind_eq_ok_iff.1 h
  obtain ⟨rfl, rfl⟩ := Prod.mk.inj (pure_eq_ok_iff.1 h)
  exact ⟨ledger, hload, hcall⟩

/-- A task is blocked by an update of its blockers as they are. -/
theorem callMethod_blockTask {times : Times} {file taskId blocker : PyVal} {ledger : Ledger}
    {r : Task × PyVal} (hload : load file = .ok ledger)
    (h : callMethod times file ledger (blockTask times taskId blocker) = .ok r) :
    callMethod times file ledger (updateTask times taskId [(cp "STATE", lit "BLOCKED"),
      (cp "BLOCKERS", .list (addNew blocker (fieldOf file taskId "BLOCKERS")))]) = .ok r := by
  obtain ⟨⟨edit, ledger'⟩, hcall, h⟩ := bind_eq_ok_iff.1 h
  obtain ⟨i, t, blockers, hi, hget, hblockers, hupdate⟩ := of_blockTask hcall
  obtain ⟨-, -, hlists⟩ := validateTask_eq_ok_iff.1
    ((loadable_of_load hload).valid t (List.mem_of_getElem? hget))
  obtain ⟨xs, hxs⟩ := hlists "BLOCKERS" (by decide)
  rw [hxs] at hblockers
  obtain rfl := Except.ok.inj hblockers
  rw [of_load hload] at hi hget
  rw [fieldOf_eq hi hget, hxs]
  exact bind_eq_ok_iff.2 ⟨_, hupdate, h⟩

/-- How an event carries the item of its candidate: to the blockers as they are when it is applied, or in
a list that replaces the one of the task and holds what the projection has seen. -/
inductive Carries (taskId : PyStr) : Projection → String → PyVal → Prop where
  | joins (candidate : Candidate) (seen item : PyVal) :
      Carries taskId ⟨candidate, taskBlocked (.str taskId) item, seen⟩ "BLOCKERS" item
  | replaces (candidate : Candidate) (seen item : PyVal) (field : String) (xs : List PyVal)
      (rest : List (String × PyVal)) (hkind : candidate.get "kind" ≠ lit "BLOCKER")
      (hfield : field = "BLOCKERS" ∨ field = "D4_EVIDENCE")
      (hrest : rest = [] ∨ rest = [("STATE", lit "HOLD")])
      (hxs : ∀ x ∈ fieldOf seen (.str taskId) field ++ [item], Listed x xs) :
      Carries taskId ⟨candidate, taskUpdated (.str taskId) ((field, .list xs) :: rest), seen⟩ field item

/-- The lists of a task only grow. -/
def Grows (taskId : PyStr) (file file' : PyVal) : Prop :=
  ∀ field, field = "BLOCKERS" ∨ field = "D4_EVIDENCE" →
    ∀ x, Listed x (fieldOf file (.str taskId) field) → Listed x (fieldOf file' (.str taskId) field)

/-- Applied undisturbed, an event adds its item and removes nothing. -/
theorem apply_grows {p : Projection} {field : String} {item : PyVal} (hcarries : Carries taskId p field item)
    {clock : Clock} {files files' : Files} {task : Items}
    (h : applyConversationEvent clock p.event files = .ok (task, files'))
    (hundisturbed : p.candidate.get "kind" ≠ lit "BLOCKER" →
      ∀ x ∈ fieldOf files.work (.str taskId) field,
        Listed x (fieldOf p.seen (.str taskId) field ++ [item])) :
    Grows taskId files.work files'.work ∧ Listed item (fieldOf files'.work (.str taskId) field) := by
  cases hcarries with
  | joins candidate seen =>
      obtain ⟨ledger, hload, hcall⟩ := of_applyConversationEvent (taskMethod_blocked _ _ _) h
      have hupdate := callMethod_blockTask hload hcall
      have hnew := (fieldOf_update hload hupdate rfl (show "BLOCKERS" ≠ "LAST_UPDATE" by decide)).2 _
        rfl
      refine ⟨?_, (listed_addNew item (by simp)).trans hnew⟩
      rintro field (rfl | rfl) x hx
      · exact (hx.trans fun y hy => listed_addNew y (List.mem_append_left _ hy)).trans hnew
      · rwa [(fieldOf_update hload hupdate rfl (by decide)).1 rfl]
  | replaces candidate seen _ _ xs rest hkind hfield hrest hxs =>
      have hnames : ∀ p ∈ (field, PyVal.list xs) :: rest, p.1 ≠ "self" ∧ p.1 ≠ "task_id" := by
        rcases hfield with rfl | rfl <;> rcases hrest with rfl | rfl <;> simp
      have hother : ∀ k, k ≠ field → k ≠ "STATE" →
          (((field, PyVal.list xs) :: rest).map fun p => (cp p.1, p.2)).lookup (cp k) = none := by
        intro k hk hstate
        rw [lookup_changes, List.lookup_cons, beq_false_of_ne hk]
        rcases hrest with rfl | rfl
        · rfl
        · rw [List.lookup_cons, beq_false_of_ne hstate]
          rfl
      obtain ⟨ledger, hload, hcall⟩ := of_applyConversationEvent (taskMethod_updated _ _ hnames) h
      have hid := hother "TASK_ID" (by rcases hfield with rfl | rfl <;> decide) (by decide)
      have hlast : field ≠ "LAST_UPDATE" := by rcases hfield with rfl | rfl <;> decide
      have hnew := (fieldOf_update hload hcall hid hlast).2 xs (by simp)
      have hseen : ∀ x, Listed x (fieldOf seen (.str taskId) field ++ [item]) →
          Listed x (fieldOf files'.work (.str taskId) field) :=
        fun x hx => (hx.trans hxs).trans hnew
      refine ⟨fun other hfields x hx => ?_, hseen item (listed_of_mem (by simp))⟩
      by_cases heq : other = field
      · subst heq
        exact hseen x (hx.trans (hundisturbed hkind))
      · -- a list that the event does not name is left as it is
        have hstate : other ≠ "STATE" := by rcases hfields with rfl | rfl <;> decide
        have hlast' : other ≠ "LAST_UPDATE" := by rcases hfields with rfl | rfl <;> decide
        rwa [(fieldOf_update hload hcall hid hlast').1 (hother other heq hstate)]

/-! ### What is projected -/

theorem of_checkCandidate {candidate : Candidate} {receipt payload : Items} {t : Option PyStr}
    (h : checkCandidate lib candidate receipt = .ok (t, payload)) :
    candidate.get "payload" = .dict payload ∧ ∀ s, t = some s → candidate.get "task_id" = .str s := by
  rw [checkCandidate] at h
  split_ifs at h
  · cases h
  · cases h
  · obtain ⟨known, -, h⟩ := bind_eq_ok_iff.1 h
    split at h
    · next items hpayload =>
        split at h
        · obtain ⟨rfl, rfl⟩ := Prod.mk.inj (pure_eq_ok_iff.1 h)
          exact ⟨hpayload, by simp⟩
        · next s hs =>
            split_ifs at h
            · obtain ⟨rfl, rfl⟩ := Prod.mk.inj (pure_eq_ok_iff.1 h)
              exact ⟨hpayload, fun _ heq => by rw [hs, Option.some.inj heq]⟩
            · cases h
        · cases h
    · cases h

theorem of_fieldList {task : Task} {field : String} {xs : List PyVal}
    (h : fieldList task field = .ok xs) : listItems (task.get field) = xs := by
  rw [fieldList] at h
  cases hv : task.get field with
  | list ys =>
      rw [hv] at h
      exact Except.ok.inj h
  | _ =>
      rw [hv] at h
      cases h

/-- The event of a candidate carries what the candidate contributes. -/
theorem carries_of_project {candidate : Candidate} {receipt : Items} {file event : PyVal}
    (htask : candidate.get "task_id" = .str taskId)
    (hkind : candidate.get "kind" = lit "EVIDENCE" ∨ candidate.get "kind" = lit "BLOCKER" ∨
      candidate.get "kind" = lit "HOLD")
    (h : projectVerifiedConversationCandidate lib candidate receipt file = .ok (some event)) :
    ∃ field item, contribution lib candidate = some (field, item) ∧
      Carries taskId ⟨candidate, event, file⟩ field item := by
  obtain ⟨⟨t, payload⟩, hcheck, h⟩ := bind_eq_ok_iff.1 h
  obtain ⟨hpayload, hsome⟩ := of_checkCandidate hcheck
  cases t with
  | none => cases h
  | some s =>
      obtain rfl := PyVal.str.inj ((hsome s rfl).symm.trans htask)
      obtain ⟨ledger, hload, h⟩ := bind_eq_ok_iff.1 h
      obtain ⟨i, hi, h⟩ := bind_eq_ok_iff.1 h
      rw [of_load hload] at hi h
      obtain ⟨task, hget⟩ := of_findTask hi
      have hgetD : (tasksOf file).getD i [] = task := by simp [hget]
      rw [hgetD] at h
      have hfield : ∀ {field xs}, fieldList task field = .ok xs →
          fieldOf file (.str s) field = xs := fun hlist => by
        rw [fieldOf_eq hi hget, of_fieldList hlist]
      rw [eventOf] at h
      rw [contribution, hpayload]
      dsimp only at h ⊢
      rcases hkind with hkind | hkind | hkind
      · rw [hkind, if_neg (by decide), if_neg (by decide), if_neg (by decide), if_neg (by decide),
          if_pos (by decide)] at h
        obtain ⟨evidence, hevidence, h⟩ := bind_eq_ok_iff.1 h
        obtain rfl := Option.some.inj (pure_eq_ok_iff.1 h)
        rw [hkind, if_pos (by decide)]
        refine ⟨_, _, rfl, .replaces candidate file _ _ _ [] (by simp [hkind, lit, cp_inj]) (.inr rfl)
          (.inl rfl) fun x hx => listed_of_mem ?_⟩
        rwa [hfield hevidence] at hx
      · rw [hkind, if_neg (by decide), if_neg (by decide), if_pos (by decide)] at h
        obtain ⟨blocker, hblocker, h⟩ := bind_eq_ok_iff.1 h
        obtain rfl := Option.some.inj (pure_eq_ok_iff.1 h)
        rw [hkind, if_neg (by decide), if_neg (by decide), if_pos (by decide),
          get_of_at hblocker]
        exact ⟨_, _, rfl, .joins candidate file _⟩
      · rw [hkind, if_neg (by decide), if_neg (by decide), if_neg (by decide), if_pos (by decide)] at h
        obtain ⟨blockers, hblockers, h⟩ := bind_eq_ok_iff.1 h
        obtain rfl := Option.some.inj (pure_eq_ok_iff.1 h)
        rw [hkind, if_neg (by decide), if_pos (by decide)]
        refine ⟨_, _, rfl, .replaces candidate file _ _ _ _ (by simp [hkind, lit, cp_inj]) (.inl rfl)
          (.inr rfl) fun x hx => listed_addNew x ?_⟩
        rwa [hfield hblockers] at hx

end Events

/-! ### Runs that lose nothing -/

section Runs

variable {lib : Library} {taskId : PyStr}

/-- What holds of a system while every event is applied undisturbed. -/
structure Kept (lib : Library) (taskId : PyStr) (s : System) : Prop where
  /-- an event carries what its candidate contributes to the task -/
  carried : ∀ p ∈ s.pool, p.candidate.get "task_id" = .str taskId ∧
    ∃ field item, contribution lib p.candidate = some (field, item) ∧ Carries taskId p field item
  /-- only projected events are applied -/
  pooled : ∀ p ∈ s.applied, p ∈ s.pool
  /-- what was contributed is in the task -/
  kept : NothingLost lib s

theorem Carries.field_eq {p : Projection} {field : String} {item : PyVal}
    (h : Carries taskId p field item) : field = "BLOCKERS" ∨ field = "D4_EVIDENCE" := by
  cases h with
  | joins => exact .inl rfl
  | replaces _ _ _ _ _ _ _ hfield => exact hfield

/-- One call keeps it. -/
theorem Kept.step {s : System} (h : Kept lib taskId s) {c : Step}
    (hon : ∀ candidate receipt, c = .project candidate receipt →
      candidate.get "task_id" = .str taskId ∧ (candidate.get "kind" = lit "EVIDENCE" ∨
        candidate.get "kind" = lit "BLOCKER" ∨ candidate.get "kind" = lit "HOLD"))
    (hundisturbed : Undisturbed lib s c) : Kept lib taskId (step lib s c) := by
  cases c with
  | project candidate receipt =>
      obtain ⟨htask, hkind⟩ := hon candidate receipt rfl
      rw [IntentContinuity.step]
      split
      · next event hproject =>
          refine ⟨fun p hp => ?_, fun p hp => List.mem_append_left _ (h.pooled p hp), h.kept⟩
          rcases List.mem_append.1 hp with hp | hp
          · exact h.carried p hp
          · obtain rfl := List.mem_singleton.1 hp
            exact ⟨htask, carries_of_project htask hkind hproject⟩
      · exact h
  | apply n clock =>
      rw [IntentContinuity.step]
      split
      · exact h
      · next p hp =>
          split
          · next task files happly =>
              have hpool := List.mem_of_getElem? hp
              obtain ⟨htask, field, item, hcontribution, hcarries⟩ := h.carried p hpool
              obtain ⟨hgrows, hnew⟩ := apply_grows hcarries happly fun hkind => by
                rw [← htask]
                exact hundisturbed p hp hkind field item hcontribution
              refine ⟨h.carried, fun q hq => ?_, fun q hq field' item' hcontribution' => ?_⟩
              · rcases List.mem_append.1 hq with hq | hq
                · exact h.pooled q hq
                · obtain rfl := List.mem_singleton.1 hq
                  exact hpool
              · rcases List.mem_append.1 hq with hq | hq
                · -- an item of an earlier event: the list it is in has only grown
                  obtain ⟨htask', field'', item'', heq, hcarries'⟩ := h.carried q (h.pooled q hq)
                  obtain ⟨rfl, rfl⟩ := Prod.mk.inj (Option.some.inj (heq.symm.trans hcontribution'))
                  have hold := h.kept q hq _ _ heq
                  rw [htask'] at hold ⊢
                  exact hgrows _ hcarries'.field_eq _ hold
                · obtain rfl := List.mem_singleton.1 hq
                  obtain ⟨rfl, rfl⟩ :=
                    Prod.mk.inj (Option.some.inj (hcontribution.symm.trans hcontribution'))
                  rwa [htask]
          · exact h

/-- A run keeps it. -/
theorem Kept.run {s : System} (h : Kept lib taskId s) {steps : List Step} (hon : OnTask taskId steps)
    (hundisturbed : UndisturbedRun lib s steps) : Kept lib taskId (run lib s steps) := by
  induction steps generalizing s with
  | nil => exact h
  | cons c steps ih =>
      obtain ⟨hfirst, hrest⟩ := hundisturbed
      refine ih (h.step (fun candidate receipt hc => hon candidate receipt (by simp [hc])) hfirst)
        (fun candidate receipt hc => hon candidate receipt (by simp [hc])) hrest

/-- **Nothing is lost.**  In a run in which every event is applied undisturbed, the task has in the end
what every applied candidate has contributed. -/
theorem nothingLost_of_undisturbed (lib : Library) (taskId : PyStr) (files : Files) (steps : List Step)
    (hon : OnTask taskId steps) (hundisturbed : UndisturbedRun lib ⟨files, [], []⟩ steps) :
    NothingLost lib (run lib ⟨files, [], []⟩ steps) := by
  have hinitial : Kept lib taskId ⟨files, [], []⟩ := ⟨by simp, by simp, by simp [NothingLost]⟩
  exact (hinitial.run hon hundisturbed).kept

end Runs

/-! ### Two holds -/

/-- A library for texts and decimal digits. -/
def sampleLibrary : Library where
  strOf v :=
    match v with
    | .str s => s
    | _ => []
  isDecimal c := 48 ≤ c ∧ c ≤ 57

/-- A hold of the task. -/
def hold (constraint : String) : Candidate := fields [("authority_granted", .bool false),
  ("candidate_only", .bool true), ("kind", lit "HOLD"), ("payload", obj [("constraint", lit constraint)]),
  ("requires_total_field_verify", .bool true), ("task_id", lit "T-001")]

/-- The receipt of a verified candidate. -/
def allowed : Items := fields [("final_decision", lit "ALLOW"), ("fixed_point_status", lit "REACHED")]

/-- The clock of a call. -/
def sampleClock : Clock :=
  ⟨⟨cp "2026-01-01", cp "2026-01-01", cp "2026-01-01"⟩,
    ⟨cp "2026-01-01", cp "2026-01-01", cp "2026-01-01"⟩⟩

/-- The event of a hold. -/
def holdEvent (blockers : List String) : PyVal :=
  taskUpdated (lit "T-001") [("BLOCKERS", .list (blockers.map lit)), ("STATE", lit "HOLD")]

/-- The files in which the task is blocked for some reasons. -/
def heldFiles (blockers : List String) : Files :=
  ⟨sampleFile (if blockers = [] then "TODO" else "HOLD") blockers, none⟩

/-- What is projected for a hold while the task has no blockers, or the first one. -/
theorem project_hold : ∀ blockers ∈ [[], ["A"]], ∀ constraint ∈ ["A", "B"],
    constraint ∉ blockers →
      projectVerifiedConversationCandidate sampleLibrary (hold constraint) allowed
        (heldFiles blockers).work = .ok (some (holdEvent (blockers ++ [constraint]))) := by
  simp only [List.forall_mem_cons, List.not_mem_nil, false_implies, implies_true, and_true]
  exact ⟨⟨fun _ => rfl, fun _ => rfl⟩, fun h => absurd h (by simp), fun _ => rfl⟩

set_option maxRecDepth 20000 in
/-- The event of a hold replaces the blockers. -/
theorem apply_hold {before after : List String}
    (h : (before, after) ∈ [([], ["A"]), (["A"], ["B"]), (["A"], ["A", "B"])]) :
    applyConversationEvent sampleClock (holdEvent after) (heldFiles before) =
      .ok (sampleTask "HOLD" after, heldFiles after) := by
  simp only [List.mem_cons, Prod.mk.injEq, List.not_mem_nil, or_false] at h
  rcases h with ⟨rfl, rfl⟩ | ⟨rfl, rfl⟩ | ⟨rfl, rfl⟩ <;> rfl

/-- Two holds are projected before the event of the first one is applied. -/
def bothFirst : List Step := [.project (hold "A") allowed, .project (hold "B") allowed,
  .apply 0 sampleClock, .apply 1 sampleClock]

/-- The first event is applied before the second hold is projected. -/
def oneByOne : List Step := [.project (hold "A") allowed, .apply 0 sampleClock,
  .project (hold "B") allowed, .apply 1 sampleClock]

theorem hold_onTask (constraint : String) : (hold constraint).get "task_id" = .str (cp "T-001") ∧
    ((hold constraint).get "kind" = lit "EVIDENCE" ∨ (hold constraint).get "kind" = lit "BLOCKER" ∨
      (hold constraint).get "kind" = lit "HOLD") := by
  simp [hold, Candidate.get, PyVal.get, lit]

theorem fieldOf_held : ∀ blockers ∈ [[], ["A"], ["B"]],
    fieldOf (heldFiles blockers).work (.str (cp "T-001")) "BLOCKERS" = blockers.map lit := by
  simp only [List.forall_mem_cons, List.not_mem_nil, false_implies, implies_true, and_true]
  exact ⟨rfl, rfl, rfl⟩

/-- The first blocker is lost when both holds are projected from the same ledger. -/
theorem not_nothingLost_bothFirst : OnTask (cp "T-001") bothFirst ∧
    ¬NothingLost sampleLibrary (run sampleLibrary ⟨heldFiles [], [], []⟩ bothFirst) := by
  have hrun : run sampleLibrary ⟨heldFiles [], [], []⟩ bothFirst = ⟨heldFiles ["B"],
      [⟨hold "A", holdEvent ["A"], (heldFiles []).work⟩, ⟨hold "B", holdEvent ["B"], (heldFiles []).work⟩],
      [⟨hold "A", holdEvent ["A"], (heldFiles []).work⟩,
        ⟨hold "B", holdEvent ["B"], (heldFiles []).work⟩]⟩ := by
    simp [run, bothFirst, step, project_hold [] (by simp), apply_hold]
  refine ⟨fun candidate receipt hc => ?_, ?_⟩
  · simp only [bothFirst, List.mem_cons, Step.project.injEq, reduceCtorEq, List.not_mem_nil,
      or_false] at hc
    rcases hc with ⟨rfl, -⟩ | ⟨rfl, -⟩
    · exact hold_onTask "A"
    · exact hold_onTask "B"
  · rw [hrun]
    intro hlost
    obtain ⟨x, hx, hlisted⟩ := hlost _ List.mem_cons_self "BLOCKERS" (lit "A") rfl
    rw [(hold_onTask "A").1, fieldOf_held ["B"] (by simp)] at hx
    obtain rfl : x = lit "B" := by simpa using hx
    revert hlisted
    simp [lit, cp_inj]

/-- Nothing is lost when the first event is applied before the second hold is projected. -/
theorem nothingLost_oneByOne :
    NothingLost sampleLibrary (run sampleLibrary ⟨heldFiles [], [], []⟩ oneByOne) := by
  have hfirst : step sampleLibrary ⟨heldFiles [], [], []⟩ (.project (hold "A") allowed) =
      ⟨heldFiles [], [⟨hold "A", holdEvent ["A"], (heldFiles []).work⟩], []⟩ := by
    simp [step, project_hold [] (by simp)]
  have hsecond : step sampleLibrary (step sampleLibrary
      ⟨heldFiles [], [⟨hold "A", holdEvent ["A"], (heldFiles []).work⟩], []⟩ (.apply 0 sampleClock))
      (.project (hold "B") allowed) =
      ⟨heldFiles ["A"], [⟨hold "A", holdEvent ["A"], (heldFiles []).work⟩,
        ⟨hold "B", holdEvent ["A", "B"], (heldFiles ["A"]).work⟩],
        [⟨hold "A", holdEvent ["A"], (heldFiles []).work⟩]⟩ := by
    simp [step, apply_hold, project_hold ["A"] (by simp)]
  refine nothingLost_of_undisturbed sampleLibrary (cp "T-001") (heldFiles []) oneByOne
    (fun candidate receipt hc => ?_) ⟨trivial, ?_, trivial, ?_, trivial⟩
  · simp only [oneByOne, List.mem_cons, Step.project.injEq, reduceCtorEq, List.not_mem_nil, or_false,
      false_or] at hc
    rcases hc with ⟨rfl, -⟩ | ⟨rfl, -⟩
    · exact hold_onTask "A"
    · exact hold_onTask "B"
  · rw [hfirst]
    intro p hp hkind field item hitem x hx
    obtain rfl := Option.some.inj hp
    obtain ⟨rfl, rfl⟩ := Prod.mk.inj (Option.some.inj hitem.symm)
    rw [(hold_onTask "A").1] at hx
    exact absurd hx (by simp [fieldOf_held [] (by simp)])
  · rw [hfirst, hsecond]
    intro p hp hkind field item hitem x hx
    obtain rfl := Option.some.inj hp
    obtain ⟨rfl, rfl⟩ := Prod.mk.inj (Option.some.inj hitem.symm)
    exact listed_of_mem (List.mem_append_left _ hx)

end IntentContinuity
