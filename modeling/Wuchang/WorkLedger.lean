/-
**The work ledger.**

`work_ledger.py` keeps tasks in a JSON file.  An instance loads the file, checks it, and remembers the
hash of the file; each method changes the tasks in memory and saves them, unless the file has another
hash by then.  A method is a stateful computation over the memory of the instance: what it changed before
it raises stays changed.  A dictionary is kept by its sorted items, so the text that is written, which
follows the order in which keys were inserted, is up to a function that belongs to the call.

Main definitions:

* `WorkLedger.Ledger`, `WorkLedger.load` — the memory of an instance, and how it is loaded;
* `WorkLedger.createTask`, `WorkLedger.updateTask`, `WorkLedger.completeTask`, `WorkLedger.reopenTask`,
  `WorkLedger.blockTask` — the methods, up to the call of `_save`;
* `WorkLedger.Call` — a call of one of the functions of the module, with the clock it reads.

Main results:

* `WorkLedger.validateTask_eq_ok_iff`, `WorkLedger.loadTasks_eq_ok_iff` — the tasks that pass the checks;
* `WorkLedger.of_load`, `WorkLedger.tasksOf_value` — what is loaded, and what is saved;
* `WorkLedger.of_updateTask`, `WorkLedger.of_blockTask` — what an update of a task has done when it returns.
-/

import Wuchang.PyEq
import Wuchang.PyJson
import Wuchang.Sha256

set_option relaxedAutoImplicit false
set_option autoImplicit false

namespace WorkLedger

open Py

/-- The exceptions of the module, by the fixed part of their messages. -/
inductive Failure where
  | valueError (message : String)
  | runtimeError (message : String)
  deriving DecidableEq, Repr

/-- An exception. -/
abbrev Fault := Raise Failure

/-- `raise ValueError(message)` -/
def refuse {α : Type} (message : String) : Except Fault α := .error (.own (.valueError message))

/-! ### Tasks -/

/-- `ALLOWED_STATES` -/
def allowedStates : List String := ["TODO", "DOING", "BLOCKED", "HOLD", "DONE", "CANCELLED"]

/-- `REQUIRED_TASK_FIELDS` -/
def requiredTaskFields : List String := ["TASK_ID", "PARENT_INTENT", "TITLE", "DESCRIPTION", "STATE",
  "PRIORITY", "D3_COORDINATE", "DEPENDENCIES", "BLOCKERS", "COMPLETION_CRITERIA", "D4_EVIDENCE",
  "LAST_UPDATE", "NEXT_ACTION"]

/-- The fields that must be lists. -/
def listFields : List String := ["DEPENDENCIES", "BLOCKERS", "D4_EVIDENCE"]

/-- The items of a task. -/
abbrev Task := Items

/-- `task.get(k)` -/
def Task.get (task : Task) (k : String) : PyVal := (PyVal.dict task).get k

/-- `task[k] = v` -/
def Task.set (task : Task) (k : String) (v : PyVal) : Task := setKey (cp k) v task

/-- The fields that must be lists are lists. -/
def checkLists (task : PyVal) : List String → Except Fault Unit
  | [] => .ok ()
  | field :: fields => do
      let v ← task.at field
      match v with
      | .list _ => checkLists task fields
      | _ => refuse "must be a list"

/-- `_validate_task` -/
def validateTask (task : PyVal) : Except Fault Unit := do
  let has ← setOf task
  if ¬requiredTaskFields.all has then refuse "task missing fields"
  else do
    let state ← task.at "STATE"
    let known ← inTexts state allowedStates
    if ¬known then refuse "invalid STATE" else checkLists task listFields

/-- `task["STATE"] == "DONE" or task.get("COMPLETION_SEAL")` -/
def Task.closed (task : Task) : Bool :=
  pyEq (task.get "STATE") (lit "DONE") || (task.get "COMPLETION_SEAL").truthy

/-- The elements of a list that is appended to; nothing else has an `append`. -/
def elements : PyVal → Except Fault (List PyVal)
  | .list xs => .ok xs
  | _ => .error (.builtin .attributeError)

/-- `list(v)` -/
def listOf : PyVal → Except Fault (List PyVal)
  | .list xs => .ok xs
  | .str s => .ok (s.map fun c => .str [c])
  | .dict items => .ok (items.map fun p => match p.1 with
      | .str s => .str s
      | .other => .other)
  | _ => .error (.builtin .typeError)

/-! ### The memory of an instance -/

/-- `self.data`: the items of the dictionary, and the tasks in it. -/
structure Ledger where
  items : Items
  tasks : List Task

/-- The tasks are checked one after the other; their identifiers differ from those seen before. -/
def loadTasks (seen : List PyVal) : List PyVal → Except Fault (List Task)
  | [] => .ok []
  | v :: vs => do
      validateTask v
      match v with
      | .dict task =>
          let taskId := Task.get task "TASK_ID"
          if ¬isHashable taskId then .error (.builtin .typeError)
          else if seen.any (pyEq taskId) then refuse "duplicate TASK_ID"
          else do
            let tasks ← loadTasks (taskId :: seen) vs
            pure (task :: tasks)
      | _ => .error (.builtin .typeError)

/-- `_load` of what `json.loads` has returned. -/
def load (data : PyVal) : Except Fault Ledger :=
  match data with
  | .dict items =>
      match getItem items (cp "TASKS") with
      | some (.list tasks) => do
          let tasks ← loadTasks [] tasks
          pure ⟨items, tasks⟩
      | _ => refuse "WORK_LEDGER TASKS must be a list"
  | _ => .error (.builtin .attributeError)

/-- The dictionary an instance saves. -/
def Ledger.value (ledger : Ledger) (updatedAt : PyStr) : PyVal :=
  .dict (setKey (cp "UPDATED_AT") (.str updatedAt)
    (setKey (cp "TASKS") (.list (ledger.tasks.map .dict)) ledger.items))

/-- `_task`: the position of the first task with an identifier. -/
def findTask (taskId : PyVal) (tasks : List Task) : Except Fault ℕ :=
  match tasks.findIdx? fun task => pyEq (task.get "TASK_ID") taskId with
  | some i => .ok i
  | none => .error (.builtin .keyError)

/-- A task is replaced. -/
def Ledger.setTask (ledger : Ledger) (i : ℕ) (task : Task) : Ledger :=
  { ledger with tasks := ledger.tasks.set i task }

/-! ### The methods -/

/-- What a method has done when it calls `_save`, or returns without: the task it returns. -/
structure Edit where
  saves : Bool
  task : Task

/-- A method of an instance, up to the call of `_save`. -/
abbrev Method := EStateM Fault Ledger

/-- The readings of `_now()` in a call. -/
structure Times where
  /-- `CLOSED_AT` or `REOPENED_AT` -/
  event : PyStr
  /-- `LAST_UPDATE` -/
  lastUpdate : PyStr
  /-- `UPDATED_AT` -/
  updatedAt : PyStr

/-- `create_task` -/
def createTask (times : Times) (task : Task) : Method Edit := do
  let task := if (getItem task (cp "LAST_UPDATE")).isSome then task
    else task.set "LAST_UPDATE" (.str times.lastUpdate)
  validateTask (.dict task)
  let ledger ← get
  if ledger.tasks.any fun t => pyEq (t.get "TASK_ID") (task.get "TASK_ID") then
    refuse "TASK_ID already exists"
  else do
    set { ledger with tasks := ledger.tasks ++ [task] }
    pure ⟨true, task⟩

/-- The checks of `update_task` on its arguments. -/
def checkChanges (taskId : PyVal) (changes : Kwargs) : Except Fault Unit :=
  if (changes.lookup (cp "TASK_ID")).any fun v => ¬pyEq v taskId then refuse "TASK_ID is immutable"
  else
    match changes.lookup (cp "STATE") with
    | none => .ok ()
    | some state => do
        let known ← inTexts state allowedStates
        if ¬known then refuse "invalid STATE" else pure ()

/-- Some change is not what the task already has. -/
def effective (task : Task) (changes : Kwargs) : Bool :=
  changes.any fun change => ¬pyEq ((getItem task change.1).getD .none) change.2

/-- The task after an update. -/
def updated (times : Times) (task : Task) (changes : Kwargs) : Task :=
  Task.set (updateItems task changes) "LAST_UPDATE" (.str times.lastUpdate)

/-- `update_task` -/
def updateTask (times : Times) (taskId : PyVal) (changes : Kwargs) : Method Edit := do
  checkChanges taskId changes
  let ledger ← get
  let i ← findTask taskId ledger.tasks
  let task := ledger.tasks.getD i []
  if task.closed then
    if effective task changes then refuse "closed task requires explicit reopen_task"
    else pure ⟨false, task⟩
  else do
    let task := updated times task changes
    set (ledger.setTask i task)
    validateTask (.dict task)
    pure ⟨true, task⟩

/-- `_canonical_sha256` -/
def canonicalSha256 (v : PyVal) : Except Fault PyStr := do
  let text ← PyJson.dumps PyJson.compact v
  if ¬PyJson.allFinite v then refuse "Out of range float values are not JSON compliant"
  else do
    let raw ← encodeUtf8 text
    pure (Sha256.hexdigest raw)

/-- The fields of a task that its seal covers. -/
def scopeFields : List String := ["COMPLETION_CRITERIA", "D3_COORDINATE", "DEPENDENCIES", "DESCRIPTION",
  "PARENT_INTENT", "PRIORITY", "TASK_ID", "TITLE"]

/-- `scope_payload` -/
def scopePayload (task : Task) : PyVal := obj (scopeFields.map fun k => (k, task.get k))

/-- `closed_head or "UNSPECIFIED"` -/
def headOr (closedHead : Option PyStr) : PyVal :=
  match closedHead with
  | none => lit "UNSPECIFIED"
  | some [] => lit "UNSPECIFIED"
  | some head => .str head

/-- `evidence_items` -/
def withEvidence (items evidence : PyVal) : Except Fault PyVal :=
  match evidence with
  | .none => .ok items
  | evidence => do
      let xs ← elements items
      pure (.list (xs ++ [evidence]))

/-- The changes `complete_task` asks for. -/
def closingChanges (times : Times) (closedHead : Option PyStr) (items : PyVal) (scope evidence : PyStr) :
    Kwargs :=
  let completionSeal := obj [("CLOSED_AT", .str times.event), ("CLOSED_HEAD", headOr closedHead),
    ("EVIDENCE_SHA256", .str evidence), ("SCOPE_SHA256", .str scope)]
  [(cp "STATE", lit "DONE"), (cp "D4_EVIDENCE", items), (cp "BLOCKERS", .list []),
    (cp "NEXT_ACTION", lit "NONE"), (cp "CLOSED_AT", .str times.event),
    (cp "CLOSED_HEAD", headOr closedHead), (cp "COMPLETION_SEAL", completionSeal)]

/-- `complete_task` -/
def completeTask (times : Times) (taskId evidence : PyVal) (closedHead : Option PyStr) :
    Method Edit := do
  let ledger ← get
  let i ← findTask taskId ledger.tasks
  let task := ledger.tasks.getD i []
  if task.closed then refuse "task already closed"
  else do
    let items ← withEvidence (task.get "D4_EVIDENCE") evidence
    let scope ← canonicalSha256 (scopePayload task)
    let sealed ← canonicalSha256 items
    updateTask times taskId (closingChanges times closedHead items scope sealed)

/-- `previous_seal` -/
def previousSealOf (task : Task) : Except Fault PyVal :=
  match task.get "COMPLETION_SEAL" with
  | .none => do
      let hash ← canonicalSha256 (.dict task)
      pure (obj [("LEGACY_UNSEALED", .bool true), ("TASK_STATE_SHA256", .str hash)])
  | previous => .ok previous

/-- The entry of `REOPEN_HISTORY`. -/
def reopening (times : Times) (reason authorityRef : PyStr) (previousSeal : PyVal) : PyVal :=
  obj [("AUTHORITY_REF", .str authorityRef), ("PREVIOUS_COMPLETION_SEAL", previousSeal),
    ("REASON", .str reason), ("REOPENED_AT", .str times.event)]

/-- The task after it was reopened. -/
def reopened (times : Times) (task : Task) (nextAction : PyStr) (history : List PyVal) : Task :=
  let task := (((task.set "STATE" (lit "TODO")).set "NEXT_ACTION" (.str nextAction)).set
    "BLOCKERS" (.list [])).set "REOPEN_HISTORY" (.list history)
  let task := ["COMPLETION_SEAL", "CLOSED_AT", "CLOSED_HEAD"].foldl
    (fun task k => eraseKey (cp k) task) task
  Task.set task "LAST_UPDATE" (.str times.lastUpdate)

/-- `reopen_task` -/
def reopenTask (times : Times) (taskId : PyVal) (reason authorityRef nextAction : PyStr) : Method Edit := do
  if strip reason = [] then refuse "reopen reason required"
  else if strip authorityRef = [] then refuse "reopen authority_ref required"
  else if strip nextAction = [] ∨ nextAction = cp "NONE" then
    refuse "explicit reopen next_action required"
  else do
    let ledger ← get
    let i ← findTask taskId ledger.tasks
    let task := ledger.tasks.getD i []
    if ¬pyEq (task.get "STATE") (lit "DONE") then refuse "only DONE task can be reopened"
    else do
      let previousSeal ← previousSealOf task
      let history ← elements ((getItem task (cp "REOPEN_HISTORY")).getD (.list []))
      let task := reopened times task nextAction
        (history ++ [reopening times reason authorityRef previousSeal])
      set (ledger.setTask i task)
      validateTask (.dict task)
      pure ⟨true, task⟩

/-- The changes `block_task` asks for. -/
def blockingChanges (blockers : List PyVal) (blocker : PyVal) : Kwargs :=
  [(cp "STATE", lit "BLOCKED"), (cp "BLOCKERS",
    .list (if blockers.any (pyEq blocker) then blockers else blockers ++ [blocker]))]

/-- `block_task` -/
def blockTask (times : Times) (taskId : PyVal) (blocker : PyVal) : Method Edit := do
  let ledger ← get
  let i ← findTask taskId ledger.tasks
  let task := ledger.tasks.getD i []
  let blockers ← listOf (task.get "BLOCKERS")
  updateTask times taskId (blockingChanges blockers blocker)

/-! ### What was loaded, and what is saved -/

/-- The items of an element of the list of tasks. -/
def dictItems : PyVal → Task
  | .dict task => task
  | _ => []

/-- The tasks of a file. -/
def tasksOf (data : PyVal) : List Task :=
  match data.get "TASKS" with
  | .list tasks => tasks.map dictItems
  | _ => []

theorem checkLists_eq_ok_iff {task : PyVal} {names : List String} :
    checkLists task names = .ok () ↔ ∀ name ∈ names, ∃ xs, task.get name = .list xs := by
  induction names with
  | nil => simp [checkLists]
  | cons name names ih =>
      rw [checkLists, List.forall_mem_cons, ← ih]
      constructor
      · intro h
        obtain ⟨v, hv, h⟩ := bind_eq_ok_iff.1 h
        cases v with
        | list xs => exact ⟨⟨xs, get_of_at hv⟩, h⟩
        | _ => cases h
      · rintro ⟨⟨xs, hxs⟩, h⟩
        rw [at_of_get hxs (by simp), ok_bind]
        exact h

/-- A valid task has all required fields, a known state, and lists where lists have to be. -/
theorem validateTask_eq_ok_iff {task : Task} :
    validateTask (.dict task) = .ok () ↔ (∀ k ∈ requiredTaskFields, ∃ p ∈ task, p.1 = key k) ∧
      (∃ state ∈ allowedStates, task.get "STATE" = lit state) ∧
      ∀ name ∈ listFields, ∃ xs, task.get name = .list xs := by
  have hhas : (requiredTaskFields.all fun k => task.any fun p => p.1 = key k) = true ↔
      ∀ k ∈ requiredTaskFields, ∃ p ∈ task, p.1 = key k := by
    simp [List.all_eq_true]
  rw [validateTask, Py.setOf, ok_bind, ← hhas]
  constructor
  · intro h
    split_ifs at h with hall
    · obtain ⟨state, hstate, h⟩ := bind_eq_ok_iff.1 h
      obtain ⟨known, hknown, h⟩ := bind_eq_ok_iff.1 h
      split_ifs at h with hallowed
      · subst hallowed
        obtain ⟨s, hs, hlit⟩ := inTexts_eq_ok_iff.1 hknown
        exact ⟨hall, ⟨s, hs, (get_of_at hstate).trans hlit⟩, checkLists_eq_ok_iff.1 h⟩
      · cases h
    · cases h
  · rintro ⟨hall, ⟨s, hs, hstate⟩, hlists⟩
    have hat : (PyVal.dict task).at "STATE" = (.ok (lit s) : Except Fault PyVal) :=
      at_of_get hstate (by simp [lit])
    have hknown : (inTexts (lit s) allowedStates : Except Fault Bool) = .ok true :=
      inTexts_eq_ok_iff.2 ⟨s, hs, rfl⟩
    rw [if_neg (not_not.2 hall), hat, ok_bind, hknown, ok_bind, if_neg (by simp)]
    exact checkLists_eq_ok_iff.2 hlists

/-- The tasks of a ledger that can be loaded: they are valid, and their identifiers can be elements of a
set and differ. -/
structure Loadable (tasks : List Task) : Prop where
  valid : ∀ task ∈ tasks, validateTask (.dict task) = .ok ()
  hashable : ∀ task ∈ tasks, isHashable (task.get "TASK_ID") = true
  unique : tasks.Pairwise fun a b => pyEq (b.get "TASK_ID") (a.get "TASK_ID") = false

/-- The tasks that pass the checks are those of a loadable ledger with new identifiers. -/
theorem loadTasks_eq_ok_iff {seen vs : List PyVal} {tasks : List Task} :
    loadTasks seen vs = .ok tasks ↔ vs = tasks.map .dict ∧ Loadable tasks ∧
      ∀ task ∈ tasks, ∀ v ∈ seen, pyEq (task.get "TASK_ID") v = false := by
  induction vs generalizing seen tasks with
  | nil =>
      rw [loadTasks]
      constructor
      · intro h
        obtain rfl := Except.ok.inj h
        exact ⟨rfl, ⟨by simp, by simp, .nil⟩, by simp⟩
      · rintro ⟨h, -⟩
        rw [List.map_eq_nil_iff.1 h.symm]
  | cons v vs ih =>
      constructor
      · intro h
        obtain ⟨⟨⟩, hvalid, h⟩ := bind_eq_ok_iff.1 h
        cases v with
        | dict task =>
            dsimp only at h
            split_ifs at h with hhash hseen
            · cases h
            · obtain ⟨rest, hrest, h⟩ := bind_eq_ok_iff.1 h
              obtain rfl := pure_eq_ok_iff.1 h
              obtain ⟨rfl, hload, hnew⟩ := ih.1 hrest
              rw [Bool.not_eq_true, List.any_eq_false] at hseen
              refine ⟨rfl, ⟨?_, ?_, ?_⟩, ?_⟩
              · exact List.forall_mem_cons.2 ⟨hvalid, hload.valid⟩
              · exact List.forall_mem_cons.2 ⟨hhash, hload.hashable⟩
              · exact List.pairwise_cons.2 ⟨fun b hb => hnew b hb _ List.mem_cons_self, hload.unique⟩
              · refine List.forall_mem_cons.2 ⟨fun w hw => by simpa using hseen w hw, ?_⟩
                exact fun b hb w hw => hnew b hb w (List.mem_cons_of_mem _ hw)
        | _ => cases h
      · rintro ⟨hmap, hload, hnew⟩
        cases tasks with
        | nil => cases hmap
        | cons task tasks =>
            obtain ⟨rfl, htasks⟩ := List.cons.inj hmap
            obtain ⟨hvalid, hvalids⟩ := List.forall_mem_cons.1 hload.valid
            obtain ⟨hhash, hhashes⟩ := List.forall_mem_cons.1 hload.hashable
            obtain ⟨hfirst, hunique⟩ := List.pairwise_cons.1 hload.unique
            obtain ⟨hseen, hseens⟩ := List.forall_mem_cons.1 hnew
            have hany : ¬seen.any (pyEq (task.get "TASK_ID")) = true := by
              rw [Bool.not_eq_true, List.any_eq_false]
              exact fun w hw => by simpa using hseen w hw
            have hrest : loadTasks (task.get "TASK_ID" :: seen) vs = .ok tasks := by
              refine ih.2 ⟨htasks, ⟨hvalids, hhashes, hunique⟩, fun b hb => ?_⟩
              exact List.forall_mem_cons.2 ⟨hfirst b hb, hseens b hb⟩
            refine bind_eq_ok_iff.2 ⟨(), hvalid, ?_⟩
            dsimp only
            rw [if_neg (not_not.2 hhash), if_neg hany, hrest]
            rfl

theorem of_loadTasks {seen vs : List PyVal} {tasks : List Task} (h : loadTasks seen vs = .ok tasks) :
    vs.map dictItems = tasks := by
  obtain ⟨rfl, -⟩ := loadTasks_eq_ok_iff.1 h
  rw [List.map_map]
  exact List.map_id _

/-- What is loaded are the tasks of the file. -/
theorem of_load {data : PyVal} {ledger : Ledger} (h : load data = .ok ledger) :
    ledger.tasks = tasksOf data := by
  cases data with
  | dict items =>
      rw [load] at h
      split at h
      · next vs htasks =>
          obtain ⟨tasks, hload, h⟩ := bind_eq_ok_iff.1 h
          obtain rfl := pure_eq_ok_iff.1 h
          rw [tasksOf, PyVal.get, htasks]
          exact (of_loadTasks hload).symm
      · cases h
  | _ => cases h

/-- What is loaded can be loaded. -/
theorem loadable_of_load {data : PyVal} {ledger : Ledger} (h : load data = .ok ledger) :
    Loadable ledger.tasks := by
  cases data with
  | dict items =>
      rw [load] at h
      split at h
      · obtain ⟨tasks, hload, h⟩ := bind_eq_ok_iff.1 h
        obtain rfl := pure_eq_ok_iff.1 h
        exact (loadTasks_eq_ok_iff.1 hload).2.1
      · cases h
  | _ => cases h

/-- What is saved can be loaded when its tasks can. -/
theorem load_value (ledger : Ledger) (updatedAt : PyStr) (h : Loadable ledger.tasks) :
    ∃ loaded, load (ledger.value updatedAt) = .ok loaded := by
  have hget : getItem (setKey (cp "UPDATED_AT") (.str updatedAt)
      (setKey (cp "TASKS") (.list (ledger.tasks.map .dict)) ledger.items)) (cp "TASKS") =
        some (.list (ledger.tasks.map .dict)) := by
    rw [getItem_setKey, if_neg (by decide), getItem_setKey, if_pos rfl]
  have hload : loadTasks [] (ledger.tasks.map .dict) = .ok ledger.tasks :=
    loadTasks_eq_ok_iff.2 ⟨rfl, h, by simp⟩
  rw [Ledger.value, load, hget]
  dsimp only
  rw [hload]
  exact ⟨_, rfl⟩

/-- What is saved holds the tasks of the memory. -/
theorem tasksOf_value (ledger : Ledger) (updatedAt : PyStr) :
    tasksOf (ledger.value updatedAt) = ledger.tasks := by
  have hget : (ledger.value updatedAt).get "TASKS" = .list (ledger.tasks.map .dict) := by
    rw [Ledger.value, PyVal.get, getItem_setKey, if_neg (by decide), getItem_setKey, if_pos rfl]
    rfl
  rw [tasksOf, hget]
  dsimp only
  rw [List.map_map]
  exact List.map_id _

/-! ### What a method does -/

variable {times : Times} {taskId : PyVal} {changes : Kwargs} {ledger ledger' : Ledger} {edit : Edit}

theorem of_findTask {tasks : List Task} {i : ℕ} (h : findTask taskId tasks = .ok i) :
    ∃ task, tasks[i]? = some task := by
  rw [findTask] at h
  split at h
  · next j hfind =>
      obtain rfl := Except.ok.inj h
      obtain ⟨hlt, -⟩ := List.findIdx?_eq_some_iff_getElem.1 hfind
      exact ⟨_, List.getElem?_eq_getElem hlt⟩
  · cases h

/-- The task that is found has the identifier. -/
theorem of_findTask_get {tasks : List Task} {i : ℕ} {task : Task} (h : findTask taskId tasks = .ok i)
    (hget : tasks[i]? = some task) : pyEq (task.get "TASK_ID") taskId = true := by
  rw [findTask] at h
  split at h
  · next j hfind =>
      obtain rfl := Except.ok.inj h
      obtain ⟨hlt, hfound, -⟩ := List.findIdx?_eq_some_iff_getElem.1 hfind
      rw [List.getElem?_eq_getElem hlt, Option.some.injEq] at hget
      rwa [hget] at hfound
  · cases h

/-- A task is still found when another one with its identifier takes its place. -/
theorem findTask_set {tasks : List Task} {task : Task} {i : ℕ} (h : findTask taskId tasks = .ok i)
    (hid : pyEq (task.get "TASK_ID") taskId = true) : findTask taskId (tasks.set i task) = .ok i := by
  have hfind : tasks.findIdx? (fun task => pyEq (task.get "TASK_ID") taskId) = some i := by
    rw [findTask] at h
    split at h
    · next j hfind =>
        obtain rfl := Except.ok.inj h
        exact hfind
    · cases h
  obtain ⟨hlt, hfound, hfirst⟩ := List.findIdx?_eq_some_iff_getElem.1 hfind
  have hset : (tasks.set i task).findIdx? (fun task => pyEq (task.get "TASK_ID") taskId) = some i := by
    refine List.findIdx?_eq_some_iff_getElem.2 ⟨by simpa using hlt, ?_, fun j hj => ?_⟩
    · rw [List.getElem_set_self]
      exact hid
    · rw [List.getElem_set_ne (Nat.ne_of_gt hj)]
      exact hfirst j hj
  rw [findTask, hset]

/-- An update that returns has changed an open task, or asks for nothing new. -/
theorem of_updateTask (h : callOn (updateTask times taskId changes) ledger = .ok (edit, ledger')) :
    ∃ i task, findTask taskId ledger.tasks = .ok i ∧ ledger.tasks[i]? = some task ∧
      ((effective task changes = false ∧ edit.saves = false) ∨
        (edit.saves = true ∧ ledger'.tasks = ledger.tasks.set i (updated times task changes))) := by
  have hrun := callOn_eq_ok.1 h
  obtain ⟨-, -, hrun⟩ := run_lift_bind_eq_ok_iff.1 hrun
  rw [run_get_bind] at hrun
  obtain ⟨i, hi, hrun⟩ := run_lift_bind_eq_ok_iff.1 hrun
  obtain ⟨task, hget⟩ := of_findTask hi
  have htask : ledger.tasks.getD i [] = task := by simp [hget]
  rw [htask] at hrun
  refine ⟨i, task, hi, hget, ?_⟩
  dsimp only at hrun
  split_ifs at hrun with hclosed heffective
  · cases hrun
  · obtain ⟨rfl, -⟩ := EStateM.Result.ok.inj hrun
    exact .inl ⟨by simpa using heffective, rfl⟩
  · rw [run_set_bind] at hrun
    obtain ⟨-, -, hrun⟩ := run_lift_bind_eq_ok_iff.1 hrun
    obtain ⟨rfl, rfl⟩ := EStateM.Result.ok.inj hrun
    exact .inr ⟨rfl, rfl⟩

/-- A task is blocked by an update that adds the blocker to those it has then. -/
theorem of_blockTask {blocker : PyVal}
    (h : callOn (blockTask times taskId blocker) ledger = .ok (edit, ledger')) :
    ∃ i task blockers, findTask taskId ledger.tasks = .ok i ∧ ledger.tasks[i]? = some task ∧
      listOf (task.get "BLOCKERS") = .ok blockers ∧
      callOn (updateTask times taskId (blockingChanges blockers blocker)) ledger =
        .ok (edit, ledger') := by
  have hrun := callOn_eq_ok.1 h
  rw [blockTask, run_get_bind] at hrun
  obtain ⟨i, hi, hrun⟩ := run_lift_bind_eq_ok_iff.1 hrun
  obtain ⟨task, hget⟩ := of_findTask hi
  have htask : ledger.tasks.getD i [] = task := by simp [hget]
  rw [htask] at hrun
  obtain ⟨blockers, hblockers, hrun⟩ := run_lift_bind_eq_ok_iff.1 hrun
  exact ⟨i, task, blockers, hi, hget, hblockers, callOn_eq_ok.2 hrun⟩

/-- A field other than `LAST_UPDATE` is the requested one, or the old one. -/
theorem updated_get {task : Task} {field : String} (h : field ≠ "LAST_UPDATE") :
    (updated times task changes).get field =
      ((changes.lookup (cp field)).or (getItem task (cp field))).getD .none := by
  rw [Task.get, PyVal.get, updated, Task.set, getItem_setKey, if_neg fun heq => h (cp_inj.1 heq),
    getItem_updateItems]

/-! ### A ledger -/

/-- A task with its blockers. -/
def sampleTask (state : String) (blockers : List String) : Task := fields [
  ("BLOCKERS", .list (blockers.map lit)), ("COMPLETION_CRITERIA", .list []), ("D3_COORDINATE", lit ""),
  ("D4_EVIDENCE", .list []), ("DEPENDENCIES", .list []), ("DESCRIPTION", lit ""),
  ("LAST_UPDATE", lit "2026-01-01"), ("NEXT_ACTION", lit "NONE"), ("PARENT_INTENT", lit ""),
  ("PRIORITY", lit "P1"), ("STATE", lit state), ("TASK_ID", lit "T-001"), ("TITLE", lit "")]

/-- A file with this task. -/
def sampleFile (state : String) (blockers : List String) : PyVal :=
  obj [("TASKS", .list [.dict (sampleTask state blockers)]), ("UPDATED_AT", lit "2026-01-01")]

end WorkLedger
