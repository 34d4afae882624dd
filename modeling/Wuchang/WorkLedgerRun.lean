/-
**Calls on one instance of the work ledger.**

An instance of `WorkLedger` keeps its tasks in memory from one call to the next.  A method changes the task in
memory, checks it, and then saves; a call that is rejected by the check, or fails to write, raises and leaves
its change in memory, where the next call that saves finds it.  The file is kept as the value its text stands
for, and no other process writes it.

Main definitions:

* `WorkLedger.Instance`, `WorkLedger.Instance.call` — the memory and the file, and a call of a method;
* `WorkLedger.Reaches` — a call gets as far as its change of the memory;
* `WorkLedger.Outcome` — what a method has done when it calls `_save`, returns or raises;
* `WorkLedger.Commits` — the file can be loaded, and holds what the calls that returned have done;
* `WorkLedger.Tidy` — a call that reaches its change is neither rejected nor fails to write.

Main results:

* `WorkLedger.outcome_method` — the outcomes of the methods;
* `WorkLedger.commits_of_tidy` — a run of tidy calls commits what its successful calls have done.
-/

import Wuchang.WorkLedgerFile

set_option relaxedAutoImplicit false
set_option autoImplicit false

namespace WorkLedger

open Py

/-! ### Instances -/

/-- `_save`: what is not JSON, or cannot be encoded, is not written. -/
def save (times : Times) (ledger : Ledger) : Except Fault PyVal := do
  let data := ledger.value times.updatedAt
  let text ← PyJson.dumps PyJson.spaced data
  let _ ← encodeUtf8 text
  pure data

/-- An instance, with the file it has loaded. -/
structure Instance where
  memory : Ledger
  file : PyVal

/-- A call of a method: the task it returns or what it raises, and the instance it leaves.  What it changed
before it raises stays changed. -/
def Instance.call (s : Instance) (times : Times) (operation : Operation) : Except Fault Task × Instance :=
  match (operation.method times).run s.memory with
  | .error e memory => (.error e, { s with memory := memory })
  | .ok edit memory =>
      if edit.saves then
        match save times memory with
        | .error e => (.error e, { s with memory := memory })
        | .ok data => (.ok edit.task, ⟨memory, data⟩)
      else (.ok edit.task, { s with memory := memory })

/-! ### What a method can do -/

/-- The task `create_task` adds. -/
def stamped (times : Times) (task : Task) : Task :=
  if (getItem task (cp "LAST_UPDATE")).isSome then task else task.set "LAST_UPDATE" (.str times.lastUpdate)

/-- A call gets as far as its change of the memory: the task it makes, and the memory with it. -/
inductive Reaches (times : Times) (ledger : Ledger) : Operation → Task → Ledger → Prop
  | create {task : Task} (hvalid : validateTask (.dict (stamped times task)) = .ok ())
      (hnew : ∀ t ∈ ledger.tasks, pyEq (t.get "TASK_ID") ((stamped times task).get "TASK_ID") = false) :
      Reaches times ledger (.createTask task) (stamped times task)
        { ledger with tasks := ledger.tasks ++ [stamped times task] }
  | update {taskId : PyVal} {changes : Kwargs} {i : ℕ} {task : Task}
      (hcheck : checkChanges taskId changes = .ok ()) (hfind : findTask taskId ledger.tasks = .ok i)
      (htask : ledger.tasks[i]? = some task) (hopen : task.closed = false) :
      Reaches times ledger (.updateTask taskId changes) (updated times task changes)
        (ledger.setTask i (updated times task changes))
  | complete {taskId evidence items : PyVal} {closedHead : Option PyStr} {i : ℕ} {task task' : Task}
      {ledger' : Ledger} {scope sealed : PyStr} (hfind : findTask taskId ledger.tasks = .ok i)
      (htask : ledger.tasks[i]? = some task)
      (hitems : withEvidence (task.get "D4_EVIDENCE") evidence = .ok items)
      (hscope : canonicalSha256 (scopePayload task) = .ok scope)
      (hsealed : canonicalSha256 items = .ok sealed)
      (hupdate : Reaches times ledger
        (.updateTask taskId (closingChanges times closedHead items scope sealed)) task' ledger') :
      Reaches times ledger (.completeTask taskId evidence closedHead) task' ledger'
  | reopen {taskId previousSeal : PyVal} {reason authorityRef nextAction : PyStr} {history : List PyVal}
      {i : ℕ} {task : Task} (hreason : strip reason ≠ []) (hauthority : strip authorityRef ≠ [])
      (hnext : ¬(strip nextAction = [] ∨ nextAction = cp "NONE"))
      (hfind : findTask taskId ledger.tasks = .ok i) (htask : ledger.tasks[i]? = some task)
      (hdone : task.get "STATE" = lit "DONE") (hprevious : previousSealOf task = .ok previousSeal)
      (hhistory : elements ((getItem task (cp "REOPEN_HISTORY")).getD (.list [])) = .ok history) :
      Reaches times ledger (.reopenTask taskId reason authorityRef nextAction)
        (reopened times task nextAction (history ++ [reopening times reason authorityRef previousSeal]))
        (ledger.setTask i
          (reopened times task nextAction (history ++ [reopening times reason authorityRef previousSeal])))
  | block {taskId blocker : PyVal} {blockers : List PyVal} {i : ℕ} {task task' : Task} {ledger' : Ledger}
      (hfind : findTask taskId ledger.tasks = .ok i) (htask : ledger.tasks[i]? = some task)
      (hblockers : listOf (task.get "BLOCKERS") = .ok blockers)
      (hupdate : Reaches times ledger (.updateTask taskId (blockingChanges blockers blocker)) task' ledger') :
      Reaches times ledger (.blockTask taskId blocker) task' ledger'

/-- What a method has done when it calls `_save`, returns without, or raises: nothing, or it has reached its
change of the memory and checked the new task. -/
inductive Outcome (times : Times) (ledger : Ledger) (operation : Operation) :
    EStateM.Result Fault Ledger Edit → Prop
  | refused (e : Fault) : Outcome times ledger operation (.error e ledger)
  | idle (task : Task) : Outcome times ledger operation (.ok ⟨false, task⟩ ledger)
  | rejected {task : Task} {ledger' : Ledger} (e : Fault) (h : Reaches times ledger operation task ledger')
      (hinvalid : validateTask (.dict task) = .error e) : Outcome times ledger operation (.error e ledger')
  | edited {task : Task} {ledger' : Ledger} (h : Reaches times ledger operation task ledger')
      (hvalid : validateTask (.dict task) = .ok ()) : Outcome times ledger operation (.ok ⟨true, task⟩ ledger')

section Methods

variable {times : Times} {ledger ledger' : Ledger} {operation operation' : Operation} {task : Task}

/-- An operation that is another one has its outcomes. -/
theorem Outcome.mono {r : EStateM.Result Fault Ledger Edit} (h : Outcome times ledger operation r)
    (himp : ∀ task ledger', Reaches times ledger operation task ledger' →
      Reaches times ledger operation' task ledger') : Outcome times ledger operation' r := by
  cases h with
  | refused e => exact .refused e
  | idle task => exact .idle task
  | rejected e hreaches hinvalid => exact .rejected e (himp _ _ hreaches) hinvalid
  | edited hreaches hvalid => exact .edited (himp _ _ hreaches) hvalid

/-- A check that raises leaves the memory as it is; otherwise the method goes on. -/
theorem Outcome.lift_bind {α : Type} {x : Except Fault α} {f : α → Method Edit}
    (h : ∀ a, x = .ok a → Outcome times ledger operation ((f a).run ledger)) :
    Outcome times ledger operation (((liftM x : Method α) >>= f).run ledger) := by
  cases x with
  | error e => exact .refused e
  | ok a => exact h a rfl

/-- The end of a method: the memory is changed, and the new task is checked. -/
theorem Outcome.set_validate (h : Reaches times ledger operation task ledger') :
    Outcome times ledger operation ((do
      set ledger'
      validateTask (.dict task)
      pure ⟨true, task⟩ : Method Edit).run ledger) := by
  rw [run_set_bind]
  cases hvalid : validateTask (.dict task) with
  | error e => exact .rejected e h hvalid
  | ok u => exact .edited h hvalid

/-- `updateTask` reaches its change of an open task. -/
theorem outcome_updateTask (taskId : PyVal) (changes : Kwargs) :
    Outcome times ledger (.updateTask taskId changes) ((updateTask times taskId changes).run ledger) := by
  refine Outcome.lift_bind fun _ hcheck => ?_
  rw [run_get_bind]
  refine Outcome.lift_bind fun i hi => ?_
  obtain ⟨task, hget⟩ := of_findTask hi
  have htask : ledger.tasks.getD i [] = task := by simp [hget]
  rw [htask]
  dsimp only
  split_ifs with hclosed heffective
  · exact .refused _
  · exact .idle task
  · exact .set_validate (.update hcheck hi hget (by simpa using hclosed))

/-- **The outcomes of the methods.** -/
theorem outcome_method (times : Times) (ledger : Ledger) (operation : Operation) :
    Outcome times ledger operation ((operation.method times).run ledger) := by
  cases operation with
  | createTask task =>
      change Outcome times ledger _ ((createTask times task).run ledger)
      rw [createTask, ← stamped]
      refine Outcome.lift_bind fun _ hvalid => ?_
      rw [run_get_bind]
      split_ifs with hknown
      · exact .refused _
      · rw [run_set_bind]
        refine .edited (.create hvalid fun t ht => ?_) hvalid
        rw [Bool.not_eq_true, List.any_eq_false] at hknown
        simpa using hknown t ht
  | updateTask taskId changes => exact outcome_updateTask taskId changes
  | completeTask taskId evidence closedHead =>
      change Outcome times ledger _ ((completeTask times taskId evidence closedHead).run ledger)
      rw [completeTask, run_get_bind]
      refine Outcome.lift_bind fun i hi => ?_
      obtain ⟨task, hget⟩ := of_findTask hi
      have htask : ledger.tasks.getD i [] = task := by simp [hget]
      rw [htask]
      dsimp only
      split_ifs with hclosed
      · exact .refused _
      · refine Outcome.lift_bind fun items hitems => Outcome.lift_bind fun scope hscope =>
          Outcome.lift_bind fun sealed hsealed => ?_
        exact (outcome_updateTask taskId _).mono fun _ _ h => .complete hi hget hitems hscope hsealed h
  | reopenTask taskId reason authorityRef nextAction =>
      change Outcome times ledger _
        ((reopenTask times taskId reason authorityRef nextAction).run ledger)
      rw [reopenTask]
      split_ifs with hreason hauthority hnext
      · exact .refused _
      · exact .refused _
      · exact .refused _
      rw [run_get_bind]
      refine Outcome.lift_bind fun i hi => ?_
      obtain ⟨task, hget⟩ := of_findTask hi
      have htask : ledger.tasks.getD i [] = task := by simp [hget]
      rw [htask]
      dsimp only
      split_ifs with hdone
      · refine Outcome.lift_bind fun previousSeal hprevious => Outcome.lift_bind fun history hhistory => ?_
        exact .set_validate (.reopen hreason hauthority hnext hi hget (pyEq_lit.1 hdone) hprevious hhistory)
      · exact .refused _
  | blockTask taskId blocker =>
      change Outcome times ledger _ ((blockTask times taskId blocker).run ledger)
      rw [blockTask, run_get_bind]
      refine Outcome.lift_bind fun i hi => ?_
      obtain ⟨task, hget⟩ := of_findTask hi
      have htask : ledger.tasks.getD i [] = task := by simp [hget]
      rw [htask]
      refine Outcome.lift_bind fun blockers hblockers => ?_
      exact (outcome_updateTask taskId _).mono fun _ _ h => .block hi hget hblockers h

end Methods

/-! ### What a change keeps -/

/-- The fields that reopening changes. -/
def reopenedFields : List String := ["STATE", "NEXT_ACTION", "BLOCKERS", "REOPEN_HISTORY",
  "COMPLETION_SEAL", "CLOSED_AT", "CLOSED_HEAD", "LAST_UPDATE"]

/-- A field that reopening does not change. -/
theorem reopened_get {times : Times} {task : Task} {nextAction : PyStr} {history : List PyVal} {k : String}
    (hk : k ∉ reopenedFields) : (reopened times task nextAction history).get k = task.get k := by
  simp only [reopenedFields, List.mem_cons, List.not_mem_nil, or_false, not_or] at hk
  simp [reopened, Task.get, PyVal.get, Task.set, getItem_setKey, getItem_eraseKey, cp_inj, hk]

/-- A task that is reopened has no seal. -/
theorem reopened_seal {times : Times} {task : Task} {nextAction : PyStr} {history : List PyVal} :
    (reopened times task nextAction history).get "COMPLETION_SEAL" = .none := by
  simp [reopened, Task.get, PyVal.get, Task.set, getItem_setKey, getItem_eraseKey, getItem_eraseKey_self,
    cp_inj]

section Changes

variable {times : Times} {ledger ledger' : Ledger} {operation : Operation} {task : Task}

/-- The identifier stays, or is replaced by an equal one. -/
def SameId (task old : Task) : Prop :=
  task.get "TASK_ID" = old.get "TASK_ID" ∨ pyEq (task.get "TASK_ID") (old.get "TASK_ID") = true

theorem SameId.ne_right {task old : Task} (h : SameId task old) {v : PyVal}
    (hne : pyEq v (old.get "TASK_ID") = false) : pyEq v (task.get "TASK_ID") = false := by
  rcases h with heq | hsame
  · rw [heq]
    exact hne
  · by_contra hv
    rw [pyEq_trans (by simpa using hv) hsame] at hne
    cases hne

theorem SameId.ne_left {task old : Task} (h : SameId task old) {v : PyVal}
    (hne : pyEq (old.get "TASK_ID") v = false) : pyEq (task.get "TASK_ID") v = false := by
  have hright : pyEq v (old.get "TASK_ID") = false := by
    by_contra hv
    rw [pyEq_symm (by simpa using hv)] at hne
    cases hne
  by_contra hv
  have htask := h.ne_right hright
  rw [pyEq_symm (by simpa using hv)] at htask
  cases htask

/-- Changes that pass the check do not give a task another identifier. -/
theorem sameId_updated {taskId : PyVal} {changes : Kwargs} {tasks : List Task} {i : ℕ}
    (hcheck : checkChanges taskId changes = .ok ()) (hfind : findTask taskId tasks = .ok i)
    (htask : tasks[i]? = some task) : SameId (updated times task changes) task := by
  rw [SameId, updated_get (by decide)]
  cases hlookup : changes.lookup (cp "TASK_ID") with
  | none => exact .inl rfl
  | some v =>
      rw [checkChanges, hlookup] at hcheck
      split_ifs at hcheck with hother
      · cases hcheck
      · have hv : pyEq v taskId = true := by simpa using hother
        exact .inr (pyEq_trans hv (pyEq_symm (of_findTask_get hfind htask)))

/-- `reopen_task` -/
def Operation.reopens : Operation → Bool
  | .reopenTask _ _ _ _ => true
  | _ => false

/-- What a call does to the memory when it reaches its change: it adds a task, or it replaces one that is
open, or is reopened. -/
theorem Reaches.change (h : Reaches times ledger operation task ledger') :
    (∃ t, operation = .createTask t ∧ task = stamped times t ∧
      ledger' = { ledger with tasks := ledger.tasks ++ [task] } ∧
      ∀ t ∈ ledger.tasks, pyEq (t.get "TASK_ID") (task.get "TASK_ID") = false) ∨
    ∃ i old, ledger.tasks[i]? = some old ∧ ledger' = ledger.setTask i task ∧ SameId task old ∧
      (old.closed = false ∨ operation.reopens = true) := by
  induction h with
  | create hvalid hnew => exact .inl ⟨_, rfl, rfl, rfl, hnew⟩
  | update hcheck hfind htask hopen =>
      exact .inr ⟨_, _, htask, rfl, sameId_updated hcheck hfind htask, .inl hopen⟩
  | complete _ _ _ _ _ _ ih =>
      rcases ih with ⟨t, hop, -⟩ | ⟨i, old, hi, hset, hid, hopen⟩
      · cases hop
      · exact .inr ⟨i, old, hi, hset, hid, .inl (hopen.resolve_right (by simp [Operation.reopens]))⟩
  | reopen _ _ _ _ htask _ _ _ =>
      exact .inr ⟨_, _, htask, rfl, .inl (reopened_get (by decide)), .inr rfl⟩
  | block _ _ _ _ ih =>
      rcases ih with ⟨t, hop, -⟩ | ⟨i, old, hi, hset, hid, hopen⟩
      · cases hop
      · exact .inr ⟨i, old, hi, hset, hid, .inl (hopen.resolve_right (by simp [Operation.reopens]))⟩

/-- A ledger can still be loaded after a change, when the new task is valid and its identifier can be an
element of a set. -/
theorem Reaches.loadable (h : Reaches times ledger operation task ledger') (hload : Loadable ledger.tasks)
    (hvalid : validateTask (.dict task) = .ok ()) (hhash : isHashable (task.get "TASK_ID") = true) :
    Loadable ledger'.tasks := by
  rcases h.change with ⟨t, -, -, rfl, hnew⟩ | ⟨i, old, hi, rfl, hid, -⟩
  · refine ⟨?_, ?_, ?_⟩
    · exact List.forall_mem_append.2 ⟨hload.valid, by simpa using hvalid⟩
    · exact List.forall_mem_append.2 ⟨hload.hashable, by simpa using hhash⟩
    · refine List.pairwise_append.2 ⟨hload.unique, List.pairwise_singleton _ _, fun a ha b hb => ?_⟩
      obtain rfl := List.mem_singleton.1 hb
      by_contra hsame
      rw [Bool.not_eq_false] at hsame
      have hold := hnew a ha
      rw [pyEq_symm hsame] at hold
      cases hold
  · have hmem : ∀ t ∈ ledger.tasks.set i task, t ∈ ledger.tasks ∨ t = task :=
      fun t ht => (List.mem_or_eq_of_mem_set ht)
    refine ⟨fun t ht => ?_, fun t ht => ?_, ?_⟩
    · rcases hmem t ht with ht | rfl
      · exact hload.valid t ht
      · exact hvalid
    · rcases hmem t ht with ht | rfl
      · exact hload.hashable t ht
      · exact hhash
    · change (ledger.tasks.set i task).Pairwise _
      have hold : ∀ (hlt : i < ledger.tasks.length), ledger.tasks[i] = old := fun hlt =>
        Option.some.inj ((List.getElem?_eq_getElem hlt).symm.trans hi)
      have hunique := List.pairwise_iff_getElem.1 hload.unique
      refine List.pairwise_iff_getElem.2 fun j k hj hk hjk => ?_
      rw [List.length_set] at hj hk
      rw [List.getElem_set, List.getElem_set]
      split_ifs with hik hij hij
      · omega
      · subst hik
        have hne := hunique j i hj hk hjk
        rw [hold hk] at hne
        exact hid.ne_left hne
      · subst hij
        have hne := hunique i k hj hk hjk
        rw [hold hj] at hne
        exact hid.ne_right hne
      · exact hunique j k hj hk hjk

end Changes

/-! ### What is committed -/

/-- What a call does to a ledger when it returns. -/
def effect (times : Times) (operation : Operation) (ledger : Ledger) : Ledger :=
  match (operation.method times).run ledger with
  | .ok _ ledger' => ledger'
  | .error _ _ => ledger

/-- An instance, and the ledger that the calls which have returned would have made. -/
structure Run where
  inst : Instance
  committed : Ledger

/-- One more call; only a call that returns has an effect. -/
def Run.call (r : Run) (call : Times × Operation) : Run where
  inst := (r.inst.call call.1 call.2).2
  committed :=
    match (r.inst.call call.1 call.2).1 with
    | .ok _ => effect call.1 call.2 r.committed
    | .error _ => r.committed

/-- Some more calls. -/
def Run.calls (r : Run) (calls : List (Times × Operation)) : Run := calls.foldl Run.call r

/-- The run of an instance that has just loaded a file. -/
def Run.start (file : PyVal) (ledger : Ledger) : Run := ⟨⟨ledger, file⟩, ledger⟩

/-- The file can be loaded, and its tasks are those that the calls which have returned have made. -/
def Commits (r : Run) : Prop :=
  (∃ ledger, load r.inst.file = .ok ledger) ∧ tasksOf r.inst.file = r.committed.tasks

/-- When the call reaches its change of the memory, the new task is valid, its identifier can be an element
of a set, and the ledger with it can be written. -/
def Tidy (s : Instance) (call : Times × Operation) : Prop :=
  ∀ task ledger', Reaches call.1 s.memory call.2 task ledger' →
    validateTask (.dict task) = .ok () ∧ isHashable (task.get "TASK_ID") = true ∧
      ∃ data, save call.1 ledger' = .ok data

/-- All calls of a run are tidy, each in the state in which it is made. -/
def TidyRun (s : Instance) : List (Times × Operation) → Prop
  | [] => True
  | call :: calls => Tidy s call ∧ TidyRun (s.call call.1 call.2).2 calls

/-- What a run of tidy calls keeps: the memory is what was committed, and what the file holds. -/
structure InStep (r : Run) : Prop where
  memory : r.inst.memory = r.committed
  loadable : Loadable r.committed.tasks
  loads : ∃ ledger, load r.inst.file = .ok ledger
  file : tasksOf r.inst.file = r.committed.tasks

theorem of_save {times : Times} {ledger : Ledger} {data : PyVal} (h : save times ledger = .ok data) :
    data = ledger.value times.updatedAt := by
  obtain ⟨text, -, h⟩ := bind_eq_ok_iff.1 h
  obtain ⟨bytes, -, h⟩ := bind_eq_ok_iff.1 h
  exact (pure_eq_ok_iff.1 h).symm

/-- One tidy call keeps the memory in step with the file. -/
theorem InStep.call {r : Run} (h : InStep r) {call : Times × Operation} (htidy : Tidy r.inst call) :
    InStep (r.call call) := by
  obtain ⟨times, operation⟩ := call
  obtain ⟨⟨memory, file⟩, committed⟩ := r
  obtain ⟨hmemory, hload, hloads, hfile⟩ := h
  obtain rfl : memory = committed := hmemory
  have houtcome := outcome_method times memory operation
  cases hresult : (operation.method times).run memory with
  | error e memory' =>
      have hnext : Run.call ⟨⟨memory, file⟩, memory⟩ (times, operation) =
          ⟨⟨memory', file⟩, memory⟩ := by
        rw [Run.call, Instance.call, hresult]
      rw [hnext]
      rw [hresult] at houtcome
      cases houtcome with
      | refused => exact ⟨rfl, hload, hloads, hfile⟩
      | rejected _ hreaches hinvalid =>
          -- a tidy call is not rejected
          obtain ⟨hvalid, -⟩ := htidy _ _ hreaches
          rw [hvalid] at hinvalid
          cases hinvalid
  | ok edit memory' =>
      have heffect : effect times operation memory = memory' := by
        rw [effect, hresult]
      rw [hresult] at houtcome
      cases houtcome with
      | idle task =>
          have hnext : Run.call ⟨⟨memory, file⟩, memory⟩ (times, operation) =
              ⟨⟨memory, file⟩, effect times operation memory⟩ := by
            rw [Run.call, Instance.call, hresult]
            rfl
          rw [hnext, heffect]
          exact ⟨rfl, hload, hloads, hfile⟩
      | @edited task _ hreaches hvalid =>
          obtain ⟨-, hhash, data, hdata⟩ := htidy _ _ hreaches
          have hnext : Run.call ⟨⟨memory, file⟩, memory⟩ (times, operation) =
              ⟨⟨memory', data⟩, effect times operation memory⟩ := by
            rw [Run.call, Instance.call, hresult]
            dsimp only
            rw [if_pos rfl, hdata]
          have hload' := hreaches.loadable hload hvalid hhash
          obtain rfl := of_save hdata
          rw [hnext, heffect]
          exact ⟨rfl, hload', load_value _ _ hload', tasksOf_value _ _⟩

/-- So does a run of them. -/
theorem InStep.calls {r : Run} (h : InStep r) {calls : List (Times × Operation)}
    (htidy : TidyRun r.inst calls) : InStep (r.calls calls) := by
  induction calls generalizing r with
  | nil => exact h
  | cons call calls ih => exact ih (h.call htidy.1) htidy.2

/-- **Successful calls are committed.**  When every call of a run on one instance is tidy in the state in
which it is made, then the file can be loaded after the run, and it holds what the calls that returned have
done, and nothing else. -/
theorem commits_of_tidy {file : PyVal} {ledger : Ledger} (hload : load file = .ok ledger)
    (calls : List (Times × Operation)) (htidy : TidyRun ⟨ledger, file⟩ calls) :
    Commits ((Run.start file ledger).calls calls) := by
  have hstart : InStep (Run.start file ledger) :=
    ⟨rfl, loadable_of_load hload, ⟨ledger, hload⟩, (of_load hload).symm⟩
  have hend := hstart.calls htidy
  exact ⟨hend.loads, hend.file⟩

/-- The clock of the calls below. -/
def sampleTimes : Times := ⟨cp "2026-01-02", cp "2026-01-02", cp "2026-01-02"⟩

/-- The task gets a title. -/
def titleCall (title : String) : Times × Operation :=
  (sampleTimes, .updateTask (lit "T-001") [(cp "TITLE", lit title)])

set_option maxRecDepth 4000 in
/-- The task has got a title. -/
theorem commits_title : Commits ((Run.start (sampleFile "TODO" []) (sampleLedger "TODO" [])).calls
    [titleCall "new"]) := by
  refine commits_of_tidy rfl _ ⟨?_, trivial⟩
  intro task ledger' hreaches
  cases hreaches with
  | update hcheck hfind htask hopen =>
      obtain rfl := Except.ok.inj hfind
      obtain rfl := Option.some.inj htask
      exact ⟨rfl, rfl, _, rfl⟩

/-- A call that is rejected, since its blockers are no list, and one that is not. -/
def leakingCalls : List (Times × Operation) := [
  (sampleTimes, .updateTask (lit "T-001") [(cp "TITLE", lit "leak"), (cp "BLOCKERS", lit "x")]),
  (sampleTimes, .updateTask (lit "T-001") [(cp "BLOCKERS", .list [])])]

set_option maxRecDepth 4000 in
/-- The title of the rejected call is in the file after the other one. -/
theorem not_commits_leak : load (sampleFile "TODO" []) = .ok (sampleLedger "TODO" []) ∧
    ¬Commits ((Run.start (sampleFile "TODO" []) (sampleLedger "TODO" [])).calls leakingCalls) := by
  refine ⟨rfl, fun h => ?_⟩
  have hfile : (tasksOf ((Run.start (sampleFile "TODO" []) (sampleLedger "TODO" [])).calls
      leakingCalls).inst.file).map (Task.get · "TITLE") = [lit "leak"] := rfl
  have hcommitted : (((Run.start (sampleFile "TODO" []) (sampleLedger "TODO" [])).calls
      leakingCalls).committed.tasks).map (Task.get · "TITLE") = [lit ""] := rfl
  rw [h.2, hcommitted] at hfile
  exact absurd hfile (by simp [lit, cp_inj])

end WorkLedger
