/-
**Calls of the work ledger on one file.**

A function of `work_ledger.py` makes an instance for one call.  The constructor reads the file twice: `_load`
reads the tasks, and a second reading gives the hash that `_save` compares under the lock.  So a call is a
program of `OptimisticFile`: a commit of another process that lands between the two readings passes the
comparison, and is overwritten by tasks that were read before it.

The contents of the file, what `json.loads` makes of them, and the hash are parameters.  What `json.dump`
writes belongs to the call: the text follows the order in which keys were inserted.

Main definitions:

* `WorkLedger.Operation`, `WorkLedger.Call` — the functions of the module, and a call of one;
* `WorkLedger.Call.program` — a call as a program on a file.

Main results:

* `WorkLedger.noLostUpdate_of_steady` — no update is lost while the file does not change between the two
  readings of a constructor.
-/

import Wuchang.WorkLedger
import Wuchang.OptimisticFile

set_option relaxedAutoImplicit false
set_option autoImplicit false

namespace WorkLedger

open Py OptimisticFile

/-- The functions of the module that change the file, with their arguments. -/
inductive Operation where
  | createTask (task : Task)
  | updateTask (taskId : PyVal) (changes : Kwargs)
  | completeTask (taskId evidence : PyVal) (closedHead : Option PyStr)
  | reopenTask (taskId : PyVal) (reason authorityRef nextAction : PyStr)
  | blockTask (taskId : PyVal) (blocker : PyVal)

/-- The method an operation calls. -/
def Operation.method (times : Times) : Operation → Method Edit
  | .createTask task => WorkLedger.createTask times task
  | .updateTask taskId changes => WorkLedger.updateTask times taskId changes
  | .completeTask taskId evidence closedHead => WorkLedger.completeTask times taskId evidence closedHead
  | .reopenTask taskId reason authorityRef nextAction =>
      WorkLedger.reopenTask times taskId reason authorityRef nextAction
  | .blockTask taskId blocker => WorkLedger.blockTask times taskId blocker

/-- A call: the operation, the clock, and what `json.dump` writes for a value or raises. -/
structure Call (Contents : Type) where
  operation : Operation
  times : Times
  write : PyVal → Except Fault Contents

/-- A call as a program on a file; `read` is `json.loads` of the text of the file. -/
def Call.program {Contents : Type} (read : Contents → Except Fault PyVal) (call : Call Contents) :
    Program Contents Ledger Task Fault where
  load file := do
    let data ← read file
    load data
  finish ledger := do
    let (edit, ledger) ← callOn (call.operation.method call.times) ledger
    pure (if edit.saves then some (call.write (ledger.value call.times.updatedAt)) else none, edit.task)

/-- The calls of several processes on one file. -/
def programs {ι Contents : Type} (read : Contents → Except Fault PyVal) (calls : ι → Call Contents)
    (i : ι) : Program Contents Ledger Task Fault :=
  (calls i).program read

/-- `RuntimeError("WORK_LEDGER_PREIMAGE_DRIFT")` -/
def preimageDrift : Fault := .own (.runtimeError "WORK_LEDGER_PREIMAGE_DRIFT")

section Runs

variable {ι Contents Digest : Type} [DecidableEq ι] [DecidableEq Digest]

/-- The file and the calls after a schedule of their steps. -/
def runCalls (read : Contents → Except Fault PyVal) (hash : Contents → Digest)
    (calls : ι → Call Contents) (first : Contents) (schedule : List ι) :
    System ι Contents Digest Ledger Task Fault :=
  run (programs read calls) hash preimageDrift (System.initial first) schedule

/-- In every constructor the second reading of the file shows what the first one has shown. -/
def SteadyCalls (read : Contents → Except Fault PyVal) (hash : Contents → Digest)
    (calls : ι → Call Contents) (first : Contents) (schedule : List ι) : Prop :=
  Steady (programs read calls) hash preimageDrift (System.initial first) schedule

/-- **No update is lost.**  In every schedule of the calls in which no constructor sees the file change
between its two readings, every committed version is the effect of one call on the version before it, no
call commits twice, and a call that raises commits nothing. -/
theorem noLostUpdate_of_steady (read : Contents → Except Fault PyVal) {hash : Contents → Digest}
    (hinjective : Function.Injective hash) (calls : ι → Call Contents) (first : Contents)
    (schedule : List ι) (hsteady : SteadyCalls read hash calls first schedule) :
    NoLostUpdate (programs read calls) first (runCalls read hash calls first schedule) ∧
      ∀ i e, (runCalls read hash calls first schedule).phase i = .raised e →
        ∀ c ∈ (runCalls read hash calls first schedule).commits, c.writer ≠ i := by
  have hlost := OptimisticFile.noLostUpdate_run hinjective schedule hsteady
  refine ⟨hlost, ?_⟩
  rintro i e hraised c hc rfl
  obtain ⟨r, -, hreturned⟩ := hlost.applied c hc
  exact absurd (hraised.symm.trans hreturned) (by simp)

end Runs

/-! ### A commit between the two readings -/

/-- The task is blocked; the file is kept as its value. -/
def blockCall (blocker : String) : Call PyVal where
  operation := .blockTask (lit "T-001") (lit blocker)
  times := ⟨cp "2026-01-01", cp "2026-01-01", cp "2026-01-01"⟩
  write := .ok

/-- Two processes block the task for different reasons. -/
def sampleCalls : Bool → Call PyVal
  | true => blockCall "A"
  | false => blockCall "B"

/-- The memory of an instance that has loaded the file. -/
def sampleLedger (state : String) (blockers : List String) : Ledger :=
  ⟨fields [("TASKS", .list [.dict (sampleTask state blockers)]), ("UPDATED_AT", lit "2026-01-01")],
    [sampleTask state blockers]⟩

/-- Alone, the first call adds its blocker to what the second one has written. -/
theorem effect_sample : ((blockCall "A").program .ok).effect (sampleFile "BLOCKED" ["B"]) =
    .ok (some (sampleFile "BLOCKED" ["B", "A"]), sampleTask "BLOCKED" ["B", "A"]) := rfl

open scoped Classical in
/-- The second process commits between the two readings of the first one: its blocker is lost. -/
theorem not_noLostUpdate_between : ¬NoLostUpdate (programs .ok sampleCalls)
    (sampleFile "TODO" []) (runCalls .ok id sampleCalls (sampleFile "TODO" [])
      [true, false, false, false, true, true]) := by
  intro hlost
  have hloaded : runCalls .ok id sampleCalls (sampleFile "TODO" []) [true, false] =
      ⟨sampleFile "TODO" [], Function.update (Function.update (fun _ => .idle) true
        (.loaded (sampleFile "TODO" []) (sampleLedger "TODO" []))) false
        (.loaded (sampleFile "TODO" []) (sampleLedger "TODO" [])), []⟩ := rfl
  have hsplit : runCalls .ok id sampleCalls (sampleFile "TODO" []) [true, false, false, false, true, true] =
      run (programs .ok sampleCalls) id preimageDrift
        (run (programs .ok sampleCalls) id preimageDrift
          (runCalls .ok id sampleCalls (sampleFile "TODO" []) [true, false]) [false, false])
        [true, true] := rfl
  have hfinish : ∀ i, (programs .ok sampleCalls i).finish (sampleLedger "TODO" []) =
      .ok (some (.ok (sampleFile "BLOCKED" [if i then "A" else "B"])),
        sampleTask "BLOCKED" [if i then "A" else "B"]) := by
    intro i
    cases i with
    | true => rfl
    | false => rfl
  rw [hsplit, hloaded, overwrites rfl (hfinish false), overwrites rfl (hfinish true)] at hlost
  obtain ⟨r, heffect, -⟩ := hlost.applied _ List.mem_cons_self
  have hfile := Option.some.inj (Prod.mk.inj (Except.ok.inj (effect_sample.symm.trans heffect))).1
  exact absurd (congrArg (pyEq (sampleFile "BLOCKED" ["A"])) hfile) (by decide)

open scoped Classical in
/-- Both processes read the file twice before one of them commits: the other one raises. -/
theorem noLostUpdate_drift : NoLostUpdate (programs .ok sampleCalls) (sampleFile "TODO" [])
      (runCalls .ok id sampleCalls (sampleFile "TODO" []) [true, false, true, false, true, false]) ∧
    ∀ i e, (runCalls .ok id sampleCalls (sampleFile "TODO" [])
        [true, false, true, false, true, false]).phase i = .raised e →
      ∀ c ∈ (runCalls .ok id sampleCalls (sampleFile "TODO" [])
        [true, false, true, false, true, false]).commits, c.writer ≠ i := by
  refine noLostUpdate_of_steady .ok Function.injective_id sampleCalls (sampleFile "TODO" []) _ ?_
  have hidle : ∀ i, Rereads (System.initial (sampleFile "TODO" []) : System Bool PyVal PyVal Ledger Task
      Fault) i := fun i _ _ h => nomatch h
  refine ⟨hidle true, ?_, ?_, ?_, ?_, ?_, trivial⟩
  · rintro seen m h
    cases h
  · rintro seen m h
    obtain ⟨rfl, -⟩ := Phase.loaded.inj h
    rfl
  · rintro seen m h
    obtain ⟨rfl, -⟩ := Phase.loaded.inj h
    rfl
  · rintro seen m h
    cases h
  · rintro seen m h
    rw [advance_phase_of_ne Bool.false_ne_true] at h
    cases h

end WorkLedger
