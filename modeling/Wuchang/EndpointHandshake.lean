/-
**When another transport breaks even.**

`w7tp_endpoint_rule_handshake_v1.py`: a transport has a cost once, for its bootstrap, and a cost in every
run.  `_break_even_runs` says after how many runs an alternative to the full transfer costs no more than it.
Both costs are read of cost vectors, which are documents; a cost that is not there, or is no integer, makes
the answer `UNKNOWN`.

Two transports are two lines over the number of runs.  The alternative has reached the full transfer at a
run `n` when its line is not above that of the full transfer there.

Main definitions:

* `EndpointHandshake.Crossing` — the alternative has reached the full transfer;
* `EndpointHandshake.breakEvenRuns` — `_break_even_runs`;
* `EndpointHandshake.HasCosts` — a cost vector has the two costs.

Main results:

* `EndpointHandshake.isLeast_crossing_one`, `EndpointHandshake.isLeast_crossing_div` — the first run at which
  the lines have crossed;
* `EndpointHandshake.breakEvenRuns_least` — what the answer says.
-/

import Wuchang.PyValue
import Mathlib.Order.Bounds.Basic
import Mathlib.Tactic.Linarith

set_option relaxedAutoImplicit false
set_option autoImplicit false

namespace EndpointHandshake

open Py

/-! ### Two lines -/

/-- After `n` runs the alternative has cost no more than the full transfer. -/
def Crossing (fBoot fSteady aBoot aSteady : ℤ) (n : ℕ) : Prop :=
  1 ≤ n ∧ aBoot + n * aSteady ≤ fBoot + n * fSteady

section Lines

variable {fBoot fSteady aBoot aSteady : ℤ}

/-- The lines have crossed when the runs have saved what the bootstrap costs more. -/
theorem crossing_iff {n : ℕ} : Crossing fBoot fSteady aBoot aSteady n ↔
    1 ≤ n ∧ aBoot - fBoot ≤ n * (fSteady - aSteady) := by
  rw [Crossing, mul_sub]
  constructor
  · rintro ⟨hn, hle⟩
    exact ⟨hn, by omega⟩
  · rintro ⟨hn, hle⟩
    exact ⟨hn, by omega⟩

/-- A bootstrap that costs no more is made up for by the first run that saves something. -/
theorem isLeast_crossing_one (hsaving : 0 < fSteady - aSteady) (hboot : aBoot - fBoot ≤ 0) :
    IsLeast {n | Crossing fBoot fSteady aBoot aSteady n} 1 := by
  refine ⟨crossing_iff.2 ⟨le_rfl, by omega⟩, fun n hn => ?_⟩
  exact (crossing_iff.1 hn).1

/-- A bootstrap that costs more is made up for by its quotient with the saving, rounded up. -/
theorem isLeast_crossing_div (hsaving : 0 < fSteady - aSteady) (hboot : 0 < aBoot - fBoot) :
    IsLeast {n | Crossing fBoot fSteady aBoot aSteady n}
      ((aBoot - fBoot + (fSteady - aSteady) - 1) / (fSteady - aSteady)).toNat := by
  obtain ⟨saving, hs⟩ : ∃ s, fSteady - aSteady = s := ⟨_, rfl⟩
  obtain ⟨extra, he⟩ : ∃ e, aBoot - fBoot = e := ⟨_, rfl⟩
  obtain ⟨q, hq⟩ : ∃ q, (extra + saving - 1) / saving = q := ⟨_, rfl⟩
  rw [hs] at hsaving
  rw [he] at hboot
  have hlow : q * saving ≤ extra + saving - 1 := hq ▸ Int.ediv_mul_le _ hsaving.ne'
  have hhigh : extra + saving - 1 < (q + 1) * saving := hq ▸ Int.lt_ediv_add_one_mul_self _ hsaving
  rw [add_mul, one_mul] at hhigh
  have hpos : 0 < q := by
    by_contra hneg
    have := mul_nonpos_of_nonpos_of_nonneg (not_lt.1 hneg) hsaving.le
    omega
  have hcast : (q.toNat : ℤ) = q := Int.toNat_of_nonneg hpos.le
  rw [hs, he, hq]
  refine ⟨crossing_iff.2 ⟨by omega, ?_⟩, fun n hn => ?_⟩
  · rw [hs, he, hcast]
    omega
  · obtain ⟨-, hle⟩ := crossing_iff.1 hn
    rw [hs, he] at hle
    have hlt : q * saving < (n + 1) * saving := by
      rw [add_mul, one_mul]
      omega
    have := lt_of_mul_lt_mul_right hlt hsaving.le
    omega

/-- Where no run saves anything the first run is the best. -/
theorem crossing_one {n : ℕ} (hsaving : fSteady - aSteady ≤ 0) (h : Crossing fBoot fSteady aBoot aSteady n) :
    Crossing fBoot fSteady aBoot aSteady 1 := by
  obtain ⟨hn, hle⟩ := crossing_iff.1 h
  have hmul : (n : ℤ) * (fSteady - aSteady) ≤ 1 * (fSteady - aSteady) :=
    mul_le_mul_of_nonpos_right (by omega) hsaving
  exact crossing_iff.2 ⟨le_rfl, by push_cast; omega⟩

end Lines

/-! ### Cost vectors -/

/-- An exception: `EndpointRuleHandshakeHold` has a code. -/
abbrev Fault := Raise PyStr

/-- `UNKNOWN_COST` -/
def unknownCost : PyVal := lit "UNKNOWN"

/-- `isinstance(v, int)`, with the number. -/
def intOf : PyVal → Option ℤ
  | .int n => some n
  | .bool b => some (if b then 1 else 0)
  | _ => none

/-- The costs of two transports, in the order in which they are read. -/
structure Costs where
  fBoot : PyVal
  aBoot : PyVal
  fSteady : PyVal
  aSteady : PyVal

/-- What `_break_even_runs` reads. -/
def readCosts (full alternative : PyVal) : Except Fault Costs := do
  let f ← full.at "transport"
  let a ← alternative.at "transport"
  let fBoot ← f.at "bootstrap_bytes"
  let aBoot ← a.at "bootstrap_bytes"
  let fSteady ← f.at "steady_state_transport_bytes"
  let aSteady ← a.at "steady_state_transport_bytes"
  pure ⟨fBoot, aBoot, fSteady, aSteady⟩

/-- The answer for four integers. -/
def breakEven (fBoot aBoot fSteady aSteady : ℤ) : PyVal :=
  let saving := fSteady - aSteady
  if saving ≤ 0 then unknownCost
  else
    let extraBootstrap := aBoot - fBoot
    if extraBootstrap ≤ 0 then .int 1
    else .int ((extraBootstrap + saving - 1) / saving)

/-- `_break_even_runs` -/
def breakEvenRuns (full alternative : PyVal) : PyVal :=
  match readCosts full alternative with
  | .error _ => unknownCost
  | .ok c =>
      match intOf c.fBoot, intOf c.aBoot, intOf c.fSteady, intOf c.aSteady with
      | some fBoot, some aBoot, some fSteady, some aSteady => breakEven fBoot aBoot fSteady aSteady
      | _, _, _, _ => unknownCost

/-- The cost vector has these costs. -/
structure HasCosts (vector : PyVal) (boot steady : ℤ) : Prop where
  boot : (vector.get "transport").get "bootstrap_bytes" = .int boot
  steady : (vector.get "transport").get "steady_state_transport_bytes" = .int steady

variable {full alternative : PyVal} {fBoot fSteady aBoot aSteady : ℤ}

theorem readCosts_eq (hf : HasCosts full fBoot fSteady) (ha : HasCosts alternative aBoot aSteady) :
    readCosts full alternative = .ok ⟨.int fBoot, .int aBoot, .int fSteady, .int aSteady⟩ := by
  have htransport : ∀ {v : PyVal} {b s : ℤ}, HasCosts v b s → v.get "transport" ≠ .none := by
    intro v b s h hnone
    have hboot := h.boot
    rw [hnone] at hboot
    cases hboot
  rw [readCosts, at_of_get rfl (htransport hf), at_of_get rfl (htransport ha), ok_bind, ok_bind,
    at_of_get hf.boot (by simp), at_of_get ha.boot (by simp), at_of_get hf.steady (by simp),
    at_of_get ha.steady (by simp)]
  rfl

theorem breakEvenRuns_eq (hf : HasCosts full fBoot fSteady) (ha : HasCosts alternative aBoot aSteady) :
    breakEvenRuns full alternative = breakEven fBoot aBoot fSteady aSteady := by
  rw [breakEvenRuns, readCosts_eq hf ha]
  rfl

/-- **The break-even run.**  Where a run saves something the answer is the first run at which the
alternative has reached the full transfer.  The answer is `UNKNOWN` exactly where no run saves anything;
then the full transfer is not reached at all, or it is at the first run. -/
theorem breakEvenRuns_least (hf : HasCosts full fBoot fSteady) (ha : HasCosts alternative aBoot aSteady) :
    (aSteady < fSteady → ∃ n : ℕ, breakEvenRuns full alternative = .int n ∧
      IsLeast {n | Crossing fBoot fSteady aBoot aSteady n} n) ∧
    (breakEvenRuns full alternative = unknownCost ↔ fSteady ≤ aSteady) ∧
    (fSteady ≤ aSteady → (∃ n, Crossing fBoot fSteady aBoot aSteady n) →
      Crossing fBoot fSteady aBoot aSteady 1) := by
  rw [breakEvenRuns_eq hf ha]
  refine ⟨fun hsaving => ?_, ?_, fun hsaving => ?_⟩
  · rw [breakEven, if_neg (by omega)]
    by_cases hboot : aBoot - fBoot ≤ 0
    · exact ⟨1, by rw [if_pos hboot]; rfl, isLeast_crossing_one (by omega) hboot⟩
    · refine ⟨_, ?_, isLeast_crossing_div (by omega) (by omega)⟩
      rw [if_neg hboot, Int.toNat_of_nonneg]
      exact Int.ediv_nonneg (by omega) (by omega)
  · rw [breakEven]
    by_cases hsaving : fSteady - aSteady ≤ 0
    · rw [if_pos hsaving]
      exact iff_of_true rfl (by omega)
    · rw [if_neg hsaving]
      exact iff_of_false (by dsimp only; split_ifs <;> simp [unknownCost, lit]) (by omega)
  · rintro ⟨n, hn⟩
    exact crossing_one (by omega) hn

/-- A cost vector, as far as it is read here. -/
def vectorOf (boot steady : ℤ) : PyVal :=
  obj [("transport", obj [("bootstrap_bytes", .int boot), ("steady_state_transport_bytes", .int steady)])]

theorem hasCosts_vectorOf (boot steady : ℤ) : HasCosts (vectorOf boot steady) boot steady :=
  ⟨by simp [vectorOf], by simp [vectorOf]⟩

theorem breakEvenRuns_least_sample : breakEvenRuns (vectorOf 0 10) (vectorOf 25 3) = .int 4 ∧
    ∃ n : ℕ, breakEvenRuns (vectorOf 0 10) (vectorOf 25 3) = .int n ∧ IsLeast {n | Crossing 0 10 25 3 n} n :=
  ⟨by rw [breakEvenRuns_eq (hasCosts_vectorOf _ _) (hasCosts_vectorOf _ _)]; rfl,
    (breakEvenRuns_least (hasCosts_vectorOf 0 10) (hasCosts_vectorOf 25 3)).1 (by decide)⟩

/-- Two transports that cost the same have reached one another at the first run, and yet the answer is
`UNKNOWN`. -/
theorem breakEvenRuns_equal_costs : ¬∀ (full alternative : PyVal) (fBoot fSteady aBoot aSteady : ℕ),
    HasCosts full fBoot fSteady → HasCosts alternative aBoot aSteady →
    (breakEvenRuns full alternative = unknownCost ↔
      ¬∃ n : ℕ, Crossing fBoot fSteady aBoot aSteady n) := by
  intro h
  have hcosts := hasCosts_vectorOf 7 5
  have hunknown : breakEvenRuns (vectorOf 7 5) (vectorOf 7 5) = unknownCost := by
    rw [breakEvenRuns_eq hcosts hcosts]
    rfl
  exact (h _ _ 7 5 7 5 hcosts hcosts).1 hunknown ⟨1, le_rfl, le_rfl⟩

end EndpointHandshake
