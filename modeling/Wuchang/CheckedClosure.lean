/-
**Closures that may be refused.**

A worklist computes what can be reached from some elements.  An element is taken from the list; if it is not
selected yet, it is checked and selected, and what follows it is put on the list, unless it is selected
already.  The list may have an element many times, and is arranged anew in every round.  The loop ends with an
error at the first element that the check refuses.

When the elements that pass the check are finitely many, the loop ends; it ends with an error if and only if
an element can be reached that the check refuses, and it ends with what can be reached otherwise.

This module names nothing of the code that is verified with it.

Main definitions:

* `CheckedClosure.run` — the loop;
* `CheckedClosure.Reachable` — what can be reached;
* `CheckedClosure.Visits` — what a visit does: it checks, and yields what follows.

Main results:

* `CheckedClosure.exists_run` — the loop ends;
* `CheckedClosure.run_ok`, `CheckedClosure.run_error` — how it ends.
-/

import Mathlib.Data.Finset.Card
import Mathlib.Data.Finset.Dedup
import Mathlib.Data.Finset.SDiff

set_option relaxedAutoImplicit false
set_option autoImplicit false

namespace CheckedClosure

variable {α ε : Type}

/-- The loop, for as many rounds as are allowed: what is selected, and the list.  A visit is told what is
selected, with the element itself. -/
def run [DecidableEq α] (visit : List α → α → Except ε (List α)) (arrange : List α → List α) :
    ℕ → List α → List α → Option (Except ε (List α))
  | 0, _, _ => none
  | _ + 1, selected, [] => some (.ok selected)
  | rounds + 1, selected, a :: pending =>
      if a ∈ selected then run visit arrange rounds selected pending
      else match visit (selected ++ [a]) a with
        | .error e => some (.error e)
        | .ok followers => run visit arrange rounds (selected ++ [a]) (arrange (pending ++ followers))

/-- What can be reached from some elements. -/
inductive Reachable (next : α → List α) (start : List α) : α → Prop
  | start {a : α} (h : a ∈ start) : Reachable next start a
  | step {a b : α} (ha : Reachable next start a) (h : b ∈ next a) : Reachable next start b

/-- A closed set that has the first elements has all that can be reached. -/
theorem Reachable.mem {next : α → List α} {start : List α} {s : Set α} (hstart : ∀ a ∈ start, a ∈ s)
    (hclosed : ∀ a ∈ s, ∀ b ∈ next a, b ∈ s) {a : α} (h : Reachable next start a) : a ∈ s := by
  induction h with
  | start h => exact hstart _ h
  | step _ h ih => exact hclosed _ ih _ h

/-- What can be reached depends on the followers as sets. -/
theorem Reachable.congr {next next' : α → List α} {start start' : List α} (hstart : ∀ a ∈ start, a ∈ start')
    (hnext : ∀ a, ∀ b ∈ next a, b ∈ next' a) {a : α} (h : Reachable next start a) : Reachable next' start' a :=
  Reachable.mem (s := {a | Reachable next' start' a}) (fun a ha => Reachable.start (hstart a ha))
    (fun a ha b hb => Reachable.step (show Reachable next' start' a from ha) (hnext a b hb)) h

/-- A visit checks an element, and yields what follows it, but may leave out what is selected. -/
structure Visits (visit : List α → α → Except ε (List α)) (accepts : α → Prop) (next : α → List α) : Prop where
  refused : ∀ selected a e, visit selected a = .error e → ¬accepts a
  accepted : ∀ selected a followers, visit selected a = .ok followers → accepts a
  sound : ∀ selected a followers, visit selected a = .ok followers → ∀ b ∈ followers, b ∈ next a
  complete : ∀ selected a followers, visit selected a = .ok followers → ∀ b ∈ next a, b ∈ followers ∨ b ∈ selected

section Run

variable {visit : List α → α → Except ε (List α)} {arrange : List α → List α} {accepts : α → Prop}
  {next : α → List α} {start selected pending : List α}

/-- What the loop keeps: all that is selected or on the list can be reached, what is selected has passed the
check, and what follows it is selected or on the list. -/
structure Inv (accepts : α → Prop) (next : α → List α) (start selected pending : List α) : Prop where
  nodup : selected.Nodup
  accepted : ∀ a ∈ selected, accepts a
  reached : ∀ a ∈ selected ++ pending, Reachable next start a
  covered : ∀ a ∈ start, a ∈ selected ++ pending
  closed : ∀ a ∈ selected, ∀ b ∈ next a, b ∈ selected ++ pending

/-- An element that is selected is dropped from the list. -/
theorem Inv.drop {a : α} (h : Inv accepts next start selected (a :: pending)) (ha : a ∈ selected) :
    Inv accepts next start selected pending := by
  have hmem : ∀ b, b ∈ selected ++ a :: pending → b ∈ selected ++ pending := by
    intro b hb
    rcases List.mem_append.1 hb with hb | hb
    · exact List.mem_append_left _ hb
    · rcases List.mem_cons.1 hb with rfl | hb
      · exact List.mem_append_left _ ha
      · exact List.mem_append_right _ hb
  refine ⟨h.nodup, h.accepted, fun b hb => h.reached b ?_, fun b hb => hmem b (h.covered b hb),
    fun b hb c hc => hmem c (h.closed b hb c hc)⟩
  rcases List.mem_append.1 hb with hb | hb
  · exact List.mem_append_left _ hb
  · exact List.mem_append_right _ (List.mem_cons_of_mem _ hb)

/-- An element that passes the check is selected. -/
theorem Inv.select (hvisits : Visits visit accepts next) (harrange : ∀ l, (arrange l).Perm l) {a : α}
    {followers : List α} (h : Inv accepts next start selected (a :: pending)) (ha : a ∉ selected)
    (hvisit : visit (selected ++ [a]) a = .ok followers) :
    Inv accepts next start (selected ++ [a]) (arrange (pending ++ followers)) := by
  have hreached : Reachable next start a := h.reached a (by simp)
  have hmem : ∀ b, b ∈ selected ++ a :: pending → b ∈ (selected ++ [a]) ++ arrange (pending ++ followers) := by
    intro b hb
    simp only [List.mem_append, List.mem_cons, (harrange _).mem_iff, List.not_mem_nil, or_false] at hb ⊢
    tauto
  refine ⟨?_, ?_, ?_, fun b hb => hmem b (h.covered b hb), ?_⟩
  · exact List.nodup_append.2 ⟨h.nodup, List.nodup_singleton a, fun b hb c hc hbc =>
      ha (List.mem_singleton.1 hc ▸ hbc ▸ hb)⟩
  · intro b hb
    rcases List.mem_append.1 hb with hb | hb
    · exact h.accepted b hb
    · rw [List.mem_singleton.1 hb]
      exact hvisits.accepted _ _ _ hvisit
  · intro b hb
    rcases List.mem_append.1 hb with hb | hb
    · rcases List.mem_append.1 hb with hb | hb
      · exact h.reached b (List.mem_append_left _ hb)
      · rw [List.mem_singleton.1 hb]
        exact hreached
    · rcases List.mem_append.1 ((harrange _).mem_iff.1 hb) with hb | hb
      · exact h.reached b (List.mem_append_right _ (List.mem_cons_of_mem _ hb))
      · exact .step hreached (hvisits.sound _ _ _ hvisit b hb)
  · intro b hb c hc
    rcases List.mem_append.1 hb with hb | hb
    · exact hmem c (h.closed b hb c hc)
    · rw [List.mem_singleton.1 hb] at hc
      rcases hvisits.complete _ _ _ hvisit c hc with hc | hc
      · exact List.mem_append_right _ ((harrange _).mem_iff.2 (List.mem_append_right _ hc))
      · exact List.mem_append_left _ hc

theorem Inv.initial (accepts : α → Prop) (next : α → List α) {pending : List α} (h : ∀ a, a ∈ pending ↔ a ∈ start) :
    Inv accepts next start [] pending :=
  ⟨List.nodup_nil, fun _ ha => absurd ha List.not_mem_nil, fun a ha => .start ((h a).1 ha),
    fun a ha => (h a).2 ha, fun _ ha => absurd ha List.not_mem_nil⟩

variable [DecidableEq α]

/-- More rounds change nothing. -/
theorem run_of_le {rounds more : ℕ} (hle : rounds ≤ more) {outcome : Except ε (List α)}
    (h : run visit arrange rounds selected pending = some outcome) :
    run visit arrange more selected pending = some outcome := by
  induction rounds generalizing more selected pending with
  | zero => cases h
  | succ rounds ih =>
      obtain ⟨more, rfl⟩ : ∃ fewer, more = fewer + 1 := ⟨more - 1, by omega⟩
      have hle' : rounds ≤ more := by omega
      cases pending with
      | nil => exact h
      | cons a pending =>
          rw [run] at h ⊢
          by_cases ha : a ∈ selected
          · rw [if_pos ha] at h ⊢
            exact ih hle' h
          · rw [if_neg ha] at h ⊢
            cases hvisit : visit (selected ++ [a]) a with
            | error e =>
                rw [hvisit] at h
                exact h
            | ok followers =>
                rw [hvisit] at h
                exact ih hle' h

/-- **The loop ends.**  Every round selects one of finitely many elements, or shortens the list. -/
theorem exists_run {support : Finset α} (hsupport : ∀ selected a followers, visit selected a = .ok followers →
    a ∈ support) (arrange : List α → List α) (selected pending : List α) :
    ∃ rounds outcome, run visit arrange rounds selected pending = some outcome := by
  induction hcard : (support \ selected.toFinset).card using Nat.strong_induction_on
    generalizing selected pending with
  | _ card ih =>
      induction pending with
      | nil => exact ⟨1, .ok selected, rfl⟩
      | cons a pending ihPending =>
          by_cases ha : a ∈ selected
          · obtain ⟨rounds, outcome, h⟩ := ihPending
            exact ⟨rounds + 1, outcome, by rw [run, if_pos ha, h]⟩
          · cases hvisit : visit (selected ++ [a]) a with
            | error e => exact ⟨1, .error e, by rw [run, if_neg ha, hvisit]⟩
            | ok followers =>
                have hless : (support \ (selected ++ [a]).toFinset).card < card := by
                  rw [← hcard]
                  refine Finset.card_lt_card (Finset.ssubset_iff_subset_ne.2 ⟨?_, fun heq => ?_⟩)
                  · exact Finset.sdiff_subset_sdiff (Finset.Subset.refl _) (by simp)
                  · have hmem : a ∈ support \ selected.toFinset :=
                      Finset.mem_sdiff.2 ⟨hsupport _ _ _ hvisit, by simpa using ha⟩
                    rw [← heq] at hmem
                    simp at hmem
                obtain ⟨rounds, outcome, h⟩ := ih _ hless (selected ++ [a]) (arrange (pending ++ followers)) rfl
                exact ⟨rounds + 1, outcome, by rw [run, if_neg ha, hvisit]; exact h⟩

/-- What the loop ends with, from a state that it keeps. -/
theorem of_run (hvisits : Visits visit accepts next) (harrange : ∀ l, (arrange l).Perm l) {rounds : ℕ}
    {outcome : Except ε (List α)} (hinv : Inv accepts next start selected pending)
    (h : run visit arrange rounds selected pending = some outcome) :
    (∃ selected, outcome = .ok selected ∧ Inv accepts next start selected []) ∨
      ∃ e, outcome = .error e ∧ ∃ a, Reachable next start a ∧ ¬accepts a := by
  induction rounds generalizing selected pending with
  | zero => cases h
  | succ rounds ih =>
      cases pending with
      | nil => exact .inl ⟨selected, (Option.some.inj h).symm, hinv⟩
      | cons a pending =>
          rw [run] at h
          by_cases ha : a ∈ selected
          · rw [if_pos ha] at h
            exact ih (hinv.drop ha) h
          · rw [if_neg ha] at h
            cases hvisit : visit (selected ++ [a]) a with
            | error e =>
                rw [hvisit] at h
                exact .inr ⟨e, (Option.some.inj h).symm, a, hinv.reached a (by simp),
                  hvisits.refused _ _ _ hvisit⟩
            | ok followers =>
                rw [hvisit] at h
                exact ih (hinv.select hvisits harrange ha hvisit) h

/-- **What is selected.**  The loop selects what can be reached, each element once, and all of it passes the
check. -/
theorem run_ok (hvisits : Visits visit accepts next) (harrange : ∀ l, (arrange l).Perm l)
    (hpending : ∀ a, a ∈ pending ↔ a ∈ start) {rounds : ℕ}
    (h : run visit arrange rounds [] pending = some (.ok selected)) :
    selected.Nodup ∧ (∀ a, a ∈ selected ↔ Reachable next start a) ∧ ∀ a, Reachable next start a → accepts a := by
  rcases of_run hvisits harrange (.initial accepts next hpending) h with ⟨s, hs, hinv⟩ | ⟨e, he, -⟩
  · obtain rfl := Except.ok.inj hs
    have hclosed : ∀ a, Reachable next start a → a ∈ selected := fun a ha =>
      Reachable.mem (s := {a | a ∈ selected}) (fun b hb => by simpa using hinv.covered b hb)
        (fun b hb c hc => by simpa using hinv.closed b hb c hc) ha
    exact ⟨hinv.nodup, fun a => ⟨fun ha => hinv.reached a (by simpa using ha), hclosed a⟩,
      fun a ha => hinv.accepted a (hclosed a ha)⟩
  · cases he

/-- **When the loop is refused.**  The check refuses an element that can be reached. -/
theorem run_error (hvisits : Visits visit accepts next) (harrange : ∀ l, (arrange l).Perm l)
    (hpending : ∀ a, a ∈ pending ↔ a ∈ start) {rounds : ℕ} {e : ε}
    (h : run visit arrange rounds [] pending = some (.error e)) : ∃ a, Reachable next start a ∧ ¬accepts a := by
  rcases of_run hvisits harrange (.initial accepts next hpending) h with ⟨s, hs, -⟩ | ⟨e, -, h⟩
  · cases hs
  · exact h

end Run

end CheckedClosure
