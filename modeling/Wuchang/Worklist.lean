/-
**Closures by a worklist.**

A worklist computes what can be reached from some elements: an element is taken from the list, and those that
follow it and are not known yet become known and are put on the list.  As every element is put on the list
once, the loop ends after as many steps as there are elements.

This module names nothing of the code that is verified with it.

Main definitions:

* `Worklist.push` — an element becomes known and is put on the list, if it is not known yet;
* `Worklist.close` — the loop.

Main results:

* `Worklist.isLeast_close` — the loop computes the least set that has the first elements and is closed.
-/

import Mathlib.Data.Finset.Card
import Mathlib.Data.Finset.Dedup
import Mathlib.Order.Bounds.Basic

set_option relaxedAutoImplicit false
set_option autoImplicit false

namespace Worklist

variable {α : Type*} [DecidableEq α]

/-- An element becomes known and is put on the list, if it is not known yet. -/
def push (s : List α × List α) (b : α) : List α × List α :=
  if b ∈ s.1 then s else (s.1 ++ [b], b :: s.2)

/-- The loop, for as many steps as are allowed: what is known, and the list of what is still to be looked
at. -/
def close (next : α → List α) : ℕ → List α → List α → List α
  | 0, known, _ => known
  | _ + 1, known, [] => known
  | n + 1, known, a :: pending =>
      let s := (next a).foldl push (known, pending)
      close next n s.1 s.2

/-- What some elements add: those among them that were not known, once each. -/
theorem foldl_push (known pending l : List α) : ∃ fresh : List α,
    l.foldl push (known, pending) = (known ++ fresh, fresh.reverse ++ pending) ∧
      (∀ b ∈ fresh, b ∈ l ∧ b ∉ known) ∧ (∀ b ∈ l, b ∈ known ++ fresh) ∧ fresh.Nodup := by
  induction l generalizing known pending with
  | nil => exact ⟨[], by simp⟩
  | cons b l ih =>
      rw [List.foldl_cons]
      by_cases hb : b ∈ known
      · obtain ⟨fresh, hfold, hfresh, hall, hnodup⟩ := ih known pending
        refine ⟨fresh, ?_, fun c hc => ⟨List.mem_cons_of_mem _ (hfresh c hc).1, (hfresh c hc).2⟩, ?_, hnodup⟩
        · rw [push, if_pos hb, hfold]
        · exact List.forall_mem_cons.2 ⟨List.mem_append_left _ hb, hall⟩
      · obtain ⟨fresh, hfold, hfresh, hall, hnodup⟩ := ih (known ++ [b]) (b :: pending)
        refine ⟨b :: fresh, ?_, ?_, ?_, ?_⟩
        · rw [push, if_neg hb, hfold]
          simp
        · refine List.forall_mem_cons.2 ⟨⟨List.mem_cons_self, hb⟩, fun c hc => ?_⟩
          obtain ⟨hc, hnew⟩ := hfresh c hc
          exact ⟨List.mem_cons_of_mem _ hc, fun hknown => hnew (List.mem_append_left _ hknown)⟩
        · refine List.forall_mem_cons.2 ⟨by simp, fun c hc => ?_⟩
          simpa using hall c hc
        · refine List.nodup_cons.2 ⟨fun hc => ?_, hnodup⟩
          exact (hfresh b hc).2 (by simp)

section Closure

variable {next : α → List α} {known pending : List α}

/-- What is known stays known. -/
theorem subset_close (n : ℕ) {a : α} (h : a ∈ known) : a ∈ close next n known pending := by
  induction n generalizing known pending with
  | zero => exact h
  | succ n ih =>
      cases pending with
      | nil => exact h
      | cons b pending =>
          obtain ⟨fresh, hfold, -⟩ := foldl_push known pending (next b)
          rw [close, hfold]
          exact ih (List.mem_append_left _ h)

/-- Nothing is known twice. -/
theorem nodup_close (n : ℕ) (h : known.Nodup) : (close next n known pending).Nodup := by
  induction n generalizing known pending with
  | zero => exact h
  | succ n ih =>
      cases pending with
      | nil => exact h
      | cons b pending =>
          obtain ⟨fresh, hfold, hfresh, -, hnodup⟩ := foldl_push known pending (next b)
          rw [close, hfold]
          refine ih (List.nodup_append.2 ⟨h, hnodup, fun a ha c hc hac => ?_⟩)
          exact (hfresh c hc).2 (hac ▸ ha)

/-- A closed set that has what is known has all that becomes known. -/
theorem close_subset {s : Set α} (hclosed : ∀ a ∈ s, ∀ b ∈ next a, b ∈ s) (n : ℕ)
    (hknown : ∀ a ∈ known, a ∈ s) (hpending : ∀ a ∈ pending, a ∈ s) :
    ∀ a ∈ close next n known pending, a ∈ s := by
  induction n generalizing known pending with
  | zero => exact hknown
  | succ n ih =>
      cases pending with
      | nil => exact hknown
      | cons b pending =>
          obtain ⟨hb, hpending⟩ := List.forall_mem_cons.1 hpending
          obtain ⟨fresh, hfold, hfresh, -⟩ := foldl_push known pending (next b)
          have hfresh' : ∀ c ∈ fresh, c ∈ s := fun c hc => hclosed b hb c (hfresh c hc).1
          rw [close, hfold]
          refine ih (List.forall_mem_append.2 ⟨hknown, hfresh'⟩) (List.forall_mem_append.2 ⟨?_, hpending⟩)
          intro c hc
          exact hfresh' c (List.mem_reverse.1 hc)

/-- With enough steps the loop ends with a closed set: only what is on the list may have followers that are
not known, and every step that puts elements on the list leaves as many fewer that can still be put on it. -/
theorem closed_close {support : Finset α} (hsupport : ∀ a, ∀ b ∈ next a, b ∈ support) (n : ℕ)
    (hn : pending.length + (support \ known.toFinset).card ≤ n)
    (hdone : ∀ a ∈ known, a ∉ pending → ∀ b ∈ next a, b ∈ known) :
    ∀ a ∈ close next n known pending, ∀ b ∈ next a, b ∈ close next n known pending := by
  induction n generalizing known pending with
  | zero =>
      obtain rfl : pending = [] := List.length_eq_zero_iff.1 (by omega)
      intro a ha b hb
      exact hdone a ha List.not_mem_nil b hb
  | succ n ih =>
      cases pending with
      | nil =>
          intro a ha b hb
          exact hdone a ha List.not_mem_nil b hb
      | cons c pending =>
          obtain ⟨fresh, hfold, hfresh, hall, hnodup⟩ := foldl_push known pending (next c)
          rw [close, hfold]
          refine ih ?_ fun a ha hpending b hb => ?_
          · -- the fresh elements leave the part of the support that is not known
            have hsub : fresh.toFinset ⊆ support \ known.toFinset := by
              intro b hb
              obtain ⟨hnext, hnew⟩ := hfresh b (List.mem_toFinset.1 hb)
              exact Finset.mem_sdiff.2 ⟨hsupport c b hnext, by simpa using hnew⟩
            have hcard := Finset.card_sdiff_add_card_eq_card hsub
            rw [List.toFinset_card_of_nodup hnodup, sdiff_sdiff, Finset.sup_eq_union,
              ← List.toFinset_append] at hcard
            simp only [List.length_append, List.length_reverse, List.length_cons] at hn ⊢
            omega
          · rw [List.mem_append, List.mem_reverse, not_or] at hpending
            rcases List.mem_append.1 ha with ha | ha
            · by_cases hac : a = c
              · subst hac
                exact hall b hb
              · exact List.mem_append_left _ (hdone a ha (by simp [hac, hpending.2]) b hb)
            · exact absurd ha hpending.1

/-- **The loop computes the least closed set.**  When it starts with the elements that are known on the list,
in any order, and has enough steps, what it returns is the least set that has these elements and has what
follows its elements. -/
theorem isLeast_close {support : Finset α} (hsupport : ∀ a, ∀ b ∈ next a, b ∈ support)
    (hpending : ∀ a, a ∈ pending ↔ a ∈ known) {n : ℕ} (hn : pending.length + support.card ≤ n) :
    IsLeast {s : Set α | (∀ a ∈ known, a ∈ s) ∧ ∀ a ∈ s, ∀ b ∈ next a, b ∈ s}
      {a | a ∈ close next n known pending} := by
  have hcard : (support \ known.toFinset).card ≤ support.card := Finset.card_le_card Finset.sdiff_subset
  refine ⟨⟨fun a ha => subset_close n ha, ?_⟩, ?_⟩
  · refine closed_close hsupport n (by omega) fun a ha hnot => ?_
    exact absurd ((hpending a).2 ha) hnot
  · rintro s ⟨hknown, hclosed⟩
    exact close_subset hclosed n hknown fun a ha => hknown a ((hpending a).1 ha)

end Closure

end Worklist
