/-
**Delivery in the order of predecessors.**

Some things have predecessors, and a receiver takes a thing when it holds the thing already or holds
all predecessors of it.  Things are delivered one after another, in an order in which none comes
before one of its predecessors.  Which deliveries go through does then not depend on the order: it is
enough to know that what the receiver holds in the end leaves out no predecessor.

The predecessors are taken in a universe `M`, so that a relation need only be one on what is sent.

Main definitions:

* `Delivery.Closed` — nothing is held without its predecessors;
* `Delivery.Ready` — all predecessors of a thing are held;
* `Delivery.GoesThrough` — the things of a list are taken one after another.

Main results:

* `Delivery.goesThrough_iff` — a delivery goes through exactly when the outcome is closed.
-/

import Mathlib.Data.Set.Insert
import Mathlib.Tactic.Tauto

set_option relaxedAutoImplicit false
set_option autoImplicit false

namespace Delivery

variable {α : Type} (before : α → α → Prop) (M : Set α)

/-- All predecessors of `a` are held. -/
def Ready (S : Set α) (a : α) : Prop := ∀ b ∈ M, before b a → b ∈ S

/-- Nothing is held without its predecessors. -/
def Closed (S : Set α) : Prop := ∀ a ∈ S, Ready before M S a

/-- The things of the list are taken one after another. -/
def GoesThrough : Set α → List α → Prop
  | _, [] => True
  | S, a :: as => (a ∈ S ∨ Ready before M S a) ∧ GoesThrough (insert a S) as

variable {before M}

theorem Ready.mono {S T : Set α} {a : α} (h : Ready before M S a) (hST : S ⊆ T) :
    Ready before M T a := fun b hb hlt => hST (h b hb hlt)

/-- What is taken keeps the receiver closed. -/
theorem Closed.insert {S : Set α} {a : α} (hS : Closed before M S)
    (ha : a ∈ S ∨ Ready before M S a) : Closed before M (insert a S) := by
  have hready : Ready before M S a := ha.elim (hS a) id
  rintro b (rfl | hb)
  · exact hready.mono (Set.subset_insert _ _)
  · exact (hS b hb).mono (Set.subset_insert _ _)

theorem closed_self {S : Set α} (h : M ⊆ S) : Closed before M S := fun _ _ _ hb _ => h hb

/-- The set that a delivery adds up to. -/
theorem insert_union_setOf (S : Set α) (a : α) (as : List α) :
    insert a S ∪ {x | x ∈ as} = S ∪ {x | x ∈ a :: as} := by
  ext x
  simp only [Set.mem_union, Set.mem_insert_iff, Set.mem_ofPred_eq, List.mem_cons]
  tauto

/-- A delivery in the order of predecessors goes through exactly when the outcome is closed. -/
theorem goesThrough_iff {as : List α} (irrefl : ∀ a, ¬before a a)
    (sorted : as.Pairwise fun a b => ¬before b a) :
    ∀ {S : Set α}, Closed before M S →
      (GoesThrough before M S as ↔ Closed before M (S ∪ {a | a ∈ as})) := by
  induction as with
  | nil =>
      intro S hS
      simpa [GoesThrough] using hS
  | cons a as ih =>
      intro S hS
      obtain ⟨hfirst, hsorted⟩ := List.pairwise_cons.1 sorted
      rw [GoesThrough, ← insert_union_setOf]
      constructor
      · rintro ⟨ha, hrest⟩
        exact (ih hsorted (hS.insert ha)).1 hrest
      · intro hclosed
        -- a predecessor of the first thing is none of those that come later
        have ha : Ready before M S a := by
          intro b hb hlt
          rcases hclosed a (by simp) b hb hlt with (rfl | hmem) | hmem
          · exact absurd hlt (irrefl _)
          · exact hmem
          · exact absurd hlt (hfirst b hmem)
        exact ⟨.inr ha, (ih hsorted (hS.insert (.inr ha))).2 hclosed⟩

end Delivery
