/-
**Remembering what was used, for a while.**

A table of used keys that forgets: every row has a time up to which it is kept, and a use of a key is
refused while a row of the key is there.  Such a table stops replays only if what it forgets can no
longer be presented.  This module says what is remembered, over an arbitrary type of rows and any
linear order of times; it names nothing of the code that is verified with it.

Main definitions:

* `ReplayWindow.cleanup`, `ReplayWindow.use` — forgetting, and a use of a key;
* `ReplayWindow.Guarded` — a key is guarded up to a time, as far as the table and the clock tell.

Main results:

* `ReplayWindow.Guarded.cleanup`, `ReplayWindow.Guarded.use` — a guard is kept while the clock advances;
* `ReplayWindow.guarded_use` — a use that is accepted guards its key;
* `ReplayWindow.lt_of_use`, `ReplayWindow.use_again` — a guarded key is accepted only after the guard has
  ended, and it is accepted then.
-/

import Mathlib.Order.Lattice
import Mathlib.Data.List.Basic

set_option relaxedAutoImplicit false
set_option autoImplicit false

namespace ReplayWindow

variable {ρ κ τ : Type} [LinearOrder τ] (keyOf : ρ → κ) (expires : ρ → τ)

/-! ### What is guarded -/

/-- The rows that have not expired. -/
def cleanup (now : τ) (rows : List ρ) : List ρ := rows.filter fun r => ¬expires r < now

/-- The key is guarded up to `expiry`: a row says so, or the clock has already shown a later time. -/
def Guarded (rows : List ρ) (clock : τ) (k : κ) (expiry : τ) : Prop :=
  (∃ r ∈ rows, keyOf r = k ∧ expiry ≤ expires r) ∨ expiry < clock

variable {keyOf expires} {rows : List ρ} {clock now : τ} {k : κ} {expiry : τ} {row : ρ}

theorem mem_cleanup {r : ρ} : r ∈ cleanup expires now rows ↔ r ∈ rows ∧ now ≤ expires r := by
  rw [cleanup, List.mem_filter, decide_eq_true_eq, not_lt]

/-- A guard survives as the clock advances. -/
theorem Guarded.advance (h : Guarded keyOf expires rows clock k expiry) (hclock : clock ≤ now) :
    Guarded keyOf expires rows now k expiry := by
  rcases h with hrow | hpast
  · exact .inl hrow
  · exact .inr (hpast.trans_le hclock)

/-- What is forgotten has ended. -/
theorem Guarded.cleanup (h : Guarded keyOf expires rows clock k expiry) (hclock : clock ≤ now) :
    Guarded keyOf expires (cleanup expires now rows) now k expiry := by
  rcases h.advance hclock with ⟨r, hr, hkey, hexpiry⟩ | hpast
  · rcases lt_or_ge (expires r) now with hexpired | hkept
    · exact .inr (hexpiry.trans_lt hexpired)
    · exact .inl ⟨r, mem_cleanup.2 ⟨hr, hkept⟩, hkey, hexpiry⟩
  · exact .inr hpast

/-- More rows guard no less. -/
theorem Guarded.mono {rows' : List ρ} (h : Guarded keyOf expires rows clock k expiry)
    (hsub : rows ⊆ rows') : Guarded keyOf expires rows' clock k expiry := by
  rcases h with ⟨r, hr, hrow⟩ | hpast
  · exact .inl ⟨r, hsub hr, hrow⟩
  · exact .inr hpast

/-! ### A use -/

section Use

variable [DecidableEq κ]

variable (keyOf expires) in
/-- A use of the key of a row: it is refused if the key is there, and noted otherwise. -/
def use (now : τ) (row : ρ) (rows : List ρ) : Bool × List ρ :=
  let kept := cleanup expires now rows
  if kept.any fun r => keyOf r = keyOf row then (false, kept) else (true, kept ++ [row])

/-- A use of any key keeps a guard. -/
theorem Guarded.use (h : Guarded keyOf expires rows clock k expiry) (hclock : clock ≤ now) (row : ρ) :
    Guarded keyOf expires (use keyOf expires now row rows).2 now k expiry := by
  have hkept := h.cleanup hclock
  unfold ReplayWindow.use
  dsimp only
  split_ifs
  · exact hkept
  · exact hkept.mono (List.subset_append_left _ _)

/-- A use that is accepted guards its key. -/
theorem guarded_use (h : (use keyOf expires now row rows).1 = true) :
    Guarded keyOf expires (use keyOf expires now row rows).2 now (keyOf row) (expires row) := by
  unfold use at h ⊢
  dsimp only at h ⊢
  split_ifs at h ⊢
  exact .inl ⟨row, by simp, rfl, le_rfl⟩

/-- A guarded key is accepted only after the guard has ended. -/
theorem lt_of_use (hguard : Guarded keyOf expires rows clock (keyOf row) expiry) (hclock : clock ≤ now)
    (h : (use keyOf expires now row rows).1 = true) : expiry < now := by
  rcases hguard.cleanup hclock with ⟨r, hr, hkey, -⟩ | hpast
  · unfold use at h
    dsimp only at h
    rw [if_pos (List.any_eq_true.2 ⟨r, hr, by simpa using hkey⟩)] at h
    cases h
  · exact hpast

/-- When the row of a use has expired, its key is accepted again. -/
theorem use_again {row' : ρ} {later : τ} (h : (use keyOf expires now row rows).1 = true)
    (hexpired : expires row < later) (hkey : keyOf row' = keyOf row) :
    (use keyOf expires later row' (use keyOf expires now row rows).2).1 = true := by
  have hnone : ¬(cleanup expires now rows).any fun r => keyOf r = keyOf row := by
    intro hany
    unfold use at h
    dsimp only at h
    rw [if_pos hany] at h
    cases h
  have hrows : (use keyOf expires now row rows).2 = cleanup expires now rows ++ [row] := by
    unfold use
    dsimp only
    rw [if_neg hnone]
  rw [hrows]
  unfold use
  dsimp only
  rw [if_neg]
  intro hany
  obtain ⟨r, hr, hused⟩ := List.any_eq_true.1 hany
  obtain ⟨hr, hkept⟩ := mem_cleanup.1 hr
  rcases List.mem_append.1 hr with hr | hr
  · exact hnone (List.any_eq_true.2 ⟨r, hr, by simpa [hkey] using hused⟩)
  · obtain rfl := List.mem_singleton.1 hr
    exact absurd hexpired (not_lt.2 hkept)

end Use

end ReplayWindow
