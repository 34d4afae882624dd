/-
**The center-out spiral.**

Records of one time slot are told apart by a collision index, and the index has a position on a
square spiral around the origin.  Layer `l` of the spiral holds the `8 * l` points at distance `l`
from the origin, counted along its four sides.

Main definitions:

* `Adi.spiral` — the position of an index;
* `Adi.spiralPosition` — `spiral_position`, with the check of its argument.

Main results:

* `Adi.growLayer_sqrt` — the search for the layer stops where it starts;
* `Adi.spiral_injective` — different indices have different positions;
* `Adi.spiral_surjective` — every point is a position;
* `Adi.spiral_plane` — the spiral is a bijection that goes from neighbour to neighbour.
-/

import Wuchang.AdiCanonical
import Mathlib.Data.Nat.Sqrt
import Mathlib.Tactic.Linarith
import Mathlib.Tactic.Ring

set_option relaxedAutoImplicit false
set_option autoImplicit false

namespace Adi

open Py

/-! ### Layers -/

/-- `while (2 * layer + 1) ** 2 <= index: layer += 1` -/
def growLayer (i layer : ℕ) : ℕ :=
  if (2 * layer + 1) ^ 2 ≤ i then growLayer i (layer + 1) else layer
termination_by i - layer
decreasing_by
  have : layer < (2 * layer + 1) ^ 2 := by nlinarith
  omega

/-- The layer of an index, from the integer square root. -/
def layerOf (i : ℕ) : ℕ := growLayer i ((i.sqrt + 1) / 2)

/-- The loop does not run: the square root names the layer at once. -/
theorem growLayer_sqrt (i : ℕ) : growLayer i ((i.sqrt + 1) / 2) = (i.sqrt + 1) / 2 := by
  rw [growLayer, if_neg]
  have hroot : i.sqrt + 1 ≤ 2 * ((i.sqrt + 1) / 2) + 1 := by omega
  have hlt : i < (i.sqrt + 1) ^ 2 := Nat.lt_succ_sqrt' i
  exact (hlt.trans_le (Nat.pow_le_pow_left hroot 2)).not_ge

/-- The indices of a layer. -/
theorem layerOf_bounds {i : ℕ} (hi : 0 < i) :
    0 < layerOf i ∧ (2 * layerOf i - 1) ^ 2 ≤ i ∧ i < (2 * layerOf i + 1) ^ 2 := by
  have hpos : 0 < i.sqrt := Nat.sqrt_pos.2 hi
  rw [layerOf, growLayer_sqrt]
  refine ⟨by omega, ?_, ?_⟩
  · have hle : 2 * ((i.sqrt + 1) / 2) - 1 ≤ i.sqrt := by omega
    exact (Nat.pow_le_pow_left hle 2).trans (Nat.sqrt_le' i)
  · have hroot : i.sqrt + 1 ≤ 2 * ((i.sqrt + 1) / 2) + 1 := by omega
    exact (Nat.lt_succ_sqrt' i).trans_le (Nat.pow_le_pow_left hroot 2)

/-! ### Positions -/

/-- The point of a layer at the given distance from the end of the layer, along the four sides. -/
def onSide (layer distance : ℤ) : ℤ × ℤ :=
  let side := 2 * layer
  if distance < side then (layer - distance, -layer)
  else if distance < 2 * side then (-layer, -layer + (distance - side))
  else if distance < 3 * side then (-layer + (distance - 2 * side), layer)
  else (layer, layer - (distance - 3 * side))

/-- The position of an index. -/
def spiral (i : ℕ) : ℤ × ℤ :=
  if i = 0 then (0, 0)
  else
    let layer := layerOf i
    onSide layer ((2 * layer + 1) ^ 2 - 1 - i : ℤ)

/-- `spiral_position`, where the argument is an integer already. -/
def spiralPosition (i : ℤ) : Except Fault (ℤ × ℤ) := do
  holdIf (i < 0) "COLLISION_INDEX_INVALID" (cp "$.collision_index")
  pure (spiral i.toNat)

/-- A point of a layer is on one of its sides, and the distance can be read off. -/
theorem onSide_inj {l m d e : ℤ} (hl : 0 < l) (hm : 0 < m) (hd : 0 ≤ d) (hd' : d < 8 * l)
    (he : 0 ≤ e) (he' : e < 8 * m) (h : onSide l d = onSide m e) : l = m ∧ d = e := by
  simp only [onSide] at h
  split_ifs at h <;> rw [Prod.mk.injEq] at h <;> omega

/-- A point of a layer is not the origin. -/
theorem onSide_ne_zero {l d : ℤ} (hl : 0 < l) : onSide l d ≠ (0, 0) := by
  intro h
  simp only [onSide] at h
  split_ifs at h <;> rw [Prod.mk.injEq] at h <;> omega

/-- An index is in reach of the end of its layer. -/
theorem distance_bounds {i : ℕ} (hi : 0 < i) :
    0 < (layerOf i : ℤ) ∧ 0 ≤ ((2 * layerOf i + 1) ^ 2 - 1 - i : ℤ) ∧
      ((2 * layerOf i + 1) ^ 2 - 1 - i : ℤ) < 8 * layerOf i := by
  obtain ⟨hpos, hlow, hhigh⟩ := layerOf_bounds hi
  generalize layerOf i = l at hpos hlow hhigh ⊢
  obtain ⟨l, rfl⟩ : ∃ k, l = k + 1 := ⟨l - 1, by omega⟩
  rw [show 2 * (l + 1) - 1 = 2 * l + 1 by omega] at hlow
  zify at hlow hhigh ⊢
  refine ⟨by omega, by omega, ?_⟩
  have : (2 * ((l : ℤ) + 1) + 1) ^ 2 = (2 * l + 1) ^ 2 + 8 * (l + 1) := by ring
  omega

theorem spiral_of_pos {i : ℕ} (hi : 0 < i) :
    spiral i = onSide (layerOf i) ((2 * layerOf i + 1) ^ 2 - 1 - i) := by
  rw [spiral, if_neg hi.ne']

/-- Different indices have different positions. -/
theorem spiral_injective : Function.Injective spiral := by
  intro i j h
  rcases Nat.eq_zero_or_pos i with rfl | hi
  · rcases Nat.eq_zero_or_pos j with rfl | hj
    · rfl
    · rw [spiral_of_pos hj] at h
      exact absurd h.symm (onSide_ne_zero (distance_bounds hj).1)
  · obtain ⟨hl, hd, hd'⟩ := distance_bounds hi
    rcases Nat.eq_zero_or_pos j with rfl | hj
    · rw [spiral_of_pos hi] at h
      exact absurd h (onSide_ne_zero hl)
    · obtain ⟨hm, he, he'⟩ := distance_bounds hj
      rw [spiral_of_pos hi, spiral_of_pos hj] at h
      obtain ⟨hlayer, hdist⟩ := onSide_inj hl hm hd hd' he he' h
      rw [hlayer] at hdist
      omega

theorem spiralPosition_natCast (i : ℕ) : spiralPosition i = .ok (spiral i) := by
  rw [spiralPosition, holdIf_neg (by omega)]
  rfl

theorem spiralPosition_eq_ok_iff {i : ℤ} {p : ℤ × ℤ} :
    spiralPosition i = .ok p ↔ 0 ≤ i ∧ spiral i.toNat = p := by
  simp only [spiralPosition, bind_eq_ok_iff, holdIf_eq_ok_iff, pure_eq_ok_iff, exists_const,
    not_lt]
/-! ### The whole plane -/

/-- A layer holds the points at its distance from the origin. -/
theorem onSide_norm {l d : ℤ} (hl : 0 < l) (hd : 0 ≤ d) (hd' : d < 8 * l) :
    max |(onSide l d).1| |(onSide l d).2| = l := by
  simp only [onSide, abs_eq_max_neg]
  split_ifs <;> dsimp only <;> omega

/-- Every point at the distance of a layer is one of its points. -/
theorem exists_onSide {x y : ℤ} (hl : 0 < max |x| |y|) :
    ∃ d, 0 ≤ d ∧ d < 8 * max |x| |y| ∧ onSide (max |x| |y|) d = (x, y) := by
  obtain ⟨l, hmax⟩ : ∃ l, max |x| |y| = l := ⟨_, rfl⟩
  rw [hmax] at hl ⊢
  simp only [abs_eq_max_neg] at hmax
  -- the side of the point; a corner belongs to the side that begins there
  rcases (by omega : (y = -l ∧ -l < x) ∨ (x = -l ∧ y < l) ∨ (y = l ∧ x < l) ∨ (x = l ∧ -l < y))
    with ⟨hy, hx⟩ | ⟨hx, hy⟩ | ⟨hy, hx⟩ | ⟨hx, hy⟩
  · exact ⟨l - x, by omega, by omega, by rw [onSide, if_pos (by omega)]; ext <;> dsimp only <;> omega⟩
  · refine ⟨2 * l + (y + l), by omega, by omega, ?_⟩
    rw [onSide, if_neg (by omega), if_pos (by omega)]
    ext <;> dsimp only <;> omega
  · refine ⟨4 * l + (x + l), by omega, by omega, ?_⟩
    rw [onSide, if_neg (by omega), if_neg (by omega), if_pos (by omega)]
    ext <;> dsimp only <;> omega
  · refine ⟨6 * l + (l - y), by omega, by omega, ?_⟩
    rw [onSide, if_neg (by omega), if_neg (by omega), if_neg (by omega)]
    ext <;> dsimp only <;> omega

/-- The indices of a layer determine it. -/
theorem layerOf_eq {i l : ℕ} (hl : 0 < l) (hlow : (2 * l - 1) ^ 2 ≤ i) (hhigh : i < (2 * l + 1) ^ 2) :
    layerOf i = l := by
  have hi : 0 < i := (pow_pos (by omega : 0 < 2 * l - 1) 2).trans_le hlow
  obtain ⟨-, hlow', hhigh'⟩ := layerOf_bounds hi
  have hle : 2 * l - 1 < 2 * layerOf i + 1 := lt_of_pow_lt_pow_left₀ 2 (by omega) (hlow.trans_lt hhigh')
  have hge : 2 * layerOf i - 1 < 2 * l + 1 := lt_of_pow_lt_pow_left₀ 2 (by omega) (hlow'.trans_lt hhigh)
  omega

/-- The distance of an index that is given by its layer and by how far it is from the end. -/
theorem spiral_eq_onSide {i l : ℕ} {d : ℤ} (hl : 0 < l) (hd : 0 ≤ d) (hd' : d < 8 * l)
    (hi : (i : ℤ) = (2 * l + 1) ^ 2 - 1 - d) : spiral i = onSide l d := by
  obtain ⟨k, rfl⟩ : ∃ k, l = k + 1 := ⟨l - 1, by omega⟩
  have hstep : (2 * ((k : ℤ) + 1) + 1) ^ 2 = (2 * k + 1) ^ 2 + 8 * (k + 1) := by ring
  push_cast at hi hd'
  have hlow : (2 * (k + 1) - 1) ^ 2 ≤ i := by
    rw [show 2 * (k + 1) - 1 = 2 * k + 1 by omega]
    zify
    omega
  have hhigh : i < (2 * (k + 1) + 1) ^ 2 := by
    zify
    omega
  have hlayer := layerOf_eq hl hlow hhigh
  have hpos : 0 < i := (pow_pos (by omega : 0 < 2 * (k + 1) - 1) 2).trans_le hlow
  rw [spiral_of_pos hpos, hlayer]
  congr 1
  push_cast
  omega

/-- The distance of the position of an index is its layer. -/
theorem norm_spiral {i : ℕ} (hi : 0 < i) : max |(spiral i).1| |(spiral i).2| = (layerOf i : ℤ) := by
  obtain ⟨hl, hd, hd'⟩ := distance_bounds hi
  rw [spiral_of_pos hi]
  exact onSide_norm hl hd hd'

/-- Every point is the position of an index. -/
theorem spiral_surjective : Function.Surjective spiral := by
  rintro ⟨x, y⟩
  rcases (by simp only [abs_eq_max_neg]; omega : max |x| |y| = 0 ∨ 0 < max |x| |y|) with hzero | hl
  · simp only [abs_eq_max_neg] at hzero
    refine ⟨0, ?_⟩
    rw [spiral, if_pos rfl]
    ext <;> dsimp only <;> omega
  · obtain ⟨d, hd, hd', hside⟩ := exists_onSide hl
    obtain ⟨l, hmax⟩ : ∃ l : ℕ, max |x| |y| = l := ⟨_, (Int.toNat_of_nonneg hl.le).symm⟩
    rw [hmax] at hl hd' hside
    have hreach : (8 * l : ℤ) ≤ (2 * l + 1) ^ 2 - 1 := by nlinarith
    refine ⟨((2 * l + 1) ^ 2 - 1 - d : ℤ).toNat, ?_⟩
    rw [spiral_eq_onSide (by omega) hd hd' (Int.toNat_of_nonneg (by omega)), hside]

/-- Neighbours on the sides of a layer are one step apart. -/
theorem onSide_step {l d : ℤ} (hd : d < 8 * l) :
    |(onSide l (d - 1)).1 - (onSide l d).1| + |(onSide l (d - 1)).2 - (onSide l d).2| = 1 := by
  simp only [onSide, abs_eq_max_neg]
  split_ifs <;> dsimp only <;> omega

/-- The next layer begins one step from the end of a layer. -/
theorem onSide_next {l : ℤ} (hl : 0 ≤ l) :
    |(onSide (l + 1) (8 * l + 7)).1 - l| + |(onSide (l + 1) (8 * l + 7)).2 - -l| = 1 := by
  simp only [onSide, abs_eq_max_neg]
  split_ifs <;> dsimp only <;> omega

/-- The position behind the end of a layer. -/
theorem spiral_next {i l : ℕ} (hi : (i : ℤ) + 1 = (2 * l + 1) ^ 2) :
    |(spiral (i + 1)).1 - l| + |(spiral (i + 1)).2 - -l| = 1 := by
  have hstep : (2 * ((l : ℤ) + 1) + 1) ^ 2 = (2 * l + 1) ^ 2 + 8 * (l + 1) := by ring
  rw [spiral_eq_onSide (i := i + 1) (l := l + 1) (d := 8 * l + 7) (by omega) (by omega) (by push_cast; omega)
    (by push_cast; omega)]
  exact_mod_cast onSide_next (Int.natCast_nonneg l)

/-- The positions of neighbouring indices are one step apart. -/
theorem spiral_adjacent (i : ℕ) :
    |(spiral (i + 1)).1 - (spiral i).1| + |(spiral (i + 1)).2 - (spiral i).2| = 1 := by
  rcases Nat.eq_zero_or_pos i with rfl | hi
  · exact spiral_next (i := 0) (l := 0) rfl
  · obtain ⟨hl, hd, hd'⟩ := distance_bounds hi
    rw [spiral_of_pos hi]
    obtain ⟨d, hdist⟩ : ∃ d : ℤ, (2 * layerOf i + 1 : ℤ) ^ 2 - 1 - i = d := ⟨_, rfl⟩
    rw [hdist] at hd hd' ⊢
    rcases (by omega : d = 0 ∨ 0 < d) with rfl | hpos
    · -- the last index of a layer
      have hlast : onSide (layerOf i) 0 = ((layerOf i : ℤ), -(layerOf i : ℤ)) := by
        rw [onSide, if_pos (by omega), sub_zero]
      rw [hlast]
      exact spiral_next (by omega)
    · rw [spiral_eq_onSide (i := i + 1) (l := layerOf i) (d := d - 1) (by omega) (by omega) (by omega)
        (by push_cast; omega)]
      exact onSide_step hd'

/-- **The spiral is a bijection.**  Every index has a position, the positions of the indices are the points
of the plane, each once; the layer `l` has the indices from `(2 * l - 1) ^ 2` on, up to `(2 * l + 1) ^ 2`;
and neighbouring indices have neighbouring positions. -/
theorem spiral_plane :
    (∀ i : ℕ, spiralPosition i = .ok (spiral i)) ∧ Function.Bijective spiral ∧
    (∀ i l : ℕ, 1 ≤ l → (max |(spiral i).1| |(spiral i).2| = (l : ℤ) ↔
      (2 * l - 1) ^ 2 ≤ i ∧ i < (2 * l + 1) ^ 2)) ∧
    ∀ i : ℕ, |(spiral (i + 1)).1 - (spiral i).1| + |(spiral (i + 1)).2 - (spiral i).2| = 1 := by
  refine ⟨spiralPosition_natCast, ⟨spiral_injective, spiral_surjective⟩, fun i l hl => ?_, spiral_adjacent⟩
  constructor
  · intro hnorm
    rcases Nat.eq_zero_or_pos i with rfl | hi
    · rw [spiral, if_pos rfl] at hnorm
      simp at hnorm
      omega
    · rw [norm_spiral hi, Nat.cast_inj] at hnorm
      exact hnorm ▸ (layerOf_bounds hi).2
  · rintro ⟨hlow, hhigh⟩
    have hi : 0 < i := (pow_pos (by omega : 0 < 2 * l - 1) 2).trans_le hlow
    rw [norm_spiral hi, layerOf_eq hl hlow hhigh]

/-- The last index of the second layer. -/
theorem spiral_plane_corner : max |(spiral 24).1| |(spiral 24).2| = 2 :=
  (spiral_plane.2.2.1 24 2 (by decide)).2 (by decide)

end Adi
