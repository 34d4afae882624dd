/-
**Floats are read back.**

`repr` writes a double with the fewest digits that are rounded to it, and what reads a decimal rounds it to
the closest double, the even one of two.  So the double that was written is read back, and with it every
canonical value.

Main definitions:

* `Py.PyFloat.gap`, `Py.PyFloat.scale` — the midpoint below a double, and its exponent.

Main results:

* `Py.PyFloat.ofRat_of_roundsTo` — a decimal that is rounded to a double is read as that double;
* `Py.PyFloat.exists_digitsAt` — seventeen digits are enough;
* `PyJson.scanUnsigned_layout` — digits and a decimal point are read as the number they stand for;
* `PyJson.readsBack` — a finite double is read back;
* `PyJson.loads_write_of_json` — so is a canonical value.
-/

import Wuchang.PyJsonRead
import Mathlib.Data.Nat.Digits.Lemmas
import Mathlib.Algebra.Order.Field.Power
import Mathlib.Tactic.Linarith
import Mathlib.Tactic.Positivity
import Mathlib.Tactic.FieldSimp
import Mathlib.Tactic.Ring

set_option relaxedAutoImplicit false
set_option autoImplicit false

namespace PyJson

open Py

/-! ### Digits -/

theorem isDigit_iff {c : ℕ} : isDigit c = true ↔ 48 ≤ c ∧ c ≤ 57 := by
  rw [isDigit, Bool.and_eq_true, decide_eq_true_eq, decide_eq_true_eq]

theorem natText_ne_nil (n : ℕ) : natText n ≠ [] := by
  obtain ⟨c, t, heq, -⟩ := natText_head n
  rw [heq]
  simp

theorem isDigit_zeros {n c : ℕ} (h : c ∈ PyFloat.zeros n) : isDigit c = true := by
  rw [List.eq_of_mem_replicate h]
  rfl

theorem digitsValue_append (s t : PyStr) :
    digitsValue (s ++ t) = digitsValue s * 10 ^ t.length + digitsValue t := by
  induction t using List.reverseRecOn with
  | nil => simp [digitsValue]
  | append_singleton t c ih =>
      have hstep : ∀ u : PyStr, digitsValue (u ++ [c]) = 10 * digitsValue u + (c - 48) := by
        intro u
        rw [digitsValue, digitsValue, List.foldl_append]
        rfl
      rw [← List.append_assoc, hstep, hstep, ih, List.length_append, List.length_singleton, pow_succ]
      ring

theorem digitsValue_zeros (n : ℕ) : digitsValue (PyFloat.zeros n) = 0 := by
  induction n with
  | zero => rfl
  | succ n ih =>
      have hsucc : PyFloat.zeros (n + 1) = PyFloat.zeros n ++ [48] := List.replicate_succ'
      rw [hsucc, digitsValue_append, ih]
      rfl

/-- Digits are others with zeros behind them. -/
theorem exists_zeros (s : PyStr) :
    ∃ t n, s = t ++ PyFloat.zeros n ∧ ∀ a ∈ t.getLast?, a ≠ 48 := by
  induction s using List.reverseRecOn with
  | nil => exact ⟨[], 0, rfl, by simp⟩
  | append_singleton s c ih =>
      by_cases hc : c = 48
      · obtain ⟨t, n, hn, hlast⟩ := ih
        refine ⟨t, n + 1, ?_, hlast⟩
        rw [show PyFloat.zeros (n + 1) = PyFloat.zeros n ++ [48] from List.replicate_succ', ← List.append_assoc,
          ← hn, hc]
      · exact ⟨s ++ [c], 0, by simp [PyFloat.zeros], by simpa using hc⟩

/-- What ends in other characters stays when those of a kind are taken from the end. -/
theorem rdropWhile_replicate {s : PyStr} {n c : ℕ} (h : ∀ a ∈ s.getLast?, a ≠ c) :
    (s ++ List.replicate n c).rdropWhile (fun a => a == c) = s := by
  induction n with
  | zero =>
      rw [List.replicate_zero, List.append_nil]
      cases s using List.reverseRecOn with
      | nil => rfl
      | append_singleton s a => exact List.rdropWhile_concat_neg _ _ _ (by simpa using h)
  | succ n ih => rw [List.replicate_succ', ← List.append_assoc, List.rdropWhile_concat_pos _ _ _ (by simp), ih]

end PyJson

namespace Py.PyFloat

open PyJson

/-! ### Powers -/

theorem pow2_eq (e : ℤ) : pow2 e = 2 ^ e := by
  rw [pow2]
  split_ifs with he
  · obtain ⟨n, rfl⟩ := Int.eq_ofNat_of_zero_le he
    simp
  · obtain ⟨n, hn⟩ := Int.eq_ofNat_of_zero_le (show 0 ≤ -e by omega)
    have hneg : e = -(n : ℤ) := by omega
    rw [hneg, neg_neg, Int.toNat_natCast, zpow_neg, zpow_natCast, one_div]

theorem pow10_eq (e : ℤ) : pow10 e = 10 ^ e := by
  rw [pow10]
  split_ifs with he
  · obtain ⟨n, rfl⟩ := Int.eq_ofNat_of_zero_le he
    simp
  · obtain ⟨n, hn⟩ := Int.eq_ofNat_of_zero_le (show 0 ≤ -e by omega)
    have hneg : e = -(n : ℤ) := by omega
    rw [hneg, neg_neg, Int.toNat_natCast, zpow_neg, zpow_natCast, one_div]

/-! ### Rounding -/

/-- What is closer to an integer than a half is rounded to it, and a half if the integer is even. -/
theorem roundHalfEven_eq {q : ℚ} {n : ℕ} (hlo : n - 1 / 2 ≤ q) (hhi : q ≤ n + 1 / 2)
    (hlow : q = n - 1 / 2 → n % 2 = 0) (hhigh : q = n + 1 / 2 → n % 2 = 0) : roundHalfEven q = n := by
  rw [roundHalfEven]
  by_cases hle : (n : ℚ) ≤ q
  · have hfloor : ⌊q⌋ = n := by
      rw [Int.floor_eq_iff]
      push_cast
      exact ⟨hle, by linarith⟩
    rw [hfloor, Int.toNat_natCast, if_neg]
    rintro (hlt | ⟨heq, hodd⟩)
    · linarith
    · have := hhigh (by linarith)
      omega
  · have hlt : q < n := not_le.1 hle
    by_cases hn : n = 0
    · subst hn
      have hfloor : ⌊q⌋ = -1 := by
        rw [Int.floor_eq_iff]
        push_cast at *
        exact ⟨by linarith, by linarith⟩
      rw [hfloor, if_neg]
      · rfl
      · push_cast at *
        rintro (hlt' | ⟨heq, -⟩)
        · simp at hlt'
          linarith
        · simp at heq
          linarith
    · obtain ⟨m, rfl⟩ := Nat.exists_eq_succ_of_ne_zero hn
      push_cast at *
      have hfloor : ⌊q⌋ = m := by
        rw [Int.floor_eq_iff]
        push_cast
        exact ⟨by linarith, by linarith⟩
      rw [hfloor, Int.toNat_natCast, if_pos]
      by_cases heq : q = m + 1 - 1 / 2
      · have := hlow heq
        exact .inr ⟨by rw [heq]; ring, by omega⟩
      · refine .inl ?_
        have : (m : ℚ) + 1 - 1 / 2 < q := lt_of_le_of_ne hlo (Ne.symm heq)
        linarith

theorem ulp_pos (x : PyFloat) : 0 < pow2 x.ulpExp := by
  rw [pow2_eq]
  positivity

/-- How far below a double the midpoint to the next smaller one lies, in units of its last place. -/
def gap (x : PyFloat) : ℚ := if x.frac = 0 ∧ 1 < x.expo then 1 / 4 else 1 / 2

/-- What is rounded to a double lies around its significand, counted in units of its last place. -/
theorem roundsTo_mul_iff {x : PyFloat} {y : ℚ} : x.roundsTo (y * pow2 x.ulpExp) = true ↔
    (x.significand - x.gap ≤ y ∧ y ≤ x.significand + 1 / 2) ∧
      (y = x.significand - x.gap → x.significand % 2 = 0) ∧
      (y = x.significand + 1 / 2 → x.significand % 2 = 0) := by
  have hulp := ulp_pos x
  have hlo : x.magnitude - (if x.frac = 0 ∧ 1 < x.expo then pow2 x.ulpExp / 4 else pow2 x.ulpExp / 2) =
      (x.significand - x.gap) * pow2 x.ulpExp := by
    rw [magnitude, gap]
    split_ifs <;> ring
  have hhi : x.magnitude + pow2 x.ulpExp / 2 = (x.significand + 1 / 2) * pow2 x.ulpExp := by
    rw [magnitude]
    ring
  rw [roundsTo, hlo, hhi]
  split_ifs with heven
  · rw [Bool.and_eq_true, decide_eq_true_eq, decide_eq_true_eq, mul_le_mul_iff_left₀ hulp,
      mul_le_mul_iff_left₀ hulp]
    exact ⟨fun h => ⟨h, fun _ => heven, fun _ => heven⟩, fun h => h.1⟩
  · rw [Bool.and_eq_true, decide_eq_true_eq, decide_eq_true_eq, mul_lt_mul_iff_left₀ hulp,
      mul_lt_mul_iff_left₀ hulp]
    constructor
    · rintro ⟨hlt, hgt⟩
      exact ⟨⟨hlt.le, hgt.le⟩, fun heq => absurd heq hlt.ne', fun heq => absurd heq hgt.ne⟩
    · rintro ⟨⟨hle, hge⟩, hlow, hhigh⟩
      exact ⟨lt_of_le_of_ne hle fun heq => heven (hlow heq.symm), lt_of_le_of_ne hge fun heq => heven (hhigh heq)⟩

theorem log_eq {d : ℚ} {k : ℤ} (hlo : 2 ^ k ≤ d) (hhi : d < 2 ^ (k + 1)) : Int.log 2 d = k := by
  have hpos : 0 < d := lt_of_lt_of_le (by positivity) hlo
  have hle : k ≤ Int.log 2 d := (Int.zpow_le_iff_le_log (by norm_num) hpos).1 (by exact_mod_cast hlo)
  have hlt : Int.log 2 d < k + 1 := (Int.lt_zpow_iff_log_lt (by norm_num) hpos).1 (by exact_mod_cast hhi)
  omega

/-- The digits of a number are those of its exponent and its fraction. -/
theorem ofBits_bits {x : PyFloat} (h : x.isFinite = true) : ofBits x.neg (x.expo * 2 ^ 52 + x.frac) = x := by
  obtain ⟨neg, expo, frac, hexpo, hfrac⟩ := x
  have hlt : expo < 2047 := by simpa [isFinite] using h
  have hbits : expo * 2 ^ 52 + frac < 2047 * 2 ^ 52 := by omega
  rw [ofBits, dif_pos hbits, PyFloat.mk.injEq]
  refine ⟨rfl, ?_, ?_⟩
  · dsimp only
    omega
  · dsimp only
    omega

/-- The exponent of a double, from zero on for those that are not normal and for the smallest that are. -/
def scale (x : PyFloat) : ℕ := max 1 x.expo - 1

theorem ulpExp_eq (x : PyFloat) : x.ulpExp = (x.scale : ℤ) - 1074 := by
  rw [ulpExp, scale]
  omega

theorem bits_eq (x : PyFloat) : x.scale * 2 ^ 52 + x.significand = x.expo * 2 ^ 52 + x.frac := by
  rw [scale, significand]
  split_ifs with hexpo
  · rw [hexpo]
    omega
  · obtain ⟨n, hn⟩ := Nat.exists_eq_succ_of_ne_zero hexpo
    rw [hn]
    omega

theorem significand_lt (x : PyFloat) : x.significand < 2 ^ 53 := by
  have hfrac := x.frac_lt
  rw [significand]
  split_ifs <;> omega

theorem le_significand {x : PyFloat} (h : 0 < x.scale) : 2 ^ 52 ≤ x.significand := by
  rw [scale] at h
  rw [significand, if_neg (by omega)]
  omega

/-- Below a power of two the doubles are closer to each other. -/
theorem gap_of_full {x : PyFloat} (hsig : x.significand = 2 ^ 52) (hscale : 0 < x.scale) : x.gap = 1 / 4 := by
  rw [scale] at hscale
  rw [significand, if_neg (by omega)] at hsig
  rw [gap, if_pos (by omega)]

theorem gap_cases (x : PyFloat) : x.gap = 1 / 2 ∨ x.gap = 1 / 4 ∧ x.significand = 2 ^ 52 := by
  by_cases h : x.frac = 0 ∧ 1 < x.expo
  · refine .inr ⟨if_pos h, ?_⟩
    rw [significand, if_neg (by omega)]
    omega
  · exact .inl (if_neg h)

theorem gap_le (x : PyFloat) : x.gap ≤ 1 / 2 := by
  rcases x.gap_cases with h | ⟨h, -⟩ <;> rw [h]
  norm_num

/-- **A decimal that is rounded to a double is read as that double.** -/
theorem ofRat_of_roundsTo {x : PyFloat} {d : ℚ} (hfinite : x.isFinite = true) (hpos : 0 < x.significand)
    (h : x.roundsTo d = true) : ofRat x.neg d = x := by
  have hulp := ulp_pos x
  obtain ⟨y, rfl⟩ : ∃ y, d = y * pow2 x.ulpExp := ⟨d / pow2 x.ulpExp, by field_simp⟩
  obtain ⟨⟨hlo, hhi⟩, hlow, hhigh⟩ := roundsTo_mul_iff.1 h
  have hone : (1 : ℚ) ≤ x.significand := by exact_mod_cast hpos
  have hle : (x.significand : ℚ) ≤ 2 ^ 53 - 1 := by
    have hsmall : x.significand + 1 ≤ 2 ^ 53 := x.significand_lt
    have hcast : ((x.significand + 1 : ℕ) : ℚ) ≤ ((2 ^ 53 : ℕ) : ℚ) := by exact_mod_cast hsmall
    push_cast at hcast
    linarith
  have hgap := x.gap_le
  have hy : 0 < y := by linarith
  have hne : y * pow2 x.ulpExp ≠ 0 := (mul_pos hy hulp).ne'
  have hbits := x.bits_eq
  rw [ofRat, if_neg hne]
  rw [pow2_eq] at hulp ⊢
  by_cases hbelow : y < 2 ^ 52 ∧ 0 < x.scale
  · -- the decimal has one digit more than the double before its last place
    obtain ⟨hlt, hscale⟩ := hbelow
    have hfull : x.significand = 2 ^ 52 := by
      have hge := le_significand hscale
      have hlt' : (x.significand : ℚ) < (2 ^ 52 + 1 : ℕ) := by
        push_cast
        linarith
      have : x.significand < 2 ^ 52 + 1 := by exact_mod_cast hlt'
      omega
    have hquarter := gap_of_full hfull hscale
    rw [hfull, hquarter] at hlo
    push_cast at hlo
    have hlog : Int.log 2 (y * 2 ^ x.ulpExp) = x.ulpExp + 51 := by
      refine log_eq ?_ ?_
      · rw [zpow_add₀ (by norm_num), mul_comm]
        exact mul_le_mul_of_nonneg_right (by norm_num; linarith) hulp.le
      · rw [add_assoc, zpow_add₀ (by norm_num), mul_comm]
        exact mul_lt_mul_of_pos_left (by norm_num; linarith) hulp
    have hmax : max (Int.log 2 (y * 2 ^ x.ulpExp)) (-1022) = x.ulpExp + 51 := by
      rw [hlog, ulpExp_eq]
      omega
    have hround : roundHalfEven (y * 2 ^ x.ulpExp / pow2 (x.ulpExp + 51 - 52)) = 2 ^ 53 := by
      have hquot : y * 2 ^ x.ulpExp / pow2 (x.ulpExp + 51 - 52) = 2 * y := by
        rw [pow2_eq, show x.ulpExp + 51 - 52 = x.ulpExp - 1 by ring, zpow_sub₀ (by norm_num), zpow_one]
        field_simp
      rw [hquot]
      refine roundHalfEven_eq ?_ ?_ (fun _ => by norm_num) fun _ => by norm_num
      · push_cast
        linarith
      · push_cast
        linarith
    rw [hmax]
    dsimp only
    rw [hround]
    refine (congrArg (ofBits x.neg) ?_).trans (ofBits_bits hfinite)
    have hshift : (x.ulpExp + 51 + 1022).toNat = x.scale - 1 := by
      rw [ulpExp_eq]
      omega
    rw [hshift, ← hbits, hfull]
    obtain ⟨n, hn⟩ := Nat.exists_eq_add_of_lt hscale
    rw [hn, Nat.add_sub_cancel]
    ring
  · have hexp : max (Int.log 2 (y * 2 ^ x.ulpExp)) (-1022) = x.ulpExp + 52 := by
      by_cases hbig : 2 ^ 52 ≤ y
      · have hlog : Int.log 2 (y * 2 ^ x.ulpExp) = x.ulpExp + 52 := by
          refine log_eq ?_ ?_
          · rw [zpow_add₀ (by norm_num), mul_comm]
            exact mul_le_mul_of_nonneg_right (by norm_num; linarith) hulp.le
          · rw [add_assoc, zpow_add₀ (by norm_num), mul_comm]
            exact mul_lt_mul_of_pos_left (by norm_num; linarith) hulp
        rw [hlog, ulpExp_eq]
        omega
      · have hscale : x.scale = 0 := by
          by_contra hscale
          exact hbelow ⟨not_le.1 hbig, Nat.pos_of_ne_zero hscale⟩
        have hexp : x.ulpExp = -1074 := by
          rw [ulpExp_eq, hscale]
          rfl
        have hlog : Int.log 2 (y * 2 ^ x.ulpExp) < -1022 := by
          refine (Int.lt_zpow_iff_log_lt (by norm_num) (mul_pos hy hulp)).1 ?_
          rw [hexp, show (-1022 : ℤ) = 52 + -1074 by norm_num, zpow_add₀ (by norm_num)]
          refine mul_lt_mul_of_pos_right ?_ (by positivity)
          have := not_le.1 hbig
          norm_num at this ⊢
          exact this
        omega
    have hround : roundHalfEven (y * 2 ^ x.ulpExp / pow2 (x.ulpExp + 52 - 52)) = x.significand := by
      have hquot : y * 2 ^ x.ulpExp / pow2 (x.ulpExp + 52 - 52) = y := by
        rw [pow2_eq, add_sub_cancel_right, mul_div_assoc, div_self hulp.ne', mul_one]
      rw [hquot]
      refine roundHalfEven_eq (by linarith) hhi (fun heq => hlow ?_) hhigh
      linarith
    rw [hexp]
    dsimp only
    rw [hround]
    refine (congrArg (ofBits x.neg) ?_).trans (ofBits_bits hfinite)
    have hshift : (x.ulpExp + 52 + 1022).toNat = x.scale := by
      rw [ulpExp_eq]
      omega
    rw [hshift, hbits]

/-- Zero is read as the zero with the sign. -/
theorem ofRat_zero {x : PyFloat} (hfinite : x.isFinite = true) (hzero : x.significand = 0) :
    ofRat x.neg 0 = x := by
  have hbits : x.expo * 2 ^ 52 + x.frac = 0 := by
    rw [significand] at hzero
    split_ifs at hzero with hexpo
    · rw [hexpo, hzero]
      rfl
    · omega
  have hread := ofBits_bits hfinite
  rw [hbits] at hread
  rw [ofRat, if_pos rfl, hread]

/-! ### Seventeen digits are enough -/

/-- A decimal between the two midpoints is rounded to the double. -/
theorem roundsTo_of_between {x : PyFloat} {d : ℚ} (hlo : x.magnitude - x.gap * pow2 x.ulpExp < d)
    (hhi : d < x.magnitude + 1 / 2 * pow2 x.ulpExp) : x.roundsTo d = true := by
  have hulp := ulp_pos x
  obtain ⟨y, rfl⟩ : ∃ y, d = y * pow2 x.ulpExp := ⟨d / pow2 x.ulpExp, by field_simp⟩
  rw [magnitude, ← sub_mul, mul_lt_mul_iff_left₀ hulp] at hlo
  rw [magnitude, ← add_mul, mul_lt_mul_iff_left₀ hulp] at hhi
  exact roundsTo_mul_iff.2 ⟨⟨hlo.le, hhi.le⟩, fun heq => absurd heq hlo.ne', fun heq => absurd heq hhi.ne⟩

theorem pow_length_le {n : ℕ} (h : n ≠ 0) : 10 ^ ((Nat.toDigits 10 n).length - 1) ≤ n := by
  have hpos : 0 < (Nat.toDigits 10 n).length := Nat.length_toDigits_pos
  by_cases hone : (Nat.toDigits 10 n).length = 1
  · rw [hone]
    omega
  · by_contra hlt
    have hle := (Nat.length_toDigits_le_iff (by norm_num) (by omega)).2 (not_le.1 hlt)
    omega

/-- A number in the range of doubles is not below the power of ten at its first digit. -/
theorem pow_pointOf_le {d : ℚ} (h : 1 ≤ d * 10 ^ 399) : 10 ^ (pointOf d - 1) ≤ d := by
  rw [pointOf]
  split_ifs with hone
  · have hfloor : 1 ≤ ⌊d⌋ := Int.le_floor.2 (by exact_mod_cast hone)
    have hcast : ((⌊d⌋.toNat : ℕ) : ℚ) ≤ d := by
      have hnat : ((⌊d⌋.toNat : ℕ) : ℤ) = ⌊d⌋ := Int.toNat_of_nonneg (by omega)
      calc ((⌊d⌋.toNat : ℕ) : ℚ) = ((⌊d⌋ : ℤ) : ℚ) := by exact_mod_cast congrArg (fun n : ℤ => (n : ℚ)) hnat
        _ ≤ d := Int.floor_le d
    have hpos : 0 < (Nat.toDigits 10 ⌊d⌋.toNat).length := Nat.length_toDigits_pos
    have hexp : ((Nat.toDigits 10 ⌊d⌋.toNat).length : ℤ) - 1 =
        (((Nat.toDigits 10 ⌊d⌋.toNat).length - 1 : ℕ) : ℤ) := by omega
    rw [hexp, zpow_natCast]
    refine le_trans ?_ hcast
    exact_mod_cast pow_length_le (by omega)
  · cases hfind : (List.range 400).find? fun n => decide (1 ≤ d * 10 ^ n) with
    | none =>
        have hlast := List.find?_eq_none.1 hfind 399 (by simp)
        exact absurd h (by simpa using hlast)
    | some n =>
        have hfound : 1 ≤ d * 10 ^ n := by simpa using List.find?_some hfind
        dsimp only
        rw [show (1 : ℤ) - n - 1 = -(n : ℤ) by ring, zpow_neg, zpow_natCast, inv_le_iff_one_le_mul₀ (by positivity)]
        exact hfound

theorem le_magnitude {x : PyFloat} (h : 0 < x.significand) : 1 ≤ x.magnitude * 10 ^ 399 := by
  have hone : (1 : ℚ) ≤ x.significand := by exact_mod_cast h
  have hulp : (2 : ℚ) ^ (-1074 : ℤ) ≤ pow2 x.ulpExp := by
    rw [pow2_eq, ulpExp_eq]
    exact zpow_le_zpow_right₀ (by norm_num) (by omega)
  have hleast : (1 : ℚ) ≤ 2 ^ (-1074 : ℤ) * 10 ^ 399 := by
    have hpow : (2 : ℚ) ^ 1074 ≤ 10 ^ 399 := by
      calc (2 : ℚ) ^ 1074 ≤ 2 ^ (9 * 120) := pow_le_pow_right₀ (by norm_num) (by norm_num)
        _ = (2 ^ 9) ^ 120 := pow_mul _ _ _
        _ ≤ (10 ^ 3) ^ 120 := pow_le_pow_left₀ (by norm_num) (by norm_num) _
        _ = 10 ^ (3 * 120) := (pow_mul _ _ _).symm
        _ ≤ 10 ^ 399 := pow_le_pow_right₀ (by norm_num) (by norm_num)
    rw [zpow_neg, inv_mul_eq_div, one_le_div (by positivity)]
    exact hpow
  calc (1 : ℚ) ≤ 2 ^ (-1074 : ℤ) * 10 ^ 399 := hleast
    _ ≤ x.magnitude * 10 ^ 399 := by
        refine mul_le_mul_of_nonneg_right ?_ (by positivity)
        rw [magnitude]
        exact hulp.trans (le_mul_of_one_le_left (ulp_pos x).le hone)

/-- The last of seventeen digits counts for less than what separates the double from its neighbours. -/
theorem unit_lt (x : PyFloat) (h : 0 < x.significand) :
    pow10 (pointOf x.magnitude - 17) / 2 < x.gap * pow2 x.ulpExp ∧
      pow10 (pointOf x.magnitude - 17) / 2 < 1 / 2 * pow2 x.ulpExp := by
  have hulp := ulp_pos x
  have hunit : pow10 (pointOf x.magnitude - 17) * 10 ^ 16 ≤ x.significand * pow2 x.ulpExp := by
    have hpoint := pow_pointOf_le (le_magnitude h)
    rw [magnitude] at hpoint ⊢
    rw [pow10_eq]
    refine le_trans (le_of_eq ?_) hpoint
    rw [show ((10 : ℚ) ^ 16) = 10 ^ (16 : ℤ) by norm_cast, ← zpow_add₀ (by norm_num)]
    congr 1
    ring
  have hsmall : (x.significand : ℚ) < 2 ^ 53 := by exact_mod_cast x.significand_lt
  rcases x.gap_cases with hgap | ⟨hgap, hfull⟩
  · rw [hgap]
    have hlt : pow10 (pointOf x.magnitude - 17) / 2 < 1 / 2 * pow2 x.ulpExp := by nlinarith
    exact ⟨hlt, hlt⟩
  · rw [hgap]
    rw [hfull] at hunit
    push_cast at hunit
    exact ⟨by linarith, by linarith⟩

/-- The number of units below a double. -/
def below (x : PyFloat) (p : ℕ) : ℕ := ⌊x.magnitude / pow10 (pointOf x.magnitude - p)⌋.toNat

/-- Digits are found if the decimal below the double or the one above it is rounded to it. -/
theorem digitsAt_cases (x : PyFloat) (p : ℕ) :
    (∃ n, x.digitsAt p = some n ∧ x.roundsTo (n * pow10 (pointOf x.magnitude - p)) = true) ∨
      x.digitsAt p = none ∧ x.roundsTo (x.below p * pow10 (pointOf x.magnitude - p)) = false ∧
        x.roundsTo ((x.below p + 1) * pow10 (pointOf x.magnitude - p)) = false := by
  have hcast : ((x.below p + 1 : ℕ) : ℚ) = x.below p + 1 := by push_cast; rfl
  rw [digitsAt, ← below]
  cases hdown : x.roundsTo (x.below p * pow10 (pointOf x.magnitude - p)) with
  | false =>
      cases hup : x.roundsTo ((x.below p + 1) * pow10 (pointOf x.magnitude - p)) with
      | false => exact .inr ⟨rfl, rfl, rfl⟩
      | true => exact .inl ⟨x.below p + 1, rfl, by rw [hcast, hup]⟩
  | true =>
      left
      cases hup : x.roundsTo ((x.below p + 1) * pow10 (pointOf x.magnitude - p)) with
      | false => exact ⟨x.below p, rfl, hdown⟩
      | true =>
          dsimp only
          split_ifs
          · exact ⟨x.below p, rfl, hdown⟩
          · exact ⟨x.below p + 1, rfl, by rw [hcast, hup]⟩

/-- Seventeen digits are enough. -/
theorem exists_digitsAt {x : PyFloat} (h : 0 < x.significand) : ∃ n, x.digitsAt 17 = some n := by
  obtain ⟨hbelow, habove⟩ := unit_lt x h
  have hunit : 0 < pow10 (pointOf x.magnitude - 17) := by
    rw [pow10_eq]
    positivity
  have hmag : 0 ≤ x.magnitude / pow10 (pointOf x.magnitude - 17) := by
    rw [magnitude]
    have := ulp_pos x
    positivity
  have hnat : (x.below 17 : ℚ) = (⌊x.magnitude / pow10 (pointOf x.magnitude - 17)⌋ : ℤ) := by
    exact_mod_cast congrArg (fun n : ℤ => (n : ℚ)) (Int.toNat_of_nonneg (Int.floor_nonneg.2 hmag))
  have hle := Int.floor_le (x.magnitude / pow10 (pointOf x.magnitude - 17))
  have hlt := Int.lt_floor_add_one (x.magnitude / pow10 (pointOf x.magnitude - 17))
  rw [← hnat, le_div_iff₀ hunit] at hle
  rw [← hnat, div_lt_iff₀ hunit] at hlt
  rcases digitsAt_cases x 17 with ⟨n, hn, -⟩ | ⟨-, hdown, hup⟩
  · exact ⟨n, hn⟩
  · -- one of the two decimals is not more than half a unit away
    by_cases hclose : x.magnitude - x.below 17 * pow10 (pointOf x.magnitude - 17) ≤
        pow10 (pointOf x.magnitude - 17) / 2
    · have hrounds := @roundsTo_of_between x (x.below 17 * pow10 (pointOf x.magnitude - 17))
        (by linarith) (by linarith)
      rw [Nat.cast_ofNat, hrounds] at hdown
      cases hdown
    · have hrounds := @roundsTo_of_between x ((x.below 17 + 1) * pow10 (pointOf x.magnitude - 17))
        (by linarith) (by linarith)
      rw [Nat.cast_ofNat, hrounds] at hup
      cases hup

theorem not_roundsTo_zero {x : PyFloat} (h : 0 < x.significand) : x.roundsTo 0 = false := by
  rw [Bool.eq_false_iff]
  intro hzero
  rw [← zero_mul (pow2 x.ulpExp), roundsTo_mul_iff] at hzero
  have hone : (1 : ℚ) ≤ x.significand := by exact_mod_cast h
  have hgap := x.gap_le
  linarith [hzero.1.1]

/-- The shortest digits do not start with a zero, and they stand for a decimal that is rounded to the
double. -/
theorem exists_shortest {x : PyFloat} (h : 0 < x.significand) :
    ∃ c digits point, x.shortest = (c :: digits, point) ∧ c ≠ 48 ∧
      (∀ a ∈ c :: digits, isDigit a = true) ∧
      x.roundsTo (digitsValue (c :: digits) * pow10 (point - (c :: digits).length)) = true := by
  have hsome : ∃ p n, (List.range' 1 17).findSome? (fun p => (x.digitsAt p).map fun d => (p, d)) = some (p, n) := by
    cases hfind : (List.range' 1 17).findSome? fun p => (x.digitsAt p).map fun d => (p, d) with
    | some r => exact ⟨r.1, r.2, rfl⟩
    | none =>
        obtain ⟨n, hn⟩ := exists_digitsAt h
        have hlast := List.findSome?_eq_none_iff.1 hfind 17 (by simp)
        rw [hn] at hlast
        cases hlast
  obtain ⟨p, n, hfind⟩ := hsome
  obtain ⟨q, -, hq⟩ := List.exists_of_findSome?_eq_some hfind
  obtain ⟨m, hm, hpair⟩ := Option.map_eq_some_iff.1 hq
  obtain ⟨rfl, rfl⟩ := Prod.mk.inj hpair
  have hrounds : x.roundsTo (m * pow10 (pointOf x.magnitude - q)) = true := by
    rcases digitsAt_cases x q with ⟨n, hn, hrounds⟩ | ⟨hnone, -⟩
    · rw [hm] at hn
      exact Option.some.inj hn ▸ hrounds
    · rw [hm] at hnone
      cases hnone
  have hshortest : x.shortest = ((natText m).rdropWhile (· == 48),
      pointOf x.magnitude + (natText m).length - q) := by
    rw [shortest, hfind]
    rfl
  -- the digits without the zeros at their end
  obtain ⟨t, k, htext, hlast⟩ := exists_zeros (natText m)
  have hvalue : m = digitsValue t * 10 ^ k := by
    have htotal := digitsValue_natText m
    rw [htext, digitsValue_append, digitsValue_zeros, add_zero, zeros, List.length_replicate] at htotal
    exact htotal.symm
  have hne : m ≠ 0 := by
    rintro rfl
    rw [Nat.cast_zero, zero_mul, not_roundsTo_zero h] at hrounds
    cases hrounds
  have hdigits : ∀ a ∈ t, isDigit a = true := by
    intro a ha
    exact isDigit_of_mem_natText (htext ▸ List.mem_append_left _ ha)
  rw [htext, zeros, rdropWhile_replicate hlast, List.length_append, List.length_replicate] at hshortest
  cases t with
  | nil =>
      rw [digitsValue, List.foldl_nil, zero_mul] at hvalue
      exact absurd hvalue hne
  | cons c t =>
      refine ⟨c, t, _, hshortest, ?_, hdigits, ?_⟩
      · rcases natText_eq_cons m with hzero | ⟨a, s, hcons, ha⟩
        · have htotal := digitsValue_natText m
          rw [hzero] at htotal
          exact absurd htotal.symm hne
        · rw [hcons, List.cons_append] at htext
          exact (List.cons.inj htext).1 ▸ ha
      · have hscale : (digitsValue (c :: t) : ℚ) * pow10 (pointOf x.magnitude +
            (((c :: t).length + k : ℕ) : ℤ) - q - (c :: t).length) = m * pow10 (pointOf x.magnitude - q) := by
          rw [hvalue, pow10_eq, pow10_eq]
          push_cast
          rw [show pointOf x.magnitude + (((c :: t).length : ℤ) + k) - q - (c :: t).length =
            (pointOf x.magnitude - q) + k by ring, zpow_add₀ (by norm_num), zpow_natCast]
          ring
        rw [hscale]
        exact hrounds

end Py.PyFloat

namespace PyJson

open Py

/-! ### Numbers are read -/

theorem scanInteger_digits {c : ℕ} {s rest : PyStr} (hc : c ≠ 48) (hs : ∀ a ∈ c :: s, isDigit a = true)
    (hrest : ∀ a ∈ rest.head?, isDigit a = false) : scanInteger (c :: s ++ rest) = (c :: s, rest) := by
  obtain ⟨htake, hdrop⟩ := takeWhile_digits hs hrest
  rw [List.cons_append] at htake hdrop ⊢
  rw [scanInteger, htake, hdrop]
  intro rest' heq
  exact hc (List.cons.inj heq).1

theorem scanFraction_digits {s rest : PyStr} (hne : s ≠ []) (hs : ∀ a ∈ s, isDigit a = true)
    (hrest : ∀ a ∈ rest.head?, isDigit a = false) : scanFraction (46 :: (s ++ rest)) = (s, rest) := by
  obtain ⟨htake, hdrop⟩ := takeWhile_digits hs hrest
  rw [scanFraction, htake, hdrop, if_neg hne]

/-- An exponent is read. -/
theorem scanExponent_exponentText (e : ℤ) {rest : PyStr} (h : Ends rest) :
    scanExponent (101 :: (PyFloat.exponentText e ++ rest)) = (some e, rest) := by
  have hdigits : ∀ n : ℕ, ∀ a ∈ PyFloat.zeros n ++ natText e.natAbs, isDigit a = true := by
    intro n a ha
    exact (List.mem_append.1 ha).elim isDigit_zeros isDigit_of_mem_natText
  obtain ⟨htake, hdrop⟩ := takeWhile_digits (hdigits (2 - (natText e.natAbs).length)) fun a ha => (h a ha).1
  have hvalue : digitsValue (PyFloat.zeros (2 - (natText e.natAbs).length) ++ natText e.natAbs) = e.natAbs := by
    rw [digitsValue_append, digitsValue_zeros, zero_mul, zero_add, digitsValue_natText]
  have hne : PyFloat.zeros (2 - (natText e.natAbs).length) ++ natText e.natAbs ≠ [] :=
    List.append_ne_nil_of_right_ne_nil _ (natText_ne_nil _)
  by_cases hneg : e < 0
  · have htext : PyFloat.exponentText e ++ rest =
        45 :: (PyFloat.zeros (2 - (natText e.natAbs).length) ++ natText e.natAbs ++ rest) := by
      rw [PyFloat.exponentText, if_pos hneg]
      rfl
    rw [htext, scanExponent, scanSign]
    dsimp only
    rw [htake, hdrop, hvalue, if_pos ⟨.inl rfl, hne⟩, if_pos rfl]
    have : -((e.natAbs : ℕ) : ℤ) = e := by omega
    rw [this]
  · have htext : PyFloat.exponentText e ++ rest =
        43 :: (PyFloat.zeros (2 - (natText e.natAbs).length) ++ natText e.natAbs ++ rest) := by
      rw [PyFloat.exponentText, if_neg hneg]
      rfl
    rw [htext, scanExponent, scanSign]
    dsimp only
    rw [htake, hdrop, hvalue, if_pos ⟨.inl rfl, hne⟩, if_neg (by simp)]
    have : ((e.natAbs : ℕ) : ℤ) = e := by omega
    rw [this]

/-- A number with a fraction or an exponent is read as the double that is closest to it. -/
theorem scanUnsigned_of {neg : Bool} {s afterDigits afterFraction rest digits fraction : PyStr}
    {exponent : Option ℤ} {q : ℚ} (hinteger : scanInteger s = (digits, afterDigits))
    (hfraction : scanFraction afterDigits = (fraction, afterFraction))
    (hexponent : scanExponent afterFraction = (exponent, rest)) (hdigits : digits ≠ [])
    (hfloat : ¬(fraction = [] ∧ exponent = none))
    (hvalue : digitsValue (digits ++ fraction) * PyFloat.pow10 (exponent.getD 0 - fraction.length) = q) :
    scanUnsigned neg s = some (.float (PyFloat.ofRat neg q), rest) := by
  rw [scanUnsigned, hinteger]
  dsimp only
  rw [hfraction]
  dsimp only
  rw [hexponent]
  dsimp only
  rw [if_neg hdigits, if_neg hfloat, hvalue]

/-- **Digits and a decimal point are read** as the double that is closest to the number they stand for. -/
theorem scanUnsigned_layout (neg : Bool) {c : ℕ} {digits rest : PyStr} (point : ℤ) (hc : c ≠ 48)
    (hdigits : ∀ a ∈ c :: digits, isDigit a = true) (hrest : Ends rest) :
    scanUnsigned neg (PyFloat.layout (c :: digits) point ++ rest) =
      some (.float (PyFloat.ofRat neg
        (digitsValue (c :: digits) * PyFloat.pow10 (point - (c :: digits).length))), rest) := by
  have hends : ∀ a ∈ rest.head?, isDigit a = false := fun a ha => (hrest a ha).1
  rw [PyFloat.layout]
  split_ifs with hplain hsmall hwhole hone
  · -- zeros between the point and the digits
    have hall : ∀ a ∈ PyFloat.zeros (-point).toNat ++ (c :: digits), isDigit a = true :=
      fun a ha => (List.mem_append.1 ha).elim isDigit_zeros (hdigits a)
    have htext : cp "0." ++ PyFloat.zeros (-point).toNat ++ (c :: digits) ++ rest =
        48 :: 46 :: (PyFloat.zeros (-point).toNat ++ (c :: digits) ++ rest) := by
      simp only [List.append_assoc]
      rfl
    rw [htext]
    refine scanUnsigned_of rfl (scanFraction_digits (by simp) hall hends) (scanExponent_ends hrest) (by simp)
      (by simp) ?_
    have hzero : digitsValue [48] = 0 := rfl
    rw [digitsValue_append, hzero, zero_mul, zero_add, digitsValue_append, digitsValue_zeros, zero_mul, zero_add,
      PyFloat.zeros, List.length_append, List.length_replicate, Option.getD_none]
    congr 2
    push_cast
    omega
  · -- zeros between the digits and the point
    have hall : ∀ a ∈ c :: (digits ++ PyFloat.zeros (point - (c :: digits).length).toNat), isDigit a = true := by
      rw [← List.cons_append]
      exact fun a ha => (List.mem_append.1 ha).elim (hdigits a) isDigit_zeros
    have htext : c :: digits ++ PyFloat.zeros (point - (c :: digits).length).toNat ++ cp ".0" ++ rest =
        c :: (digits ++ PyFloat.zeros (point - (c :: digits).length).toNat) ++ 46 :: ([48] ++ rest) := by
      simp only [List.append_assoc, List.cons_append]
      rfl
    rw [htext]
    have hdot : ∀ a ∈ (46 :: ([48] ++ rest)).head?, isDigit a = false := by
      intro a ha
      obtain rfl := Option.some.inj ha
      rfl
    refine scanUnsigned_of (scanInteger_digits hc hall hdot)
      (scanFraction_digits (by simp) (by simp [isDigit]) hends) (scanExponent_ends hrest) (by simp) (by simp) ?_
    have hzero : digitsValue [48] = 0 := rfl
    rw [← List.cons_append, digitsValue_append, hzero, digitsValue_append, digitsValue_zeros, add_zero, add_zero,
      PyFloat.zeros, List.length_replicate, Option.getD_none, PyFloat.pow10_eq, PyFloat.pow10_eq]
    obtain ⟨n, hn⟩ := Int.eq_ofNat_of_zero_le (show 0 ≤ point - ((c :: digits).length : ℤ) by omega)
    rw [hn, Int.toNat_natCast, zpow_natCast, List.length_singleton]
    push_cast
    norm_num
    ring
  · -- the point among the digits
    obtain ⟨n, rfl⟩ := Int.eq_ofNat_of_zero_le (show 0 ≤ point by omega)
    have hsplit : (c :: digits).take n ++ (c :: digits).drop n = c :: digits := List.take_append_drop _ _
    obtain ⟨m, rfl⟩ := Nat.exists_eq_succ_of_ne_zero (show n ≠ 0 by omega)
    have htext : (c :: digits).take ((m + 1 : ℕ) : ℤ).toNat ++ cp "." ++ (c :: digits).drop ((m + 1 : ℕ) : ℤ).toNat ++
        rest = c :: digits.take m ++ 46 :: (digits.drop m ++ rest) := by
      rw [Int.toNat_natCast, List.take_succ_cons, List.drop_succ_cons]
      simp only [List.append_assoc]
      rfl
    rw [htext]
    have hdot : ∀ a ∈ (46 :: (digits.drop m ++ rest)).head?, isDigit a = false := by
      intro a ha
      obtain rfl := Option.some.inj ha
      rfl
    have hbefore : ∀ a ∈ c :: digits.take m, isDigit a = true := by
      rw [← List.take_succ_cons]
      exact fun a ha => hdigits a (List.mem_of_mem_take ha)
    have hbehind : ∀ a ∈ digits.drop m, isDigit a = true :=
      fun a ha => hdigits a (List.mem_cons_of_mem _ (List.mem_of_mem_drop ha))
    have hlength : m < digits.length := by
      rw [List.length_cons] at hwhole
      omega
    have hne : digits.drop m ≠ [] := by
      rw [Ne, List.drop_eq_nil_iff]
      omega
    refine scanUnsigned_of (scanInteger_digits hc hbefore hdot) (scanFraction_digits hne hbehind hends)
      (scanExponent_ends hrest) (by simp) (fun h => hne h.1) ?_
    rw [List.cons_append, List.take_append_drop, List.length_drop, Option.getD_none, List.length_cons]
    congr 2
    omega
  · -- one digit and an exponent
    have hnil : digits = [] := by
      rw [List.length_cons] at hone
      exact List.eq_nil_of_length_eq_zero (by omega)
    subst hnil
    have htext : [c].take 1 ++ [] ++ cp "e" ++ PyFloat.exponentText (point - 1) ++ rest =
        [c] ++ 101 :: (PyFloat.exponentText (point - 1) ++ rest) := by
      simp only [List.append_assoc]
      rfl
    rw [htext]
    have hexp : ∀ a ∈ (101 :: (PyFloat.exponentText (point - 1) ++ rest)).head?, isDigit a = false := by
      intro a ha
      obtain rfl := Option.some.inj ha
      rfl
    refine scanUnsigned_of (scanInteger_digits hc hdigits hexp) rfl (scanExponent_exponentText _ hrest) (by simp)
      (by simp) ?_
    rw [List.append_nil, Option.getD_some, List.length_nil, List.length_singleton]
    congr 2
    omega
  · -- a digit, a point, the others, and an exponent
    have hne : digits ≠ [] := by
      rintro rfl
      exact hone (by simp)
    have htext : (c :: digits).take 1 ++ (cp "." ++ (c :: digits).drop 1) ++ cp "e" ++
        PyFloat.exponentText (point - 1) ++ rest =
          [c] ++ 46 :: (digits ++ 101 :: (PyFloat.exponentText (point - 1) ++ rest)) := by
      simp only [List.append_assoc, List.take_succ_cons, List.take_zero, List.drop_succ_cons, List.drop_zero]
      rfl
    rw [htext]
    have hdot : ∀ a ∈ (46 :: (digits ++ 101 :: (PyFloat.exponentText (point - 1) ++ rest))).head?,
        isDigit a = false := by
      intro a ha
      obtain rfl := Option.some.inj ha
      rfl
    have hexp : ∀ a ∈ (101 :: (PyFloat.exponentText (point - 1) ++ rest)).head?, isDigit a = false := by
      intro a ha
      obtain rfl := Option.some.inj ha
      rfl
    have hfirst : ∀ a ∈ [c], isDigit a = true := by
      intro a ha
      exact hdigits a (List.mem_singleton.1 ha ▸ List.mem_cons_self)
    refine scanUnsigned_of (scanInteger_digits hc hfirst hdot)
      (scanFraction_digits hne (fun a ha => hdigits a (List.mem_cons_of_mem _ ha)) hexp)
      (scanExponent_exponentText _ hrest) (by simp) (by simp) ?_
    rw [List.singleton_append, Option.getD_some, List.length_cons]
    congr 2
    push_cast
    ring

/-- The first character of a layout is a digit. -/
theorem layout_head {c : ℕ} {digits : PyStr} (point : ℤ) (hdigits : ∀ a ∈ c :: digits, isDigit a = true) :
    ∃ d t, PyFloat.layout (c :: digits) point = d :: t ∧ isDigit d = true := by
  have hc := hdigits c List.mem_cons_self
  rw [PyFloat.layout]
  split_ifs with hplain hsmall hwhole
  · exact ⟨48, _, rfl, rfl⟩
  · exact ⟨c, _, rfl, hc⟩
  · obtain ⟨n, hn⟩ := Nat.exists_eq_succ_of_ne_zero (show point.toNat ≠ 0 by omega)
    rw [hn]
    exact ⟨c, _, rfl, hc⟩
  · exact ⟨c, _, rfl, hc⟩
  · exact ⟨c, _, rfl, hc⟩

/-- The unsigned text of a double starts with a digit, and is read as the double. -/
theorem scanUnsigned_repr {x : PyFloat} (hfinite : x.isFinite = true) :
    ∃ d t, x.repr = (if x.neg then [45] else []) ++ d :: t ∧ isDigit d = true ∧
      ∀ rest, Ends rest → scanUnsigned x.neg (d :: t ++ rest) = some (.float x, rest) := by
  by_cases hzero : x.significand = 0
  · refine ⟨48, [46, 48], ?_, rfl, fun rest hrest => ?_⟩
    · rw [PyFloat.repr, if_pos hzero]
      rfl
    · have hread : scanUnsigned x.neg (48 :: 46 :: ([48] ++ rest)) = some (.float (PyFloat.ofRat x.neg 0), rest) := by
        refine scanUnsigned_of rfl (scanFraction_digits (by simp) (by simp [isDigit]) fun a ha => (hrest a ha).1)
          (scanExponent_ends hrest) (by simp) (by simp) ?_
        have hnothing : digitsValue ([48] ++ [48]) = 0 := rfl
        rw [hnothing, Nat.cast_zero, zero_mul]
      rw [PyFloat.ofRat_zero hfinite hzero] at hread
      exact hread
  · obtain ⟨c, digits, point, hshortest, hc, hdigits, hrounds⟩ :=
      PyFloat.exists_shortest (Nat.pos_of_ne_zero hzero)
    have hread := fun rest (hrest : Ends rest) => scanUnsigned_layout x.neg point hc hdigits hrest
    rw [PyFloat.ofRat_of_roundsTo hfinite (Nat.pos_of_ne_zero hzero) hrounds] at hread
    obtain ⟨d, t, hlayout, hd⟩ := layout_head point hdigits
    rw [hlayout] at hread
    refine ⟨d, t, ?_, hd, hread⟩
    rw [PyFloat.repr, if_neg hzero, hshortest, hlayout]
    rfl

/-- **A finite double is read back.** -/
theorem readsBack {x : PyFloat} (hfinite : x.isFinite = true) : ReadsBack x := by
  obtain ⟨d, t, hrepr, hd, hread⟩ := scanUnsigned_repr hfinite
  have hdigit := isDigit_iff.1 hd
  have hwrite : writeFloat x = (if x.neg then [45] else []) ++ d :: t := by
    rw [writeFloat, if_pos hfinite, hrepr]
  cases hneg : x.neg with
  | true =>
      rw [hneg, if_pos rfl, List.singleton_append] at hwrite
      rw [hneg] at hread
      constructor
      · exact ⟨45, d :: t, hwrite, by decide⟩
      · intro steps rest hrest
        rw [hwrite, List.cons_append, List.cons_append, scanOnce_plain (by decide),
          scanPlain_eq_scanNumber (.inr ⟨rfl, d, _, rfl, hd⟩), scanNumber]
        exact hread rest hrest
  | false =>
      rw [hneg, if_neg (by simp), List.nil_append] at hwrite
      rw [hneg] at hread
      constructor
      · refine ⟨d, t, hwrite, ?_⟩
        simp only [List.mem_cons, List.not_mem_nil, or_false, not_or]
        omega
      · intro steps rest hrest
        rw [hwrite, List.cons_append, scanOnce_plain (by simp; omega), scanPlain_eq_scanNumber (.inl hd), scanNumber]
        · exact hread rest hrest
        · intro s heq
          have := (List.cons.inj heq).1
          omega

/-- A canonical value is read back. -/
theorem readable_of_json {okKey : PyStr → Prop} {v : PyVal} (h : Json okKey v) : Readable v := by
  induction h with
  | none => exact .none
  | bool b => exact .bool b
  | int n => exact .int n
  | float x hx => exact .float x (readsBack hx)
  | str s => exact .str s
  | list xs _ ih => exact .list xs ih
  | dict items sorted keys _ ih => exact .dict items sorted (fun p hp => (keys p hp).imp fun _ h => h.1) ih

/-- `json.loads` reads back what `json.dumps` has written of a canonical value. -/
theorem loads_write_of_json {st : Style} (hst : st.Simple) {okKey : PyStr → Prop} {v : PyVal}
    (h : Json okKey v) : loads (write st v) = some v := by
  have hread := loads_write hst (readable_of_json h) ends_nil rfl
  rwa [List.append_nil] at hread

end PyJson
