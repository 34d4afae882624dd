/-
**Floats and their shortest decimal form.**

A `float` is an IEEE 754 double.  The verified code does two things with one: it compares it with
other numbers, which it does by the exact value, and it writes it down, which `repr` does with the
fewest digits that are still rounded back to the same double.  Both are computed here with exact
rationals.

Main definitions:

* `Py.PyFloat` — a double by its sign, exponent and fraction;
* `Py.PyFloat.value` — the exact value of a finite double;
* `Py.PyFloat.repr` — `float.__repr__`.
-/

import Wuchang.PyText
import Mathlib.Data.Rat.Floor

set_option relaxedAutoImplicit false
set_option autoImplicit false

namespace Py

/-- A `float`: the fields of an IEEE 754 double. -/
structure PyFloat where
  neg : Bool
  expo : ℕ
  frac : ℕ
  expo_lt : expo < 2048
  frac_lt : frac < 2 ^ 52
  deriving DecidableEq, Repr

namespace PyFloat

-- what the zeros that are written in definitions need
theorem expo_zero : 0 < 2048 := by decide

theorem frac_zero : 0 < 2 ^ 52 := by decide

/-- `math.isfinite(x)` -/
def isFinite (x : PyFloat) : Bool := x.expo < 2047

/-- A power of two. -/
def pow2 (e : ℤ) : ℚ := if 0 ≤ e then 2 ^ e.toNat else 1 / 2 ^ (-e).toNat

/-- A power of ten. -/
def pow10 (e : ℤ) : ℚ := if 0 ≤ e then 10 ^ e.toNat else 1 / 10 ^ (-e).toNat

/-- The integer significand. -/
def significand (x : PyFloat) : ℕ := if x.expo = 0 then x.frac else 2 ^ 52 + x.frac

/-- The distance of neighbouring doubles, as a power of two. -/
def ulpExp (x : PyFloat) : ℤ := (max 1 x.expo : ℕ) - 1075

/-- The magnitude of a finite double. -/
def magnitude (x : PyFloat) : ℚ := x.significand * pow2 x.ulpExp

/-- The value of a finite double. -/
def value (x : PyFloat) : ℚ := if x.neg then -x.magnitude else x.magnitude

/-! ### The shortest digits -/

/-- A decimal is rounded to the double: it lies between the midpoints to the neighbours, or on one
of them when the significand is even. -/
def roundsTo (x : PyFloat) (d : ℚ) : Bool :=
  let ulp := pow2 x.ulpExp
  let hi := x.magnitude + ulp / 2
  let lo := x.magnitude - (if x.frac = 0 ∧ 1 < x.expo then ulp / 4 else ulp / 2)
  if x.significand % 2 = 0 then lo ≤ d && d ≤ hi else lo < d && d < hi

/-- The position of the decimal point: the `k` with `10 ^ (k - 1) ≤ d < 10 ^ k`, for a positive `d`
in the range of doubles. -/
def pointOf (d : ℚ) : ℤ :=
  if 1 ≤ d then (Nat.toDigits 10 ⌊d⌋.toNat).length
  else match (List.range 400).find? fun n => 1 ≤ d * 10 ^ n with
  | some n => 1 - n
  | none => 0

/-- The decimal with `p` digits that is closest to the double among those rounded to it. -/
def digitsAt (x : PyFloat) (p : ℕ) : Option ℕ :=
  let unit := pow10 (pointOf x.magnitude - p)
  let down := ⌊x.magnitude / unit⌋.toNat
  let below := x.magnitude - down * unit
  let above := (down + 1) * unit - x.magnitude
  match x.roundsTo (down * unit), x.roundsTo ((down + 1) * unit) with
  | true, true =>
      if below < above ∨ (below = above ∧ down % 2 = 0) then some down else some (down + 1)
  | true, false => some down
  | false, true => some (down + 1)
  | false, false => none

/-- The shortest digits of a non-zero double, and the position of its decimal point. -/
def shortest (x : PyFloat) : PyStr × ℤ :=
  match (List.range' 1 17).findSome? fun p => (x.digitsAt p).map fun d => (p, d) with
  | some (p, d) =>
      let text := (Nat.toDigits 10 d).map Char.toNat
      (text.rdropWhile (· == 48), pointOf x.magnitude + text.length - p)
  | none => ([], 0)

/-- A run of the digit zero. -/
def zeros (n : ℕ) : PyStr := List.replicate n 48

/-- The exponent of a number in scientific form, with its sign and at least two digits. -/
def exponentText (e : ℤ) : PyStr :=
  let digits := (Nat.toDigits 10 e.natAbs).map Char.toNat
  (if e < 0 then cp "-" else cp "+") ++ zeros (2 - digits.length) ++ digits

/-- Digits and the position of the decimal point, laid out as `repr` does. -/
def layout (digits : PyStr) (point : ℤ) : PyStr :=
  if -4 < point ∧ point ≤ 16 then
    if point ≤ 0 then cp "0." ++ zeros (-point).toNat ++ digits
    else if (digits.length : ℤ) ≤ point then
      digits ++ zeros (point - digits.length).toNat ++ cp ".0"
    else digits.take point.toNat ++ cp "." ++ digits.drop point.toNat
  else
    digits.take 1 ++ (if digits.length ≤ 1 then [] else cp "." ++ digits.drop 1) ++ cp "e" ++
      exponentText (point - 1)

/-- `float.__repr__` -/
def repr (x : PyFloat) : PyStr :=
  (if x.neg then cp "-" else []) ++
    if x.significand = 0 then cp "0.0" else layout x.shortest.1 x.shortest.2

/-! ### Its characters -/

theorem areChars_digits (n : ℕ) : AreChars ((Nat.toDigits 10 n).map Char.toNat) := by
  simpa [cp] using areChars_cp (String.ofList (Nat.toDigits 10 n))

theorem areChars_zeros (n : ℕ) : AreChars (zeros n) := by
  intro c hc
  rw [List.eq_of_mem_replicate hc]
  exact ⟨'0', rfl⟩

theorem areChars_sublist {s t : PyStr} (h : s.Sublist t) (ht : AreChars t) : AreChars s :=
  fun c hc => ht c (h.mem hc)

/-- A float is written in characters. -/
theorem areChars_repr (x : PyFloat) : AreChars x.repr := by
  have hdigits : AreChars x.shortest.1 := by
    unfold shortest
    split
    · exact areChars_sublist (List.rdropWhile_prefix _ _).sublist (areChars_digits _)
    · exact areChars_nil
  have hexp : ∀ e, AreChars (exponentText e) := by
    intro e
    unfold exponentText
    split <;> simp [areChars_zeros, areChars_digits]
  have hlayout : ∀ point, AreChars (layout x.shortest.1 point) := by
    intro point
    have htake := fun n => areChars_sublist (List.take_sublist n _) hdigits
    have hdrop := fun n => areChars_sublist (List.drop_sublist n _) hdigits
    unfold layout
    split_ifs <;> simp only [areChars_append, areChars_cp, areChars_nil, areChars_zeros,
      hdigits, htake, hdrop, hexp, and_self]
  unfold repr
  split_ifs <;> simp [hlayout]

end PyFloat

end Py
