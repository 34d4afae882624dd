/-
**JSON texts that are read.**

`json.loads` reads a value from a text.  A string may contain escapes, a number with a fraction or an
exponent is the closest double, of equal keys the last one counts, and white space between the tokens is
skipped.  The readers return what they have read and the rest of the text.

Main definitions:

* `Py.PyFloat.ofRat` — the double that is closest to a rational;
* `PyJson.scanString`, `PyJson.scanNumber`, `PyJson.scanOnce` — a string, a number, a value;
* `PyJson.loads` — `json.loads`;
* `PyJson.Readable` — the values that are read back as they were written.

Main results:

* `PyJson.scanString_quote`, `PyJson.scanNumber_intText` — strings and integers are read back;
* `PyJson.scanOnce_write`, `PyJson.loads_write` — so are values;
* `PyJson.write_injective` — a text stands for one readable value only.
-/

import Wuchang.PyJson
import Mathlib.Data.Int.Log
import Mathlib.Tactic.IntervalCases

set_option relaxedAutoImplicit false
set_option autoImplicit false

namespace Py.PyFloat

/-! ### The closest double -/

/-- The double whose exponent and fraction are the digits of a number; beyond the finite ones it is an
infinity. -/
def ofBits (neg : Bool) (n : ℕ) : PyFloat :=
  if h : n < 2047 * 2 ^ 52 then
    ⟨neg, n / 2 ^ 52, n % 2 ^ 52, by omega, Nat.mod_lt _ (by norm_num)⟩
  else ⟨neg, 2047, 0, by norm_num, by norm_num⟩

/-- The closest integer; of two it is the even one. -/
def roundHalfEven (q : ℚ) : ℕ :=
  let down := ⌊q⌋.toNat
  if 1 / 2 < q - down ∨ (q - down = 1 / 2 ∧ down % 2 = 1) then down + 1 else down

/-- The double that is closest to a rational that is not negative. -/
def ofRat (neg : Bool) (q : ℚ) : PyFloat :=
  if q = 0 then ofBits neg 0
  else
    let e := max (Int.log 2 q) (-1022)
    ofBits neg ((e + 1022).toNat * 2 ^ 52 + roundHalfEven (q / pow2 (e - 52)))

end Py.PyFloat

namespace PyJson

open Py

/-! ### Strings -/

/-- The code point an escape with one letter stands for. -/
def unescape : ℕ → Option ℕ
  | 34 => some 34
  | 92 => some 92
  | 47 => some 47
  | 98 => some 8
  | 102 => some 12
  | 110 => some 10
  | 114 => some 13
  | 116 => some 9
  | _ => none

/-- The value of a hexadecimal digit. -/
def hexValue (c : ℕ) : Option ℕ :=
  if 48 ≤ c ∧ c ≤ 57 then some (c - 48)
  else if 97 ≤ c ∧ c ≤ 102 then some (c - 87)
  else if 65 ≤ c ∧ c ≤ 70 then some (c - 55)
  else none

/-- The value of four hexadecimal digits. -/
def hexUnit (a b c d : ℕ) : Option ℕ := do
  let a ← hexValue a
  let b ← hexValue b
  let c ← hexValue c
  let d ← hexValue d
  pure (((a * 16 + b) * 16 + c) * 16 + d)

/-- A code point is put before a string that is read. -/
def push (c : ℕ) (read : Option (PyStr × PyStr)) : Option (PyStr × PyStr) :=
  read.map fun p => (c :: p.1, p.2)

/-- A string, from behind its opening quote on. -/
def scanString : PyStr → Option (PyStr × PyStr)
  | [] => none
  | 34 :: rest => some ([], rest)
  | 92 :: 117 :: a :: b :: c :: d :: rest =>
      match hexUnit a b c d with
      | none => none
      | some unit =>
          if 0xD800 ≤ unit ∧ unit ≤ 0xDBFF then
            match rest with
            | 92 :: 117 :: a' :: b' :: c' :: d' :: rest' =>
                match hexUnit a' b' c' d' with
                | none => none
                | some low =>
                    -- a pair of surrogates is one code point, a lone one is kept
                    if 0xDC00 ≤ low ∧ low ≤ 0xDFFF then
                      push (0x10000 + (unit - 0xD800) * 0x400 + (low - 0xDC00)) (scanString rest')
                    else push unit (scanString (92 :: 117 :: a' :: b' :: c' :: d' :: rest'))
            | rest => push unit (scanString rest)
          else push unit (scanString rest)
  | 92 :: c :: rest =>
      match unescape c with
      | none => none
      | some e => push e (scanString rest)
  | c :: rest => if c < 32 then none else push c (scanString rest)

/-! ### Numbers -/

/-- A decimal digit. -/
def isDigit (c : ℕ) : Bool := 48 ≤ c && c ≤ 57

/-- The number that decimal digits stand for. -/
def digitsValue (digits : PyStr) : ℕ := digits.foldl (fun n c => 10 * n + (c - 48)) 0

/-- The digits before the point: a zero stands alone. -/
def scanInteger : PyStr → PyStr × PyStr
  | 48 :: rest => ([48], rest)
  | s => (s.takeWhile isDigit, s.dropWhile isDigit)

/-- The digits behind the point, if there are any. -/
def scanFraction (s : PyStr) : PyStr × PyStr :=
  match s with
  | 46 :: rest =>
      if rest.takeWhile isDigit = [] then ([], s)
      else (rest.takeWhile isDigit, rest.dropWhile isDigit)
  | s => ([], s)

/-- The sign of an exponent: whether it is negative, and what follows. -/
def scanSign : PyStr → Bool × PyStr
  | 45 :: rest => (true, rest)
  | 43 :: rest => (false, rest)
  | s => (false, s)

/-- The exponent, if there is one. -/
def scanExponent (s : PyStr) : Option ℤ × PyStr :=
  match s with
  | c :: rest =>
      let (neg, digits) := scanSign rest
      if (c = 101 ∨ c = 69) ∧ digits.takeWhile isDigit ≠ [] then
        let n : ℤ := digitsValue (digits.takeWhile isDigit)
        (some (if neg then -n else n), digits.dropWhile isDigit)
      else (none, s)
  | [] => (none, [])

/-- A number without its sign: an integer, or the double that is closest to a decimal. -/
def scanUnsigned (neg : Bool) (s : PyStr) : Option (PyVal × PyStr) :=
  let (digits, afterDigits) := scanInteger s
  let (fraction, afterFraction) := scanFraction afterDigits
  let (exponent, rest) := scanExponent afterFraction
  if digits = [] then none
  else if fraction = [] ∧ exponent = none then
    some (.int (if neg then -(digitsValue digits : ℤ) else digitsValue digits), rest)
  else
    some (.float (PyFloat.ofRat neg (digitsValue (digits ++ fraction) *
      PyFloat.pow10 (exponent.getD 0 - fraction.length))), rest)

/-- A number. -/
def scanNumber : PyStr → Option (PyVal × PyStr)
  | 45 :: s => scanUnsigned true s
  | s => scanUnsigned false s

/-! ### Values -/

/-- White space is skipped. -/
def skipSpace (s : PyStr) : PyStr := s.dropWhile fun c => c = 32 || c = 9 || c = 10 || c = 13

/-- The names of values. -/
def constants : List (PyStr × PyVal) := [
  (cp "null", .none), (cp "true", .bool true), (cp "false", .bool false),
  (cp "NaN", .float ⟨false, 2047, 2 ^ 51, by norm_num, by norm_num⟩),
  (cp "Infinity", .float ⟨false, 2047, 0, by norm_num, by norm_num⟩),
  (cp "-Infinity", .float ⟨true, 2047, 0, by norm_num, by norm_num⟩)]

/-- A value that has a name, or a number. -/
def scanPlain (s : PyStr) : Option (PyVal × PyStr) :=
  match constants.find? fun p => p.1.isPrefixOf s with
  | some p => some (p.2, s.drop p.1.length)
  | none => scanNumber s

mutual

/-- A value; every value inside it takes one of the steps that are left. -/
def scanOnce (steps : ℕ) (s : PyStr) : Option (PyVal × PyStr) :=
  match steps with
  | 0 => none
  | steps + 1 =>
      match s with
      | 34 :: rest => (scanString rest).map fun p => (.str p.1, p.2)
      | 123 :: rest =>
          match skipSpace rest with
          | 125 :: rest => some (.dict [], rest)
          | rest => scanMembers steps [] rest
      | 91 :: rest =>
          match skipSpace rest with
          | 93 :: rest => some (.list [], rest)
          | rest => scanElements steps [] rest
      | s => scanPlain s

/-- The members of an object, from the first that is left on. -/
def scanMembers (steps : ℕ) (items : Items) (s : PyStr) : Option (PyVal × PyStr) :=
  match steps with
  | 0 => none
  | steps + 1 =>
      match s with
      | 34 :: rest =>
          match scanString rest with
          | none => none
          | some (k, rest) =>
              match skipSpace rest with
              | 58 :: rest =>
                  match scanOnce steps (skipSpace rest) with
                  | none => none
                  | some (v, rest) =>
                      match skipSpace rest with
                      | 44 :: rest => scanMembers steps (setKey k v items) (skipSpace rest)
                      | 125 :: rest => some (.dict (setKey k v items), rest)
                      | _ => none
              | _ => none
      | _ => none

/-- The elements of a list, from the first that is left on. -/
def scanElements (steps : ℕ) (xs : List PyVal) (s : PyStr) : Option (PyVal × PyStr) :=
  match steps with
  | 0 => none
  | steps + 1 =>
      match scanOnce steps s with
      | none => none
      | some (x, rest) =>
          match skipSpace rest with
          | 44 :: rest => scanElements steps (xs ++ [x]) (skipSpace rest)
          | 93 :: rest => some (.list (xs ++ [x]), rest)
          | _ => none

end

/-- `json.loads(s)` -/
def loads (s : PyStr) : Option PyVal :=
  match scanOnce (s.length + 1) (skipSpace s) with
  | some (v, rest) => if skipSpace rest = [] then some v else none
  | none => none

/-! ### Strings are read back -/

@[simp] theorem push_some (c : ℕ) (s rest : PyStr) : push c (some (s, rest)) = some (c :: s, rest) := rfl

theorem scanString_plain {c : ℕ} (hquote : c ≠ 34) (hback : c ≠ 92) (hcontrol : 32 ≤ c) (s : PyStr) :
    scanString (c :: s) = push c (scanString s) := by
  rw [scanString]
  · rw [if_neg (by omega)]
  · exact hquote
  · intro a b c' d rest hc
    exact absurd hc hback
  · intro c' rest hc
    exact absurd hc hback

theorem escapeChar_plain {c : ℕ} (hquote : c ≠ 34) (hback : c ≠ 92) (hcontrol : 32 ≤ c) :
    escapeChar c = [c] := by
  unfold escapeChar
  split
  · exact absurd rfl hquote
  · exact absurd rfl hback
  · omega
  · omega
  · omega
  · omega
  · omega
  · rw [if_neg (by omega)]

/-- An escape with four digits is read, if it is no surrogate. -/
theorem scanString_unit {a b c d unit : ℕ} (h : hexUnit a b c d = some unit) (hunit : unit < 0xD800)
    (s : PyStr) : scanString (92 :: 117 :: a :: b :: c :: d :: s) = push unit (scanString s) := by
  rw [scanString, h]
  exact if_neg (by omega)

/-- An escaped code point is read back. -/
theorem scanString_escapeChar (c : ℕ) (s : PyStr) :
    scanString (escapeChar c ++ s) = push c (scanString s) := by
  by_cases hcontrol : c < 32
  · interval_cases c
    all_goals first
      | exact scanString_unit rfl (by norm_num) s
      | rfl
  · by_cases hquote : c = 34
    · subst hquote
      rfl
    · by_cases hback : c = 92
      · subst hback
        rfl
      · rw [escapeChar_plain hquote hback (by omega)]
        exact scanString_plain hquote hback (by omega) s

/-- A string is read back. -/
theorem scanString_quote (s rest : PyStr) :
    scanString (s.flatMap escapeChar ++ 34 :: rest) = some (s, rest) := by
  induction s with
  | nil => rfl
  | cons c s ih => rw [List.flatMap_cons, List.append_assoc, scanString_escapeChar, ih, push_some]

/-! ### Integers are read back -/

/-- No number goes on with the text. -/
def Ends (rest : PyStr) : Prop := ∀ c ∈ rest.head?, isDigit c = false ∧ c ≠ 46 ∧ c ≠ 101 ∧ c ≠ 69

/-- The decimal digits of a number. -/
def natText (n : ℕ) : PyStr := (Nat.toDigits 10 n).map Char.toNat

theorem digitsValue_natText (n : ℕ) : digitsValue (natText n) = n := by
  have h := @Nat.ofDigitChars_ten_toDigits n
  rw [Nat.ofDigitChars_eq_foldl] at h
  rw [digitsValue, natText, List.foldl_map]
  exact h

theorem isDigit_of_mem_natText {n c : ℕ} (h : c ∈ natText n) : isDigit c = true := by
  obtain ⟨d, hd, rfl⟩ := List.mem_map.1 h
  have hdigit := Nat.isDigit_of_mem_toDigits (by norm_num) (by norm_num) hd
  rw [Char.isDigit, Bool.and_eq_true, decide_eq_true_eq, decide_eq_true_eq] at hdigit
  rw [isDigit, Bool.and_eq_true, decide_eq_true_eq, decide_eq_true_eq]
  exact ⟨hdigit.1, hdigit.2⟩

/-- Only zero starts with a zero. -/
theorem natText_eq_cons (n : ℕ) : natText n = [48] ∨ ∃ c s, natText n = c :: s ∧ c ≠ 48 := by
  induction n using Nat.strongRecOn with
  | _ n ih =>
      by_cases hn : n < 10
      · interval_cases n
        · exact .inl rfl
        all_goals exact .inr ⟨_, _, rfl, by decide⟩
      · have hstep : natText n = natText (n / 10) ++ natText (n % 10) := by
          rw [natText, natText, natText, Nat.toDigits_of_base_le (by norm_num) (by omega), List.map_append,
            Nat.toDigits_of_lt_base (Nat.mod_lt n (by norm_num))]
        rcases ih (n / 10) (by omega) with hzero | ⟨c, s, hcons, hc⟩
        · have hvalue := digitsValue_natText (n / 10)
          rw [hzero] at hvalue
          have : n / 10 = 0 := hvalue.symm
          omega
        · exact .inr ⟨c, s ++ natText (n % 10), by rw [hstep, hcons, List.cons_append], hc⟩

theorem takeWhile_digits {s rest : PyStr} (hs : ∀ a ∈ s, isDigit a = true)
    (hrest : ∀ a ∈ rest.head?, isDigit a = false) :
    (s ++ rest).takeWhile isDigit = s ∧ (s ++ rest).dropWhile isDigit = rest := by
  have hhead : rest.takeWhile isDigit = [] ∧ rest.dropWhile isDigit = rest := by
    cases rest with
    | nil => exact ⟨rfl, rfl⟩
    | cons c rest =>
        have hc := hrest c rfl
        rw [List.takeWhile_cons_of_neg (by simp [hc]), List.dropWhile_cons_of_neg (by simp [hc])]
        exact ⟨rfl, rfl⟩
  rw [List.takeWhile_append_of_pos hs, List.dropWhile_append_of_pos hs, hhead.1, hhead.2, List.append_nil]
  exact ⟨rfl, rfl⟩

theorem scanInteger_natText (n : ℕ) {rest : PyStr} (h : Ends rest) :
    scanInteger (natText n ++ rest) = (natText n, rest) := by
  rcases natText_eq_cons n with hzero | ⟨c, s, hcons, hc⟩
  · rw [hzero]
    rfl
  · obtain ⟨htake, hdrop⟩ :=
      takeWhile_digits (fun a ha => isDigit_of_mem_natText ha) fun a ha => (h a ha).1
    rw [hcons] at htake hdrop ⊢
    rw [List.cons_append] at htake hdrop ⊢
    rw [scanInteger, htake, hdrop]
    intro rest' heq
    exact hc (List.cons.inj heq).1

theorem scanExponent_ends {rest : PyStr} (h : Ends rest) : scanExponent rest = (none, rest) := by
  cases rest with
  | nil => rfl
  | cons c rest =>
      obtain ⟨-, -, hlower, hupper⟩ := h c rfl
      rw [scanExponent]
      exact if_neg fun hc => hc.1.elim hlower hupper

/-- Behind an integer there is neither a fraction nor an exponent. -/
theorem scanUnsigned_natText (neg : Bool) (n : ℕ) {rest : PyStr} (h : Ends rest) :
    scanUnsigned neg (natText n ++ rest) = some (.int (if neg then -(n : ℤ) else n), rest) := by
  have hfraction : scanFraction rest = ([], rest) := by
    rw [scanFraction]
    intro rest' heq
    exact (h 46 (by rw [heq]; rfl)).2.1 rfl
  have hne : natText n ≠ [] := by
    rw [natText, Ne, List.map_eq_nil_iff]
    exact Nat.toDigits_ne_nil
  rw [scanUnsigned, scanInteger_natText n h]
  dsimp only
  rw [hfraction]
  dsimp only
  rw [scanExponent_ends h]
  dsimp only
  rw [if_neg hne, if_pos ⟨rfl, rfl⟩, digitsValue_natText]

theorem cp_natRepr (n : ℕ) : cp n.repr = natText n := by
  rw [cp, natText, Nat.toList_repr]

/-- An integer is written with the digits of its magnitude. -/
theorem intText_eq (n : ℤ) : intText n = if n < 0 then 45 :: natText n.natAbs else natText n.natAbs := by
  rw [intText, Int.toString_eq_repr, Int.repr_eq_if]
  by_cases hneg : n < 0
  · rw [if_neg (by omega), if_pos hneg, cp, String.toList_append, List.map_append, ← cp, ← cp, cp_natRepr,
      show (-n).toNat = n.natAbs by omega]
    rfl
  · rw [if_pos (by omega), if_neg hneg, cp_natRepr, show n.toNat = n.natAbs by omega]

/-- Digits start with a digit. -/
theorem natText_head (n : ℕ) : ∃ c s, natText n = c :: s ∧ isDigit c = true := by
  cases h : natText n with
  | nil =>
      rw [natText, List.map_eq_nil_iff] at h
      exact absurd h Nat.toDigits_ne_nil
  | cons c s => exact ⟨c, s, rfl, isDigit_of_mem_natText (by rw [h]; exact List.mem_cons_self)⟩

/-- An integer is read back. -/
theorem scanNumber_intText (n : ℤ) {rest : PyStr} (h : Ends rest) :
    scanNumber (intText n ++ rest) = some (.int n, rest) := by
  rw [intText_eq]
  split_ifs with hneg
  · rw [List.cons_append, scanNumber, scanUnsigned_natText true _ h, if_pos rfl]
    congr
    omega
  · have hread := scanUnsigned_natText false n.natAbs h
    obtain ⟨c, s, hcons, hdigit⟩ := natText_head n.natAbs
    rw [hcons] at hread ⊢
    rw [scanNumber, hread, if_neg (by decide)]
    · congr
      omega
    · intro rest' heq
      rw [(List.cons.inj heq).1] at hdigit
      exact absurd hdigit (by decide)

/-! ### Values are read back -/

/-- A text starts like a value: with no white space, and not with a bracket that closes. -/
def Starts (s : PyStr) : Prop := ∃ c t, s = c :: t ∧ c ∉ [32, 9, 10, 13, 93, 125]

/-- A float is read back. -/
structure ReadsBack (x : PyFloat) : Prop where
  starts : Starts (writeFloat x)
  reads : ∀ steps rest, Ends rest →
    scanOnce (steps + 1) (writeFloat x ++ rest) = some (.float x, rest)

/-- The values that are read back: their dictionaries have sorted texts for keys, and their floats are
read back. -/
inductive Readable : PyVal → Prop
  | none : Readable .none
  | bool (b : Bool) : Readable (.bool b)
  | int (n : ℤ) : Readable (.int n)
  | float (x : PyFloat) (h : ReadsBack x) : Readable (.float x)
  | str (s : PyStr) : Readable (.str s)
  | list (xs : List PyVal) (h : ∀ x ∈ xs, Readable x) : Readable (.list xs)
  | dict (items : Items) (sorted : Sorted items) (keys : ∀ p ∈ items, ∃ s, p.1 = .str s)
      (h : ∀ p ∈ items, Readable p.2) : Readable (.dict items)

/-- A style whose separators are a comma and a colon with spaces behind them, and that escapes no more
than it has to. -/
structure Style.Simple (st : Style) : Prop where
  ascii : st.ensureAscii = false
  item : ∃ n, st.itemSeparator = 44 :: List.replicate n 32
  key : ∃ n, st.keySeparator = 58 :: List.replicate n 32

theorem simple_compact : compact.Simple := ⟨rfl, ⟨0, rfl⟩, ⟨0, rfl⟩⟩

theorem simple_spaced : spaced.Simple := ⟨rfl, ⟨1, rfl⟩, ⟨1, rfl⟩⟩

variable {st : Style}

/-- Spaces before a value are skipped. -/
theorem skipSpace_starts {s : PyStr} (h : Starts s) (n : ℕ) (rest : PyStr) :
    skipSpace (List.replicate n 32 ++ s ++ rest) = s ++ rest := by
  obtain ⟨c, t, rfl, hc⟩ := h
  induction n with
  | zero =>
      rw [skipSpace, List.replicate_zero, List.nil_append, List.cons_append, List.dropWhile_cons_of_neg]
      simp only [List.mem_cons, not_or] at hc
      simp [hc]
  | succ n ih => exact ih

theorem starts_writeText (hst : st.Simple) (s : PyStr) : Starts (writeText st s) := by
  rw [writeText, hst.ascii]
  exact ⟨34, _, rfl, by decide⟩

/-- Every value that is read back starts like one. -/
theorem Readable.starts (hst : st.Simple) {v : PyVal} (h : Readable v) : Starts (write st v) := by
  cases h with
  | none => exact ⟨110, _, rfl, by decide⟩
  | bool b =>
      cases b
      · exact ⟨102, _, rfl, by decide⟩
      · exact ⟨116, _, rfl, by decide⟩
  | int n =>
      rw [write, intText_eq]
      split_ifs
      · exact ⟨45, _, rfl, by decide⟩
      · obtain ⟨c, s, hcons, hdigit⟩ := natText_head n.natAbs
        refine ⟨c, s, hcons, fun hc => ?_⟩
        have hnone : ∀ c ∈ [32, 9, 10, 13, 93, 125], isDigit c = false := by decide
        rw [hnone c hc] at hdigit
        cases hdigit
  | float x hx => exact hx.starts
  | str s => exact starts_writeText hst s
  | list xs _ =>
      cases xs with
      | nil => exact ⟨91, _, rfl, by decide⟩
      | cons x xs => exact ⟨91, _, rfl, by decide⟩
  | dict items _ _ _ =>
      cases items with
      | nil => exact ⟨123, _, rfl, by decide⟩
      | cons p items => exact ⟨123, _, rfl, by decide⟩

/-- The reader reads a value back, whatever follows. -/
def Reads (st : Style) (v : PyVal) : Prop :=
  ∀ steps rest, Ends rest → (write st v).length ≤ steps →
    scanOnce steps (write st v ++ rest) = some (v, rest)

theorem ends_cons {c : ℕ} (h : c ∈ [44, 93, 125]) (rest : PyStr) : Ends (c :: rest) := by
  intro d hd
  obtain rfl : c = d := by simpa using hd
  have hends : ∀ c ∈ [44, 93, 125], isDigit c = false ∧ c ≠ 46 ∧ c ≠ 101 ∧ c ≠ 69 := by decide
  exact hends c h

/-- No name of a value starts with a digit, or with a sign and a digit. -/
theorem scanPlain_eq_scanNumber {c : ℕ} {t : PyStr}
    (h : isDigit c = true ∨ c = 45 ∧ ∃ d u, t = d :: u ∧ isDigit d = true) :
    scanPlain (c :: t) = scanNumber (c :: t) := by
  have hnone : constants.find? (fun p => p.1.isPrefixOf (c :: t)) = none := by
    have hdigit : ∀ d, isDigit d = true → d < 58 := by
      intro d hd
      rw [isDigit, Bool.and_eq_true, decide_eq_true_eq, decide_eq_true_eq] at hd
      omega
    rcases h with hc | ⟨rfl, d, u, rfl, hd⟩
    · have hlt := hdigit c hc
      have hne : c ≠ 45 := by
        rintro rfl
        cases hc
      simp [constants, cp, List.isPrefixOf, show ¬110 = c by omega, show ¬116 = c by omega,
        show ¬102 = c by omega, show ¬78 = c by omega, show ¬73 = c by omega, hne.symm]
    · have hlt := hdigit d hd
      simp [constants, cp, List.isPrefixOf, show ¬73 = d by omega]
  rw [scanPlain, hnone]

theorem scanOnce_plain {c : ℕ} (h : c ∉ [34, 123, 91]) (steps : ℕ) (t : PyStr) :
    scanOnce (steps + 1) (c :: t) = scanPlain (c :: t) := by
  rw [scanOnce]
  all_goals
    intro rest heq
    rw [(List.cons.inj heq).1] at h
    exact absurd h (by decide)

/-- An integer is no name of a value. -/
theorem scanOnce_intText (n : ℤ) (steps : ℕ) {rest : PyStr} (h : Ends rest) :
    scanOnce (steps + 1) (intText n ++ rest) = some (.int n, rest) := by
  have hread := scanNumber_intText n h
  obtain ⟨d, u, hcons, hdigit⟩ := natText_head n.natAbs
  rw [intText_eq, hcons] at hread ⊢
  split_ifs at hread ⊢
  · rw [List.cons_append, List.cons_append] at hread ⊢
    rw [scanOnce_plain (by decide), scanPlain_eq_scanNumber (.inr ⟨rfl, d, _, rfl, hdigit⟩), hread]
  · have hnone : ∀ c ∈ [34, 123, 91], isDigit c = false := by decide
    rw [List.cons_append] at hread ⊢
    rw [scanOnce_plain, scanPlain_eq_scanNumber (.inl hdigit), hread]
    intro hd
    rw [hnone d hd] at hdigit
    cases hdigit

theorem reads_text (hst : st.Simple) (s rest : PyStr) :
    ∃ t, writeText st s ++ rest = 34 :: t ∧ scanString t = some (s, rest) := by
  rw [writeText, hst.ascii, if_neg (by decide)]
  refine ⟨s.flatMap escapeChar ++ 34 :: rest, ?_, scanString_quote s rest⟩
  rw [quote, List.append_assoc, List.append_assoc]
  rfl

/-- A list that is not empty is read element by element. -/
theorem scanOnce_list {s : PyStr} (h : Starts s) (steps : ℕ) (rest : PyStr) :
    scanOnce (steps + 1) (91 :: (s ++ rest)) = scanElements steps [] (s ++ rest) := by
  have hskip := skipSpace_starts h 0 rest
  rw [List.replicate_zero, List.nil_append] at hskip
  rw [scanOnce, hskip]
  obtain ⟨c, t, rfl, hc⟩ := h
  rw [List.cons_append]
  split
  · next heq =>
      rw [(List.cons.inj heq).1] at hc
      exact absurd hc (by decide)
  · rfl

/-- An object that is not empty is read member by member. -/
theorem scanOnce_dict {s : PyStr} (h : Starts s) (steps : ℕ) (rest : PyStr) :
    scanOnce (steps + 1) (123 :: (s ++ rest)) = scanMembers steps [] (s ++ rest) := by
  have hskip := skipSpace_starts h 0 rest
  rw [List.replicate_zero, List.nil_append] at hskip
  rw [scanOnce, hskip]
  obtain ⟨c, t, rfl, hc⟩ := h
  rw [List.cons_append]
  split
  · next heq =>
      rw [(List.cons.inj heq).1] at hc
      exact absurd hc (by decide)
  · rfl

/-- The elements of a list are read back. -/
theorem scanElements_write (hst : st.Simple) {xs : List PyVal} {x : PyVal}
    (hstart : ∀ y ∈ x :: xs, Starts (write st y))
    (hreads : ∀ y ∈ x :: xs, Reads st y) (acc : List PyVal) (rest : PyStr) {steps : ℕ}
    (hsteps : (write st x ++ writeList st xs).length < steps) :
    scanElements steps acc (write st x ++ writeList st xs ++ 93 :: rest) =
      some (.list (acc ++ x :: xs), rest) := by
  induction xs generalizing x acc steps with
  | nil =>
      obtain ⟨steps, rfl⟩ := Nat.exists_eq_succ_of_ne_zero (Nat.ne_of_gt (Nat.zero_lt_of_lt hsteps))
      rw [writeList, List.append_nil] at hsteps ⊢
      rw [scanElements, hreads x List.mem_cons_self steps _ (ends_cons (by decide) rest) (by omega)]
      rfl
  | cons y ys ih =>
      obtain ⟨steps, rfl⟩ := Nat.exists_eq_succ_of_ne_zero (Nat.ne_of_gt (Nat.zero_lt_of_lt hsteps))
      obtain ⟨n, hitem⟩ := hst.item
      rw [List.forall_mem_cons] at hstart hreads
      rw [writeList, hitem, List.cons_append, List.cons_append] at hsteps ⊢
      simp only [List.length_append, List.length_cons] at hsteps
      have hhead : Ends (44 :: (List.replicate n 32 ++ write st y ++ writeList st ys) ++ 93 :: rest) :=
        ends_cons (by decide) _
      rw [scanElements, List.append_assoc, hreads.1 steps _ hhead (by omega)]
      have hskip := skipSpace_starts (hstart.2 y List.mem_cons_self) n (writeList st ys ++ 93 :: rest)
      have hrest := @ih y hstart.2 hreads.2 (acc ++ [x]) steps (by rw [List.length_append]; omega)
      show scanElements steps (acc ++ [x]) (skipSpace
        (List.replicate n 32 ++ write st y ++ writeList st ys ++ 93 :: rest)) = _
      rw [List.append_assoc, hskip, ← List.append_assoc, hrest, List.append_assoc]
      rfl

/-- One member is read back, and what follows decides how the object goes on. -/
theorem scanMembers_member (hst : st.Simple) (k : PyStr) {v : PyVal} (hstart : Starts (write st v))
    (hreads : Reads st v) (acc : Items) {next : PyStr} (hnext : Ends next) {steps : ℕ}
    (hsteps : (write st v).length ≤ steps) :
    scanMembers (steps + 1) acc (writeText st k ++ st.keySeparator ++ write st v ++ next) =
      match skipSpace next with
      | 44 :: rest => scanMembers steps (setKey k v acc) (skipSpace rest)
      | 125 :: rest => some (.dict (setKey k v acc), rest)
      | _ => none := by
  obtain ⟨m, hkey⟩ := hst.key
  obtain ⟨t, htext, hscan⟩ := reads_text hst k (st.keySeparator ++ write st v ++ next)
  have hskip : skipSpace (st.keySeparator ++ write st v ++ next) =
      58 :: (List.replicate m 32 ++ write st v ++ next) := by
    rw [hkey]
    rfl
  rw [List.append_assoc, List.append_assoc, ← List.append_assoc st.keySeparator, htext, scanMembers]
  simp only [hscan, hskip]
  rw [skipSpace_starts hstart m next, hreads steps next hnext hsteps]

theorem lt_of_sorted {acc items : Items} {p : PyKey × PyVal} (h : Sorted (acc ++ p :: items)) :
    ∀ q ∈ acc, q.1.lt p.1 := by
  rw [Sorted, List.map_append, List.pairwise_append] at h
  exact fun q hq => h.2.2 q.1 (List.mem_map_of_mem hq) p.1 List.mem_cons_self

/-- The members of an object are read back. -/
theorem scanMembers_write (hst : st.Simple) {items : Items} {k : PyStr} {v : PyVal}
    (hkeys : ∀ p ∈ items, ∃ s, p.1 = .str s)
    (hstart : ∀ p ∈ (.str k, v) :: items, Starts (write st p.2))
    (hreads : ∀ p ∈ (.str k, v) :: items, Reads st p.2) {acc : Items}
    (hsorted : Sorted (acc ++ (.str k, v) :: items)) (rest : PyStr) {steps : ℕ}
    (hsteps : (writeText st k ++ st.keySeparator ++ write st v ++ writeItems st items).length < steps) :
    scanMembers steps acc
        (writeText st k ++ st.keySeparator ++ write st v ++ writeItems st items ++ 125 :: rest) =
      some (.dict (acc ++ (.str k, v) :: items), rest) := by
  induction items generalizing k v acc steps with
  | nil =>
      obtain ⟨steps, rfl⟩ := Nat.exists_eq_succ_of_ne_zero (Nat.ne_of_gt (Nat.zero_lt_of_lt hsteps))
      simp only [List.length_append] at hsteps
      rw [writeItems, List.append_nil, scanMembers_member hst k (hstart _ List.mem_cons_self)
        (hreads _ List.mem_cons_self) acc (ends_cons (by decide) rest) (by dsimp only; omega)]
      have hset : setKey k v acc = acc ++ [(.str k, v)] := setKey_of_lt (lt_of_sorted hsorted)
      rw [← hset]
      rfl
  | cons p items ih =>
      obtain ⟨steps, rfl⟩ := Nat.exists_eq_succ_of_ne_zero (Nat.ne_of_gt (Nat.zero_lt_of_lt hsteps))
      obtain ⟨n, hitem⟩ := hst.item
      obtain ⟨m, hkey⟩ := hst.key
      obtain ⟨⟨l, hl⟩, hrestKeys⟩ := List.forall_mem_cons.1 hkeys
      obtain ⟨pk, w⟩ := p
      subst hl
      rw [List.forall_mem_cons] at hstart hreads
      have hset : setKey k v acc = acc ++ [(.str k, v)] := setKey_of_lt (lt_of_sorted hsorted)
      have hsorted' : Sorted (acc ++ [(.str k, v)] ++ (.str l, w) :: items) := by
        rw [List.append_assoc]
        exact hsorted
      have hlen : 0 < st.keySeparator.length := by
        rw [hkey]
        exact Nat.succ_pos _
      simp only [writeItems, writeKey, List.length_append] at hsteps
      have hrest := @ih l w hrestKeys hstart.2 hreads.2 _ hsorted' steps
        (by simp only [List.length_append]; omega)
      have htext := starts_writeText hst l
      have hskip := skipSpace_starts htext n
        (st.keySeparator ++ write st w ++ writeItems st items ++ 125 :: rest)
      have hnext : Ends (writeItems st ((.str l, w) :: items) ++ 125 :: rest) := by
        rw [writeItems, hitem]
        exact ends_cons (by decide) _
      rw [List.append_assoc, scanMembers_member hst k hstart.1 hreads.1 acc hnext (by dsimp only; omega)]
      simp only [List.append_assoc] at hrest hskip
      simp only [writeItems, writeKey, hitem, List.append_assoc]
      rw [hset]
      show scanMembers steps (acc ++ [(.str k, v)]) (skipSpace (List.replicate n 32 ++ _)) = _
      rw [hskip, hrest]
      rfl

/-- A value is read back. -/
theorem scanOnce_write (hst : st.Simple) {v : PyVal} (h : Readable v) : Reads st v := by
  induction v using PyVal.induct with
  | none =>
      rintro (_ | steps) rest hrest hsteps
      · cases hsteps
      · rfl
  | bool b =>
      rintro (_ | steps) rest hrest hsteps
      · cases b <;> cases hsteps
      · cases b <;> rfl
  | int n =>
      rintro (_ | steps) rest hrest hsteps
      · obtain ⟨c, t, hcons, -⟩ := h.starts hst
        rw [hcons] at hsteps
        cases hsteps
      · exact scanOnce_intText n steps hrest
  | float x =>
      cases h with
      | float _ hx =>
          rintro (_ | steps) rest hrest hsteps
          · obtain ⟨c, t, hcons, -⟩ := hx.starts
            rw [write, hcons] at hsteps
            cases hsteps
          · exact hx.reads steps rest hrest
  | str s =>
      rintro (_ | steps) rest hrest hsteps
      · obtain ⟨c, t, hcons, -⟩ := h.starts hst
        rw [hcons] at hsteps
        cases hsteps
      · obtain ⟨t, htext, hscan⟩ := reads_text hst s rest
        rw [write, htext, scanOnce, hscan]
        rfl
  | list xs ih =>
      cases h with
      | list _ hxs =>
          rintro (_ | steps) rest hrest hsteps
          · cases xs <;> simp [write, cp] at hsteps
          · cases xs with
            | nil => rfl
            | cons x xs =>
                have hstart : ∀ y ∈ x :: xs, Starts (write st y) := fun y hy => (hxs y hy).starts hst
                have hreads : ∀ y ∈ x :: xs, Reads st y := fun y hy => ih y hy (hxs y hy)
                have htext : write st (.list (x :: xs)) ++ rest =
                    91 :: (write st x ++ (writeList st xs ++ 93 :: rest)) := by
                  rw [write, List.append_assoc, List.append_assoc, List.append_assoc]
                  rfl
                have hlen : (write st x ++ writeList st xs).length < steps := by
                  simp only [write, List.length_append, cp, List.length_map, String.length_toList] at hsteps
                  rw [List.length_append]
                  change 1 + _ + _ + 1 ≤ _ at hsteps
                  omega
                have hread := scanElements_write hst hstart hreads [] rest hlen
                rw [htext, scanOnce_list (hstart x List.mem_cons_self), ← List.append_assoc, hread]
                rfl
  | dict items ih =>
      cases h with
      | dict _ hsorted hkeys hvals =>
          rintro (_ | steps) rest hrest hsteps
          · cases items <;> simp [write, cp] at hsteps
          · cases items with
            | nil => rfl
            | cons p items =>
                obtain ⟨⟨k, hk⟩, hrestKeys⟩ := List.forall_mem_cons.1 hkeys
                obtain ⟨pk, v⟩ := p
                subst hk
                have hstart : ∀ p ∈ (.str k, v) :: items, Starts (write st p.2) :=
                  fun p hp => (hvals p hp).starts hst
                have hreads : ∀ p ∈ (.str k, v) :: items, Reads st p.2 := fun p hp => ih p hp (hvals p hp)
                have htext : write st (.dict ((.str k, v) :: items)) ++ rest = 123 ::
                    (writeText st k ++ (st.keySeparator ++ (write st v ++ (writeItems st items ++ 125 :: rest)))) := by
                  simp only [write, writeKey, List.append_assoc]
                  rfl
                have hlen : (writeText st k ++ st.keySeparator ++ write st v ++ writeItems st items).length <
                    steps := by
                  simp only [write, writeKey, List.length_append, cp, List.length_map, String.length_toList]
                    at hsteps ⊢
                  change 1 + _ + _ + _ + _ + 1 ≤ _ at hsteps
                  omega
                have hread := @scanMembers_write st hst items k v hrestKeys hstart hreads [] hsorted rest steps hlen
                simp only [List.append_assoc] at hread
                rw [htext, scanOnce_dict (starts_writeText hst k), hread]
                rfl
  | other => cases h

/-- `json.loads` reads a value back that `json.dumps` has written, with white space behind it. -/
theorem loads_write (hst : st.Simple) {v : PyVal} (h : Readable v) {space : PyStr} (hends : Ends space)
    (hspace : skipSpace space = []) : loads (write st v ++ space) = some v := by
  have hread := scanOnce_write hst h ((write st v ++ space).length + 1) space hends
    (by rw [List.length_append]; omega)
  have hskip := skipSpace_starts (h.starts hst) 0 space
  rw [List.replicate_zero, List.nil_append] at hskip
  rw [loads, hskip, hread]
  exact if_pos hspace

theorem ends_nil : Ends [] := fun c hc => by cases hc

/-- A text stands for one readable value only. -/
theorem write_injective (hst : st.Simple) {v w : PyVal} (hv : Readable v) (hw : Readable w)
    (h : write st v = write st w) : v = w := by
  have hread := loads_write hst hv ends_nil rfl
  rw [h, loads_write hst hw ends_nil rfl, Option.some.injEq] at hread
  exact hread.symm

end PyJson
