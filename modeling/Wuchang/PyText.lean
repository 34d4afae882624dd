/-
**Text as Python sees it.**

A `str` is a sequence of code points, lone surrogates included, so a text need not have an encoding.
This module has what the verified code does with text: comparison, stripping, case folding as far as
it can be told apart in ASCII, the decimal form of an integer, and the UTF-8 encoding.

Main definitions:

* `Py.PyStr`, `Py.cp` — a text, and the text of a literal;
* `Py.strip`, `Py.foldAscii` — `str.strip`, and `str.casefold` seen from ASCII;
* `Py.encodeUtf8` — `str.encode("utf-8")`, which a lone surrogate makes raise.

Main results:

* `Py.strip_strip` — stripping twice is stripping once;
* `Py.cp_injective` — literals are different when they look different;
* `Py.encodeUtf8_isOk_iff` — a text can be encoded exactly when it has no lone surrogate.
-/

import Wuchang.PyMethod
import Mathlib.Data.List.DropRight
import Mathlib.Data.List.Infix
import Mathlib.Data.List.Lex

set_option relaxedAutoImplicit false
set_option autoImplicit false

namespace Py

variable {ε : Type}

/-- A `str`: its code points. -/
abbrev PyStr := List ℕ

-- named here, so that every module that looks a text up finds the same proof
instance : LawfulBEq PyStr := inferInstance

/-- The text of a literal. -/
def cp (s : String) : PyStr := s.toList.map Char.toNat

theorem cp_injective : Function.Injective cp := by
  intro s t h
  have hchar : Function.Injective Char.toNat := fun a b hab => Char.toNat_inj.1 hab
  exact String.toList_inj.1 (List.map_injective_iff.2 hchar h)

theorem cp_inj {s t : String} : cp s = cp t ↔ s = t := cp_injective.eq_iff

/-! ### Whitespace and case -/

/-- The code points `str.strip` removes. -/
def isSpace (c : ℕ) : Bool :=
  (9 ≤ c && c ≤ 13) || (28 ≤ c && c ≤ 32) || (0x2000 ≤ c && c ≤ 0x200A) ||
    [0x85, 0xA0, 0x1680, 0x2028, 0x2029, 0x202F, 0x205F, 0x3000].contains c

/-- `s.strip()` -/
def strip (s : PyStr) : PyStr := (s.dropWhile isSpace).rdropWhile isSpace

/-- Stripping twice is stripping once. -/
theorem strip_strip (s : PyStr) : strip (strip s) = strip s := by
  have hhead : ∀ t : PyStr, (∀ h : 0 < t.length, ¬isSpace t[0]) →
      (t.rdropWhile isSpace).dropWhile isSpace = t.rdropWhile isSpace := by
    intro t ht
    refine List.dropWhile_eq_self_iff.2 fun hlen => ?_
    have hpre := List.rdropWhile_prefix isSpace (l := t)
    rw [hpre.getElem hlen]
    exact ht (hlen.trans_le hpre.length_le)
  unfold strip
  rw [hhead _ (List.dropWhile_eq_self_iff.1 (List.dropWhile_idempotent isSpace s)),
    List.rdropWhile_idempotent]

/-- One code point of `s.casefold()`, where the folding is ASCII.  Every other folding has a code
point outside ASCII, and so has the code point itself: it is left as it is. -/
def foldCharAscii (c : ℕ) : PyStr :=
  if 65 ≤ c ∧ c ≤ 90 then [c + 32]
  else match c with
  | 0xDF | 0x1E9E => cp "ss"
  | 0x17F => cp "s"
  | 0x212A => cp "k"
  | 0xFB00 => cp "ff"
  | 0xFB01 => cp "fi"
  | 0xFB02 => cp "fl"
  | 0xFB03 => cp "ffi"
  | 0xFB04 => cp "ffl"
  | 0xFB05 | 0xFB06 => cp "st"
  | c => [c]

/-- `s.casefold()`, as far as a comparison with an ASCII text can tell. -/
def foldAscii (s : PyStr) : PyStr := s.flatMap foldCharAscii

/-- `s.lower()`, as far as a comparison with an ASCII text can tell: the Kelvin sign is the only other
code point that is lowered to ASCII. -/
def lowerAscii (s : PyStr) : PyStr :=
  s.map fun c => if 65 ≤ c ∧ c ≤ 90 then c + 32 else if c = 0x212A then 0x6B else c

/-! ### Literals -/

/-- The code points of a literal, read off its bytes when these are ASCII. -/
def codes (s : String) : PyStr :=
  let bytes := s.toByteArray.data.toList
  if bytes.all fun b => b < 128 then bytes.map UInt8.toNat else s.toList.map Char.toNat

theorem bytes_loop (bs : List UInt8) (r : ByteArray) :
    (List.toByteArray.loop bs r).data.toList = r.data.toList ++ bs := by
  induction bs generalizing r with
  | nil => exact (List.append_nil _).symm
  | cons b bs ih =>
      -- one round of the loop pushes the first byte
      change (List.toByteArray.loop bs (r.push b)).data.toList = _
      rw [ih, ByteArray.data_push]
      simp

theorem bytes_ofList (l : List Char) :
    (String.ofList l).toByteArray.data.toList = l.flatMap String.utf8EncodeChar :=
  bytes_loop _ _

/-- A character whose bytes are ASCII is its only byte. -/
theorem utf8EncodeChar_ascii {c : Char} (h : (String.utf8EncodeChar c).all fun b => b < 128) :
    (String.utf8EncodeChar c).map UInt8.toNat = [c.toNat] := by
  have hc : c.val.toNat ≤ 0x7f := by
    by_contra hc
    rw [String.utf8EncodeChar, if_neg hc] at h
    split_ifs at h
    · simp [UInt8.lt_iff_toNat_lt] at h
      omega
    · simp [UInt8.lt_iff_toNat_lt] at h
      omega
    · simp [UInt8.lt_iff_toNat_lt] at h
      omega
  rw [String.utf8EncodeChar, if_pos hc, List.map_singleton, UInt8.toNat_ofNat', Nat.mod_eq_of_lt (by omega)]
  rfl

/-- The kernel evaluates a literal faster by its bytes. -/
theorem cp_eq_codes (s : String) : cp s = codes s := by
  obtain ⟨l, rfl⟩ : ∃ l, s = String.ofList l := ⟨s.toList, by simp⟩
  rw [codes, bytes_ofList]
  split
  · next h =>
      rw [cp, String.toList_ofList]
      induction l with
      | nil => rfl
      | cons c l ih =>
          rw [List.flatMap_cons, List.all_append, Bool.and_eq_true] at h
          rw [List.map_cons, List.flatMap_cons, List.map_append, ih h.2, utf8EncodeChar_ascii h.1]
          rfl
  · rfl
/-! ### Numbers -/

/-- `str(n)` for an integer. -/
def intText (n : ℤ) : PyStr := cp (toString n)

/-! ### UTF-8 -/

/-- A code point without an encoding. -/
def IsSurrogate (c : ℕ) : Prop := 0xD800 ≤ c ∧ c ≤ 0xDFFF

instance (c : ℕ) : Decidable (IsSurrogate c) := inferInstanceAs (Decidable (_ ∧ _))

/-- The bytes of one code point. -/
def utf8Char (c : ℕ) : List UInt8 :=
  if c < 0x80 then [UInt8.ofNat c]
  else if c < 0x800 then [UInt8.ofNat (0xC0 + c / 64), UInt8.ofNat (0x80 + c % 64)]
  else if c < 0x10000 then
    [UInt8.ofNat (0xE0 + c / 4096), UInt8.ofNat (0x80 + c / 64 % 64), UInt8.ofNat (0x80 + c % 64)]
  else
    [UInt8.ofNat (0xF0 + c / 262144), UInt8.ofNat (0x80 + c / 4096 % 64),
      UInt8.ofNat (0x80 + c / 64 % 64), UInt8.ofNat (0x80 + c % 64)]

/-- `s.encode("utf-8")` -/
def encodeUtf8 (s : PyStr) : Except (Raise ε) (List UInt8) :=
  if s.any fun c => IsSurrogate c then .error (.builtin .unicodeEncodeError)
  else .ok (s.flatMap utf8Char)

/-- A text that can be encoded. -/
def Encodable (s : PyStr) : Prop := ∀ c ∈ s, ¬IsSurrogate c

theorem encodeUtf8_ok {s : PyStr} (h : Encodable s) :
    (encodeUtf8 s : Except (Raise ε) _) = .ok (s.flatMap utf8Char) := by
  rw [encodeUtf8, if_neg]
  simpa [Encodable] using h

theorem encodeUtf8_error {s : PyStr} (h : ¬Encodable s) :
    (encodeUtf8 s : Except (Raise ε) _) = .error (.builtin .unicodeEncodeError) := by
  rw [encodeUtf8, if_pos]
  simpa [Encodable] using h

theorem encodeUtf8_isOk_iff {s : PyStr} {b : List UInt8} :
    (encodeUtf8 s : Except (Raise ε) _) = .ok b ↔ Encodable s ∧ b = s.flatMap utf8Char := by
  constructor
  · intro h
    by_cases hs : Encodable s
    · rw [encodeUtf8_ok hs, Except.ok.injEq] at h
      exact ⟨hs, h.symm⟩
    · rw [encodeUtf8_error hs] at h
      cases h
  · rintro ⟨hs, rfl⟩
    exact encodeUtf8_ok hs

@[simp] theorem encodable_nil : Encodable [] := by simp [Encodable]

@[simp] theorem encodable_append {s t : PyStr} :
    Encodable (s ++ t) ↔ Encodable s ∧ Encodable t := by
  simp only [Encodable, List.mem_append, or_imp, forall_and]

@[simp] theorem encodable_cp (s : String) : Encodable (cp s) := by
  intro c hc
  obtain ⟨ch, -, rfl⟩ := List.mem_map.1 hc
  have := ch.valid
  simp only [UInt32.isValidChar, Nat.isValidChar] at this
  unfold IsSurrogate Char.toNat
  omega

@[simp] theorem encodable_intText (n : ℤ) : Encodable (intText n) := encodable_cp _

/-! ### Texts of characters -/

/-- Every code point of a text is a character's. -/
def AreChars (s : PyStr) : Prop := ∀ c ∈ s, ∃ ch : Char, ch.toNat = c

@[simp] theorem areChars_nil : AreChars [] := by simp [AreChars]

@[simp] theorem areChars_append {s t : PyStr} : AreChars (s ++ t) ↔ AreChars s ∧ AreChars t := by
  simp only [AreChars, List.mem_append, or_imp, forall_and]

@[simp] theorem areChars_cp (s : String) : AreChars (cp s) := by
  intro c hc
  obtain ⟨ch, -, rfl⟩ := List.mem_map.1 hc
  exact ⟨ch, rfl⟩

/-- What holds for characters holds for their texts. -/
theorem AreChars.forall {Q : ℕ → Prop} (hQ : ∀ ch : Char, Q ch.toNat) {s : PyStr} (h : AreChars s) :
    ∀ c ∈ s, Q c := by
  intro c hc
  obtain ⟨ch, rfl⟩ := h c hc
  exact hQ ch

/-- A character has an encoding. -/
theorem not_isSurrogate_char (ch : Char) : ¬IsSurrogate ch.toNat :=
  encodable_cp (String.singleton ch) _ (by simp [cp])

end Py
