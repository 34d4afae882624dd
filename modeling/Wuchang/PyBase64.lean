/-
**URL-safe base64 without padding.**

Bytes are written in groups of three, as four characters each; a last group of one or two bytes has two or three
characters.  A text is read in groups of four characters, with the padding that its length asks for.

Main definitions:

* `Py.b64` — `base64.urlsafe_b64encode(raw).decode().rstrip('=')`;
* `Py.unb64` — `base64.urlsafe_b64decode(text + '=' * (-len(text) % 4))`, for a text of the alphabet.

Main results:

* `Py.unb64_b64` — what was written is read back;
* `Py.isUrlChar_b64` — the characters that are written.
-/

import Wuchang.PyText

set_option relaxedAutoImplicit false
set_option autoImplicit false

namespace Py

/-- The character of six bits. -/
def urlChar (n : ℕ) : ℕ :=
  if n < 26 then 65 + n
  else if n < 52 then 71 + n
  else if n < 62 then n - 4
  else if n = 62 then 45 else 95

/-- The six bits of a character. -/
def urlValue (c : ℕ) : Option ℕ :=
  if 65 ≤ c ∧ c < 91 then some (c - 65)
  else if 97 ≤ c ∧ c < 123 then some (c - 71)
  else if 48 ≤ c ∧ c < 58 then some (c + 4)
  else if c = 45 then some 62
  else if c = 95 then some 63
  else none

/-- `[A-Za-z0-9_-]` -/
def isUrlChar (c : ℕ) : Bool := (urlValue c).isSome

/-- `base64.urlsafe_b64encode(raw).decode().rstrip('=')` -/
def b64 : List UInt8 → PyStr
  | [] => []
  | [a] => [urlChar (a.toNat / 4), urlChar (a.toNat % 4 * 16)]
  | [a, b] => [urlChar (a.toNat / 4), urlChar (a.toNat % 4 * 16 + b.toNat / 16), urlChar (b.toNat % 16 * 4)]
  | a :: b :: c :: rest =>
      urlChar (a.toNat / 4) :: urlChar (a.toNat % 4 * 16 + b.toNat / 16) ::
        urlChar (b.toNat % 16 * 4 + c.toNat / 64) :: urlChar (c.toNat % 64) :: b64 rest

/-- `base64.urlsafe_b64decode(text + '=' * (-len(text) % 4))`: one character alone is refused. -/
def unb64 : PyStr → Option (List UInt8)
  | [] => some []
  | [_] => none
  | [a, b] => do
      let x ← urlValue a
      let y ← urlValue b
      pure [UInt8.ofNat (x * 4 + y / 16)]
  | [a, b, c] => do
      let x ← urlValue a
      let y ← urlValue b
      let z ← urlValue c
      pure [UInt8.ofNat (x * 4 + y / 16), UInt8.ofNat (y % 16 * 16 + z / 4)]
  | a :: b :: c :: d :: rest => do
      let x ← urlValue a
      let y ← urlValue b
      let z ← urlValue c
      let w ← urlValue d
      let tail ← unb64 rest
      pure (UInt8.ofNat (x * 4 + y / 16) :: UInt8.ofNat (y % 16 * 16 + z / 4) ::
        UInt8.ofNat (z % 4 * 64 + w) :: tail)

theorem urlValue_urlChar {n : ℕ} (h : n < 64) : urlValue (urlChar n) = some n := by
  unfold urlChar urlValue
  split_ifs <;> first | omega | (rw [Option.some_inj]; omega)

/-- Bits that belong to a byte. -/
theorem ofNat_eq_self {n : ℕ} {a : UInt8} (h : n = a.toNat) : UInt8.ofNat n = a := by
  rw [h, UInt8.ofNat_toNat]

/-- **What was written is read back.** -/
theorem unb64_b64 (raw : List UInt8) : unb64 (b64 raw) = some raw := by
  induction raw using b64.induct with
  | case1 => rfl
  | case2 a =>
      have ha := a.toNat_lt
      rw [b64, unb64, urlValue_urlChar (by omega), urlValue_urlChar (by omega)]
      simp only [Option.bind_eq_bind, Option.bind_some, Option.pure_def]
      rw [ofNat_eq_self (show a.toNat / 4 * 4 + a.toNat % 4 * 16 / 16 = a.toNat by omega)]
  | case3 a b =>
      have ha := a.toNat_lt
      have hb := b.toNat_lt
      rw [b64, unb64, urlValue_urlChar (by omega), urlValue_urlChar (by omega), urlValue_urlChar (by omega)]
      simp only [Option.bind_eq_bind, Option.bind_some, Option.pure_def]
      rw [ofNat_eq_self (show a.toNat / 4 * 4 + (a.toNat % 4 * 16 + b.toNat / 16) / 16 = a.toNat by omega),
        ofNat_eq_self (show (a.toNat % 4 * 16 + b.toNat / 16) % 16 * 16 + b.toNat % 16 * 4 / 4 = b.toNat by omega)]
  | case4 a b c rest ih =>
      have ha := a.toNat_lt
      have hb := b.toNat_lt
      have hc := c.toNat_lt
      rw [b64, unb64, urlValue_urlChar (by omega), urlValue_urlChar (by omega), urlValue_urlChar (by omega),
        urlValue_urlChar (by omega), ih]
      simp only [Option.bind_eq_bind, Option.bind_some, Option.pure_def]
      rw [ofNat_eq_self (show a.toNat / 4 * 4 + (a.toNat % 4 * 16 + b.toNat / 16) / 16 = a.toNat by omega),
        ofNat_eq_self (show (a.toNat % 4 * 16 + b.toNat / 16) % 16 * 16 +
          (b.toNat % 16 * 4 + c.toNat / 64) / 4 = b.toNat by omega),
        ofNat_eq_self (show (b.toNat % 16 * 4 + c.toNat / 64) % 4 * 64 + c.toNat % 64 = c.toNat by omega)]

/-- The characters that are written. -/
theorem isUrlChar_b64 (raw : List UInt8) : ∀ c ∈ b64 raw, isUrlChar c = true := by
  have hchar : ∀ {n}, n < 64 → isUrlChar (urlChar n) = true := by
    intro n hn
    rw [isUrlChar, urlValue_urlChar hn]
    rfl
  induction raw using b64.induct with
  | case1 => exact fun c hc => absurd hc List.not_mem_nil
  | case2 a =>
      have ha := a.toNat_lt
      simp only [b64, List.forall_mem_cons, List.not_mem_nil, IsEmpty.forall_iff, implies_true, and_true]
      exact ⟨hchar (by omega), hchar (by omega)⟩
  | case3 a b =>
      have ha := a.toNat_lt
      have hb := b.toNat_lt
      simp only [b64, List.forall_mem_cons, List.not_mem_nil, IsEmpty.forall_iff, implies_true, and_true]
      exact ⟨hchar (by omega), hchar (by omega), hchar (by omega)⟩
  | case4 a b c rest ih =>
      have ha := a.toNat_lt
      have hb := b.toNat_lt
      have hc := c.toNat_lt
      simp only [b64, List.forall_mem_cons]
      exact ⟨hchar (by omega), hchar (by omega), hchar (by omega), hchar (by omega), ih⟩

theorem isUrlChar_lt {c : ℕ} (h : isUrlChar c = true) : c < 128 := by
  unfold isUrlChar urlValue at h
  split_ifs at h <;> first | omega | cases h

end Py
