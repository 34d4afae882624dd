/-
**SHA-256.**

The digest `hashlib.sha256(b).hexdigest()` that names every state of the verified code.  Nothing is
ever proved about it but its shape: 64 lower-case hexadecimal digits.  In particular no proof rests
on the absence of collisions.

Main definitions:

* `Sha256.digest` — the eight words of the digest;
* `Sha256.hexdigest` — their hexadecimal form;
* `Sha256.hmac` — the keyed digest, in the same form.

Main results:

* `Sha256.isHex64_hexdigest` — the shape of a digest.
-/

import Wuchang.PyText

set_option relaxedAutoImplicit false
set_option autoImplicit false

namespace Sha256

open Py

/-- The round constants. -/
def roundConstants : List UInt32 := [
  0x428a2f98, 0x71374491, 0xb5c0fbcf, 0xe9b5dba5, 0x3956c25b, 0x59f111f1, 0x923f82a4, 0xab1c5ed5,
  0xd807aa98, 0x12835b01, 0x243185be, 0x550c7dc3, 0x72be5d74, 0x80deb1fe, 0x9bdc06a7, 0xc19bf174,
  0xe49b69c1, 0xefbe4786, 0x0fc19dc6, 0x240ca1cc, 0x2de92c6f, 0x4a7484aa, 0x5cb0a9dc, 0x76f988da,
  0x983e5152, 0xa831c66d, 0xb00327c8, 0xbf597fc7, 0xc6e00bf3, 0xd5a79147, 0x06ca6351, 0x14292967,
  0x27b70a85, 0x2e1b2138, 0x4d2c6dfc, 0x53380d13, 0x650a7354, 0x766a0abb, 0x81c2c92e, 0x92722c85,
  0xa2bfe8a1, 0xa81a664b, 0xc24b8b70, 0xc76c51a3, 0xd192e819, 0xd6990624, 0xf40e3585, 0x106aa070,
  0x19a4c116, 0x1e376c08, 0x2748774c, 0x34b0bcb5, 0x391c0cb3, 0x4ed8aa4a, 0x5b9cca4f, 0x682e6ff3,
  0x748f82ee, 0x78a5636f, 0x84c87814, 0x8cc70208, 0x90befffa, 0xa4506ceb, 0xbef9a3f7, 0xc67178f2]

/-- The words of the state. -/
structure State where
  a : UInt32
  b : UInt32
  c : UInt32
  d : UInt32
  e : UInt32
  f : UInt32
  g : UInt32
  h : UInt32

/-- The state before the first block. -/
def initial : State :=
  ⟨0x6a09e667, 0xbb67ae85, 0x3c6ef372, 0xa54ff53a, 0x510e527f, 0x9b05688c, 0x1f83d9ab, 0x5be0cd19⟩

/-- Rotation to the right. -/
def rotr (x : UInt32) (n : UInt32) : UInt32 := (x >>> n) ||| (x <<< (32 - n))

/-- The message with a one bit, zero bits and its length in bits, a multiple of 64 bytes. -/
def pad (msg : List UInt8) : List UInt8 :=
  let bits := msg.length * 8
  msg ++ [0x80] ++ List.replicate ((119 - msg.length % 64) % 64) 0 ++
    (List.range 8).map fun i => UInt8.ofNat (bits / 256 ^ (7 - i) % 256)

/-- The word at the front of four bytes. -/
def word (bytes : List UInt8) : UInt32 :=
  (bytes.take 4).foldl (fun w b => w * 256 + b.toUInt32) 0

/-- The message schedule, extended by `n` words. -/
def schedule (n : ℕ) (w : List UInt32) : List UInt32 :=
  match n with
  | 0 => w
  | n + 1 =>
      let w15 := w.getD (w.length - 15) 0
      let w2 := w.getD (w.length - 2) 0
      let s0 := rotr w15 7 ^^^ rotr w15 18 ^^^ (w15 >>> 3)
      let s1 := rotr w2 17 ^^^ rotr w2 19 ^^^ (w2 >>> 10)
      schedule n (w ++ [w.getD (w.length - 16) 0 + s0 + w.getD (w.length - 7) 0 + s1])

/-- One round. -/
def round (s : State) (kw : UInt32 × UInt32) : State :=
  let s1 := rotr s.e 6 ^^^ rotr s.e 11 ^^^ rotr s.e 25
  let ch := (s.e &&& s.f) ^^^ (~~~s.e &&& s.g)
  let t1 := s.h + s1 + ch + kw.1 + kw.2
  let s0 := rotr s.a 2 ^^^ rotr s.a 13 ^^^ rotr s.a 22
  let maj := (s.a &&& s.b) ^^^ (s.a &&& s.c) ^^^ (s.b &&& s.c)
  ⟨t1 + (s0 + maj), s.a, s.b, s.c, s.d + t1, s.e, s.f, s.g⟩

/-- One block of 64 bytes. -/
def compress (s : State) (block : List UInt8) : State :=
  let w := schedule 48 ((List.range 16).map fun i => word (block.drop (4 * i)))
  let r := (roundConstants.zip w).foldl round s
  ⟨s.a + r.a, s.b + r.b, s.c + r.c, s.d + r.d, s.e + r.e, s.f + r.f, s.g + r.g, s.h + r.h⟩

/-- The state after a message. -/
def digest (msg : List UInt8) : State :=
  let padded := pad msg
  (List.range (padded.length / 64)).foldl (fun s i => compress s ((padded.drop (64 * i)).take 64))
    initial

/-- A lower-case hexadecimal digit. -/
def hexDigit (n : UInt32) : ℕ := if n < 10 then 48 + n.toNat else 87 + n.toNat

/-- The eight hexadecimal digits of a word. -/
def hexWord (w : UInt32) : PyStr :=
  [28, 24, 20, 16, 12, 8, 4, 0].map fun n : UInt32 => hexDigit ((w >>> n) &&& 15)

/-- `hashlib.sha256(msg).hexdigest()` -/
@[irreducible] def hexdigest (msg : List UInt8) : PyStr :=
  let s := digest msg
  [s.a, s.b, s.c, s.d, s.e, s.f, s.g, s.h].flatMap hexWord

/-- `re.fullmatch(r"[0-9a-f]{64}", s)` -/
def isHex64 (s : PyStr) : Bool :=
  s.length = 64 && s.all fun c => (48 ≤ c && c ≤ 57) || (97 ≤ c && c ≤ 102)

theorem hexDigit_range (n : UInt32) :
    (48 ≤ hexDigit (n &&& 15) ∧ hexDigit (n &&& 15) ≤ 57) ∨
      (97 ≤ hexDigit (n &&& 15) ∧ hexDigit (n &&& 15) ≤ 102) := by
  have h : (n &&& 15).toNat ≤ 15 := by
    rw [UInt32.toNat_and]
    exact Nat.and_le_right
  unfold hexDigit
  split
  · next hlt =>
      have : (n &&& 15).toNat < 10 := UInt32.lt_iff_toNat_lt.1 hlt
      omega
  · next hge =>
      have : ¬(n &&& 15).toNat < 10 := fun hlt => hge (UInt32.lt_iff_toNat_lt.2 hlt)
      omega

/-- A digest has 64 lower-case hexadecimal digits. -/
theorem isHex64_hexdigest (msg : List UInt8) : isHex64 (hexdigest msg) := by
  have hword : ∀ w, ∀ c ∈ hexWord w, (48 ≤ c ∧ c ≤ 57) ∨ (97 ≤ c ∧ c ≤ 102) := by
    intro w c hc
    obtain ⟨n, -, rfl⟩ := List.mem_map.1 hc
    exact hexDigit_range _
  unfold hexdigest isHex64
  rw [Bool.and_eq_true, List.all_eq_true]
  refine ⟨by simp [hexWord], fun c hc => ?_⟩
  obtain ⟨w, -, hc⟩ := List.mem_flatMap.1 hc
  simpa using hword w c hc

theorem encodable_hexdigest (msg : List UInt8) : Encodable (hexdigest msg) := by
  have h := isHex64_hexdigest msg
  rw [isHex64, Bool.and_eq_true, List.all_eq_true] at h
  intro c hc
  have hrange := h.2 c hc
  simp only [Bool.or_eq_true, Bool.and_eq_true, decide_eq_true_eq] at hrange
  unfold IsSurrogate
  omega

/-! ### The keyed digest -/

/-- `hashlib.sha256(msg).digest()` -/
@[irreducible] def digestBytes (msg : List UInt8) : List UInt8 :=
  let s := digest msg
  [s.a, s.b, s.c, s.d, s.e, s.f, s.g, s.h].flatMap fun w =>
    ([24, 16, 8, 0] : List UInt32).map fun n => (w >>> n).toUInt8

/-- `hmac.new(secret, msg, hashlib.sha256).hexdigest()` -/
def hmac (secret msg : List UInt8) : PyStr :=
  let block := if secret.length > 64 then digestBytes secret else secret
  let padded := block ++ List.replicate (64 - block.length) 0
  hexdigest (padded.map (· ^^^ 0x5c) ++ digestBytes (padded.map (· ^^^ 0x36) ++ msg))

theorem isHex64_hmac (secret msg : List UInt8) : isHex64 (hmac secret msg) := isHex64_hexdigest _

end Sha256
