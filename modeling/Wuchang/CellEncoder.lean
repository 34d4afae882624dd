/-
**The motion channel encoder.**

`AutoOriginCellEncoder.encode_motion_channel_with_sparse_patch` cuts a channel into segments of 1040
bytes.  For every segment it tries a constant, a pattern of four bytes and an arithmetic row of 52
bytes, keeps the one with the fewest wrong bytes, and falls back to a literal when repairing these
would cost more than the segment itself.  The repairs come last, as sparse patches of at most 255
bytes against the whole channel.

Main definitions:

* `OriginCell.packB`, `OriginCell.packH` — the fields of `struct.pack`, which refuse what does not
  fit;
* `OriginCell.chunksOf` — the slices of a sequence, `xs[i:i + n] for i in range(0, len(xs), n)`;
* `OriginCell.candidates`, `OriginCell.encodeSeg` — one segment;
* `OriginCell.encodeMotionChannelWithSparsePatch` — the encoder.
-/

import Wuchang.CellDecoder
import Mathlib.Data.List.MinMax
import Mathlib.Order.Nat

set_option relaxedAutoImplicit false
set_option autoImplicit false

namespace OriginCell

open Py

/-! ### Fields and slices -/

/-- A value that has to be a byte, or the exception `e`. -/
def byteOr (e : Builtin) (n : ℤ) : Except Fault Bytes :=
  if 0 ≤ n ∧ n < 256 then .ok [UInt8.ofNat n.toNat] else .error (.builtin e)

/-- `struct.pack(">B", n)` -/
def packB (n : ℤ) : Except Fault Bytes := byteOr .structError n

/-- `struct.pack(">H", n)` -/
def packH (n : ℤ) : Except Fault Bytes :=
  if 0 ≤ n ∧ n < 65536 then .ok [UInt8.ofNat (n.toNat / 256), UInt8.ofNat (n.toNat % 256)]
  else .error (.builtin .structError)

/-- `struct.pack(">4B", *p)` -/
def pack4B (p : Bytes) : Except Fault Bytes :=
  if p.length = 4 then .ok p else .error (.builtin .structError)

/-- `[xs[i:i + n] for i in range(0, len(xs), n)]` -/
def chunksOf {α : Type} (n : ℕ) (xs : List α) : List (List α) :=
  (List.range ((xs.length + n - 1) / n)).map fun k => (xs.drop (k * n)).take n

/-- `sum(1 for a, b in zip(xs, ys) if a != b)` -/
def diffs (xs ys : Bytes) : ℕ := (xs.zip ys).countP fun p => p.1 ≠ p.2

/-! ### One segment -/

/-- The byte `v1` a segment is compared with. -/
def constantByte (seg : Bytes) : Except Fault UInt8 := do
  let a ← index seg 0
  if seg.length < 3 then pure a
  else do
    let b ← index seg 1
    let c ← index seg 2
    pure (if a = b ∨ a = c then a else b)

/-- The candidate that repeats one byte: the bytes it yields, and its operation. -/
def constantCand (seg : Bytes) : Except Fault (Bytes × Bytes) := do
  let v1 ← constantByte seg
  let h ← packH seg.length
  pure (mulBytes [v1] seg.length, [4, 1] ++ h ++ [v1])

/-- The first `n` bytes of a segment, unless they differ from the second `n`: then these. -/
def leadingPattern (n : ℕ) (seg : Bytes) : Bytes :=
  if seg.length < 2 * n ∨ seg.take n = (seg.drop n).take n then seg.take n
  else (seg.drop n).take n

/-- The candidate that repeats four bytes. -/
def patternCand (seg : Bytes) : Except Fault (Bytes × Bytes) := do
  let p4 := leadingPattern 4 seg
  let h ← packH (seg.length / 4 : ℕ)
  let p ← pack4B p4
  pure (mulBytes p4 (seg.length / 4), [4, 4] ++ h ++ p)

/-- The candidate that repeats an arithmetic row of 52 bytes. -/
def arithCand (seg : Bytes) : Except Fault (Bytes × Bytes) := do
  let rr := leadingPattern 52 seg
  let st ← index rr 0
  let next ← index rr 1
  let sp := (((next.toNat : ℤ) - st.toNat) % 256).toNat
  let b ← packB (seg.length / 52 : ℕ)
  pure (mulBytes (arithRow st.toNat sp 52) (seg.length / 52),
    [5, st, UInt8.ofNat sp, 52] ++ b)

/-- A candidate that is tried under a condition only. -/
def candWhen (c : Prop) [Decidable c] (cand : Except Fault (Bytes × Bytes)) :
    Except Fault (List (Bytes × Bytes)) :=
  if c then do
    let x ← cand
    pure [x]
  else pure []

/-- The candidates for a segment, in the order of the source. -/
def candidates (seg : Bytes) : Except Fault (List (Bytes × Bytes)) := do
  let c ← constantCand seg
  let p ← candWhen (seg.length ≥ 4 ∧ seg.length % 4 = 0) (patternCand seg)
  let a ← candWhen (seg.length ≥ 52 ∧ seg.length % 52 = 0) (arithCand seg)
  pure (c :: p ++ a)

/-- `min(cands, key=…)`: the first of the candidates with the fewest wrong bytes. -/
def bestCand (seg : Bytes) (cands : List (Bytes × Bytes)) : Except Fault (Bytes × Bytes) :=
  match cands.argmin fun x => diffs x.1 seg with
  | some c => .ok c
  | none => .error (.builtin .valueError)

/-- What is known after some segments: the operations, the bytes they yield, their number. -/
structure Enc where
  bops : Bytes
  rbase : Bytes
  oc : ℕ
  deriving DecidableEq, Repr

/-- One segment. -/
def encodeSeg (e : Enc) (seg : Bytes) : Except Fault Enc := do
  let cands ← candidates seg
  let (bb, bo) ← bestCand seg cands
  let df := diffs bb seg
  if bo.length + df * 3 + ((df + 254) / 255) * 2 < seg.length + 3 then
    pure ⟨e.bops ++ bo, e.rbase ++ bb, e.oc + 1⟩
  else do
    let h ← packH seg.length
    pure ⟨e.bops ++ ([6] ++ h ++ seg), e.rbase ++ seg, e.oc + 1⟩

/-! ### The channel -/

/-- `gdiffs`: the offsets at which the operations yield a wrong byte, with the right one. -/
def globalDiffs (rbase raw : Bytes) : List (ℕ × UInt8) :=
  ((rbase.zip raw).zipIdx).filterMap fun p => if p.1.1 ≠ p.1.2 then some (p.2, p.1.2) else none

/-- One batch of patches. -/
def encodeBatch (e : Enc) (bat : List (ℕ × UInt8)) : Except Fault Enc := do
  let n ← byteOr .valueError bat.length
  let pb ← bat.foldlM (fun pb p => do
    let h ← packH p.1
    pure (pb ++ (h ++ [p.2]))) ([7] ++ n)
  pure { e with bops := e.bops ++ pb, oc := e.oc + 1 }

/-- The bytes of the channel; a single literal when there are too many operations. -/
def assembleChannel (tid : ℤ) (raw : Bytes) (e : Enc) : Except Fault Bytes :=
  if e.oc > 255 then do
    let t ← packB tid
    let h ← packH raw.length
    pure (t ++ [1, 6] ++ h ++ raw)
  else do
    let t ← packB tid
    let o ← packB e.oc
    pure (t ++ o ++ e.bops)

/-- `encode_motion_channel_with_sparse_patch` -/
def encodeMotionChannelWithSparsePatch (tid : ℤ) (raw : Bytes) : Except Fault Bytes := do
  raiseIf (raw = []) "HOLD_EMPTY_INPUT"
  raiseIf (raw.length > 65535) "HOLD_CHANNEL_EXCEEDS_UINT16_OFFSET_SPACE"
  let e ← (chunksOf 1040 raw).foldlM encodeSeg ⟨[], [], 0⟩
  let e ← (chunksOf 255 (globalDiffs e.rbase raw)).foldlM encodeBatch e
  assembleChannel tid raw e

end OriginCell
