/-
**The universal origin cell decoder: a packet is a program that rebuilds byte channels.**

`universal_origin_cell_codec_v2.py` defines a binary format of seven opcodes.  A *cold* packet
(magic `8E`) carries a bundle of look-up tables and templates and then a multiplexed program; a
*warm* packet (magic `8D`) is the program alone and runs on the tables of the session.  This module
is the decoder as the source has it: the cursor of the source, a position in a buffer, is the list
of the bytes that are still unread, and an access that the interpreter could refuse (a missing
dictionary key, an index out of range) is written as one, so that its absence is a theorem.

Main definitions:

* `OriginCell.readB`, `OriginCell.readH`, `OriginCell.readBs` — the reads of `_read`;
* `OriginCell.parseBundle` — `_parse_bundle`;
* `OriginCell.decodeOp`, `OriginCell.decodeMux` — one instruction, and the body of `_decode_mux`;
* `OriginCell.Zlib`, `OriginCell.strictZlib` — the inflater as the code uses it;
* `OriginCell.Decoder`, `OriginCell.decode` — the decoder object and its method.
-/

import Wuchang.PyMethod

set_option relaxedAutoImplicit false
set_option autoImplicit false

namespace OriginCell

open Py

/-- A `bytes` object. -/
abbrev Bytes := List UInt8

/-- An exception of the codec: `OriginCellHold` with its code, or one of the interpreter. -/
abbrev Fault := Raise String

/-- A parser over a buffer; the state is the part of the buffer that is still unread. -/
abbrev Cursor := EStateM Fault Bytes

/-- Look-up tables by id, in the order in which the dictionary received them. -/
abbrev Luts := List (ℕ × List Bytes)

/-- Templates by id: a code below zero names a variable, any other an entry of the table. -/
abbrev Tpls := List (ℕ × List ℤ)

/-- The decoded channels by target id. -/
abbrev Channels := List (ℕ × Bytes)

/-- The magic byte of a warm packet, and of the program inside a cold one. -/
def magicWarm : ℕ := 0x8D

/-- The magic byte of a cold packet. -/
def magicCold : ℕ := 0x8E

/-- The opcodes `ALLOWED_OPS`. -/
def allowedOps : List ℕ := [1, 2, 3, 4, 5, 6, 7]

/-! ### Reading -/

/-- `_read(buf, pos, ">B")`.  A read of several fields is the sequence of its fields: the only
error it has is the same for each of them. -/
def readB : Cursor ℕ := fun buf =>
  match buf with
  | b :: rest => .ok b.toNat rest
  | [] => .error (.own "HOLD_PACKET_TRUNCATED") []

/-- `_read(buf, pos, ">H")`, big-endian. -/
def readH : Cursor ℕ := do
  let hi ← readB
  let lo ← readB
  pure (hi * 256 + lo)

/-- `_read(buf, pos, f">{n}B")` -/
def readBs : ℕ → Cursor (List ℕ)
  | 0 => pure []
  | n + 1 => do
      let b ← readB
      let bs ← readBs n
      pure (b :: bs)

/-- The value of a byte read with the format `b`. -/
def signed (b : ℕ) : ℤ := if b < 128 then b else b - 256

/-- `buf[pos:pos + n]`, after which the cursor stands at `pos + n`. -/
def slice (n : ℕ) : Cursor Bytes := fun buf => .ok (buf.take n) (buf.drop n)

/-- The number of unread bytes, `len(buf) - pos`. -/
def unread : Cursor ℕ := fun buf => .ok buf.length buf

/-- `data * n` for a `bytes` object. -/
def mulBytes (data : Bytes) (n : ℕ) : Bytes := (List.replicate n data).flatten

/-! ### The substrate bundle -/

/-- One entry of a look-up table. -/
def parseEntry (ents : List Bytes) : Cursor (List Bytes) := do
  let L ← readB
  let left ← unread
  raiseIf (L < 1 ∨ left < L) "HOLD_LUT_ENTRY_TRUNCATED"
  let ent ← slice L
  pure (ents ++ [ent])

/-- One look-up table of the bundle. -/
def parseLut (nl : Luts) : Cursor Luts := do
  let lid ← readB
  let ec ← readB
  raiseIf (lid ∈ nl.map Prod.fst ∨ ec < 1) "HOLD_INVALID_OR_DUPLICATE_LUT"
  let ents ← times ec parseEntry []
  pure (nl ++ [(lid, ents)])

/-- One template of the bundle. -/
def parseTpl (nt : Tpls) : Cursor Tpls := do
  let tid ← readB
  let tl ← readB
  raiseIf (tid ∈ nt.map Prod.fst ∨ tl < 1) "HOLD_INVALID_OR_DUPLICATE_TEMPLATE"
  let vals ← readBs tl
  pure (nt ++ [(tid, vals.map signed)])

/-- `_parse_bundle` -/
def parseBundle : Cursor (Luts × Tpls) := do
  let lc ← readB
  raiseIf (lc < 1) "HOLD_EMPTY_BUNDLE"
  let nl ← times lc parseLut []
  let tc ← readB
  let nt ← times tc parseTpl []
  let left ← unread
  raiseIf (left ≠ 0) "HOLD_SUBSTRATE_BUNDLE_TRAILING_BYTES"
  pure (nl, nt)

/-! ### The instructions -/

/-- The coordinate that one code of a template stands for, given one record. -/
def templateIndex (cc : ℕ) (r : List ℕ) (c : ℤ) : Except Fault ℕ :=
  if c < 0 then do
    let vi := (-c - 1).toNat
    raiseIf (vi ≥ cc) "HOLD_TEMPLATE_VAR_OUT_OF_RANGE"
    index r vi
  else pure c.toNat

/-- The entry of the table that one code of a template stands for, given one record. -/
def templateEntry (lut : List Bytes) (cc : ℕ) (r : List ℕ) (c : ℤ) : Except Fault Bytes := do
  let ai ← templateIndex cc r c
  raiseIf (ai ≥ lut.length) "HOLD_LUT_COORDINATE_OUT_OF_RANGE"
  index lut ai

/-- The block of one record: the template with the record's values for its variables. -/
def templateRow (lut : List Bytes) (tpl : List ℤ) (cc : ℕ) (blk : Bytes) (r : List ℕ) :
    Except Fault Bytes :=
  tpl.foldlM (fun blk c => do
    let ent ← templateEntry lut cc r c
    pure (blk ++ ent)) blk

/-- `OP_TEMPLATE_SEQ` -/
def templateSeq (luts : Luts) (tpls : Tpls) (co : Bytes) : Cursor Bytes := do
  let lid ← readB
  let pid ← readB
  let rc ← readB
  let cc ← readB
  let rep ← readB
  raiseIf (lid ∉ luts.map Prod.fst ∨ pid ∉ tpls.map Prod.fst) "HOLD_MISSING_LUT_OR_TEMPLATE_ID"
  raiseIf (rc < 1 ∨ cc < 1 ∨ rep < 1) "HOLD_INVALID_TEMPLATE_SEQ_PARAMS"
  let lut ← (getKey luts lid : Except Fault _)
  let tpl ← (getKey tpls pid : Except Fault _)
  let recs ← times rc (fun recs => do
    let r ← readBs cc
    pure (recs ++ [r])) []
  let blk ← (recs.foldlM (templateRow lut tpl cc) [] : Except Fault _)
  pure (co ++ mulBytes blk rep)

/-- `OP_LUT_RUN` -/
def lutRun (luts : Luts) (co : Bytes) : Cursor Bytes := do
  let lid ← readB
  let crd ← readB
  let cnt ← readH
  raiseIf (lid ∉ luts.map Prod.fst) "HOLD_LUT_RUN_OUT_OF_RANGE"
  let lut ← (getKey luts lid : Except Fault _)
  raiseIf (crd ≥ lut.length ∨ cnt < 1) "HOLD_LUT_RUN_OUT_OF_RANGE"
  let ent ← (index lut crd : Except Fault _)
  pure (co ++ mulBytes ent cnt)

/-- One cell of the row of `OP_LUT_PATTERN_2D`. -/
def patternCell (luts : Luts) (lid : ℕ) (rb : Bytes) : Cursor Bytes := do
  let crd ← readB
  let rl ← readB
  let lut ← (getKey luts lid : Except Fault _)
  raiseIf (crd ≥ lut.length ∨ rl < 1) "HOLD_PATTERN_2D_OUT_OF_RANGE"
  let ent ← (index lut crd : Except Fault _)
  pure (rb ++ mulBytes ent rl)

/-- `OP_LUT_PATTERN_2D` -/
def lutPattern2d (luts : Luts) (co : Bytes) : Cursor Bytes := do
  let lid ← readB
  let sc ← readB
  let rows ← readB
  raiseIf (lid ∉ luts.map Prod.fst ∨ sc < 1 ∨ rows < 1) "HOLD_INVALID_PATTERN_2D_HEADER"
  let rb ← times sc (patternCell luts lid) []
  pure (co ++ mulBytes rb rows)

/-- `OP_RAW_REPEAT` -/
def rawRepeat (co : Bytes) : Cursor Bytes := do
  let pl ← readB
  let rep ← readH
  let left ← unread
  raiseIf (pl < 1 ∨ rep < 1 ∨ left < pl) "HOLD_INVALID_RAW_REPEAT_PARAMS"
  let pat ← slice pl
  pure (co ++ mulBytes pat rep)

/-- `[(st + i * sp) % 256 for i in range(sl)]` -/
def arithRow (st sp sl : ℕ) : Bytes := (List.range sl).map fun i => UInt8.ofNat (st + i * sp)

/-- `OP_RAW_ARITH_2D` -/
def rawArith2d (co : Bytes) : Cursor Bytes := do
  let st ← readB
  let sp ← readB
  let sl ← readB
  let rows ← readB
  raiseIf (sl < 1 ∨ rows < 1) "HOLD_INVALID_ARITH_2D_PARAMS"
  pure (co ++ mulBytes (arithRow st sp sl) rows)

/-- `OP_RAW_LITERAL` -/
def rawLiteral (co : Bytes) : Cursor Bytes := do
  let ll ← readH
  let left ← unread
  raiseIf (ll < 1 ∨ left < ll) "HOLD_INVALID_RAW_LITERAL"
  let lit ← slice ll
  pure (co ++ lit)

/-- One entry of `OP_SPARSE_PATCH`. -/
def patchEntry (co : Bytes) : Cursor Bytes := do
  let off ← readH
  let val ← readB
  raiseIf (off ≥ co.length) "HOLD_SPARSE_PATCH_OUT_OF_BOUNDS"
  let _ ← (index co off : Except Fault _)
  pure (co.set off (UInt8.ofNat val))

/-- `OP_SPARSE_PATCH` -/
def sparsePatch (co : Bytes) : Cursor Bytes := do
  let pc ← readB
  raiseIf (pc < 1) "HOLD_EMPTY_SPARSE_PATCH"
  times pc patchEntry co

/-- The hexadecimal digit of a number below 16. -/
def hexDigit (n : ℕ) : Char := "0123456789abcdef".toList.getD n '0'

/-- The code of an unknown opcode, `f"HOLD_UNKNOWN_OPCODE_{op:#04x}"`. -/
def unknownOpcode (op : ℕ) : String :=
  "HOLD_UNKNOWN_OPCODE_0x" ++ String.ofList [hexDigit (op / 16), hexDigit (op % 16)]

/-- One instruction of a channel, applied to the output `co` so far. -/
def decodeOp (luts : Luts) (tpls : Tpls) (co : Bytes) : Cursor Bytes := do
  let op ← readB
  raiseIf (op ∉ allowedOps) (unknownOpcode op)
  match op with
  | 1 => templateSeq luts tpls co
  | 2 => lutRun luts co
  | 3 => lutPattern2d luts co
  | 4 => rawRepeat co
  | 5 => rawArith2d co
  | 6 => rawLiteral co
  | 7 => sparsePatch co
  | _ => pure co

/-- One channel, with the id it is expected to have. -/
def decodeChannel (luts : Luts) (tpls : Tpls) (out : Channels) (expId : ℕ) : Cursor Channels := do
  let tid ← readB
  let opc ← readB
  raiseIf (tid ≠ expId ∨ tid ∈ out.map Prod.fst ∨ opc < 1) "HOLD_INVALID_TARGET_ID_OR_OP_COUNT"
  let co ← times opc (decodeOp luts tpls) []
  pure (out ++ [(tid, co)])

/-- `_decode_mux` -/
def decodeMux (luts : Luts) (tpls : Tpls) : Cursor Channels := do
  let m ← readB
  let nch ← readB
  raiseIf (m ≠ magicWarm ∨ nch < 1) "HOLD_INVALID_MUX_HEADER_OR_CHANNEL_COUNT"
  let out ← (List.range' 1 nch).foldlM (decodeChannel luts tpls) []
  let left ← unread
  raiseIf (left ≠ 0) "HOLD_TRAILING_GARBAGE_BYTES"
  pure out

/-! ### Inflation -/

/-- The inflater of `zlib`, as far as the code uses it: one call of `decompress` on a fresh object,
and then one call of `flush`.  `none` is an exception.  The last three fields state the documented
behaviour the code relies on: a limit that is not reached changes nothing, the length passed to
`flush` is only the initial size of its buffer, and input is left unconsumed only because of a
limit. -/
structure Zlib where
  /-- A decompression object after a call. -/
  Obj : Type
  eof : Obj → Bool
  unusedData : Obj → Bytes
  unconsumedTail : Obj → Bytes
  /-- `zlib.decompressobj().decompress(data, max_length)`, where `max_length = 0` is no limit. -/
  decompress : Bytes → ℕ → Option (Bytes × Obj)
  /-- `flush(length)` -/
  flush : Obj → ℕ → Option (Bytes × Obj)
  decompress_of_lt : ∀ data n out o, out.length < n →
    (decompress data n = some (out, o) ↔ decompress data 0 = some (out, o))
  unconsumedTail_nil : ∀ data out o, decompress data 0 = some (out, o) → unconsumedTail o = []
  flush_length : ∀ o m n, 0 < m → 0 < n → flush o m = flush o n

/-- An inflater to which every input is malformed, as it is to `zlib` unless it is a stream. -/
def Zlib.refusing : Zlib where
  Obj := Unit
  eof _ := false
  unusedData _ := []
  unconsumedTail _ := []
  decompress _ _ := none
  flush _ _ := none
  decompress_of_lt _ _ _ _ _ := by simp
  unconsumedTail_nil _ _ _ h := by simp at h
  flush_length _ _ _ _ _ := rfl

/-- The length `flush` uses when it is called without an argument. -/
def defBufSize : ℕ := 16384

/-- `_strict_zlib` -/
def strictZlib (Z : Zlib) (cb : Bytes) : Except Fault Bytes :=
  match Z.decompress cb 0 with
  | none => .error (.own "HOLD_SUBSTRATE_DECOMPRESS_FAILED")
  | some (out, dco) =>
    match Z.flush dco defBufSize with
    | none => .error (.own "HOLD_SUBSTRATE_DECOMPRESS_FAILED")
    | some (tail, dco) => do
        raiseIf (¬Z.eof dco ∨ Z.unusedData dco ≠ [] ∨ Z.unconsumedTail dco ≠ [])
          "HOLD_ZLIB_SUBSTREAM_TRAILING_BYTES"
        pure (out ++ tail)

/-! ### The decoder -/

/-- `UniversalOriginCellDecoder` -/
structure Decoder where
  luts : Luts
  tpls : Tpls
  packetsDecoded : ℕ
  deriving DecidableEq, Repr

/-- `UniversalOriginCellDecoder.__init__` -/
def Decoder.init : Decoder := ⟨[], [], 0⟩

/-- The bundle of a cold packet, still compressed, and its compression flag. -/
def coldBundle : Cursor (ℕ × Bytes) := do
  let cf ← readB
  let bl ← readH
  let left ← unread
  raiseIf (bl < 1 ∨ left < bl) "HOLD_SELF_CONTAINED_BUNDLE_TRUNCATED"
  let rb ← slice bl
  pure (cf, rb)

/-- The bundle as it is parsed, by the compression flag. -/
def expandBundle (Z : Zlib) (cf : ℕ) (rb : Bytes) : Except Fault Bytes :=
  if cf = 1 then strictZlib Z rb
  else do
    raiseIf (cf ≠ 0) "HOLD_INVALID_COMPRESSION_FLAG"
    pure rb

/-- `UniversalOriginCellDecoder.decode` -/
def decode (Z : Zlib) (pkt : Bytes) : EStateM Fault Decoder Channels := do
  raiseIf (pkt = []) "HOLD_EMPTY_PACKET"
  let (m, rest) ← callOn readB pkt
  if m = magicCold then do
    let ((cf, rb), rest) ← callOn coldBundle rest
    let rb ← expandBundle Z cf rb
    let ((pl, pt), _) ← callOn parseBundle rb
    let (out, _) ← callOn (decodeMux pl pt) rest
    modify fun self => { self with luts := pl, tpls := pt }
    modify fun self => { self with packetsDecoded := self.packetsDecoded + 1 }
    pure out
  else if m = magicWarm then do
    let self ← get
    let (out, _) ← callOn (decodeMux self.luts self.tpls) pkt
    modify fun self => { self with packetsDecoded := self.packetsDecoded + 1 }
    pure out
  else throw (.own "HOLD_INVALID_PACKET_MAGIC")

end OriginCell
