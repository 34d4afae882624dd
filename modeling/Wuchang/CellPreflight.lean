/-
**The gate in front of the origin cell decoder.**

Before a packet is decoded, the runtime consumer walks over it with a parser of its own that
materialises nothing: it inflates the bundle up to a limit, adds up how many bytes every channel
would have, and refuses a packet that is too large, or that only carries literal bytes.  This module
is that walk, `_preflight_binary_output` of `w7tp_gst_v23_runtime_consumer_candidate.py`, as the
source has it.

Main definitions:

* `OriginCell.Hold` — the two exception classes the walk can end in;
* `OriginCell.countOp` — one instruction: how many bytes it adds, and whether it generates any;
* `OriginCell.Tally`, `OriginCell.countChannel` — the running sums of the walk;
* `OriginCell.preflightBundle`, `OriginCell.preflightBinaryOutput` — the gate.
-/

import Wuchang.CellDecoder

set_option relaxedAutoImplicit false
set_option autoImplicit false

namespace OriginCell

open Py

/-- The gate raises `ConsumerHold`; the decoder's methods it calls raise `OriginCellHold`. -/
inductive Hold where
  | consumer (code : String)
  | originCell (code : String)
  deriving DecidableEq, Repr

/-- The exceptions of the gate. -/
abbrev GateFault := Raise Hold

/-- The walk over a packet; the state is the part of the packet that is still unread. -/
abbrev Walk := EStateM GateFault Bytes

/-- An exception of the decoder, seen from the gate. -/
def toGate : Fault → GateFault
  | .own code => .own (.originCell code)
  | .builtin b => .builtin b

/-- A read of the decoder, used by the gate. -/
def viaDecoder {α : Type} (x : Cursor α) : Walk α := fun buf =>
  match x buf with
  | .ok a buf' => .ok a buf'
  | .error e buf' => .error (toGate e) buf'

/-- The guard `if c: raise ConsumerHold(code)`. -/
abbrev refuseIf (c : Prop) [Decidable c] (code : String) : Except GateFault Unit :=
  raiseIf c (.consumer code)

/-- `pos += n` -/
def skip (n : ℕ) : Walk Unit := modify fun buf => buf.drop n

/-- `len(packet) - pos` -/
def ahead : Walk ℕ := do
  let buf ← get
  pure buf.length

/-! ### The instructions, counted -/

/-- The coordinate of one part of a template, given the indices of one row. -/
def countIndex (columns : ℕ) (indices : List ℕ) (part : ℤ) : Except GateFault ℕ :=
  if part ≥ 0 then pure part.toNat
  else do
    let idx := (-part - 1).toNat
    refuseIf (idx ≥ columns) "HOLD_TEMPLATE_VAR_OUT_OF_RANGE"
    index indices idx

/-- One part of a template. -/
def countPart (luts : Luts) (lid columns : ℕ) (indices : List ℕ) (increase : ℕ) (part : ℤ) :
    Except GateFault ℕ := do
  let idx ← countIndex columns indices part
  let lut ← getKey luts lid
  refuseIf (idx ≥ lut.length) "HOLD_LUT_COORDINATE_OUT_OF_RANGE"
  let ent ← index lut idx
  pure (increase + ent.length)

/-- One row of opcode 1. -/
def countRow (luts : Luts) (tpls : Tpls) (lid tid columns increase : ℕ) : Walk ℕ := do
  let indices ← viaDecoder (readBs columns)
  let tpl ← (getKey tpls tid : Except GateFault _)
  (tpl.foldlM (countPart luts lid columns indices) increase : Except GateFault _)

/-- Opcode 1. -/
def countTemplateSeq (luts : Luts) (tpls : Tpls) : Walk ℕ := do
  let lid ← viaDecoder readB
  let tid ← viaDecoder readB
  let rows ← viaDecoder readB
  let columns ← viaDecoder readB
  let rep ← viaDecoder readB
  refuseIf (lid ∉ luts.map Prod.fst ∨ tid ∉ tpls.map Prod.fst ∨ min (min rows columns) rep < 1)
    "HOLD_INVALID_TEMPLATE_SEQ_PARAMS"
  let increase ← times rows (countRow luts tpls lid tid columns) 0
  pure (increase * rep)

/-- Opcode 2. -/
def countLutRun (luts : Luts) : Walk ℕ := do
  let lid ← viaDecoder readB
  let coord ← viaDecoder readB
  let count ← viaDecoder readH
  refuseIf (lid ∉ luts.map Prod.fst) "HOLD_LUT_RUN_OUT_OF_RANGE"
  let lut ← (getKey luts lid : Except GateFault _)
  refuseIf (coord ≥ lut.length ∨ count < 1) "HOLD_LUT_RUN_OUT_OF_RANGE"
  let ent ← (index lut coord : Except GateFault _)
  pure (ent.length * count)

/-- One segment of opcode 3. -/
def countSegment (luts : Luts) (lid rowSize : ℕ) : Walk ℕ := do
  let coord ← viaDecoder readB
  let rep ← viaDecoder readB
  let lut ← (getKey luts lid : Except GateFault _)
  refuseIf (coord ≥ lut.length ∨ rep < 1) "HOLD_PATTERN_2D_OUT_OF_RANGE"
  let ent ← (index lut coord : Except GateFault _)
  pure (rowSize + ent.length * rep)

/-- Opcode 3. -/
def countLutPattern2d (luts : Luts) : Walk ℕ := do
  let lid ← viaDecoder readB
  let segments ← viaDecoder readB
  let rows ← viaDecoder readB
  refuseIf (lid ∉ luts.map Prod.fst ∨ min segments rows < 1) "HOLD_INVALID_PATTERN_2D_HEADER"
  let rowSize ← times segments (countSegment luts lid) 0
  pure (rowSize * rows)

/-- Opcode 4. -/
def countRawRepeat : Walk ℕ := do
  let period ← viaDecoder readB
  let rep ← viaDecoder readH
  let left ← ahead
  refuseIf (period < 1 ∨ rep < 1 ∨ left < period) "HOLD_INVALID_RAW_REPEAT_PARAMS"
  skip period
  pure (period * rep)

/-- Opcode 5. -/
def countRawArith2d : Walk ℕ := do
  let _ ← viaDecoder readB
  let _ ← viaDecoder readB
  let width ← viaDecoder readB
  let rows ← viaDecoder readB
  refuseIf (width < 1 ∨ rows < 1) "HOLD_INVALID_ARITH_2D_PARAMS"
  pure (width * rows)

/-- Opcode 6. -/
def countRawLiteral : Walk ℕ := do
  let literalBytes ← viaDecoder readH
  let left ← ahead
  refuseIf (literalBytes < 1 ∨ left < literalBytes) "HOLD_INVALID_RAW_LITERAL"
  skip literalBytes
  pure literalBytes

/-- One patch of opcode 7, against the size so far. -/
def countPatch (size : ℕ) (_ : Unit) : Walk Unit := do
  let offset ← viaDecoder readH
  let _ ← viaDecoder readB
  refuseIf (offset ≥ size) "HOLD_SPARSE_PATCH_OUT_OF_BOUNDS"

/-- Opcode 7. -/
def countSparsePatch (size : ℕ) : Walk ℕ := do
  let count ← viaDecoder readB
  refuseIf (count < 1) "HOLD_EMPTY_SPARSE_PATCH"
  times count (countPatch size) ()
  pure 0

/-- What an instruction adds to the channel, and whether it sets `generated`. -/
def countOp (luts : Luts) (tpls : Tpls) (size : ℕ) : Walk (ℕ × Bool) := do
  let op ← viaDecoder readB
  match op with
  | 1 => do pure (← countTemplateSeq luts tpls, true)
  | 2 => do pure (← countLutRun luts, true)
  | 3 => do pure (← countLutPattern2d luts, true)
  | 4 => do pure (← countRawRepeat, true)
  | 5 => do pure (← countRawArith2d, true)
  | 6 => do pure (← countRawLiteral, false)
  | 7 => do pure (← countSparsePatch size, false)
  | _ => throw (.own (.consumer "HOLD_DIFF_MASQUERADING_AS_D6_REJECTED"))

/-! ### The walk -/

/-- The variables of the walk: the size map, the total of the finished channels, `generated`. -/
structure Tally where
  sizes : List (ℕ × ℕ)
  total : ℕ
  generated : Bool
  deriving DecidableEq, Repr

/-- One instruction of a channel: the size so far and `generated`. -/
def countStep (luts : Luts) (tpls : Tpls) (maxOutput : ℤ) (total : ℕ) (c : ℕ × Bool) :
    Walk (ℕ × Bool) := do
  let (increase, generates) ← countOp luts tpls c.1
  let size := c.1 + increase
  refuseIf ((size : ℤ) > maxOutput ∨ ((total + size : ℕ) : ℤ) > maxOutput)
    "HOLD_D7_RECONSTRUCTION_RESOURCE_LIMIT"
  pure (size, c.2 || generates)

/-- One channel, with the id it is expected to have. -/
def countChannel (luts : Luts) (tpls : Tpls) (maxOutput : ℤ) (t : Tally) (expectedId : ℕ) :
    Walk Tally := do
  let targetId ← viaDecoder readB
  let opCount ← viaDecoder readB
  refuseIf (targetId ≠ expectedId ∨ opCount < 1) "HOLD_INVALID_TARGET_ID_OR_OP_COUNT"
  let (size, generated) ← times opCount (countStep luts tpls maxOutput t.total) (0, t.generated)
  pure ⟨t.sizes ++ [(targetId, size)], t.total + size, generated⟩

/-- The multiplexed program of a packet, counted. -/
def countMux (luts : Luts) (tpls : Tpls) (maxOutput : ℤ) : Walk (List (ℕ × ℕ)) := do
  let header ← viaDecoder readB
  let channels ← viaDecoder readB
  refuseIf (header ≠ magicWarm ∨ channels < 1) "HOLD_INVALID_MUX_HEADER_OR_CHANNEL_COUNT"
  let t ← (List.range' 1 channels).foldlM (countChannel luts tpls maxOutput) ⟨[], 0, false⟩
  let left ← ahead
  refuseIf (left ≠ 0) "HOLD_TRAILING_GARBAGE_BYTES"
  refuseIf (¬t.generated) "HOLD_DIFF_MASQUERADING_AS_D6_REJECTED"
  pure t.sizes

/-! ### The gate -/

/-- A compressed bundle, inflated up to the limit. -/
def inflateBounded (Z : Zlib) (maxBundle : ℤ) (bundle : Bytes) : Except GateFault Bytes :=
  if maxBundle + 1 < 0 then .error (.builtin .valueError)
  else match Z.decompress bundle (maxBundle + 1).toNat with
  | none => .error (.own (.consumer "HOLD_SUBSTRATE_DECOMPRESS_FAILED"))
  | some (expanded, inflater) => do
    refuseIf ((expanded.length : ℤ) > maxBundle ∨ Z.unconsumedTail inflater ≠ [])
      "HOLD_D7_SUBSTRATE_RESOURCE_LIMIT"
    match Z.flush inflater (maxBundle + 1 - expanded.length).toNat with
    | none => .error (.own (.consumer "HOLD_SUBSTRATE_DECOMPRESS_FAILED"))
    | some (tail, inflater) => do
      refuseIf (((expanded ++ tail).length : ℤ) > maxBundle) "HOLD_D7_SUBSTRATE_RESOURCE_LIMIT"
      refuseIf (¬Z.eof inflater ∨ Z.unusedData inflater ≠ [] ∨ Z.unconsumedTail inflater ≠ [])
        "HOLD_ZLIB_SUBSTREAM_TRAILING_BYTES"
      pure (expanded ++ tail)

/-- The bundle of a cold packet as it will be parsed, within the limit. -/
def preflightBundle (Z : Zlib) (maxBundle : ℤ) (flag : ℕ) (bundle : Bytes) :
    Except GateFault Bytes := do
  let bundle ←
    if flag = 1 then inflateBounded Z maxBundle bundle
    else do
      refuseIf (flag ≠ 0) "HOLD_INVALID_COMPRESSION_FLAG"
      pure bundle
  refuseIf ((bundle.length : ℤ) > maxBundle) "HOLD_D7_SUBSTRATE_RESOURCE_LIMIT"
  pure bundle

/-- The tables a cold packet brings along, and the program that follows them. -/
def preflightCold (Z : Zlib) (packet : Bytes) (maxBundle : ℤ) :
    Except GateFault ((Luts × Tpls) × Bytes) := do
  refuseIf (packet.length < 4) "HOLD_PACKET_TRUNCATED"
  let flag ← index packet 1
  let hi ← index packet 2
  let lo ← index packet 3
  let bundleLength := hi.toNat * 256 + lo.toNat
  refuseIf (bundleLength < 1 ∨ 4 + bundleLength > packet.length)
    "HOLD_SELF_CONTAINED_BUNDLE_TRUNCATED"
  let bundle ← preflightBundle Z maxBundle flag.toNat ((packet.drop 4).take bundleLength)
  let (tables, _) ← callOn (viaDecoder parseBundle) bundle
  pure (tables, packet.drop (4 + bundleLength))

/-- `_preflight_binary_output(packet, decoder)` -/
def preflightBinaryOutput (Z : Zlib) (packet : Bytes) (decoder : Decoder)
    (maxPacket maxBundle maxOutput : ℤ) : Except GateFault (List (ℕ × ℕ)) := do
  refuseIf (packet = []) "HOLD_ORIGIN_CELL_BINARY_PACKET_REQUIRED"
  refuseIf ((packet.length : ℤ) > maxPacket) "HOLD_D7_PACKET_RESOURCE_LIMIT"
  let magic ← index packet 0
  if magic.toNat = magicCold then do
    let ((luts, templates), rest) ← preflightCold Z packet maxBundle
    let (sizes, _) ← callOn (countMux luts templates maxOutput) rest
    pure sizes
  else if magic.toNat = magicWarm then do
    refuseIf (decoder.packetsDecoded < 1) "HOLD_WARM_SESSION_SUBSTRATE_REQUIRED"
    let (sizes, _) ← callOn (countMux decoder.luts decoder.tpls maxOutput) packet
    pure sizes
  else .error (.own (.consumer "HOLD_INVALID_PACKET_MAGIC"))

end OriginCell
