/-
**The packet of the origin cell protocol, V2.3.**

`w7tp_origin_cell_gst_universal_v23_candidate.py`: a packet is a JSON document that commits to a tree of
files.  A cell of it names the path of a file, the size and the hash of its content, and a program whose
operations give the content in blocks: from atoms of a material base, or from the material `U` that the
cell carries in Base64.  `validate_packet` runs the programs and accepts a packet when all commitments hold.

Main definitions:

* `Gst.canonicalJsonBytes`, `Gst.packetSha256` — what the packet's own hash is of;
* `Gst.safeRelativePath` — the path of a cell, normalised;
* `Gst.materialBaseContract`, `Gst.protocolDescriptor` — the constants of the protocol;
* `Gst.validatedUMap`, `Gst.opBlock`, `Gst.forBlocks` — the material, an operation, the loop over the blocks;
* `Gst.checkCell`, `Gst.validatePacket` — the validator;
* `Gst.Yields` — the blocks of a cell.

Main results:

* `Gst.forBlocks_of_yields`, `Gst.yields_of_forBlocks` — a loop over the blocks is a fold over a list;
* `Gst.checkCell_ok`, `Gst.checkCells_ok` — what an accepted cell has, and what accepted cells have;
* `Gst.validatePacket_ok` — what an accepted packet has.
-/

import Wuchang.PyJson
import Wuchang.Sha256

set_option relaxedAutoImplicit false
set_option autoImplicit false

namespace Gst

open Py

/-- The contents of files. -/
abbrev Bytes := List UInt8

/-- `OriginCellHold` has a code. -/
abbrev Fault := Raise PyStr

/-- `raise OriginCellHold(code)` -/
def hold {α : Type} (code : String) : Except Fault α := .error (.own (cp code))

/-! ### The constants -/

/-- `PROTOCOL_VERSION` -/
def protocolVersion : String := "2.3"

/-- `PACKET_SCHEMA` -/
def packetSchema : String := "w7tp-8dadi-origin-cell-gst-universal/2.3-founder-successor-candidate"

/-- `PACKET_TYPE` -/
def packetType : String := "ORIGIN_CELL_GENERATIVE_STATE_PACKET"

/-- `EXECUTOR_CONTRACT` -/
def executorContract : String := "w7tp-origin-cell-universal-executor/1"

/-- `FOUNDER_DEFINITION` -/
def founderDefinition : String := "W7TP/8D ADI V2.3"

/-- `DIMENSIONS` -/
def dimensions : List String := ["D1", "D2", "D3", "D4", "D5", "D6", "D7", "D8"]

/-- `MAX_RECONSTRUCTED_BYTES` -/
def maxReconstructedBytes : ℕ := 8 * 1024 * 1024 * 1024

/-- `MAX_U_SEGMENT_BYTES` -/
def maxUSegmentBytes : ℕ := 16 * 1024 * 1024

/-- `FORBIDDEN_TRANSFER_KEYS` -/
def forbiddenTransferKeys : List String :=
  ["delta", "diff", "patch", "patch_blob", "patch_cells", "changed_bytes", "binary_delta", "rsync_delta"]

/-- `ALLOWED_OPS` -/
def allowedOps : List String := ["BASE_INDICES", "BASE_RLE", "U_SEGMENT"]

/-! ### Hashes, keys and paths -/

/-- `canonical_json_bytes` -/
def canonicalJsonBytes (value : PyVal) : Except Fault Bytes := do
  let text ← PyJson.dumps PyJson.compact value
  if ¬PyJson.allFinite value then .error (.builtin .valueError)
  else encodeUtf8 text

/-- `packet_sha256` -/
def packetSha256 (packet : Items) : Except Fault PyStr := do
  let bytes ← canonicalJsonBytes (.dict (eraseKey (cp "packet_sha256") packet))
  pure (Sha256.hexdigest bytes)

/-- `_is_sha256` -/
def isSha256 : PyVal → Bool
  | .str s => Sha256.isHex64 s
  | _ => false

/-- `v is False` -/
def isFalse : PyVal → Bool
  | .bool b => !b
  | _ => false

/-- `str(key)`; the keys of a document are texts. -/
def keyText : PyKey → PyStr
  | .str s => s
  | .other => []

mutual

/-- `_walk_keys` -/
def walkKeys : PyVal → List PyStr
  | .dict items => walkItems items
  | .list xs => walkList xs
  | _ => []

/-- `_walk_keys` of the items of a mapping -/
def walkItems : Items → List PyStr
  | [] => []
  | (k, v) :: items => keyText k :: (walkKeys v ++ walkItems items)

/-- `_walk_keys` of the elements of a list -/
def walkList : List PyVal → List PyStr
  | [] => []
  | x :: xs => walkKeys x ++ walkList xs

end

/-- The keys of a literal. -/
theorem walkKeys_obj (l : List (String × PyVal)) :
    walkKeys (obj l) = l.flatMap fun p => cp p.1 :: walkKeys p.2 := by
  rw [obj, walkKeys]
  induction l with
  | nil => rfl
  | cons p l ih => exact congrArg (fun keys => cp p.1 :: (walkKeys p.2 ++ keys)) ih

/-- A literal loses a field. -/
theorem eraseKey_fields (k : String) (l : List (String × PyVal)) :
    eraseKey (cp k) (fields l) = fields (l.filter fun p => p.1 ≠ k) := by
  have hkey : ∀ p : String × PyVal, key p.1 ≠ PyKey.str (cp k) ↔ p.1 ≠ k := fun p => not_congr key_inj
  rw [eraseKey, fields, fields, List.filter_map]
  simp only [Function.comp_def, hkey]

/-- A path below a root: its names. -/
abbrev Path := List PyStr

/-- `PurePosixPath(s).parts` of a relative path -/
def pathParts (s : PyStr) : Path := (s.splitOn 47).filter fun part => part ≠ [] ∧ part ≠ cp "."

/-- `as_posix` of a relative path with some names -/
def asPosix (parts : Path) : PyStr := [47].intercalate parts

/-- `_safe_relative_path` -/
def safeRelativePath (value : PyVal) : Except Fault PyStr :=
  match value with
  | .str (c :: s) =>
      if 0 ∈ c :: s then hold "HOLD_PATH_INVALID"
      else do
        let parts := pathParts (c :: s)
        raiseIf (c = 47 ∨ cp ".." ∈ parts) (cp "HOLD_PATH_ESCAPES_ROOT")
        -- `Path(".")` has no parts, and is written as "."
        raiseIf (parts = []) (cp "HOLD_PATH_INVALID")
        pure (asPosix parts)
  | _ => hold "HOLD_PATH_INVALID"

/-- What a path is split into has no slash, and is part of it. -/
theorem of_mem_splitOn {s part : PyStr} (h : part ∈ s.splitOn 47) : 47 ∉ part ∧ part ⊆ s := by
  induction s generalizing part with
  | nil =>
      rw [List.splitOn_nil, List.mem_singleton] at h
      subst h
      simp
  | cons c s ih =>
      rw [List.splitOn_cons_eq_if_modifyHead] at h
      split_ifs at h with hc
      · rcases List.mem_cons.1 h with rfl | h
        · simp
        · exact ⟨(ih h).1, List.subset_cons_of_subset c (ih h).2⟩
      · obtain ⟨first, rest, hsplit⟩ := List.exists_cons_of_ne_nil (List.splitOn_ne_nil 47 s)
        rw [hsplit] at ih h
        rcases List.mem_cons.1 h with rfl | h
        · obtain ⟨hslash, hsub⟩ := ih List.mem_cons_self
          have hne : (47 : ℕ) ≠ c := fun heq => hc (by simp [heq])
          exact ⟨by simp [hne, hslash], List.cons_subset_cons c hsub⟩
        · obtain ⟨hslash, hsub⟩ := ih (List.mem_cons_of_mem _ h)
          exact ⟨hslash, List.subset_cons_of_subset c hsub⟩

/-- A path that was normalised has the names it had. -/
theorem pathParts_asPosix {s : PyStr} (h : pathParts s ≠ []) :
    pathParts (asPosix (pathParts s)) = pathParts s := by
  have hslash : ∀ part ∈ pathParts s, 47 ∉ part := fun part hpart =>
    (of_mem_splitOn (List.mem_filter.1 hpart).1).1
  rw [pathParts, asPosix, List.splitOn_intercalate _ hslash h, List.filter_eq_self]
  intro part hpart
  exact (List.mem_filter.1 hpart).2

/-- A path that is safe is a normalised path with names. -/
theorem safeRelativePath_ok {value : PyVal} {path : PyStr} (h : safeRelativePath value = .ok path) :
    ∃ s, value = .str s ∧ pathParts s ≠ [] ∧ path = asPosix (pathParts s) := by
  unfold safeRelativePath at h
  split at h
  · next c s =>
      split_ifs at h with hzero
      · cases h
      · obtain ⟨-, -, h⟩ := bind_eq_ok_iff.1 h
        obtain ⟨_, hparts, h⟩ := bind_eq_ok_iff.1 h
        exact ⟨c :: s, rfl, raiseIf_eq_ok_iff.1 hparts, (pure_eq_ok_iff.1 h).symm⟩
  · cases h

/-- Its names are those it was normalised from, and they give it back. -/
theorem asPosix_pathParts {value : PyVal} {path : PyStr} (h : safeRelativePath value = .ok path) :
    pathParts path ≠ [] ∧ asPosix (pathParts path) = path := by
  obtain ⟨s, -, hparts, rfl⟩ := safeRelativePath_ok h
  rw [pathParts_asPosix hparts]
  exact ⟨hparts, rfl⟩

/-- The code points of a path are those of its names, and slashes. -/
theorem mem_asPosix {parts : Path} {c : ℕ} (h : c ∈ asPosix parts) : c = 47 ∨ ∃ part ∈ parts, c ∈ part := by
  induction parts with
  | nil => cases h
  | cons part parts ih =>
      cases parts with
      | nil => exact .inr ⟨part, by simp, by simpa [asPosix] using h⟩
      | cons next parts =>
          rw [asPosix, List.intercalate_cons_cons, List.append_assoc, List.mem_append, List.mem_append,
            List.mem_singleton] at h
          rcases h with h | h | h
          · exact .inr ⟨part, by simp, h⟩
          · exact .inl h
          · refine (ih h).imp_right ?_
            rintro ⟨part', hpart', hc⟩
            exact ⟨part', List.mem_cons_of_mem _ hpart', hc⟩

/-- A safe path can be encoded if the value it is made of can. -/
theorem encodable_safeRelativePath {value : PyVal} {path : PyStr} (h : safeRelativePath value = .ok path)
    (hvalue : PyJson.Plain Encodable value) : Encodable path := by
  obtain ⟨s, rfl, -, rfl⟩ := safeRelativePath_ok h
  cases hvalue with
  | str _ hs =>
      intro c hc
      rcases mem_asPosix hc with rfl | ⟨part, hpart, hc⟩
      · exact by decide
      · exact hs c ((of_mem_splitOn (List.mem_filter.1 hpart).1).2 hc)

/-! ### Base64 -/

/-- The character of six bits. -/
def base64Char (n : ℕ) : ℕ :=
  if n < 26 then 65 + n
  else if n < 52 then 71 + n
  else if n < 62 then n - 4
  else if n = 62 then 43 else 47

/-- The six bits of a character. -/
def base64Value (c : ℕ) : Option ℕ :=
  if 65 ≤ c ∧ c < 91 then some (c - 65)
  else if 97 ≤ c ∧ c < 123 then some (c - 71)
  else if 48 ≤ c ∧ c < 58 then some (c + 4)
  else if c = 43 then some 62
  else if c = 47 then some 63
  else none

/-- `base64.b64encode(data).decode("ascii")` -/
def b64encode : Bytes → PyStr
  | [] => []
  | [a] => [base64Char (a.toNat / 4), base64Char (a.toNat % 4 * 16), 61, 61]
  | [a, b] =>
      [base64Char (a.toNat / 4), base64Char (a.toNat % 4 * 16 + b.toNat / 16),
        base64Char (b.toNat % 16 * 4), 61]
  | a :: b :: c :: rest =>
      base64Char (a.toNat / 4) :: base64Char (a.toNat % 4 * 16 + b.toNat / 16) ::
        base64Char (b.toNat % 16 * 4 + c.toNat / 64) :: base64Char (c.toNat % 64) :: b64encode rest

/-- `base64.b64decode(text, validate=True)`: groups of four characters of the alphabet, the last of them
padded.  Other texts are refused. -/
def b64decode : PyStr → Option Bytes
  | [] => some []
  | [a, b, 61, 61] => do
      let x ← base64Value a
      let y ← base64Value b
      pure [UInt8.ofNat (x * 4 + y / 16)]
  | [a, b, c, 61] => do
      let x ← base64Value a
      let y ← base64Value b
      let z ← base64Value c
      pure [UInt8.ofNat (x * 4 + y / 16), UInt8.ofNat (y % 16 * 16 + z / 4)]
  | a :: b :: c :: d :: rest => do
      let x ← base64Value a
      let y ← base64Value b
      let z ← base64Value c
      let w ← base64Value d
      let tail ← b64decode rest
      pure (UInt8.ofNat (x * 4 + y / 16) :: UInt8.ofNat (y % 16 * 16 + z / 4) ::
        UInt8.ofNat (z % 4 * 64 + w) :: tail)
  | _ => none

/-! ### The material bases -/

/-- `material_base_atoms` -/
def materialBaseAtoms (baseId : PyStr) : Except Fault (List Bytes) :=
  if baseId = cp "ASCII26_SYMBOLS_V1" then
    .ok (([9, 10, 13] ++ List.range' 32 95).map fun code => [UInt8.ofNat code])
  else if baseId = cp "OCTET256_V1" then .ok ((List.range 256).map fun code => [UInt8.ofNat code])
  else hold "HOLD_MATERIAL_BASE_UNSUPPORTED"

/-- `material_base_contract` -/
def materialBaseContract (baseId : PyStr) : Except Fault PyVal := do
  let atoms ← materialBaseAtoms baseId
  let derivation :=
    if baseId = cp "ASCII26_SYMBOLS_V1" then "bytes:[0x09,0x0a,0x0d]+range(0x20,0x7f)"
    else "bytes:range(0x00,0x100)"
  let serializedAtoms := atoms.map fun atom => PyVal.str (b64encode atom)
  let table ← canonicalJsonBytes (.list serializedAtoms)
  pure (obj [("atom_count", .int atoms.length), ("atom_table_sha256", .str (Sha256.hexdigest table)),
    ("base_id", .str baseId), ("derivation", lit derivation)])

/-- `protocol_descriptor` -/
def protocolDescriptor : Except Fault PyVal := do
  let ascii ← materialBaseContract (cp "ASCII26_SYMBOLS_V1")
  let octet ← materialBaseContract (cp "OCTET256_V1")
  pure (obj [
    ("authority", lit "packet reconstruction never creates D8 authority"),
    ("difference_analysis", obj [
      ("payload", .bool false),
      ("role", lit "SOURCE_SIDE_UNDERSTANDING_ONLY"),
      ("transmission_method", .bool false)]),
    ("executor_contract", lit executorContract),
    ("founder_definition", lit founderDefinition),
    ("material_bases", .list [ascii, octet]),
    ("opcodes", obj [
      ("BASE_INDICES", lit "append base atom for each integer in indices, in order"),
      ("BASE_RLE", lit "append base atom[index] exactly count times"),
      ("U_SEGMENT", lit "append base64-decoded U segment referenced by segment_id")]),
    ("packet_schema", lit packetSchema),
    ("packet_type", lit packetType),
    ("raw_material_accounting", obj [
      ("definition", lit "sum(decoded U segment bytes)"),
      ("zero_raw_material_does_not_mean_zero_wire_bytes", .bool true)]),
    ("rule_formation", obj [
      ("remaining_material_symbol", lit "U"),
      ("role", lit "CONVERT_RECONSTRUCTABLE_STRUCTURE_TO_RULES")]),
    ("schema_version", lit "w7tp-origin-cell-universal-protocol-descriptor/1"),
    ("verification", lit "reconstructed bytes and SHA-256 must equal packet commitments")])

/-- `_validate_material_base_contracts` -/
def validateMaterialBaseContracts (packet : PyVal) : Except Fault Unit :=
  match packet.get "material_base_contracts" with
  | .list (first :: contracts) => do
      let _ ← (first :: contracts).foldlM (fun (seen : List PyStr) contract =>
        match contract, contract.get "base_id" with
        | .dict items, .str baseId => do
            raiseIf (baseId ∈ seen) (cp "HOLD_MATERIAL_BASE_CONTRACT_INVALID")
            let expected ← materialBaseContract baseId
            raiseIf (¬pyEq (.dict items) expected) (cp "HOLD_MATERIAL_BASE_DRIFT")
            pure (baseId :: seen)
        | _, _ => hold "HOLD_MATERIAL_BASE_CONTRACT_INVALID") []
      pure ()
  | _ => hold "HOLD_MATERIAL_BASE_CONTRACTS_INVALID"

/-! ### The content of a cell -/

/-- The segments of the material `U` by their identifiers. -/
abbrev UMap := List (PyStr × Bytes)

/-- `base64.b64decode(segment.get("base64", ""), validate=True)` -/
def segmentBytes (segment : Items) : Option Bytes :=
  match getItem segment (cp "base64") with
  | none => b64decode []
  | some (.str s) => b64decode s
  | some _ => none

/-- `_validated_u_map` -/
def validatedUMap (cell : PyVal) : Except Fault UMap :=
  match cell.get "material_u" with
  | .list materialU =>
      materialU.foldlM (fun (result : UMap) segment =>
        match segment, segment.get "segment_id" with
        | .dict items, .str segmentId => do
            raiseIf (segmentId ∈ result.map Prod.fst) (cp "HOLD_MATERIAL_U_SEGMENT_INVALID")
            match segmentBytes items with
            | none => hold "HOLD_MATERIAL_U_BASE64_INVALID"
            | some raw => do
                raiseIf (maxUSegmentBytes < raw.length) (cp "HOLD_MATERIAL_U_SEGMENT_TOO_LARGE")
                raiseIf (¬pyEq (segment.get "bytes") (.int raw.length) ∨
                    ¬pyEq (segment.get "sha256") (.str (Sha256.hexdigest raw)))
                  (cp "HOLD_MATERIAL_U_COMMITMENT_MISMATCH")
                pure (result ++ [(segmentId, raw)])
        | _, _ => hold "HOLD_MATERIAL_U_SEGMENT_INVALID") []
  | _ => hold "HOLD_MATERIAL_U_INVALID"

/-- The atom an index refers to. -/
def atomAt (atoms : List Bytes) : PyVal → Option Bytes
  | .int n => if 0 ≤ n then atoms[n.toNat]? else none
  | _ => none

/-- The atom and the count of a `BASE_RLE` operation. -/
def runLength (atoms : List Bytes) (op : PyVal) : Option (Bytes × ℕ) :=
  match atomAt atoms (op.get "index"), op.get "count" with
  | some atom, .int count =>
      if 1 ≤ count ∧ count ≤ maxReconstructedBytes then some (atom, count.toNat) else none
  | _, _ => none

/-- What `_iter_cell_bytes` yields for one operation, if anything. -/
def opBlock (atoms : List Bytes) (uMap : UMap) (op : PyVal) : Except Fault (Option Bytes) :=
  match op with
  | .dict items => do
      let allowed ← inTexts (op.get "op") allowedOps
      raiseIf (¬allowed) (cp "HOLD_OPCODE_INVALID")
      if pyEq (op.get "op") (lit "BASE_INDICES") then
        match op.get "indices" with
        | .list indices => do
            raiseIf (¬keysAre items ["op", "indices"]) (cp "HOLD_BASE_INDICES_INVALID")
            match indices.mapM (atomAt atoms) with
            | none => hold "HOLD_BASE_INDEX_OUT_OF_RANGE"
            | some out => pure (if out.flatten = [] then none else some out.flatten)
        | _ => hold "HOLD_BASE_INDICES_INVALID"
      else if pyEq (op.get "op") (lit "BASE_RLE") then do
        raiseIf (¬keysAre items ["op", "index", "count"]) (cp "HOLD_BASE_RLE_INVALID")
        match runLength atoms op with
        | none => hold "HOLD_BASE_RLE_INVALID"
        | some (atom, count) => pure (some (List.replicate count atom).flatten)
      else do
        raiseIf (¬keysAre items ["op", "segment_id"]) (cp "HOLD_U_SEGMENT_OP_INVALID")
        match op.get "segment_id" with
        | .str segmentId =>
            match uMap.lookup segmentId with
            | none => hold "HOLD_U_SEGMENT_REF_MISSING"
            | some raw => pure (some raw)
        | .list _ => .error (.builtin .typeError)
        | .dict _ => .error (.builtin .typeError)
        | _ => hold "HOLD_U_SEGMENT_REF_MISSING"
  | _ => hold "HOLD_OPCODE_INVALID"

/-- What `_iter_cell_bytes` reads before its loop. -/
def cellProgram (cell : PyVal) : Except Fault (List Bytes × UMap × List PyVal) :=
  match cell.get "base_id" with
  | .str baseId => do
      let atoms ← materialBaseAtoms baseId
      let uMap ← validatedUMap cell
      match cell.get "program" with
      | .list program => pure (atoms, uMap, program)
      | _ => hold "HOLD_PROGRAM_INVALID"
  | _ => hold "HOLD_CELL_BASE_INVALID"

/-- `for block in _iter_cell_bytes(cell)`, with a body that carries a value. -/
def forBlocks {m : Type → Type} [Monad m] [MonadLiftT (Except Fault) m] {α : Type} (cell : PyVal)
    (body : α → Bytes → m α) (a : α) : m α := do
  let (atoms, uMap, program) ← (cellProgram cell : Except Fault _)
  program.foldlM (fun a op => do
    match ← (opBlock atoms uMap op : Except Fault _) with
    | none => pure a
    | some block => body a block) a

/-! ### The validator -/

/-- What the loop over the cells carries: `paths`, `total_target`, `total_u`. -/
structure Totals where
  paths : List PyStr
  target : ℕ
  u : ℕ

/-- `cell.get("target_bytes")`, if it is a size. -/
def targetSize : PyVal → Except Fault ℕ
  | .int n => if 0 ≤ n then .ok n.toNat else hold "HOLD_TARGET_SIZE_INVALID"
  | _ => hold "HOLD_TARGET_SIZE_INVALID"

/-- The body of the loop over the blocks of a cell: it keeps what was produced. -/
def produce (produced block : Bytes) : Except Fault Bytes := do
  raiseIf (maxReconstructedBytes < (produced ++ block).length) (cp "HOLD_RECONSTRUCTION_LIMIT_EXCEEDED")
  pure (produced ++ block)

/-- The body of the loop over the cells. -/
def checkCell (acc : Totals) (cell : PyVal) : Except Fault Totals := do
  raiseIf (¬cell.isDict) (cp "HOLD_FILE_CELL_INVALID")
  let path ← safeRelativePath (cell.get "path")
  raiseIf (path ∈ acc.paths) (cp "HOLD_DUPLICATE_FILE_PATH")
  raiseIf (¬isSha256 (cell.get "target_sha256")) (cp "HOLD_TARGET_HASH_INVALID")
  let targetBytes ← targetSize (cell.get "target_bytes")
  let uMap ← validatedUMap cell
  let uBytes : ℕ := (uMap.map fun segment => segment.2.length).sum
  let evidence := cell.get "formation_evidence"
  raiseIf (¬evidence.isDict ∨ ¬pyEq (evidence.get "raw_material_u_bytes") (.int uBytes))
    (cp "HOLD_RULE_FORMATION_EVIDENCE_MISMATCH")
  raiseIf (¬isFalse (evidence.get "difference_analysis_transmitted"))
    (cp "HOLD_DIFFERENCE_ANALYSIS_TRANSFER_FORBIDDEN")
  let produced ← forBlocks cell produce []
  raiseIf (produced.length ≠ targetBytes ∨
      ¬pyEq (cell.get "target_sha256") (.str (Sha256.hexdigest produced)))
    (cp "HOLD_CELL_PROGRAM_COMMITMENT_MISMATCH")
  raiseIf (maxReconstructedBytes < acc.target + targetBytes) (cp "HOLD_RECONSTRUCTION_LIMIT_EXCEEDED")
  pure ⟨path :: acc.paths, acc.target + targetBytes, acc.u + uBytes⟩

/-- The checks of the head of a packet, up to its own hash. -/
def checkHead (packet : Items) : Except Fault Unit := do
  let p := PyVal.dict packet
  raiseIf (¬pyEq (p.get "schema_version") (lit packetSchema) ∨ ¬pyEq (p.get "packet_type") (lit packetType))
    (cp "HOLD_PACKET_SCHEMA_MISMATCH")
  raiseIf (¬pyEq (p.get "protocol_version") (lit protocolVersion) ∨
      ¬pyEq (p.get "executor_contract") (lit executorContract))
    (cp "HOLD_PROTOCOL_CONTRACT_MISMATCH")
  raiseIf (¬pyEq (p.get "founder_definition") (lit founderDefinition)) (cp "HOLD_FOUNDER_DEFINITION_MISMATCH")
  let digest ← packetSha256 packet
  raiseIf (¬pyEq (p.get "packet_sha256") (.str digest)) (cp "HOLD_PACKET_SELF_HASH_MISMATCH")

/-- The checks of the protocol and of the joint field. -/
def checkField (packet : PyVal) : Except Fault Unit := do
  let descriptor ← protocolDescriptor
  let bytes ← canonicalJsonBytes descriptor
  raiseIf (¬pyEq (packet.get "protocol_descriptor_sha256") (.str (Sha256.hexdigest bytes)))
    (cp "HOLD_PROTOCOL_DESCRIPTOR_DRIFT")
  raiseIf (forbiddenTransferKeys.any fun k => cp k ∈ walkKeys packet)
    (cp "HOLD_DIFFERENTIAL_TRANSFER_FORBIDDEN")
  let field := packet.get "joint_state_field"
  -- a dimension that is a mapping is there
  raiseIf (¬field.isDict ∨ ¬dimensions.all fun dim => (field.get dim).isDict)
    (cp "HOLD_8D_FIELD_INCOMPLETE")
  let d5 := field.get "D5"
  let d6 := field.get "D6"
  let d8 := field.get "D8"
  raiseIf (¬isFalse (d5.get "arbitrary_code_execution") ∨ ¬isFalse (d5.get "canonical_pointer_write") ∨
      ¬isFalse (d5.get "service_restart"))
    (cp "HOLD_EXECUTION_POLICY_ESCALATION")
  raiseIf (¬pyEq (d6.get "mode") (lit "GENERATIVE_STATE_FROM_RULE_BASE_PLUS_U") ∨
      ¬pyEq (d6.get "difference_analysis_role") (lit "UNDERSTANDING_ONLY_NOT_TRANSMISSION") ∨
      ¬isFalse (d6.get "difference_analysis_transmitted") ∨
      ¬pyEq (d6.get "differential_payload_bytes") (.int 0) ∨
      ¬pyEq (d6.get "wire_bytes_metric") (lit "CANONICAL_SERIALIZED_PACKET_BYTES"))
    (cp "HOLD_D6_SEMANTICS_MISMATCH")
  raiseIf (¬pyEq (d8.get "authority") (lit "EXTERNAL_TOTAL_FIELD_REQUIRED") ∨
      ¬isFalse (d8.get "canonical_runtime_effect") ∨ ¬isFalse (d8.get "model_authority"))
    (cp "HOLD_D8_AUTHORITY_ESCALATION")
  validateMaterialBaseContracts packet

/-- The checks of the sums. -/
def checkMetrics (packet : PyVal) (total : Totals) : Except Fault Unit := do
  let metrics := packet.get "metrics"
  raiseIf (¬metrics.isDict) (cp "HOLD_METRICS_INVALID")
  raiseIf (¬pyEq (metrics.get "raw_material_u_bytes") (.int total.u) ∨
      ¬pyEq (metrics.get "target_fact_bytes") (.int total.target) ∨
      ¬pyEq (metrics.get "difference_analysis_payload_bytes") (.int 0) ∨
      ¬pyEq (metrics.get "differential_payload_bytes") (.int 0) ∨
      ¬pyEq (metrics.get "full_target_bytes_transmitted") (.int 0))
    (cp "HOLD_METRICS_MISMATCH")
  let d6 := (packet.get "joint_state_field").get "D6"
  raiseIf (¬pyEq (d6.get "raw_material_u_bytes") (.int total.u) ∨
      ¬pyEq (d6.get "target_fact_bytes") (.int total.target))
    (cp "HOLD_D6_ACCOUNTING_MISMATCH")

/-- `packet.get("file_cells")`, if there are any. -/
def fileCells (packet : PyVal) : Except Fault (List PyVal) :=
  match packet.get "file_cells" with
  | .list (cell :: cells) => .ok (cell :: cells)
  | _ => hold "HOLD_FILE_CELLS_REQUIRED"

/-- `validate_packet`, with what it returns -/
def validatePacket (packet : PyVal) : Except Fault PyVal :=
  match packet with
  | .dict items => do
      checkHead items
      checkField packet
      let cells ← fileCells packet
      let total ← cells.foldlM checkCell ⟨[], 0, 0⟩
      checkMetrics packet total
      let wire ← canonicalJsonBytes packet
      pure (obj [("file_count", .int cells.length), ("packet_sha256", packet.get "packet_sha256"),
        ("raw_material_u_bytes", .int total.u), ("state", lit "PASS_PACKET_VALID"),
        ("target_fact_bytes", .int total.target), ("wire_bytes", .int wire.length)])
  | _ => hold "HOLD_PACKET_MAPPING_REQUIRED"

/-! ### The bytes that are hashed -/

theorem canonicalJsonBytes_of_plain {v : PyVal} (h : PyJson.Plain Encodable v)
    (hfinite : PyJson.allFinite v = true) :
    canonicalJsonBytes v = .ok ((PyJson.write PyJson.compact v).flatMap utf8Char) := by
  rw [canonicalJsonBytes, PyJson.dumps, if_pos h.serialisable, ok_bind, if_neg (not_not.2 hfinite),
    encodeUtf8_ok (h.encodable_write (encodable_cp _) (encodable_cp _))]

/-- What has bytes is serialisable, and its texts can be encoded. -/
theorem plain_of_canonicalJsonBytes {v : PyVal} {bytes : Bytes} (h : canonicalJsonBytes v = .ok bytes) :
    PyJson.Plain Encodable v := by
  rw [canonicalJsonBytes] at h
  obtain ⟨text, htext, h⟩ := bind_eq_ok_iff.1 h
  rw [PyJson.dumps] at htext
  split_ifs at htext with hwritten
  · obtain rfl := Except.ok.inj htext
    by_cases hfinite : PyJson.allFinite v = true
    · rw [if_neg (not_not.2 hfinite)] at h
      exact PyJson.plain_of_encodable_write rfl hwritten (encodeUtf8_isOk_iff.1 h).1
    · rw [if_pos hfinite] at h
      cases h

/-! ### The blocks of a cell -/

/-- The program of a cell runs, and these are the blocks it yields. -/
def Yields (cell : PyVal) (blocks : List Bytes) : Prop :=
  ∃ atoms uMap program outs, cellProgram cell = .ok (atoms, uMap, program) ∧
    program.mapM (opBlock atoms uMap) = .ok outs ∧ blocks = outs.filterMap id

/-- The loop over the operations of a program is a fold over what they yield. -/
theorem foldlM_ops {m : Type → Type} [Monad m] [LawfulMonad m] [MonadLiftT (Except Fault) m] {α : Type}
    (hlift : ∀ {β : Type} (b : β), (liftM (Except.ok b : Except Fault β) : m β) = pure b)
    {atoms : List Bytes} {uMap : UMap} {program : List PyVal} {outs : List (Option Bytes)}
    (h : program.mapM (opBlock atoms uMap) = .ok outs) (body : α → Bytes → m α) (a : α) :
    program.foldlM (fun a op => do
      match ← (opBlock atoms uMap op : Except Fault _) with
      | none => pure a
      | some block => body a block) a = (outs.filterMap id).foldlM body a := by
  induction program generalizing outs a with
  | nil =>
      obtain rfl := pure_eq_ok_iff.1 h
      rfl
  | cons op program ih =>
      rw [List.mapM_cons, bind_eq_ok_iff] at h
      obtain ⟨out, hout, h⟩ := h
      obtain ⟨rest, hrest, h⟩ := bind_eq_ok_iff.1 h
      obtain rfl := pure_eq_ok_iff.1 h
      rw [List.foldlM_cons, hout, hlift, pure_bind]
      cases out with
      | none =>
          have hcons : (none :: rest).filterMap id = rest.filterMap id := rfl
          rw [pure_bind, ih hrest, hcons]
      | some block =>
          have hcons : (some block :: rest).filterMap id = block :: rest.filterMap id := rfl
          rw [hcons, List.foldlM_cons]
          exact bind_congr fun a => ih hrest a

/-- A loop over the blocks of a cell is a fold over the list of them. -/
theorem forBlocks_of_yields {m : Type → Type} [Monad m] [LawfulMonad m] [MonadLiftT (Except Fault) m]
    {α : Type} (hlift : ∀ {β : Type} (b : β), (liftM (Except.ok b : Except Fault β) : m β) = pure b)
    {cell : PyVal} {blocks : List Bytes} (h : Yields cell blocks) (body : α → Bytes → m α) (a : α) :
    forBlocks cell body a = blocks.foldlM body a := by
  obtain ⟨atoms, uMap, program, outs, hprogram, houts, rfl⟩ := h
  rw [forBlocks, hprogram, hlift, pure_bind]
  exact foldlM_ops hlift houts body a

/-- When the loop over the operations has run to its end each of them has yielded what it yields. -/
theorem mapM_of_foldlM_ops {α : Type} {atoms : List Bytes} {uMap : UMap} {program : List PyVal}
    {body : α → Bytes → Except Fault α} {a r : α}
    (h : program.foldlM (fun a op => do
      match ← (opBlock atoms uMap op : Except Fault _) with
      | none => pure a
      | some block => body a block) a = .ok r) : ∃ outs, program.mapM (opBlock atoms uMap) = .ok outs := by
  induction program generalizing a with
  | nil => exact ⟨[], rfl⟩
  | cons op program ih =>
      rw [List.foldlM_cons] at h
      obtain ⟨a', hop, h⟩ := bind_eq_ok_iff.1 h
      obtain ⟨out, hout, -⟩ := bind_eq_ok_iff.1 hop
      obtain ⟨outs, houts⟩ := ih h
      refine ⟨out :: outs, ?_⟩
      rw [List.mapM_cons, show opBlock atoms uMap op = .ok out from hout, ok_bind, houts]
      rfl

/-- When a loop over the blocks of a cell has run to its end there are blocks it has run over. -/
theorem yields_of_forBlocks {α : Type} {cell : PyVal} {body : α → Bytes → Except Fault α} {a r : α}
    (h : forBlocks cell body a = .ok r) : ∃ blocks, Yields cell blocks ∧ blocks.foldlM body a = .ok r := by
  rw [forBlocks] at h
  obtain ⟨⟨atoms, uMap, program⟩, hprogram, h⟩ := bind_eq_ok_iff.1 h
  obtain ⟨outs, houts⟩ := mapM_of_foldlM_ops h
  exact ⟨_, ⟨atoms, uMap, program, outs, hprogram, houts, rfl⟩,
    (foldlM_ops (fun _ => rfl) houts body a).symm.trans h⟩

/-- The loop of the validator keeps what the blocks are together. -/
theorem eq_of_foldlM_produce {blocks : List Bytes} {a r : Bytes} (h : blocks.foldlM produce a = .ok r) :
    r = a ++ blocks.flatten := by
  induction blocks generalizing a with
  | nil =>
      obtain rfl := pure_eq_ok_iff.1 h
      simp
  | cons block blocks ih =>
      rw [List.foldlM_cons] at h
      obtain ⟨a', hproduce, h⟩ := bind_eq_ok_iff.1 h
      obtain ⟨-, -, hproduce⟩ := bind_eq_ok_iff.1 hproduce
      obtain rfl := pure_eq_ok_iff.1 hproduce
      rw [ih h, List.flatten_cons, List.append_assoc]

/-! ### What is accepted -/

/-- A cell that commits to the content of a file: that of the blocks it yields. -/
structure Commitment where
  cell : PyVal
  path : PyStr
  blocks : List Bytes
  safe : safeRelativePath (cell.get "path") = .ok path
  yields : Yields cell blocks
  size : cell.get "target_bytes" = .int blocks.flatten.length
  digest : cell.get "target_sha256" = .str (Sha256.hexdigest blocks.flatten)

/-- The file it commits to. -/
def Commitment.file (c : Commitment) : Path × Bytes := (pathParts c.path, c.blocks.flatten)

theorem targetSize_eq_ok {v : PyVal} {n : ℕ} (h : targetSize v = .ok n) : v = .int n := by
  unfold targetSize at h
  split at h
  · split_ifs at h with hn
    · rw [← Except.ok.inj h, Int.toNat_of_nonneg hn]
    · cases h
  · cases h

/-- A cell that passes commits to a file at a path that is new. -/
theorem checkCell_ok {acc acc' : Totals} {cell : PyVal} (h : checkCell acc cell = .ok acc') :
    ∃ c : Commitment, c.cell = cell ∧ c.path ∉ acc.paths ∧ acc'.paths = c.path :: acc.paths := by
  rw [checkCell] at h
  obtain ⟨-, -, h⟩ := bind_eq_ok_iff.1 h
  obtain ⟨path, hpath, h⟩ := bind_eq_ok_iff.1 h
  obtain ⟨_, hnew, h⟩ := bind_eq_ok_iff.1 h
  obtain ⟨-, -, h⟩ := bind_eq_ok_iff.1 h
  obtain ⟨size, hsize, h⟩ := bind_eq_ok_iff.1 h
  obtain ⟨uMap, -, h⟩ := bind_eq_ok_iff.1 h
  obtain ⟨-, -, h⟩ := bind_eq_ok_iff.1 h
  obtain ⟨-, -, h⟩ := bind_eq_ok_iff.1 h
  obtain ⟨produced, hproduced, h⟩ := bind_eq_ok_iff.1 h
  obtain ⟨_, hcommitted, h⟩ := bind_eq_ok_iff.1 h
  obtain ⟨-, -, h⟩ := bind_eq_ok_iff.1 h
  obtain rfl := pure_eq_ok_iff.1 h
  obtain ⟨blocks, hyields, hfold⟩ := yields_of_forBlocks hproduced
  obtain rfl := eq_of_foldlM_produce hfold
  rw [raiseIf_eq_ok_iff, not_or, not_not, not_not, List.nil_append, pyEq_str] at hcommitted
  have htarget : cell.get "target_bytes" = .int blocks.flatten.length := by
    rw [targetSize_eq_ok hsize, hcommitted.1]
  exact ⟨⟨cell, path, blocks, hpath, hyields, htarget, hcommitted.2⟩, rfl, raiseIf_eq_ok_iff.1 hnew, rfl⟩

/-- The cells that pass commit to files at paths that differ. -/
theorem checkCells_ok {cells : List PyVal} {acc acc' : Totals} (h : cells.foldlM checkCell acc = .ok acc') :
    ∃ commits : List Commitment, commits.map Commitment.cell = cells ∧
      (commits.map Commitment.path).Nodup ∧ ∀ c ∈ commits, c.path ∉ acc.paths := by
  induction cells generalizing acc with
  | nil => exact ⟨[], rfl, List.nodup_nil, by simp⟩
  | cons cell cells ih =>
      rw [List.foldlM_cons] at h
      obtain ⟨acc₁, hcell, htail⟩ := bind_eq_ok_iff.1 h
      obtain ⟨c, rfl, hnew, hpaths⟩ := checkCell_ok hcell
      obtain ⟨commits, rfl, hnodup, hrest⟩ := ih htail
      rw [hpaths] at hrest
      refine ⟨c :: commits, rfl, List.nodup_cons.2 ⟨?_, hnodup⟩, ?_⟩
      · intro hmem
        obtain ⟨c', hc', heq⟩ := List.mem_map.1 hmem
        exact hrest c' hc' (heq ▸ List.mem_cons_self)
      · rw [List.forall_mem_cons]
        exact ⟨hnew, fun c' hc' hin => hrest c' hc' (List.mem_cons_of_mem _ hin)⟩

theorem fileCells_eq_ok {packet : PyVal} {cells : List PyVal} (h : fileCells packet = .ok cells) :
    packet.get "file_cells" = .list cells := by
  unfold fileCells at h
  split at h
  · next heq => rw [heq, Except.ok.inj h]
  · cases h

/-- **What is accepted.**  The cells of an accepted packet commit to files at paths that differ and can be
encoded. -/
theorem validatePacket_ok {packet v : PyVal} (h : validatePacket packet = .ok v) :
    ∃ commits : List Commitment, fileCells packet = .ok (commits.map Commitment.cell) ∧
      (commits.map Commitment.path).Nodup ∧ ∀ c ∈ commits, Encodable c.path := by
  cases packet with
  | dict items =>
      rw [validatePacket] at h
      obtain ⟨-, -, h⟩ := bind_eq_ok_iff.1 h
      obtain ⟨-, -, h⟩ := bind_eq_ok_iff.1 h
      obtain ⟨cells, hcells, h⟩ := bind_eq_ok_iff.1 h
      obtain ⟨total, htotal, h⟩ := bind_eq_ok_iff.1 h
      obtain ⟨-, -, h⟩ := bind_eq_ok_iff.1 h
      obtain ⟨wire, hwire, -⟩ := bind_eq_ok_iff.1 h
      obtain ⟨commits, rfl, hnodup, -⟩ := checkCells_ok htotal
      refine ⟨commits, hcells, hnodup, fun c hc => ?_⟩
      -- the bytes of the packet were taken, and so its texts have bytes
      have hplain := (plain_of_canonicalJsonBytes hwire).get "file_cells"
      rw [fileCells_eq_ok hcells] at hplain
      cases hplain with
      | list _ hcellsPlain =>
          have hcell := hcellsPlain c.cell (List.mem_map_of_mem hc)
          exact encodable_safeRelativePath c.safe (hcell.get "path")
  | _ => cases h

end Gst
