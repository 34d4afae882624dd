/-
**Packets of the native ADI store.**

A packet carries a selection of the records of one store to another: the hashes of all of them, and
the records themselves where the receiver has not said that it holds them.  The receiver checks the
packet, resolves every entry to a record of its own or to one of the packet, rebuilds the source
state from them and compares hashes, and only then appends to its log and accepts the records.

Main definitions:

* `Adi.buildPacket` — `packet`, without the counters;
* `Adi.validatePacket` — `_validate_packet`;
* `Adi.verifyPacket` — the part of `reconstruct` that only reads;
* `Adi.reconstructPacket` — `reconstruct`, without the counters.
-/

import Wuchang.AdiStore

set_option relaxedAutoImplicit false
set_option autoImplicit false

namespace Adi

open Py

/-! ### Building a packet -/

/-- An element of what `dict(…)` is given: a key and its value. -/
def pairOf (v : PyVal) : Except Fault (PyKey × PyVal) := do
  let xs ← elements v
  match xs with
  | [.str k, w] => pure (.str k, w)
  | [.list _, _] => .error (.builtin .typeError)
  | [.dict _, _] => .error (.builtin .typeError)
  | [_, w] => pure (.other, w)
  | _ => .error (.builtin .valueError)

/-- `dict(receiver_lookup or {})`; the latest value of a key comes first. -/
def lookupOf (receiverLookup : PyVal) : Except Fault Items :=
  if receiverLookup.truthy then
    match receiverLookup with
    | .dict items => pure items
    | _ => do
        let xs ← elements receiverLookup
        let pairs ← xs.mapM pairOf
        pure pairs.reverse
  else pure []

/-- How a record is delivered. -/
def deliveryOf (lookup : Items) (r : Rec) : PyVal :=
  if ((getItem lookup r.id).getD .none).eq (.str r.recordSha256) then lit "REFERENCE"
  else lit "STATE_ATOM"

/-- The entry of a record in the reference lookup. -/
def referenceEntry (lookup : Items) (r : Rec) : PyVal :=
  obj [("delivery", deliveryOf lookup r), ("id", .str r.id), ("record_sha256", .str r.recordSha256)]

/-- The records a packet carries. -/
def stateAtoms (lookup : Items) (records : List Rec) : List Rec :=
  records.filter fun r => (deliveryOf lookup r).eq (lit "STATE_ATOM")

/-- The point count of one slice. -/
def sliceCount (s : Store) (slot : ℕ) : Except Fault PyVal :=
  match s.slots.lookup slot with
  | some bucket =>
      pure (obj [("absolute_time_slot", .int slot), ("point_count", .int bucket.length)])
  | none => .error (.builtin .keyError)

/-- `sorted({int(record["time_slot"]) for record in records})` -/
def sortedSlots (records : List Rec) : List ℕ :=
  (records.map Rec.timeSlot).dedup.mergeSort fun a b => a ≤ b

/-- What the parts of a packet are made of. -/
structure Summary where
  recordCount : ℕ
  sourceBytes : ℕ
  sourceSha256 : PyStr
  idSetSha256 : PyStr
  referenceSha256 : PyStr
  deltaSha256 : PyStr
  verificationRoot : PyStr

/-- `reference_lookup` -/
def referenceLookup (lookup : Items) (records : List Rec) : PyVal :=
  obj [("entries", .list (records.map (referenceEntry lookup))), ("mode", lit "LOCAL_ID_SHA256_LOOKUP")]

/-- `delta` -/
def deltaOf (atoms : List Rec) : PyVal :=
  obj [("mode", lit "REQUIRED_STATE_ATOMS_ONLY"), ("state_atom_count", .int atoms.length),
    ("state_atoms", .list (atoms.map Rec.toVal))]

/-- `conditions` -/
def conditionsOf (sourceSha256 idSetSha256 : PyStr) : PyVal :=
  obj [("absolute_time_slot_mapping", lit "DIRECT_INTEGER_SLOT"),
    ("collision_resolution", lit "FOUNDER_NATIVE_CENTER_OUT_SPIRAL"),
    ("missing_reference", lit "REQUIRE_STATE_ATOM_FAIL_CLOSED"),
    ("reference_match", lit "ID_AND_RECORD_SHA256"),
    ("target_id_set_sha256", .str idSetSha256), ("target_state_sha256", .str sourceSha256)]

/-- What the verification root is the hash of. -/
def rootBasis (sourceState sourceIdSet reference delta conditions : PyVal) : PyVal :=
  obj [("delta_sha256", delta), ("reconstruction_conditions_sha256", conditions),
    ("reference_lookup_sha256", reference), ("source_id_set_sha256", sourceIdSet),
    ("source_state_sha256", sourceState)]

/-- `dynamic_context_8d` -/
def contextOf (m : Summary) (slices : List PyVal) (conditions : PyVal) : PyVal :=
  obj [("D1", obj [("intent", lit "RECONSTRUCT_EQUIVALENT_NATIVE_ADI_STATE")]),
    ("D2", obj [("record_count", .int m.recordCount), ("state_sha256", .str m.sourceSha256)]),
    ("D3", obj [("coordinate", lit "ABSOLUTE_TIME_HORIZONTAL_SLICES"), ("slices", .list slices)]),
    ("D4", obj [("delta_sha256", .str m.deltaSha256),
      ("reference_lookup_sha256", .str m.referenceSha256)]),
    ("D5", obj [("execution", lit "LOCAL_RECONSTRUCTION_CANDIDATE")]),
    ("D6", obj [("reconstruction_conditions", conditions)]),
    ("D7", obj [("hard_risk", .bool false), ("redlines", .list [])]),
    ("D8", obj [("decision", lit "CANDIDATE"), ("verification_root", .str m.verificationRoot)])]

/-- `packet["source"]` -/
def sourceOf (m : Summary) : PyVal :=
  obj [("id_set_sha256", .str m.idSetSha256), ("record_count", .int m.recordCount),
    ("source_bytes", .int m.sourceBytes), ("state_schema_version", stateSchemaVersion),
    ("state_sha256", .str m.sourceSha256)]

/-- `packet["verification"]` -/
def verificationOf (m : Summary) : PyVal :=
  obj [("delta_sha256", .str m.deltaSha256), ("reference_lookup_sha256", .str m.referenceSha256),
    ("source_id_set_sha256", .str m.idSetSha256), ("source_state_sha256", .str m.sourceSha256),
    ("verification_root", .str m.verificationRoot)]

/-- A packet without its hash. -/
def packetBasis (m : Summary) (slices : List PyVal) (conditions reference delta : PyVal) :
    List (String × PyVal) :=
  [("delta", delta), ("dynamic_context_8d", contextOf m slices conditions),
    ("packet_type", lit "W7TP_NATIVE_ADI_8D_DYNAMIC_CONTEXT"),
    ("protocol_version", protocolVersion), ("reconstruction_conditions", conditions),
    ("reference_lookup", reference),
    ("risk_assessment", obj [("hard_risk", .bool false), ("redlines", .list [])]),
    ("schema_version", packetSchemaVersion), ("source", sourceOf m),
    ("total_field_decision", lit "CANDIDATE"), ("verification", verificationOf m)]

/-- `packet`, without the counters -/
def buildPacket (s : Store) (ids receiverLookup : PyVal) : Except Fault PyVal := do
  let records ← selectedRecords s ids
  let lookup ← lookupOf receiverLookup
  let sourceState ← stateDocument records
  let sourceBytes ← canonicalBytes sourceState
  let sourceSha256 := Sha256.hexdigest sourceBytes
  let idSetSha256 ← canonicalSha256 (.list ((sortTexts (records.map Rec.id)).map PyVal.str))
  let reference := referenceLookup lookup records
  let delta := deltaOf (stateAtoms lookup records)
  let slices ← (sortedSlots records).mapM (sliceCount s)
  let conditions := conditionsOf sourceSha256 idSetSha256
  let referenceSha256 ← canonicalSha256 reference
  let deltaSha256 ← canonicalSha256 delta
  let conditionsSha256 ← canonicalSha256 conditions
  let verificationRoot ← canonicalSha256 (rootBasis (.str sourceSha256) (.str idSetSha256)
    (.str referenceSha256) (.str deltaSha256) (.str conditionsSha256))
  let m : Summary := ⟨records.length, sourceBytes.length, sourceSha256, idSetSha256, referenceSha256,
    deltaSha256, verificationRoot⟩
  let basis := fields (packetBasis m slices conditions reference delta)
  let sha ← canonicalSha256 (.dict basis)
  pure (.dict (setKey (cp "packet_sha256") (.str sha) basis))

/-! ### Checking a packet -/

/-- The keys of a packet. -/
def packetKeys : List String :=
  ["protocol_version", "schema_version", "packet_type", "total_field_decision", "dynamic_context_8d",
    "source", "reference_lookup", "delta", "reconstruction_conditions", "verification",
    "risk_assessment", "packet_sha256"]

/-- The keys of a context. -/
def contextKeys : List String := ["D1", "D2", "D3", "D4", "D5", "D6", "D7", "D8"]

/-- `isinstance(v, Mapping) and set(v) == {…}` -/
def hasKeys (v : PyVal) (ks : List String) : Bool :=
  match v with
  | .dict items => keysAre items ks
  | _ => false

/-- `_packet_hash_basis` -/
def packetHashBasis (packet : PyVal) : Except Fault PyVal :=
  match packet with
  | .dict items => normalize (.dict (eraseKey (cp "packet_sha256") items))
  | _ => .error (.builtin .typeError)

/-- The path of an entry of the reference lookup. -/
def entryPath (i : ℕ) : PyStr := cp "$.reference_lookup.entries[" ++ intText i ++ cp "]"

/-- `value in {"REFERENCE", "STATE_ATOM"}`, for which the value has to be hashable -/
def isDelivery (v : PyVal) : Except Fault Bool :=
  match v with
  | .list _ => .error (.builtin .typeError)
  | .dict _ => .error (.builtin .typeError)
  | v => pure (v.eq (lit "REFERENCE") || v.eq (lit "STATE_ATOM"))

/-- `isinstance(digest, str)` and 64 hexadecimal digits -/
def isDigest : PyVal → Bool
  | .str s => Sha256.isHex64 s
  | _ => false

/-- The loop over the entries of the reference lookup, from the entry `i` on. -/
def checkEntries (i : ℕ) (seen : List PyStr) : List PyVal → Except Fault Unit
  | [] => pure ()
  | entry :: entries => do
      holdIf (¬hasKeys entry ["id", "record_sha256", "delivery"]) "PACKET_REFERENCE_ENTRY_INVALID"
        (entryPath i)
      let recordId ← requireId (entry.get "id") (entryPath i ++ cp ".id")
      holdIf (¬isDigest (entry.get "record_sha256")) "PACKET_REFERENCE_HASH_INVALID" (entryPath i)
      let known ← isDelivery (entry.get "delivery")
      holdIf (¬known) "PACKET_DELIVERY_MODE_INVALID" (entryPath i)
      holdIf (recordId ∈ seen) "PACKET_REFERENCE_DUPLICATE" (entryPath i)
      checkEntries (i + 1) (recordId :: seen) entries

/-- The elements of a list, none for anything else. -/
def listOf : PyVal → List PyVal
  | .list xs => xs
  | _ => []

/-- `isinstance(v, list)` -/
def isList : PyVal → Bool
  | .list _ => true
  | _ => false

/-- `v is False` -/
def isFalseValue : PyVal → Bool
  | .bool false => true
  | _ => false

/-- The checks of the header of a normalised packet: versions, decision, context and hash. -/
def checkHeader (packet : PyVal) : Except Fault Unit := do
  holdIf (¬(packet.get "protocol_version").eq protocolVersion) "PACKET_PROTOCOL_VERSION_INVALID" root
  holdIf (¬(packet.get "schema_version").eq packetSchemaVersion) "PACKET_SCHEMA_VERSION_INVALID" root
  holdIf (¬(packet.get "packet_type").eq (lit "W7TP_NATIVE_ADI_8D_DYNAMIC_CONTEXT"))
    "PACKET_TYPE_INVALID" root
  holdIf (¬(packet.get "total_field_decision").eq (lit "CANDIDATE"))
    "PACKET_CANDIDATE_DECISION_REQUIRED" root
  holdIf (¬hasKeys (packet.get "dynamic_context_8d") contextKeys) "PACKET_8D_CONTEXT_INVALID" root
  let basis ← packetHashBasis packet
  let sha ← canonicalSha256 basis
  holdIf (¬(packet.get "packet_sha256").eq (.str sha)) "PACKET_SHA256_MISMATCH" root

/-- The checks of the source and of the reference lookup. -/
def checkReferences (source lookup : PyVal) : Except Fault Unit := do
  holdIf (¬(source.isDict ∧ (source.get "state_schema_version").eq stateSchemaVersion))
    "PACKET_SOURCE_SCHEMA_INVALID" root
  holdIf (¬(lookup.isDict ∧ (lookup.get "mode").eq (lit "LOCAL_ID_SHA256_LOOKUP")))
    "PACKET_REFERENCE_LOOKUP_INVALID" root
  let entries := listOf (lookup.get "entries")
  holdIf (¬isList (lookup.get "entries") ∨ entries = []) "PACKET_REFERENCE_LOOKUP_REQUIRED" root
  holdIf (¬(source.get "record_count").eq (.int entries.length)) "PACKET_RECORD_COUNT_MISMATCH" root
  checkEntries 0 [] entries

/-- The checks of the delta, the conditions and the risk assessment, and of the hashes of all of
them. -/
def checkVerification (lookup delta conditions verification risk : PyVal) : Except Fault Unit := do
  holdIf (¬(delta.isDict ∧ (delta.get "mode").eq (lit "REQUIRED_STATE_ATOMS_ONLY")))
    "PACKET_DELTA_INVALID" root
  let atoms := delta.get "state_atoms"
  holdIf (¬(isList atoms ∧ (delta.get "state_atom_count").eq (.int (listOf atoms).length)))
    "PACKET_STATE_ATOMS_INVALID" root
  holdIf (¬(conditions.isDict ∧ conditions.truthy)) "PACKET_RECONSTRUCTION_CONDITIONS_REQUIRED" root
  holdIf (¬(verification.isDict ∧ (verification.get "verification_root").truthy))
    "PACKET_VERIFICATION_ROOT_REQUIRED" root
  let lookupSha256 ← canonicalSha256 lookup
  holdIf (¬(verification.get "reference_lookup_sha256").eq (.str lookupSha256))
    "PACKET_REFERENCE_ROOT_MISMATCH" root
  let deltaSha256 ← canonicalSha256 delta
  holdIf (¬(verification.get "delta_sha256").eq (.str deltaSha256)) "PACKET_DELTA_ROOT_MISMATCH" root
  let conditionsSha256 ← canonicalSha256 conditions
  let expected ← canonicalSha256 (rootBasis (verification.get "source_state_sha256")
    (verification.get "source_id_set_sha256") (verification.get "reference_lookup_sha256")
    (verification.get "delta_sha256") (.str conditionsSha256))
  holdIf (¬(verification.get "verification_root").eq (.str expected))
    "PACKET_VERIFICATION_ROOT_MISMATCH" root
  holdIf (¬(risk.isDict ∧ isFalseValue (risk.get "hard_risk") ∧ (risk.get "redlines").eq (.list [])))
    "PACKET_HARD_RISK_BLOCKED" root

/-- `_validate_packet` -/
def validatePacket (packet : PyVal) : Except Fault PyVal := do
  holdIf (¬hasKeys packet packetKeys) "PACKET_SCHEMA_INVALID" root
  let normalized ← normalize packet
  checkHeader normalized
  checkReferences (normalized.get "source") (normalized.get "reference_lookup")
  checkVerification (normalized.get "reference_lookup") (normalized.get "delta")
    (normalized.get "reconstruction_conditions") (normalized.get "verification")
    (normalized.get "risk_assessment")
  pure normalized

/-! ### Reconstruction -/

/-- The loop over the state atoms: the records a packet carries, by id. -/
def readAtoms (atoms : List Rec) : List PyVal → Except Fault (List Rec)
  | [] => pure atoms
  | raw :: raws => do
      let atom ← validateSuppliedRecord raw
      holdIf (atom.id ∈ atoms.map Rec.id) "PACKET_STATE_ATOM_DUPLICATE" root
      readAtoms (atoms ++ [atom]) raws

/-- The text of a value that is known to be one. -/
def textOf : PyVal → PyStr
  | .str s => s
  | _ => []

/-- One entry is resolved to a record of the store or of the packet; the id of a record of the
packet is used up. -/
def resolveEntry (s : Store) (atoms : List Rec) (entry : PyVal) : Except Fault (Rec × List PyStr) :=
  let recordId := textOf (entry.get "id")
  if (entry.get "delivery").eq (lit "REFERENCE") then
    match s.records.lookup recordId with
    | some r =>
        if PyVal.eq (.str r.recordSha256) (entry.get "record_sha256") then pure (r, [])
        else hold "REFERENCE_LOOKUP_MISS" (cp "$.reference_lookup." ++ recordId)
    | none => hold "REFERENCE_LOOKUP_MISS" (cp "$.reference_lookup." ++ recordId)
  else
    match atoms.find? fun r => r.id = recordId with
    | some r =>
        if PyVal.eq (.str r.recordSha256) (entry.get "record_sha256") then pure (r, [recordId])
        else hold "REQUIRED_STATE_ATOM_MISSING" (cp "$.delta." ++ recordId)
    | none => hold "REQUIRED_STATE_ATOM_MISSING" (cp "$.delta." ++ recordId)

/-- The loop over the entries: the records, and the ids that are used up. -/
def resolveEntries (s : Store) (atoms : List Rec) :
    List PyVal → Except Fault (List Rec × List PyStr)
  | [] => pure ([], [])
  | entry :: entries => do
      let (r, used) ← resolveEntry s atoms entry
      let (rs, useds) ← resolveEntries s atoms entries
      pure (r :: rs, used ++ useds)

/-- What has been verified of a packet before anything is changed. -/
structure Verified where
  /-- `verified_packet` -/
  packet : PyVal
  /-- `ordered` -/
  ordered : List Rec
  /-- `reconstructed_state` -/
  state : PyVal
  /-- `len(reconstructed_bytes)` -/
  bytes : ℕ
  /-- `reconstructed_sha256` -/
  sha256 : PyStr
  /-- `source["state_sha256"]` -/
  sourceSha256 : PyVal
  /-- `source["source_bytes"]` -/
  sourceBytes : PyVal

/-- The part of `reconstruct` before the event is appended: it only reads. -/
def verifyPacket (s : Store) (packet : PyVal) : Except Fault Verified := do
  let verified ← validatePacket packet
  let entries := listOf ((verified.get "reference_lookup").get "entries")
  let atoms ← readAtoms [] (listOf ((verified.get "delta").get "state_atoms"))
  let (resolved, used) ← resolveEntries s atoms entries
  holdIf (∃ r ∈ atoms, r.id ∉ used) "UNREFERENCED_STATE_ATOM_FORBIDDEN" root
  let ordered := sortRecords resolved
  let state ← stateDocument ordered
  let bytes ← canonicalBytes state
  let sha256 := Sha256.hexdigest bytes
  let idsSha256 ← canonicalSha256 (.list ((sortTexts (ordered.map Rec.id)).map PyVal.str))
  let source := verified.get "source"
  let sourceSha256 ← source.at "state_sha256"
  let sourceIds ← source.at "id_set_sha256"
  let sourceBytes ← source.at "source_bytes"
  holdIf (¬(PyVal.eq (.str sha256) sourceSha256 ∧ PyVal.eq (.str idsSha256) sourceIds ∧
      PyVal.eq (.int bytes.length) sourceBytes ∧ entries ≠ [] ∧
      (verified.get "reconstruction_conditions").truthy ∧
      ((verified.get "verification").get "verification_root").truthy))
    "TOTAL_FIELD_RECONSTRUCTION_VERIFICATION_FAILED" root
  pure ⟨verified, ordered, state, bytes.length, sha256, sourceSha256, sourceBytes⟩

/-- The records that the store does not hold yet. -/
def newlyAccepted (s : Store) (ordered : List Rec) : List Rec :=
  ordered.filter fun r => r.id ∉ s.records

/-- The event of a reconstruction is appended, if there is anything new. -/
def appendReconstruction (now : String) (v : Verified) : EStateM Fault Store Unit := do
  let s ← get
  if newlyAccepted s v.ordered = [] then pure ()
  else
    appendEvent now "RECONSTRUCT_ALLOW" (obj
      [("records", .list ((newlyAccepted s v.ordered).map Rec.toVal)),
        ("source_packet_sha256", v.packet.get "packet_sha256")])

/-- `d[k] = v`, which only a dictionary takes. -/
def setItem (d : PyVal) (k : String) (v : PyVal) : Except Fault PyVal :=
  match d with
  | .dict items => pure (.dict (setKey (cp k) v items))
  | _ => .error (.builtin .typeError)

/-- The packet that was allowed. -/
def allowedPacket (packet : PyVal) : Except Fault PyVal := do
  let allowed ← normalize packet
  let allowed ← setItem allowed "total_field_decision" (lit "ALLOW")
  let context ← allowed.at "dynamic_context_8d"
  let d8 ← context.at "D8"
  let d8 ← setItem d8 "decision" (lit "ALLOW")
  let context ← setItem context "D8" d8
  let allowed ← setItem allowed "dynamic_context_8d" context
  let basis ← packetHashBasis allowed
  let sha ← canonicalSha256 basis
  setItem allowed "packet_sha256" (.str sha)

/-- The checks of a packet that was allowed: all of them passed. -/
def allChecks : PyVal :=
  obj [("byte_equivalent", .bool true), ("hard_risk_clear", .bool true),
    ("id_set_equivalent", .bool true), ("protocol_and_schema_present", .bool true),
    ("reconstruction_conditions_present", .bool true), ("reference_or_lookup_present", .bool true),
    ("schema_valid", .bool true), ("source_hash_equals_reconstructed_hash", .bool true),
    ("verification_root_present", .bool true)]

/-- What `reconstruct` returns. -/
def reconstructed (v : Verified) (allowed : PyVal) : PyVal :=
  obj [("authorized_packet", allowed), ("checks", allChecks),
    ("query_result_count", .int v.ordered.length), ("reconstructed_bytes", .int v.bytes),
    ("reconstructed_sha256", .str v.sha256), ("reconstructed_state", v.state),
    ("record_count", .int v.ordered.length), ("source_bytes", v.sourceBytes),
    ("source_sha256", v.sourceSha256), ("state", lit "PASS_RECONSTRUCTED_EQUIVALENT_STATE"),
    ("total_field_decision", lit "ALLOW")]

/-- `reconstruct`, without the counters -/
def reconstructPacket (now : String) (packet : PyVal) : EStateM Fault Store PyVal := do
  let s ← get
  let v ← verifyPacket s packet
  appendReconstruction now v
  acceptAll (v.ordered.map Rec.toVal)
  persistSnapshot
  let allowed ← allowedPacket v.packet
  pure (reconstructed v allowed)

end Adi
