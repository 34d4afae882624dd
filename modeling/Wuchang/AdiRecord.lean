/-
**Records of the native ADI store.**

A record is a point of a time slot: an id, the slot, the collision index with its position on the
spiral, a payload, and the hash of all of these.  A record is built from an id, a slot and a payload,
or it is supplied by somebody else; a supplied record is accepted when building it again yields
the same record.

Main definitions:

* `Adi.Rec` — a record, and `Adi.Rec.toVal`, the dictionary the code keeps;
* `Adi.buildRecord` — `_build_record`;
* `Adi.validateSuppliedRecord` — `_validate_supplied_record`;
* `Adi.Rec.Valid` — building the record from its own fields yields it.

Main results:

* `Adi.valid_of_buildRecord` — what is built is valid;
* `Adi.Rec.Valid.validate` — a valid record passes the check of supplied records unchanged.
-/

import Wuchang.AdiSpiral

set_option relaxedAutoImplicit false
set_option autoImplicit false

namespace Adi

open Py

/-! ### Ids and slots -/

/-- `[A-Za-z0-9]` -/
def isAlnum (c : ℕ) : Bool :=
  (65 ≤ c && c ≤ 90) || (97 ≤ c && c ≤ 122) || (48 ≤ c && c ≤ 57)

/-- `ID_PATTERN.fullmatch(value)`: `[A-Za-z0-9][A-Za-z0-9._:-]{0,127}` -/
def isId : PyStr → Bool
  | [] => false
  | c :: cs => isAlnum c && cs.length ≤ 127 && cs.all fun d => isAlnum d || (cp "._:-").contains d

/-- `_require_id` -/
def requireId (v : PyVal) (path : PyStr) : Except Fault PyStr :=
  match v with
  | .str s => do
      holdIf (¬isId s) "RECORD_ID_INVALID" path
      pure s
  | _ => hold "RECORD_ID_INVALID" path

/-- `_require_time_slot` -/
def requireTimeSlot (v : PyVal) (path : PyStr) : Except Fault ℕ :=
  match v with
  | .int n => do
      holdIf (n < 0 ∨ n > maxTimeSlot) "ABSOLUTE_TIME_SLOT_INVALID" path
      pure n.toNat
  | _ => hold "ABSOLUTE_TIME_SLOT_INVALID" path

theorem requireId_eq_ok_iff {v : PyVal} {path s : PyStr} :
    requireId v path = .ok s ↔ v = .str s ∧ isId s = true := by
  cases v with
  | str t =>
      simp only [requireId, bind_eq_ok_iff, holdIf_eq_ok_iff, pure_eq_ok_iff, exists_const,
        not_not, PyVal.str.injEq]
      constructor
      · rintro ⟨h, rfl⟩
        exact ⟨rfl, h⟩
      · rintro ⟨rfl, h⟩
        exact ⟨h, rfl⟩
  | _ => simp [requireId, hold]

theorem requireTimeSlot_eq_ok_iff {v : PyVal} {path : PyStr} {n : ℕ} :
    requireTimeSlot v path = .ok n ↔ v = .int n ∧ (n : ℤ) ≤ maxTimeSlot := by
  cases v with
  | int m =>
      simp only [requireTimeSlot, bind_eq_ok_iff, holdIf_eq_ok_iff, pure_eq_ok_iff, exists_const,
        PyVal.int.injEq]
      constructor
      · rintro ⟨h, rfl⟩
        exact ⟨by omega, by omega⟩
      · rintro ⟨rfl, h⟩
        exact ⟨by omega, by omega⟩
  | _ => simp [requireTimeSlot, hold]

/-- An id is ASCII. -/
theorem encodable_of_isId {s : PyStr} (h : isId s = true) : Encodable s := by
  have halnum : ∀ c, isAlnum c = true → ¬IsSurrogate c := by
    intro c hc
    simp only [isAlnum, Bool.or_eq_true, Bool.and_eq_true, decide_eq_true_eq] at hc
    unfold IsSurrogate
    omega
  cases s with
  | nil => simp
  | cons c cs =>
      simp only [isId, Bool.and_eq_true, List.all_eq_true, Bool.or_eq_true] at h
      obtain ⟨⟨hc, -⟩, hcs⟩ := h
      refine List.forall_mem_cons.2 ⟨halnum c hc, fun d hd => ?_⟩
      rcases hcs d hd with hd | hd
      · exact halnum d hd
      · exact encodable_cp "._:-" d (by simpa using hd)

/-! ### Records -/

/-- A record. -/
structure Rec where
  id : PyStr
  timeSlot : ℕ
  collisionIndex : ℕ
  position : ℤ × ℤ
  payload : PyVal
  recordSha256 : PyStr

namespace Rec

/-- The dictionary of a record before its hash is added. -/
def basis (r : Rec) : Items :=
  fields [("collision_index", .int r.collisionIndex), ("id", .str r.id), ("payload", r.payload),
    ("spiral_position", obj [("x", .int r.position.1), ("y", .int r.position.2)]),
    ("time_slot", .int r.timeSlot)]

/-- The dictionary of a record. -/
def toVal (r : Rec) : PyVal := .dict (setKey (cp "record_sha256") (.str r.recordSha256) r.basis)

end Rec

/-- `_build_record` -/
def buildRecord (recordId timeSlot payload : PyVal) (collisionIndex : ℤ) : Except Fault Rec := do
  let safeId ← requireId recordId (cp "$.id")
  let safeSlot ← requireTimeSlot timeSlot (cp "$.time_slot")
  let safePayload ← normalizeJson (cp "$.payload") payload
  holdIf (¬safePayload.isDict) "PAYLOAD_OBJECT_REQUIRED" (cp "$.payload")
  let text ← canonicalBytes safePayload
  holdIf (text.length > maxPayloadBytes) "PAYLOAD_TOO_LARGE" (cp "$.payload")
  let position ← spiralPosition collisionIndex
  let record : Rec := ⟨safeId, safeSlot, collisionIndex.toNat, position, safePayload, []⟩
  let sha ← canonicalSha256 (.dict record.basis)
  pure { record with recordSha256 := sha }

/-- The keys of a record. -/
def recordKeys : List String :=
  ["id", "time_slot", "collision_index", "spiral_position", "payload", "record_sha256"]

/-- `_validate_supplied_record` -/
def validateSuppliedRecord (supplied : PyVal) : Except Fault Rec :=
  match supplied with
  | .dict items => do
      holdIf (¬keysAre items recordKeys) "RECORD_SHAPE_INVALID" root
      match supplied.get "collision_index" with
      | .int collisionIndex => do
          let rebuilt ← buildRecord (supplied.get "id") (supplied.get "time_slot")
            (supplied.get "payload") collisionIndex
          let normalized ← normalize supplied
          holdIf (¬rebuilt.toVal.eq normalized) "RECORD_INTEGRITY_MISMATCH" root
          pure rebuilt
      | _ => hold "COLLISION_INDEX_INVALID" (cp "$.collision_index")
  | _ => hold "RECORD_SHAPE_INVALID" root

/-! ### Dictionaries of records -/

namespace Rec

/-- The dictionary of a record before its hash is added can be hashed. -/
theorem canonical_basis {r : Rec} (hid : isId r.id = true) (hp : Canonical r.payload) :
    Canonical (.dict r.basis) := by
  have hpos : Canonical (obj [("x", .int r.position.1), ("y", .int r.position.2)]) :=
    .obj ["x", "y"] rfl (literalKeys (by decide)) (by simp [Canonical.int])
  refine .obj ["collision_index", "id", "payload", "spiral_position", "time_slot"] rfl
    (by decide) ?_
  simp [Canonical.int, Canonical.str (encodable_of_isId hid), hp, hpos]

theorem toVal_eq (r : Rec) : r.toVal =
    obj [("collision_index", .int r.collisionIndex), ("id", .str r.id), ("payload", r.payload),
      ("record_sha256", .str r.recordSha256),
      ("spiral_position", obj [("x", .int r.position.1), ("y", .int r.position.2)]),
      ("time_slot", .int r.timeSlot)] := by
  simp +decide [toVal, basis, obj, setKey_fields, setField]

/-- The dictionary of a record can be hashed. -/
theorem canonical_toVal {r : Rec} (hid : isId r.id = true) (hp : Canonical r.payload)
    (hsha : Encodable r.recordSha256) : Canonical r.toVal := by
  have hpos : Canonical (obj [("x", .int r.position.1), ("y", .int r.position.2)]) :=
    .obj ["x", "y"] rfl (literalKeys (by decide)) (by simp [Canonical.int])
  rw [toVal_eq]
  refine .obj ["collision_index", "id", "payload", "record_sha256", "spiral_position", "time_slot"]
    rfl (literalKeys (by decide)) ?_
  simp [Canonical.int, Canonical.str (encodable_of_isId hid), Canonical.str hsha, hp, hpos]

end Rec

/-! ### Valid records -/

/-- What is built is determined by the arguments, and the arguments are fit. -/
theorem buildRecord_eq_ok_iff {recordId timeSlot payload : PyVal} {collisionIndex : ℤ} {r : Rec} :
    buildRecord recordId timeSlot payload collisionIndex = .ok r ↔
      (recordId = .str r.id ∧ isId r.id = true) ∧
      (timeSlot = .int r.timeSlot ∧ (r.timeSlot : ℤ) ≤ maxTimeSlot) ∧
      normalizeJson (cp "$.payload") payload = .ok r.payload ∧
      r.payload.isDict = true ∧ Canonical r.payload ∧
      (Canonical.bytes r.payload).length ≤ maxPayloadBytes ∧
      collisionIndex = r.collisionIndex ∧ r.position = spiral r.collisionIndex ∧
      r.recordSha256 = Canonical.sha256 (.dict r.basis) := by
  simp only [buildRecord, bind_eq_ok_iff, requireId_eq_ok_iff, requireTimeSlot_eq_ok_iff,
    holdIf_eq_ok_iff, canonicalBytes_eq_ok_iff, spiralPosition_eq_ok_iff, pure_eq_ok_iff,
    exists_const]
  constructor
  · rintro ⟨id, hid, slot, hslot, payload, hnorm, hdict, _, ⟨w, hw, hc, rfl⟩, hlen, position,
      ⟨hnonneg, rfl⟩, sha, hsha, rfl⟩
    -- the payload is normal already, so normalising it again changes nothing
    obtain rfl : payload = w := by
      rw [normalize, normalize_of_normal (normal_of_normalize _ _ _ hnorm)] at hw
      exact Except.ok.inj hw
    rw [(Rec.canonical_basis hid.2 hc).canonicalSha256] at hsha
    exact ⟨hid, hslot, hnorm, by simpa using hdict, hc, by simpa using hlen, by simp [hnonneg],
      rfl, (Except.ok.inj hsha).symm⟩
  · rintro ⟨hid, hslot, hnorm, hdict, hc, hlen, rfl, hpos, hsha⟩
    refine ⟨r.id, hid, r.timeSlot, hslot, r.payload, hnorm, by simp [hdict], _,
      ⟨r.payload, hc.normalize, hc, rfl⟩, by simpa using hlen, r.position, ⟨by omega, ?_⟩,
      r.recordSha256, ?_, rfl⟩
    · rw [hpos, Int.toNat_natCast]
    · rw [hsha]
      exact (Rec.canonical_basis hid.2 hc).canonicalSha256

/-- Building a record from its own fields yields it. -/
def Rec.Valid (r : Rec) : Prop :=
  buildRecord (.str r.id) (.int r.timeSlot) r.payload r.collisionIndex = .ok r

/-- What is built is valid. -/
theorem valid_of_buildRecord {recordId timeSlot payload : PyVal} {collisionIndex : ℤ} {r : Rec}
    (h : buildRecord recordId timeSlot payload collisionIndex = .ok r) : r.Valid := by
  obtain ⟨⟨rfl, hid⟩, ⟨rfl, hslot⟩, hnorm, hdict, hc, hlen, rfl, hpos, hsha⟩ :=
    buildRecord_eq_ok_iff.1 h
  exact buildRecord_eq_ok_iff.2 ⟨⟨rfl, hid⟩, ⟨rfl, hslot⟩, normalize_of_normal hc.normal _, hdict, hc,
    hlen, rfl, hpos, hsha⟩

namespace Rec.Valid

variable {r : Rec}

theorem isId (h : r.Valid) : isId r.id = true := (buildRecord_eq_ok_iff.1 h).1.2

theorem timeSlot_le (h : r.Valid) : (r.timeSlot : ℤ) ≤ maxTimeSlot :=
  (buildRecord_eq_ok_iff.1 h).2.1.2

theorem position (h : r.Valid) : r.position = spiral r.collisionIndex := by
  obtain ⟨-, -, -, -, -, -, -, hpos, -⟩ := buildRecord_eq_ok_iff.1 h
  exact hpos

/-- The dictionary of a valid record can be hashed. -/
theorem canonical (h : r.Valid) : Canonical r.toVal := by
  obtain ⟨⟨-, hid⟩, -, -, -, hc, -, -, -, hsha⟩ := buildRecord_eq_ok_iff.1 h
  exact canonical_toVal hid hc (hsha ▸ Sha256.encodable_hexdigest _)

/-- A valid record passes the check of supplied records unchanged. -/
theorem validate (h : r.Valid) : validateSuppliedRecord r.toVal = .ok r := by
  have hnorm := h.canonical.normalize
  have heq : r.toVal.eq r.toVal := h.canonical.normal.eq_refl
  have hbuild : buildRecord (r.toVal.get "id") (r.toVal.get "time_slot") (r.toVal.get "payload")
      r.collisionIndex = .ok r := by
    simpa [Rec.toVal_eq, Rec.Valid] using h
  have hindex : r.toVal.get "collision_index" = .int r.collisionIndex := by simp [Rec.toVal_eq]
  rw [Rec.toVal_eq, obj] at hnorm heq hbuild hindex ⊢
  rw [validateSuppliedRecord, holdIf_neg (by simp [recordKeys]), ok_bind, hindex]
  dsimp only
  rw [hbuild, ok_bind, hnorm, ok_bind, Rec.toVal_eq, obj, holdIf_neg (not_not.2 heq)]
  rfl

end Rec.Valid

/-- A supplied record that is accepted is valid, whatever form it came in. -/
theorem valid_of_validate {supplied : PyVal} {r : Rec}
    (h : validateSuppliedRecord supplied = .ok r) : r.Valid := by
  cases supplied with
  | dict items =>
      simp only [validateSuppliedRecord, bind_eq_ok_iff] at h
      obtain ⟨_, -, h⟩ := h
      split at h
      · simp only [bind_eq_ok_iff, pure_eq_ok_iff] at h
        obtain ⟨rebuilt, hbuild, _, -, _, -, rfl⟩ := h
        exact valid_of_buildRecord hbuild
      · simp [hold] at h
  | _ => simp [validateSuppliedRecord, hold] at h

end Adi
