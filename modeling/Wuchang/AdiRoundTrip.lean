/-
**A packet that was built is verified.**

The receiver of a packet checks it, resolves every entry, rebuilds the source state and compares
hashes.  A packet built by a well-formed store from a non-empty selection passes all of that at any
receiver that holds the records the packet refers to, and what has been verified are the records of
the selection.  Nothing about the hash function is used but that it is a function.

Main definitions:

* `Adi.summaryOf`, `Adi.packetDoc` — the packet of a selection, with its hashes in closed form.

Main results:

* `Adi.buildPacket_eq` — the packet that is built;
* `Adi.validatePacket_packetDoc` — it passes the checks of a packet;
* `Adi.verifyPacket_packetDoc` — it is verified, and carries the selection;
* `Adi.allowedReply_packetDoc` — it is allowed.
-/

import Wuchang.AdiDelivery
import Mathlib.Data.List.Dedup

set_option relaxedAutoImplicit false
set_option autoImplicit false

namespace Adi

open Py

/-! ### The packet in closed form -/

/-- The ids of a selection, sorted. -/
def idSet (rs : List Rec) : PyVal := .list ((sortTexts (rs.map Rec.id)).map PyVal.str)

/-- The conditions of a selection. -/
def conditionsDoc (rs : List Rec) : PyVal :=
  conditionsOf (Canonical.sha256 (stateDoc rs)) (Canonical.sha256 (idSet rs))

/-- The delta of a selection. -/
def deltaDoc (lookup : Items) (rs : List Rec) : PyVal := deltaOf (stateAtoms lookup rs)

/-- What the verification root of a selection is the hash of. -/
def rootDoc (lookup : Items) (rs : List Rec) : PyVal :=
  rootBasis (.str (Canonical.sha256 (stateDoc rs))) (.str (Canonical.sha256 (idSet rs)))
    (.str (Canonical.sha256 (referenceLookup lookup rs))) (.str (Canonical.sha256 (deltaDoc lookup rs)))
    (.str (Canonical.sha256 (conditionsDoc rs)))

/-- The summary of a selection. -/
def summaryOf (lookup : Items) (rs : List Rec) : Summary where
  recordCount := rs.length
  sourceBytes := (Canonical.bytes (stateDoc rs)).length
  sourceSha256 := Canonical.sha256 (stateDoc rs)
  idSetSha256 := Canonical.sha256 (idSet rs)
  referenceSha256 := Canonical.sha256 (referenceLookup lookup rs)
  deltaSha256 := Canonical.sha256 (deltaDoc lookup rs)
  verificationRoot := Canonical.sha256 (rootDoc lookup rs)

/-- A packet without its hash. -/
def packetBasisDoc (lookup : Items) (rs : List Rec) (slices : List PyVal) : List (String × PyVal) :=
  packetBasis (summaryOf lookup rs) slices (conditionsDoc rs) (referenceLookup lookup rs)
    (deltaDoc lookup rs)

/-- The packet of a selection. -/
def packetDoc (lookup : Items) (rs : List Rec) (slices : List PyVal) : PyVal :=
  .dict (setKey (cp "packet_sha256")
    (.str (Canonical.sha256 (obj (packetBasisDoc lookup rs slices))))
    (fields (packetBasisDoc lookup rs slices)))

/-! ### Its parts can be hashed -/

section Parts

variable {lookup : Items} {rs : List Rec}

theorem canonical_idSet (h : ∀ r ∈ rs, r.Valid) : Canonical (idSet rs) := by
  refine .list fun v hv => ?_
  obtain ⟨s, hs, rfl⟩ := List.mem_map.1 hv
  obtain ⟨r, hr, rfl⟩ := List.mem_map.1 (List.mem_mergeSort.1 hs)
  exact .str (encodable_of_isId (h r hr).isId)

theorem deliveryOf_cases (lookup : Items) (r : Rec) :
    deliveryOf lookup r = lit "REFERENCE" ∨ deliveryOf lookup r = lit "STATE_ATOM" := by
  unfold deliveryOf
  split_ifs
  · exact .inl rfl
  · exact .inr rfl

theorem Rec.Valid.sha {r : Rec} (h : r.Valid) :
    r.recordSha256 = Canonical.sha256 (.dict r.basis) := by
  obtain ⟨-, -, -, -, -, -, -, -, hsha⟩ := buildRecord_eq_ok_iff.1 h
  exact hsha

theorem canonical_referenceEntry {r : Rec} (h : r.Valid) : Canonical (referenceEntry lookup r) := by
  refine .obj ["delivery", "id", "record_sha256"] rfl (literalKeys (by decide)) ?_
  have hdelivery : Canonical (deliveryOf lookup r) := by
    rcases deliveryOf_cases lookup r with h | h
    · exact h ▸ .lit _
    · exact h ▸ .lit _
  simp [hdelivery, Canonical.str (encodable_of_isId h.isId), h.sha, Canonical.hash]

theorem canonical_referenceLookup (h : ∀ r ∈ rs, r.Valid) :
    Canonical (referenceLookup lookup rs) := by
  refine .obj ["entries", "mode"] rfl (literalKeys (by decide)) ?_
  have hentries : Canonical (.list (rs.map (referenceEntry lookup))) := by
    refine .list fun v hv => ?_
    obtain ⟨r, hr, rfl⟩ := List.mem_map.1 hv
    exact canonical_referenceEntry (h r hr)
  simp [hentries, Canonical.lit]

theorem valid_stateAtoms (h : ∀ r ∈ rs, r.Valid) : ∀ r ∈ stateAtoms lookup rs, r.Valid :=
  fun r hr => h r (List.mem_of_mem_filter hr)

theorem canonical_deltaDoc (h : ∀ r ∈ rs, r.Valid) : Canonical (deltaDoc lookup rs) := by
  refine .obj ["mode", "state_atom_count", "state_atoms"] rfl (literalKeys (by decide)) ?_
  simp [Canonical.lit, Canonical.int, canonical_records (valid_stateAtoms h)]

theorem canonical_conditionsDoc (rs : List Rec) : Canonical (conditionsDoc rs) := by
  refine .obj ["absolute_time_slot_mapping", "collision_resolution", "missing_reference",
    "reference_match", "target_id_set_sha256", "target_state_sha256"] rfl (literalKeys (by decide)) ?_
  simp [Canonical.lit, Canonical.hash]

theorem canonical_rootDoc (lookup : Items) (rs : List Rec) : Canonical (rootDoc lookup rs) := by
  refine .obj ["delta_sha256", "reconstruction_conditions_sha256", "reference_lookup_sha256",
    "source_id_set_sha256", "source_state_sha256"] rfl (literalKeys (by decide)) ?_
  simp [Canonical.hash]

theorem canonical_risk : Canonical (obj [("hard_risk", .bool false), ("redlines", .list [])]) := by
  refine .obj ["hard_risk", "redlines"] rfl (literalKeys (by decide)) ?_
  simp [Canonical.bool, Canonical.list]

theorem canonical_contextOf {slices : List PyVal} (hslices : ∀ v ∈ slices, Canonical v) :
    Canonical (contextOf (summaryOf lookup rs) slices (conditionsDoc rs)) := by
  have h1 : Canonical (obj [("intent", lit "RECONSTRUCT_EQUIVALENT_NATIVE_ADI_STATE")]) :=
    .obj ["intent"] rfl (literalKeys (by decide)) (by simp [Canonical.lit])
  have h2 : Canonical (obj [("record_count", .int rs.length),
      ("state_sha256", .str (Canonical.sha256 (stateDoc rs)))]) :=
    .obj ["record_count", "state_sha256"] rfl (literalKeys (by decide)) (by simp [Canonical.int, Canonical.hash])
  have h3 : Canonical (obj [("coordinate", lit "ABSOLUTE_TIME_HORIZONTAL_SLICES"),
      ("slices", .list slices)]) :=
    .obj ["coordinate", "slices"] rfl (literalKeys (by decide)) (by simp [Canonical.lit, Canonical.list hslices])
  have h4 : Canonical (obj [("delta_sha256", .str (Canonical.sha256 (deltaDoc lookup rs))),
      ("reference_lookup_sha256", .str (Canonical.sha256 (referenceLookup lookup rs)))]) :=
    .obj ["delta_sha256", "reference_lookup_sha256"] rfl (literalKeys (by decide)) (by simp [Canonical.hash])
  have h5 : Canonical (obj [("execution", lit "LOCAL_RECONSTRUCTION_CANDIDATE")]) :=
    .obj ["execution"] rfl (literalKeys (by decide)) (by simp [Canonical.lit])
  have h6 : Canonical (obj [("reconstruction_conditions", conditionsDoc rs)]) :=
    .obj ["reconstruction_conditions"] rfl (literalKeys (by decide)) (by simp [canonical_conditionsDoc])
  have h8 : Canonical (obj [("decision", lit "CANDIDATE"),
      ("verification_root", .str (Canonical.sha256 (rootDoc lookup rs)))]) :=
    .obj ["decision", "verification_root"] rfl (literalKeys (by decide)) (by simp [Canonical.lit, Canonical.hash])
  refine .obj ["D1", "D2", "D3", "D4", "D5", "D6", "D7", "D8"] rfl (literalKeys (by decide)) ?_
  simp [summaryOf, h1, h2, h3, h4, h5, h6, h8, canonical_risk]

theorem canonical_sourceOf : Canonical (sourceOf (summaryOf lookup rs)) := by
  refine .obj ["id_set_sha256", "record_count", "source_bytes", "state_schema_version",
    "state_sha256"] rfl (literalKeys (by decide)) ?_
  simp [summaryOf, Canonical.int, Canonical.hash, stateSchemaVersion, Canonical.lit]

theorem canonical_verificationOf : Canonical (verificationOf (summaryOf lookup rs)) := by
  refine .obj ["delta_sha256", "reference_lookup_sha256", "source_id_set_sha256",
    "source_state_sha256", "verification_root"] rfl (literalKeys (by decide)) ?_
  simp [summaryOf, Canonical.hash]

/-- The keys of a packet without its hash. -/
def packetBasisKeys : List String :=
  ["delta", "dynamic_context_8d", "packet_type", "protocol_version", "reconstruction_conditions",
    "reference_lookup", "risk_assessment", "schema_version", "source", "total_field_decision",
    "verification"]

theorem canonical_packetBasis {slices : List PyVal} (h : ∀ r ∈ rs, r.Valid)
    (hslices : ∀ v ∈ slices, Canonical v) : Canonical (obj (packetBasisDoc lookup rs slices)) := by
  refine .obj packetBasisKeys rfl (literalKeys (by decide)) ?_
  simp [packetBasisDoc, packetBasis, canonical_deltaDoc h, canonical_contextOf hslices,
    Canonical.lit, protocolVersion, packetSchemaVersion, canonical_conditionsDoc,
    canonical_referenceLookup h, canonical_risk, canonical_sourceOf, canonical_verificationOf]

end Parts

/-- The items of a packet. -/
theorem packetDoc_eq (lookup : Items) (rs : List Rec) (slices : List PyVal) :
    packetDoc lookup rs slices = obj [("delta", deltaDoc lookup rs),
      ("dynamic_context_8d", contextOf (summaryOf lookup rs) slices (conditionsDoc rs)),
      ("packet_sha256", .str (Canonical.sha256 (obj (packetBasisDoc lookup rs slices)))),
      ("packet_type", lit "W7TP_NATIVE_ADI_8D_DYNAMIC_CONTEXT"),
      ("protocol_version", protocolVersion), ("reconstruction_conditions", conditionsDoc rs),
      ("reference_lookup", referenceLookup lookup rs),
      ("risk_assessment", obj [("hard_risk", .bool false), ("redlines", .list [])]),
      ("schema_version", packetSchemaVersion), ("source", sourceOf (summaryOf lookup rs)),
      ("total_field_decision", lit "CANDIDATE"),
      ("verification", verificationOf (summaryOf lookup rs))] := by
  rw [packetDoc, setKey_fields, ← obj]
  generalize Canonical.sha256 _ = sha
  simp +decide [packetBasisDoc, packetBasis, setField]

theorem canonical_packetDoc {lookup : Items} {rs : List Rec} {slices : List PyVal}
    (h : ∀ r ∈ rs, r.Valid) (hslices : ∀ v ∈ slices, Canonical v) :
    Canonical (packetDoc lookup rs slices) := by
  rw [packetDoc_eq]
  refine .obj ["delta", "dynamic_context_8d", "packet_sha256", "packet_type", "protocol_version",
    "reconstruction_conditions", "reference_lookup", "risk_assessment", "schema_version", "source",
    "total_field_decision", "verification"] rfl (literalKeys (by decide)) ?_
  simp [canonical_deltaDoc h, canonical_contextOf hslices, Canonical.hash,
    Canonical.lit, protocolVersion, packetSchemaVersion, canonical_conditionsDoc,
    canonical_referenceLookup h, canonical_risk, canonical_sourceOf, canonical_verificationOf]

/-! ### Building -/

/-- The slices of the slots of records of the store. -/
theorem slices_ok {A : Store} (hA : A.WF) {rs : List Rec} (hrs : ∀ r ∈ rs, A.Holds r) :
    ∃ slices, (sortedSlots rs).mapM (sliceCount A) = .ok slices ∧ ∀ v ∈ slices, Canonical v := by
  have hslots : ∀ slot ∈ sortedSlots rs, ∃ v, sliceCount A slot = .ok v ∧ Canonical v := by
    intro slot hslot
    rw [sortedSlots, List.mem_mergeSort, List.mem_dedup] at hslot
    obtain ⟨r, hr, rfl⟩ := List.mem_map.1 hslot
    have hlt := hA.index_lt (hrs r hr)
    unfold sliceCount
    cases h : A.slots.lookup r.timeSlot with
    | none => simp [Store.bucket, h] at hlt
    | some b =>
        refine ⟨_, rfl, .obj ["absolute_time_slot", "point_count"] rfl (literalKeys (by decide)) ?_⟩
        simp [Canonical.int]
  generalize sortedSlots rs = slots at hslots
  induction slots with
  | nil => exact ⟨[], rfl, by simp⟩
  | cons slot slots ih =>
      obtain ⟨v, hv, hcv⟩ := hslots slot (by simp)
      obtain ⟨vs, hvs, hcvs⟩ := ih fun s hs => hslots s (by simp [hs])
      refine ⟨v :: vs, ?_, List.forall_mem_cons.2 ⟨hcv, hcvs⟩⟩
      rw [List.mapM_cons, hv, ok_bind, hvs]
      rfl

/-- The packet that is built from a selection. -/
theorem buildPacket_eq {A : Store} (hA : A.WF) {ids receiverLookup : PyVal} {rs : List Rec}
    {lookup : Items} (hsel : selectedRecords A ids = .ok rs) (hrs : ∀ r ∈ rs, A.Holds r)
    (hlookup : lookupOf receiverLookup = .ok lookup) :
    ∃ slices, (∀ v ∈ slices, Canonical v) ∧
      buildPacket A ids receiverLookup = .ok (packetDoc lookup rs slices) := by
  have hvalid : ∀ r ∈ rs, r.Valid := fun r hr => (hA.valid _ r (hrs r hr)).2
  obtain ⟨slices, hslices, hcanonical⟩ := slices_ok hA hrs
  refine ⟨slices, hcanonical, ?_⟩
  rw [buildPacket, hsel, ok_bind, hlookup, ok_bind, stateDocument_of_valid hvalid, ok_bind,
    (canonical_stateDoc hvalid).canonicalBytes, ok_bind, ← idSet,
    (canonical_idSet hvalid).canonicalSha256, ok_bind, hslices, ok_bind,
    (canonical_referenceLookup hvalid).canonicalSha256, ok_bind, ← deltaDoc,
    (canonical_deltaDoc hvalid).canonicalSha256, ok_bind]
  rw [← Canonical.sha256, ← conditionsDoc, (canonical_conditionsDoc rs).canonicalSha256, ok_bind,
    ← rootDoc, (canonical_rootDoc lookup rs).canonicalSha256, ok_bind]
  dsimp only
  have hbasis := (@canonical_packetBasis lookup rs slices hvalid hcanonical).canonicalSha256
  rw [obj] at hbasis
  erw [hbasis]
  rfl

/-! ### The checks of a packet -/

theorem isDigest_sha256 (v : PyVal) : isDigest (.str (Canonical.sha256 v)) = true :=
  Sha256.isHex64_hexdigest _

section Fields

variable (lookup : Items) (rs : List Rec) (slices : List PyVal) (r : Rec)

@[simp] theorem referenceEntry_id : (referenceEntry lookup r).get "id" = .str r.id := by
  simp [referenceEntry]

@[simp] theorem referenceEntry_sha :
    (referenceEntry lookup r).get "record_sha256" = .str r.recordSha256 := by
  simp [referenceEntry]

@[simp] theorem referenceEntry_delivery :
    (referenceEntry lookup r).get "delivery" = deliveryOf lookup r := by
  simp [referenceEntry]

theorem hasKeys_referenceEntry :
    hasKeys (referenceEntry lookup r) ["id", "record_sha256", "delivery"] = true := by
  simp [referenceEntry, hasKeys, obj]

@[simp] theorem entryId_referenceEntry : entryId (referenceEntry lookup r) = r.id := by
  rw [entryId, referenceEntry_id]
  rfl

@[simp] theorem entries_referenceLookup :
    listOf ((referenceLookup lookup rs).get "entries") = rs.map (referenceEntry lookup) := by
  simp [referenceLookup, listOf]

@[simp] theorem atoms_deltaDoc :
    listOf ((deltaDoc lookup rs).get "state_atoms") = (stateAtoms lookup rs).map Rec.toVal := by
  simp [deltaDoc, deltaOf, listOf]

@[simp] theorem packetDoc_source :
    (packetDoc lookup rs slices).get "source" = sourceOf (summaryOf lookup rs) := by
  simp [packetDoc_eq]

@[simp] theorem packetDoc_lookup :
    (packetDoc lookup rs slices).get "reference_lookup" = referenceLookup lookup rs := by
  simp [packetDoc_eq]

@[simp] theorem packetDoc_delta :
    (packetDoc lookup rs slices).get "delta" = deltaDoc lookup rs := by
  simp [packetDoc_eq]

@[simp] theorem packetDoc_conditions :
    (packetDoc lookup rs slices).get "reconstruction_conditions" = conditionsDoc rs := by
  simp [packetDoc_eq]

@[simp] theorem packetDoc_verification :
    (packetDoc lookup rs slices).get "verification" = verificationOf (summaryOf lookup rs) := by
  simp [packetDoc_eq]

@[simp] theorem packetDoc_risk : (packetDoc lookup rs slices).get "risk_assessment" =
    obj [("hard_risk", .bool false), ("redlines", .list [])] := by
  simp [packetDoc_eq]

@[simp] theorem truthy_sha (v : PyVal) : (PyVal.str (Canonical.sha256 v)).truthy = true := by
  have h := Sha256.isHex64_hexdigest (Canonical.bytes v)
  rw [Canonical.sha256]
  cases hsha : Sha256.hexdigest (Canonical.bytes v) with
  | nil => rw [hsha] at h; exact absurd h (by decide)
  | cons c cs => rfl

theorem truthy_conditionsDoc :
    (conditionsDoc rs).isDict = true ∧ (conditionsDoc rs).truthy = true := ⟨rfl, rfl⟩

end Fields

/-- Entries of different records pass their checks. -/
theorem checkEntries_of_valid (lookup : Items) {rs : List Rec} (h : ∀ r ∈ rs, r.Valid)
    (hnodup : (rs.map Rec.id).Nodup) :
    ∀ (i : ℕ) (seen : List PyStr), (∀ r ∈ rs, r.id ∉ seen) →
      checkEntries i seen (rs.map (referenceEntry lookup)) = .ok () := by
  induction rs with
  | nil => exact fun _ _ _ => rfl
  | cons r rs ih =>
      intro i seen hseen
      obtain ⟨hfirst, hrest⟩ := List.nodup_cons.1 hnodup
      have hr : r.Valid := h r (by simp)
      have hid : requireId (.str r.id) (entryPath i ++ cp ".id") = .ok r.id :=
        requireId_eq_ok_iff.2 ⟨rfl, hr.isId⟩
      have hdigest : isDigest ((referenceEntry lookup r).get "record_sha256") = true := by
        rw [referenceEntry_sha, hr.sha, isDigest_sha256]
      have hdelivery : isDelivery ((referenceEntry lookup r).get "delivery") = .ok true := by
        rw [referenceEntry_delivery]
        rcases deliveryOf_cases lookup r with h | h
        · rw [h]; rfl
        · rw [h]; rfl
      rw [List.map_cons, checkEntries, holdIf_neg (not_not.2 (hasKeys_referenceEntry lookup r)), ok_bind,
        referenceEntry_id, hid, ok_bind, holdIf_neg (not_not.2 hdigest), ok_bind, hdelivery, ok_bind,
        holdIf_neg (not_not.2 rfl), ok_bind, holdIf_neg (hseen r (by simp)), ok_bind]
      refine ih (fun q hq => h q (by simp [hq])) hrest (i + 1) (r.id :: seen) fun q hq => ?_
      rw [List.mem_cons, not_or]
      refine ⟨fun heq => hfirst ?_, hseen q (by simp [hq])⟩
      exact heq ▸ List.mem_map_of_mem hq

/-- The packet without its hash is what the hash was taken of. -/
theorem packetHashBasis_packetDoc {lookup : Items} {rs : List Rec} {slices : List PyVal}
    (h : ∀ r ∈ rs, r.Valid) (hslices : ∀ v ∈ slices, Canonical v) :
    packetHashBasis (packetDoc lookup rs slices) = .ok (obj (packetBasisDoc lookup rs slices)) := by
  have herase : eraseKey (cp "packet_sha256") (setKey (cp "packet_sha256")
      (.str (Canonical.sha256 (obj (packetBasisDoc lookup rs slices))))
      (fields (packetBasisDoc lookup rs slices))) = fields (packetBasisDoc lookup rs slices) := by
    refine eraseKey_setKey _ fun p hp => ?_
    obtain ⟨q, hq, rfl⟩ := List.mem_map.1 hp
    have hkey : q.1 ∈ packetBasisKeys := List.mem_map_of_mem hq
    have hne : ∀ k ∈ packetBasisKeys, k ≠ "packet_sha256" := by decide
    exact fun heq => hne _ hkey (key_inj.1 heq)
  rw [packetDoc, packetHashBasis, herase]
  exact (canonical_packetBasis h hslices).normalize

/-- The packet of a selection passes the checks of the header. -/
theorem checkHeader_packetDoc {lookup : Items} {rs : List Rec} {slices : List PyVal}
    (h : ∀ r ∈ rs, r.Valid) (hslices : ∀ v ∈ slices, Canonical v) :
    checkHeader (packetDoc lookup rs slices) = .ok () := by
  rw [checkHeader, packetHashBasis_packetDoc h hslices, ok_bind,
    (canonical_packetBasis h hslices).canonicalSha256, ok_bind,
    holdIf_neg (by simp [packetDoc_eq, protocolVersion]), ok_bind,
    holdIf_neg (by simp [packetDoc_eq, packetSchemaVersion]), ok_bind,
    holdIf_neg (by simp [packetDoc_eq]), ok_bind, holdIf_neg (by simp [packetDoc_eq]), ok_bind,
    holdIf_neg, ok_bind, holdIf_neg (by simp [packetDoc_eq])]
  have hcontext : (packetDoc lookup rs slices).get "dynamic_context_8d" =
      contextOf (summaryOf lookup rs) slices (conditionsDoc rs) := by simp [packetDoc_eq]
  rw [hcontext]
  simp [hasKeys, contextOf, obj, contextKeys]

/-- The source and the entries of a non-empty selection pass their checks. -/
theorem checkReferences_packetDoc {lookup : Items} {rs : List Rec} (h : ∀ r ∈ rs, r.Valid)
    (hnodup : (rs.map Rec.id).Nodup) (hne : rs ≠ []) :
    checkReferences (sourceOf (summaryOf lookup rs)) (referenceLookup lookup rs) = .ok () := by
  rw [checkReferences, holdIf_neg (by simp [sourceOf, stateSchemaVersion]), ok_bind,
    holdIf_neg (by simp [referenceLookup]), ok_bind]
  dsimp only
  rw [holdIf_neg, ok_bind, holdIf_neg, ok_bind, entries_referenceLookup]
  · exact checkEntries_of_valid lookup h hnodup 0 [] (by simp)
  · rw [entries_referenceLookup]
    simp [sourceOf, summaryOf]
  · rw [entries_referenceLookup]
    simp [referenceLookup, isList, hne]

/-- The hashes of the parts are those that are written down. -/
theorem checkVerification_packetDoc {lookup : Items} {rs : List Rec} (h : ∀ r ∈ rs, r.Valid) :
    checkVerification (referenceLookup lookup rs) (deltaDoc lookup rs) (conditionsDoc rs)
      (verificationOf (summaryOf lookup rs))
      (obj [("hard_risk", .bool false), ("redlines", .list [])]) = .ok () := by
  have hexpected : rootBasis ((verificationOf (summaryOf lookup rs)).get "source_state_sha256")
      ((verificationOf (summaryOf lookup rs)).get "source_id_set_sha256")
      ((verificationOf (summaryOf lookup rs)).get "reference_lookup_sha256")
      ((verificationOf (summaryOf lookup rs)).get "delta_sha256")
      (.str (Canonical.sha256 (conditionsDoc rs))) = rootDoc lookup rs := by
    simp [verificationOf, summaryOf, rootDoc]
  rw [checkVerification, holdIf_neg (by simp [deltaDoc, deltaOf]), ok_bind]
  dsimp only
  rw [holdIf_neg (by simp [deltaDoc, deltaOf, isList, listOf]), ok_bind,
    holdIf_neg (not_not.2 (truthy_conditionsDoc rs)), ok_bind,
    holdIf_neg (by simp [verificationOf, summaryOf]), ok_bind,
    (canonical_referenceLookup h).canonicalSha256, ok_bind,
    holdIf_neg (by simp [verificationOf, summaryOf]), ok_bind,
    (canonical_deltaDoc h).canonicalSha256, ok_bind,
    holdIf_neg (by simp [verificationOf, summaryOf]), ok_bind,
    (canonical_conditionsDoc rs).canonicalSha256, ok_bind, hexpected,
    (canonical_rootDoc lookup rs).canonicalSha256, ok_bind,
    holdIf_neg (by simp [verificationOf, summaryOf]), ok_bind,
    holdIf_neg (by simp [isFalseValue, PyVal.eq, eqList])]

/-- The packet of a non-empty selection of different records passes the checks of a packet. -/
theorem validatePacket_packetDoc {lookup : Items} {rs : List Rec} {slices : List PyVal}
    (h : ∀ r ∈ rs, r.Valid) (hnodup : (rs.map Rec.id).Nodup) (hne : rs ≠ [])
    (hslices : ∀ v ∈ slices, Canonical v) :
    validatePacket (packetDoc lookup rs slices) = .ok (packetDoc lookup rs slices) := by
  have hkeys : hasKeys (packetDoc lookup rs slices) packetKeys = true := by
    rw [packetDoc_eq]
    simp [hasKeys, obj, packetKeys]
  rw [validatePacket, holdIf_neg (not_not.2 hkeys), ok_bind,
    (canonical_packetDoc h hslices).normalize, ok_bind, checkHeader_packetDoc h hslices, ok_bind,
    packetDoc_source, packetDoc_lookup, checkReferences_packetDoc h hnodup hne, ok_bind,
    packetDoc_delta, packetDoc_conditions, packetDoc_verification, packetDoc_risk,
    checkVerification_packetDoc h]
  rfl

/-- The packet of no records does not: it has no entries. -/
theorem validatePacket_packetDoc_nil {lookup : Items} {slices : List PyVal}
    (hslices : ∀ v ∈ slices, Canonical v) :
    validatePacket (packetDoc lookup [] slices) =
      .error (.own ⟨"PACKET_REFERENCE_LOOKUP_REQUIRED", root⟩) := by
  have hkeys : hasKeys (packetDoc lookup [] slices) packetKeys = true := by
    rw [packetDoc_eq]
    simp [hasKeys, obj, packetKeys]
  have hrefs : checkReferences (sourceOf (summaryOf lookup [])) (referenceLookup lookup []) =
      .error (.own ⟨"PACKET_REFERENCE_LOOKUP_REQUIRED", root⟩) := by
    rw [checkReferences, holdIf_neg (by simp [sourceOf, stateSchemaVersion]), ok_bind,
      holdIf_neg (by simp [referenceLookup]), ok_bind]
    dsimp only
    rw [holdIf_pos, error_bind]
    rw [entries_referenceLookup]
    simp
  rw [validatePacket, holdIf_neg (not_not.2 hkeys), ok_bind,
    (canonical_packetDoc (by simp) hslices).normalize, ok_bind, checkHeader_packetDoc (by simp) hslices,
    ok_bind, packetDoc_source, packetDoc_lookup, hrefs, error_bind]

theorem verifyPacket_packetDoc_nil (s : Store) {lookup : Items} {slices : List PyVal}
    (hslices : ∀ v ∈ slices, Canonical v) :
    verifyPacket s (packetDoc lookup [] slices) =
      .error (.own ⟨"PACKET_REFERENCE_LOOKUP_REQUIRED", root⟩) := by
  rw [verifyPacket, validatePacket_packetDoc_nil hslices, error_bind]

/-! ### Resolving the entries -/

/-- Valid atoms with different ids are read as they are. -/
theorem readAtoms_of_valid {rs : List Rec} :
    ∀ {atoms : List Rec}, (∀ r ∈ rs, r.Valid) → ((atoms ++ rs).map Rec.id).Nodup →
      readAtoms atoms (rs.map Rec.toVal) = .ok (atoms ++ rs) := by
  induction rs with
  | nil =>
      intro atoms _ _
      rw [List.append_nil]
      rfl
  | cons r rs ih =>
      intro atoms h hnodup
      have hfresh : r.id ∉ atoms.map Rec.id := by
        rw [List.map_append, List.nodup_append] at hnodup
        exact fun hmem => hnodup.2.2 _ hmem _ (by simp) rfl
      rw [List.map_cons, readAtoms, (h r (by simp)).validate, ok_bind, holdIf_neg hfresh, ok_bind,
        ih (fun q hq => h q (by simp [hq]))]
      · rw [List.append_assoc, List.singleton_append]
      · rwa [List.append_assoc, List.singleton_append]

/-- A record of a list without repeated ids is found by its id. -/
theorem find?_id {rs : List Rec} {r : Rec} (hr : r ∈ rs) (hnodup : (rs.map Rec.id).Nodup) :
    rs.find? (fun q => decide (q.id = r.id)) = some r := by
  induction rs with
  | nil => simp at hr
  | cons q rs ih =>
      obtain ⟨hfirst, hrest⟩ := List.nodup_cons.1 hnodup
      rcases List.mem_cons.1 hr with rfl | hr
      · simp
      · have hne : q.id ≠ r.id := fun heq => hfirst (heq ▸ List.mem_map_of_mem hr)
        rw [List.find?_cons_of_neg (by simpa using hne), ih hr hrest]

/-- Every entry of a selection is resolved to its record, at a receiver that holds the records that
are referred to. -/
theorem resolveEntries_of_held {B : Store} {lookup : Items} {atoms : List Rec}
    (hatoms : (atoms.map Rec.id).Nodup) {rs : List Rec}
    (href : ∀ r ∈ rs, deliveryOf lookup r = lit "REFERENCE" → B.Holds r)
    (hatom : ∀ r ∈ rs, deliveryOf lookup r = lit "STATE_ATOM" → r ∈ atoms) :
    resolveEntries B atoms (rs.map (referenceEntry lookup)) =
      .ok (rs, (stateAtoms lookup rs).map Rec.id) := by
  induction rs with
  | nil => rfl
  | cons r rs ih =>
      have hrest := ih (fun q hq => href q (by simp [hq])) (fun q hq => hatom q (by simp [hq]))
      have hsha : PyVal.eq (.str r.recordSha256) ((referenceEntry lookup r).get "record_sha256") =
          true := by simp
      have hid : textOf ((referenceEntry lookup r).get "id") = r.id := entryId_referenceEntry lookup r
      rw [List.map_cons, resolveEntries, resolveEntry, hid]
      dsimp only
      rcases deliveryOf_cases lookup r with hd | hd
      · have hheld : B.records.lookup r.id = some r := href r (by simp) hd
        have hno : stateAtoms lookup (r :: rs) = stateAtoms lookup rs := by
          rw [stateAtoms, List.filter_cons, hd]
          rfl
        rw [if_pos (by rw [referenceEntry_delivery, hd]; rfl), hheld, hno]
        dsimp only
        rw [if_pos hsha, pure_bind, hrest]
        rfl
      · have hfind := find?_id (hatom r (by simp) hd) hatoms
        have hyes : stateAtoms lookup (r :: rs) = r :: stateAtoms lookup rs := by
          rw [stateAtoms, List.filter_cons, hd]
          rfl
        rw [if_neg (by rw [referenceEntry_delivery, hd]; decide), hfind, hyes]
        dsimp only
        rw [if_pos hsha, pure_bind, hrest]
        rfl

/-! ### Verification -/

/-- What has been verified of the packet of a selection. -/
def verifiedDoc (lookup : Items) (rs : List Rec) (slices : List PyVal) : Verified where
  packet := packetDoc lookup rs slices
  ordered := rs
  state := stateDoc rs
  bytes := (Canonical.bytes (stateDoc rs)).length
  sha256 := Canonical.sha256 (stateDoc rs)
  sourceSha256 := .str (Canonical.sha256 (stateDoc rs))
  sourceBytes := .int (Canonical.bytes (stateDoc rs)).length

/-- The packet of a non-empty sorted selection is verified at a receiver that holds the records that
are referred to, and what has been verified is the selection. -/
theorem verifyPacket_packetDoc {B : Store} {lookup : Items} {rs : List Rec} {slices : List PyVal}
    (h : ∀ r ∈ rs, r.Valid) (hnodup : (rs.map Rec.id).Nodup) (hne : rs ≠ [])
    (hsorted : sortRecords rs = rs) (hslices : ∀ v ∈ slices, Canonical v)
    (href : ∀ r ∈ rs, deliveryOf lookup r = lit "REFERENCE" → B.Holds r) :
    verifyPacket B (packetDoc lookup rs slices) = .ok (verifiedDoc lookup rs slices) := by
  have hatoms : ((stateAtoms lookup rs).map Rec.id).Nodup :=
    hnodup.sublist (List.filter_sublist.map Rec.id)
  have hread : readAtoms [] ((stateAtoms lookup rs).map Rec.toVal) = .ok (stateAtoms lookup rs) :=
    readAtoms_of_valid (valid_stateAtoms h) hatoms
  have hresolve := resolveEntries_of_held hatoms href fun r hr hd =>
    List.mem_filter.2 ⟨hr, by rw [hd]; rfl⟩
  have hids : canonicalSha256 (.list ((sortTexts (rs.map Rec.id)).map PyVal.str)) =
      .ok (Canonical.sha256 (idSet rs)) := (canonical_idSet h).canonicalSha256
  have hsource : ∀ k v, (sourceOf (summaryOf lookup rs)).get k = v → v ≠ .none →
      ((sourceOf (summaryOf lookup rs)).at k : Except Fault PyVal) = .ok v := by
    rintro k v rfl hv
    rw [sourceOf, obj] at hv ⊢
    rw [PyVal.get] at hv ⊢
    rw [PyVal.at]
    cases hitem : getItem (fields _) (cp k) with
    | none => rw [hitem] at hv; exact absurd rfl hv
    | some w => rfl
  have hstate : Canonical.sha256 (stateDoc rs) =
      Sha256.hexdigest (Canonical.bytes (stateDoc rs)) := rfl
  have hadded : ¬∃ r ∈ stateAtoms lookup rs, r.id ∉ (stateAtoms lookup rs).map Rec.id := by
    rintro ⟨r, hr, hnot⟩
    exact hnot (List.mem_map_of_mem hr)
  rw [verifyPacket, validatePacket_packetDoc h hnodup hne hslices, ok_bind]
  dsimp only
  rw [packetDoc_lookup, packetDoc_delta, packetDoc_source, packetDoc_conditions,
    packetDoc_verification, entries_referenceLookup, atoms_deltaDoc, hread, ok_bind, hresolve, ok_bind]
  dsimp only
  rw [holdIf_neg hadded, ok_bind, hsorted, stateDocument_of_valid h, ok_bind,
    (canonical_stateDoc h).canonicalBytes, ok_bind, hids, ok_bind,
    hsource "state_sha256" (.str (Canonical.sha256 (stateDoc rs)))
      (by simp [sourceOf, summaryOf]) (by simp), ok_bind,
    hsource "id_set_sha256" (.str (Canonical.sha256 (idSet rs)))
      (by simp [sourceOf, summaryOf]) (by simp), ok_bind,
    hsource "source_bytes" (.int (Canonical.bytes (stateDoc rs)).length)
      (by simp [sourceOf, summaryOf]) (by simp), ok_bind,
    holdIf_neg, ok_bind]
  · rfl
  · rw [not_not, ← hstate]
    simp [hne, verificationOf, summaryOf, (truthy_conditionsDoc rs).2]

theorem at_of_getItem {items : Items} {k : String} {v : PyVal} (h : getItem items (cp k) = some v) :
    ((PyVal.dict items).at k : Except Fault PyVal) = .ok v := by
  rw [PyVal.at, h]

/-- The parts of a dictionary that can be hashed can be hashed. -/
theorem Canonical.of_getItem {items : Items} {k : PyStr} {v : PyVal} (h : Canonical (.dict items))
    (hv : getItem items k = some v) : Canonical v := by
  obtain ⟨p, hp, rfl⟩ := mem_of_getItem hv
  refine ⟨?_, (encodable_dumps_dict.1 h.encodable p hp).2⟩
  cases h.normal with
  | dict _ _ _ hvals => exact hvals p hp

/-- A packet that can be hashed can be marked as allowed, when it has a context with a decision. -/
theorem allowedPacket_of_context {items context d8 : Items} (hpacket : Canonical (.dict items))
    (hcontext : getItem items (cp "dynamic_context_8d") = some (.dict context))
    (hd8 : getItem context (cp "D8") = some (.dict d8)) :
    ∃ w, allowedPacket (.dict items) = .ok w := by
  have hkey : ∀ k ∈ ["D8", "decision", "dynamic_context_8d", "total_field_decision"],
      CleanKey (cp k) := (literalKeys (by decide)).2
  have hset : ∀ k ∈ ["D8", "decision", "dynamic_context_8d", "total_field_decision"],
      ∀ (v : PyVal) (items : Items), Canonical v → Canonical (.dict items) →
        Canonical (.dict (setKey (cp k) v items)) :=
    fun k hk v items hv hi => hi.setKey (hkey k hk) (encodable_cp k) hv
  have hcontextC := hpacket.of_getItem hcontext
  have hne : cp "dynamic_context_8d" ≠ cp "total_field_decision" := fun heq => absurd (cp_inj.1 heq) (by decide)
  have hd8' := hset "decision" (by simp) _ _ (.lit "ALLOW") (hcontextC.of_getItem hd8)
  have hcontext' := hset "D8" (by simp) _ _ hd8' hcontextC
  have hall := hset "dynamic_context_8d" (by simp) _ _ hcontext'
    (hset "total_field_decision" (by simp) _ _ (.lit "ALLOW") hpacket)
  rw [allowedPacket, hpacket.normalize, ok_bind, setItem, pure_bind,
    at_of_getItem (by rw [getItem_setKey, if_neg hne]; exact hcontext), ok_bind, at_of_getItem hd8, ok_bind,
    setItem, pure_bind, setItem, pure_bind, setItem, pure_bind, packetHashBasis, hall.eraseKey.normalize,
    ok_bind, hall.eraseKey.canonicalSha256, ok_bind, setItem]
  exact ⟨_, rfl⟩

/-- The packet of a selection can be marked as allowed, and the reply says so. -/
theorem allowedReply_packetDoc {lookup : Items} {rs : List Rec} {slices : List PyVal}
    (h : ∀ r ∈ rs, r.Valid) (hslices : ∀ v ∈ slices, Canonical v) :
    ∃ reply, allowedReply (verifiedDoc lookup rs slices) = .ok reply ∧
      reply.get "total_field_decision" = lit "ALLOW" := by
  have hpacket := @canonical_packetDoc lookup rs slices h hslices
  have hallowed : ∃ w, allowedPacket (packetDoc lookup rs slices) = .ok w := by
    rw [packetDoc_eq] at hpacket ⊢
    refine allowedPacket_of_context hpacket
      (show _ = some (contextOf (summaryOf lookup rs) slices (conditionsDoc rs)) by simp)
      (show _ = some (obj [("decision", lit "CANDIDATE"),
        ("verification_root", .str (Canonical.sha256 (rootDoc lookup rs)))]) by simp [summaryOf])
  obtain ⟨w, hw⟩ := hallowed
  refine ⟨reconstructed (verifiedDoc lookup rs slices) w, ?_, by simp [reconstructed]⟩
  rw [allowedReply, verifiedDoc, hw]
  rfl

end Adi
