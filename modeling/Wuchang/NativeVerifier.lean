/-
**Evidence closure of a candidate.**

`core/adi_native/verifier.py` and the part of `core/adi_native/projection.py` it uses: a candidate is
evidence-closed when its structure is valid, all eight boundaries are positive, it is bound to the
parent state, its root can be reproduced from its own fields, and its evidence covers what it and the
rules that lead to it require.

The root is the hash of a JSON text, so a text with a lone surrogate makes the closure raise.

Main definitions:

* `NativeAdi.boundaryValue`, `NativeAdi.metricSignature` — the projections;
* `NativeAdi.candidateStateRoot` — the root that is reproduced;
* `NativeAdi.validate8d`, `NativeAdi.evidenceClosed` — the two checks;
* `NativeAdi.StatePacket8D.Encodable` — the texts the root is made of can be encoded.

Main results:

* `NativeAdi.evidenceClosed_ok` — a candidate with such texts is decided, not raised about;
* `NativeAdi.evidenceClosed_perm` — the order of the rules does not matter.
-/

import Wuchang.NativeDistance
import Wuchang.Sha256

set_option relaxedAutoImplicit false
set_option autoImplicit false

namespace NativeAdi

open Py

/-! ### Projections -/

/-- `boundary_value` -/
def boundaryValue (facts : DimensionBoundaryFacts) : ℤ :=
  if facts.intentViolated || facts.causalOrderViolated || facts.lifeHarm || facts.otherRightsHarm ||
      facts.hardRisk then -1
  else if facts.intentSatisfied && facts.evidenceValid && facts.lifeSafe && facts.otherRightsSafe then 1
  else 0

/-- `positive_negative_boundaries`; that there are eight is declared, and checked all the same. -/
def positiveNegativeBoundaries (packet : StatePacket8D) : Except Fault (List ℤ) :=
  if packet.boundaryFacts.length ≠ 8 then .error (.builtin .valueError)
  else .ok (packet.boundaryFacts.map boundaryValue)

/-- `metric_signature_f(packet).as_tuple()` -/
def metricSignature (packet : StatePacket8D) : List PyVal :=
  [packet.logicalTime.toVal, .str packet.topologyCoordinateRef, .str packet.parentStateRoot,
    .str packet.evidenceRoot, .str packet.eventHashRef, .str packet.canonicalVersion,
    .str packet.ruleVersion]

/-- The fields of the packet the root is made of, in the order of their names. -/
def rootMaterial (packet : StatePacket8D) : PyVal :=
  obj ((match packet.breakpointSegmentRef with
    | some ref => [("breakpoint_segment_ref", .str ref)]
    | none => []) ++
  [("canonical_version", .str packet.canonicalVersion),
    ("dimensions", .list (packet.dimensions.map PyInt.toVal)),
    ("event_hash_ref", .str packet.eventHashRef),
    ("event_time", packet.eventTime.toVal),
    ("evidence_root", .str packet.evidenceRoot),
    ("logical_time", packet.logicalTime.toVal),
    ("namespace", .str packet.namespaceRef),
    ("native_state_ref", .str packet.nativeStateRef),
    ("parent_state_root", .str packet.parentStateRoot),
    ("rule_version", .str packet.ruleVersion),
    ("snapshot_id", .str packet.snapshotId),
    ("state_profile", .str packet.stateProfile),
    ("topology_coordinate_ref", .str packet.topologyCoordinateRef)])

/-- `candidate_state_root_f` -/
def candidateStateRoot (packet : StatePacket8D) : Except Fault PyStr := do
  let bytes ← encodeUtf8 (rootMaterial packet).dumps
  pure (Sha256.hexdigest bytes)

/-! ### Decisions -/

/-- `ValidationDecision` -/
structure ValidationDecision where
  state : String
  reason : String
  deriving DecidableEq, Repr

/-- `validate_8d`, with the messages of `project_8d_state`. -/
def validate8d (packet : StatePacket8D) : ValidationDecision :=
  if packet.dimensions.length ≠ 8 then ⟨"BLOCK", "BLOCK_INVALID_8D_DIMENSION_COUNT"⟩
  else if packet.dimensions.any PyInt.isBool then ⟨"BLOCK", "BLOCK_NON_INTEGER_8D_STATE"⟩
  else if packet.logicalTime.val < 0 then ⟨"BLOCK", "BLOCK_INVALID_LOGICAL_TIME"⟩
  else if ¬([packet.namespaceRef, packet.stateProfile, packet.nativeStateRef, packet.parentStateRoot,
      packet.evidenceRoot, packet.snapshotId, packet.canonicalVersion, packet.ruleVersion,
      packet.topologyCoordinateRef, packet.eventHashRef].all (· ≠ [])) then
    ⟨"BLOCK", "BLOCK_INVALID_8D_BINDING"⟩
  else if packet.boundaryFacts.any fun facts => facts.lifeHarm || facts.otherRightsHarm then
    ⟨"BLOCK", "BLOCK_ABSOLUTE_REDLINE"⟩
  else ⟨"PASS", "VALID_8D_CANDIDATE_STRUCTURE"⟩

/-- The checks of the evidence the packet carries and expects. -/
def checkEvidence (packet : StatePacket8D) : Option ValidationDecision :=
  if packet.previousLogicalTime.any fun previous => packet.logicalTime.val ≤ previous.val then
    some ⟨"HOLD", "HOLD_CAUSAL_TIME_TOPOLOGY_DIVERGENCE"⟩
  else if packet.claimedMetricSignature.any fun claimed => ¬eqList claimed (metricSignature packet) then
    some ⟨"HOLD", "HOLD_METRIC_SIGNATURE_DIVERGENCE"⟩
  else if packet.expectedEvidenceDigests.any fun e =>
      ¬(packet.evidenceDigests.map Prod.fst).contains e.1 then
    some ⟨"HOLD", "HOLD_REQUIRED_EVIDENCE_MISSING"⟩
  else if packet.expectedEvidenceDigests.any fun e =>
      packet.evidenceDigests.lookup e.1 ≠ some e.2 then
    some ⟨"HOLD", "HOLD_EVIDENCE_DIGEST_MISMATCH"⟩
  else none

/-- What is decided once the path is known, or known not to exist. -/
def decidePath (packet : StatePacket8D) (path : Except Fault CanonicalPath) :
    Except Fault ValidationDecision :=
  match path with
  | .error (.own (.denied code)) => .ok ⟨"DENY", code⟩
  | .error (.own (.hold code)) => .ok ⟨"HOLD", code⟩
  | .error e => .error e
  | .ok path =>
      if path.rules.all fun rule => rule.requiredEvidenceRefs.all fun ref =>
          (packet.evidenceDigests.map Prod.fst).contains ref then
        .ok ⟨"PASS", "EVIDENCE_CLOSED"⟩
      else .ok ⟨"HOLD", "HOLD_REQUIRED_EVIDENCE_MISSING"⟩

/-- `evidence_closed_f` -/
def evidenceClosed (origin packet : StatePacket8D) (transitionRules : List NativeTransitionRule)
    (authoritativeParentStateRoot : PyStr) : Except Fault ValidationDecision :=
  if (validate8d packet).state ≠ "PASS" then .ok (validate8d packet)
  else do
    let boundaries ← positiveNegativeBoundaries packet
    if boundaries.any (· < 0) then .ok ⟨"HOLD", "HOLD_NEGATIVE_BOUNDARY"⟩
    else if boundaries.any (· ≠ 1) then .ok ⟨"HOLD", "HOLD_POSITIVE_BOUNDARY_UNRESOLVED"⟩
    else if packet.parentStateRoot ≠ authoritativeParentStateRoot then
      .ok ⟨"HOLD", "HOLD_PARENT_STATE_ROOT_MISMATCH"⟩
    else do
      let root ← candidateStateRoot packet
      if packet.stateRoot ≠ root then .ok ⟨"HOLD", "HOLD_CANDIDATE_STATE_ROOT_NOT_REPRODUCIBLE"⟩
      else match checkEvidence packet with
      | some decision => .ok decision
      | none => decidePath packet (resolveCanonicalPath origin packet transitionRules)

/-! ### When the closure decides -/

/-- The texts the root is made of can be encoded. -/
def StatePacket8D.Encodable (packet : StatePacket8D) : Prop :=
  (∀ ref ∈ packet.breakpointSegmentRef, Py.Encodable ref) ∧
    ∀ text ∈ [packet.canonicalVersion, packet.eventHashRef, packet.evidenceRoot, packet.namespaceRef,
      packet.nativeStateRef, packet.parentStateRoot, packet.ruleVersion, packet.snapshotId,
      packet.stateProfile, packet.topologyCoordinateRef], Py.Encodable text

theorem encodable_toVal (n : PyInt) : Py.Encodable n.toVal.dumps := by
  cases n with
  | int n => exact encodable_intText n
  | bool b =>
      cases b
      · exact encodable_cp _
      · exact encodable_cp _

/-- The root of such a packet can be computed. -/
theorem candidateStateRoot_ok {packet : StatePacket8D} (h : packet.Encodable) :
    ∃ root, candidateStateRoot packet = .ok root := by
  have hdumps : Py.Encodable (rootMaterial packet).dumps := by
    obtain ⟨href, htexts⟩ := h
    simp only [List.forall_mem_cons, List.not_mem_nil, false_imp_iff, implies_true,
      and_true] at htexts
    rw [rootMaterial, encodable_dumps_obj, List.forall_mem_append]
    have hdims : Py.Encodable (PyVal.list (packet.dimensions.map PyInt.toVal)).dumps := by
      refine encodable_dumps_list.2 fun v hv => ?_
      obtain ⟨n, -, rfl⟩ := List.mem_map.1 hv
      exact encodable_toVal n
    constructor
    · cases hseg : packet.breakpointSegmentRef with
      | none => simp
      | some ref => simpa [PyVal.dumps] using href ref hseg
    · simp only [List.forall_mem_cons, List.not_mem_nil, false_imp_iff, implies_true, and_true,
        encodable_toVal, hdims, PyVal.dumps, encodable_quote, htexts]
  rw [candidateStateRoot, encodeUtf8_ok hdumps]
  exact ⟨_, rfl⟩

/-- A candidate with such texts is decided when its path is found, or is held or denied. -/
theorem evidenceClosed_ok {origin packet : StatePacket8D} {rules : List NativeTransitionRule}
    {parent : PyStr} (h : packet.Encodable)
    (hpath : ∀ b, resolveCanonicalPath origin packet rules ≠ .error (.builtin b)) :
    ∃ decision, evidenceClosed origin packet rules parent = .ok decision := by
  obtain ⟨root, hroot⟩ := candidateStateRoot_ok h
  have hdecide : ∃ decision,
      decidePath packet (resolveCanonicalPath origin packet rules) = .ok decision := by
    rcases hres : resolveCanonicalPath origin packet rules with ((code | code) | b) | path
    · exact ⟨_, rfl⟩
    · exact ⟨_, rfl⟩
    · exact absurd hres (hpath b)
    · rw [decidePath]
      split_ifs
      · exact ⟨_, rfl⟩
      · exact ⟨_, rfl⟩
  rw [evidenceClosed, positiveNegativeBoundaries, if_neg (not_not.2 packet.boundaryFacts_length),
    ok_bind, hroot, ok_bind]
  split_ifs
  · exact ⟨_, rfl⟩
  · exact ⟨_, rfl⟩
  · exact ⟨_, rfl⟩
  · exact ⟨_, rfl⟩
  · exact ⟨_, rfl⟩
  · cases checkEvidence packet with
    | none => exact hdecide
    | some decision => exact ⟨_, rfl⟩

/-- The order of the rules does not matter. -/
theorem evidenceClosed_perm (origin packet : StatePacket8D) {rules rules' : List NativeTransitionRule}
    (h : rules.Perm rules') (parent : PyStr) :
    evidenceClosed origin packet rules parent = evidenceClosed origin packet rules' parent := by
  rw [evidenceClosed, evidenceClosed, resolveCanonicalPath_perm origin packet h]

end NativeAdi
