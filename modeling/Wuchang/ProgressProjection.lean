/-
**The progress of a total field, and its correction.**

A progress projection compares the state a task is to reach with the one that was observed again, and lists the
differences that remain.  It is a packet with the hash of its text.  A later projection is built on an earlier
one: it checks the hash, the intent and the expiry of the earlier one, counts the logical time up and stores the
hash as its parent.  No two creation times are compared with each other.

A correction contract is derived from a projection and limits what is materialized again to the differences that
remain.  A projection whose hashes agree although differences remain is refused.

Times are microseconds in UTC; how they are read and written is a parameter.

Main definitions:

* `ProgressProjection.project`, `ProgressProjection.buildProgress` — the projection of a task;
* `ProgressProjection.buildCorrection` — the contract for the differences that remain.

Main results:

* `ProgressProjection.buildProgress_spec` — what a projection that is built holds;
* `ProgressProjection.follow_spec` — what is known of the projection before it.
-/

import Wuchang.CapabilityProjection
import Wuchang.FieldPacket

set_option relaxedAutoImplicit false
set_option autoImplicit false

namespace ProgressProjection

open Py TotalField
open CapabilityContext (sortTexts texts)

/-- What the builders raise by themselves. -/
inductive Failure where
  | valueError (message : PyStr)
  | overflowError
  deriving DecidableEq, Repr

/-- An exception. -/
abbrev Fault := Raise Failure

/-- `ValueError(code)` -/
def invalid (code : String) : Failure := .valueError (cp code)

/-! ### Times -/

/-- How times are read and written. -/
structure Clock where
  /-- `datetime.fromisoformat(s)` in microseconds of UTC, unless there is no time zone -/
  fromisoformat : PyStr → Option (Option ℤ)
  /-- `t.isoformat().replace("+00:00", "Z")`, of a time in UTC -/
  isoformat : ℤ → PyStr

/-- The times that a `datetime` holds. -/
def IsTime (t : ℤ) : Prop := -62135596800000000 ≤ t ∧ t ≤ 253402300799999999

instance (t : ℤ) : Decidable (IsTime t) := inferInstanceAs (Decidable (_ ∧ _))

/-- `value.replace("Z", "+00:00")` -/
def replaceZ (s : PyStr) : PyStr := s.flatMap fun c => if c = 90 then cp "+00:00" else [c]

/-- `_parse_packet_time`; a time that leaves the range when it is moved to UTC overflows. -/
def parsePacketTime (clock : Clock) (value : PyVal) (path : String) : Except Fault ℤ :=
  match value with
  | .str s =>
      match clock.fromisoformat (replaceZ s) with
      | none => .error (.own (invalid ("DATETIME_INVALID:" ++ path)))
      | some none => .error (.own (invalid ("DATETIME_TIMEZONE_REQUIRED:" ++ path)))
      | some (some t) => if IsTime t then .ok t else .error (.own .overflowError)
  | _ => .error (.own (invalid ("DATETIME_REQUIRED:" ++ path)))

/-- `t + timedelta(seconds=seconds)` -/
def addSeconds (t seconds : ℤ) : Except Fault ℤ :=
  if IsTime (t + seconds * 1000000) then .ok (t + seconds * 1000000) else .error (.own .overflowError)

/-! ### Texts -/

/-- `_require_sha256` -/
def requireSha256 (value : PyVal) (path : String) : Except Fault PyStr :=
  match value with
  | .str s => if Sha256.isHex64 s then .ok s else .error (.own (invalid ("HASH_INVALID:" ++ path)))
  | _ => .error (.own (invalid ("HASH_INVALID:" ++ path)))

/-- `_require_non_empty_string` -/
def requireNonEmptyString (value : PyVal) (path : String) : Except Fault PyStr :=
  match value with
  | .str s => if strip s = [] then .error (.own (invalid ("STRING_REQUIRED:" ++ path))) else .ok (strip s)
  | _ => .error (.own (invalid ("STRING_REQUIRED:" ++ path)))

/-- An item of `_require_string_list` -/
def requireListed (path : String) (value : PyVal) : Except Fault PyStr :=
  match value with
  | .str s => if strip s = [] then .error (.own (invalid ("STRING_LIST_REQUIRED:" ++ path))) else .ok (strip s)
  | _ => .error (.own (invalid ("STRING_LIST_REQUIRED:" ++ path)))

/-- `_require_string_list`, of a list. -/
def requireStringList (values : List PyVal) (path : String) : Except Fault (List PyStr) :=
  values.mapM (requireListed path)

/-- `sorted(set(…))` -/
def sortedSet (ts : List PyStr) : List PyStr := sortTexts ts.dedup

/-! ### Observations -/

/-- `PROGRESS_OBSERVATION_STATES` -/
def progressObservationStates : List PyStr :=
  ["OBSERVED", "RECONSTRUCTED", "INFERRED", "CONFLICT", "UNKNOWN"].map cp

/-- `PROGRESS_OBSERVATION_FIELDS` -/
def progressObservationFields : List String := ["state", "ref", "sha256"]

/-- `PROGRESS_NODE_FIELDS` -/
def progressNodeFields : List String := ["node_id", "state", "observed_at", "evidence_ref", "evidence_sha256"]

/-- An observation of a state. -/
structure Observation where
  state : PyStr
  ref : PyStr
  sha256 : PyStr
  deriving DecidableEq, Repr

/-- The dictionary of an observation. -/
def Observation.value (o : Observation) : PyVal :=
  obj [("ref", .str o.ref), ("sha256", .str o.sha256), ("state", .str o.state)]

/-- `_normalize_progress_observation` -/
def normalizeProgressObservation (name : String) (value : PyVal) : Except Fault Observation :=
  match value with
  | .dict items => do
      raiseIf (¬keysAre items progressObservationFields) (invalid ("PROGRESS_OBSERVATION_SHAPE_MISMATCH:" ++ name))
      let state ← requireNonEmptyString (value.get "state") (name ++ ".state")
      raiseIf (state ∉ progressObservationStates) (invalid ("PROGRESS_OBSERVATION_STATE_INVALID:" ++ name))
      let ref ← requireNonEmptyString (value.get "ref") (name ++ ".ref")
      let sha256 ← requireSha256 (value.get "sha256") (name ++ ".sha256")
      pure ⟨state, ref, sha256⟩
  | _ => .error (.own (invalid ("PROGRESS_OBSERVATION_SHAPE_MISMATCH:" ++ name)))

/-- An observation of a node. -/
structure Node where
  nodeId : PyStr
  state : PyStr
  observed : ℤ
  evidenceRef : PyStr
  evidenceSha256 : PyStr
  deriving DecidableEq, Repr

/-- The dictionary of an observation of a node. -/
def Node.value (clock : Clock) (node : Node) : PyVal := obj [("evidence_ref", .str node.evidenceRef),
  ("evidence_sha256", .str node.evidenceSha256), ("node_id", .str node.nodeId),
  ("observed_at", .str (clock.isoformat node.observed)), ("state", .str node.state)]

/-- A node was observed before `created`, and no longer before it than the time to live. -/
def Node.Fresh (created ttlSeconds : ℤ) (node : Node) : Prop :=
  node.observed ≤ created ∧ created - node.observed ≤ ttlSeconds * 1000000

/-- `_normalize_progress_node` -/
def normalizeProgressNode (clock : Clock) (created ttlSeconds : ℤ) (value : PyVal) : Except Fault Node :=
  match value with
  | .dict items => do
      raiseIf (¬keysAre items progressNodeFields) (invalid "PROGRESS_NODE_SHAPE_MISMATCH")
      let state ← requireNonEmptyString (value.get "state") "node.state"
      raiseIf (state ∉ progressObservationStates) (invalid "PROGRESS_NODE_STATE_INVALID")
      let observed ← parsePacketTime clock (value.get "observed_at") "node.observed_at"
      raiseIf (observed > created ∨ created - observed > ttlSeconds * 1000000)
        (invalid "PROGRESS_NODE_OBSERVATION_STALE")
      let nodeId ← requireNonEmptyString (value.get "node_id") "node.node_id"
      let evidenceRef ← requireNonEmptyString (value.get "evidence_ref") "node.evidence_ref"
      let evidenceSha256 ← requireSha256 (value.get "evidence_sha256") "node.evidence_sha256"
      pure ⟨nodeId, state, observed, evidenceRef, evidenceSha256⟩
  | _ => .error (.own (invalid "PROGRESS_NODE_SHAPE_MISMATCH"))

/-! ### The projection -/

/-- `TOTAL_FIELD_PROGRESS_SCHEMA` -/
def totalFieldProgressSchema : PyVal := lit "W7TP_TOTAL_FIELD_PROGRESS_PROJECTION_V1"

/-- The arguments of the builder; a collection is given by its elements. -/
structure Arguments where
  founderIntentRef : PyVal
  founderIntentSha256 : PyVal
  targetState : PyVal
  currentState : PyVal
  reobservedState : PyVal
  remainingDifferenceRefs : List PyVal
  receiptRefs : List PyVal
  nodeObservations : List PyVal
  createdAt : PyVal
  ttlSeconds : ℤ

/-- A projection. -/
structure Projection where
  intentRef : PyStr
  intentSha256 : PyStr
  target : Observation
  current : Observation
  reobserved : Observation
  differences : List PyStr
  receipts : List PyStr
  nodes : List Node
  logicalTime : ℤ
  parent : Option PyStr
  created : ℤ
  expires : ℤ
  ttlSeconds : ℤ
  deriving DecidableEq, Repr

/-- `aligned` -/
def Projection.Aligned (p : Projection) : Prop := p.differences = [] ∧ p.target.sha256 = p.reobserved.sha256

instance (p : Projection) : Decidable p.Aligned := inferInstanceAs (Decidable (_ ∧ _))

/-- `packet` -/
def Projection.packet (clock : Clock) (p : Projection) : List (String × PyVal) := [
  ("append_only", .bool true), ("candidate_only", .bool true),
  ("completion_requires_reobserved_target_match", .bool true),
  ("created_at", .str (clock.isoformat p.created)), ("current_state", p.current.value),
  ("expires_at", .str (clock.isoformat p.expires)),
  ("float_authority_dependency", floatAuthorityDependency), ("formal_decision_authority", .bool false),
  ("founder_intent", obj [("ref", .str p.intentRef), ("sha256", .str p.intentSha256)]),
  ("logical_time", .int p.logicalTime), ("model_access", lit "READ_ONLY"), ("model_authority", .bool false),
  ("node_observations", .list (p.nodes.map (Node.value clock))), ("operation_authority", .bool false),
  ("parent_progress_sha256", p.parent.elim .none .str), ("receipt_refs", texts p.receipts),
  ("remaining_difference_refs", texts p.differences), ("reobserved_state", p.reobserved.value),
  ("schema_id", totalFieldProgressSchema),
  ("state", lit (if p.Aligned then "REOBSERVED_TARGET_FIELD_CLOSED" else "OPEN_RESIDUAL_DIFFERENCE")),
  ("target_state", p.target.value), ("ttl_seconds", .int p.ttlSeconds)]

/-- `d.pop("packet_sha256", None)`, on a copy. -/
def unsigned : PyVal → PyVal
  | .dict items => .dict (eraseKey (cp "packet_sha256") items)
  | v => v

/-- The logical time behind the previous projection, and its hash. -/
def follow (clock : Clock) (created : ℤ) (intentSha256 : PyStr) : Option PyVal → Except Fault (ℤ × Option PyStr)
  | none => pure (1, none)
  | some previous => do
      raiseIf (¬pyEq (previous.get "schema_id") totalFieldProgressSchema) (invalid "PREVIOUS_PROGRESS_SCHEMA_INVALID")
      let hash ← canonicalSha256 (unsigned previous)
      raiseIf (¬pyEq (previous.get "packet_sha256") (.str hash)) (invalid "PREVIOUS_PROGRESS_HASH_MISMATCH")
      raiseIf (¬((previous.get "founder_intent").isDict ∧
        pyEq ((previous.get "founder_intent").get "sha256") (.str intentSha256)))
        (invalid "PREVIOUS_PROGRESS_INTENT_MISMATCH")
      let expires ← parsePacketTime clock (previous.get "expires_at") "previous_progress.expires_at"
      raiseIf (created ≥ expires) (invalid "PREVIOUS_PROGRESS_STALE")
      match previous.get "logical_time" with
      | .int n => pure (n + 1, some hash)
      | _ => .error (.own (invalid "PREVIOUS_PROGRESS_LOGICAL_TIME_INVALID"))

/-- The part of `build_total_field_progress_projection` before the packet is put together. -/
def project (clock : Clock) (args : Arguments) (previous : Option PyVal) : Except Fault Projection := do
  raiseIf (¬(1 ≤ args.ttlSeconds ∧ args.ttlSeconds ≤ 3600)) (invalid "PROGRESS_TTL_INVALID")
  let created ← parsePacketTime clock args.createdAt "created_at"
  let expires ← addSeconds created args.ttlSeconds
  let intentRef ← requireNonEmptyString args.founderIntentRef "founder_intent_ref"
  let intentSha256 ← requireSha256 args.founderIntentSha256 "founder_intent_sha256"
  let target ← normalizeProgressObservation "target_state" args.targetState
  let current ← normalizeProgressObservation "current_state" args.currentState
  let reobserved ← normalizeProgressObservation "reobserved_state" args.reobservedState
  let differences ← requireStringList args.remainingDifferenceRefs "remaining_difference_refs"
  let receipts ← requireStringList args.receiptRefs "receipt_refs"
  let nodes ← args.nodeObservations.mapM (normalizeProgressNode clock created args.ttlSeconds)
  raiseIf (¬(nodes.map Node.nodeId).Nodup) (invalid "PROGRESS_NODE_ID_COLLISION")
  let (logicalTime, parent) ← follow clock created intentSha256 previous
  pure ⟨intentRef, intentSha256, target, current, reobserved, sortedSet differences, sortedSet receipts,
    nodes.mergeSort fun a b => a.nodeId ≤ b.nodeId, logicalTime, parent, created, expires, args.ttlSeconds⟩

/-- `build_total_field_progress_projection` -/
def buildProgress (clock : Clock) (args : Arguments) (previous : Option PyVal) : Except Fault PyVal := do
  let p ← project clock args previous
  finalizePacket (p.packet clock)

/-! ### The correction -/

/-- `TOTAL_FIELD_CORRECTION_SCHEMA` -/
def totalFieldCorrectionSchema : PyVal := lit "W7TP_8DADI_CORRECTION_CONTRACT_V1"

/-- `list(v or [])` -/
def elementsOr : PyVal → Except Fault (List PyVal)
  | .list xs => .ok xs
  | .str s => .ok (s.map fun c => .str [c])
  | .dict items => .ok (items.map fun p => match p.1 with
      | .str s => .str s
      | .other => .other)
  | v => if v.truthy then .error (.builtin .typeError) else .ok []

/-- What a contract says about the differences that remain. -/
inductive CorrectionState where
  | notLocated
  | notRequired
  | exhausted
  | ready
  deriving DecidableEq, Repr

/-- The text of a state. -/
def CorrectionState.name : CorrectionState → String
  | notLocated => "HOLD_CORRECTION_DIFFERENCE_NOT_LOCATED"
  | notRequired => "NO_CORRECTION_REQUIRED"
  | exhausted => "HOLD_CORRECTION_ATTEMPTS_EXHAUSTED"
  | ready => "CORRECTION_CANDIDATE_READY"

/-- `state`, of the two hashes, the differences that remain and the attempts. -/
def correctionState (target reobserved : PyStr) (remaining : List PyStr) (attempt maxAttempts : ℤ) :
    CorrectionState :=
  if target ≠ reobserved ∧ remaining = [] then .notLocated
  else if remaining = [] then .notRequired
  else if attempt > maxAttempts then .exhausted
  else .ready

/-- `attempt`, an integer that is no Boolean. -/
def attemptOf : PyVal → Except Fault ℤ
  | .int n => if n < 1 then .error (.own (invalid "CORRECTION_ATTEMPT_INVALID")) else .ok n
  | _ => .error (.own (invalid "CORRECTION_ATTEMPT_INVALID"))

/-- `max_attempts`, an integer that is no Boolean. -/
def maxAttemptsOf : PyVal → Except Fault ℤ
  | .int n =>
      if ¬(1 ≤ n ∧ n ≤ 10) then .error (.own (invalid "CORRECTION_MAX_ATTEMPTS_INVALID")) else .ok n
  | _ => .error (.own (invalid "CORRECTION_MAX_ATTEMPTS_INVALID"))

/-- The arguments besides the projection; a collection is given by its elements. -/
structure CorrectionArguments where
  affectedCoordinateRefs : List PyVal
  attempt : PyVal
  maxAttempts : PyVal
  rollbackRef : PyVal
  verificationProcedure : List PyVal

/-- A contract, as far as it is computed. -/
structure Contract where
  progressSha256 : PyVal
  founderIntent : PyVal
  target : Observation
  reobserved : Observation
  affected : List PyStr
  remaining : List PyStr
  attempt : ℤ
  maxAttempts : ℤ
  rollback : PyStr
  verification : List PyStr

/-- `state` -/
def Contract.state (c : Contract) : CorrectionState :=
  correctionState c.target.sha256 c.reobserved.sha256 c.remaining c.attempt c.maxAttempts

/-- `idempotency_preimage` -/
def Contract.preimage (c : Contract) : PyVal := obj [("affected_coordinate_refs", texts c.affected),
  ("attempt", .int c.attempt), ("progress_projection_sha256", c.progressSha256),
  ("remaining_difference_refs", texts c.remaining), ("rollback_ref", .str c.rollback),
  ("verification_procedure", texts c.verification)]

/-- `packet` -/
def Contract.packet (c : Contract) (idempotencyKey : PyStr) : List (String × PyVal) := [
  ("affected_coordinate_refs", texts c.affected), ("attempt", .int c.attempt), ("candidate_only", .bool true),
  ("canonical_pointer_write", .bool false), ("cloud_red_team_candidate_only", .bool true),
  ("divergence_policy", lit (if c.state = .notLocated ∨ c.state = .exhausted then "QUARANTINE_AND_ROLLBACK"
    else "REOBSERVE_THEN_CORRECT_REMAINING_ONLY")),
  ("execution_requires_fresh_total_field_d8_scope", .bool true),
  ("float_authority_dependency", floatAuthorityDependency), ("formal_decision_authority", .bool false),
  ("founder_intent", c.founderIntent), ("idempotency_key", .str idempotencyKey),
  ("materialization_scope", texts (if c.state = .ready then c.remaining else [])),
  ("max_attempts", .int c.maxAttempts), ("operation_authority", .bool false),
  ("post_state_receipt_required", .bool true), ("progress_projection_sha256", c.progressSha256),
  ("remaining_difference_refs", texts c.remaining), ("reobserved_state", c.reobserved.value),
  ("rollback_ref", .str c.rollback), ("schema_id", totalFieldCorrectionSchema), ("state", lit c.state.name),
  ("target_state", c.target.value), ("verification_procedure", texts c.verification)]

/-- The part of `build_total_field_correction_contract` before the packet is put together. -/
def contract (progress : PyVal) (args : CorrectionArguments) : Except Fault Contract := do
  raiseIf (¬pyEq (progress.get "schema_id") totalFieldProgressSchema)
    (invalid "TOTAL_FIELD_PROGRESS_PROJECTION_REQUIRED")
  let hash ← canonicalSha256 (unsigned progress)
  raiseIf (¬pyEq (progress.get "packet_sha256") (.str hash)) (invalid "TOTAL_FIELD_PROGRESS_HASH_MISMATCH")
  let attempt ← attemptOf args.attempt
  let maxAttempts ← maxAttemptsOf args.maxAttempts
  let affected ← requireStringList args.affectedCoordinateRefs "affected_coordinate_refs"
  let listed ← elementsOr (progress.get "remaining_difference_refs")
  let remaining ← requireStringList listed "remaining_difference_refs"
  raiseIf (¬∀ t ∈ sortedSet remaining, t ∈ sortedSet affected)
    (invalid "CORRECTION_RESIDUAL_OUTSIDE_AFFECTED_CLOSURE")
  let rollback ← requireNonEmptyString args.rollbackRef "rollback_ref"
  let verification ← requireStringList args.verificationProcedure "verification_procedure"
  let target ← normalizeProgressObservation "progress.target_state" (progress.get "target_state")
  let reobserved ← normalizeProgressObservation "progress.reobserved_state" (progress.get "reobserved_state")
  raiseIf (target.sha256 = reobserved.sha256 ∧ sortedSet remaining ≠ [])
    (invalid "CORRECTION_RESIDUAL_CONFLICTS_WITH_REOBSERVED_MATCH")
  pure ⟨progress.get "packet_sha256", progress.get "founder_intent", target, reobserved, sortedSet affected,
    sortedSet remaining, attempt, maxAttempts, rollback, verification⟩

/-- `build_total_field_correction_contract` -/
def buildCorrection (progress : PyVal) (args : CorrectionArguments) : Except Fault PyVal := do
  let c ← contract progress args
  let key ← canonicalSha256 c.preimage
  finalizePacket (c.packet key)

/-! ### What is read and written -/

/-- A value that is read as a time. -/
def Reads (clock : Clock) (v : PyVal) (t : ℤ) : Prop := ∀ path, parsePacketTime clock v path = .ok t

/-- The times that are written are read again. -/
def Clock.RoundTrips (clock : Clock) : Prop :=
  ∀ t, IsTime t → clock.fromisoformat (replaceZ (clock.isoformat t)) = some (some t)

variable {clock : Clock}

theorem parsePacketTime_eq_ok_iff {v : PyVal} {path : String} {t : ℤ} : parsePacketTime clock v path = .ok t ↔
    ∃ s, v = .str s ∧ clock.fromisoformat (replaceZ s) = some (some t) ∧ IsTime t := by
  unfold parsePacketTime
  split
  · next s =>
      split
      · next h => simp [h]
      · next h => simp [h]
      · next u h =>
          split_ifs with hu
          · simp only [Except.ok.injEq, PyVal.str.injEq, exists_eq_left', h, Option.some.injEq]
            exact ⟨fun heq => ⟨heq, heq ▸ hu⟩, fun heq => heq.1⟩
          · simp only [PyVal.str.injEq, exists_eq_left', h, Option.some.injEq, false_iff, not_and]
            exact fun heq => heq ▸ hu
  · next h => simpa using fun s heq => absurd heq (h s)

theorem reads_of_parse {v : PyVal} {path : String} {t : ℤ} (h : parsePacketTime clock v path = .ok t) :
    Reads clock v t := fun _ => parsePacketTime_eq_ok_iff.2 (parsePacketTime_eq_ok_iff.1 h)

theorem isTime_of_parse {v : PyVal} {path : String} {t : ℤ} (h : parsePacketTime clock v path = .ok t) :
    IsTime t := by
  obtain ⟨-, -, -, ht⟩ := parsePacketTime_eq_ok_iff.1 h
  exact ht

theorem Clock.RoundTrips.reads (hclock : clock.RoundTrips) {t : ℤ} (ht : IsTime t) :
    Reads clock (.str (clock.isoformat t)) t :=
  fun _ => parsePacketTime_eq_ok_iff.2 ⟨_, rfl, hclock t ht, ht⟩

theorem addSeconds_eq_ok_iff {t seconds u : ℤ} :
    addSeconds t seconds = .ok u ↔ IsTime u ∧ u = t + seconds * 1000000 := by
  unfold addSeconds
  split_ifs with h
  · rw [Except.ok.injEq]
    exact ⟨fun heq => ⟨heq ▸ h, heq.symm⟩, fun hu => hu.2.symm⟩
  · simp only [false_iff, not_and]
    rintro hu rfl
    exact h hu

/-- A text without white space around it that is not empty. -/
def IsTrimmed (s : PyStr) : Prop := strip s = s ∧ s ≠ []

theorem isTrimmed_strip {s : PyStr} (h : strip s ≠ []) : IsTrimmed (strip s) := ⟨strip_strip s, h⟩

theorem requireSha256_eq_ok_iff {v : PyVal} {path : String} {s : PyStr} :
    requireSha256 v path = .ok s ↔ v = .str s ∧ Sha256.isHex64 s := by
  unfold requireSha256
  split
  · next t =>
      split_ifs with h
      · simp only [Except.ok.injEq, PyVal.str.injEq]
        exact ⟨fun heq => ⟨heq, heq ▸ h⟩, fun heq => heq.1⟩
      · simp only [PyVal.str.injEq, false_iff, not_and]
        exact fun heq => heq ▸ h
  · next h => simpa using fun heq => absurd heq (h s)

theorem requireNonEmptyString_eq_ok_iff {v : PyVal} {path : String} {s : PyStr} :
    requireNonEmptyString v path = .ok s ↔ ∃ t, v = .str t ∧ strip t ≠ [] ∧ strip t = s := by
  unfold requireNonEmptyString
  split
  · next t => split_ifs with h <;> simp [h]
  · next h => simpa using fun t heq => absurd heq (h t)

theorem isTrimmed_of_require {v : PyVal} {path : String} {s : PyStr}
    (h : requireNonEmptyString v path = .ok s) : IsTrimmed s := by
  obtain ⟨t, -, hne, rfl⟩ := requireNonEmptyString_eq_ok_iff.1 h
  exact isTrimmed_strip hne

theorem IsTrimmed.require {s : PyStr} (h : IsTrimmed s) (path : String) :
    requireNonEmptyString (.str s) path = .ok s :=
  requireNonEmptyString_eq_ok_iff.2 ⟨s, rfl, h.1.symm ▸ h.2, h.1⟩

theorem requireListed_eq_ok_iff {v : PyVal} {path : String} {s : PyStr} :
    requireListed path v = .ok s ↔ ∃ t, v = .str t ∧ strip t ≠ [] ∧ strip t = s := by
  unfold requireListed
  split
  · next t => split_ifs with h <;> simp [h]
  · next h => simpa using fun t heq => absurd heq (h t)

theorem isTrimmed_of_requireStringList {vs : List PyVal} {path : String} {ts : List PyStr}
    (h : requireStringList vs path = .ok ts) : ∀ t ∈ ts, IsTrimmed t := by
  intro t ht
  obtain ⟨v, -, hv⟩ := (mem_of_mapM h).1 ht
  obtain ⟨u, -, hne, rfl⟩ := requireListed_eq_ok_iff.1 hv
  exact isTrimmed_strip hne

theorem requireStringList_strip {ts : List PyStr} (h : ∀ t ∈ ts, strip t ≠ []) (path : String) :
    requireStringList (ts.map .str) path = .ok (ts.map strip) := by
  rw [requireStringList, List.mapM_map]
  exact mapM_eq_ok fun t ht => requireListed_eq_ok_iff.2 ⟨t, rfl, h t ht, rfl⟩

/-- Texts without white space around them stay as they are. -/
theorem requireStringList_texts {ts : List PyStr} (h : ∀ t ∈ ts, IsTrimmed t) (path : String) :
    requireStringList (ts.map .str) path = .ok ts := by
  have hne : ∀ t ∈ ts, strip t ≠ [] := fun t ht => (h t ht).1.symm ▸ (h t ht).2
  have hstrip : ts.map strip = ts := (List.map_congr_left fun t ht => (h t ht).1).trans ts.map_id'
  rw [requireStringList_strip hne, hstrip]

theorem mem_sortedSet {ts : List PyStr} {t : PyStr} : t ∈ sortedSet ts ↔ t ∈ ts := by
  rw [sortedSet, CapabilityContext.mem_sortTexts, List.mem_dedup]

/-- A set that is listed in order stays as it is. -/
theorem sortedSet_sortedSet (ts : List PyStr) : sortedSet (sortedSet ts) = sortedSet ts := by
  have hnodup : (sortedSet ts).Nodup := (List.mergeSort_perm _ _).nodup_iff.2 ts.nodup_dedup
  rw [sortedSet, hnodup.dedup]
  exact CapabilityContext.sortTexts_congr (List.mergeSort_perm _ _)

/-! ### Observations and nodes -/

/-- An observation that has been checked. -/
structure Observation.Valid (o : Observation) : Prop where
  state : o.state ∈ progressObservationStates
  trimmed : IsTrimmed o.state
  ref : IsTrimmed o.ref
  sha256 : Sha256.isHex64 o.sha256

theorem valid_of_normalize {name : String} {v : PyVal} {o : Observation}
    (h : normalizeProgressObservation name v = .ok o) : o.Valid := by
  cases v with
  | dict items =>
      obtain ⟨-, -, h⟩ := bind_eq_ok_iff.1 h
      obtain ⟨state, hstate, h⟩ := bind_eq_ok_iff.1 h
      obtain ⟨_, hstates, h⟩ := bind_eq_ok_iff.1 h
      obtain ⟨ref, href, h⟩ := bind_eq_ok_iff.1 h
      obtain ⟨sha256, hsha, h⟩ := bind_eq_ok_iff.1 h
      obtain rfl := pure_eq_ok_iff.1 h
      exact ⟨not_not.1 (raiseIf_eq_ok_iff.1 hstates), isTrimmed_of_require hstate, isTrimmed_of_require href,
        (requireSha256_eq_ok_iff.1 hsha).2⟩
  | _ => cases h

theorem get_sha256_value (o : Observation) : o.value.get "sha256" = .str o.sha256 := by
  simp [Observation.value]

/-- A checked observation passes again, under any name. -/
theorem Observation.Valid.normalize {o : Observation} (h : o.Valid) (name : String) :
    normalizeProgressObservation name o.value = .ok o := by
  have hkeys : keysAre (fields [("ref", .str o.ref), ("sha256", .str o.sha256), ("state", .str o.state)])
      progressObservationFields := by
    simp [progressObservationFields]
  refine bind_eq_ok_iff.2 ⟨(), raiseIf_eq_ok_iff.2 (not_not.2 hkeys), ?_⟩
  refine bind_eq_ok_iff.2 ⟨o.state, by simpa [Observation.value] using h.trimmed.require _, ?_⟩
  refine bind_eq_ok_iff.2 ⟨(), raiseIf_eq_ok_iff.2 (not_not.2 h.state), ?_⟩
  refine bind_eq_ok_iff.2 ⟨o.ref, by simpa [Observation.value] using h.ref.require _, ?_⟩
  exact bind_eq_ok_iff.2 ⟨o.sha256, requireSha256_eq_ok_iff.2 ⟨get_sha256_value o, h.sha256⟩, rfl⟩

theorem fresh_of_normalize {created ttlSeconds : ℤ} {v : PyVal} {node : Node}
    (h : normalizeProgressNode clock created ttlSeconds v = .ok node) :
    IsTime node.observed ∧ node.Fresh created ttlSeconds := by
  cases v with
  | dict items =>
      obtain ⟨-, -, h⟩ := bind_eq_ok_iff.1 h
      obtain ⟨state, -, h⟩ := bind_eq_ok_iff.1 h
      obtain ⟨-, -, h⟩ := bind_eq_ok_iff.1 h
      obtain ⟨observed, hobserved, h⟩ := bind_eq_ok_iff.1 h
      obtain ⟨_, hfresh, h⟩ := bind_eq_ok_iff.1 h
      obtain ⟨nodeId, -, h⟩ := bind_eq_ok_iff.1 h
      obtain ⟨evidenceRef, -, h⟩ := bind_eq_ok_iff.1 h
      obtain ⟨evidenceSha256, -, h⟩ := bind_eq_ok_iff.1 h
      obtain rfl := pure_eq_ok_iff.1 h
      have hfresh := raiseIf_eq_ok_iff.1 hfresh
      rw [not_or, not_lt, not_lt] at hfresh
      exact ⟨isTime_of_parse hobserved, hfresh⟩
  | _ => cases h

/-! ### What a projection holds -/

/-- A projection that has been checked. -/
structure Projection.Valid (p : Projection) : Prop where
  target : p.target.Valid
  reobserved : p.reobserved.Valid
  trimmed : ∀ t ∈ p.differences, IsTrimmed t
  sorted : sortedSet p.differences = p.differences
  created : IsTime p.created
  expires : IsTime p.expires
  lifetime : p.expires = p.created + p.ttlSeconds * 1000000
  ttlSeconds : 1 ≤ p.ttlSeconds ∧ p.ttlSeconds ≤ 3600
  nodes : ∀ node ∈ p.nodes, IsTime node.observed ∧ node.Fresh p.created p.ttlSeconds

/-- **What is projected has been checked, and follows the projection before it.** -/
theorem project_spec {args : Arguments} {previous : Option PyVal} {p : Projection}
    (h : project clock args previous = .ok p) :
    p.Valid ∧ follow clock p.created p.intentSha256 previous = .ok (p.logicalTime, p.parent) := by
  obtain ⟨_, httl, h⟩ := bind_eq_ok_iff.1 h
  obtain ⟨created, hcreated, h⟩ := bind_eq_ok_iff.1 h
  obtain ⟨expires, hexpires, h⟩ := bind_eq_ok_iff.1 h
  obtain ⟨intentRef, -, h⟩ := bind_eq_ok_iff.1 h
  obtain ⟨intentSha256, -, h⟩ := bind_eq_ok_iff.1 h
  obtain ⟨target, htarget, h⟩ := bind_eq_ok_iff.1 h
  obtain ⟨current, -, h⟩ := bind_eq_ok_iff.1 h
  obtain ⟨reobserved, hreobserved, h⟩ := bind_eq_ok_iff.1 h
  obtain ⟨differences, hdifferences, h⟩ := bind_eq_ok_iff.1 h
  obtain ⟨receipts, -, h⟩ := bind_eq_ok_iff.1 h
  obtain ⟨nodes, hnodes, h⟩ := bind_eq_ok_iff.1 h
  obtain ⟨-, -, h⟩ := bind_eq_ok_iff.1 h
  obtain ⟨⟨logicalTime, parent⟩, hfollow, h⟩ := bind_eq_ok_iff.1 h
  obtain rfl := pure_eq_ok_iff.1 h
  obtain ⟨hend, hlifetime⟩ := addSeconds_eq_ok_iff.1 hexpires
  refine ⟨⟨valid_of_normalize htarget, valid_of_normalize hreobserved, ?_, sortedSet_sortedSet _,
    isTime_of_parse hcreated, hend, hlifetime, not_not.1 (raiseIf_eq_ok_iff.1 httl), ?_⟩, hfollow⟩
  · exact fun t ht => isTrimmed_of_requireStringList hdifferences t (mem_sortedSet.1 ht)
  · intro node hnode
    obtain ⟨v, -, hv⟩ := (mem_of_mapM hnodes).1 ((List.mergeSort_perm _ _).mem_iff.1 hnode)
    exact fresh_of_normalize hv

/-- The dictionary of a projection. -/
structure IsPacket (clock : Clock) (p : Projection) (v : PyVal) : Prop where
  createdAt : v.get "created_at" = .str (clock.isoformat p.created)
  expiresAt : v.get "expires_at" = .str (clock.isoformat p.expires)
  founderIntent : v.get "founder_intent" = obj [("ref", .str p.intentRef), ("sha256", .str p.intentSha256)]
  logicalTime : v.get "logical_time" = .int p.logicalTime
  nodes : v.get "node_observations" = .list (p.nodes.map (Node.value clock))
  parent : v.get "parent_progress_sha256" = p.parent.elim .none .str
  differences : v.get "remaining_difference_refs" = texts p.differences
  reobserved : v.get "reobserved_state" = p.reobserved.value
  schemaId : v.get "schema_id" = totalFieldProgressSchema
  state : v.get "state" = lit (if p.Aligned then "REOBSERVED_TARGET_FIELD_CLOSED" else "OPEN_RESIDUAL_DIFFERENCE")
  target : v.get "target_state" = p.target.value
  ttlSeconds : v.get "ttl_seconds" = .int p.ttlSeconds
  written : canonicalSha256 (unsigned v) = (.ok (hashOf (unsigned v)) : Except Fault PyStr)
  sealed : v.get "packet_sha256" = .str (hashOf (unsigned v))

theorem isPacket_of_finalize {p : Projection} {v : PyVal}
    (h : finalizePacket (p.packet clock) = (.ok v : Except Fault PyVal)) : IsPacket clock p v := by
  have hget : ∀ {k : String}, k ≠ "packet_sha256" → v.get k = (obj (p.packet clock)).get k :=
    fun hk => get_finalizePacket h hk
  obtain ⟨hash, hhash, h⟩ := bind_eq_ok_iff.1 h
  obtain rfl := pure_eq_ok_iff.1 h
  have hnew : ∀ q ∈ fields (p.packet clock), q.1 ≠ .str (cp "packet_sha256") := by
    intro q hq
    obtain ⟨r, hr, rfl⟩ := List.mem_map.1 hq
    have hkey : ∀ k ∈ (p.packet clock).map Prod.fst, k ≠ "packet_sha256" := by simp [Projection.packet]
    exact fun heq => hkey r.1 (List.mem_map_of_mem hr) (key_inj.1 heq)
  have hunsigned : unsigned (.dict (setKey (cp "packet_sha256") (.str hash) (fields (p.packet clock)))) =
      obj (p.packet clock) := congrArg PyVal.dict (eraseKey_setKey _ hnew)
  have hplain := canonicalSha256_isOk_iff.1 ⟨hash, hhash⟩
  obtain rfl := Except.ok.inj ((@canonicalSha256_ok Failure _ hplain).symm.trans hhash)
  constructor
  case written => rw [hunsigned, canonicalSha256_ok hplain]
  case sealed => rw [hunsigned, PyVal.get, getItem_setKey, if_pos rfl, Option.getD_some]
  all_goals rw [hget (by decide)]; simp [Projection.packet]

/-- **What a projection that is built holds.** -/
theorem buildProgress_spec {args : Arguments} {previous : Option PyVal} {v : PyVal}
    (h : buildProgress clock args previous = .ok v) :
    ∃ p : Projection, project clock args previous = .ok p ∧ p.Valid ∧ IsPacket clock p v ∧
      follow clock p.created p.intentSha256 previous = .ok (p.logicalTime, p.parent) := by
  obtain ⟨p, hp, h⟩ := bind_eq_ok_iff.1 h
  obtain ⟨hvalid, hfollow⟩ := project_spec hp
  exact ⟨p, hp, hvalid, isPacket_of_finalize h, hfollow⟩

/-- **What is known of the projection before it.** -/
theorem follow_spec {created logicalTime : ℤ} {intentSha256 : PyStr} {u : PyVal} {parent : Option PyStr}
    (h : follow clock created intentSha256 (some u) = .ok (logicalTime, parent)) :
    (∃ n, u.get "logical_time" = .int n ∧ logicalTime = n + 1) ∧
      (u.get "founder_intent").get "sha256" = .str intentSha256 ∧
      (∃ expires, Reads clock (u.get "expires_at") expires ∧ created < expires) ∧
      u.get "packet_sha256" = parent.elim .none .str := by
  obtain ⟨-, -, h⟩ := bind_eq_ok_iff.1 h
  obtain ⟨hash, -, h⟩ := bind_eq_ok_iff.1 h
  obtain ⟨_, hsealed, h⟩ := bind_eq_ok_iff.1 h
  obtain ⟨_, hintent, h⟩ := bind_eq_ok_iff.1 h
  obtain ⟨expires, hexpires, h⟩ := bind_eq_ok_iff.1 h
  obtain ⟨_, hstale, h⟩ := bind_eq_ok_iff.1 h
  have hsealed := pyEq_str.1 (not_not.1 (raiseIf_eq_ok_iff.1 hsealed))
  have hintent := pyEq_str.1 (not_not.1 (raiseIf_eq_ok_iff.1 hintent)).2
  have hstale := not_le.1 (raiseIf_eq_ok_iff.1 hstale)
  cases hn : u.get "logical_time" with
  | int n =>
      simp only [hn] at h
      obtain ⟨rfl, rfl⟩ := Prod.mk.inj (pure_eq_ok_iff.1 h)
      exact ⟨⟨n, rfl, rfl⟩, hintent, ⟨expires, reads_of_parse hexpires, hstale⟩, hsealed⟩
  | _ =>
      simp only [hn] at h
      cases h

end ProgressProjection
