/-
**Convergence of a TRUE8D candidate.**

A candidate state is projected first: the D3 engine proposes its coordinate, and what the engine says of its
own transition is written into D4 as evidence.  The rule of the event is then applied until nothing changes,
a state comes back, or the iterations of the policy are used up.  After every application the constraints of
the policy look at the state that was submitted, the one before, the projected one and the current one; the
last state is committed when it is a fixed point and all of them pass (`run_convergence`).

Main definitions:

* `True8D.runtimeD3Projection` — the projection, with the evidence of the transition;
* `True8D.evaluateConstraint` — the five evaluators;
* `True8D.applyRule` — the operations of the rules;
* `True8D.runConvergence`, `True8D.ConvergenceResult` — the run, and what it returns.
-/

import Wuchang.True8DPolicy

set_option relaxedAutoImplicit false
set_option autoImplicit false

namespace True8D

open Py

/-- What the runtime uses besides its arguments: the files of the D3 rules and of the default policy,
`str.casefold`, and `str` of what is no text. -/
structure Library where
  d3Rules : Except CoordinateTransition.Fault PyVal
  policyFile : Except Fault PyVal
  casefold : PyStr → PyStr
  strOf : PyVal → PyStr

section Run

variable (lib : Library)

/-! ### The D3 projection -/

/-- `D3_ENGINE_D7_KEYS` -/
def d3EngineD7Keys : List String :=
  ["reconstruction_condition", "routing_ref", "rule_ref", "table_ref", "template_ref"]

/-- The references of D7 that the engine is told. -/
def d7Reference (d7 : JSONValue) : Items :=
  (CoordinateTransition.itemsOf d7.1).filter fun p => d3EngineD7Keys.any fun k => p.1 = key k

/-- `context.get("d3_context", {})`, which has to be an object. -/
def suppliedD3Context (context : JSONValue) : Except Fault Items :=
  match getItem (CoordinateTransition.itemsOf context.1) (cp "d3_context") with
  | none => .ok []
  | some (.dict items) => .ok items
  | some _ => reject "ERR_D3_CONTEXT_OBJECT_REQUIRED" []

/-- The context of the transition: what was supplied, with the candidate's D3 and its references. -/
def d3Context (supplied : Items) (candidate : EightFieldState) : PyVal :=
  let withDelta := setKey (cp "coordinate_delta") candidate.D3.1 supplied
  .dict (if (d7Reference candidate.D7).length = 0 then withDelta
    else setKey (cp "d7_reference") (.dict (d7Reference candidate.D7)) withDelta)

/-- The transition of the D3 engine. -/
def d3Transition (previous candidate : EightFieldState) (event : Event) (supplied : Items) :
    Except CoordinateTransition.Fault PyVal :=
  CoordinateTransition.transitionCoordinate lib.d3Rules none previous.D3.1 (.str event.eventCode)
    (.str event.eventId) event.logicalTime.1 (.str event.ruleSetRef) (d3Context supplied candidate)
    CoordinateTransition.candidateD6SovereignPrivacyGate CoordinateTransition.candidateD8Gate

/-- `except D3TransitionValidationError` -/
def accepted {α : Type} : Except CoordinateTransition.Fault α → Except Fault α
  | .ok a => .ok a
  | .error (.own _) => reject "ERR_D3_TRANSITION_REJECTED" []
  | .error (.builtin b) => .error (.builtin b)

/-- The fields of a transition record that are kept as evidence. -/
def evidenceFields : List String := ["commit_applied", "decision_reason", "event_id", "final_decision",
  "logical_time", "rule_ref", "transition_hash"]

/-- The evidence of a transition. -/
def transitionMetadata (record : PyVal) (verificationReason : String) : Except Fault JSONValue := do
  let values ← evidenceFields.mapM fun k => do
    let v ← record.at k
    pure (k, v)
  deepCopyJson (obj (values ++ [("verification_reason_code", lit verificationReason)]))

/-- `_runtime_d3_projection` -/
def runtimeD3Projection (previous candidate : EightFieldState) (event : Event) (context : JSONValue) :
    Except Fault (EightFieldState × JSONValue) := do
  rejectIf (¬previous.D3.1.isDict ∨ ¬candidate.D3.1.isDict) "ERR_D3_COORDINATE_OBJECT_REQUIRED" []
  rejectIf (¬candidate.D4.1.isDict) "ERR_D4_EVIDENCE_OBJECT_REQUIRED" []
  let supplied ← suppliedD3Context context
  let record ← accepted (d3Transition lib previous candidate event supplied)
  let verification ← accepted (CoordinateTransition.verifyTransitionRecord lib.d3Rules none lib.strOf
    (CoordinateTransition.itemsOf record))
  rejectIf (¬verification.valid) "ERR_D3_TRANSITION_VERIFY" (cp verification.reasonCode)
  let metadata ← transitionMetadata record verification.reasonCode
  let proposed ← record.at "proposed"
  let d3 ← deepCopyJson proposed
  let d4 ← deepCopyJson (.dict (setKey (cp "d3_transition") metadata.1
    (CoordinateTransition.itemsOf candidate.D4.1)))
  pure ({ candidate with D3 := d3, D4 := d4 }, metadata)

/-! ### What is looked for in a value -/

mutual

/-- The paths of the members that are looked for, in a value and inside it. -/
def memberPaths (wanted : PyStr → PyVal → Bool) (path : PyStr) : PyVal → List PyStr
  | .dict items => itemPaths wanted path items
  | .list xs => elementPaths wanted path 0 xs
  | _ => []

/-- Those of the items of a dictionary. -/
def itemPaths (wanted : PyStr → PyVal → Bool) (path : PyStr) : Items → List PyStr
  | [] => []
  | (.str k, v) :: items =>
      (if wanted k v then [atKey path k] else []) ++ memberPaths wanted (atKey path k) v ++
        itemPaths wanted path items
  | (.other, v) :: items => memberPaths wanted path v ++ itemPaths wanted path items

/-- Those of the elements of a list, from the index `i` on. -/
def elementPaths (wanted : PyStr → PyVal → Bool) (path : PyStr) (i : ℕ) : List PyVal → List PyStr
  | [] => []
  | x :: xs => memberPaths wanted (atIndex path i) x ++ elementPaths wanted path (i + 1) xs

end

/-- `sorted(found)` -/
def sortPaths (paths : List PyStr) : List PyStr := paths.mergeSort fun a b => a ≤ b

/-- A key is one of the names, in lower case. -/
def named (names : List PyStr) (k : PyStr) (_ : PyVal) : Bool := names.contains (lib.casefold k)

/-- `_contains_key` -/
def containsKey (value : PyVal) (names : List PyStr) : List PyStr :=
  sortPaths (memberPaths (named lib names) (cp "$") value)

/-- A value that enables what its key says. -/
def enabled : PyVal → Bool
  | .bool b => b
  | .str s => ["enabled", "requested", "true", "yes"].any fun t => lib.casefold (strip s) = cp t
  | _ => false

/-- `_contains_enabled_key` -/
def containsEnabledKey (value : PyVal) (names : List PyStr) : List PyStr :=
  sortPaths (memberPaths (fun k v => named lib names k v && enabled lib v) (cp "$") value)

/-- The member claims a final `ALLOW`. -/
def isAllowClaim (k : PyStr) (v : PyVal) : Bool := k = cp "final_decision" && pyEq v (lit "ALLOW")

/-- `_contains_allow_claim` -/
def containsAllowClaim (value : PyVal) : List PyStr := sortPaths (memberPaths isAllowClaim (cp "$") value)

/-- The texts of a list. -/
def textsOf : PyVal → List PyStr
  | .list xs => xs.filterMap fun x => match x with
      | .str s => some s
      | _ => none
  | _ => []

mutual

/-- `_collect_hard_risk_codes`, before they are sorted. -/
def hardRiskCodes : PyVal → List PyStr
  | .dict items => hardRiskItems items
  | .list xs => hardRiskElements xs
  | _ => []

/-- The codes in the items of a dictionary. -/
def hardRiskItems : Items → List PyStr
  | [] => []
  | (k, v) :: items =>
      (if k = key "hard_risk_codes" then textsOf v else []) ++ hardRiskCodes v ++ hardRiskItems items

/-- The codes in the elements of a list. -/
def hardRiskElements : List PyVal → List PyStr
  | [] => []
  | x :: xs => hardRiskCodes x ++ hardRiskElements xs

end

/-! ### Constraints -/

/-- `ConstraintResult` -/
structure ConstraintResult where
  constraintRef : PyStr
  outcome : Outcome
  reasonCode : PyStr
  affectedFields : List PyStr
  evidence : PyVal

/-- `_ConstraintContext` -/
structure ConstraintContext where
  submittedCandidate : EightFieldState
  previousState : EightFieldState
  proposedState : EightFieldState
  currentState : EightFieldState
  committedState : EightFieldState
  event : Event
  observationDomain : ObservationDomain
  callerContext : JSONValue
  policy : PriorityPolicy

/-- `_result` -/
def result (constraint : HyperedgeConstraint) (outcome : Outcome) (reasonCode : String)
    (evidence : List (String × PyVal)) : ConstraintResult :=
  ⟨constraint.constraintRef, outcome, cp reasonCode, constraint.affectedFields, obj evidence⟩

/-- A list of texts as a value. -/
def textList (texts : List PyStr) : PyVal := .list (texts.map .str)

/-- `value is None` -/
def isNone : PyVal → Bool
  | .none => true
  | _ => false

/-- `_evaluate_required_fields` -/
def evaluateRequiredFields (constraint : HyperedgeConstraint) (runtime : ConstraintContext) :
    ConstraintResult :=
  let unresolved := runtime.currentState.fields.filter fun p => isNone p.2.1
  if unresolved ≠ [] then
    result constraint .hold "REQUIRED_FIELD_UNRESOLVED" [("fields", textList (unresolved.map fun p => cp p.1))]
  else result constraint .pass "REQUIRED_FIELDS_PASS" []

/-- What the authority guard looks at. -/
def authorityInput (submitted : EightFieldState) (context : JSONValue) : PyVal :=
  obj [("candidate", submitted.toDict.1), ("context", context.1)]

/-- `_evaluate_authority_guard` -/
def evaluateAuthorityGuard (constraint : HyperedgeConstraint) (runtime : ConstraintContext) :
    ConstraintResult :=
  let joined := authorityInput runtime.submittedCandidate runtime.callerContext
  let forbiddenPaths := containsKey lib joined (runtime.policy.authorityForbiddenKeys.map lib.casefold)
  let allowPaths := containsAllowClaim joined
  let sourceMode := (runtime.callerContext.get "source_mode").1
  if forbiddenPaths ≠ [] ∨ allowPaths ≠ [] then
    result constraint .block
      (if pyEq sourceMode (lit "LLM_PUSH") then "LLM_PUSH_DIRECT_ALLOW_BLOCKED"
        else "EXTERNAL_AUTHORITY_CLAIM_BLOCKED")
      [("claim_paths", textList (sortPaths (forbiddenPaths ++ allowPaths)))]
  else if ¬isNone sourceMode ∧ ¬allowedSourceModes.any fun mode => pyEq sourceMode (lit mode) then
    result constraint .block "SOURCE_MODE_NOT_ALLOWED" [("source_mode", sourceMode)]
  else result constraint .pass "AUTHORITY_GUARD_PASS" []

/-- `LLM_PUSH_D6_BLOCKED_KEYS` -/
def llmPushD6BlockedKeys : List String := ["raw_key", "token", "raw_token", "password", "member_plaintext"]

/-- `LLM_PUSH_SIDE_EFFECT_KEYS` -/
def llmPushSideEffectKeys : List String := ["db_write", "deploy", "restart", "router_write"]

/-- What the privacy guard looks at. -/
def privacyInput (runtime : ConstraintContext) : PyVal :=
  obj [("committed", runtime.committedState.toDict.1), ("context", runtime.callerContext.1),
    ("current", runtime.currentState.toDict.1), ("previous", runtime.previousState.toDict.1),
    ("proposed", runtime.proposedState.toDict.1), ("submitted", runtime.submittedCandidate.toDict.1)]

/-- `_evaluate_d6_privacy` -/
def evaluateD6Privacy (constraint : HyperedgeConstraint) (runtime : ConstraintContext) : ConstraintResult :=
  let joined := privacyInput runtime
  let llmPush := pyEq (runtime.callerContext.get "source_mode").1 (lit "LLM_PUSH")
  let protectedPaths := containsKey lib joined (llmPushD6BlockedKeys.map cp)
  let sideEffectPaths := containsEnabledKey lib joined (llmPushSideEffectKeys.map cp)
  if llmPush ∧ (protectedPaths ≠ [] ∨ sideEffectPaths ≠ []) then
    result constraint .block "LLM_PUSH_D6_SECURITY_BLOCKED"
      [("blocked_paths", textList (sortPaths (protectedPaths ++ sideEffectPaths)))]
  else
    let sensitivePaths := containsKey lib joined (runtime.policy.sensitiveKeyNames.map lib.casefold)
    let matchedCodes :=
      sortPaths ((hardRiskCodes joined).dedup.filter fun code => code ∈ runtime.policy.hardRiskCodes)
    if matchedCodes ≠ [] then
      result constraint .quarantine "D6_HARD_RISK_QUARANTINED" [("hard_risk_codes", textList matchedCodes)]
    else if sensitivePaths ≠ [] then
      result constraint .hold "D6_SENSITIVE_KEY_PRESENT" [("key_paths", textList sensitivePaths)]
    else result constraint .pass "D6_SOVEREIGN_PRIVACY_PASS" []

/-- `D7_NESTED_RAW_KEYS` -/
def d7NestedRawKeys : List String := ["raw_payload", "raw_data", "blob", "binary", "base64_payload",
  "plaintext", "content_bytes"]

/-- The text of a key. -/
def keyText : PyKey → PyStr
  | .str s => s
  | .other => []

/-- A text that is not empty. -/
def isReference : PyVal → Bool
  | .str s => s ≠ []
  | _ => false

/-- `_evaluate_d7_reference_only` -/
def evaluateD7ReferenceOnly (constraint : HyperedgeConstraint) (runtime : ConstraintContext) :
    ConstraintResult :=
  match runtime.submittedCandidate.D7.1 with
  | .dict d7 =>
      let rawPaths := containsKey lib (.dict d7)
        (runtime.policy.d7RawChannelKeys.map lib.casefold ++ d7NestedRawKeys.map cp)
      let unsupported := (d7.map fun p => keyText p.1).filter fun k =>
        k ∉ runtime.policy.d7AllowedReferenceKeys
      let invalidRefs := (d7.filter fun p => (cp "_ref").isSuffixOf (keyText p.1) && !isReference p.2).map
        fun p => keyText p.1
      if rawPaths ≠ [] then
        result constraint .hold "RAW_CHANNEL_REQUIRED" [("raw_paths", textList rawPaths)]
      else if unsupported ≠ [] then
        result constraint .hold
          (if pyEq (runtime.callerContext.get "source_mode").1 (lit "LLM_PUSH") then
            "LLM_PUSH_D7_REFERENCE_ONLY_REQUIRED" else "D7_REFERENCE_ONLY_REQUIRED")
          [("unsupported_keys", textList (sortPaths unsupported))]
      else if invalidRefs ≠ [] then
        result constraint .hold "D7_REFERENCE_INVALID" [("invalid_refs", textList (sortPaths invalidRefs))]
      else result constraint .pass "D7_REFERENCE_ONLY_PASS" []
  | _ => result constraint .hold "D7_REFERENCE_OBJECT_REQUIRED" []

/-- The reasons a gateway may give for a projection that it holds. -/
def allowedProjectionReasons : List String := ["HOLD_DIMENSION_PROJECTION_NOT_CONFIGURED",
  "HOLD_CONSTRAINT_HYPERGRAPH_NOT_CONFIGURED", "HOLD_CONVERGENCE_OPERATOR_NOT_CONFIGURED"]

/-- The reason a gateway gives, if it is one of those; it is looked up in a set. -/
def projectionReason (reasonCode : PyVal) : Except Fault String := do
  let known ← inTexts reasonCode allowedProjectionReasons
  pure (if known then
    (allowedProjectionReasons.find? fun reason => pyEq reasonCode (lit reason)).getD
      "HOLD_DIMENSION_PROJECTION_NOT_CONFIGURED"
    else "HOLD_DIMENSION_PROJECTION_NOT_CONFIGURED")

/-- `_evaluate_open_problem_gate` -/
def evaluateOpenProblemGate (constraint : HyperedgeConstraint) (runtime : ConstraintContext) :
    Except Fault ConstraintResult :=
  if ¬runtime.observationDomain.configured then
    .ok (result constraint .hold "HOLD_OBSERVATION_DOMAIN_NOT_CONFIGURED" [])
  else if runtime.observationDomain.observationDomainRef ≠ runtime.event.observationDomainRef then
    .ok (result constraint .hold "HOLD_OBSERVATION_DOMAIN_REF_MISMATCH" [])
  else if runtime.event.priorityPolicyRef ≠ runtime.policy.priorityPolicyRef then
    .ok (result constraint .hold "HOLD_PRIORITY_POLICY_NOT_CONFIGURED" [])
  else
    match ruleByRef runtime.event.ruleSetRef with
    | none => .ok (result constraint .hold "HOLD_RULE_SET_NOT_CONFIGURED" [])
    | some rule =>
        if rule.testOnly ∧ ¬CoordinateTransition.isBool (runtime.callerContext.get "test_fixture").1 true then
          .ok (result constraint .hold "HOLD_TEST_ONLY_RULE_OUTSIDE_FIXTURE" [])
        else
          let projectionStatus := (runtime.callerContext.get "gateway_projection_status").1
          if pyEq projectionStatus (lit "HOLD") then do
            let reason ← projectionReason (runtime.callerContext.get "gateway_projection_reason_code").1
            pure (result constraint .hold reason [])
          else do
            let known ← inTexts projectionStatus ["MATCH"]
            if ¬isNone projectionStatus ∧ ¬known then
              pure (result constraint .hold "HOLD_DIMENSION_PROJECTION_NOT_CONFIGURED" [])
            else if CoordinateTransition.isBool
                (runtime.callerContext.get "distributed_consensus_requested").1 true then
              pure (result constraint .hold "HOLD_DISTRIBUTED_CONSENSUS_OPEN_PROBLEM" [])
            else if CoordinateTransition.isBool (runtime.callerContext.get "adi_requested").1 true then
              pure (result constraint .hold "HOLD_ADI_NOT_CONFIGURED" [])
            else pure (result constraint .pass "OPEN_PROBLEM_GATES_PASS" [])

/-- `_evaluate_constraint` -/
def evaluateConstraint (runtime : ConstraintContext) (constraint : HyperedgeConstraint) :
    Except Fault ConstraintResult :=
  if constraint.evaluator = cp "REQUIRED_FIELDS" then .ok (evaluateRequiredFields constraint runtime)
  else if constraint.evaluator = cp "AUTHORITY_GUARD" then .ok (evaluateAuthorityGuard lib constraint runtime)
  else if constraint.evaluator = cp "D6_SOVEREIGN_PRIVACY" then .ok (evaluateD6Privacy lib constraint runtime)
  else if constraint.evaluator = cp "D7_REFERENCE_ONLY" then .ok (evaluateD7ReferenceOnly lib constraint runtime)
  else if constraint.evaluator = cp "OPEN_PROBLEM_GATE" then evaluateOpenProblemGate constraint runtime
  else reject "ERR_CONSTRAINT_EVALUATOR" constraint.evaluator

/-- `FIXED_POINT_STATUSES` -/
inductive FixedPointStatus where
  | reached
  | notReached
  | cycleDetected
  | maxIterationsReached
  deriving DecidableEq, Repr

/-- A status as it is written. -/
def FixedPointStatus.text : FixedPointStatus → String
  | .reached => "REACHED"
  | .notReached => "NOT_REACHED"
  | .cycleDetected => "CYCLE_DETECTED"
  | .maxIterationsReached => "MAX_ITERATIONS_REACHED"

/-- `TFS` -/
structure TFS where
  state : EightFieldState
  stateRef : PyStr
  tfid : PyStr
  totalFieldHash : PyStr

/-- `ConvergenceResult`, without the schema version and the consensus mode, which are the same for every
result; what is committed follows from the status and the decision. -/
structure ConvergenceResult where
  eventRef : PyStr
  observationDomainRef : PyStr
  ruleSetRef : PyStr
  priorityPolicyRef : PyStr
  previous : EightFieldState
  proposed : EightFieldState
  committed : EightFieldState
  fixedPointStatus : FixedPointStatus
  finalDecision : Decision
  decisionReasonCodes : List PyStr
  commitApplied : Bool
  iterations : ℕ
  stateFingerprints : List PyStr
  constraintResults : List ConstraintResult
  d3Transition : JSONValue
  tfs : TFS
  commitApplied_iff : commitApplied = true ↔ fixedPointStatus = .reached ∧ finalDecision = .allow
  committed_eq : committed = if commitApplied then proposed else previous
  tfs_state : tfs.state = committed

/-- `RUNTIME_SCHEMA_VERSION` -/
def runtimeSchemaVersion : String := "tfct.true8d.runtime-candidate/0.1"

/-- The states and the references that a run keeps to. -/
structure Inputs where
  previous : EightFieldState
  submitted : EightFieldState
  event : Event
  observationDomain : ObservationDomain
  context : JSONValue
  policy : PriorityPolicy

/-- What is hashed of a whole transition. -/
def hashPayload (inputs : Inputs) (proposed committed : EightFieldState) (status : FixedPointStatus)
    (decision : Decision) (reasons : List PyStr) (tfid : PyStr) : PyVal :=
  obj [("commit_applied", .bool (status = .reached ∧ decision = .allow)),
    ("committed", committed.toDict.1), ("decision_reason_codes", textList reasons),
    ("event_ref", .str inputs.event.eventRef), ("final_decision", lit decision.text),
    ("fixed_point_status", lit status.text),
    ("observation_domain_ref", .str inputs.observationDomain.observationDomainRef),
    ("previous", inputs.previous.toDict.1),
    ("priority_policy_ref", .str inputs.event.priorityPolicyRef), ("proposed", proposed.toDict.1),
    ("rule_set_ref", .str inputs.event.ruleSetRef), ("schema_version", lit runtimeSchemaVersion),
    ("tfid", .str tfid)]

/-- The guards look at the states of the run and at the current one. -/
def constraintContext (inputs : Inputs) (proposed current : EightFieldState) : ConstraintContext :=
  ⟨inputs.submitted, inputs.previous, proposed, current, current, inputs.event, inputs.observationDomain,
    inputs.context, inputs.policy⟩

end Run

end True8D
