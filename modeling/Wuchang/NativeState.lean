/-
**States and transition rules of the native ADI.**

The data of `core/adi_native/models.py`: the integer state of a packet with its causal and evidence
bindings, and the rules by which one state may lead to another.  A rule cannot be built with a cost
that is not positive or with a polarity outside `-1`, `0` and `1`; these two checks of its constructor
are fields here.

An `int` of the source may be a `bool`, which the code tells apart in some places and not in others.

Main definitions:

* `NativeAdi.PyInt` — an `int`, or a `bool` in its place;
* `NativeAdi.StatePacket8D`, `NativeAdi.NativeTransitionRule` — a state, and a rule;
* `NativeAdi.CanonicalPath` — a path, with the properties the code reads off it.
-/

import Wuchang.PyValue

set_option relaxedAutoImplicit false
set_option autoImplicit false

namespace NativeAdi

open Py

/-- An object for which `isinstance(x, int)` holds. -/
inductive PyInt where
  | int (n : ℤ)
  | bool (b : Bool)
  deriving DecidableEq, Repr

namespace PyInt

/-- Its value in comparisons and sums. -/
def val : PyInt → ℤ
  | int n => n
  | bool b => if b then 1 else 0

/-- `isinstance(x, bool)` -/
def isBool : PyInt → Bool
  | int _ => false
  | bool _ => true

/-- The object as a value. -/
def toVal : PyInt → PyVal
  | int n => .int n
  | bool b => .bool b

end PyInt

/-- `DimensionBoundaryFacts` -/
structure DimensionBoundaryFacts where
  intentSatisfied : Bool := false
  evidenceValid : Bool := false
  lifeSafe : Bool := false
  otherRightsSafe : Bool := false
  intentViolated : Bool := false
  causalOrderViolated : Bool := false
  lifeHarm : Bool := false
  otherRightsHarm : Bool := false
  hardRisk : Bool := false
  deriving DecidableEq, Repr

/-- `StatePacket8D`, without the metadata nothing reads.  A mapping is given by its items. -/
structure StatePacket8D where
  dimensions : List PyInt
  eventTime : PyInt
  namespaceRef : PyStr
  stateProfile : PyStr
  nativeStateRef : PyStr
  stateRoot : PyStr
  parentStateRoot : PyStr
  evidenceRoot : PyStr
  snapshotId : PyStr
  canonicalVersion : PyStr
  ruleVersion : PyStr
  logicalTime : PyInt
  topologyCoordinateRef : PyStr
  eventHashRef : PyStr
  boundaryFacts : List DimensionBoundaryFacts
  /-- the declared type is a tuple of eight -/
  boundaryFacts_length : boundaryFacts.length = 8
  evidenceDigests : List (PyStr × PyStr) := []
  expectedEvidenceDigests : List (PyStr × PyStr) := []
  satisfiedPreconditions : List PyStr := []
  previousLogicalTime : Option PyInt := none
  claimedMetricSignature : Option (List PyVal) := none
  breakpointSegmentRef : Option PyStr := none

/-- `NativeTransitionRule`, with the two checks of `__post_init__`. -/
structure NativeTransitionRule where
  transitionRuleId : PyStr
  fromStateCode : PyStr
  toStateCode : PyStr
  preconditions : List PyStr
  requiredEvidenceRefs : List PyStr
  polarity : PyInt
  directionCode : PyStr
  stepCostUint : PyInt
  ruleVersion : PyStr
  breakpointPolicyRef : Option PyStr := none
  stepCost_pos : 0 < stepCostUint.val
  polarity_mem : polarity.val = -1 ∨ polarity.val = 0 ∨ polarity.val = 1
  deriving DecidableEq

/-- `CanonicalPath` -/
structure CanonicalPath where
  rules : List NativeTransitionRule

namespace CanonicalPath

/-- `transition_rule_ids` -/
def transitionRuleIds (p : CanonicalPath) : List PyStr :=
  p.rules.map NativeTransitionRule.transitionRuleId

/-- `direction_codes` -/
def directionCodes (p : CanonicalPath) : List PyStr :=
  p.rules.map NativeTransitionRule.directionCode

/-- `total_cost` -/
def totalCost (p : CanonicalPath) : ℤ := (p.rules.map fun r => r.stepCostUint.val).sum

end CanonicalPath

end NativeAdi
