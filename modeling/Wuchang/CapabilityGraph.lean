/-
**The dependencies of a registry.**

The check of the dependencies is a depth-first search.  It accepts a registry if and only if everything that is
required is registered and no capability requires itself, directly or through others.

Main definitions:

* `CapabilityContext.Requires` — a capability requires another one.

Main results:

* `CapabilityContext.validateDependencyGraph_eq_run` — the check is the search;
* `CapabilityContext.graph_accepted_iff` — the registries that it accepts.
-/

import Wuchang.CapabilityContext
import Wuchang.DepthFirst

set_option relaxedAutoImplicit false
set_option autoImplicit false

namespace CapabilityContext

open Py

/-- A capability of a registry requires another one. -/
def Requires (registry : Registry) (cid dep : PyStr) : Prop :=
  ∃ c ∈ registry.capabilities, c.capabilityId = cid ∧ dep ∈ c.requires

/-- What an identifier requires is what its capability requires. -/
theorem mem_requires {registry : Registry} {cid dep : PyStr} (hids : registry.ids.Nodup) :
    dep ∈ registry.requires cid ↔ ∃ c ∈ registry.capabilities, c.capabilityId = cid ∧ dep ∈ c.requires := by
  rw [Registry.requires]
  cases hfind : registry.capabilities.find? fun c => c.capabilityId = cid with
  | none =>
      refine iff_of_false List.not_mem_nil ?_
      rintro ⟨c, hc, hcid, -⟩
      exact absurd hcid (by simpa using List.find?_eq_none.1 hfind c hc)
  | some c =>
      have hc := List.mem_of_find?_eq_some hfind
      have hcid : c.capabilityId = cid := by simpa using List.find?_some hfind
      constructor
      · intro hdep
        exact ⟨c, hc, hcid, hdep⟩
      · rintro ⟨d, hd, hdcid, hdep⟩
        obtain rfl : d = c := List.inj_on_of_nodup_map hids hd hc (hdcid.trans hcid.symm)
        exact hdep

section Search

variable {registry : Registry}

/-- The error of something that is not registered. -/
def missingFault (cid : PyStr) : Fault := .own ⟨"CAPABILITY_DEPENDENCY_MISSING", cid⟩

/-- The error of a cycle. -/
def cycleFault (cid : PyStr) : Fault := .own ⟨"CAPABILITY_DEPENDENCY_CYCLE", cid⟩

theorem visit_eq (n : ℕ) (active done : List PyStr) (cid : PyStr) : visit registry n active done cid =
    DepthFirst.visit missingFault cycleFault registry.ids registry.requires n active done cid := by
  induction n generalizing active done cid with
  | zero =>
      rw [visit, DepthFirst.visit]
      split_ifs
      all_goals rfl
  | succ n ih =>
      have hsteps : visit registry n (cid :: active) = DepthFirst.visit missingFault cycleFault registry.ids
          registry.requires n (cid :: active) := funext fun done => funext fun dep => ih _ done dep
      rw [visit, DepthFirst.visit]
      split_ifs
      · rfl
      · rfl
      · rw [hsteps]
      · rfl

/-- **The check of the dependencies is a depth-first search.** -/
theorem validateDependencyGraph_eq_run : validateDependencyGraph registry =
    DepthFirst.run missingFault cycleFault registry.ids registry.requires := by
  have hsteps : visit registry registry.ids.length [] = DepthFirst.visit missingFault cycleFault registry.ids
      registry.requires registry.ids.length [] := funext fun done => funext fun cid => visit_eq _ _ done cid
  rw [validateDependencyGraph, DepthFirst.run, hsteps]

/-- Only what is registered requires something. -/
theorem mem_ids_of_requires {cid dep : PyStr} (h : dep ∈ registry.requires cid) : cid ∈ registry.ids := by
  rw [Registry.requires] at h
  cases hfind : registry.capabilities.find? fun c => c.capabilityId = cid with
  | none =>
      rw [hfind] at h
      cases h
  | some c =>
      have hcid : c.capabilityId = cid := by simpa using List.find?_some hfind
      rw [← hcid]
      exact List.mem_map_of_mem (List.mem_of_find?_eq_some hfind)

/-- In a graph that passes the check every dependency is registered. -/
theorem requires_of_graph {done : List PyStr} (h : validateDependencyGraph registry = .ok done) {cid dep : PyStr}
    (hdep : dep ∈ registry.requires cid) : dep ∈ registry.ids := by
  rw [validateDependencyGraph_eq_run] at h
  exact (DepthFirst.run_isOk_iff.1 ⟨done, h⟩).1 cid (mem_ids_of_requires hdep) dep hdep

/-- **The registries whose dependencies are accepted**: what is required is registered, and there is no cycle. -/
theorem graph_accepted_iff (hids : registry.ids.Nodup) :
    (∃ done, validateDependencyGraph registry = .ok done) ↔
      (∀ cid dep, Requires registry cid dep → dep ∈ registry.ids) ∧
        ∀ cid, ¬Relation.TransGen (Requires registry) cid cid := by
  have hrequires : (fun cid dep => dep ∈ registry.requires cid) = Requires registry :=
    funext fun cid => funext fun dep => propext (mem_requires hids)
  rw [validateDependencyGraph_eq_run, DepthFirst.run_isOk_iff, hrequires]
  refine and_congr ⟨fun h cid dep hdep => ?_, fun h cid _ dep hdep => ?_⟩ ⟨fun h cid hcycle => ?_, fun h cid _ => h cid⟩
  · have hmem := (mem_requires hids).2 hdep
    exact h cid (mem_ids_of_requires hmem) dep hmem
  · exact h cid dep ((mem_requires hids).1 hdep)
  · -- a cycle starts with something that is registered
    obtain ⟨dep, hdep, -⟩ := Relation.TransGen.head'_iff.1 hcycle
    exact h cid (mem_ids_of_requires ((mem_requires hids).2 hdep)) hcycle

end Search

/-- A capability with what it requires. -/
def capabilityOf (cid : String) (requires : List String) : Capability :=
  ⟨cp cid, [], [], [], [], [], [], [], [], [], requires.map cp⟩

/-- A capability that is required on two ways. -/
def sharedRegistry : Registry where
  sourceRegistryRefs := []
  capabilities := [capabilityOf "A" ["B", "C"], capabilityOf "B" ["D"], capabilityOf "C" ["D"], capabilityOf "D" []]

/-- What is shared is no cycle. -/
theorem graph_accepted_shared :
    (∀ cid dep, Requires sharedRegistry cid dep → dep ∈ sharedRegistry.ids) ∧
      ∀ cid, ¬Relation.TransGen (Requires sharedRegistry) cid cid :=
  (graph_accepted_iff (by decide)).1 ⟨[cp "A", cp "C", cp "B", cp "D"], by rfl⟩

end CapabilityContext
