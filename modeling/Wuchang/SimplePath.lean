/-
**Simple paths of a finite multigraph.**

A multigraph is given by the edges that leave each vertex, and by the vertex each edge leads to.  A
path is a sequence of edges; it is simple when it visits no vertex twice.  This module enumerates the
simple paths between two vertices by depth-first search, with a bound on the depth, and proves the
enumeration exact: every simple path occurs in it, nothing else does, and no path occurs twice.  The
enumeration does not depend on the names of the edges, and the order in which the edges are tried
only changes the order of the paths.

Main definitions:

* `SimplePath.Leads` — the edges lead from one vertex to another;
* `SimplePath.Simple` — they do so without visiting a vertex twice;
* `SimplePath.search` — depth-first search for all simple paths.

Main results:

* `SimplePath.mem_search_iff`, `SimplePath.nodup_search` — the search is exact;
* `SimplePath.search_map` — it commutes with renaming the edges;
* `SimplePath.search_perm` — it does not depend on the order of the edges;
* `SimplePath.Simple.length_lt` — a simple path is shorter than the number of vertices.
-/

import Mathlib.Data.List.Perm.Basic
import Mathlib.Data.Finset.Card

set_option relaxedAutoImplicit false
set_option autoImplicit false

namespace SimplePath

variable {ν ε : Type}

/-- The edges lead to the vertex `b`. -/
def Leads (out : ν → List ε) (tgt : ε → ν) (b : ν) : ν → List ε → Prop
  | a, [] => a = b
  | a, e :: p => e ∈ out a ∧ Leads out tgt b (tgt e) p

/-- The edges lead from `a` to `b` and visit no vertex twice. -/
structure Simple (out : ν → List ε) (tgt : ε → ν) (a b : ν) (p : List ε) : Prop where
  leads : Leads out tgt b a p
  nodup : (a :: p.map tgt).Nodup

/-- A path that goes on ends at a vertex it comes to later. -/
theorem Leads.mem_of_cons {out : ν → List ε} {tgt : ε → ν} {b : ν} :
    ∀ {a : ν} {p : List ε}, Leads out tgt b a p → b = a ∨ b ∈ p.map tgt := by
  intro a p
  induction p generalizing a with
  | nil => exact fun h => .inl h.symm
  | cons e p ih =>
      intro h
      rcases ih h.2 with rfl | hb
      · exact .inr (by simp)
      · exact .inr (by simp [List.mem_map.1 hb])

/-- A simple path visits one vertex more than it has edges. -/
theorem Simple.length_lt [DecidableEq ν] {out : ν → List ε} {tgt : ε → ν} {a b : ν} {p : List ε}
    (h : Simple out tgt a b p) {nodes : Finset ν} (ha : a ∈ nodes) (hp : ∀ e ∈ p, tgt e ∈ nodes) :
    p.length < nodes.card := by
  have hsub : (a :: p.map tgt).toFinset ⊆ nodes := by
    intro v hv
    rcases List.mem_cons.1 (List.mem_toFinset.1 hv) with rfl | hv
    · exact ha
    · obtain ⟨e, he, rfl⟩ := List.mem_map.1 hv
      exact hp e he
  have hcard := Finset.card_le_card hsub
  rw [List.toFinset_card_of_nodup h.nodup, List.length_cons, List.length_map] at hcard
  omega

section Search

variable [DecidableEq ν]

/-- The simple paths from a vertex to the goal that have at most `n` edges and come to no vertex that
has been seen. -/
def search (out : ν → List ε) (tgt : ε → ν) (goal : ν) (n : ℕ) (a : ν) (seen : List ν) :
    List (List ε) :=
  if a = goal then [[]]
  else match n with
  | 0 => []
  | n + 1 => (out a).flatMap fun e =>
      if tgt e ∈ seen then [] else (search out tgt goal n (tgt e) (tgt e :: seen)).map (e :: ·)

theorem search_goal (out : ν → List ε) (tgt : ε → ν) (goal : ν) (n : ℕ) (seen : List ν) :
    search out tgt goal n goal seen = [[]] := by
  rw [search.eq_def, if_pos rfl]

theorem search_zero {out : ν → List ε} {tgt : ε → ν} {goal a : ν} (h : a ≠ goal) (seen : List ν) :
    search out tgt goal 0 a seen = [] := by
  rw [search.eq_def, if_neg h]

theorem search_succ {out : ν → List ε} {tgt : ε → ν} {goal a : ν} (h : a ≠ goal) (n : ℕ)
    (seen : List ν) : search out tgt goal (n + 1) a seen = (out a).flatMap fun e =>
      if tgt e ∈ seen then [] else (search out tgt goal n (tgt e) (tgt e :: seen)).map (e :: ·) := by
  rw [search.eq_def, if_neg h]

/-- The search finds the paths that lead to the goal, come to fresh vertices only and are short
enough. -/
theorem mem_search {out : ν → List ε} {tgt : ε → ν} {goal : ν} :
    ∀ {n : ℕ} {a : ν} {seen : List ν} {p : List ε}, a ∈ seen →
      (p ∈ search out tgt goal n a seen ↔
        Leads out tgt goal a p ∧ (p.map tgt).Nodup ∧ (∀ v ∈ p.map tgt, v ∉ seen) ∧ p.length ≤ n) := by
  intro n
  induction n with
  | zero =>
      intro a seen p ha
      by_cases hgoal : a = goal
      · subst hgoal
        rw [search_goal, List.mem_singleton]
        constructor
        · rintro rfl
          exact ⟨rfl, List.nodup_nil, by simp, le_rfl⟩
        · rintro ⟨-, -, -, hlen⟩
          exact List.length_eq_zero_iff.1 (Nat.le_zero.1 hlen)
      · rw [search_zero hgoal]
        refine iff_of_false (List.not_mem_nil) ?_
        rintro ⟨hleads, -, -, hlen⟩
        obtain rfl := List.length_eq_zero_iff.1 (Nat.le_zero.1 hlen)
        exact hgoal hleads
  | succ n ih =>
      intro a seen p ha
      by_cases hgoal : a = goal
      · subst hgoal
        rw [search_goal, List.mem_singleton]
        constructor
        · rintro rfl
          exact ⟨rfl, List.nodup_nil, by simp, Nat.zero_le _⟩
        · rintro ⟨hleads, -, hfresh, -⟩
          cases p with
          | nil => rfl
          | cons e p =>
              -- the goal has been seen, so a path that goes on cannot come back to it
              rcases hleads.2.mem_of_cons with heq | hmem
              · exact absurd ha (hfresh a (by simp [heq]))
              · exact absurd ha (hfresh a (List.mem_cons_of_mem _ hmem))
      · rw [search_succ hgoal, List.mem_flatMap]
        constructor
        · rintro ⟨e, he, hp⟩
          split_ifs at hp with hseen
          · exact absurd hp List.not_mem_nil
          · obtain ⟨q, hq, rfl⟩ := List.mem_map.1 hp
            obtain ⟨hleads, hnodup, hfresh, hlen⟩ := (ih (by simp)).1 hq
            refine ⟨⟨he, hleads⟩, ?_, ?_, ?_⟩
            · rw [List.map_cons, List.nodup_cons]
              exact ⟨fun hmem => hfresh _ hmem (by simp), hnodup⟩
            · rw [List.map_cons, List.forall_mem_cons]
              exact ⟨hseen, fun v hv hmem => hfresh v hv (List.mem_cons_of_mem _ hmem)⟩
            · rw [List.length_cons]
              omega
        · rintro ⟨hleads, hnodup, hfresh, hlen⟩
          cases p with
          | nil => exact absurd hleads hgoal
          | cons e p =>
              rw [List.map_cons, List.nodup_cons] at hnodup
              rw [List.map_cons, List.forall_mem_cons] at hfresh
              rw [List.length_cons] at hlen
              refine ⟨e, hleads.1, ?_⟩
              rw [if_neg hfresh.1]
              refine List.mem_map.2 ⟨p, (ih (by simp)).2 ⟨hleads.2, hnodup.2, ?_, by omega⟩, rfl⟩
              intro v hv hmem
              rcases List.mem_cons.1 hmem with rfl | hmem
              · exact hnodup.1 hv
              · exact hfresh.2 v hv hmem

/-- From a vertex that is the only one seen, the search finds the simple paths. -/
theorem mem_search_iff {out : ν → List ε} {tgt : ε → ν} {a goal : ν} {n : ℕ} {p : List ε}
    (hn : Simple out tgt a goal p → p.length ≤ n) :
    p ∈ search out tgt goal n a [a] ↔ Simple out tgt a goal p := by
  rw [mem_search (by simp)]
  constructor
  · rintro ⟨hleads, hnodup, hfresh, -⟩
    exact ⟨hleads, List.nodup_cons.2 ⟨fun hmem => hfresh a hmem (by simp), hnodup⟩⟩
  · intro h
    obtain ⟨hnot, hnodup⟩ := List.nodup_cons.1 h.nodup
    refine ⟨h.leads, hnodup, fun v hv hmem => ?_, hn h⟩
    rw [List.mem_singleton] at hmem
    exact hnot (hmem ▸ hv)

/-- No path is found twice. -/
theorem nodup_search {out : ν → List ε} {tgt : ε → ν} {goal : ν} (hout : ∀ a, (out a).Nodup) :
    ∀ (n : ℕ) (a : ν) (seen : List ν), (search out tgt goal n a seen).Nodup := by
  intro n
  induction n with
  | zero =>
      intro a seen
      by_cases hgoal : a = goal
      · subst hgoal
        rw [search_goal]
        exact List.nodup_singleton _
      · rw [search_zero hgoal]
        exact List.nodup_nil
  | succ n ih =>
      intro a seen
      by_cases hgoal : a = goal
      · subst hgoal
        rw [search_goal]
        exact List.nodup_singleton _
      · have hhead : ∀ e p, p ∈ (if tgt e ∈ seen then []
            else (search out tgt goal n (tgt e) (tgt e :: seen)).map (e :: ·)) → p.head? = some e := by
          intro e p hp
          split_ifs at hp
          · exact absurd hp List.not_mem_nil
          · obtain ⟨q, -, rfl⟩ := List.mem_map.1 hp
            rfl
        rw [search_succ hgoal, List.nodup_flatMap]
        constructor
        · intro e _
          split_ifs
          · exact List.nodup_nil
          · exact (ih _ _).map fun p q h => (List.cons.inj h).2
        · -- paths with different first edges are different
          refine (hout a).imp fun {e f} hne p hp hq => hne ?_
          exact Option.some.inj ((hhead e p hp).symm.trans (hhead f p hq))

/-- The order in which edges are tried changes the order of the paths only. -/
theorem search_perm {out out' : ν → List ε} {tgt : ε → ν} {goal : ν}
    (h : ∀ a, (out a).Perm (out' a)) :
    ∀ (n : ℕ) (a : ν) (seen : List ν),
      (search out tgt goal n a seen).Perm (search out' tgt goal n a seen) := by
  intro n
  induction n with
  | zero =>
      intro a seen
      by_cases hgoal : a = goal
      · subst hgoal
        rw [search_goal, search_goal]
      · rw [search_zero hgoal, search_zero hgoal]
  | succ n ih =>
      intro a seen
      by_cases hgoal : a = goal
      · subst hgoal
        rw [search_goal, search_goal]
      · rw [search_succ hgoal, search_succ hgoal]
        refine ((h a).flatMap_right _).trans (List.Perm.flatMap_left _ fun e _ => ?_)
        split_ifs
        · exact .refl _
        · exact (ih _ _).map _

end Search

/-- Renaming the edges renames the paths. -/
theorem search_map [DecidableEq ν] {ε' : Type} {out : ν → List ε} {out' : ν → List ε'}
    {tgt : ε → ν} {tgt' : ε' → ν} {goal : ν} (f : ε → ε') (hout : ∀ a, out' a = (out a).map f)
    (htgt : ∀ e, tgt' (f e) = tgt e) :
    ∀ (n : ℕ) (a : ν) (seen : List ν),
      search out' tgt' goal n a seen = (search out tgt goal n a seen).map (List.map f) := by
  intro n
  induction n with
  | zero =>
      intro a seen
      by_cases hgoal : a = goal
      · subst hgoal
        rw [search_goal, search_goal]
        rfl
      · rw [search_zero hgoal, search_zero hgoal]
        rfl
  | succ n ih =>
      intro a seen
      by_cases hgoal : a = goal
      · subst hgoal
        rw [search_goal, search_goal]
        rfl
      · rw [search_succ hgoal, search_succ hgoal, hout, List.flatMap_map, List.map_flatMap]
        refine List.flatMap_congr fun e _ => ?_
        rw [htgt]
        split_ifs
        · rfl
        · rw [ih, List.map_map, List.map_map]
          rfl

end SimplePath
