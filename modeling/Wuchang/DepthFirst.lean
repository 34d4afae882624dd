/-
**Depth-first search for cycles.**

The search visits the nodes of a graph one after the other, and from each node the nodes that follow it.  It
knows which nodes are active, because the search is below them, and which are done.  It ends with an error at
something that is no node, and at a node that is active.

It ends without an error if and only if everything that follows a node is a node and the graph has no cycle.
Without an error, the nodes that are done are in an order in which all that follows a node is done before it;
in a graph without cycles the active nodes are on one path, so that there are never more of them than nodes.

This module names nothing of the code that is verified with it.

Main definitions:

* `DepthFirst.visit`, `DepthFirst.run` — the search;
* `DepthFirst.Ordered`, `DepthFirst.Searched` — each element has what follows it behind it.

Main results:

* `DepthFirst.searched_of_visit` — what is done is in order;
* `DepthFirst.visit_ok` — in a graph without cycles a visit ends without an error;
* `DepthFirst.run_isOk_iff` — when the search does.
-/

import Mathlib.Data.List.Perm.Subperm
import Mathlib.Logic.Relation

set_option relaxedAutoImplicit false
set_option autoImplicit false

namespace DepthFirst

variable {α ε : Type}

/-! ### Order -/

/-- Each element of a list has what follows it behind it. -/
inductive Ordered (next : α → List α) : List α → Prop
  | nil : Ordered next []
  | cons {a : α} {l : List α} (h : ∀ b ∈ next a, b ∈ l) (hl : Ordered next l) : Ordered next (a :: l)

/-- There is no infinite path from an element of a list that is in order. -/
theorem Ordered.acc {next : α → List α} {l : List α} (h : Ordered next l) :
    ∀ a ∈ l, Acc (fun b a => b ∈ next a) a := by
  induction h with
  | nil => exact fun a ha => absurd ha List.not_mem_nil
  | cons hnext _ ih => exact List.forall_mem_cons.2 ⟨⟨_, fun b hb => ih b (hnext b hb)⟩, ih⟩

theorem Ordered.mem_next {next : α → List α} {l : List α} (h : Ordered next l) :
    ∀ a ∈ l, ∀ b ∈ next a, b ∈ l := by
  induction h with
  | nil => exact fun a ha => absurd ha List.not_mem_nil
  | cons hnext _ ih =>
      exact List.forall_mem_cons.2 ⟨fun b hb => List.mem_cons_of_mem _ (hnext b hb),
        fun a ha b hb => List.mem_cons_of_mem _ (ih a ha b hb)⟩

/-- There is no cycle through a node with no infinite path. -/
theorem not_transGen_of_acc {r : α → α → Prop} {a : α} (h : Acc r a) : ¬Relation.TransGen r a a := by
  induction h with
  | intro a _ ih =>
      intro hcycle
      obtain ⟨b, hpath, hba⟩ := Relation.TransGen.tail'_iff.1 hcycle
      exact ih b hba (Relation.TransGen.head' hba hpath)

/-- A list without duplicates that is as long as a list around it has all its elements. -/
theorem mem_of_length_le {l m : List α} (hnodup : l.Nodup) (hsub : l ⊆ m) (hle : m.length ≤ l.length) {a : α}
    (ha : a ∈ m) : a ∈ l :=
  ((hnodup.subperm hsub).perm_of_length_le hle).mem_iff.2 ha

/-! ### The search -/

/-- What is done: nodes, in order. -/
structure Searched (nodes : List α) (next : α → List α) (done : List α) : Prop where
  ordered : Ordered next done
  sub : done ⊆ nodes

/-- Visits one after the other, each of which does its node and keeps what is done. -/
theorem searched_of_foldlM {nodes : List α} {next : α → List α} {step : List α → α → Except ε (List α)}
    (hstep : ∀ done done' a, step done a = .ok done' → Searched nodes next done →
      a ∈ done' ∧ done ⊆ done' ∧ Searched nodes next done')
    {as done done' : List α} (h : as.foldlM step done = .ok done') (hdone : Searched nodes next done) :
    as ⊆ done' ∧ done ⊆ done' ∧ Searched nodes next done' := by
  induction as generalizing done with
  | nil =>
      obtain rfl : done = done' := Except.ok.inj h
      exact ⟨List.nil_subset _, List.Subset.refl _, hdone⟩
  | cons a as ih =>
      rw [List.foldlM_cons] at h
      cases hvisit : step done a with
      | error e =>
          rw [hvisit] at h
          cases h
      | ok middle =>
          rw [hvisit] at h
          obtain ⟨hmem, hsub, hmiddle⟩ := hstep done middle a hvisit hdone
          obtain ⟨hall, hsub', hend⟩ := ih h hmiddle
          exact ⟨List.cons_subset.2 ⟨hsub' hmem, hall⟩, List.Subset.trans hsub hsub', hend⟩

/-- Visits one after the other, none of which ends with an error. -/
theorem foldlM_ok {step : List α → α → Except ε (List α)} {as : List α}
    (hstep : ∀ a ∈ as, ∀ done, ∃ done', step done a = .ok done') (done : List α) :
    ∃ done', as.foldlM step done = .ok done' := by
  induction as generalizing done with
  | nil => exact ⟨done, rfl⟩
  | cons a as ih =>
      rw [List.forall_mem_cons] at hstep
      obtain ⟨middle, hmiddle⟩ := hstep.1 done
      rw [List.foldlM_cons, hmiddle]
      exact ih hstep.2 middle

variable [DecidableEq α] (missing cycle : α → ε) (nodes : List α) (next : α → List α)

/-- One visit: what is done after it.  It can be below as many active nodes as the number says. -/
def visit : ℕ → List α → List α → α → Except ε (List α)
  | n, active, done, a =>
      if a ∉ nodes then .error (missing a)
      else if a ∈ active then .error (cycle a)
      else if a ∈ done then .ok done
      else
        match n with
        | 0 => .error (cycle a)
        | n + 1 => do
            let done ← (next a).foldlM (visit n (a :: active)) done
            pure (a :: done)

/-- The search through all nodes. -/
def run : Except ε (List α) := nodes.foldlM (visit missing cycle nodes next nodes.length []) []

variable {missing cycle nodes next}

/-! ### What is done -/

/-- **What is done is in order.** -/
theorem searched_of_visit {n : ℕ} {active done done' : List α} {a : α}
    (h : visit missing cycle nodes next n active done a = .ok done') (hdone : Searched nodes next done) :
    a ∈ done' ∧ done ⊆ done' ∧ Searched nodes next done' := by
  induction n generalizing active done done' a with
  | zero =>
      rw [visit] at h
      split_ifs at h with hnode hactive hmem
      obtain rfl := Except.ok.inj h
      exact ⟨hmem, List.Subset.refl _, hdone⟩
  | succ n ih =>
      rw [visit] at h
      split_ifs at h with hnode hactive hmem
      · obtain rfl := Except.ok.inj h
        exact ⟨hmem, List.Subset.refl _, hdone⟩
      · cases hnext : (next a).foldlM (visit missing cycle nodes next n (a :: active)) done with
        | error e =>
            rw [hnext] at h
            cases h
        | ok middle =>
            rw [hnext] at h
            obtain rfl : a :: middle = done' := Except.ok.inj h
            obtain ⟨hall, hsub, hmiddle⟩ := searched_of_foldlM (fun _ _ _ hstep => ih hstep) hnext hdone
            exact ⟨List.mem_cons_self, List.Subset.trans hsub (List.subset_cons_self _ _),
              .cons hall hmiddle.ordered, List.cons_subset.2 ⟨hnode, hmiddle.sub⟩⟩

/-! ### Graphs without cycles -/

/-- **A visit ends without an error**, when the active nodes lead to its node and there are no cycles. -/
theorem visit_ok (hclosed : ∀ a ∈ nodes, ∀ b ∈ next a, b ∈ nodes)
    (hacyclic : ∀ a ∈ nodes, ¬Relation.TransGen (fun a b => b ∈ next a) a a) {n : ℕ} {active done : List α} {a : α}
    (ha : a ∈ nodes) (hsub : active ⊆ nodes) (hnodup : active.Nodup) (hlength : nodes.length ≤ active.length + n)
    (hpath : ∀ b ∈ active, Relation.TransGen (fun a b => b ∈ next a) b a) :
    ∃ done', visit missing cycle nodes next n active done a = .ok done' := by
  induction n generalizing active done a with
  | zero =>
      -- all nodes are active
      exact absurd (hpath a (mem_of_length_le hnodup hsub hlength ha)) (hacyclic a ha)
  | succ n ih =>
      have hactive : a ∉ active := fun hmem => hacyclic a ha (hpath a hmem)
      rw [visit, if_neg (not_not.2 ha), if_neg hactive]
      split_ifs with hmem
      · exact ⟨done, rfl⟩
      obtain ⟨done', hdone'⟩ : ∃ done', (next a).foldlM (visit missing cycle nodes next n (a :: active)) done =
          .ok done' := by
        refine foldlM_ok (fun b hb done => ?_) done
        refine ih (hclosed a ha b hb) (List.cons_subset.2 ⟨ha, hsub⟩) (List.nodup_cons.2 ⟨hactive, hnodup⟩) ?_ ?_
        · rw [List.length_cons]
          omega
        · exact List.forall_mem_cons.2 ⟨.single hb, fun c hc => (hpath c hc).tail hb⟩
      exact ⟨a :: done', by rw [hdone']; rfl⟩

/-- **The search ends without an error if and only if what follows a node is a node, and there is no cycle.** -/
theorem run_isOk_iff : (∃ done, run missing cycle nodes next = .ok done) ↔
    (∀ a ∈ nodes, ∀ b ∈ next a, b ∈ nodes) ∧
      ∀ a ∈ nodes, ¬Relation.TransGen (fun a b => b ∈ next a) a a := by
  constructor
  · rintro ⟨done, h⟩
    obtain ⟨hall, -, hordered, hsub⟩ := searched_of_foldlM (fun _ _ _ hstep => searched_of_visit hstep) h
      ⟨.nil, List.nil_subset _⟩
    refine ⟨fun a ha b hb => hsub (hordered.mem_next a (hall ha) b hb), fun a ha hcycle => ?_⟩
    exact not_transGen_of_acc (hordered.acc a (hall ha)) (Relation.transGen_swap.1 hcycle)
  · rintro ⟨hclosed, hacyclic⟩
    refine foldlM_ok (fun a ha done => ?_) []
    exact visit_ok hclosed hacyclic ha (List.nil_subset _) List.nodup_nil (by simp) (by simp)

end DepthFirst
