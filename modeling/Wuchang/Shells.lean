/-
**Scanning shells for the only good item.**

Items have a distance.  They are put into shells, one for each distance, and the shells are scanned
from the nearest outwards, at a price of one for each item and within a budget.  The scan stops at the
first shell that holds a good item: when it holds only one, that is the result.

The result is described without shells: the distance is the least distance of a good item, only one
item at this distance is good, and no more items than the budget allows are at this distance or nearer.
Nothing depends on the order of the items, neither in the list nor within a shell.

Main definitions:

* `Shells.put`, `Shells.group` — items are put into shells;
* `Shells.scan` — the scan;
* `Shells.Nearest` — an item is the only good one at the least distance, within the budget.

Main results:

* `Shells.scan_eq_unique_iff` — the scan finds the nearest good item;
* `Shells.flat_perm` — the shells hold the items they were made from;
* `Shells.Nearest.perm` — the order of the items does not matter.
-/

import Mathlib.Data.List.Perm.Basic
import Mathlib.Data.List.Dedup
import Mathlib.Order.Lattice
import Mathlib.Algebra.Ring.Int.Defs
import Mathlib.Tactic.Common

set_option relaxedAutoImplicit false
set_option autoImplicit false

namespace Shells

variable {κ α : Type}

/-! ### Shells are made -/

section Group

variable [DecidableEq κ]

/-- `groups[k].append(a)`, for a dictionary that starts a missing entry with an empty list. -/
def put (k : κ) (a : α) : List (κ × List α) → List (κ × List α)
  | [] => [(k, [a])]
  | g :: gs => if g.1 = k then (k, g.2 ++ [a]) :: gs else g :: put k a gs

/-- The items are put into shells one after another. -/
def group (items : List (κ × α)) : List (κ × List α) :=
  items.foldl (fun gs p => put p.1 p.2 gs) []

/-- The items at the distance `k`. -/
def members (items : List (κ × α)) (k : κ) : List α :=
  (items.filter fun p => p.1 = k).map Prod.snd

theorem lookup_cons_eq (l : κ) (g : κ × List α) (gs : List (κ × List α)) :
    (g :: gs).lookup l = if l = g.1 then some g.2 else gs.lookup l := by
  by_cases h : l = g.1
  · rw [if_pos h, h, List.lookup_cons_self]
  · rw [if_neg h, List.lookup_cons, show (l == g.1) = false by simpa using h]

theorem lookup_put (k l : κ) (a : α) (gs : List (κ × List α)) :
    ((put k a gs).lookup l).getD [] =
      if l = k then (gs.lookup k).getD [] ++ [a] else (gs.lookup l).getD [] := by
  induction gs with
  | nil =>
      rw [put, lookup_cons_eq]
      split_ifs <;> rfl
  | cons g gs ih =>
      rw [put]
      by_cases hg : g.1 = k
      · subst hg
        rw [if_pos rfl, lookup_cons_eq, lookup_cons_eq, lookup_cons_eq, if_pos rfl]
        split_ifs <;> rfl
      · rw [if_neg hg, lookup_cons_eq, lookup_cons_eq, lookup_cons_eq, if_neg (Ne.symm hg)]
        by_cases hlg : l = g.1
        · subst hlg
          rw [if_pos rfl, if_neg hg, if_pos rfl]
        · rw [if_neg hlg, if_neg hlg]
          exact ih

theorem keys_put (k : κ) (a : α) (gs : List (κ × List α)) :
    (put k a gs).map Prod.fst =
      if k ∈ gs.map Prod.fst then gs.map Prod.fst else gs.map Prod.fst ++ [k] := by
  induction gs with
  | nil => rfl
  | cons g gs ih =>
      rw [put]
      by_cases hg : g.1 = k
      · simp [hg]
      · simp only [if_neg hg, List.map_cons, ih, List.mem_cons, Ne.symm hg, false_or]
        split_ifs <;> rfl

/-- Every shell holds the items at its distance, in the order in which they came. -/
theorem lookup_group (items : List (κ × α)) (k : κ) :
    ((group items).lookup k).getD [] = members items k := by
  have hfold : ∀ (items : List (κ × α)) (gs : List (κ × List α)),
      ((items.foldl (fun gs p => put p.1 p.2 gs) gs).lookup k).getD [] =
        (gs.lookup k).getD [] ++ members items k := by
    intro items
    induction items with
    | nil => intro gs; simp [members]
    | cons p items ih =>
        intro gs
        rw [List.foldl_cons, ih, lookup_put]
        by_cases hp : k = p.1
        · simp [hp, members]
        · simp [hp, Ne.symm hp, members]
  exact hfold items []

/-- There is one shell for every distance that occurs. -/
theorem keys_group (items : List (κ × α)) :
    ((group items).map Prod.fst).Nodup ∧
      ∀ k, k ∈ (group items).map Prod.fst ↔ k ∈ items.map Prod.fst := by
  have hfold : ∀ (items : List (κ × α)) (gs : List (κ × List α)), (gs.map Prod.fst).Nodup →
      ((items.foldl (fun gs p => put p.1 p.2 gs) gs).map Prod.fst).Nodup ∧
        ∀ k, k ∈ (items.foldl (fun gs p => put p.1 p.2 gs) gs).map Prod.fst ↔
          k ∈ gs.map Prod.fst ∨ k ∈ items.map Prod.fst := by
    intro items
    induction items with
    | nil => intro gs hgs; exact ⟨hgs, by simp⟩
    | cons p items ih =>
        intro gs hgs
        have hput : ((put p.1 p.2 gs).map Prod.fst).Nodup := by
          rw [keys_put]
          split_ifs with h
          · exact hgs
          · rw [← List.concat_eq_append]
            exact hgs.concat h
        have hmem : ∀ k, k ∈ (put p.1 p.2 gs).map Prod.fst ↔ k ∈ gs.map Prod.fst ∨ k = p.1 := by
          intro k
          rw [keys_put]
          split_ifs with h
          · exact ⟨.inl, fun hk => hk.elim id fun heq => heq ▸ h⟩
          · simp
        obtain ⟨hnodup, hkeys⟩ := ih _ hput
        refine ⟨hnodup, fun k => ?_⟩
        rw [List.foldl_cons, hkeys, hmem, List.map_cons, List.mem_cons, or_assoc]
  obtain ⟨hnodup, hkeys⟩ := hfold items [] List.nodup_nil
  exact ⟨hnodup, fun k => (hkeys k).trans (or_iff_right List.not_mem_nil)⟩

/-- The items of the shells, with their distances. -/
def flat (shells : List (κ × List α)) : List (κ × α) :=
  shells.flatMap fun s => s.2.map (s.1, ·)

theorem filter_mem_cons_perm {k : κ} {ks : List κ} (hk : k ∉ ks) (items : List (κ × α)) :
    (items.filter fun p => p.1 ∈ k :: ks).Perm
      ((items.filter fun p => p.1 = k) ++ items.filter fun p => p.1 ∈ ks) := by
  induction items with
  | nil => exact .refl _
  | cons p items ih =>
      by_cases hp : p.1 = k
      · have hnot : p.1 ∉ ks := hp ▸ hk
        simpa [hp, hk] using ih
      · by_cases hks : p.1 ∈ ks
        · have := (ih.cons p).trans (@List.perm_middle _ _ (items.filter fun p => p.1 = k) _).symm
          simpa [hp, hks] using this
        · simpa [hp, hks] using ih

/-- Shells that hold the items at each of the distances hold all items. -/
theorem flat_perm {items : List (κ × α)} {f : κ → List α} (hf : ∀ k, (f k).Perm (members items k))
    {radii : List κ} (hnodup : radii.Nodup) (hall : ∀ p ∈ items, p.1 ∈ radii) :
    (flat (radii.map fun k => (k, f k))).Perm items := by
  have hsome : ∀ ks : List κ, ks.Nodup → (flat (ks.map fun k => (k, f k))).Perm
      (items.filter fun p => p.1 ∈ ks) := by
    intro ks
    induction ks with
    | nil => intro _; simp [flat]
    | cons k ks ih =>
        intro hks
        obtain ⟨hk, hks⟩ := List.nodup_cons.1 hks
        have hhead : ((f k).map (k, ·)).Perm (items.filter fun p => p.1 = k) := by
          refine ((hf k).map _).trans (.of_eq ?_)
          rw [members, List.map_map]
          refine (List.map_congr_left fun p hp => ?_).trans (List.map_id _)
          have hpk : p.1 = k := by simpa using (List.mem_filter.1 hp).2
          rw [Function.comp_apply, ← hpk]
          rfl
        rw [List.map_cons, flat, List.flatMap_cons]
        exact (hhead.append (ih hks)).trans (filter_mem_cons_perm hk items).symm
  refine (hsome radii hnodup).trans (.of_eq ?_)
  exact List.filter_eq_self.2 fun p hp => by simpa using hall p hp

end Group

/-! ### The scan -/

section Scan

variable [LinearOrder κ]

/-- How a scan ends. -/
inductive Verdict (κ α : Type) where
  | exceeded (examined : ℕ)
  | several (k : κ) (count : ℕ)
  | unique (k : κ) (a : α) (examined : ℕ)
  | nothing

/-- The shells are scanned one after another; `examined` items have been paid for. -/
def scan (good : α → Bool) (budget : ℤ) (examined : ℕ) : List (κ × List α) → Verdict κ α
  | [] => .nothing
  | s :: shells =>
      if s.2 ≠ [] ∧ budget < examined + s.2.length then .exceeded (max examined budget.toNat + 1)
      else match s.2.filter good with
      | [] => scan good budget (examined + s.2.length) shells
      | [a] => .unique s.1 a (examined + s.2.length)
      | found => .several s.1 found.length

/-- The item is the only good one at the least distance of a good item, and the items that are not
farther away, together with those already examined, are within the budget. -/
structure Nearest (good : α → Bool) (budget : ℤ) (examined : ℕ) (items : List (κ × α)) (k : κ) (a : α) :
    Prop where
  only : (items.filter fun p => p.1 = k ∧ good p.2) = [(k, a)]
  least : ∀ p ∈ items, good p.2 → k ≤ p.1
  within : (examined + (items.filter fun p => p.1 ≤ k).length : ℤ) ≤ budget

/-- The order of the items does not matter. -/
theorem Nearest.perm {good : α → Bool} {budget : ℤ} {examined : ℕ} {items items' : List (κ × α)}
    {k : κ} {a : α} (h : Nearest good budget examined items k a) (hperm : items.Perm items') :
    Nearest good budget examined items' k a where
  only := by
    have hfilter := hperm.filter fun p => p.1 = k ∧ good p.2
    rw [h.only] at hfilter
    exact List.singleton_perm.1 hfilter |>.symm
  least p hp := h.least p (hperm.symm.subset hp)
  within := by
    rw [← (hperm.filter fun p => p.1 ≤ k).length_eq]
    exact h.within

/-- **The scan finds the nearest good item.** -/
theorem scan_eq_unique_iff {good : α → Bool} {budget : ℤ} {k : κ} {a : α} :
    ∀ {shells : List (κ × List α)} {examined : ℕ}, (shells.map Prod.fst).Pairwise (· < ·) →
      ((∃ n, scan good budget examined shells = .unique k a n) ↔
        Nearest good budget examined (flat shells) k a) := by
  intro shells
  induction shells with
  | nil =>
      intro examined _
      refine iff_of_false ?_ ?_
      · rintro ⟨n, hn⟩
        cases hn
      · intro h
        simpa [flat] using h.only
  | cons s shells ih =>
      intro examined hsorted
      obtain ⟨hs, hrest⟩ := List.pairwise_cons.1 hsorted
      have hflat : flat (s :: shells) = s.2.map (s.1, ·) ++ flat shells := rfl
      -- the shells behind are farther away
      have hfar : ∀ p ∈ flat shells, s.1 < p.1 := by
        intro p hp
        obtain ⟨t, ht, hp⟩ := List.mem_flatMap.1 hp
        obtain ⟨b, -, rfl⟩ := List.mem_map.1 hp
        exact hs t.1 (List.mem_map_of_mem ht)
      have hcount : ∀ l, s.1 ≤ l → ((flat (s :: shells)).filter fun p => p.1 ≤ l).length =
          s.2.length + ((flat shells).filter fun p => p.1 ≤ l).length := by
        intro l hl
        rw [hflat, List.filter_append, List.length_append, List.filter_eq_self.2, List.length_map]
        intro p hp
        obtain ⟨b, -, rfl⟩ := List.mem_map.1 hp
        simpa using hl
      have hgood : ∀ l, ((flat (s :: shells)).filter fun p => p.1 = l ∧ good p.2) =
          (if s.1 = l then (s.2.filter good).map (s.1, ·) else []) ++
            (flat shells).filter fun p => p.1 = l ∧ good p.2 := by
        intro l
        rw [hflat, List.filter_append, List.filter_map]
        congr 1
        split_ifs with hl
        · congr 2
          funext b
          simp [hl]
        · rw [List.map_eq_nil_iff, List.filter_eq_nil_iff]
          intro b _
          simp [hl]
      have hnear : Nearest good budget examined (flat (s :: shells)) k a → s.1 ≤ k := by
        intro h
        have hmem : (k, a) ∈ (flat (s :: shells)).filter fun p => p.1 = k ∧ good p.2 := by
          rw [h.only]
          exact List.mem_singleton_self _
        rw [hflat] at hmem
        rcases List.mem_append.1 (List.mem_of_mem_filter hmem) with hin | hin
        · obtain ⟨b, -, heq⟩ := List.mem_map.1 hin
          exact (congrArg Prod.fst heq).le
        · exact (hfar _ hin).le
      have hnone : ∀ l ≤ s.1, ((flat shells).filter fun p => p.1 ≤ l) = [] := by
        intro l hl
        rw [List.filter_eq_nil_iff]
        intro p hp
        simpa using (hl.trans_lt (hfar p hp))
      have hnone' : ((flat shells).filter fun p => p.1 = s.1 ∧ good p.2) = [] := by
        rw [List.filter_eq_nil_iff]
        intro p hp
        simp [(hfar p hp).ne']
      have hhead : ∀ b, b ∈ s.2.filter good → (s.1, b) ∈ flat (s :: shells) ∧ good b = true := by
        intro b hb
        obtain ⟨hb, hgoodb⟩ := List.mem_filter.1 hb
        exact ⟨List.mem_append_left _ (List.mem_map_of_mem hb), hgoodb⟩
      rw [scan]
      split_ifs with hbudget
      · refine iff_of_false ?_ fun h => ?_
        · rintro ⟨n, hn⟩
          cases hn
        · have hwithin := h.within
          rw [hcount k (hnear h)] at hwithin
          push_cast at hwithin
          omega
      · rcases hfound : s.2.filter good with _ | ⟨b, _ | ⟨c, found⟩⟩
        · -- no good item here: the scan goes on behind
          have hlater : ∀ {e}, Nearest good budget e (flat shells) k a → s.1 ≤ k := by
            intro e h
            have hmem : (k, a) ∈ (flat shells).filter fun p => p.1 = k ∧ good p.2 := by
              rw [h.only]
              exact List.mem_singleton_self _
            exact (hfar _ (List.mem_of_mem_filter hmem)).le
          have honly := hgood k
          rw [hfound, List.map_nil, ite_self, List.nil_append] at honly
          dsimp only
          rw [ih hrest]
          constructor
          · intro h
            refine ⟨honly.trans h.only, fun p hp hgoodp => ?_, ?_⟩
            · rw [hflat] at hp
              rcases List.mem_append.1 hp with hp | hp
              · obtain ⟨b, hb, rfl⟩ := List.mem_map.1 hp
                exact absurd (List.mem_filter.2 ⟨hb, hgoodp⟩) (by simp [hfound])
              · exact h.least p hp hgoodp
            · have hwithin := h.within
              rw [hcount k (hlater h)]
              push_cast at hwithin ⊢
              omega
          · intro h
            refine ⟨honly.symm.trans h.only, fun p hp => h.least p (List.mem_append_right _ hp), ?_⟩
            have hwithin := h.within
            rw [hcount k (hnear h)] at hwithin
            push_cast at hwithin ⊢
            omega
        · -- the only good item of this shell
          have hb := hhead b (by simp [hfound])
          have hne : s.2 ≠ [] := by
            rintro hnil
            simp [hnil] at hfound
          have hat := hgood s.1
          rw [hfound, if_pos rfl, hnone', List.append_nil] at hat
          constructor
          · rintro ⟨n, hn⟩
            simp only [Verdict.unique.injEq] at hn
            obtain ⟨rfl, rfl, -⟩ := hn
            refine ⟨hat, fun p hp _ => ?_, ?_⟩
            · rw [hflat] at hp
              rcases List.mem_append.1 hp with hp | hp
              · obtain ⟨c, -, rfl⟩ := List.mem_map.1 hp
                exact le_rfl
              · exact (hfar p hp).le
            · rw [hcount s.1 le_rfl, hnone s.1 le_rfl, List.length_nil]
              have := not_and.1 hbudget hne
              push_cast
              omega
          · intro h
            obtain rfl : k = s.1 := le_antisymm (h.least _ hb.1 hb.2) (hnear h)
            have heq := hat.symm.trans h.only
            simp only [List.map_cons, List.map_nil, List.cons.injEq, Prod.mk.injEq, true_and,
              and_true] at heq
            exact ⟨_, by rw [heq]⟩
        · refine iff_of_false ?_ fun h => ?_
          · rintro ⟨n, hn⟩
            cases hn
          · have hb := hhead b (by simp [hfound])
            obtain rfl : k = s.1 := le_antisymm (h.least _ hb.1 hb.2) (hnear h)
            have hat := hgood s.1
            rw [hfound, if_pos rfl, h.only] at hat
            simpa using congrArg List.length hat

end Scan

end Shells
