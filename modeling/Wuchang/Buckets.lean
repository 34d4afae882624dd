/-
**Buckets: a dictionary of lists that is filled entry by entry.**

Main definitions:

* `Buckets.add` — an entry joins the list of its key; a new key comes last;
* `Buckets.ofList` — the buckets of a list of entries;
* `Buckets.get` — the entries of a key.

Main results:

* `Buckets.get_ofList` — a key has the entries that were added under it, in order;
* `Buckets.mem_of_get_ne_nil` — and the bucket that is found is one of the list.
-/

import Mathlib.Data.List.Basic

set_option relaxedAutoImplicit false
set_option autoImplicit false

namespace Buckets

variable {κ α : Type} [DecidableEq κ]

/-- `d[k].append(a)` for a dictionary whose missing keys stand for empty lists. -/
def add (k : κ) (a : α) : List (κ × List α) → List (κ × List α)
  | [] => [(k, [a])]
  | (k', as) :: d => if k' = k then (k', as ++ [a]) :: d else (k', as) :: add k a d

/-- The entries added one after the other. -/
def ofList (entries : List (κ × α)) : List (κ × List α) :=
  entries.foldl (fun d entry => add entry.1 entry.2 d) []

/-- The entries of a key. -/
def get (d : List (κ × List α)) (k : κ) : List α := (d.lookup k).getD []

theorem get_add (k k' : κ) (a : α) (d : List (κ × List α)) :
    get (add k a d) k' = get d k' ++ if k = k' then [a] else [] := by
  induction d with
  | nil =>
      rw [add, get, get, List.lookup_cons, List.lookup_nil]
      by_cases h : k = k'
      · subst h
        simp
      · rw [if_neg h, beq_false_of_ne (Ne.symm h)]
        rfl
  | cons p d ih =>
      obtain ⟨k₀, as⟩ := p
      simp only [get] at ih
      rw [add]
      split_ifs with h₀ h h
      · subst h₀ h
        simp [get]
      · subst h₀
        simp [get, List.lookup_cons, beq_false_of_ne (Ne.symm h)]
      · subst h
        simp only [get, List.lookup_cons, beq_false_of_ne (Ne.symm h₀)]
        rw [ih, if_pos rfl]
      · simp only [get, List.lookup_cons]
        split
        · simp
        · rw [ih, if_neg h]

/-- A key has the entries that were added under it, in order. -/
theorem get_ofList (entries : List (κ × α)) (k : κ) :
    get (ofList entries) k = (entries.filter fun entry => entry.1 = k).map Prod.snd := by
  have hfold : ∀ d : List (κ × List α), get (entries.foldl (fun d entry => add entry.1 entry.2 d) d) k =
      get d k ++ (entries.filter fun entry => entry.1 = k).map Prod.snd := by
    induction entries with
    | nil => simp
    | cons entry entries ih =>
        intro d
        rw [List.foldl_cons, ih, get_add, List.filter_cons]
        by_cases h : entry.1 = k
        · simp [h]
        · simp [h]
  exact hfold []

/-- The entries of a key, when there are any, are one of the lists. -/
theorem mem_of_get_ne_nil {d : List (κ × List α)} {k : κ} (h : get d k ≠ []) : (k, get d k) ∈ d := by
  cases hk : d.lookup k with
  | none =>
      rw [get, hk] at h
      exact absurd rfl h
  | some as =>
      obtain ⟨l₁, l₂, hd, -⟩ := List.lookup_eq_some_iff.1 hk
      rw [get, hk, hd]
      simp

end Buckets
