/-
**Vocabularies.**

A vocabulary has words with values.  Two searches use it: the longest word at the front of a text, and the
word that occurs first in a text, the longest of those that begin at the same place.  Words may be prefixes of
each other.  When the letters of a vocabulary do not occur around a word of it, both searches find the word.

Main definitions:

* `Vocabulary` — words with values, no word twice and no empty word;
* `Vocabulary.find` — the first occurrence of a word;
* `Vocabulary.longest`, `Vocabulary.earliest` — the two searches;
* `Vocabulary.Foreign` — a text without the letters of a vocabulary.

Main results:

* `Vocabulary.longest_append` — a word in front of a foreign text is found;
* `Vocabulary.longest_foreign` — no word is in front of a text that begins with a foreign letter;
* `Vocabulary.earliest_append` — a word between foreign texts is found.
-/

import Mathlib.Data.List.Basic
import Mathlib.Data.List.Nodup
import Mathlib.Order.Nat

set_option relaxedAutoImplicit false
set_option autoImplicit false

/-- Words with values: no word stands there twice, and no word is empty. -/
structure Vocabulary (α β : Type) where
  entries : List (List α × β)
  distinct : (entries.map Prod.fst).Nodup
  nonempty : ∀ entry ∈ entries, entry.1 ≠ []

namespace Vocabulary

variable {α β : Type}

/-! ### The searches -/

/-- The first occurrence of a word. -/
def find [DecidableEq α] (word : List α) : List α → Option ℕ
  | [] => if word = [] then some 0 else none
  | c :: text => if word <+: c :: text then some 0 else (find word text).map (· + 1)

/-- The longer word stands in front. -/
def longerFirst (x y : List α × β) : Bool := y.1.length ≤ x.1.length

/-- The longest word of the vocabulary in front of a text. -/
def longest [DecidableEq α] (vocabulary : Vocabulary α β) (text : List α) : Option (List α × β) :=
  (vocabulary.entries.mergeSort longerFirst).find? fun entry => entry.1 <+: text

/-- The earlier of two occurrences, the longer word of two that begin together. -/
def earlierOf [DecidableEq α] (text : List α) (best : Option (ℕ × List α × β)) (entry : List α × β) :
    Option (ℕ × List α × β) :=
  match find entry.1 text with
  | none => best
  | some i => match best with
    | none => some (i, entry)
    | some (j, word, value) =>
        if i < j ∨ i = j ∧ word.length < entry.1.length then some (i, entry) else some (j, word, value)

/-- The word that occurs first, the longest of those that begin at the same place. -/
def earliest [DecidableEq α] (vocabulary : Vocabulary α β) (text : List α) : Option (ℕ × List α × β) :=
  vocabulary.entries.foldl (earlierOf text) none

/-! ### Foreign texts -/

/-- No letter of the vocabulary is in the text. -/
def Foreign (vocabulary : Vocabulary α β) (text : List α) : Prop :=
  ∀ c ∈ text, ∀ entry ∈ vocabulary.entries, c ∉ entry.1

section Foreign

variable {vocabulary : Vocabulary α β} {entry : List α × β} {before text behind : List α}

/-- Two entries with one word are the same. -/
theorem eq_of_word (h : entry ∈ vocabulary.entries) {other : List α × β} (hother : other ∈ vocabulary.entries)
    (heq : other.1 = entry.1) : other = entry :=
  List.inj_on_of_nodup_map vocabulary.distinct hother h heq

/-- A word in front of a text is in front of its part that is not foreign. -/
theorem prefix_of_foreign (h : entry ∈ vocabulary.entries) {word : List α} (hbehind : vocabulary.Foreign behind)
    (hstart : entry.1 <+: word ++ behind) : entry.1 <+: word := by
  rcases Nat.lt_or_ge word.length entry.1.length with hlen | hlen
  · obtain ⟨rest, hrest⟩ := List.prefix_of_prefix_length_le (List.prefix_append word behind) hstart hlen.le
    cases rest with
    | nil =>
        rw [← hrest, List.append_nil] at hlen
        exact absurd hlen (lt_irrefl _)
    | cons c rest =>
        rw [← hrest, List.prefix_append_right_inj] at hstart
        have hc : c ∈ behind := hstart.subset List.mem_cons_self
        have hword : c ∈ entry.1 := by
          rw [← hrest]
          exact List.mem_append_right _ List.mem_cons_self
        exact absurd hword (hbehind c hc entry h)
  · exact List.prefix_of_prefix_length_le hstart (List.prefix_append _ _) hlen

/-- No word begins with a foreign letter. -/
theorem not_prefix_of_foreign (h : entry ∈ vocabulary.entries) {c : α} (hc : vocabulary.Foreign [c]) :
    ¬entry.1 <+: c :: text := by
  intro hstart
  have hne := vocabulary.nonempty entry h
  obtain ⟨d, word, hword⟩ := List.exists_cons_of_ne_nil hne
  rw [hword, List.cons_prefix_cons] at hstart
  refine hc c List.mem_cons_self entry h ?_
  rw [hword, hstart.1]
  exact List.mem_cons_self

/-! ### The longest word in front -/

theorem pairwise_longerFirst (vocabulary : Vocabulary α β) :
    (vocabulary.entries.mergeSort longerFirst).Pairwise fun x y => y.1.length ≤ x.1.length := by
  have hsorted := @List.pairwise_mergeSort (List α × β) longerFirst
    (fun x y z hxy hyz => by simp only [longerFirst, decide_eq_true_eq] at *; omega)
    (fun x y => by simp only [longerFirst, Bool.or_eq_true, decide_eq_true_eq]; omega) vocabulary.entries
  exact hsorted.imp fun h => by simpa only [longerFirst, decide_eq_true_eq] using h

variable [DecidableEq α]

/-- **The word in front.**  A word that a foreign text follows is the longest word in front. -/
theorem longest_append (h : entry ∈ vocabulary.entries) (hbehind : vocabulary.Foreign behind) :
    vocabulary.longest (entry.1 ++ behind) = some entry := by
  have hmem : entry ∈ vocabulary.entries.mergeSort longerFirst := List.mem_mergeSort.2 h
  have hfront : decide (entry.1 <+: entry.1 ++ behind) = true := decide_eq_true (List.prefix_append _ _)
  cases hfound : vocabulary.longest (entry.1 ++ behind) with
  | none => exact absurd hfront (List.find?_eq_none.1 hfound entry hmem)
  | some found =>
      obtain ⟨hstart, front, rest, hsplit, hfront'⟩ := List.find?_eq_some_iff_append.1 hfound
      have hfoundmem : found ∈ vocabulary.entries := by
        have hsorted := List.mergeSort_perm vocabulary.entries longerFirst
        rw [hsplit] at hsorted
        exact hsorted.mem_iff.1 (List.mem_append_right _ List.mem_cons_self)
      have hword := prefix_of_foreign hfoundmem hbehind (of_decide_eq_true hstart)
      -- what stands in front of the word that was found is not in front of the text
      have hlen : entry.1.length ≤ found.1.length := by
        have hsorted := pairwise_longerFirst vocabulary
        rw [hsplit] at hsorted hmem
        rcases List.mem_append.1 hmem with hin | hin
        · have := hfront' entry hin
          rw [hfront] at this
          cases this
        · rcases List.mem_cons.1 hin with rfl | hin
          · exact le_rfl
          · exact (List.pairwise_cons.1 (List.pairwise_append.1 hsorted).2.1).1 entry hin
      rw [eq_of_word h hfoundmem (hword.eq_of_length (le_antisymm hword.length_le hlen))]

/-- No word is found in front of a foreign letter. -/
theorem longest_foreign {c : α} (hc : vocabulary.Foreign [c]) : vocabulary.longest (c :: text) = none := by
  refine List.find?_eq_none.2 fun entry hentry => ?_
  rw [decide_eq_true_eq]
  exact not_prefix_of_foreign (List.mem_mergeSort.1 hentry) hc

/-- A word that is found is in front. -/
theorem of_longest (h : vocabulary.longest text = some entry) :
    entry ∈ vocabulary.entries ∧ entry.1 <+: text :=
  ⟨List.mem_mergeSort.1 (List.mem_of_find?_eq_some h), by simpa using @List.find?_some _ _ _ _ h⟩

/-! ### The first occurrence -/

/-- A foreign text in front moves an occurrence. -/
theorem find_append (h : entry ∈ vocabulary.entries) (hbefore : vocabulary.Foreign before) (text : List α) :
    find entry.1 (before ++ text) = (find entry.1 text).map (· + before.length) := by
  induction before with
  | nil =>
      simp
  | cons c before ih =>
      have hc : vocabulary.Foreign [c] := fun d hd => hbefore d (by simp_all)
      have hrest : vocabulary.Foreign before := fun d hd => hbefore d (List.mem_cons_of_mem _ hd)
      rw [List.cons_append, find, if_neg (not_prefix_of_foreign h hc), ih hrest, Option.map_map]
      rfl

theorem find_self (word : List α) (text : List α) : find word (word ++ text) = some 0 := by
  cases hword : word ++ text with
  | nil => rw [find, if_pos (List.append_eq_nil_iff.1 hword).1]
  | cons c rest => rw [find, if_pos (hword ▸ List.prefix_append word text)]

/-- What occurs at the beginning is in front. -/
theorem prefix_of_find {word text : List α} (h : find word text = some 0) : word <+: text := by
  cases text with
  | nil =>
      rw [find] at h
      split_ifs at h with hword
      exact hword ▸ List.prefix_rfl
  | cons c text =>
      rw [find] at h
      split_ifs at h with hword
      · exact hword
      · cases hfind : find word text with
        | none =>
            rw [hfind] at h
            cases h
        | some i =>
            rw [hfind] at h
            cases h

/-- A word of which every other occurrence is behind or shorter is what the search finds. -/
theorem foldl_earlierOf {entries : List (List α × β)} {best : Option (ℕ × List α × β)} {i : ℕ}
    (hfind : find entry.1 text = some i)
    (hbest : best = none ∨ best = some (i, entry) ∨ ∃ j other, best = some (j, other) ∧
      (i < j ∨ i = j ∧ other.1.length < entry.1.length))
    (hentries : ∀ other ∈ entries, ∀ j, find other.1 text = some j →
      other = entry ∨ i < j ∨ i = j ∧ other.1.length < entry.1.length)
    (hmem : best = some (i, entry) ∨ entry ∈ entries) :
    entries.foldl (earlierOf text) best = some (i, entry) := by
  induction entries generalizing best with
  | nil => exact hmem.resolve_right List.not_mem_nil
  | cons other entries ih =>
      rw [List.foldl_cons]
      have hrest := fun o ho => hentries o (List.mem_cons_of_mem _ ho)
      by_cases hother : other = entry
      · subst hother
        have hstep : earlierOf text best other = some (i, other) := by
          rw [earlierOf, hfind]
          rcases hbest with rfl | rfl | ⟨j, worse, rfl, hworse⟩
          · rfl
          · exact if_neg (by omega)
          · exact if_pos hworse
        exact ih (.inr (.inl hstep)) hrest (.inl hstep)
      · have hmem' : best = some (i, entry) ∨ entry ∈ entries := by
          rcases hmem with hmem | hmem
          · exact .inl hmem
          · exact .inr ((List.mem_cons.1 hmem).resolve_left fun h => hother h.symm)
        have hcases := hentries other List.mem_cons_self
        cases hfound : find other.1 text with
        | none =>
            have hstep : earlierOf text best other = best := by
              rw [earlierOf, hfound]
            rw [hstep]
            exact ih hbest hrest hmem'
        | some j =>
            have hworse := (hcases j hfound).resolve_left hother
            rcases hbest with rfl | rfl | ⟨k, worse, rfl, hk⟩
            · have hstep : earlierOf text none other = some (j, other) := by
                rw [earlierOf, hfound]
              rw [hstep]
              refine ih (.inr (.inr ⟨j, other, rfl, hworse⟩)) hrest (.inr ?_)
              exact hmem'.resolve_left (by simp)
            · have hstep : earlierOf text (some (i, entry)) other = some (i, entry) := by
                rw [earlierOf, hfound]
                exact if_neg (by omega)
              rw [hstep]
              exact ih (.inr (.inl rfl)) hrest (.inl rfl)
            · have hin : entry ∈ entries := by
                refine hmem'.resolve_left fun h => ?_
                obtain ⟨rfl, rfl⟩ := Prod.mk.inj (Option.some.inj h)
                omega
              by_cases hj : j < k ∨ j = k ∧ worse.1.length < other.1.length
              · have hstep : earlierOf text (some (k, worse)) other = some (j, other) := by
                  rw [earlierOf, hfound]
                  exact if_pos hj
                rw [hstep]
                exact ih (.inr (.inr ⟨j, other, rfl, hworse⟩)) hrest (.inr hin)
              · have hstep : earlierOf text (some (k, worse)) other = some (k, worse) := by
                  rw [earlierOf, hfound]
                  exact if_neg hj
                rw [hstep]
                exact ih (.inr (.inr ⟨k, worse, rfl, hk⟩)) hrest (.inr hin)

/-- **The word in the middle.**  A word between foreign texts is the earliest and longest. -/
theorem earliest_append (h : entry ∈ vocabulary.entries) (hbefore : vocabulary.Foreign before)
    (hbehind : vocabulary.Foreign behind) :
    vocabulary.earliest (before ++ (entry.1 ++ behind)) = some (before.length, entry) := by
  have hfind : find entry.1 (before ++ (entry.1 ++ behind)) = some before.length := by
    rw [find_append h hbefore, find_self]
    simp
  refine foldl_earlierOf hfind (.inl rfl) (fun other hother j hj => ?_) (.inr h)
  rw [find_append hother hbefore] at hj
  obtain ⟨k, hk, rfl⟩ := Option.map_eq_some_iff.1 hj
  cases k with
  | zero =>
      have hstart := prefix_of_foreign hother hbehind (prefix_of_find hk)
      rcases Nat.lt_or_eq_of_le hstart.length_le with hlt | heq
      · exact .inr (.inr ⟨by omega, hlt⟩)
      · exact .inl (eq_of_word h hother (hstart.eq_of_length heq))
  | succ k => exact .inr (.inl (by omega))

end Foreign

end Vocabulary
