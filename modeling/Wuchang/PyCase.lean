/-
**Lower case and words.**

`str.lower` replaces each character by its lower case, except for a capital sigma, whose lower case depends on
the characters around it.  The tables of Unicode are a parameter, with what is used of them.

Main definitions:

* `Py.CaseTable` — the tables;
* `Py.lower` — `str.lower`;
* `Py.splitWords` — `str.split` at white space.

Main results:

* `Py.lower_eq_self_iff` — the texts that are in lower case;
* `Py.isSpace_lower` — no white space is made;
* `Py.flatten_splitWords` — the words joined.
-/

import Wuchang.PyText

set_option relaxedAutoImplicit false
set_option autoImplicit false

namespace Py

/-! ### Lower case -/

/-- The tables of Unicode that `str.lower` reads. -/
structure CaseTable where
  /-- the lower case of a character -/
  lowerChar : ℕ → PyStr
  cased : ℕ → Bool
  ignorable : ℕ → Bool
  nonempty : ∀ c, lowerChar c ≠ []
  /-- the characters of Chinese have no case -/
  ideograph : ∀ c, 0x4E00 ≤ c → c ≤ 0x9FFF → lowerChar c = [c]
  space : ∀ c, isSpace c = false → ∀ d ∈ lowerChar c, isSpace d = false

variable {table : CaseTable} {s t : PyStr}

/-- A capital sigma is final: a cased character is before it and none behind it, past those that are ignored.
What is before it is given backwards. -/
def finalSigma (table : CaseTable) (before behind : PyStr) : Bool :=
  (before.dropWhile table.ignorable).head?.any table.cased &&
    !(behind.dropWhile table.ignorable).head?.any table.cased

/-- The lower case of a character where it stands. -/
def lowerAt (table : CaseTable) (before : PyStr) (c : ℕ) (behind : PyStr) : PyStr :=
  if c = 0x3A3 then [if finalSigma table before behind then 0x3C2 else 0x3C3] else table.lowerChar c

/-- The lower case of the rest of a text. -/
def lowerFrom (table : CaseTable) (before : PyStr) : PyStr → PyStr
  | [] => []
  | c :: behind => lowerAt table before c behind ++ lowerFrom table (c :: before) behind

/-- `s.lower()` -/
def lower (table : CaseTable) (s : PyStr) : PyStr := lowerFrom table [] s

/-- A character is its own lower case. -/
def IsLowerChar (table : CaseTable) (c : ℕ) : Prop := c ≠ 0x3A3 ∧ table.lowerChar c = [c]

theorem lowerAt_ne_nil (before : PyStr) (c : ℕ) (behind : PyStr) : lowerAt table before c behind ≠ [] := by
  rw [lowerAt]
  split_ifs
  · exact List.cons_ne_nil _ _
  · exact List.cons_ne_nil _ _
  · exact table.nonempty c

theorem length_le_lowerFrom (before : PyStr) : s.length ≤ (lowerFrom table before s).length := by
  induction s generalizing before with
  | nil => exact Nat.zero_le _
  | cons c s ih =>
      have hpos := List.length_pos_iff.2 (@lowerAt_ne_nil table before c s)
      have hrest := ih (c :: before)
      rw [lowerFrom, List.length_cons, List.length_append]
      omega

theorem lowerFrom_eq_self_iff (before : PyStr) :
    lowerFrom table before s = s ↔ ∀ c ∈ s, IsLowerChar table c := by
  induction s generalizing before with
  | nil => simp [lowerFrom]
  | cons c s ih =>
      rw [List.forall_mem_cons, ← ih (c :: before), lowerFrom]
      constructor
      · intro h
        -- no character becomes shorter, so the first one is itself
        have hlen := congrArg List.length h
        have hpos := List.length_pos_iff.2 (@lowerAt_ne_nil table before c s)
        have hrest := @length_le_lowerFrom table s (c :: before)
        rw [List.length_append, List.length_cons] at hlen
        obtain ⟨d, hd⟩ := List.length_eq_one_iff.1 (show (lowerAt table before c s).length = 1 by omega)
        rw [hd, List.singleton_append, List.cons.injEq] at h
        obtain ⟨rfl, h⟩ := h
        refine ⟨?_, h⟩
        rw [lowerAt] at hd
        split_ifs at hd with hsigma hfinal
        · rw [hsigma] at hd
          cases hd
        · rw [hsigma] at hd
          cases hd
        · exact ⟨hsigma, hd⟩
      · rintro ⟨⟨hsigma, hc⟩, h⟩
        rw [lowerAt, if_neg hsigma, hc, h, List.singleton_append]

/-- **The texts in lower case.** -/
theorem lower_eq_self_iff : lower table s = s ↔ ∀ c ∈ s, IsLowerChar table c := lowerFrom_eq_self_iff []

/-- A Chinese text is in lower case. -/
theorem lower_ideographs (h : ∀ c ∈ s, 0x4E00 ≤ c ∧ c ≤ 0x9FFF) : lower table s = s := by
  refine lower_eq_self_iff.2 fun c hc => ⟨?_, table.ideograph c (h c hc).1 (h c hc).2⟩
  have := (h c hc).1
  omega

/-- Texts in lower case are in lower case together. -/
theorem lower_flatten {parts : List PyStr} (h : ∀ part ∈ parts, lower table part = part) :
    lower table parts.flatten = parts.flatten := by
  refine lower_eq_self_iff.2 fun c hc => ?_
  obtain ⟨part, hpart, hc⟩ := List.mem_flatten.1 hc
  exact lower_eq_self_iff.1 (h part hpart) c hc

/-- A text without white space has none in lower case. -/
theorem isSpace_lower (h : ∀ c ∈ s, isSpace c = false) : ∀ c ∈ lower table s, isSpace c = false := by
  have hfrom : ∀ before, ∀ c ∈ lowerFrom table before s, isSpace c = false := by
    induction s with
    | nil => exact fun _ _ hc => absurd hc List.not_mem_nil
    | cons d s ih =>
        intro before c hc
        rw [lowerFrom, List.mem_append] at hc
        rcases hc with hc | hc
        · rw [lowerAt] at hc
          split_ifs at hc with hsigma hfinal
          · obtain rfl := List.mem_singleton.1 hc
            rfl
          · obtain rfl := List.mem_singleton.1 hc
            rfl
          · exact table.space d (h d List.mem_cons_self) c hc
        · exact ih (fun e he => h e (List.mem_cons_of_mem _ he)) (d :: before) c hc
  exact hfrom []

/-! ### Words -/

/-- `s.split()` -/
def splitWords (s : PyStr) : List PyStr := (s.splitOnP isSpace).filter fun word => word ≠ []

/-- The characters that are not white space. -/
def unspaced (s : PyStr) : PyStr := s.filter fun c => !isSpace c

theorem flatten_splitOnP (s : PyStr) : (s.splitOnP isSpace).flatten = unspaced s := by
  induction s with
  | nil => rfl
  | cons c s ih =>
      rw [List.splitOnP_cons_eq_if_modifyHead, unspaced, List.filter_cons]
      cases hc : isSpace c with
      | true => exact ih
      | false =>
          obtain ⟨word, rest, hsplit⟩ := List.exists_cons_of_ne_nil (List.splitOnP_ne_nil isSpace s)
          rw [hsplit] at ih ⊢
          simpa [unspaced] using congrArg (c :: ·) ih

/-- **The words joined.** -/
theorem flatten_splitWords (s : PyStr) : (splitWords s).flatten = unspaced s := by
  rw [← flatten_splitOnP, splitWords]
  generalize s.splitOnP isSpace = parts
  induction parts with
  | nil => rfl
  | cons part parts ih =>
      by_cases hpart : part = []
      · rw [List.filter_cons_of_neg (by simp [hpart]), ih, hpart, List.flatten_cons, List.nil_append]
      · rw [List.filter_cons_of_pos (by simp [hpart]), List.flatten_cons, List.flatten_cons, ih]

theorem unspaced_dropWhile (s : PyStr) : unspaced (s.dropWhile isSpace) = unspaced s := by
  induction s with
  | nil => rfl
  | cons c s ih =>
      cases hc : isSpace c with
      | true => rw [List.dropWhile_cons_of_pos hc, ih, unspaced, unspaced, List.filter_cons_of_neg (by simp [hc])]
      | false => rw [List.dropWhile_cons_of_neg (by simp [hc])]

/-- White space at the ends does not count. -/
theorem unspaced_strip (s : PyStr) : unspaced (strip s) = unspaced s := by
  have hreverse : ∀ t : PyStr, unspaced t.reverse = (unspaced t).reverse := fun t => List.filter_reverse
  rw [strip, List.rdropWhile, hreverse, unspaced_dropWhile, ← hreverse, List.reverse_reverse, unspaced_dropWhile]

theorem isSpace_unspaced (s : PyStr) : ∀ c ∈ unspaced s, isSpace c = false := by
  intro c hc
  simpa using (List.mem_filter.1 hc).2

theorem strip_eq_self (h : ∀ c ∈ s, isSpace c = false) : strip s = s := by
  have hdrop : ∀ t : PyStr, (∀ c ∈ t, isSpace c = false) → t.dropWhile isSpace = t := by
    intro t ht
    cases t with
    | nil => rfl
    | cons c t => exact List.dropWhile_cons_of_neg (by simp [ht c List.mem_cons_self])
  rw [strip, hdrop s h, List.rdropWhile, hdrop s.reverse (fun c hc => h c (List.mem_reverse.1 hc)),
    List.reverse_reverse]

end Py
