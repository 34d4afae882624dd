/-
**The template encoder.**

`encode_template_channel_with_pruning` reads every line of a channel by a template: a code of the
template is an entry of the look-up table, or a variable that stands for one.  When every line fits,
the channel is written as the list of the values of the variables, one row a line, shortened to the
rows that repeat; the table keeps the entries that are used and is renumbered.  When a line does not
fit, the channel is written as a literal.  This module is the encoder, and what it means for a line
to fit, said without a position or a list of values that is filled by and by.

Main definitions:

* `OriginCell.splitlines` — `splitlines(keepends=True)` of a `bytes` object;
* `OriginCell.matchLine` — one line, read by the template;
* `OriginCell.encodeTemplateChannelWithPruning` — the encoder;
* `OriginCell.Derives`, `OriginCell.LineFits` — how a template reads a line, and which lines fit.

Main results:

* `OriginCell.matchTemplate_iff` — the encoder reads a line as the template derives it;
* `OriginCell.matchLine_ok_iff` — it returns a row for the lines that fit, and for no others;
* `OriginCell.matchLine_spec` — the template, filled with the row, is the line.
-/

import Wuchang.CellLut
import Mathlib.Data.List.Dedup
import Mathlib.Data.List.Sort

set_option relaxedAutoImplicit false
set_option autoImplicit false

namespace OriginCell

open Py

/-! ### Lines, slots and searches -/

/-- `raw.splitlines(keepends=True)`: a line ends behind `\\n`, `\\r` or `\\r\\n`. -/
def splitlines : Bytes → List Bytes
  | [] => []
  | b :: bs =>
      if b = 10 ∨ (b = 13 ∧ bs.head? ≠ some 10) then [b] :: splitlines bs
      else match splitlines bs with
        | [] => [[b]]
        | l :: ls => (b :: l) :: ls

/-- `sorted(set(ns))` -/
def sortedNats (ns : List ℕ) : List ℕ := ns.dedup.mergeSort fun a b => a ≤ b

/-- The slot of a variable. -/
def slot (c : ℤ) : ℕ := (-c - 1).toNat

/-- `vslots`, the slots of the variables of a template. -/
def vslots (ftpl : List ℤ) : List ℕ := sortedNats ((ftpl.filter (· < 0)).map slot)

/-- The order of `sorted(…, key=lambda x: len(x[1]), reverse=True)`. -/
def longerFirst (x y : ℕ × Bytes) : Bool := y.2.length ≤ x.2.length

/-- `ilut`, the entries of the table with their indices, the longest first. -/
def byLength (flut : List Bytes) : List (ℕ × Bytes) :=
  (flut.zipIdx.map Prod.swap).mergeSort longerFirst

/-- `l.index(ns)`, if `ns` occurs. -/
def findSub (ns : Bytes) : Bytes → Option ℕ
  | [] => if ns = [] then some 0 else none
  | b :: bs => if ns <+: b :: bs then some 0 else (findSub ns bs).map (· + 1)

/-! ### One line -/

/-- The value of a variable in front of an entry: what stands before the first occurrence of the
entry has to be in the table. -/
def entryBefore (flut : List Bytes) (next : ℤ) (rest : Bytes) : Except Fault (ℕ × Bytes) := do
  let ns ← index flut next.toNat
  match findSub ns rest with
  | some k => do
      let ai ← lutIndex flut (rest.take k)
      pure (ai, rest.drop k)
  | none => .error (.builtin .valueError)

/-- The value of any other variable: the longest entry that stands there. -/
def longestEntry (ilut : List (ℕ × Bytes)) (rest : Bytes) : Except Fault (ℕ × Bytes) :=
  match ilut.find? fun p => p.2 <+: rest with
  | some p => .ok (p.1, rest.drop p.2.length)
  | none => .error (.builtin .valueError)

/-- The value of a variable, which depends on the code behind it. -/
def variableValue (flut : List Bytes) (ilut : List (ℕ × Bytes)) (next : Option ℤ) (rest : Bytes) :
    Except Fault (ℕ × Bytes) :=
  match next with
  | some c' => if 0 ≤ c' then entryBefore flut c' rest else longestEntry ilut rest
  | none => longestEntry ilut rest

/-- `rv[si] = ai`, unless the slot has another value. -/
def fillSlot (rv : List (Option ℕ)) (si ai : ℕ) : Except Fault (List (Option ℕ)) := do
  let old ← index rv si
  if old ≠ none ∧ old ≠ some ai then .error (.builtin .valueError)
  else pure (rv.set si (some ai))

/-- One code of the template against the unread part of a line; `next` is the code behind it. -/
def matchCode (flut : List Bytes) (ilut : List (ℕ × Bytes)) (next : Option ℤ) (c : ℤ)
    (st : Bytes × List (Option ℕ)) : Except Fault (Bytes × List (Option ℕ)) :=
  if 0 ≤ c then do
    let ent ← index flut c.toNat
    if st.1.take ent.length ≠ ent then .error (.builtin .valueError)
    else pure (st.1.drop ent.length, st.2)
  else do
    let (ai, rest) ← variableValue flut ilut next st.1
    let rv ← fillSlot st.2 (slot c) ai
    pure (rest, rv)

/-- The codes of the template, one after the other. -/
def matchTemplate (flut : List Bytes) (ilut : List (ℕ × Bytes)) :
    List ℤ → Bytes × List (Option ℕ) → Except Fault (Bytes × List (Option ℕ))
  | [], st => pure st
  | c :: cs, st => do
      let st ← matchCode flut ilut cs.head? c st
      matchTemplate flut ilut cs st

/-- One line: the values of the variables. -/
def matchLine (flut : List Bytes) (ftpl : List ℤ) (nvars : ℕ) (ln : Bytes) :
    Except Fault (List ℕ) := do
  let (rest, rv) ← matchTemplate flut (byLength flut) ftpl (ln, List.replicate nvars none)
  if rest ≠ [] ∨ none ∈ rv then .error (.builtin .valueError)
  else pure (rv.filterMap id)

/-! ### The channel -/

/-- What the encoder returns: the channel, the table and the template it needs, and how many entries
of the table it did without. -/
structure TemplateChannel where
  channel : Bytes
  plut : List Bytes
  rtpl : List ℤ
  pruned : ℤ
  deriving DecidableEq, Repr

/-- The rows are as many copies of their first `p` as they have room for. -/
def Periodic {α : Type} (xs : List α) (p : ℕ) : Prop :=
  xs.length % p = 0 ∧ (List.replicate (xs.length / p) (xs.take p)).flatten = xs

instance decidablePeriodic {α : Type} [DecidableEq α] (xs : List α) (p : ℕ) :
    Decidable (Periodic xs p) := inferInstanceAs (Decidable (_ ∧ _))

/-- `per`, the first period of the rows.  The number of the rows is one, so that `next` returns. -/
def period {α : Type} [DecidableEq α] (rows : List α) : ℕ :=
  ((List.range' 1 rows.length).find? fun p => Periodic rows p).getD rows.length

/-- The entries that are used, renumbered. -/
def renumber (o2n : List (ℕ × ℕ)) (c : ℤ) : Except Fault ℤ :=
  if 0 ≤ c then do
    let n ← getKey o2n c.toNat
    pure (n : ℤ)
  else pure c

/-- The template form of the channel, checked by decoding it. -/
def encodeRows (Z : Zlib) (tid lid pid : ℕ) (raw : Bytes) (flut : List Bytes) (ftpl : List ℤ)
    (nvars : ℕ) (rows : List (List ℕ)) : Except Fault TemplateChannel := do
  let per := period rows
  let urows := rows.take per
  let rep := rows.length / per
  let used := sortedNats ((ftpl.filter (0 ≤ ·)).map Int.toNat ++ urows.flatten)
  let plut ← used.mapM (index flut)
  let rtpl ← ftpl.mapM (renumber used.zipIdx)
  let rrows ← urows.mapM fun r => r.mapM (getKey used.zipIdx)
  let cw ← ([tid, 1, 1, lid, pid, rrows.length, nvars, rep] ++ rrows.flatten).mapM
    fun n : ℕ => packB n
  let (out, _) ← callOn (decode Z ([0x8D, 1, 1, 1] ++ cw.flatten.drop 2))
    ⟨[(lid, plut)], [(pid, rtpl)], 0⟩
  let got ← getKey out 1
  if got ≠ raw then .error (.builtin .valueError)
  else pure ⟨cw.flatten, plut, rtpl, flut.length - plut.length⟩

/-- The literal form of the channel. -/
def encodeLiteral (tid : ℕ) (raw : Bytes) (flut : List Bytes) : Except Fault TemplateChannel := do
  let t ← packB tid
  let h ← packH raw.length
  pure ⟨t ++ [1, 6] ++ h ++ raw, [[0]], [0], flut.length⟩

/-- `encode_template_channel_with_pruning` -/
def encodeTemplateChannelWithPruning (Z : Zlib) (tid lid pid : ℕ) (raw : Bytes)
    (flut : List Bytes) (ftpl : List ℤ) : Except Fault TemplateChannel := do
  let nvars := (vslots ftpl).length
  raiseIf (vslots ftpl ≠ List.range nvars) "HOLD_INVALID_TEMPLATE_SLOT_DEFINITION"
  raiseIf (splitlines raw = []) "HOLD_EMPTY_INPUT"
  let form : Except Fault TemplateChannel := do
    let rows ← (splitlines raw).mapM (matchLine flut ftpl nvars)
    encodeRows Z tid lid pid raw flut ftpl nvars rows
  match form with
  | .error (.builtin .valueError) => encodeLiteral tid raw flut
  | r => r

/-! ### Which lines fit -/

/-- How a template reads a whole line: every code takes its part from the left.  A variable in front
of an entry takes what stands before the first occurrence of the entry, any other variable the
longest entry that stands there.  The list says which slot got which entry of the table. -/
inductive Derives (flut : List Bytes) : List ℤ → Bytes → List (ℕ × ℕ) → Prop where
  | nil : Derives flut [] [] []
  | entry {c : ℤ} {cs : List ℤ} {rest : Bytes} {vs : List (ℕ × ℕ)} : 0 ≤ c →
      Derives flut cs rest vs → Derives flut (c :: cs) (flut.getD c.toNat [] ++ rest) vs
  | before {c c' : ℤ} {cs : List ℤ} {x rest : Bytes} {vs : List (ℕ × ℕ)} : c < 0 → 0 ≤ c' →
      x ∈ flut → (∀ j < x.length, ¬flut.getD c'.toNat [] <+: (x ++ rest).drop j) →
      Derives flut (c' :: cs) rest vs →
        Derives flut (c :: c' :: cs) (x ++ rest) ((slot c, flut.idxOf x) :: vs)
  | longest {c : ℤ} {cs : List ℤ} {x rest : Bytes} {vs : List (ℕ × ℕ)} : c < 0 →
      (∀ c' ∈ cs.head?, c' < 0) → x ∈ flut → (∀ y ∈ flut, y <+: x ++ rest → y.length ≤ x.length) →
      Derives flut cs rest vs →
        Derives flut (c :: cs) (x ++ rest) ((slot c, flut.idxOf x) :: vs)

/-- A line fits a template when it is read with one value for each slot. -/
def LineFits (flut : List Bytes) (ftpl : List ℤ) (ln : Bytes) : Prop :=
  ∃ vs, Derives flut ftpl ln vs ∧ ∀ p ∈ vs, ∀ q ∈ vs, p.1 = q.1 → p.2 = q.2

/-! ### Searches -/

theorem findSub_eq_some {ns : Bytes} {l : Bytes} {k : ℕ} :
    findSub ns l = some k ↔
      k ≤ l.length ∧ ns <+: l.drop k ∧ ∀ j < k, ¬ns <+: l.drop j := by
  induction l generalizing k with
  | nil =>
      rw [findSub]
      by_cases hns : ns = []
      · rw [if_pos hns, hns, Option.some.injEq]
        constructor
        · rintro rfl
          simp
        · rintro ⟨hk, -, -⟩
          exact (Nat.le_zero.1 hk).symm
      · simp [List.prefix_nil, hns]
  | cons b bs ih =>
      rw [findSub]
      by_cases hpre : ns <+: b :: bs
      · rw [if_pos hpre, Option.some.injEq]
        constructor
        · rintro rfl
          exact ⟨Nat.zero_le _, hpre, by simp⟩
        · rintro ⟨-, -, hmin⟩
          by_contra hk
          exact hmin 0 (by omega) hpre
      · rw [if_neg hpre, Option.map_eq_some_iff]
        constructor
        · rintro ⟨k, hk, rfl⟩
          obtain ⟨hle, hfound, hmin⟩ := ih.1 hk
          refine ⟨by simpa using hle, hfound, fun j hj => ?_⟩
          cases j with
          | zero => exact hpre
          | succ j => exact hmin j (by omega)
        · rintro ⟨hle, hfound, hmin⟩
          cases k with
          | zero => exact absurd hfound hpre
          | succ k =>
              exact ⟨k, ih.2 ⟨by simpa using hle, hfound, fun j hj => hmin (j + 1) (by omega)⟩, rfl⟩

theorem lutIndex_eq_ok {lut : List Bytes} {x : Bytes} {i : ℕ} :
    lutIndex lut x = .ok i ↔ x ∈ lut ∧ lut.idxOf x = i := by
  rw [lutIndex]
  by_cases hx : x ∈ lut <;> simp [hx]

theorem mem_byLength {flut : List Bytes} {p : ℕ × Bytes} :
    p ∈ byLength flut ↔ flut[p.1]? = some p.2 := by
  obtain ⟨i, x⟩ := p
  simp only [byLength, List.mem_mergeSort, List.mem_map, Prod.exists, Prod.swap_prod_mk,
    Prod.mk.injEq]
  constructor
  · rintro ⟨y, j, hmem, rfl, rfl⟩
    exact List.mk_mem_zipIdx_iff_getElem?.1 hmem
  · intro h
    exact ⟨x, i, List.mk_mem_zipIdx_iff_getElem?.2 h, rfl, rfl⟩

/-- The sort is stable: of entries of one length, the one with the smaller index comes first. -/
theorem byLength_pairwise (flut : List Bytes) : (byLength flut).Pairwise fun p q =>
    q.2.length ≤ p.2.length ∧ (p.2.length ≤ q.2.length → p.1 ≤ q.1) := by
  have htrans : ∀ a b c, longerFirst a b → longerFirst b c → longerFirst a c := by
    intro a b c hab hbc
    simp only [longerFirst, decide_eq_true_iff] at hab hbc ⊢
    omega
  have htotal : ∀ a b, longerFirst a b || longerFirst b a := by
    intro a b
    simp only [longerFirst, Bool.or_eq_true, decide_eq_true_iff]
    omega
  have hsorted := List.pairwise_mergeSort (List.zipIdxLE_trans htrans) (List.zipIdxLE_total htotal)
    (flut.zipIdx.map Prod.swap).zipIdx
  have hindex : ∀ q ∈ (flut.zipIdx.map Prod.swap).zipIdx, q.1.1 = q.2 := by
    rintro ⟨⟨i, x⟩, j⟩ hq
    have hget := List.mk_mem_zipIdx_iff_getElem?.1 hq
    simp only [List.getElem?_map, List.getElem?_zipIdx, Option.map_map, Option.map_eq_some_iff,
      Function.comp_apply, Prod.swap_prod_mk, Prod.mk.injEq, Nat.zero_add] at hget
    obtain ⟨y, -, rfl, -⟩ := hget
    rfl
  rw [byLength, ← List.mergeSort_zipIdx, List.pairwise_map]
  refine hsorted.imp_of_mem fun {a b} ha hb hab => ?_
  have ha := hindex a (List.mem_mergeSort.1 ha)
  have hb := hindex b (List.mem_mergeSort.1 hb)
  simp only [List.zipIdxLE, longerFirst, decide_eq_true_iff] at hab
  by_cases h1 : b.1.2.length ≤ a.1.2.length
  · rw [if_pos h1] at hab
    refine ⟨h1, fun h2 => ?_⟩
    rw [if_pos h2, decide_eq_true_iff] at hab
    omega
  · rw [if_neg h1] at hab
    simp at hab

/-- What the search finds: the longest entry at the front, under its first index. -/
theorem longestEntry_spec {flut : List Bytes} {l rest : Bytes} {i : ℕ}
    (h : longestEntry (byLength flut) l = .ok (i, rest)) : ∃ x ∈ flut, l = x ++ rest ∧
      (∀ y ∈ flut, y <+: l → y.length ≤ x.length) ∧ i = flut.idxOf x := by
  unfold longestEntry at h
  split at h
  · next p hp =>
      obtain ⟨rfl, rfl⟩ := Prod.mk.inj (Except.ok.inj h)
      obtain ⟨hpre, as, bs, hsplit, hfirst⟩ := List.find?_eq_some_iff_append.1 hp
      simp only [decide_eq_true_iff] at hpre
      have hpair := byLength_pairwise flut
      rw [hsplit] at hpair
      have hafter := (List.pairwise_cons.1 (List.pairwise_append.1 hpair).2.1).1
      have hp := mem_byLength.1 (by rw [hsplit]; simp : p ∈ byLength flut)
      obtain ⟨hlt, hget⟩ := List.getElem?_eq_some_iff.1 hp
      -- an entry at the front is the one that was found, or comes later
      have hlater : ∀ q ∈ byLength flut, q.2 <+: l → q = p ∨ q ∈ bs := by
        intro q hq hql
        rw [hsplit, List.mem_append, List.mem_cons] at hq
        rcases hq with hq | hq | hq
        · exact absurd hql (by simpa using hfirst q hq)
        · exact .inl hq
        · exact .inr hq
      have hidx : ∀ y ∈ flut, (flut.idxOf y, y) ∈ byLength flut := fun y hy =>
        mem_byLength.2 (by simp [List.idxOf_lt_length_iff.2 hy])
      have hmem : p.2 ∈ flut := hget ▸ List.getElem_mem hlt
      refine ⟨p.2, hmem, (List.prefix_iff_eq_append.1 hpre).symm, fun y hy hyl => ?_, ?_⟩
      · rcases hlater _ (hidx y hy) hyl with heq | hbs
        · rw [← heq]
        · exact (hafter _ hbs).1
      · rcases hlater _ (hidx p.2 hmem) hpre with heq | hbs
        · exact (congrArg Prod.fst heq).symm
        · have hle := (hafter _ hbs).2 le_rfl
          have hmin : flut.idxOf p.2 ≤ p.1 := by
            by_contra hcon
            have := List.not_of_lt_findIdx (Nat.lt_of_not_le hcon)
            simp [hget] at this
          simp only at hle
          omega
  · simp at h

theorem longestEntry_eq_ok {flut : List Bytes} {l rest : Bytes} {i : ℕ} :
    longestEntry (byLength flut) l = .ok (i, rest) ↔ ∃ x ∈ flut, l = x ++ rest ∧
      (∀ y ∈ flut, y <+: l → y.length ≤ x.length) ∧ i = flut.idxOf x := by
  refine ⟨longestEntry_spec, ?_⟩
  rintro ⟨x, hx, rfl, hmax, rfl⟩
  have hpre : x <+: x ++ rest := List.prefix_append _ _
  cases h : longestEntry (byLength flut) (x ++ rest) with
  | error e =>
      unfold longestEntry at h
      split at h
      · simp at h
      · next hnone =>
          rw [List.find?_eq_none] at hnone
          have := hnone (flut.idxOf x, x)
            (mem_byLength.2 (by simp [List.idxOf_lt_length_iff.2 hx]))
          simp at this
  | ok r =>
      obtain ⟨y, hy, hsplit, hmax', hi⟩ := longestEntry_spec h
      have hpre' : y <+: x ++ rest := hsplit ▸ List.prefix_append _ _
      have hlen : y.length = x.length := le_antisymm (hmax y hy hpre') (hmax' x hx hpre)
      obtain ⟨rfl, hrest⟩ := List.append_inj hsplit.symm hlen
      rw [← hi, ← hrest]

/-! ### The encoder reads what the template derives -/

/-- The entry of a code, as an access that the interpreter does not refuse. -/
theorem index_getD {flut : List Bytes} {i : ℕ} (hi : i < flut.length) :
    index flut i = (.ok (flut.getD i []) : Except Fault _) := by
  rw [index_of_lt hi, List.getD_eq_getElem _ _ hi]

theorem entryBefore_eq_ok {flut : List Bytes} {c' : ℤ} (hc' : c'.toNat < flut.length)
    {l rest : Bytes} {i : ℕ} :
    entryBefore flut c' l = .ok (i, rest) ↔ ∃ x ∈ flut, l = x ++ rest ∧
      flut.getD c'.toNat [] <+: rest ∧ (∀ j < x.length, ¬flut.getD c'.toNat [] <+: l.drop j) ∧
      i = flut.idxOf x := by
  simp only [entryBefore, index_getD hc', ok_bind]
  constructor
  · intro h
    split at h
    · next k hk =>
        obtain ⟨hle, hfound, hmin⟩ := findSub_eq_some.1 hk
        obtain ⟨ai, hai, hret⟩ := bind_eq_ok_iff.1 h
        obtain ⟨rfl, rfl⟩ := Prod.mk.inj (pure_eq_ok_iff.1 hret)
        obtain ⟨hmem, hidx⟩ := lutIndex_eq_ok.1 hai
        refine ⟨l.take k, hmem, (List.take_append_drop k l).symm, hfound, fun j hj => ?_, hidx.symm⟩
        rw [List.length_take] at hj
        exact hmin j (by omega)
    · simp at h
  · rintro ⟨x, hx, rfl, hfound, hmin, rfl⟩
    have hk : findSub (flut.getD c'.toNat []) (x ++ rest) = some x.length :=
      findSub_eq_some.2 ⟨by simp, by simpa using hfound, hmin⟩
    simp only [hk, List.take_left, List.drop_left, lutIndex_eq_ok.2 ⟨hx, rfl⟩, ok_bind]
    rfl

/-- The values go into their slots, one after the other. -/
def assign (rv : List (Option ℕ)) (vs : List (ℕ × ℕ)) : Except Fault (List (Option ℕ)) :=
  vs.foldlM (fun rv p => fillSlot rv p.1 p.2) rv

/-- A code that names an entry. -/
theorem matchCode_entry {flut : List Bytes} {ilut : List (ℕ × Bytes)} {next : Option ℤ} {c : ℤ}
    (hc : 0 ≤ c) (hlt : c.toNat < flut.length) {l rest : Bytes} {rv rv' : List (Option ℕ)} :
    matchCode flut ilut next c (l, rv) = .ok (rest, rv') ↔
      l = flut.getD c.toNat [] ++ rest ∧ rv' = rv := by
  simp only [matchCode, if_pos hc, index_getD hlt, ok_bind]
  constructor
  · intro h
    by_cases htake : l.take (flut.getD c.toNat []).length = flut.getD c.toNat []
    · rw [if_neg (not_not_intro htake)] at h
      obtain ⟨rfl, rfl⟩ := Prod.mk.inj (pure_eq_ok_iff.1 h)
      refine ⟨?_, rfl⟩
      nth_rewrite 1 [← List.take_append_drop (flut.getD c.toNat []).length l, htake]
      rfl
    · rw [if_pos htake] at h
      simp at h
  · rintro ⟨rfl, rfl⟩
    rw [if_neg (by simp)]
    simp [pure, Except.pure]

/-- A code that names a variable: what the search finds goes into the slot. -/
theorem matchCode_variable {flut : List Bytes} {ilut : List (ℕ × Bytes)} {next : Option ℤ} {c : ℤ}
    (hc : c < 0) {l rest : Bytes} {rv rv' : List (Option ℕ)} :
    matchCode flut ilut next c (l, rv) = .ok (rest, rv') ↔ ∃ i,
      variableValue flut ilut next l = .ok (i, rest) ∧ fillSlot rv (slot c) i = .ok rv' := by
  simp only [matchCode, if_neg (not_le.2 hc), bind_eq_ok_iff, pure_eq_ok_iff, Prod.mk.injEq,
    Prod.exists]
  constructor
  · rintro ⟨i, r, hfind, rv1, hfill, rfl, rfl⟩
    exact ⟨i, hfind, hfill⟩
  · rintro ⟨i, hfind, hfill⟩
    exact ⟨i, rest, hfind, rv', hfill, rfl, rfl⟩

theorem assign_cons (rv : List (Option ℕ)) (p : ℕ × ℕ) (vs : List (ℕ × ℕ)) :
    assign rv (p :: vs) = (do let rv ← fillSlot rv p.1 p.2; assign rv vs) := by
  rw [assign, List.foldlM_cons]
  rfl

/-- **A whole line** is read as the template derives it, with the values put into their slots. -/
theorem matchTemplate_iff {flut : List Bytes} {cs : List ℤ}
    (hcs : ∀ c ∈ cs, 0 ≤ c → c.toNat < flut.length) :
    ∀ {l : Bytes} {rv rv' : List (Option ℕ)},
      matchTemplate flut (byLength flut) cs (l, rv) = .ok ([], rv') ↔
        ∃ vs, Derives flut cs l vs ∧ assign rv vs = .ok rv' := by
  induction cs with
  | nil =>
      intro l rv rv'
      rw [matchTemplate, pure_eq_ok_iff, Prod.mk.injEq]
      constructor
      · rintro ⟨rfl, rfl⟩
        exact ⟨[], .nil, rfl⟩
      · rintro ⟨vs, hd, ha⟩
        cases hd
        exact ⟨rfl, pure_eq_ok_iff.1 ha⟩
  | cons c cs ih =>
      intro l rv rv'
      obtain ⟨hc, hcs⟩ := List.forall_mem_cons.1 hcs
      have ih := @ih hcs
      simp only [matchTemplate, bind_eq_ok_iff, Prod.exists, ih]
      by_cases hpos : 0 ≤ c
      · simp only [matchCode_entry hpos (hc hpos)]
        constructor
        · rintro ⟨rest, _, ⟨rfl, rfl⟩, vs, hd, ha⟩
          exact ⟨vs, .entry hpos hd, ha⟩
        · rintro ⟨vs, hd, ha⟩
          cases hd with
          | entry _ hd => exact ⟨_, rv, ⟨rfl, rfl⟩, vs, hd, ha⟩
          | before hneg => omega
          | longest hneg => omega
      · have hneg : c < 0 := by omega
        simp only [matchCode_variable hneg]
        constructor
        · rintro ⟨rest, rv1, ⟨i, hfind, hfill⟩, vs, hd, ha⟩
          have hassign : assign rv ((slot c, i) :: vs) = .ok rv' := by
            rw [assign_cons, hfill, ok_bind, ha]
          cases cs with
          | nil =>
              obtain ⟨x, hx, rfl, hmax, rfl⟩ := longestEntry_eq_ok.1 hfind
              exact ⟨_, .longest hneg (by simp) hx hmax hd, hassign⟩
          | cons c' cs =>
              simp only [variableValue, List.head?_cons] at hfind
              by_cases hpos' : 0 ≤ c'
              · rw [if_pos hpos', entryBefore_eq_ok (hcs c' (by simp) hpos')] at hfind
                obtain ⟨x, hx, rfl, -, hmin, rfl⟩ := hfind
                exact ⟨_, .before hneg hpos' hx hmin hd, hassign⟩
              · rw [if_neg hpos'] at hfind
                obtain ⟨x, hx, rfl, hmax, rfl⟩ := longestEntry_eq_ok.1 hfind
                exact ⟨_, .longest hneg (by simpa using hpos') hx hmax hd, hassign⟩
        · rintro ⟨vs, hd, ha⟩
          cases hd with
          | entry hpos => omega
          | @before _ c' cs x rest vs _ hpos' hx hmin hd =>
              rw [assign_cons, bind_eq_ok_iff] at ha
              obtain ⟨rv1, hfill, ha⟩ := ha
              have hpre : flut.getD c'.toNat [] <+: rest := by
                cases hd with
                | entry => exact List.prefix_append _ _
                | before hneg' => omega
                | longest hneg' => omega
              refine ⟨rest, rv1, ⟨_, ?_, hfill⟩, vs, hd, ha⟩
              simp only [variableValue, List.head?_cons, if_pos hpos']
              exact (entryBefore_eq_ok (hcs c' (by simp) hpos')).2 ⟨x, hx, rfl, hpre, hmin, rfl⟩
          | @longest _ _ x rest vs _ hnext hx hmax hd =>
              rw [assign_cons, bind_eq_ok_iff] at ha
              obtain ⟨rv1, hfill, ha⟩ := ha
              refine ⟨rest, rv1, ⟨_, ?_, hfill⟩, vs, hd, ha⟩
              have hfind := longestEntry_eq_ok.2 ⟨x, hx, rfl, hmax, rfl⟩
              cases cs with
              | nil => exact hfind
              | cons c' cs =>
                  simp only [variableValue, List.head?_cons, if_neg (not_le.2 (hnext c' (by simp)))]
                  exact hfind

/-! ### Slots -/

theorem fillSlot_eq_ok {rv rv' : List (Option ℕ)} {i v : ℕ} :
    fillSlot rv i v = .ok rv' ↔
      (rv[i]? = some none ∨ rv[i]? = some (some v)) ∧ rv' = rv.set i (some v) := by
  unfold fillSlot index
  cases h : rv[i]? with
  | none => simp
  | some old =>
      simp only [ok_bind, Option.some.injEq]
      by_cases hold : old ≠ none ∧ old ≠ some v
      · rw [if_pos hold]
        simp [hold.1, hold.2]
      · rw [if_neg hold, pure_eq_ok_iff, eq_comm]
        constructor
        · rintro rfl
          refine ⟨?_, rfl⟩
          by_contra hcon
          exact hold ⟨fun h => hcon (.inl h), fun h => hcon (.inr h)⟩
        · exact fun h => h.2

/-- What is in the slots afterwards: the values, next to what was there before, and nothing else. -/
theorem assign_spec {vs : List (ℕ × ℕ)} : ∀ {rv rv' : List (Option ℕ)}, assign rv vs = .ok rv' →
    rv'.length = rv.length ∧ (∀ p ∈ vs, rv'[p.1]? = some (some p.2)) ∧
      (∀ i v : ℕ, rv[i]? = some (some v) → rv'[i]? = some (some v)) ∧
      (∀ i v : ℕ, rv'[i]? = some (some v) → rv[i]? = some (some v) ∨ (i, v) ∈ vs) := by
  induction vs with
  | nil =>
      intro rv rv' h
      obtain rfl := pure_eq_ok_iff.1 h
      simp
  | cons p vs ih =>
      intro rv rv' h
      rw [assign_cons, bind_eq_ok_iff] at h
      obtain ⟨rv1, hfill, h⟩ := h
      obtain ⟨hfree, rfl⟩ := fillSlot_eq_ok.1 hfill
      obtain ⟨hlen, hvs, hkeep, honly⟩ := ih h
      have hlt : p.1 < rv.length := by
        by_contra hge
        rw [List.getElem?_eq_none (by omega)] at hfree
        simp at hfree
      have hset : (rv.set p.1 (some p.2))[p.1]? = some (some p.2) := List.getElem?_set_self hlt
      refine ⟨by simpa using hlen, List.forall_mem_cons.2 ⟨hkeep _ _ hset, hvs⟩, fun i v hi => ?_,
        fun i v hi => ?_⟩
      · by_cases hip : i = p.1
        · subst hip
          rcases hfree with hfree | hfree
          · rw [hi] at hfree
            simp at hfree
          · rw [hi] at hfree
            obtain rfl := Option.some.inj (Option.some.inj hfree)
            exact hkeep _ _ hset
        · exact hkeep _ _ (by rwa [List.getElem?_set_ne (Ne.symm hip)])
      · rcases honly i v hi with hi | hi
        · by_cases hip : i = p.1
          · subst hip
            rw [hset] at hi
            obtain rfl := Option.some.inj (Option.some.inj hi)
            exact .inr (by simp)
          · rw [List.getElem?_set_ne (Ne.symm hip)] at hi
            exact .inl hi
        · exact .inr (by simp [hi])

/-- The values go into the slots when no slot gets two of them. -/
theorem assign_ok {vs : List (ℕ × ℕ)} (hvs : ∀ p ∈ vs, ∀ q ∈ vs, p.1 = q.1 → p.2 = q.2) :
    ∀ rv : List (Option ℕ), (∀ p ∈ vs, p.1 < rv.length ∧
      ∀ v, rv[p.1]? = some (some v) → v = p.2) → ∃ rv', assign rv vs = .ok rv' := by
  induction vs with
  | nil => exact fun _ _ => ⟨_, rfl⟩
  | cons p vs ih =>
      intro rv hrv
      obtain ⟨⟨hlt, hold⟩, hrest⟩ := List.forall_mem_cons.1 hrv
      have hfill : fillSlot rv p.1 p.2 = .ok (rv.set p.1 (some p.2)) := by
        refine fillSlot_eq_ok.2 ⟨?_, rfl⟩
        cases hget : rv[p.1]? with
        | none =>
            rw [List.getElem?_eq_none_iff] at hget
            omega
        | some old =>
            cases old with
            | none => exact .inl rfl
            | some v => exact .inr (by rw [hold v hget])
      rw [assign_cons, hfill, ok_bind]
      refine ih (fun a ha b hb => hvs a (by simp [ha]) b (by simp [hb])) _ fun q hq => ?_
      obtain ⟨hqlt, hqold⟩ := hrest q hq
      refine ⟨by simpa using hqlt, fun v hv => ?_⟩
      by_cases hqp : q.1 = p.1
      · rw [hqp, List.getElem?_set_self hlt] at hv
        rw [← Option.some.inj (Option.some.inj hv)]
        exact hvs p (by simp) q (by simp [hq]) hqp.symm
      · rw [List.getElem?_set_ne (Ne.symm hqp)] at hv
        exact hqold v hv

/-! ### What is derived -/

namespace Derives

variable {flut : List Bytes} {cs : List ℤ} {l : Bytes} {vs : List (ℕ × ℕ)}

/-- Every value is the index of an entry. -/
theorem value_lt (h : Derives flut cs l vs) : ∀ p ∈ vs, p.2 < flut.length := by
  induction h with
  | nil => simp
  | entry _ _ ih => exact ih
  | before _ _ hx _ _ ih => exact List.forall_mem_cons.2 ⟨List.idxOf_lt_length_iff.2 hx, ih⟩
  | longest _ _ hx _ _ ih => exact List.forall_mem_cons.2 ⟨List.idxOf_lt_length_iff.2 hx, ih⟩

/-- The slots that get a value are the slots of the variables. -/
theorem slots (h : Derives flut cs l vs) : vs.map Prod.fst = (cs.filter (· < 0)).map slot := by
  induction h with
  | nil => rfl
  | entry hc _ ih => simp [not_lt.2 hc, ih]
  | before hc _ _ _ _ ih => rw [List.map_cons, ih]; simp [hc]
  | longest hc _ _ _ _ ih => simp [hc, ih]

/-- The template, filled with the values, is the line. -/
theorem fill (h : Derives flut cs l vs) (hcs : ∀ c ∈ cs, 0 ≤ c → c.toNat < flut.length)
    {r : List ℕ} (hr : ∀ p ∈ vs, r[p.1]? = some p.2) :
    ∀ blk, fillTemplate flut cs blk r = some (blk ++ l) := by
  have hentry : ∀ {c : ℤ} {x : Bytes}, c < 0 → x ∈ flut → r[slot c]? = some (flut.idxOf x) →
      entryOf flut r c = some x := by
    intro c x hc hx hget
    have hget : r[(-c - 1).toNat]? = some (flut.idxOf x) := hget
    rw [entryOf, if_pos hc, hget, Option.bind_some,
      List.getElem?_eq_getElem (List.idxOf_lt_length_iff.2 hx), List.getElem_idxOf]
  induction h with
  | nil => simp [fillTemplate]
  | @entry c cs rest vs hc hd ih =>
      intro blk
      obtain ⟨hlt, hcs⟩ := List.forall_mem_cons.1 hcs
      have hget : flut[c.toNat]? = some (flut.getD c.toNat []) := by
        rw [List.getD_eq_getElem _ _ (hlt hc), List.getElem?_eq_getElem (hlt hc)]
      have hent : entryOf flut r c = some (flut.getD c.toNat []) := by
        rw [entryOf, if_neg (not_lt.2 hc), Option.bind_some, hget]
      rw [fillTemplate, List.foldlM_cons, hent]
      refine (ih hcs hr _).trans ?_
      rw [List.append_assoc]
  | @before c c' cs x rest vs hc hc' hx hmin hd ih =>
      intro blk
      obtain ⟨hfirst, hr⟩ := List.forall_mem_cons.1 hr
      rw [fillTemplate, List.foldlM_cons, hentry hc hx hfirst]
      refine (ih (fun d hd => hcs d (by simp [hd])) hr _).trans ?_
      rw [List.append_assoc]
  | @longest c cs x rest vs hc hnext hx hmax hd ih =>
      intro blk
      obtain ⟨hfirst, hr⟩ := List.forall_mem_cons.1 hr
      rw [fillTemplate, List.foldlM_cons, hentry hc hx hfirst]
      refine (ih (fun d hd => hcs d (by simp [hd])) hr _).trans ?_
      rw [List.append_assoc]

end Derives

/-! ### One line, as a whole -/

/-- A template over a table: the entries it names are there, and its variables pass the check of the
slots. -/
structure TemplateOver (flut : List Bytes) (ftpl : List ℤ) : Prop where
  codes : ∀ c ∈ ftpl, 0 ≤ c → c.toNat < flut.length
  slots : vslots ftpl = List.range (vslots ftpl).length

theorem mem_vslots {ftpl : List ℤ} {i : ℕ} : i ∈ vslots ftpl ↔ ∃ c ∈ ftpl, c < 0 ∧ slot c = i := by
  simp only [vslots, sortedNats, List.mem_mergeSort, List.mem_dedup, List.mem_map, List.mem_filter,
    decide_eq_true_eq, and_assoc]

theorem TemplateOver.mem_slots {flut : List Bytes} {ftpl : List ℤ} (h : TemplateOver flut ftpl)
    {i : ℕ} : i < (vslots ftpl).length ↔ ∃ c ∈ ftpl, c < 0 ∧ slot c = i := by
  rw [← mem_vslots, h.slots]
  simp

theorem map_some_filterMap {α : Type} {l : List (Option α)} (h : none ∉ l) :
    (l.filterMap id).map some = l := by
  induction l with
  | nil => rfl
  | cons o l ih =>
      rw [List.mem_cons, not_or] at h
      cases o with
      | none => exact absurd rfl h.1
      | some a => rw [List.filterMap_cons, id, List.map_cons, ih h.2]

section Line

variable {flut : List Bytes} {ftpl : List ℤ} (h : TemplateOver flut ftpl)
include h

/-- When a template derives a line, every slot has got a value. -/
theorem assign_full {l : Bytes} {vs : List (ℕ × ℕ)} (hd : Derives flut ftpl l vs)
    {rv : List (Option ℕ)}
    (ha : assign (List.replicate (vslots ftpl).length none) vs = .ok rv) : none ∉ rv := by
  obtain ⟨hlen, hvs, -, -⟩ := assign_spec ha
  intro hmem
  obtain ⟨i, hi, hnone⟩ := List.getElem_of_mem hmem
  rw [hlen, List.length_replicate] at hi
  obtain ⟨c, hc, hneg, rfl⟩ := h.mem_slots.1 hi
  have hslot : slot c ∈ vs.map Prod.fst := by
    rw [hd.slots]
    exact List.mem_map_of_mem (List.mem_filter.2 ⟨hc, by simpa using hneg⟩)
  obtain ⟨p, hp, hpc⟩ := List.mem_map.1 hslot
  have hget := hvs p hp
  rw [hpc, List.getElem?_eq_getElem (by omega), hnone] at hget
  simp at hget

/-- The row of a line: as many values as there are variables, with which the template is the line. -/
theorem matchLine_spec {l : Bytes} {row : List ℕ}
    (hrow : matchLine flut ftpl (vslots ftpl).length l = .ok row) :
    LineFits flut ftpl l ∧ row.length = (vslots ftpl).length ∧ (∀ v ∈ row, v < flut.length) ∧
      ∀ blk, fillTemplate flut ftpl blk row = some (blk ++ l) := by
  obtain ⟨⟨rest, rv⟩, hmatch, hret⟩ := bind_eq_ok_iff.1 hrow
  by_cases hbad : rest ≠ [] ∨ none ∈ rv
  · simp [if_pos hbad] at hret
  · obtain ⟨hrest, hfull⟩ := not_or.1 hbad
    rw [not_not] at hrest
    subst hrest
    simp only [if_neg hbad, pure_eq_ok_iff] at hret
    obtain ⟨vs, hd, ha⟩ := (matchTemplate_iff h.codes).1 hmatch
    obtain ⟨hlen, hvs, -, honly⟩ := assign_spec ha
    have hrv : row.map some = rv := by rw [← hret, map_some_filterMap hfull]
    have hget : ∀ i v : ℕ, row[i]? = some v ↔ rv[i]? = some (some v) := by
      intro i v
      rw [← hrv, List.getElem?_map]
      cases row[i]? <;> simp
    refine ⟨⟨vs, hd, fun p hp q hq hpq => ?_⟩, ?_, fun v hv => ?_,
      hd.fill h.codes fun p hp => (hget _ _).2 (hvs p hp)⟩
    · have hp2 := hvs p hp
      rw [hpq, hvs q hq] at hp2
      exact (Option.some.inj (Option.some.inj hp2)).symm
    · rw [← List.length_map (f := some), hrv, hlen, List.length_replicate]
    · obtain ⟨i, hi⟩ := List.getElem?_of_mem hv
      rcases honly i v ((hget i v).1 hi) with hnew | hmem
      · rw [List.getElem?_replicate] at hnew
        split at hnew <;> simp at hnew
      · exact hd.value_lt _ hmem

/-- **A row is returned for the lines that fit**, and for no others. -/
theorem matchLine_ok_iff (l : Bytes) :
    (∃ row, matchLine flut ftpl (vslots ftpl).length l = .ok row) ↔ LineFits flut ftpl l := by
  constructor
  · rintro ⟨row, hrow⟩
    exact (matchLine_spec h hrow).1
  · rintro ⟨vs, hd, hone⟩
    have hslots : ∀ p ∈ vs, p.1 < (vslots ftpl).length := by
      intro p hp
      have hmem : p.1 ∈ vs.map Prod.fst := List.mem_map_of_mem hp
      rw [hd.slots] at hmem
      obtain ⟨c, hc, hslot⟩ := List.mem_map.1 hmem
      obtain ⟨hc, hneg⟩ := List.mem_filter.1 hc
      exact h.mem_slots.2 ⟨c, hc, by simpa using hneg, hslot⟩
    obtain ⟨rv, ha⟩ := assign_ok hone (List.replicate (vslots ftpl).length none) fun p hp => by
      refine ⟨by simpa using hslots p hp, fun v hv => ?_⟩
      rw [List.getElem?_replicate] at hv
      split at hv <;> simp at hv
    refine ⟨rv.filterMap id, ?_⟩
    rw [matchLine, (matchTemplate_iff h.codes).2 ⟨vs, hd, ha⟩, ok_bind]
    simp only [if_neg (show ¬((([] : Bytes) ≠ []) ∨ none ∈ rv) by simp [assign_full h hd ha])]
    rfl

end Line

/-- Nothing but a `ValueError` is raised. -/
def RaisesValueError {α : Type} (x : Except Fault α) : Prop :=
  ∀ e, x = .error e → e = .builtin .valueError

theorem RaisesValueError.ok {α : Type} (a : α) : RaisesValueError (.ok a) := by
  intro e he
  simp at he

theorem RaisesValueError.raise {α : Type} :
    RaisesValueError (.error (.builtin .valueError) : Except Fault α) := by
  intro e he
  exact (Except.error.inj he).symm

theorem RaisesValueError.bind {α β : Type} {x : Except Fault α} {f : α → Except Fault β}
    (hx : RaisesValueError x) (hf : ∀ a, x = .ok a → RaisesValueError (f a)) :
    RaisesValueError (x >>= f) := by
  cases x with
  | ok a => exact hf a rfl
  | error e =>
      intro e' he
      exact hx e' (congrArg _ (Except.error.inj he))

theorem raises_lutIndex (lut : List Bytes) (x : Bytes) : RaisesValueError (lutIndex lut x) := by
  unfold lutIndex
  split
  · exact .ok _
  · exact .raise

theorem raises_longestEntry (ilut : List (ℕ × Bytes)) (l : Bytes) :
    RaisesValueError (longestEntry ilut l) := by
  unfold longestEntry
  split
  · exact .ok _
  · exact .raise

theorem raises_entryBefore {flut : List Bytes} {c' : ℤ} (hc' : c'.toNat < flut.length) (l : Bytes) :
    RaisesValueError (entryBefore flut c' l) := by
  rw [entryBefore, index_getD hc', ok_bind]
  split
  · exact (raises_lutIndex _ _).bind fun _ _ => .ok _
  · exact .raise

theorem raises_fillSlot {rv : List (Option ℕ)} {i : ℕ} (hi : i < rv.length) (v : ℕ) :
    RaisesValueError (fillSlot rv i v) := by
  rw [fillSlot, index_of_lt hi, ok_bind]
  split
  · exact .raise
  · exact .ok _

/-- A line that does not fit is refused with the exception that the encoder catches. -/
theorem raises_matchTemplate {flut : List Bytes} (ilut : List (ℕ × Bytes)) {n : ℕ} {cs : List ℤ}
    (hcs : ∀ c ∈ cs, 0 ≤ c → c.toNat < flut.length) (hslots : ∀ c ∈ cs, c < 0 → slot c < n) :
    ∀ {st : Bytes × List (Option ℕ)}, st.2.length = n →
      RaisesValueError (matchTemplate flut ilut cs st) := by
  induction cs with
  | nil => exact fun _ => .ok _
  | cons c cs ih =>
      intro st hst
      obtain ⟨hc, hcs⟩ := List.forall_mem_cons.1 hcs
      obtain ⟨hslot, hslots⟩ := List.forall_mem_cons.1 hslots
      have hfind : RaisesValueError (variableValue flut ilut cs.head? st.1) := by
        unfold variableValue
        split
        · next c' hc' =>
            split
            · exact raises_entryBefore (hcs c' (List.mem_of_head? hc') (by assumption)) _
            · exact raises_longestEntry _ _
        · exact raises_longestEntry _ _
      unfold matchTemplate
      refine RaisesValueError.bind ?_ fun st' hst' => ih hcs hslots ?_
      · unfold matchCode
        split
        · next hpos =>
            rw [index_of_lt (hc hpos), ok_bind]
            split
            · exact .raise
            · exact .ok _
        · next hneg =>
            exact hfind.bind fun _ _ =>
              (raises_fillSlot (by rw [hst]; exact hslot (by omega)) _).bind fun _ _ => .ok _
      · by_cases hpos : 0 ≤ c
        · obtain ⟨-, hrv⟩ := (matchCode_entry hpos (hc hpos)).1 hst'
          rw [hrv, hst]
        · obtain ⟨i, -, hfill⟩ := (matchCode_variable (by omega)).1 hst'
          obtain ⟨-, hrv⟩ := fillSlot_eq_ok.1 hfill
          rw [hrv, List.length_set, hst]

theorem raises_matchLine {flut : List Bytes} {ftpl : List ℤ} (h : TemplateOver flut ftpl)
    (l : Bytes) : RaisesValueError (matchLine flut ftpl (vslots ftpl).length l) := by
  refine (raises_matchTemplate (n := (vslots ftpl).length) _ h.codes
    (fun c hc hneg => h.mem_slots.2 ⟨c, hc, hneg, rfl⟩) (by simp)).bind fun p _ => ?_
  obtain ⟨rest, rv⟩ := p
  dsimp only
  split
  · exact .raise
  · exact .ok _

end OriginCell
