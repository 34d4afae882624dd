/-
**A template channel is decoded to the bytes it was made from, if it has a row.**

Once every line of a channel fits the template, the encoder shortens the rows to the ones that
repeat, keeps the entries of the table that are used, and packs the numbers of the rows, of the
variables and of the repetitions into a byte each.  Its fallback catches one exception only, so a
number that is too large escapes as the exception of `struct.pack`, and a template without variables
as the hold of the decoder it is checked with.  Every other channel is decoded to itself, and this
module says which these are by the lines of the channel alone.

Main definitions:

* `OriginCell.ShortestBlock` — the shortest block of lines that the lines repeat;
* `OriginCell.TemplateRoundTrip` — a channel is encoded, and decoded to itself.

Main results:

* `OriginCell.period_spec`, `OriginCell.shortestBlock_iff` — the period is the length of that block;
* `OriginCell.fillTemplate_pruned` — the pruned table and the renumbered template give the same lines;
* `OriginCell.encodeRows_too_large`, `OriginCell.encodeRows_no_variables`, `OriginCell.encodeRows_ok`
  — what becomes of the rows, by the three numbers;
* `OriginCell.encodeTemplateChannel_iff` — which channels survive the round trip.
-/

import Wuchang.CellTemplate
import Mathlib.Data.List.Perm.Subperm

set_option relaxedAutoImplicit false
set_option autoImplicit false

namespace OriginCell

open Py

/-! ### Lines -/

theorem flatten_splitlines (raw : Bytes) : (splitlines raw).flatten = raw := by
  induction raw with
  | nil => rfl
  | cons b bs ih =>
      rw [splitlines]
      split
      · rw [List.flatten_cons, ih]
        rfl
      · cases h : splitlines bs with
        | nil =>
            rw [h] at ih
            simp [← ih]
        | cons l ls =>
            rw [h] at ih
            simp [← ih]

theorem splitlines_ne_nil {raw : Bytes} (h : raw ≠ []) : splitlines raw ≠ [] := by
  intro hnil
  have hflat := flatten_splitlines raw
  rw [hnil] at hflat
  exact h hflat.symm

/-! ### Periods -/

section Periods

variable {α β : Type}

theorem periodic_length {xs : List α} (hne : xs ≠ []) : Periodic xs xs.length := by
  have hpos : 0 < xs.length := List.length_pos_iff.2 hne
  refine ⟨Nat.mod_self _, ?_⟩
  rw [Nat.div_self hpos, List.take_length]
  simp

/-- A number of copies of a block are periodic. -/
theorem periodic_copies {xs block : List α} {k : ℕ} (hne : xs ≠ [])
    (h : xs = (List.replicate k block).flatten) :
    1 ≤ block.length ∧ xs.length = k * block.length ∧ xs.take block.length = block ∧
      Periodic xs block.length := by
  have hlen : xs.length = k * block.length := by rw [h]; simp
  have hpos : 0 < xs.length := List.length_pos_iff.2 hne
  have hblock : 0 < block.length := Nat.pos_of_mul_pos_left (hlen ▸ hpos)
  have hk : 0 < k := Nat.pos_of_mul_pos_right (hlen ▸ hpos)
  have htake : xs.take block.length = block := by
    obtain ⟨n, rfl⟩ : ∃ n, k = n + 1 := ⟨k - 1, by omega⟩
    rw [h, List.replicate_succ, List.flatten_cons, List.take_left]
  refine ⟨hblock, hlen, htake, ?_, ?_⟩
  · rw [hlen, Nat.mul_mod_left]
  · rw [htake, hlen, Nat.mul_div_cancel _ hblock, ← h]

/-- The period is the least one. -/
theorem period_spec [DecidableEq α] {xs : List α} (hne : xs ≠ []) :
    1 ≤ period xs ∧ Periodic xs (period xs) ∧ ∀ p, 1 ≤ p → Periodic xs p → period xs ≤ p := by
  have hpos : 0 < xs.length := List.length_pos_iff.2 hne
  cases hfind : (List.range' 1 xs.length).find? fun p => Periodic xs p with
  | none =>
      rw [List.find?_range'_eq_none] at hfind
      have := hfind xs.length hpos (by omega)
      simp [periodic_length hne] at this
  | some p =>
      have hp : period xs = p := by rw [period, hfind]; rfl
      rw [List.find?_range'_eq_some] at hfind
      obtain ⟨hper, hmem, hmin⟩ := hfind
      rw [hp]
      refine ⟨(List.mem_range'_1.1 hmem).1, by simpa using hper, fun q hq hperq => ?_⟩
      by_contra hlt
      have := hmin q hq (by omega)
      simp [hperq] at this

/-- Rows are as periodic as what they are the rows of. -/
theorem periodic_map {f : α → β} {g : β → α} {xs : List α} (hg : (xs.map f).map g = xs) (p : ℕ) :
    Periodic (xs.map f) p ↔ Periodic xs p := by
  have hmap : ∀ {γ δ : Type} (h : γ → δ) (ys : List γ) (k : ℕ),
      (List.replicate k (ys.map h)).flatten = (List.replicate k ys).flatten.map h := by
    intro γ δ h ys k
    rw [List.map_flatten, List.map_replicate]
  simp only [Periodic, List.length_map, ← List.map_take, hmap]
  refine and_congr_right fun _ => ⟨fun h => ?_, fun h => by rw [h]⟩
  have h := congrArg (List.map g) h
  rw [hg, ← hmap, ← hmap, List.map_take, List.map_take, hg] at h
  exact h

theorem period_map [DecidableEq α] [DecidableEq β] {f : α → β} {g : β → α} {xs : List α}
    (hg : (xs.map f).map g = xs) (hne : xs ≠ []) : period (xs.map f) = period xs := by
  obtain ⟨h1, h2, h3⟩ := period_spec hne
  obtain ⟨h1', h2', h3'⟩ := period_spec (show xs.map f ≠ [] by simpa using hne)
  exact le_antisymm (h3' _ h1 ((periodic_map hg _).2 h2)) (h3 _ h1' ((periodic_map hg _).1 h2'))

/-- The shortest block of which a list is a number of copies, and that number. -/
structure ShortestBlock (xs block : List α) (k : ℕ) : Prop where
  copies : xs = (List.replicate k block).flatten
  shortest : ∀ block' k', xs = (List.replicate k' block').flatten → block.length ≤ block'.length

/-- The shortest block has as many elements as the period, and is repeated as often as the period
fits. -/
theorem shortestBlock_iff [DecidableEq α] {xs : List α} (hne : xs ≠ []) (block : List α) (k : ℕ) :
    ShortestBlock xs block k ↔ block = xs.take (period xs) ∧ k = xs.length / period xs := by
  obtain ⟨hpos, hper, hmin⟩ := period_spec hne
  have hle : period xs ≤ xs.length :=
    hmin _ (List.length_pos_iff.2 hne) (periodic_length hne)
  have hshort : ∀ block' k', xs = (List.replicate k' block').flatten →
      period xs ≤ block'.length := by
    intro block' k' h
    obtain ⟨hb, -, -, hp⟩ := periodic_copies hne h
    exact hmin _ hb hp
  constructor
  · rintro ⟨hcopies, hshortest⟩
    obtain ⟨-, hlen, htake, -⟩ := periodic_copies hne hcopies
    have heq : block.length = period xs := by
      refine le_antisymm ?_ (hshort _ _ hcopies)
      have := hshortest _ _ hper.2.symm
      rwa [List.length_take, Nat.min_eq_left hle] at this
    exact ⟨by rw [← heq, htake], by rw [hlen, heq, Nat.mul_div_cancel _ hpos]⟩
  · rintro ⟨rfl, rfl⟩
    refine ⟨hper.2.symm, fun block' k' h => ?_⟩
    rw [List.length_take, Nat.min_eq_left hle]
    exact hshort _ _ h

end Periods

/-! ### The pruned table -/

theorem mem_sortedNats {ns : List ℕ} {n : ℕ} : n ∈ sortedNats ns ↔ n ∈ ns := by
  rw [sortedNats, List.mem_mergeSort, List.mem_dedup]

theorem nodup_sortedNats (ns : List ℕ) : (sortedNats ns).Nodup :=
  (List.mergeSort_perm _ _).nodup_iff.2 (List.nodup_dedup ns)

/-- Different numbers below a bound are no more than the bound. -/
theorem length_sortedNats_le {ns : List ℕ} {n : ℕ} (h : ∀ i ∈ ns, i < n) :
    (sortedNats ns).length ≤ n := by
  have hsub : sortedNats ns ⊆ List.range n := fun i hi => List.mem_range.2 (h i (mem_sortedNats.1 hi))
  have hle := (List.subperm_of_subset (nodup_sortedNats ns) hsub).length_le
  rwa [List.length_range] at hle

theorem lookup_zipIdx {used : List ℕ} {c : ℕ} (hc : c ∈ used) (n : ℕ) :
    (used.zipIdx n).lookup c = some (n + used.idxOf c) := by
  induction used generalizing n with
  | nil => simp at hc
  | cons a used ih =>
      rw [List.zipIdx_cons, List.lookup_cons, List.idxOf_cons]
      by_cases hca : c = a
      · simp [hca]
      · have hne : (c == a) = false := by simpa using hca
        have hne' : (a == c) = false := by simpa using Ne.symm hca
        rw [hne, hne', ih ((List.mem_cons.1 hc).resolve_left hca)]
        simp only [cond_false]
        rw [Nat.add_assoc, Nat.add_comm 1]

theorem getKey_zipIdx {used : List ℕ} {c : ℕ} (hc : c ∈ used) :
    getKey used.zipIdx c = (.ok (used.idxOf c) : Except Fault ℕ) := by
  rw [getKey, lookup_zipIdx hc, Nat.zero_add]

section Pruned

variable {flut : List Bytes} {used : List ℕ} (hused : ∀ i ∈ used, i < flut.length)
include hused

/-- The entries that are used, in the order of their old indices. -/
theorem pruneLut_ok :
    used.mapM (index flut) = (.ok (used.map fun i => flut.getD i []) : Except Fault _) :=
  mapM_eq_ok fun i hi => index_getD (hused i hi)

theorem getElem?_pruned {i : ℕ} (hi : i ∈ used) :
    (used.map fun i => flut.getD i [])[used.idxOf i]? = flut[i]? := by
  rw [List.getElem?_map, List.getElem?_eq_getElem (List.idxOf_lt_length_iff.2 hi),
    List.getElem_idxOf, Option.map_some, List.getD_eq_getElem _ _ (hused i hi),
    List.getElem?_eq_getElem (hused i hi)]

/-- A code under its new number. -/
def newCode (used : List ℕ) (c : ℤ) : ℤ := if 0 ≤ c then used.idxOf c.toNat else c

omit hused in
theorem renumber_ok {c : ℤ} (hc : 0 ≤ c → c.toNat ∈ used) :
    renumber used.zipIdx c = .ok (newCode used c) := by
  unfold renumber newCode
  split
  · next hpos =>
      rw [getKey_zipIdx (hc hpos)]
      rfl
  · rfl

/-- A code stands for the same entry under its new number. -/
theorem entryOf_pruned {r : List ℕ} (hr : ∀ i ∈ r, i ∈ used) {c : ℤ} (hc : 0 ≤ c → c.toNat ∈ used) :
    entryOf (used.map fun i => flut.getD i []) (r.map used.idxOf) (newCode used c) =
      entryOf flut r c := by
  by_cases hpos : 0 ≤ c
  · have hnew : newCode used c = used.idxOf c.toNat := if_pos hpos
    rw [entryOf, entryOf, if_neg (by omega), if_neg (by omega), Option.bind_some, Option.bind_some,
      hnew, Int.toNat_natCast, getElem?_pruned hused (hc hpos)]
  · have hnew : newCode used c = c := if_neg hpos
    rw [hnew, entryOf, entryOf, if_pos (by omega), if_pos (by omega), List.getElem?_map]
    cases hget : r[(-c - 1).toNat]? with
    | none => rfl
    | some i => exact getElem?_pruned hused (hr i (List.mem_of_getElem? hget))

/-- **The pruned table and the renumbered template** give the same lines. -/
theorem fillTemplate_pruned {ftpl : List ℤ} (hcodes : ∀ c ∈ ftpl, 0 ≤ c → c.toNat ∈ used)
    {r : List ℕ} (hr : ∀ i ∈ r, i ∈ used) : ∀ blk,
      fillTemplate (used.map fun i => flut.getD i []) (ftpl.map (newCode used)) blk
        (r.map used.idxOf) = fillTemplate flut ftpl blk r := by
  induction ftpl with
  | nil => exact fun _ => rfl
  | cons c ftpl ih =>
      intro blk
      obtain ⟨hc, hcodes⟩ := List.forall_mem_cons.1 hcodes
      rw [fillTemplate, List.map_cons, List.foldlM_cons, entryOf_pruned hused hr hc, fillTemplate,
        List.foldlM_cons]
      refine bind_congr fun blk' => ?_
      exact ih hcodes blk'

end Pruned

/-! ### The instruction -/

theorem packBs_ok {ns : List ℕ} (h : ∀ n ∈ ns, n < 256) :
    ns.mapM (fun n : ℕ => packB n) = .ok (ns.map fun n => [UInt8.ofNat n]) :=
  mapM_eq_ok fun n hn => by rw [packB_eq, if_pos (h n hn)]

theorem packBs_error {ns : List ℕ} (h : ∃ n ∈ ns, ¬n < 256) :
    ns.mapM (fun n : ℕ => packB n) = .error (.builtin .structError) := by
  refine mapM_eq_error (fun n _ => ?_) ?_
  · rw [packB_eq]
    split
    · exact .inr ⟨_, rfl⟩
    · exact .inl rfl
  · obtain ⟨n, hn, hbig⟩ := h
    exact ⟨n, hn, by rw [packB_eq, if_neg hbig]⟩

theorem flatten_singletons (ns : List ℕ) :
    (ns.map fun n => [UInt8.ofNat n]).flatten = ns.map UInt8.ofNat := by
  rw [← List.flatMap_def, ← List.map_eq_flatMap]

/-- The operands of the instruction, behind its opcode. -/
def rowsCode (lid pid cc rep : ℕ) (recs : List (List ℕ)) : Bytes :=
  [1, UInt8.ofNat lid, UInt8.ofNat pid, UInt8.ofNat recs.length, UInt8.ofNat cc, UInt8.ofNat rep] ++
    recs.flatten.map UInt8.ofNat

/-- The instruction of the rows is read back, and appends the filled template as often as it says. -/
theorem rows_yield {luts : Luts} {tpls : Tpls} {lid pid : ℕ} (hlid : lid < 256) (hpid : pid < 256)
    {lut : List Bytes} {tpl : List ℤ} (hlut : luts.lookup lid = some lut)
    (htpl : tpls.lookup pid = some tpl) {cc rep : ℕ} (hcc : 1 ≤ cc ∧ cc < 256)
    (hrep : 1 ≤ rep ∧ rep < 256) {recs : List (List ℕ)} (hrc : 1 ≤ recs.length ∧ recs.length < 256)
    (hrecs : ∀ r ∈ recs, r.length = cc ∧ ∀ i ∈ r, i < 256) {block : Bytes}
    (hfill : recs.foldlM (fillTemplate lut tpl) [] = some block) :
    Yields luts tpls (rowsCode lid pid cc rep recs) 1 (mulBytes block rep) := by
  have hbyte : ∀ n s, n < 256 → byte.run (UInt8.ofNat n :: s) = some (n, s) := by
    intro n s hn
    have h := byte_cons (UInt8.ofNat n) s
    rwa [toNat_ofNat hn] at h
  have hrec : ∀ r ∈ recs, ∀ s,
      (several cc byte).run (r.map UInt8.ofNat ++ s) = some (id r, s) := by
    intro r hr s
    obtain ⟨hlen, hsmall⟩ := hrecs r hr
    have hread := several_map byte (fun n => [UInt8.ofNat n]) id r
      (fun n hn s => hbyte n s (hsmall n hn)) s
    rwa [hlen, flatten_singletons, List.map_id] at hread
  have hread : ∀ s, instr.run (rowsCode lid pid cc rep recs ++ s) =
      some (.templateSeq lid pid cc rep recs, s) := by
    intro s
    have hrows := several_map (several cc byte) (fun r : List ℕ => r.map UInt8.ofNat) id recs hrec s
    rw [List.map_id, ← List.map_flatten] at hrows
    simp only [rowsCode, instr, run_bind_eq_some_iff, List.cons_append, List.nil_append]
    refine ⟨1, _, byte_cons 1 _, ?_⟩
    simp only [operands, run_bind_eq_some_iff, run_guard_eq_some_iff, run_pure_eq_some_iff]
    exact ⟨_, _, hbyte _ _ hlid, _, _, hbyte _ _ hpid, _, _, hbyte _ _ hrc.2, _, _,
      hbyte _ _ hcc.2, _, _, hbyte _ _ hrep.2, (), _, ⟨⟨hrc.1, hcc.1, hrep.1⟩, rfl⟩, recs, s, hrows,
      rfl, rfl⟩
  have h : Yields luts tpls _ 1 (mulBytes block rep ++ []) := .cons hread
    (fun co => by
      simp only [Instr.exec, hlut, htpl, hfill, Option.bind_eq_bind, Option.bind_some,
        Option.pure_def]) (.nil luts tpls)
  simpa using h

/-- An instruction without variables is refused: its records would be empty. -/
theorem decode_no_variables (Z : Zlib) (d : Decoder) (lid pid rep : ℕ) (recs : List (List ℕ)) :
    ∀ out d', (decode Z ([0x8D, 1, 1, 1] ++ rowsCode lid pid 0 rep recs)).run d ≠ .ok out d' := by
  intro out d' hrun
  obtain ⟨chs, s, hread, -⟩ := (decode_warm_iff Z (by rfl)).1 ⟨d', hrun⟩
  have hcons : ∀ (b : UInt8) (t u : Bytes) (n : ℕ),
      byte.run (b :: t) = some (n, u) ↔ n = b.toNat ∧ u = t := by
    intro b t u n
    rw [byte_cons, Option.some.injEq, Prod.mk.injEq]
    exact and_congr eq_comm eq_comm
  simp only [program, run_bind_eq_some_iff, rowsCode, List.cons_append, List.nil_append, hcons,
    run_guard_eq_some_iff] at hread
  obtain ⟨_, _, ⟨rfl, rfl⟩, _, _, ⟨rfl, rfl⟩, _, _, ⟨-, rfl⟩, is, t, hchs, -⟩ := hread
  simp only [show ((1 : UInt8).toNat) = 1 from rfl, channels, channel, run_bind_eq_some_iff, hcons,
    run_guard_eq_some_iff] at hchs
  obtain ⟨_, _, ⟨_, _, ⟨rfl, rfl⟩, _, _, ⟨rfl, rfl⟩, _, _, ⟨-, rfl⟩, hops⟩, -⟩ := hchs
  simp only [show ((1 : UInt8).toNat) = 1 from rfl, several, instr, run_bind_eq_some_iff,
    hcons] at hops
  obtain ⟨_, _, ⟨_, _, ⟨rfl, rfl⟩, hop⟩, -⟩ := hops
  simp only [operands, run_bind_eq_some_iff, hcons,
    run_guard_eq_some_iff] at hop
  obtain ⟨_, _, ⟨rfl, rfl⟩, _, _, ⟨rfl, rfl⟩, _, _, ⟨rfl, rfl⟩, _, _, ⟨rfl, rfl⟩, _, _, ⟨rfl, rfl⟩, _,
    _, ⟨⟨-, hcc, -⟩, -⟩, -⟩ := hop
  simp at hcc

/-! ### What becomes of the rows -/

/-- The entries that a template and some rows use. -/
def usedEntries (ftpl : List ℤ) (urows : List (List ℕ)) : List ℕ :=
  sortedNats ((ftpl.filter (0 ≤ ·)).map Int.toNat ++ urows.flatten)

theorem code_mem_usedEntries {ftpl : List ℤ} (urows : List (List ℕ)) {c : ℤ} (hc : c ∈ ftpl)
    (hpos : 0 ≤ c) : c.toNat ∈ usedEntries ftpl urows :=
  mem_sortedNats.2 (List.mem_append_left _
    (List.mem_map_of_mem (List.mem_filter.2 ⟨hc, by simpa using hpos⟩)))

theorem value_mem_usedEntries (ftpl : List ℤ) {urows : List (List ℕ)} {r : List ℕ} (hr : r ∈ urows)
    {i : ℕ} (hi : i ∈ r) : i ∈ usedEntries ftpl urows :=
  mem_sortedNats.2 (List.mem_append_right _ (List.mem_flatten.2 ⟨r, hr, hi⟩))

/-- The entries that are used, in the order of their old indices. -/
def prunedLut (flut : List Bytes) (ftpl : List ℤ) (urows : List (List ℕ)) : List Bytes :=
  (usedEntries ftpl urows).map fun i => flut.getD i []

/-- The template over the pruned table. -/
def newTpl (ftpl : List ℤ) (urows : List (List ℕ)) : List ℤ :=
  ftpl.map (newCode (usedEntries ftpl urows))

/-- The rows over the pruned table. -/
def newRows (ftpl : List ℤ) (urows : List (List ℕ)) : List (List ℕ) :=
  urows.map fun r => r.map (usedEntries ftpl urows).idxOf

section Rows

variable {flut : List Bytes} {ftpl : List ℤ} (h : TemplateOver flut ftpl)
  {lines : List Bytes} {rows : List (List ℕ)}
  (hrows : lines.mapM (matchLine flut ftpl (vslots ftpl).length) = .ok rows)
include h hrows

theorem row_spec : ∀ r ∈ rows, r.length = (vslots ftpl).length ∧ ∀ v ∈ r, v < flut.length := by
  intro r hr
  obtain ⟨l, -, hl⟩ := (mem_of_mapM hrows).1 hr
  obtain ⟨-, hlen, hlt, -⟩ := matchLine_spec h hl
  exact ⟨hlen, hlt⟩

/-- The template, filled with the first rows, is the first lines. -/
theorem fill_rows (k : ℕ) : ∀ blk,
    (rows.take k).foldlM (fillTemplate flut ftpl) blk = some (blk ++ (lines.take k).flatten) := by
  have hall := forall₂_of_mapM hrows
  clear hrows
  induction hall generalizing k with
  | nil => simp
  | @cons l r lines rows hl _ ih =>
      intro blk
      cases k with
      | zero => simp
      | succ k =>
          obtain ⟨-, -, -, hfill⟩ := matchLine_spec h hl
          rw [List.take_succ_cons, List.take_succ_cons, List.foldlM_cons, hfill,
            List.flatten_cons, ← List.append_assoc]
          exact ih k _

/-- A row determines its line, and is determined by it: the rows have the period of the lines. -/
theorem period_rows (hne : lines ≠ []) :
    rows.length = lines.length ∧ period rows = period lines := by
  have hmaps : rows = lines.map (fun l =>
      (matchLine flut ftpl (vslots ftpl).length l).toOption.getD []) ∧
      lines = rows.map fun r => (fillTemplate flut ftpl [] r).getD [] := by
    have hall := forall₂_of_mapM hrows
    clear hne hrows
    induction hall with
    | nil => exact ⟨rfl, rfl⟩
    | @cons l r lines rows hl _ ih =>
        obtain ⟨-, -, -, hfill⟩ := matchLine_spec h hl
        constructor
        · rw [List.map_cons, hl, ← ih.1]
          rfl
        · rw [List.map_cons, hfill, ← ih.2]
          rfl
  obtain ⟨hto, hfrom⟩ := hmaps
  refine ⟨by rw [hto, List.length_map], ?_⟩
  nth_rewrite 1 [hto]
  exact period_map (by rw [← hto]; exact hfrom.symm) hne

/-- The entries that the template and the first rows use are entries of the table. -/
theorem usedEntries_lt (k : ℕ) : ∀ i ∈ usedEntries ftpl (rows.take k), i < flut.length := by
  intro i hi
  rcases List.mem_append.1 (mem_sortedNats.1 hi) with hi | hi
  · obtain ⟨c, hc, rfl⟩ := List.mem_map.1 hi
    obtain ⟨hc, hpos⟩ := List.mem_filter.1 hc
    exact h.codes c hc (by simpa using hpos)
  · obtain ⟨r, hr, hi⟩ := List.mem_flatten.1 hi
    exact (row_spec h hrows r (List.mem_of_mem_take hr)).2 i hi

/-- A renumbered row has as many values as there are variables, all of them entries of the pruned
table. -/
theorem newRows_spec (k : ℕ) : ∀ r ∈ newRows ftpl (rows.take k),
    r.length = (vslots ftpl).length ∧ ∀ i ∈ r, i < flut.length := by
  intro r hr
  obtain ⟨s, hs, rfl⟩ := List.mem_map.1 hr
  refine ⟨by rw [List.length_map, (row_spec h hrows s (List.mem_of_mem_take hs)).1], fun i hi => ?_⟩
  obtain ⟨j, hj, rfl⟩ := List.mem_map.1 hi
  have hlt := List.idxOf_lt_length_iff.2 (value_mem_usedEntries ftpl hs hj)
  have hle : (usedEntries ftpl (rows.take k)).length ≤ flut.length :=
    length_sortedNats_le fun i hi => usedEntries_lt h hrows k i (mem_sortedNats.2 hi)
  omega

/-- The renumbered template, filled with the renumbered rows, is the first lines. -/
theorem fill_newRows (k : ℕ) :
    (newRows ftpl (rows.take k)).foldlM
      (fillTemplate (prunedLut flut ftpl (rows.take k)) (newTpl ftpl (rows.take k))) [] =
        some (lines.take k).flatten := by
  have hfill : ∀ (us : List (List ℕ)), (∀ r ∈ us, r ∈ rows.take k) → ∀ blk,
      (us.map fun r => r.map (usedEntries ftpl (rows.take k)).idxOf).foldlM
        (fillTemplate (prunedLut flut ftpl (rows.take k)) (newTpl ftpl (rows.take k))) blk =
          us.foldlM (fillTemplate flut ftpl) blk := by
    intro us
    induction us with
    | nil => exact fun _ _ => rfl
    | cons r us ih =>
        intro hus blk
        obtain ⟨hr, hus⟩ := List.forall_mem_cons.1 hus
        rw [List.map_cons, List.foldlM_cons, List.foldlM_cons, prunedLut, newTpl,
          fillTemplate_pruned (usedEntries_lt h hrows k)
            (fun c hc => code_mem_usedEntries _ hc) fun i hi => value_mem_usedEntries ftpl hr hi]
        exact bind_congr fun blk' => ih hus blk'
  rw [newRows, hfill _ fun _ hr => hr, fill_rows h hrows k, List.nil_append]

/-- The encoder on the rows, with the renumbering carried out. -/
theorem encodeRows_eq (Z : Zlib) (tid lid pid : ℕ) (raw : Bytes) (hne : lines ≠ []) :
    encodeRows Z tid lid pid raw flut ftpl (vslots ftpl).length rows = (do
      let urows := rows.take (period lines)
      let recs := newRows ftpl urows
      let cw ← ([tid, 1, 1, lid, pid, recs.length, (vslots ftpl).length,
        lines.length / period lines] ++ recs.flatten).mapM fun n : ℕ => packB n
      let (out, _) ← callOn (decode Z ([0x8D, 1, 1, 1] ++ cw.flatten.drop 2))
        ⟨[(lid, prunedLut flut ftpl urows)], [(pid, newTpl ftpl urows)], 0⟩
      let got ← getKey out 1
      if got ≠ raw then .error (.builtin .valueError)
      else pure ⟨cw.flatten, prunedLut flut ftpl urows, newTpl ftpl urows,
        flut.length - (prunedLut flut ftpl urows).length⟩) := by
  obtain ⟨hlen, hperiod⟩ := period_rows h hrows hne
  have hused := usedEntries_lt h hrows (period lines)
  have htpl : ftpl.mapM (renumber (usedEntries ftpl (rows.take (period lines))).zipIdx) =
      .ok (newTpl ftpl (rows.take (period lines))) :=
    mapM_eq_ok fun c hc => renumber_ok fun hpos => code_mem_usedEntries _ hc hpos
  have hrecs : (rows.take (period lines)).mapM (fun r =>
      r.mapM (getKey (usedEntries ftpl (rows.take (period lines))).zipIdx)) =
        (.ok (newRows ftpl (rows.take (period lines))) : Except Fault _) :=
    mapM_eq_ok fun r hr => mapM_eq_ok fun i hi => getKey_zipIdx (value_mem_usedEntries ftpl hr hi)
  have hlut := pruneLut_ok hused
  unfold encodeRows
  simp only [hperiod, hlen]
  rw [show sortedNats ((ftpl.filter (0 ≤ ·)).map Int.toNat ++
    (rows.take (period lines)).flatten) = usedEntries ftpl (rows.take (period lines)) from rfl,
    hlut, ok_bind, htpl, ok_bind, hrecs, ok_bind]
  rfl

end Rows

/-- The bytes of the channel: its id, one instruction, and the operands. -/
theorem flatten_packed (tid lid pid cc rep : ℕ) (recs : List (List ℕ)) :
    (([tid, 1, 1, lid, pid, recs.length, cc, rep] ++ recs.flatten).map
      fun n => [UInt8.ofNat n]).flatten =
        [UInt8.ofNat tid, 1] ++ rowsCode lid pid cc rep recs := by
  rw [flatten_singletons]
  rfl

/-- A decoder that has the table and the template of a result decodes its channel to `raw`. -/
def DecodesTo (Z : Zlib) (lid pid : ℕ) (r : TemplateChannel) (raw : Bytes) : Prop :=
  ∀ d : Decoder, d.luts.lookup lid = some r.plut → d.tpls.lookup pid = some r.rtpl →
    ∃ d', (decode Z ([0x8D, 1] ++ r.channel)).run d = .ok [(1, raw)] d'

/-- The three numbers of the instruction fit their bytes. -/
def Packs (lines : List Bytes) (nvars : ℕ) : Prop :=
  period lines ≤ 255 ∧ lines.length / period lines ≤ 255 ∧ nvars ≤ 255

theorem own_of_decode (Z : Zlib) {pkt : Bytes} {d : Decoder} {e : Fault}
    (h : callOn (decode Z pkt) d = .error e) : ∃ code, e = .own code := by
  unfold callOn at h
  cases hrun : (decode Z pkt).run d with
  | ok out d' => simp [hrun] at h
  | error e' d' =>
      obtain rfl : e' = e := by simpa [hrun] using h
      exact (decode_error Z hrun).2

section Cases

variable (Z : Zlib) {lid pid : ℕ} (hlid : lid < 256) (hpid : pid < 256) {flut : List Bytes}
  (hcount : flut.length ≤ 255) {ftpl : List ℤ} (h : TemplateOver flut ftpl) {raw : Bytes}
  (hraw : raw ≠ []) {rows : List (List ℕ)}
  (hrows : (splitlines raw).mapM (matchLine flut ftpl (vslots ftpl).length) = .ok rows)
include h hraw hrows

/-- The shortened rows are as many as the period says. -/
theorem length_newRows :
    (newRows ftpl (rows.take (period (splitlines raw)))).length = period (splitlines raw) := by
  have hne := splitlines_ne_nil hraw
  have hle : period (splitlines raw) ≤ (splitlines raw).length :=
    (period_spec hne).2.2 _ (List.length_pos_iff.2 hne) (periodic_length hne)
  rw [newRows, List.length_map, List.length_take, (period_rows h hrows hne).1, Nat.min_eq_left hle]

/-- A number that does not fit its byte is the exception of `struct.pack`. -/
theorem encodeRows_too_large (hbig : ¬Packs (splitlines raw) (vslots ftpl).length) :
    encodeRows Z 1 lid pid raw flut ftpl (vslots ftpl).length rows =
      .error (.builtin .structError) := by
  rw [encodeRows_eq h hrows Z 1 lid pid raw (splitlines_ne_nil hraw)]
  simp only [length_newRows h hraw hrows]
  rw [packBs_error, error_bind]
  by_contra hcon
  refine hbig ⟨?_, ?_, ?_⟩
  · by_contra hlt
    exact hcon ⟨period (splitlines raw), by simp, by omega⟩
  · by_contra hlt
    exact hcon ⟨(splitlines raw).length / period (splitlines raw), by simp, by omega⟩
  · by_contra hlt
    exact hcon ⟨(vslots ftpl).length, by simp, by omega⟩

include hlid hpid hcount

/-- The numbers that fit are packed. -/
theorem pack_newRows (hfit : Packs (splitlines raw) (vslots ftpl).length) :
    ([1, 1, 1, lid, pid, (newRows ftpl (rows.take (period (splitlines raw)))).length,
      (vslots ftpl).length, (splitlines raw).length / period (splitlines raw)] ++
        (newRows ftpl (rows.take (period (splitlines raw)))).flatten).mapM
          (fun n : ℕ => packB n) =
      .ok (([1, 1, 1, lid, pid, (newRows ftpl (rows.take (period (splitlines raw)))).length,
        (vslots ftpl).length, (splitlines raw).length / period (splitlines raw)] ++
          (newRows ftpl (rows.take (period (splitlines raw)))).flatten).map
            fun n => [UInt8.ofNat n]) := by
  refine packBs_ok fun n hn => ?_
  obtain ⟨hper, hrep, hvars⟩ := hfit
  rw [length_newRows h hraw hrows] at hn
  rcases List.mem_append.1 hn with hn | hn
  · simp only [List.mem_cons, List.not_mem_nil, or_false] at hn
    omega
  · obtain ⟨r, hr, hi⟩ := List.mem_flatten.1 hn
    have := (newRows_spec h hrows _ r hr).2 n hi
    omega

/-- A template without variables is held by the decoder it is checked with. -/
theorem encodeRows_no_variables (hfit : Packs (splitlines raw) (vslots ftpl).length)
    (hzero : (vslots ftpl).length = 0) :
    ∃ code, encodeRows Z 1 lid pid raw flut ftpl (vslots ftpl).length rows =
      .error (.own code) := by
  rw [encodeRows_eq h hrows Z 1 lid pid raw (splitlines_ne_nil hraw)]
  simp only [pack_newRows hlid hpid hcount h hraw hrows hfit, ok_bind, flatten_packed]
  cases hdec : callOn (decode Z ([0x8D, 1, 1, 1] ++
      ([UInt8.ofNat 1, 1] ++ rowsCode lid pid (vslots ftpl).length
        ((splitlines raw).length / period (splitlines raw))
        (newRows ftpl (rows.take (period (splitlines raw))))).drop 2))
      ⟨[(lid, prunedLut flut ftpl (rows.take (period (splitlines raw))))],
        [(pid, newTpl ftpl (rows.take (period (splitlines raw))))], 0⟩ with
  | ok p =>
      rw [hzero] at hdec
      exact absurd (callOn_eq_ok.1 hdec) (decode_no_variables Z _ _ _ _ _ _ _)
  | error e =>
      obtain ⟨code, rfl⟩ := own_of_decode Z hdec
      exact ⟨code, rfl⟩

/-- **The template form.**  When the numbers fit and there is a variable, the channel is returned,
and decoded to what was encoded. -/
theorem encodeRows_ok (hfit : Packs (splitlines raw) (vslots ftpl).length)
    (hpos : 1 ≤ (vslots ftpl).length) :
    ∃ r, encodeRows Z 1 lid pid raw flut ftpl (vslots ftpl).length rows = .ok r ∧
      DecodesTo Z lid pid r raw := by
  have hne := splitlines_ne_nil hraw
  obtain ⟨hper, hperiodic, hmin⟩ := period_spec hne
  have hle : period (splitlines raw) ≤ (splitlines raw).length :=
    hmin _ (List.length_pos_iff.2 hne) (periodic_length hne)
  obtain ⟨hper', hrep', hvars⟩ := hfit
  have hout : mulBytes ((splitlines raw).take (period (splitlines raw))).flatten
      ((splitlines raw).length / period (splitlines raw)) = raw := by
    rw [mulBytes, ← List.map_replicate, ← List.flatten_flatten, hperiodic.2, flatten_splitlines]
  have hyields : ∀ (luts : Luts) (tpls : Tpls),
      luts.lookup lid = some (prunedLut flut ftpl (rows.take (period (splitlines raw)))) →
      tpls.lookup pid = some (newTpl ftpl (rows.take (period (splitlines raw)))) →
      Yields luts tpls (rowsCode lid pid (vslots ftpl).length
        ((splitlines raw).length / period (splitlines raw))
        (newRows ftpl (rows.take (period (splitlines raw))))) 1 raw := by
    intro luts tpls hlut htpl
    have hlength : 1 ≤ (newRows ftpl (rows.take (period (splitlines raw)))).length ∧
        (newRows ftpl (rows.take (period (splitlines raw)))).length < 256 := by
      rw [length_newRows h hraw hrows]
      omega
    have hy := rows_yield hlid hpid hlut htpl ⟨hpos, by omega⟩ ⟨Nat.div_pos hle hper, by omega⟩ hlength
      (fun r hr => by
        obtain ⟨hlen, hlt⟩ := newRows_spec h hrows _ r hr
        exact ⟨hlen, fun i hi => by have := hlt i hi; omega⟩)
      (fill_newRows h hrows _)
    rwa [hout] at hy
  obtain ⟨d', hrun⟩ := decode_one_channel Z le_rfl (by decide)
    (d := ⟨[(lid, prunedLut flut ftpl (rows.take (period (splitlines raw))))],
      [(pid, newTpl ftpl (rows.take (period (splitlines raw))))], 0⟩)
    (hyields _ _ (by simp) (by simp))
  refine ⟨⟨[1, 1] ++ rowsCode lid pid (vslots ftpl).length
    ((splitlines raw).length / period (splitlines raw))
    (newRows ftpl (rows.take (period (splitlines raw)))),
    prunedLut flut ftpl (rows.take (period (splitlines raw))),
    newTpl ftpl (rows.take (period (splitlines raw))),
    flut.length - (prunedLut flut ftpl (rows.take (period (splitlines raw)))).length⟩, ?_, ?_⟩
  · rw [encodeRows_eq h hrows Z 1 lid pid raw hne]
    simp only [pack_newRows hlid hpid hcount h hraw hrows ⟨hper', hrep', hvars⟩, ok_bind,
      flatten_packed]
    have hcall := callOn_eq_ok.2 hrun
    have hpacket : ([0x8D, 1, 1, 1] : Bytes) ++ ([UInt8.ofNat 1, 1] ++
        rowsCode lid pid (vslots ftpl).length
          ((splitlines raw).length / period (splitlines raw))
          (newRows ftpl (rows.take (period (splitlines raw))))).drop 2 =
        [0x8D, 1] ++ ([1, UInt8.ofNat 1] ++ rowsCode lid pid (vslots ftpl).length
          ((splitlines raw).length / period (splitlines raw))
          (newRows ftpl (rows.take (period (splitlines raw))))) := rfl
    rw [hpacket, hcall]
    simp [getKey, pure, Except.pure]
  · intro d hlut htpl
    exact decode_one_channel Z le_rfl (by decide) (hyields _ _ hlut htpl)

end Cases

/-! ### Which channels survive -/

/-- The literal form is decoded to what was encoded. -/
theorem encodeLiteral_ok (Z : Zlib) (lid pid : ℕ) (flut : List Bytes) {raw : Bytes}
    (hraw : raw ≠ []) (hlen : raw.length ≤ 65535) :
    ∃ r, encodeLiteral 1 raw flut = .ok r ∧ DecodesTo Z lid pid r raw := by
  refine ⟨⟨[1] ++ [1, 6] ++ wordBytes raw.length ++ raw, [[0]], [0], flut.length⟩, ?_,
    fun d _ _ => ?_⟩
  · rw [encodeLiteral, packB_eq, if_pos (by decide), ok_bind, packH_eq, if_pos (by omega), ok_bind]
    rfl
  · obtain ⟨i, hread, hexec⟩ := emits_rawLiteral (List.length_pos_iff.2 hraw)
      (show raw.length < 65536 by omega)
    have hy := Yields.cons hread (fun co => hexec d.luts d.tpls co) (.nil d.luts d.tpls)
    rw [List.append_nil, List.append_nil] at hy
    have hdec := decode_one_channel Z le_rfl (by decide) hy
    simpa using hdec

/-- The channel is encoded, and a decoder that has the table and the template that are returned with
it decodes it to what was encoded. -/
def TemplateRoundTrip (Z : Zlib) (lid pid : ℕ) (raw : Bytes) (flut : List Bytes)
    (ftpl : List ℤ) : Prop :=
  ∃ r, encodeTemplateChannelWithPruning Z 1 lid pid raw flut ftpl = .ok r ∧
    DecodesTo Z lid pid r raw

section RoundTrip

variable (Z : Zlib) {flut : List Bytes} {ftpl : List ℤ} (h : TemplateOver flut ftpl) {raw : Bytes}
  (hraw : raw ≠ [])
include h hraw

/-- A line that does not fit sends the channel to the literal form. -/
theorem encode_of_not_fits (lid pid : ℕ) (hline : ∃ l ∈ splitlines raw, ¬LineFits flut ftpl l) :
    encodeTemplateChannelWithPruning Z 1 lid pid raw flut ftpl = encodeLiteral 1 raw flut := by
  have hrows : (splitlines raw).mapM (matchLine flut ftpl (vslots ftpl).length) =
      .error (.builtin .valueError) := by
    refine mapM_eq_error (fun l _ => ?_) ?_
    · cases hl : matchLine flut ftpl (vslots ftpl).length l with
      | ok row => exact .inr ⟨row, rfl⟩
      | error e => exact .inl (by rw [raises_matchLine h l e hl])
    · obtain ⟨l, hmem, hnot⟩ := hline
      refine ⟨l, hmem, ?_⟩
      cases hl : matchLine flut ftpl (vslots ftpl).length l with
      | ok row => exact absurd ((matchLine_ok_iff h l).1 ⟨row, hl⟩) hnot
      | error e => rw [raises_matchLine h l e hl]
  rw [encodeTemplateChannelWithPruning, raiseIf_neg (not_not_intro h.slots), ok_bind,
    raiseIf_neg (splitlines_ne_nil hraw), ok_bind, hrows]
  rfl

/-- When every line fits, the rows decide. -/
theorem encode_of_fits (lid pid : ℕ) (hlines : ∀ l ∈ splitlines raw, LineFits flut ftpl l) :
    ∃ rows, (splitlines raw).mapM (matchLine flut ftpl (vslots ftpl).length) = .ok rows ∧
      ∀ x, encodeRows Z 1 lid pid raw flut ftpl (vslots ftpl).length rows = x →
        x ≠ .error (.builtin .valueError) →
        encodeTemplateChannelWithPruning Z 1 lid pid raw flut ftpl = x := by
  obtain ⟨rows, hrows⟩ := exists_mapM_ok_iff.2 fun l hl => (matchLine_ok_iff h l).2 (hlines l hl)
  refine ⟨rows, hrows, fun x hx hne => ?_⟩
  rw [encodeTemplateChannelWithPruning, raiseIf_neg (not_not_intro h.slots), ok_bind,
    raiseIf_neg (splitlines_ne_nil hraw), ok_bind, hrows, ok_bind, hx]
  dsimp only
  split
  · exact absurd rfl hne
  · rfl

/-- **Which channels survive the round trip.**  A channel is encoded, and decoded to itself, exactly
when a line does not fit the template, or the template has 1 to 255 variables and the shortest block
of lines that the channel repeats has at most 255 lines and is repeated at most 255 times. -/
theorem encodeTemplateChannel_iff {lid pid : ℕ} (hlid : lid < 256) (hpid : pid < 256)
    (hcount : flut.length ≤ 255) (hlen : raw.length ≤ 65535) :
    TemplateRoundTrip Z lid pid raw flut ftpl ↔
      (∃ l ∈ splitlines raw, ¬LineFits flut ftpl l) ∨
        (1 ≤ (vslots ftpl).length ∧ (vslots ftpl).length ≤ 255 ∧
          ∃ block k, ShortestBlock (splitlines raw) block k ∧ block.length ≤ 255 ∧ k ≤ 255) := by
  have hne := splitlines_ne_nil hraw
  have hle : period (splitlines raw) ≤ (splitlines raw).length :=
    (period_spec hne).2.2 _ (List.length_pos_iff.2 hne) (periodic_length hne)
  have hblock : (∃ block k, ShortestBlock (splitlines raw) block k ∧ block.length ≤ 255 ∧ k ≤ 255) ↔
      period (splitlines raw) ≤ 255 ∧ (splitlines raw).length / period (splitlines raw) ≤ 255 := by
    simp only [shortestBlock_iff hne]
    constructor
    · rintro ⟨_, _, ⟨rfl, rfl⟩, hb, hk⟩
      rw [List.length_take, Nat.min_eq_left hle] at hb
      exact ⟨hb, hk⟩
    · rintro ⟨hb, hk⟩
      refine ⟨_, _, ⟨rfl, rfl⟩, ?_, hk⟩
      rwa [List.length_take, Nat.min_eq_left hle]
  rw [hblock]
  by_cases hline : ∃ l ∈ splitlines raw, ¬LineFits flut ftpl l
  · refine iff_of_true ?_ (.inl hline)
    rw [TemplateRoundTrip, encode_of_not_fits Z h hraw lid pid hline]
    exact encodeLiteral_ok Z lid pid flut hraw hlen
  · have hlines : ∀ l ∈ splitlines raw, LineFits flut ftpl l := by
      intro l hl
      by_contra hnot
      exact hline ⟨l, hl, hnot⟩
    obtain ⟨rows, hrows, hencode⟩ := encode_of_fits Z h hraw lid pid hlines
    rw [or_iff_right hline]
    by_cases hfit : Packs (splitlines raw) (vslots ftpl).length
    · by_cases hpos : 1 ≤ (vslots ftpl).length
      · obtain ⟨r, hr, hdec⟩ := encodeRows_ok Z hlid hpid hcount h hraw hrows hfit hpos
        exact iff_of_true ⟨r, hencode _ hr (by simp), hdec⟩ ⟨hpos, hfit.2.2, hfit.1, hfit.2.1⟩
      · obtain ⟨code, hcode⟩ := encodeRows_no_variables Z hlid hpid hcount h hraw hrows hfit (by omega)
        refine iff_of_false ?_ fun hc => hpos hc.1
        rintro ⟨r, hr, -⟩
        rw [hencode _ hcode (by simp)] at hr
        simp at hr
    · refine iff_of_false ?_ fun hc => hfit ⟨hc.2.2.1, hc.2.2.2, hc.2.1⟩
      rintro ⟨r, hr, -⟩
      rw [hencode _ (encodeRows_too_large Z h hraw hrows hfit) (by simp)] at hr
      simp at hr

end RoundTrip

/-- Two lines that differ in the value of a variable. -/
theorem encodeTemplateChannel_iff_sample :
    TemplateRoundTrip .refusing 1 1 [97, 98, 10, 97, 99, 10] [[97], [10], [98], [99]] [0, -1, 1] := by
  have hslots : vslots [0, -1, 1] = [0] := by
    simp [vslots, sortedNats, slot]
  refine (encodeTemplateChannel_iff .refusing ⟨by decide, by rw [hslots]; rfl⟩ (by decide) (by decide)
    (by decide) (by decide) (by decide)).2 (.inr ?_)
  rw [hslots]
  exact ⟨by decide, by decide, _, _, (shortestBlock_iff (by decide) _ _).2 ⟨rfl, rfl⟩, by decide,
    by decide⟩

/-- A template without variables and the one line that it is: the rows are empty, the decoder holds
the instruction, and its hold is not what the fallback catches. -/
theorem encodeTemplateChannel_no_variables :
    ¬∀ (flut : List Bytes) (ftpl : List ℤ) (raw : Bytes), 1 ≤ flut.length → flut.length ≤ 255 →
      (∀ e ∈ flut, 1 ≤ e.length ∧ e.length ≤ 255) → TemplateOver flut ftpl → raw ≠ [] →
        raw.length ≤ 65535 → TemplateRoundTrip .refusing 1 1 raw flut ftpl := by
  intro hall
  have hslots : vslots [0] = [] := by simp [vslots, sortedNats]
  have h : TemplateOver [[97, 10]] [0] := ⟨by decide, by rw [hslots]; rfl⟩
  have hraw : ([97, 10] : Bytes) ≠ [] := by decide
  have hlines : ∀ l ∈ splitlines [97, 10], LineFits [[97, 10]] [0] l := by
    intro l hl
    obtain rfl : l = [97, 10] := by simpa [splitlines] using hl
    exact ⟨[], Derives.entry (c := 0) le_rfl .nil, by simp⟩
  obtain ⟨rows, hrows, hencode⟩ := encode_of_fits .refusing h hraw 1 1 hlines
  obtain ⟨code, hcode⟩ := encodeRows_no_variables .refusing (show 1 < 256 by decide) (show 1 < 256 by decide)
    (by decide) h hraw hrows ⟨by decide, by decide, by rw [hslots]; decide⟩ (by rw [hslots]; rfl)
  obtain ⟨r, hr, -⟩ := hall [[97, 10]] [0] [97, 10] (by decide) (by decide) (by decide) h hraw
    (by decide)
  rw [hencode _ hcode (by simp)] at hr
  simp at hr

end OriginCell
