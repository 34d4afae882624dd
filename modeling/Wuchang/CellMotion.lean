/-
**A motion channel is decoded to the bytes it was made from.**

The encoder writes instructions of the language of origin cell programs, and the decoder is known
to read instructions and to execute them.  So every piece the encoder writes is described by the
instructions it is read back as and by what these make of the output so far; pieces are then put
together in the order in which they were written.  The size bound rides along: the operations
written so far, with the patches that are still owed, never cost more than literals would.

Main definitions:

* `OriginCell.Emits` — some bytes are read as one instruction, which appends given bytes;
* `OriginCell.Runs` — some bytes are read as instructions that turn one output into another.

Main results:

* `OriginCell.candidates_ok` — every candidate for a segment yields the bytes it claims;
* `OriginCell.encodeSegs_spec`, `OriginCell.encodeBatches_spec` — the two loops of the encoder;
* `OriginCell.motion_channel_round_trip` — channels are decoded to what was encoded, in few bytes.
-/

import Wuchang.CellGate
import Wuchang.CellEncoder

set_option relaxedAutoImplicit false
set_option autoImplicit false

namespace OriginCell

open Py

/-! ### Slices -/

section Chunks

variable {α β : Type} {n : ℕ}

theorem chunksOf_nil (hn : 0 < n) : chunksOf n ([] : List α) = [] := by
  simp only [chunksOf, List.length_nil, Nat.div_eq_of_lt (by omega : 0 + n - 1 < n),
    List.range_zero, List.map_nil]

theorem chunksOf_cons (hn : 0 < n) {xs : List α} (hxs : xs ≠ []) :
    chunksOf n xs = xs.take n :: chunksOf n (xs.drop n) := by
  have hlen : 0 < xs.length := List.length_pos_iff.2 hxs
  have hcount : (xs.length + n - 1) / n = ((xs.drop n).length + n - 1) / n + 1 := by
    rw [List.length_drop]
    by_cases h : n ≤ xs.length
    · rw [show xs.length + n - 1 = xs.length - n + n - 1 + n by omega, Nat.add_div_right _ hn]
    · rw [show xs.length - n + n - 1 = n - 1 by omega, Nat.div_eq_of_lt (by omega : n - 1 < n),
        show xs.length + n - 1 = xs.length - 1 + n by omega, Nat.add_div_right _ hn,
        Nat.div_eq_of_lt (by omega)]
  simp only [chunksOf, hcount, List.range_succ_eq_map, List.map_cons, List.map_map, Nat.zero_mul,
    List.drop_zero]
  refine congrArg _ (List.map_congr_left fun k _ => ?_)
  simp only [Function.comp_apply, List.drop_drop, Nat.succ_mul, Nat.add_comm]

/-- A property of lists is proved by cutting off the first slice. -/
theorem chunks_induction (hn : 0 < n) {P : List α → Prop} (nil : P [])
    (cons : ∀ xs, xs ≠ [] → P (xs.drop n) → P xs) (xs : List α) : P xs := by
  induction h : xs.length using Nat.strong_induction_on generalizing xs with
  | _ m ih =>
      by_cases hxs : xs = []
      · rwa [hxs]
      · have hlen : 0 < xs.length := List.length_pos_iff.2 hxs
        exact cons xs hxs (ih _ (by rw [← h, List.length_drop]; omega) _ rfl)

theorem flatten_chunksOf (hn : 0 < n) (xs : List α) : (chunksOf n xs).flatten = xs := by
  induction xs using chunks_induction hn with
  | nil => simp [chunksOf_nil hn]
  | cons xs hxs ih => rw [chunksOf_cons hn hxs, List.flatten_cons, ih, List.take_append_drop]

/-- Every slice is non-empty and has at most `n` elements. -/
theorem length_of_mem_chunksOf (hn : 0 < n) (xs : List α) :
    ∀ c ∈ chunksOf n xs, 1 ≤ c.length ∧ c.length ≤ n := by
  induction xs using chunks_induction hn with
  | nil => simp [chunksOf_nil hn]
  | cons xs hxs ih =>
      have hlen : 0 < xs.length := List.length_pos_iff.2 hxs
      rw [chunksOf_cons hn hxs]
      refine List.forall_mem_cons.2 ⟨?_, ih⟩
      rw [List.length_take]
      omega

theorem length_chunksOf (xs : List α) : (chunksOf n xs).length = (xs.length + n - 1) / n := by
  simp [chunksOf]

end Chunks

/-! ### Fields -/

theorem byte_cons (b : UInt8) (s : Bytes) : byte.run (b :: s) = some (b.toNat, s) :=
  byte_run_iff.2 ⟨b, rfl, rfl⟩

theorem toNat_ofNat {n : ℕ} (h : n < 256) : (UInt8.ofNat n).toNat = n := by
  simp [UInt8.toNat_ofNat', Nat.mod_eq_of_lt h]

theorem byteOr_ok {n : ℕ} (h : n < 256) (e : Builtin) : byteOr e n = .ok [UInt8.ofNat n] := by
  rw [byteOr, if_pos (by omega), Int.toNat_natCast]

/-- The two bytes of a word. -/
def wordBytes (n : ℕ) : Bytes := [UInt8.ofNat (n / 256), UInt8.ofNat (n % 256)]

theorem packH_ok {n : ℕ} (h : n < 65536) : packH n = .ok (wordBytes n) := by
  rw [packH, if_pos (by omega), Int.toNat_natCast]
  rfl

theorem word_wordBytes {n : ℕ} (h : n < 65536) (s : Bytes) :
    word.run (wordBytes n ++ s) = some (n, s) := by
  refine word_run_iff.2 ⟨_, _, rfl, ?_⟩
  rw [toNat_ofNat (by omega), toNat_ofNat (by omega)]
  omega

theorem blob_append {b : Bytes} (hb : 1 ≤ b.length) (s : Bytes) :
    (blob b.length).run (b ++ s) = some (b, s) := by
  rw [blob_run, if_pos ⟨hb, by simp⟩]
  simp

/-- Readings of serialised elements, one by one. -/
theorem several_map {α β : Type} (g : Grammar β) (enc : α → Bytes) (f : α → β) (as : List α)
    (h : ∀ a ∈ as, ∀ s, g.run (enc a ++ s) = some (f a, s)) (s : Bytes) :
    (several as.length g).run ((as.map enc).flatten ++ s) = some (as.map f, s) := by
  induction as with
  | nil => rfl
  | cons a as ih =>
      have hread := h a (by simp) ((as.map enc).flatten ++ s)
      simp only [List.map_cons, List.flatten_cons, List.append_assoc, List.length_cons,
        several_succ, run_bind_eq_some_iff, run_pure_eq_some_iff]
      exact ⟨_, _, hread, _, _, ih fun b hb => h b (by simp [hb]), rfl, rfl⟩

/-! ### Instructions, written -/

/-- Some bytes are read as one instruction, which appends `bb` to any output. -/
def Emits (bo bb : Bytes) : Prop :=
  ∃ i, (∀ s, instr.run (bo ++ s) = some (i, s)) ∧
    ∀ luts tpls co, i.exec luts tpls co = some (co ++ bb)

theorem emits_rawRepeat (pat : Bytes) (rep : ℕ) (hpat : 1 ≤ pat.length) (hpat' : pat.length < 256)
    (hrep : 1 ≤ rep) (hrep' : rep < 65536) :
    Emits ([4, UInt8.ofNat pat.length] ++ wordBytes rep ++ pat) (mulBytes pat rep) := by
  refine ⟨.rawRepeat pat rep, fun s => ?_, fun _ _ _ => rfl⟩
  have hbyte := byte_cons (UInt8.ofNat pat.length) (wordBytes rep ++ (pat ++ s))
  rw [toNat_ofNat hpat'] at hbyte
  simp only [instr, run_bind_eq_some_iff, List.append_assoc, List.cons_append, List.nil_append]
  refine ⟨4, _, byte_cons 4 _, ?_⟩
  simp only [operands, run_bind_eq_some_iff, run_guard_eq_some_iff, run_pure_eq_some_iff]
  exact ⟨_, _, hbyte, _, _, word_wordBytes hrep' _, (), _, ⟨hrep, rfl⟩, _, _, blob_append hpat s,
    rfl, rfl⟩

theorem emits_rawArith2d (st sp sl rows : UInt8) (hsl : 1 ≤ sl.toNat) (hrows : 1 ≤ rows.toNat) :
    Emits [5, st, sp, sl, rows] (mulBytes (arithRow st.toNat sp.toNat sl.toNat) rows.toNat) := by
  refine ⟨.rawArith2d st.toNat sp.toNat sl.toNat rows.toNat, fun s => ?_, fun _ _ _ => rfl⟩
  simp only [instr, run_bind_eq_some_iff, List.cons_append, List.nil_append]
  refine ⟨5, _, byte_cons 5 _, ?_⟩
  simp only [operands, run_bind_eq_some_iff, run_guard_eq_some_iff, run_pure_eq_some_iff]
  exact ⟨_, _, byte_cons _ _, _, _, byte_cons _ _, _, _, byte_cons _ _, _, _, byte_cons _ _, (), _,
    ⟨⟨hsl, hrows⟩, rfl⟩, rfl, rfl⟩

theorem emits_rawLiteral {lit : Bytes} (hlit : 1 ≤ lit.length) (hlit' : lit.length < 65536) :
    Emits ([6] ++ wordBytes lit.length ++ lit) lit := by
  refine ⟨.rawLiteral lit, fun s => ?_, fun _ _ _ => rfl⟩
  simp only [instr, run_bind_eq_some_iff, List.cons_append, List.nil_append, List.append_assoc]
  refine ⟨6, _, byte_cons 6 _, ?_⟩
  simp only [operands, run_bind_eq_some_iff, run_pure_eq_some_iff]
  exact ⟨_, _, word_wordBytes hlit' _, _, _, blob_append hlit s, rfl, rfl⟩

/-! ### One segment -/

/-- What a candidate for a segment has to be: an operation that yields the bytes it is listed with,
as many as the segment has. -/
def Fits (seg : Bytes) (c : Bytes × Bytes) : Prop := Emits c.2 c.1 ∧ c.1.length = seg.length

theorem constantByte_ok {seg : Bytes} (hseg : 1 ≤ seg.length) :
    ∃ v, constantByte seg = .ok v := by
  unfold constantByte
  rw [index_of_lt hseg, ok_bind]
  by_cases h : seg.length < 3
  · exact ⟨_, if_pos h⟩
  · rw [if_neg h, index_of_lt (by omega), ok_bind, index_of_lt (by omega), ok_bind]
    exact ⟨_, rfl⟩

theorem length_leadingPattern {n : ℕ} {seg : Bytes} (h : n ≤ seg.length) :
    (leadingPattern n seg).length = n := by
  unfold leadingPattern
  split
  · rw [List.length_take]
    omega
  · next hc =>
      rw [List.length_take, List.length_drop]
      omega

theorem constantCand_ok {seg : Bytes} (hseg : 1 ≤ seg.length) (hseg' : seg.length ≤ 1040) :
    ∃ c, constantCand seg = .ok c ∧ Fits seg c := by
  obtain ⟨v, hv⟩ := constantByte_ok hseg
  refine ⟨_, by rw [constantCand, hv, ok_bind, packH_ok (by omega), ok_bind]; rfl, ?_, by simp⟩
  exact emits_rawRepeat [v] _ (by simp) (by simp) hseg (by omega)

theorem patternCand_ok {seg : Bytes} (hseg : 4 ≤ seg.length) (hseg' : seg.length ≤ 1040)
    (hdvd : seg.length % 4 = 0) : ∃ c, patternCand seg = .ok c ∧ Fits seg c := by
  have hlen := length_leadingPattern hseg
  refine ⟨_, by rw [patternCand, packH_ok (by omega), ok_bind, pack4B, if_pos hlen, ok_bind]; rfl,
    ?_, ?_⟩
  · have h := emits_rawRepeat (leadingPattern 4 seg) (seg.length / 4) (by omega)
      (by omega) (by omega) (by omega)
    rwa [hlen] at h
  · rw [length_mulBytes, hlen]
    omega

theorem arithCand_ok {seg : Bytes} (hseg : 52 ≤ seg.length) (hseg' : seg.length ≤ 1040)
    (hdvd : seg.length % 52 = 0) : ∃ c, arithCand seg = .ok c ∧ Fits seg c := by
  have hlen := length_leadingPattern hseg
  refine ⟨_, by rw [arithCand, index_of_lt (by omega), ok_bind, index_of_lt (by omega), ok_bind,
    packB, byteOr_ok (by omega), ok_bind]; rfl, ?_, ?_⟩
  · have hsp : ∀ z : ℤ, (z % 256).toNat < 256 := fun z => by omega
    have h := emits_rawArith2d (leadingPattern 52 seg)[0]
      (UInt8.ofNat ((((leadingPattern 52 seg)[1].toNat : ℤ) -
        (leadingPattern 52 seg)[0].toNat) % 256).toNat) 52 (UInt8.ofNat (seg.length / 52))
      (by decide) (by rw [toNat_ofNat (by omega)]; omega)
    rwa [toNat_ofNat (hsp _), toNat_ofNat (by omega)] at h
  · simp only [length_mulBytes, arithRow, List.length_map, List.length_range]
    omega

theorem candWhen_ok (seg : Bytes) {c : Prop} [Decidable c] {cand : Except Fault (Bytes × Bytes)}
    (h : c → ∃ x, cand = .ok x ∧ Fits seg x) :
    ∃ xs, candWhen c cand = .ok xs ∧ ∀ x ∈ xs, Fits seg x := by
  by_cases hc : c
  · obtain ⟨x, hx, hfit⟩ := h hc
    exact ⟨[x], by rw [candWhen, if_pos hc, hx]; rfl, by simpa using hfit⟩
  · exact ⟨[], by rw [candWhen, if_neg hc]; rfl, by simp⟩

/-- Every candidate for a segment yields the bytes it is listed with. -/
theorem candidates_ok {seg : Bytes} (hseg : 1 ≤ seg.length) (hseg' : seg.length ≤ 1040) :
    ∃ cs, candidates seg = .ok cs ∧ cs ≠ [] ∧ ∀ c ∈ cs, Fits seg c := by
  obtain ⟨c, hc, hfit⟩ := constantCand_ok hseg hseg'
  obtain ⟨ps, hps, hpfit⟩ := candWhen_ok seg
    fun h : seg.length ≥ 4 ∧ seg.length % 4 = 0 => patternCand_ok h.1 hseg' h.2
  obtain ⟨as, has, hafit⟩ := candWhen_ok seg
    fun h : seg.length ≥ 52 ∧ seg.length % 52 = 0 => arithCand_ok h.1 hseg' h.2
  refine ⟨c :: ps ++ as, ?_, by simp, ?_⟩
  · simp only [candidates, hc, hps, has, ok_bind]
    rfl
  · intro x hx
    simp only [List.cons_append, List.mem_cons, List.mem_append] at hx
    rcases hx with rfl | hx | hx
    · exact hfit
    · exact hpfit x hx
    · exact hafit x hx

theorem bestCand_ok (seg : Bytes) {cs : List (Bytes × Bytes)} (hne : cs ≠ []) :
    ∃ c ∈ cs, bestCand seg cs = .ok c := by
  unfold bestCand
  cases h : cs.argmin fun x => diffs x.1 seg with
  | none => exact absurd (List.argmin_eq_none.1 h) hne
  | some c => exact ⟨c, List.argmin_mem h, rfl⟩

theorem diffs_self (xs : Bytes) : diffs xs xs = 0 := by
  induction xs with
  | nil => rfl
  | cons x xs ih => simpa [diffs] using ih

/-- **One segment**: the operation that is written yields as many bytes as the segment has, and
together with the patches it makes necessary it costs no more than a literal. -/
theorem encodeSeg_ok {seg : Bytes} (hseg : 1 ≤ seg.length) (hseg' : seg.length ≤ 1040) (e : Enc) :
    ∃ bo bb, encodeSeg e seg = .ok ⟨e.bops ++ bo, e.rbase ++ bb, e.oc + 1⟩ ∧ Fits seg (bb, bo) ∧
      bo.length + diffs bb seg * 3 + (diffs bb seg + 254) / 255 * 2 ≤ seg.length + 3 := by
  obtain ⟨cs, hcs, hne, hfits⟩ := candidates_ok hseg hseg'
  obtain ⟨c, hmem, hbest⟩ := bestCand_ok seg hne
  by_cases hcost : c.2.length + diffs c.1 seg * 3 + (diffs c.1 seg + 254) / 255 * 2 < seg.length + 3
  · refine ⟨c.2, c.1, ?_, hfits c hmem, hcost.le⟩
    simp only [encodeSeg, hcs, hbest, ok_bind, if_pos hcost]
    rfl
  · refine ⟨[6] ++ wordBytes seg.length ++ seg, seg, ?_, ⟨emits_rawLiteral hseg (by omega), rfl⟩, ?_⟩
    · simp only [encodeSeg, hcs, hbest, ok_bind, if_neg hcost, packH_ok (by omega : seg.length < 65536)]
      rfl
    · simp only [diffs_self, wordBytes, List.length_append, List.length_cons, List.length_nil]
      omega

/-! ### The operations of a channel -/

/-- Some bytes are read as `oc` instructions, which turn the output `co` into `co'`. -/
def Runs (bops : Bytes) (oc : ℕ) (co co' : Bytes) : Prop :=
  ∃ is, is.length = oc ∧ (∀ s, (several oc instr).run (bops ++ s) = some (is, s)) ∧
    ∀ luts tpls, is.foldlM (fun co i => i.exec luts tpls co) co = some co'

theorem Runs.nil (co : Bytes) : Runs [] 0 co co := ⟨[], rfl, fun _ => rfl, fun _ _ => rfl⟩

theorem Runs.one {bo co co' : Bytes} {i : Instr} (hread : ∀ s, instr.run (bo ++ s) = some (i, s))
    (hexec : ∀ luts tpls, i.exec luts tpls co = some co') : Runs bo 1 co co' := by
  refine ⟨[i], rfl, fun s => ?_, fun luts tpls => ?_⟩
  · simp only [several, run_bind_eq_some_iff, run_pure_eq_some_iff]
    exact ⟨i, s, hread s, [], s, ⟨rfl, rfl⟩, rfl, rfl⟩
  · simp [hexec luts tpls]

theorem Runs.append {b1 b2 co co1 co2 : Bytes} {m n : ℕ} (h1 : Runs b1 m co co1)
    (h2 : Runs b2 n co1 co2) : Runs (b1 ++ b2) (m + n) co co2 := by
  obtain ⟨is, hlen, hread, hexec⟩ := h1
  obtain ⟨js, hlen', hread', hexec'⟩ := h2
  refine ⟨is ++ js, by simp [hlen, hlen'], fun s => ?_, fun luts tpls => ?_⟩
  · simp only [several_add, run_bind_eq_some_iff, run_pure_eq_some_iff, List.append_assoc]
    exact ⟨is, _, hread _, js, _, hread' s, rfl, rfl⟩
  · simp [List.foldlM_append, hexec luts tpls, hexec' luts tpls]

theorem diffs_append {xs ys : Bytes} (h : xs.length = ys.length) (xs' ys' : Bytes) :
    diffs (xs ++ xs') (ys ++ ys') = diffs xs ys + diffs xs' ys' := by
  simp [diffs, List.zip_append h]

/-- **The loop over the segments.**  The operations run, they yield as many bytes as the segments
have, and with the patches that are owed they stay within the cost of literals. -/
theorem encodeSegs_spec (segs : List Bytes) (hsegs : ∀ s ∈ segs, 1 ≤ s.length ∧ s.length ≤ 1040) :
    ∀ (e : Enc) (done : Bytes), Runs e.bops e.oc [] e.rbase → e.rbase.length = done.length →
      e.bops.length + diffs e.rbase done * 3 + (diffs e.rbase done + 254) / 255 * 2 ≤
        done.length + 3 * e.oc →
      ∃ e', segs.foldlM encodeSeg e = .ok e' ∧ Runs e'.bops e'.oc [] e'.rbase ∧
        e'.rbase.length = (done ++ segs.flatten).length ∧ e'.oc = e.oc + segs.length ∧
        e'.bops.length + diffs e'.rbase (done ++ segs.flatten) * 3 +
            (diffs e'.rbase (done ++ segs.flatten) + 254) / 255 * 2 ≤
          (done ++ segs.flatten).length + 3 * e'.oc := by
  induction segs with
  | nil =>
      intro e done hruns hlen hcost
      exact ⟨e, rfl, hruns, by simpa using hlen, rfl, by simpa using hcost⟩
  | cons seg segs ih =>
      intro e done hruns hlen hcost
      obtain ⟨hseg, hseg'⟩ := hsegs seg (by simp)
      obtain ⟨bo, bb, hok, ⟨⟨i, hread, hexec⟩, hbb⟩, hle⟩ := encodeSeg_ok hseg hseg' e
      have hruns' : Runs (e.bops ++ bo) (e.oc + 1) [] (e.rbase ++ bb) :=
        hruns.append (.one hread fun luts tpls => hexec luts tpls _)
      obtain ⟨e', hfold, hr, hl, hoc, hc⟩ := ih (fun s hs => hsegs s (by simp [hs]))
        ⟨e.bops ++ bo, e.rbase ++ bb, e.oc + 1⟩ (done ++ seg) hruns' (by simp [hlen, hbb]) (by
          simp only [diffs_append hlen, List.length_append]
          omega)
      refine ⟨e', by rw [List.foldlM_cons, hok]; exact hfold, hr, ?_, ?_, ?_⟩
      · simpa using hl
      · have hoc : e'.oc = e.oc + 1 + segs.length := hoc
        rw [hoc, List.length_cons]
        omega
      · simpa using hc

/-! ### The patches -/

/-- A patch as it is read back. -/
def readBack (p : ℕ × UInt8) : ℕ × ℕ := (p.1, p.2.toNat)

/-- The bytes of a patch. -/
def patchBytes (p : ℕ × UInt8) : Bytes := wordBytes p.1 ++ [p.2]

/-- The patches repair what they were computed from. -/
theorem patch_diffs (xs : Bytes) : ∀ (pre ys : Bytes), xs.length = ys.length →
    ((((xs.zip ys).zipIdx pre.length).filterMap fun p =>
      if p.1.1 ≠ p.1.2 then some (p.2, p.1.2) else none).map readBack).foldlM patch (pre ++ xs) =
        some (pre ++ ys) := by
  induction xs with
  | nil =>
      intro pre ys h
      obtain rfl : ys = [] := List.length_eq_zero_iff.1 h.symm
      simp
  | cons x xs ih =>
      intro pre ys h
      match ys, h with
      | y :: ys, h =>
          have hlen : xs.length = ys.length := by simpa using h
          have ih' := ih (pre ++ [y]) ys hlen
          simp only [List.length_append, List.length_cons, List.length_nil, List.append_assoc,
            List.cons_append, List.nil_append] at ih'
          simp only [List.zip_cons_cons, List.zipIdx_cons, List.filterMap_cons]
          by_cases hxy : x = y
          · subst hxy
            simpa using ih'
          · simp only [ne_eq, hxy, not_false_eq_true, if_true, List.map_cons, List.foldlM_cons]
            have hpatch : patch (pre ++ x :: xs) (readBack (pre.length, y)) =
                some (pre ++ y :: xs) := by
              simp [patch, readBack]
            rw [hpatch]
            exact ih'

theorem length_globalDiffs (xs ys : Bytes) : (globalDiffs xs ys).length = diffs xs ys := by
  have h : ∀ (l : List (UInt8 × UInt8)) (k : ℕ),
      ((l.zipIdx k).filterMap fun p => if p.1.1 ≠ p.1.2 then some (p.2, p.1.2) else none).length =
        l.countP fun p => p.1 ≠ p.2 := by
    intro l
    induction l with
    | nil => intro k; rfl
    | cons p l ih =>
        intro k
        by_cases hp : p.1 = p.2
        · simpa [List.zipIdx_cons, hp] using ih (k + 1)
        · simpa [List.zipIdx_cons, hp] using ih (k + 1)
  exact h _ 0

theorem offset_of_mem_globalDiffs {xs ys : Bytes} {p : ℕ × UInt8} (h : p ∈ globalDiffs xs ys) :
    p.1 < ys.length := by
  simp only [globalDiffs, List.mem_filterMap, Prod.exists] at h
  obtain ⟨a, b, i, hmem, hp⟩ := h
  have hi := (List.mem_zipIdx hmem).2.1
  simp only [Nat.zero_add, List.length_zip] at hi
  split at hp
  · obtain rfl := Option.some.inj hp
    omega
  · simp at hp

/-- One batch: the patches are written behind the operations, as one more. -/
theorem encodeBatch_ok {bat : List (ℕ × UInt8)} (hbat : 1 ≤ bat.length) (hbat' : bat.length ≤ 255)
    (hoff : ∀ p ∈ bat, p.1 < 65536) (e : Enc) :
    ∃ pb, encodeBatch e bat = .ok { e with bops := e.bops ++ pb, oc := e.oc + 1 } ∧
      pb.length = 2 + 3 * bat.length ∧
      ∀ co co', (bat.map readBack).foldlM patch co = some co' → Runs pb 1 co co' := by
  have hloop : ∀ (bat : List (ℕ × UInt8)) (pb : Bytes), (∀ p ∈ bat, p.1 < 65536) →
      bat.foldlM (fun pb p => do
        let h ← packH p.1
        pure (pb ++ (h ++ [p.2]))) pb = (.ok (pb ++ (bat.map patchBytes).flatten) : Except Fault _) := by
    intro bat
    induction bat with
    | nil => intro pb _; simp [pure, Except.pure]
    | cons p bat ih =>
        intro pb hoff
        rw [List.foldlM_cons, packH_ok (hoff p (by simp)), ok_bind]
        refine (ih _ fun q hq => hoff q (by simp [hq])).trans ?_
        simp [patchBytes]
  refine ⟨[7, UInt8.ofNat bat.length] ++ (bat.map patchBytes).flatten, ?_, ?_, ?_⟩
  · simp only [encodeBatch, byteOr_ok (by omega : bat.length < 256), ok_bind, hloop bat _ hoff]
    rfl
  · have : ∀ bat : List (ℕ × UInt8), (bat.map patchBytes).flatten.length = 3 * bat.length := by
      intro bat
      induction bat with
      | nil => rfl
      | cons p bat ih =>
          simp only [List.map_cons, List.flatten_cons, List.length_append, ih, patchBytes,
            wordBytes, List.length_cons, List.length_nil]
          omega
    rw [List.length_append, this]
    rfl
  · intro co co' hpatch
    refine .one (i := .sparsePatch (bat.map readBack)) (fun s => ?_) fun luts tpls => hpatch
    have hcount := byte_cons (UInt8.ofNat bat.length) ((bat.map patchBytes).flatten ++ s)
    rw [toNat_ofNat (by omega)] at hcount
    have hpatches := several_map (pair word byte) patchBytes readBack bat
      (fun p hp s => by
        simp only [pair, run_bind_eq_some_iff, run_pure_eq_some_iff, patchBytes, List.append_assoc]
        exact ⟨_, _, word_wordBytes (hoff p hp) _, _, _, byte_cons _ _, rfl, rfl⟩) s
    simp only [instr, run_bind_eq_some_iff, List.cons_append, List.nil_append]
    refine ⟨7, _, byte_cons 7 _, ?_⟩
    simp only [operands, run_bind_eq_some_iff, run_guard_eq_some_iff, run_pure_eq_some_iff]
    exact ⟨_, _, hcount, (), _, ⟨hbat, rfl⟩, _, _, hpatches, rfl, rfl⟩

/-- **The loop over the batches of patches.** -/
theorem encodeBatches_spec (bats : List (List (ℕ × UInt8)))
    (hbats : ∀ b ∈ bats, 1 ≤ b.length ∧ b.length ≤ 255) (hoff : ∀ p ∈ bats.flatten, p.1 < 65536) :
    ∀ (e : Enc) (co co' : Bytes), Runs e.bops e.oc [] co →
      (bats.flatten.map readBack).foldlM patch co = some co' →
      ∃ e', bats.foldlM encodeBatch e = .ok e' ∧ Runs e'.bops e'.oc [] co' ∧
        e'.oc = e.oc + bats.length ∧
        e'.bops.length = e.bops.length + 2 * bats.length + 3 * bats.flatten.length := by
  induction bats with
  | nil =>
      intro e co co' hruns hpatch
      obtain rfl : co = co' := by simpa using hpatch
      exact ⟨e, rfl, hruns, rfl, by simp⟩
  | cons bat bats ih =>
      intro e co co' hruns hpatch
      obtain ⟨hbat, hbat'⟩ := hbats bat (by simp)
      obtain ⟨pb, hok, hlen, hrun⟩ := encodeBatch_ok hbat hbat' (fun p hp => hoff p (by simp [hp])) e
      rw [List.flatten_cons, List.map_append, List.foldlM_append] at hpatch
      obtain ⟨co1, hpatch1, hpatch2⟩ := Option.bind_eq_some_iff.1 hpatch
      obtain ⟨e', hfold, hr, hoc, hl⟩ := ih (fun b hb => hbats b (by simp [hb]))
        (fun p hp => hoff p (by simp only [List.flatten_cons, List.mem_append]; exact .inr hp))
        { e with bops := e.bops ++ pb, oc := e.oc + 1 } co1 co'
        (hruns.append (hrun _ _ hpatch1)) hpatch2
      refine ⟨e', by rw [List.foldlM_cons, hok]; exact hfold, hr, ?_, ?_⟩
      · have hoc : e'.oc = e.oc + 1 + bats.length := hoc
        rw [hoc, List.length_cons]
        omega
      · rw [hl, List.flatten_cons, List.length_append, List.length_append, List.length_cons, hlen]
        omega

/-! ### Channels and packets -/

/-- Some bytes are read as the channel with the id `k`, which yields `raw`. -/
def Encodes (enc : Bytes) (k : ℕ) (raw : Bytes) : Prop :=
  ∃ is, (∀ s, (channel k).run (enc ++ s) = some (is, s)) ∧
    ∀ luts tpls, is.foldlM (fun co i => i.exec luts tpls co) [] = some raw

theorem encodes_of_runs {k oc : ℕ} {bops raw : Bytes} (hk : k < 256) (hoc : 1 ≤ oc)
    (hoc' : oc < 256) (h : Runs bops oc [] raw) :
    Encodes ([UInt8.ofNat k] ++ [UInt8.ofNat oc] ++ bops) k raw := by
  obtain ⟨is, -, hread, hexec⟩ := h
  refine ⟨is, fun s => ?_, hexec⟩
  have h1 := byte_cons (UInt8.ofNat k) (UInt8.ofNat oc :: (bops ++ s))
  have h2 := byte_cons (UInt8.ofNat oc) (bops ++ s)
  rw [toNat_ofNat hk] at h1
  rw [toNat_ofNat hoc'] at h2
  simp only [channel, run_bind_eq_some_iff, run_guard_eq_some_iff, List.cons_append,
    List.nil_append]
  exact ⟨_, _, h1, _, _, h2, (), _, ⟨⟨rfl, hoc⟩, rfl⟩, hread s⟩

/-- **One channel**: it is encoded, its code is read back as the channel, and costs at most three
bytes for each of its segments and two for its head. -/
theorem encodeMotionChannel_ok {k : ℕ} {raw : Bytes} (hk : k < 256) (hraw : 1 ≤ raw.length)
    (hraw' : raw.length ≤ 65535) :
    ∃ enc, encodeMotionChannelWithSparsePatch k raw = .ok enc ∧ Encodes enc k raw ∧
      enc.length ≤ 2 + raw.length + 3 * ((raw.length + 1039) / 1040) := by
  have hne : raw ≠ [] := List.length_pos_iff.1 hraw
  obtain ⟨e, hfold, hruns, hlen, hoc, hcost⟩ := encodeSegs_spec (chunksOf 1040 raw)
    (length_of_mem_chunksOf (by decide) raw) ⟨[], [], 0⟩ [] (.nil []) rfl (by simp [diffs])
  simp only [List.nil_append, flatten_chunksOf (by decide : 0 < 1040), length_chunksOf] at hlen hoc hcost
  have hflat := flatten_chunksOf (by decide : 0 < 255) (globalDiffs e.rbase raw)
  obtain ⟨e', hfold', hruns', hoc', hlen'⟩ := encodeBatches_spec
    (chunksOf 255 (globalDiffs e.rbase raw)) (length_of_mem_chunksOf (by decide) _)
    (fun p hp => by
      rw [hflat] at hp
      have := offset_of_mem_globalDiffs hp
      omega) e _ raw hruns (by rw [hflat]; exact patch_diffs e.rbase [] raw hlen)
  simp only [length_chunksOf, hflat, length_globalDiffs] at hoc' hlen'
  have hloops : encodeMotionChannelWithSparsePatch k raw = assembleChannel k raw e' := by
    rw [encodeMotionChannelWithSparsePatch, raiseIf_neg hne, ok_bind, raiseIf_neg (by omega),
      ok_bind, hfold, ok_bind, hfold', ok_bind]
  by_cases h255 : e'.oc > 255
  · refine ⟨[UInt8.ofNat k] ++ [1, 6] ++ wordBytes raw.length ++ raw, ?_, ?_, ?_⟩
    · rw [hloops, assembleChannel, if_pos h255, packB, byteOr_ok hk, ok_bind, packH_ok (by omega), ok_bind]
      rfl
    · obtain ⟨i, hread, hexec⟩ := emits_rawLiteral hraw (by omega)
      have hone := encodes_of_runs hk le_rfl (by decide)
        (.one hread fun luts tpls => hexec luts tpls [])
      simpa using hone
    · simp only [wordBytes, List.length_append, List.length_cons, List.length_nil]
      omega
  · refine ⟨[UInt8.ofNat k] ++ [UInt8.ofNat e'.oc] ++ e'.bops, ?_, ?_, ?_⟩
    · rw [hloops, assembleChannel, if_neg h255, packB, byteOr_ok hk, ok_bind, packB,
        byteOr_ok (by omega), ok_bind]
      rfl
    · exact encodes_of_runs hk (by omega) (by omega) hruns'
    · simp only [List.length_append, List.length_cons, List.length_nil]
      omega

/-- The channels of a packet, each encoded under its id: the ids count from `k`. -/
def encodeMotionChannels (k : ℕ) (raws : List Bytes) : Except Fault (List Bytes) :=
  (raws.zipIdx k).mapM fun p => encodeMotionChannelWithSparsePatch (p.2 : ℕ) p.1

/-- Channels encoded one after the other are read as the channels of a program. -/
theorem encodeMotionChannels_ok (raws : List Bytes)
    (hraws : ∀ raw ∈ raws, 1 ≤ raw.length ∧ raw.length ≤ 65535) :
    ∀ k, k + raws.length ≤ 256 → ∃ encs chs, encodeMotionChannels k raws = .ok encs ∧
      (channels raws.length k).run encs.flatten = some (chs, []) ∧
      (∀ luts tpls, execFrom luts tpls k chs = some ((raws.zipIdx k).map Prod.swap)) ∧
      List.Forall₂ (fun enc raw : Bytes =>
        enc.length ≤ 2 + raw.length + 3 * ((raw.length + 1039) / 1040)) encs raws := by
  induction raws with
  | nil => exact fun k _ => ⟨[], [], rfl, rfl, fun _ _ => rfl, .nil⟩
  | cons raw raws ih =>
      intro k hk
      rw [List.length_cons] at hk
      obtain ⟨h1, h2⟩ := hraws raw (by simp)
      obtain ⟨enc, hok, ⟨is, hread, hexec⟩, hlen⟩ := encodeMotionChannel_ok (by omega : k < 256) h1 h2
      obtain ⟨encs, chs, hoks, hreads, hexecs, hlens⟩ :=
        ih (fun r hr => hraws r (by simp [hr])) (k + 1) (by omega)
      refine ⟨enc :: encs, is :: chs, ?_, ?_, fun luts tpls => ?_, .cons hlen hlens⟩
      · unfold encodeMotionChannels at hoks ⊢
        rw [List.zipIdx_cons, List.mapM_cons, hok, ok_bind, hoks, ok_bind]
        rfl
      · simp only [List.flatten_cons, List.length_cons, channels, run_bind_eq_some_iff,
          run_pure_eq_some_iff]
        exact ⟨_, _, hread _, _, _, hreads, rfl, rfl⟩
      · simp [execFrom, hexec luts tpls, hexecs luts tpls, List.zipIdx_cons]

/-- **Motion channels survive the round trip.**  Between 1 and 255 channels of 1 to 65535 bytes
each, encoded under the ids from 1 on and put behind the header of a warm packet, are decoded by a
fresh decoder to exactly these channels; each costs at most two bytes for its head and three for
each of its segments of 1040 bytes. -/
theorem motion_channel_round_trip (Z : Zlib) (raws : List Bytes) (hne : 1 ≤ raws.length)
    (hn : raws.length ≤ 255) (hraws : ∀ raw ∈ raws, 1 ≤ raw.length ∧ raw.length ≤ 65535) :
    ∃ encs, encodeMotionChannels 1 raws = .ok encs ∧
      (∃ d, (decode Z (0x8D :: UInt8.ofNat raws.length :: encs.flatten)).run Decoder.init =
        .ok ((raws.zipIdx 1).map Prod.swap) d) ∧
      List.Forall₂ (fun enc raw : Bytes =>
        enc.length ≤ 2 + raw.length + 3 * ((raw.length + 1039) / 1040)) encs raws := by
  obtain ⟨encs, chs, hok, hread, hexec, hlen⟩ := encodeMotionChannels_ok raws hraws 1 (by omega)
  refine ⟨encs, hok, (decode_warm_iff Z (by rfl)).2 ⟨chs, [], ?_, hexec [] []⟩, hlen⟩
  have h2 := byte_cons (UInt8.ofNat raws.length) encs.flatten
  rw [toNat_ofNat (by omega)] at h2
  simp only [program, run_bind_eq_some_iff, run_guard_eq_some_iff, run_pure_eq_some_iff]
  exact ⟨_, _, byte_cons 0x8D _, _, _, h2, (), _, ⟨⟨rfl, hne⟩, rfl⟩, chs, _, hread, 0, [], rfl,
    (), [], ⟨rfl, rfl⟩, rfl, rfl⟩

/-- Two channels, a constant one and one that is not. -/
theorem motion_channel_round_trip_two : ∃ encs,
    encodeMotionChannels 1 [[5, 5, 5, 5, 5], [1, 2, 9]] = .ok encs ∧
      (∃ d, (decode .refusing (0x8D :: 2 :: encs.flatten)).run Decoder.init =
        .ok [(1, [5, 5, 5, 5, 5]), (2, [1, 2, 9])] d) ∧
      List.Forall₂ (fun enc raw : Bytes =>
        enc.length ≤ 2 + raw.length + 3 * ((raw.length + 1039) / 1040)) encs
          [[5, 5, 5, 5, 5], [1, 2, 9]] :=
  motion_channel_round_trip .refusing [[5, 5, 5, 5, 5], [1, 2, 9]] (by decide) (by decide)
    (by decide)

end OriginCell
