/-
**The channel of repeated table entries, and the runs that do not fit it.**

`encode_2d_lut_channel` cuts a channel into entries of a look-up table, counts how often each stands
in a row, and looks for a pair of runs that is followed by the same pair: such a block becomes one
instruction for a two-dimensional pattern, any other run an instruction of its own.  The counts go
into fields of one and two bytes, and nothing cuts a count that is too large.  So the encoder is
right about every channel it encodes, and it encodes a channel exactly when the counts of the blocks
fit; this module says which blocks these are without saying how they are found.

Main definitions:

* `OriginCell.encode2dLutChannel` — the encoder;
* `OriginCell.LutShape`, `OriginCell.RunsOf` — a table of equally long entries, and the runs of it
  that a channel consists of;
* `OriginCell.Cut` — the blocks that the runs form, read from the left;
* `OriginCell.Yields` — some bytes are instructions that append given bytes, under given tables.

Main results:

* `OriginCell.pushRuns_ok` — the first loop finds the runs;
* `OriginCell.emitRuns_eq` — the second loop finds the blocks, and raises when one does not fit;
* `OriginCell.encode2dLutChannel_iff` — which channels survive the round trip.
-/

import Wuchang.CellMotion
import Mathlib.Data.List.Chain
import Mathlib.Data.List.GetD

set_option relaxedAutoImplicit false
set_option autoImplicit false

namespace OriginCell

open Py

/-! ### The encoder -/

/-- A run: the index of an entry, and how often it stands in a row. -/
abbrev Run := ℕ × ℕ

/-- `lut.index(x)` -/
def lutIndex (lut : List Bytes) (x : Bytes) : Except Fault ℕ :=
  if x ∈ lut then .ok (lut.idxOf x) else .error (.builtin .valueError)

/-- One slice of the channel makes the last run longer, or starts the next one. -/
def pushRun (lut : List Bytes) (runs : List Run) (x : Bytes) : Except Fault (List Run) := do
  let c ← lutIndex lut x
  match runs.getLast? with
  | some (c', n) => pure (if c' = c then runs.dropLast ++ [(c', n + 1)] else runs ++ [(c, 1)])
  | none => pure [(c, 1)]

/-- `runs[i:i + 2]`, if it is equal to `runs[i + 2:i + 4]`. -/
def patternAt : List Run → Option (Run × Run)
  | a :: b :: a' :: b' :: _ => if a = a' ∧ b = b' then some (a, b) else none
  | _ => none

/-- The inner loop: how often the pair stands at the front, and what follows. -/
def countPattern (a b : Run) : List Run → ℕ × List Run
  | x :: y :: rs =>
      if x = a ∧ y = b then ((countPattern a b rs).1 + 1, (countPattern a b rs).2)
      else (0, x :: y :: rs)
  | rs => (0, rs)

/-- The instruction for a pattern, `struct.pack(">BBBBBBBB", 3, lid, 2, rws, …)`. -/
def packPattern (lid : ℕ) (rws : ℕ) (a b : Run) : Except Fault Bytes := do
  let l ← packB lid
  let r ← packB rws
  let a1 ← packB a.1
  let a2 ← packB a.2
  let b1 ← packB b.1
  let b2 ← packB b.2
  pure ([3] ++ l ++ [2] ++ r ++ a1 ++ a2 ++ b1 ++ b2)

/-- The instruction for a run, `struct.pack(">BBBH", 2, lid, runs[i][0], runs[i][1])`. -/
def packRun (lid : ℕ) (r : Run) : Except Fault Bytes := do
  let l ← packB lid
  let c ← packB r.1
  let n ← packH r.2
  pure ([2] ++ l ++ c ++ n)

theorem length_countPattern (a b : Run) (rs : List Run) :
    (countPattern a b rs).2.length + 2 * (countPattern a b rs).1 = rs.length := by
  induction rs using countPattern.induct a b with
  | case1 x y rs h ih =>
      rw [countPattern, if_pos h]
      simp only [List.length_cons]
      omega
  | case2 x y rs h => simp [countPattern, if_neg h]
  | case3 rs h => simp [countPattern]

theorem patternAt_eq_some {rs : List Run} {a b : Run} (h : patternAt rs = some (a, b)) :
    ∃ rest, rs = a :: b :: a :: b :: rest := by
  unfold patternAt at h
  split at h
  · next x y x' y' rest =>
      split at h
      · next hxy =>
          obtain ⟨rfl, rfl⟩ := Prod.mk.inj (Option.some.inj h)
          exact ⟨rest, by rw [← hxy.1, ← hxy.2]⟩
      · simp at h
  · simp at h

/-- The second loop, over the runs that are left: the operations so far, and their number. -/
def emitRuns (lid : ℕ) (ow : Bytes) (oc : ℕ) : List Run → Except Fault (Bytes × ℕ)
  | [] => pure (ow, oc)
  | r :: rs =>
      match h : patternAt (r :: rs) with
      | some (a, b) => do
          let op ← packPattern lid (countPattern a b (r :: rs)).1 a b
          emitRuns lid (ow ++ op) (oc + 1) (countPattern a b (r :: rs)).2
      | none => do
          let op ← packRun lid r
          emitRuns lid (ow ++ op) (oc + 1) rs
  termination_by rs => rs.length
  decreasing_by
    · obtain ⟨rest, hrest⟩ := patternAt_eq_some h
      have hlen := length_countPattern a b (r :: rs)
      have hpos : 0 < (countPattern a b (r :: rs)).1 := by
        rw [hrest, countPattern, if_pos ⟨rfl, rfl⟩]
        omega
      omega
    · simp

/-- `encode_2d_lut_channel` -/
def encode2dLutChannel (tid : ℤ) (lid : ℕ) (raw : Bytes) (lut : List Bytes) :
    Except Fault Bytes := do
  raiseIf (raw = []) "HOLD_EMPTY_INPUT"
  let first ← index lut 0
  let slices ← if first.length = 0 then .error (.builtin .valueError)
    else (.ok (chunksOf first.length raw) : Except Fault _)
  let runs ← slices.foldlM (pushRun lut) []
  let (ow, oc) ← emitRuns lid [] 0 runs
  let t ← packB tid
  let o ← packB oc
  pure (t ++ o ++ ow)

/-! ### Runs and blocks -/

/-- A table that a bundle can hold, of different entries of one length. -/
structure LutShape (lut : List Bytes) : Prop where
  count : 1 ≤ lut.length ∧ lut.length ≤ 255
  nodup : lut.Nodup
  /-- One length for all entries. -/
  entries : ∃ al, 1 ≤ al ∧ al ≤ 255 ∧ ∀ e ∈ lut, e.length = al

/-- The bytes that a list of runs stands for. -/
def runsBytes (lut : List Bytes) (rs : List Run) : Bytes :=
  (rs.map fun r => mulBytes (lut.getD r.1 []) r.2).flatten

/-- The channel `raw` consists of the runs `rs`: no run is empty, and neighbours differ. -/
structure RunsOf (lut : List Bytes) (rs : List Run) (raw : Bytes) : Prop where
  inLut : ∀ r ∈ rs, r.1 < lut.length ∧ 1 ≤ r.2
  differ : rs.IsChain fun r r' => r.1 ≠ r'.1
  bytes : raw = runsBytes lut rs

/-- A run that stands by itself, or a pair of runs that is repeated. -/
inductive Block where
  | run (r : Run)
  | pattern (a b : Run) (k : ℕ)
  deriving DecidableEq, Repr

/-- The blocks that a list of runs forms.  Read from the left, a pair of runs forms a pattern when
the same pair follows, for as long as it does; a run at which no pattern starts stands by itself. -/
inductive Cut : List Run → List Block → Prop where
  | nil : Cut [] []
  | run {r : Run} {rs : List Run} {bs : List Block} :
      (∀ a b rest, r :: rs ≠ a :: b :: a :: b :: rest) → Cut rs bs → Cut (r :: rs) (.run r :: bs)
  | pattern {a b : Run} {k : ℕ} {rs : List Run} {bs : List Block} :
      2 ≤ k → (∀ rest, rs ≠ a :: b :: rest) → Cut rs bs →
        Cut ((List.replicate k [a, b]).flatten ++ rs) (.pattern a b k :: bs)

/-- The counts of a block fit their fields: two bytes for a run that stands by itself, one byte for
each count of a pattern. -/
def Block.Fits : Block → Prop
  | .run r => r.2 ≤ 65535
  | .pattern a b k => a.2 ≤ 255 ∧ b.2 ≤ 255 ∧ k ≤ 255

/-! ### The runs are found -/

theorem lutIndex_of_lt {lut : List Bytes} (hnodup : lut.Nodup) {c : ℕ} (hc : c < lut.length) :
    lutIndex lut (lut.getD c []) = .ok c := by
  have hget : lut.getD c [] = lut[c] := by rw [List.getD_eq_getElem _ _ hc]
  rw [lutIndex, hget, if_pos (List.getElem_mem hc), hnodup.idxOf_getElem c hc]

/-- A run is found slice by slice. -/
theorem pushRun_replicate {lut : List Bytes} (hnodup : lut.Nodup) {c : ℕ} (hc : c < lut.length)
    (n : ℕ) : ∀ (rs : List Run) (m : ℕ),
      (List.replicate n (lut.getD c [])).foldlM (pushRun lut) (rs ++ [(c, m)]) =
        .ok (rs ++ [(c, m + n)]) := by
  induction n with
  | zero => intro rs m; rfl
  | succ n ih =>
      intro rs m
      have hstep : pushRun lut (rs ++ [(c, m)]) (lut.getD c []) = .ok (rs ++ [(c, m + 1)]) := by
        rw [pushRun, lutIndex_of_lt hnodup hc, ok_bind, List.getLast?_concat]
        simp only [if_true, List.dropLast_concat]
        rfl
      rw [List.replicate_succ, List.foldlM_cons, hstep, ok_bind, ih, Nat.add_right_comm,
        Nat.add_assoc]

/-- A run starts where the last one has another entry. -/
theorem pushRun_new {lut : List Bytes} (hnodup : lut.Nodup) {c : ℕ} (hc : c < lut.length)
    {rs : List Run} (hlast : ∀ r ∈ rs.getLast?, r.1 ≠ c) :
    pushRun lut rs (lut.getD c []) = .ok (rs ++ [(c, 1)]) := by
  rw [pushRun, lutIndex_of_lt hnodup hc, ok_bind]
  cases h : rs.getLast? with
  | none =>
      rw [List.getLast?_eq_none_iff] at h
      rw [h]
      rfl
  | some r => exact congrArg _ (if_neg (hlast r (by rw [h]; rfl)))

/-- The slices of a run are as many copies of its entry as it counts. -/
theorem chunksOf_mulBytes {al : ℕ} (hal : 0 < al) {e : Bytes} (he : e.length = al) (n : ℕ)
    (rest : Bytes) : chunksOf al (mulBytes e n ++ rest) = List.replicate n e ++ chunksOf al rest := by
  induction n with
  | zero => rfl
  | succ n ih =>
      have hsplit : mulBytes e (n + 1) ++ rest = e ++ (mulBytes e n ++ rest) := by
        simp [mulBytes, List.replicate_succ]
      have hne : e ++ (mulBytes e n ++ rest) ≠ [] := by
        intro h
        have := congrArg List.length h
        simp only [List.length_append, List.length_nil] at this
        omega
      rw [hsplit, chunksOf_cons hal hne, List.take_left' he, List.drop_left' he, ih,
        List.replicate_succ, List.cons_append]

/-- **The first loop** finds the runs that the channel consists of. -/
theorem pushRuns_ok {lut : List Bytes} (hnodup : lut.Nodup) {al : ℕ} (hal : 0 < al)
    (hlen : ∀ e ∈ lut, e.length = al) (rs : List Run) :
    ∀ (acc : List Run), (∀ r ∈ rs, r.1 < lut.length ∧ 1 ≤ r.2) →
      (acc ++ rs).IsChain (fun r r' => r.1 ≠ r'.1) →
      (chunksOf al (runsBytes lut rs)).foldlM (pushRun lut) acc = .ok (acc ++ rs) := by
  induction rs with
  | nil =>
      intro acc _ _
      simp [runsBytes, chunksOf_nil hal, pure, Except.pure]
  | cons r rs ih =>
      intro acc hin hchain
      obtain ⟨⟨hc, hpos⟩, hin⟩ := List.forall_mem_cons.1 hin
      have hmem : lut.getD r.1 [] ∈ lut := by
        rw [List.getD_eq_getElem _ _ hc]
        exact List.getElem_mem hc
      have hbytes : runsBytes lut (r :: rs) = mulBytes (lut.getD r.1 []) r.2 ++ runsBytes lut rs := by
        simp [runsBytes]
      obtain ⟨n, hn⟩ : ∃ n, r.2 = n + 1 := ⟨r.2 - 1, by omega⟩
      have hlast : ∀ r' ∈ acc.getLast?, r'.1 ≠ r.1 := by
        intro r' hr'
        exact (List.isChain_append.1 hchain).2.2 r' hr' r (by simp)
      rw [hbytes, chunksOf_mulBytes hal (hlen _ hmem), List.foldlM_append, hn, List.replicate_succ,
        List.foldlM_cons, pushRun_new hnodup hc hlast, ok_bind, pushRun_replicate hnodup hc, ok_bind]
      have hr : (r.1, 1 + n) = r := Prod.ext rfl (by simp only; omega)
      rw [hr, ih (acc ++ [r]) hin (by simpa using hchain)]
      simp

/-- A channel that is put together from entries consists of runs. -/
theorem exists_runsOf (lut : List Bytes) (es : List Bytes) (hes : ∀ e ∈ es, e ∈ lut) :
    ∃ rs, RunsOf lut rs es.flatten := by
  induction es with
  | nil => exact ⟨[], by simp, .nil, rfl⟩
  | cons e es ih =>
      obtain ⟨he, hes⟩ := List.forall_mem_cons.1 hes
      obtain ⟨rs, hin, hdiffer, hbytes⟩ := ih hes
      obtain ⟨c, hc, rfl⟩ := List.getElem_of_mem he
      have hnew : (∀ r ∈ rs.head?, c ≠ r.1) → RunsOf lut ((c, 1) :: rs) (lut[c] :: es).flatten := by
        intro hhead
        refine ⟨List.forall_mem_cons.2 ⟨⟨hc, le_rfl⟩, hin⟩, List.isChain_cons.2 ⟨hhead, hdiffer⟩, ?_⟩
        rw [List.flatten_cons, hbytes]
        simp [runsBytes, mulBytes, hc]
      cases rs with
      | nil => exact ⟨_, hnew (by simp)⟩
      | cons r rs =>
          by_cases hr : c = r.1
          · -- the entry makes the first run longer
            obtain ⟨⟨hr1, hr2⟩, hin'⟩ := List.forall_mem_cons.1 hin
            refine ⟨(r.1, r.2 + 1) :: rs, List.forall_mem_cons.2 ⟨⟨hr1, by omega⟩, hin'⟩, ?_, ?_⟩
            · rw [List.isChain_cons] at hdiffer ⊢
              exact hdiffer
            · rw [List.flatten_cons, hbytes]
              simp [runsBytes, mulBytes, ← hr, hc, List.replicate_succ]
          · exact ⟨_, hnew (by simpa using hr)⟩

/-! ### The blocks are found -/

theorem patternAt_eq_none {rs : List Run} :
    patternAt rs = none ↔ ∀ a b rest, rs ≠ a :: b :: a :: b :: rest := by
  constructor
  · rintro h a b rest rfl
    simp [patternAt] at h
  · intro h
    cases hp : patternAt rs with
    | none => rfl
    | some p =>
        obtain ⟨rest, hrest⟩ := patternAt_eq_some hp
        exact absurd hrest (h _ _ _)

/-- What the inner loop counts is what stands there, and it stops where the pair does not follow. -/
theorem countPattern_spec (a b : Run) (rs : List Run) :
    rs = (List.replicate (countPattern a b rs).1 [a, b]).flatten ++ (countPattern a b rs).2 ∧
      ∀ rest, (countPattern a b rs).2 ≠ a :: b :: rest := by
  induction rs using countPattern.induct a b with
  | case1 x y rs h ih =>
      obtain ⟨rfl, rfl⟩ := h
      rw [countPattern, if_pos ⟨rfl, rfl⟩]
      refine ⟨?_, ih.2⟩
      simp only [List.replicate_succ, List.flatten_cons, List.cons_append, List.nil_append]
      rw [← ih.1]
  | case2 x y rs h =>
      rw [countPattern, if_neg h]
      refine ⟨rfl, ?_⟩
      intro rest heq
      obtain ⟨hx, heq⟩ := List.cons.inj heq
      obtain ⟨hy, -⟩ := List.cons.inj heq
      exact h ⟨hx, hy⟩
  | case3 rs h =>
      have hcount : countPattern a b rs = (0, rs) := by rw [countPattern]; exact h
      rw [hcount]
      exact ⟨rfl, fun rest heq => h _ _ _ heq⟩

theorem countPattern_replicate {a b : Run} {rs : List Run} (h : ∀ rest, rs ≠ a :: b :: rest)
    (k : ℕ) : countPattern a b ((List.replicate k [a, b]).flatten ++ rs) = (k, rs) := by
  induction k with
  | zero =>
      obtain ⟨hspec, -⟩ := countPattern_spec a b rs
      rw [List.replicate_zero, List.flatten_nil, List.nil_append]
      cases hk : (countPattern a b rs).1 with
      | zero =>
          rw [hk] at hspec
          exact Prod.ext hk hspec.symm
      | succ k =>
          rw [hk] at hspec
          exact absurd hspec (h _)
  | succ k ih =>
      simp only [List.replicate_succ, List.flatten_cons, List.cons_append, List.nil_append,
        countPattern, ih, and_self, if_true]

/-- Every list of runs forms blocks. -/
theorem exists_cut (rs : List Run) : ∃ bs, Cut rs bs := by
  induction h : rs.length using Nat.strong_induction_on generalizing rs with
  | _ n ih =>
      subst h
      cases rs with
      | nil => exact ⟨[], .nil⟩
      | cons r rs =>
          cases hp : patternAt (r :: rs) with
          | none =>
              obtain ⟨bs, hbs⟩ := ih rs.length (by simp) rs rfl
              exact ⟨_, .run (patternAt_eq_none.1 hp) hbs⟩
          | some p =>
              obtain ⟨rest, hrest⟩ := patternAt_eq_some hp
              have hlen := length_countPattern p.1 p.2 (r :: rs)
              obtain ⟨hsplit, hstop⟩ := countPattern_spec p.1 p.2 (r :: rs)
              have hk : 2 ≤ (countPattern p.1 p.2 (r :: rs)).1 := by
                rw [hrest]
                simp only [countPattern, and_self, if_true]
                omega
              obtain ⟨bs, hbs⟩ := ih _ (by omega) (countPattern p.1 p.2 (r :: rs)).2 rfl
              have hcut := Cut.pattern hk hstop hbs
              rw [← hsplit] at hcut
              exact ⟨_, hcut⟩

/-! ### The blocks are written -/

instance decidableFits : (b : Block) → Decidable b.Fits
  | .run r => inferInstanceAs (Decidable (r.2 ≤ 65535))
  | .pattern a b k => inferInstanceAs (Decidable (a.2 ≤ 255 ∧ b.2 ≤ 255 ∧ k ≤ 255))

/-- The runs of a block. -/
def Block.runs : Block → List Run
  | .run r => [r]
  | .pattern a b _ => [a, b]

/-- The instruction for a block, whose counts are taken modulo the size of their fields. -/
def Block.code (lid : ℕ) : Block → Bytes
  | .run r => [2, UInt8.ofNat lid, UInt8.ofNat r.1] ++ wordBytes r.2
  | .pattern a b k =>
      [3, UInt8.ofNat lid, 2, UInt8.ofNat k, UInt8.ofNat a.1, UInt8.ofNat a.2, UInt8.ofNat b.1,
        UInt8.ofNat b.2]

/-- The instruction for a block, as the encoder packs it. -/
def packBlock (lid : ℕ) : Block → Except Fault Bytes
  | .run r => packRun lid r
  | .pattern a b k => packPattern lid k a b

theorem packB_eq (n : ℕ) : packB n =
    if n < 256 then .ok [UInt8.ofNat n] else .error (.builtin .structError) := by
  simp only [packB, byteOr, Int.toNat_natCast]
  exact if_congr (by omega) rfl rfl

theorem packH_eq (n : ℕ) : packH n =
    if n < 65536 then .ok (wordBytes n) else .error (.builtin .structError) := by
  simp only [packH, Int.toNat_natCast]
  exact if_congr (by omega) rfl rfl

/-- **One block** is packed when it fits, and `struct.pack` raises when it does not. -/
theorem packBlock_eq {lid : ℕ} (hlid : lid < 256) {b : Block} (hb : ∀ r ∈ b.runs, r.1 < 256) :
    packBlock lid b =
      if b.Fits then .ok (b.code lid) else .error (.builtin .structError) := by
  cases b with
  | run r =>
      have hr : r.1 < 256 := hb r (by simp [Block.runs])
      by_cases hfit : r.2 ≤ 65535
      · rw [if_pos (show Block.Fits (.run r) from hfit)]
        simp [packBlock, packRun, packB_eq, packH_eq, hlid, hr, Block.code,
          show r.2 < 65536 by omega, pure, Except.pure]
      · rw [if_neg (show ¬Block.Fits (.run r) from hfit)]
        simp [packBlock, packRun, packB_eq, packH_eq, hlid, hr, show ¬r.2 < 65536 by omega]
  | pattern a b k =>
      have ha : a.1 < 256 := hb a (by simp [Block.runs])
      have hb : b.1 < 256 := hb b (by simp [Block.runs])
      simp only [packBlock, packPattern, packB_eq, if_pos hlid, if_pos ha, if_pos hb, ok_bind]
      by_cases hk : k < 256
      · by_cases ha2 : a.2 < 256
        · by_cases hb2 : b.2 < 256
          · rw [if_pos (show Block.Fits (.pattern a b k) from ⟨by omega, by omega, by omega⟩)]
            simp [hk, ha2, hb2, Block.code, pure, Except.pure]
          · rw [if_neg (show ¬Block.Fits (.pattern a b k) from fun h => hb2 (by have := h.2.1; omega))]
            simp [hk, ha2, hb2]
        · rw [if_neg (show ¬Block.Fits (.pattern a b k) from fun h => ha2 (by have := h.1; omega))]
          simp [hk, ha2]
      · rw [if_neg (show ¬Block.Fits (.pattern a b k) from fun h => hk (by have := h.2.2; omega))]
        simp [hk]

theorem emitRuns_nil (lid : ℕ) (ow : Bytes) (oc : ℕ) : emitRuns lid ow oc [] = .ok (ow, oc) := by
  rw [emitRuns]
  rfl

theorem emitRuns_run (lid : ℕ) (ow : Bytes) (oc : ℕ) {r : Run} {rs : List Run}
    (h : patternAt (r :: rs) = none) : emitRuns lid ow oc (r :: rs) = (do
      let op ← packBlock lid (.run r)
      emitRuns lid (ow ++ op) (oc + 1) rs) := by
  rw [emitRuns]
  split
  · next hp => rw [h] at hp; simp at hp
  · rfl

theorem emitRuns_pattern (lid : ℕ) (ow : Bytes) (oc : ℕ) {a b : Run} {k : ℕ} {rs : List Run}
    (hk : 2 ≤ k) (h : ∀ rest, rs ≠ a :: b :: rest) :
    emitRuns lid ow oc ((List.replicate k [a, b]).flatten ++ rs) = (do
      let op ← packBlock lid (.pattern a b k)
      emitRuns lid (ow ++ op) (oc + 1) rs) := by
  have hcount := countPattern_replicate h k
  obtain ⟨n, rfl⟩ : ∃ n, k = n + 2 := ⟨k - 2, by omega⟩
  simp only [List.replicate_succ, List.flatten_cons, List.cons_append, List.nil_append] at hcount ⊢
  rw [emitRuns]
  split
  · next a' b' hp =>
      obtain ⟨rfl, rfl⟩ : a = a' ∧ b = b' := by simpa [patternAt] using hp
      rw [hcount]
      rfl
  · next hp => simp [patternAt] at hp

/-- **The second loop** writes the blocks, and raises when one of them does not fit. -/
theorem emitRuns_eq {lid : ℕ} (hlid : lid < 256) {rs : List Run} {bs : List Block}
    (hcut : Cut rs bs) (hrs : ∀ r ∈ rs, r.1 < 256) (ow : Bytes) (oc : ℕ) :
    emitRuns lid ow oc rs =
      if ∀ b ∈ bs, b.Fits then .ok (ow ++ (bs.map (Block.code lid)).flatten, oc + bs.length)
      else .error (.builtin .structError) := by
  -- one block is written, then the others: it decides first
  have hstep : ∀ (b : Block) (bs : List Block) (rest : List Run), (∀ r ∈ b.runs, r.1 < 256) →
      (∀ ow oc, emitRuns lid ow oc rest =
        if ∀ b ∈ bs, b.Fits then .ok (ow ++ (bs.map (Block.code lid)).flatten, oc + bs.length)
        else .error (.builtin .structError)) → ∀ ow oc,
      (do let op ← packBlock lid b; emitRuns lid (ow ++ op) (oc + 1) rest) =
        if ∀ b' ∈ b :: bs, b'.Fits then
          .ok (ow ++ ((b :: bs).map (Block.code lid)).flatten, oc + (b :: bs).length)
        else .error (.builtin .structError) := by
    intro b bs rest hb hrest ow oc
    rw [packBlock_eq hlid hb]
    by_cases hfit : b.Fits
    · rw [if_pos hfit, ok_bind, hrest]
      refine if_congr (by simp [hfit]) ?_ rfl
      simp only [List.map_cons, List.flatten_cons, List.length_cons, List.append_assoc]
      rw [Nat.add_assoc, Nat.add_comm 1]
    · rw [if_neg hfit, error_bind, if_neg fun h => hfit (h b (by simp))]
  induction hcut generalizing ow oc with
  | nil => simp [emitRuns_nil]
  | run hne hcut ih =>
      rw [emitRuns_run lid ow oc (patternAt_eq_none.2 hne)]
      exact hstep _ _ _ (fun r hr => hrs r (by simp_all [Block.runs]))
        (ih fun r hr => hrs r (by simp [hr])) ow oc
  | @pattern a b k rs bs hk hstop hcut ih =>
      rw [emitRuns_pattern lid ow oc hk hstop]
      have hmem : ∀ r ∈ Block.runs (.pattern a b k), r ∈ (List.replicate k [a, b]).flatten := by
        intro r hr
        exact List.mem_flatten.2 ⟨[a, b], List.mem_replicate.2 ⟨by omega, rfl⟩, hr⟩
      exact hstep _ _ _ (fun r hr => hrs r (List.mem_append_left _ (hmem r hr)))
        (ih fun r hr => hrs r (List.mem_append_right _ hr)) ow oc

/-- **The encoder** on a channel of given runs and blocks. -/
theorem encode2dLutChannel_eq {tid lid : ℕ} (htid : tid < 256) (hlid : lid < 256) {lut : List Bytes}
    (hlut : LutShape lut) {raw : Bytes} (hne : raw ≠ []) {rs : List Run} {bs : List Block}
    (hrs : RunsOf lut rs raw) (hcut : Cut rs bs) :
    encode2dLutChannel tid lid raw lut =
      if (∀ b ∈ bs, b.Fits) ∧ bs.length ≤ 255 then
        .ok ([UInt8.ofNat tid, UInt8.ofNat bs.length] ++ (bs.map (Block.code lid)).flatten)
      else .error (.builtin .structError) := by
  obtain ⟨⟨hpos, hcount⟩, hnodup, al, hal, -, hlen⟩ := hlut
  have hfirst : index lut 0 = (.ok lut[0] : Except Fault _) := index_of_lt hpos
  have hsmall : ∀ r ∈ rs, r.1 < 256 := fun r hr => by
    have := (hrs.inLut r hr).1
    omega
  have hslices : (chunksOf al raw).foldlM (pushRun lut) [] = .ok rs := by
    rw [hrs.bytes]
    exact pushRuns_ok hnodup hal hlen rs [] hrs.inLut hrs.differ
  simp only [encode2dLutChannel, raiseIf_neg hne, ok_bind, hfirst, hlen _ (List.getElem_mem hpos),
    if_neg (by omega : ¬al = 0), hslices, emitRuns_eq hlid hcut hsmall, packB_eq, if_pos htid]
  by_cases hfit : ∀ b ∈ bs, b.Fits
  · simp only [if_pos hfit, ok_bind, Nat.zero_add, List.nil_append]
    by_cases hoc : bs.length ≤ 255
    · rw [if_pos (by omega), if_pos ⟨hfit, hoc⟩]
      rfl
    · rw [if_neg (by omega), if_neg fun h => hoc h.2]
      rfl
  · rw [if_neg hfit, if_neg fun h => hfit h.1]
    rfl

/-! ### The instructions are executed -/

/-- Some bytes are read as `oc` instructions, which append `out` under the given tables. -/
def Yields (luts : Luts) (tpls : Tpls) (bops : Bytes) (oc : ℕ) (out : Bytes) : Prop :=
  ∃ is, is.length = oc ∧ (∀ s, (several oc instr).run (bops ++ s) = some (is, s)) ∧
    ∀ co, is.foldlM (fun co i => i.exec luts tpls co) co = some (co ++ out)

theorem Yields.nil (luts : Luts) (tpls : Tpls) : Yields luts tpls [] 0 [] :=
  ⟨[], rfl, fun _ => rfl, fun co => by simp⟩

theorem Yields.cons {luts : Luts} {tpls : Tpls} {op bops o out : Bytes} {oc : ℕ} {i : Instr}
    (hread : ∀ s, instr.run (op ++ s) = some (i, s))
    (hexec : ∀ co, i.exec luts tpls co = some (co ++ o)) (h : Yields luts tpls bops oc out) :
    Yields luts tpls (op ++ bops) (oc + 1) (o ++ out) := by
  obtain ⟨is, hlen, hreads, hexecs⟩ := h
  refine ⟨i :: is, by simp [hlen], fun s => ?_, fun co => ?_⟩
  · simp only [several_succ, run_bind_eq_some_iff, run_pure_eq_some_iff, List.append_assoc]
    exact ⟨i, _, hread _, is, _, hreads s, rfl, rfl⟩
  · simp [hexec co, hexecs]

/-- **One channel**: a warm packet of a single channel is decoded to what its instructions append. -/
theorem decode_one_channel (Z : Zlib) {d : Decoder} {bops out : Bytes} {oc : ℕ} (hoc : 1 ≤ oc)
    (hoc' : oc ≤ 255) (h : Yields d.luts d.tpls bops oc out) :
    ∃ d', (decode Z ([0x8D, 1] ++ ([1, UInt8.ofNat oc] ++ bops))).run d = .ok [(1, out)] d' := by
  obtain ⟨is, -, hreads, hexecs⟩ := h
  have hcount := byte_cons (UInt8.ofNat oc) bops
  have hread := hreads []
  rw [toNat_ofNat (by omega)] at hcount
  rw [List.append_nil] at hread
  have hchannel : (channel 1).run (1 :: UInt8.ofNat oc :: bops) = some (is, []) := by
    simp only [channel, run_bind_eq_some_iff, run_guard_eq_some_iff]
    exact ⟨1, _, byte_cons 1 _, oc, _, hcount, (), _, ⟨⟨rfl, hoc⟩, rfl⟩, hread⟩
  have hchannels : (channels 1 1).run (1 :: UInt8.ofNat oc :: bops) = some ([is], []) := by
    simp only [channels, run_bind_eq_some_iff, run_pure_eq_some_iff]
    exact ⟨is, [], hchannel, [], [], ⟨rfl, rfl⟩, rfl, rfl⟩
  refine (decode_warm_iff Z (by rfl)).2 ⟨[is], [], ?_, by simp [execProgram, execFrom, hexecs]⟩
  simp only [program, run_bind_eq_some_iff, run_guard_eq_some_iff, run_pure_eq_some_iff]
  exact ⟨_, _, byte_cons 0x8D _, _, _, byte_cons 1 _, (), _, ⟨⟨rfl, le_rfl⟩, rfl⟩, [is], [],
    hchannels, 0, [], rfl, (), [], ⟨rfl, rfl⟩, rfl, rfl⟩

/-- The bytes of a block. -/
def Block.bytes (lut : List Bytes) : Block → Bytes
  | .run r => runsBytes lut [r]
  | .pattern a b k => mulBytes (runsBytes lut [a, b]) k

theorem runsBytes_append (lut : List Bytes) (rs rs' : List Run) :
    runsBytes lut (rs ++ rs') = runsBytes lut rs ++ runsBytes lut rs' := by
  simp [runsBytes]

theorem runsBytes_replicate (lut : List Bytes) (rs : List Run) (k : ℕ) :
    runsBytes lut (List.replicate k rs).flatten = mulBytes (runsBytes lut rs) k := by
  induction k with
  | zero => rfl
  | succ k ih =>
      rw [List.replicate_succ, List.flatten_cons, runsBytes_append, ih]
      simp [mulBytes, List.replicate_succ]

/-- The instruction for a block is read and appends the bytes of the block. -/
theorem block_yields {luts : Luts} (tpls : Tpls) {lid : ℕ} (hlid : lid < 256) {lut : List Bytes}
    (hlook : luts.lookup lid = some lut) (hcount : lut.length ≤ 255) {b : Block} (hfit : b.Fits)
    (hin : ∀ r ∈ b.runs, r.1 < lut.length ∧ 1 ≤ r.2) (hk : ∀ a a' k, b = .pattern a a' k → 1 ≤ k) :
    ∃ i, (∀ s, instr.run (b.code lid ++ s) = some (i, s)) ∧
      ∀ co, i.exec luts tpls co = some (co ++ b.bytes lut) := by
  have hbyte : ∀ n s, n < 256 → byte.run (UInt8.ofNat n :: s) = some (n, s) := by
    intro n s hn
    have h := byte_cons (UInt8.ofNat n) s
    rwa [toNat_ofNat hn] at h
  have hentry : ∀ r : Run, r.1 < lut.length → lut[r.1]? = some (lut.getD r.1 []) := by
    intro r hr
    rw [List.getD_eq_getElem _ _ hr, List.getElem?_eq_getElem hr]
  cases b with
  | run r =>
      obtain ⟨hr, hpos⟩ := hin r (by simp [Block.runs])
      have hword := word_wordBytes (show r.2 < 65536 by have : r.2 ≤ 65535 := hfit; omega)
      refine ⟨.lutRun lid r.1 r.2, fun s => ?_, fun co => ?_⟩
      · simp only [Block.code, instr, run_bind_eq_some_iff, List.cons_append, List.nil_append]
        refine ⟨2, _, byte_cons 2 _, ?_⟩
        simp only [operands, run_bind_eq_some_iff, run_guard_eq_some_iff, run_pure_eq_some_iff]
        exact ⟨_, _, hbyte _ _ hlid, _, _, hbyte _ _ (by omega), _, _, hword s, (), _,
          ⟨hpos, rfl⟩, rfl, rfl⟩
      · simp only [Instr.exec, hlook, hentry r hr, Option.bind_eq_bind, Option.bind_some,
          Option.pure_def, Block.bytes, runsBytes, List.map_cons, List.map_nil, List.flatten_cons,
          List.flatten_nil, List.append_nil]
  | pattern a b k =>
      obtain ⟨ha, hapos⟩ := hin a (by simp [Block.runs])
      obtain ⟨hb, hbpos⟩ := hin b (by simp [Block.runs])
      obtain ⟨ha2, hb2, hk2⟩ := hfit
      refine ⟨.lutPattern2d lid k [a, b], fun s => ?_, fun co => ?_⟩
      · simp only [Block.code, instr, run_bind_eq_some_iff, List.cons_append, List.nil_append]
        refine ⟨3, _, byte_cons 3 _, ?_⟩
        simp only [operands, run_bind_eq_some_iff, run_guard_eq_some_iff, run_pure_eq_some_iff]
        refine ⟨_, _, hbyte _ _ hlid, 2, _, byte_cons 2 _, _, _, hbyte _ _ (by omega), (), _,
          ⟨⟨by omega, hk a b k rfl⟩, rfl⟩, [a, b], s, ?_, rfl, rfl⟩
        simp only [several, pair, run_bind_eq_some_iff, run_pure_eq_some_iff]
        exact ⟨a, _, ⟨_, _, hbyte _ _ (by omega), _, _, hbyte _ _ (by omega), rfl, rfl⟩, [b], s,
          ⟨b, _, ⟨_, _, hbyte _ _ (by omega), _, _, hbyte _ _ (by omega), rfl, rfl⟩, [], s,
            ⟨rfl, rfl⟩, rfl, rfl⟩, rfl, rfl⟩
      · have hrow : [a, b].foldlM (fillCell lut) [] = some (runsBytes lut [a, b]) := by
          simp only [List.foldlM_cons, List.foldlM_nil, fillCell, hentry a ha, hentry b hb, guard,
            if_pos hapos, if_pos hbpos, Option.pure_def, Option.bind_eq_bind, Option.bind_some,
            runsBytes, List.map_cons, List.map_nil, List.flatten_cons, List.flatten_nil,
            List.append_nil, List.nil_append]
        simp only [Instr.exec, hlook, hrow, Option.bind_eq_bind, Option.bind_some, Option.pure_def,
          Block.bytes]

/-- The blocks append the bytes of the runs. -/
theorem blocks_yield {luts : Luts} (tpls : Tpls) {lid : ℕ} (hlid : lid < 256) {lut : List Bytes}
    (hlook : luts.lookup lid = some lut) (hcount : lut.length ≤ 255) {rs : List Run}
    {bs : List Block} (hcut : Cut rs bs) (hfit : ∀ b ∈ bs, b.Fits)
    (hin : ∀ r ∈ rs, r.1 < lut.length ∧ 1 ≤ r.2) :
    Yields luts tpls (bs.map (Block.code lid)).flatten bs.length (runsBytes lut rs) := by
  induction hcut with
  | nil => exact .nil luts tpls
  | @run r rs bs _ hcut ih =>
      obtain ⟨hb, hfit⟩ := List.forall_mem_cons.1 hfit
      obtain ⟨hr, hin⟩ := List.forall_mem_cons.1 hin
      obtain ⟨i, hread, hexec⟩ := block_yields tpls hlid hlook hcount hb
        (by simpa [Block.runs] using hr) (by simp)
      have h := (ih hfit hin).cons hread hexec
      rwa [show (Block.run r).bytes lut ++ runsBytes lut rs = runsBytes lut (r :: rs) from
        (runsBytes_append lut [r] rs).symm] at h
  | @pattern a b k rs bs hk _ hcut ih =>
      obtain ⟨hb, hfit⟩ := List.forall_mem_cons.1 hfit
      have hmem : ∀ r ∈ Block.runs (.pattern a b k), r ∈ (List.replicate k [a, b]).flatten := by
        intro r hr
        exact List.mem_flatten.2 ⟨[a, b], List.mem_replicate.2 ⟨by omega, rfl⟩, hr⟩
      obtain ⟨i, hread, hexec⟩ := block_yields tpls hlid hlook hcount hb
        (fun r hr => hin r (List.mem_append_left _ (hmem r hr)))
        (fun _ _ _ h => by obtain ⟨-, -, rfl⟩ := Block.pattern.inj h; omega)
      have h := (ih hfit fun r hr => hin r (List.mem_append_right _ hr)).cons hread hexec
      rwa [show (Block.pattern a b k).bytes lut ++ runsBytes lut rs =
        runsBytes lut ((List.replicate k [a, b]).flatten ++ rs) by
          rw [runsBytes_append, runsBytes_replicate]; rfl] at h

/-! ### Which channels survive -/

/-- The channel is encoded, and a decoder that has the table decodes it to what was encoded. -/
def LutRoundTrip (Z : Zlib) (lid : ℕ) (lut : List Bytes) (raw : Bytes) : Prop :=
  ∃ ch, encode2dLutChannel 1 lid raw lut = .ok ch ∧
    ∀ d : Decoder, d.luts.lookup lid = some lut →
      ∃ d', (decode Z ([0x8D, 1] ++ ch)).run d = .ok [(1, raw)] d'

/-- **Which channels survive the round trip.**  A channel that is put together from the entries of a
table is encoded, and decoded to itself, exactly when the counts of the blocks that its runs form fit
their fields and there are at most 255 blocks. -/
theorem encode2dLutChannel_iff (Z : Zlib) {lid : ℕ} (hlid : lid < 256) {lut : List Bytes}
    (hlut : LutShape lut) {raw : Bytes} (hne : raw ≠ [])
    (hraw : ∃ es : List Bytes, (∀ e ∈ es, e ∈ lut) ∧ raw = es.flatten) :
    LutRoundTrip Z lid lut raw ↔ ∃ rs bs, RunsOf lut rs raw ∧ Cut rs bs ∧
      (∀ b ∈ bs, b.Fits) ∧ bs.length ≤ 255 := by
  have hone : (1 : ℕ) < 256 := by decide
  constructor
  · rintro ⟨ch, hok, -⟩
    obtain ⟨es, hes, rfl⟩ := hraw
    obtain ⟨rs, hrs⟩ := exists_runsOf lut es hes
    obtain ⟨bs, hcut⟩ := exists_cut rs
    have heq := encode2dLutChannel_eq hone hlid hlut hne hrs hcut
    rw [Nat.cast_one, hok] at heq
    by_cases hfit : (∀ b ∈ bs, b.Fits) ∧ bs.length ≤ 255
    · exact ⟨rs, bs, hrs, hcut, hfit⟩
    · rw [if_neg hfit] at heq
      simp at heq
  · rintro ⟨rs, bs, hrs, hcut, hfit, hoc⟩
    have heq := encode2dLutChannel_eq hone hlid hlut hne hrs hcut
    rw [Nat.cast_one, if_pos ⟨hfit, hoc⟩] at heq
    refine ⟨_, heq, fun d hd => ?_⟩
    have hbs : bs ≠ [] := by
      rintro rfl
      cases hcut
      exact hne hrs.bytes
    rw [hrs.bytes]
    exact decode_one_channel Z (List.length_pos_iff.2 hbs) hoc
      (blocks_yield d.tpls hlid hd hlut.count.2 hcut hfit hrs.inLut)

/-- A pair of entries, repeated with one of them twice. -/
theorem encode2dLutChannel_iff_sample : LutRoundTrip .refusing 3 [[7], [9]] [7, 7, 9, 7, 7, 9] := by
  refine (encode2dLutChannel_iff .refusing (by decide) ⟨by decide, by decide, 1, by decide, by decide,
    by decide⟩ (by decide) ⟨[[7], [7], [9], [7], [7], [9]], by decide, rfl⟩).2
    ⟨[(0, 2), (1, 1), (0, 2), (1, 1)], [.pattern (0, 2) (1, 1) 2],
      ⟨by decide, by decide, by decide⟩, ?_, by decide, by decide⟩
  exact .pattern (a := (0, 2)) (b := (1, 1)) (k := 2) le_rfl (by simp) .nil

/-- Two entries that take turns 256 times: the number of the rows does not fit its byte, and
`struct.pack` raises. -/
theorem encode2dLutChannel_overflow :
    ¬∀ (lut : List Bytes) (raw : Bytes), LutShape lut → raw ≠ [] →
      (∃ es : List Bytes, (∀ e ∈ es, e ∈ lut) ∧ raw = es.flatten) →
        LutRoundTrip .refusing 1 lut raw := by
  intro h
  have hshape : LutShape [[0], [1]] := ⟨by decide, by decide, 1, by decide, by decide, by decide⟩
  have hne : mulBytes [0, 1] 256 ≠ [] := by decide +kernel
  have hmem : ∀ r ∈ (List.replicate 256 [(0, 1), (1, 1)]).flatten, r ∈ [((0 : ℕ), (1 : ℕ)), (1, 1)] := by
    intro r hr
    obtain ⟨l, hl, hr⟩ := List.mem_flatten.1 hr
    rwa [(List.mem_replicate.1 hl).2] at hr
  have hin : ∀ r ∈ [((0 : ℕ), (1 : ℕ)), (1, 1)], r.1 < 2 ∧ 1 ≤ r.2 := by decide
  have hruns : RunsOf [[0], [1]] (List.replicate 256 [(0, 1), (1, 1)]).flatten (mulBytes [0, 1] 256) :=
    ⟨fun r hr => hin r (hmem r hr), by decide +kernel,
      (runsBytes_replicate [[0], [1]] [(0, 1), (1, 1)] 256).symm⟩
  have hcut : Cut (List.replicate 256 [(0, 1), (1, 1)]).flatten [.pattern (0, 1) (1, 1) 256] := by
    have hcut := Cut.pattern (a := (0, 1)) (b := (1, 1)) (k := 256) (by decide) (by simp) .nil
    rwa [List.append_nil] at hcut
  obtain ⟨ch, hok, -⟩ := h [[0], [1]] (mulBytes [0, 1] 256) hshape hne
    ⟨(List.replicate 256 [[0], [1]]).flatten, fun e he => by
      obtain ⟨l, hl, he⟩ := List.mem_flatten.1 he
      rwa [(List.mem_replicate.1 hl).2] at he, by decide +kernel⟩
  have heq := encode2dLutChannel_eq (show 1 < 256 by decide) (show 1 < 256 by decide) hshape hne hruns hcut
  rw [Nat.cast_one, hok, if_neg (by decide)] at heq
  simp at heq

end OriginCell
