/-
**The gate agrees with the decoder.**

The gate and the decoder were written separately and check the same things in different words and
in a different order.  Both are compared with the language of origin cell programs: each reads the
same grammar, the one executes what it reads, the other counts it, and counting an instruction is
executing it and taking the length.  What the gate adds to this, its limits and its demand for one
generating instruction, is then all that separates a packet it accepts from one that can be decoded.

Main definitions:

* `OriginCell.Instr.count` — how many bytes an instruction adds, without building them;
* `OriginCell.Instr.generates` — an instruction other than a literal or a patch;
* `OriginCell.tally` — the walk of the gate over a program that has been read;
* `OriginCell.bundleOf`, `OriginCell.programOf` — the bundle and the instructions of a packet.

Main results:

* `OriginCell.erase_countOp`, `OriginCell.erase_countMux` — the gate reads, then counts;
* `OriginCell.Instr.exec_length` — counting is executing and taking the length;
* `OriginCell.preflight_iff` — the packets the gate accepts, and the sizes it predicts.
-/

import Wuchang.CellSession
import Wuchang.CellSyntax
import Wuchang.CellPreflight

set_option relaxedAutoImplicit false
set_option autoImplicit false

namespace OriginCell

open Py

/-! ### Counting an instruction -/

/-- The bytes of a template filled with the values of a record, added to `n`. -/
def countFill (lut : List Bytes) (tpl : List ℤ) (n : ℕ) (r : List ℕ) : Option ℕ :=
  tpl.foldlM (fun n c => do
    let ent ← entryOf lut r c
    pure (n + ent.length)) n

/-- The bytes of one cell of a row, added to `n`. -/
def countCell (lut : List Bytes) (n : ℕ) (cell : ℕ × ℕ) : Option ℕ := do
  guard (1 ≤ cell.2)
  let ent ← lut[cell.1]?
  pure (n + ent.length * cell.2)

/-- A patch adds nothing, but its offset must lie inside the output. -/
def countOffset (size : ℕ) (_ : Unit) (p : ℕ × ℕ) : Option Unit := guard (p.1 < size)

/-- How many bytes an instruction adds to an output of `size` bytes. -/
def Instr.count (luts : Luts) (tpls : Tpls) (size : ℕ) : Instr → Option ℕ
  | .templateSeq lid pid _ rep recs => do
      let lut ← luts.lookup lid
      let tpl ← tpls.lookup pid
      let n ← recs.foldlM (countFill lut tpl) 0
      pure (n * rep)
  | .lutRun lid crd cnt => do
      let lut ← luts.lookup lid
      let ent ← lut[crd]?
      pure (ent.length * cnt)
  | .lutPattern2d lid rows cells => do
      let lut ← luts.lookup lid
      let n ← cells.foldlM (countCell lut) 0
      pure (n * rows)
  | .rawRepeat pat rep => some (pat.length * rep)
  | .rawArith2d _ _ sl rows => some (sl * rows)
  | .rawLiteral lit => some lit.length
  | .sparsePatch patches => do
      patches.foldlM (countOffset size) ()
      pure 0

/-- The opcode of an instruction. -/
def Instr.opcode : Instr → ℕ
  | .templateSeq .. => 1
  | .lutRun .. => 2
  | .lutPattern2d .. => 3
  | .rawRepeat .. => 4
  | .rawArith2d .. => 5
  | .rawLiteral _ => 6
  | .sparsePatch _ => 7

/-- An instruction that generates its bytes: any but a literal and a patch. -/
def Instr.generates (i : Instr) : Bool := decide (i.opcode ≤ 5)

@[simp] theorem length_mulBytes (data : Bytes) (n : ℕ) :
    (mulBytes data n).length = data.length * n := by
  simp [mulBytes, Nat.mul_comm]

theorem length_fillTemplate (lut : List Bytes) (tpl : List ℤ) (blk : Bytes) (r : List ℕ) :
    (fillTemplate lut tpl blk r).map List.length = countFill lut tpl blk.length r := by
  refine foldlM_map (fun blk c => ?_) tpl blk
  cases entryOf lut r c <;> simp

theorem length_fillCell (lut : List Bytes) (rb : Bytes) (cell : ℕ × ℕ) :
    (fillCell lut rb cell).map List.length = countCell lut rb.length cell := by
  unfold fillCell countCell
  by_cases h : 1 ≤ cell.2
  · cases lut[cell.1]? <;> simp [h]
  · simp only [h, guard_false]
    rfl

theorem length_patches (patches : List (ℕ × ℕ)) (co : Bytes) :
    (patches.foldlM patch co).map List.length =
      (patches.foldlM (countOffset co.length) ()).map fun _ => co.length := by
  induction patches generalizing co with
  | nil => rfl
  | cons p patches ih =>
      rw [List.foldlM_cons, List.foldlM_cons]
      by_cases h : p.1 < co.length
      · simp [patch, countOffset, h, ih]
      · simp only [patch, countOffset, h, guard_false]
        rfl

/-- **Counting an instruction is executing it and taking the length.** -/
theorem Instr.exec_length (luts : Luts) (tpls : Tpls) (co : Bytes) (i : Instr) :
    (i.exec luts tpls co).map List.length =
      (i.count luts tpls co.length).map (co.length + ·) := by
  cases i with
  | templateSeq lid pid cc rep recs =>
      cases hl : luts.lookup lid with
      | none => simp [Instr.exec, Instr.count, hl]
      | some lut =>
      cases ht : tpls.lookup pid with
      | none => simp [Instr.exec, Instr.count, hl, ht]
      | some tpl =>
      have hlen : (recs.foldlM (fillTemplate lut tpl) []).map List.length =
          recs.foldlM (countFill lut tpl) 0 := foldlM_map (length_fillTemplate lut tpl) recs []
      simp only [Instr.exec, Instr.count, hl, ht, Option.bind_eq_bind, Option.bind_some, ← hlen]
      cases recs.foldlM (fillTemplate lut tpl) [] <;> simp
  | lutRun lid crd cnt =>
      cases hl : luts.lookup lid with
      | none => simp [Instr.exec, Instr.count, hl]
      | some lut => cases hc : lut[crd]? <;> simp [Instr.exec, Instr.count, hl, hc]
  | lutPattern2d lid rows cells =>
      cases hl : luts.lookup lid with
      | none => simp [Instr.exec, Instr.count, hl]
      | some lut =>
      have hlen : (cells.foldlM (fillCell lut) []).map List.length =
          cells.foldlM (countCell lut) 0 := foldlM_map (length_fillCell lut) cells []
      simp only [Instr.exec, Instr.count, hl, Option.bind_eq_bind, Option.bind_some, ← hlen]
      cases cells.foldlM (fillCell lut) [] <;> simp
  | rawRepeat pat rep => simp [Instr.exec, Instr.count]
  | rawArith2d st sp sl rows => simp [Instr.exec, Instr.count, arithRow]
  | rawLiteral lit => simp [Instr.exec, Instr.count]
  | sparsePatch patches =>
      simp only [Instr.exec, Instr.count, length_patches]
      cases patches.foldlM (countOffset co.length) () <;> simp

/-! ### The gate reads an instruction and counts it -/

@[simp] theorem erase_viaDecoder {α : Type} (x : Cursor α) : erase (viaDecoder x) = erase x := by
  ext s : 1
  simp only [erase_run, EStateM.run, viaDecoder]
  cases x s <;> rfl

theorem erase_skip (n : ℕ) : erase (skip n) = erase (slice n) >>= fun _ => pure () := rfl

theorem erase_ahead : erase ahead = erase unread := rfl

theorem toOption_countPart {luts : Luts} {lid : ℕ} {lut : List Bytes}
    (hl : luts.lookup lid = some lut) {columns : ℕ} {indices : List ℕ}
    (hr : indices.length = columns) (n : ℕ) (part : ℤ) :
    (countPart luts lid columns indices n part).toOption = (do
      let ent ← entryOf lut indices part
      pure (n + ent.length)) := by
  have hidx : (countIndex columns indices part).toOption =
      if part < 0 then indices[(-part - 1).toNat]? else some part.toNat := by
    unfold countIndex
    by_cases hpart : part ≥ 0
    · simp only [hpart, if_true, if_neg (Int.not_lt.2 hpart)]
      rfl
    · simp only [hpart, if_false, if_pos (Int.not_le.1 hpart)]
      exact toOption_checked_index indices hr.symm _
  simp only [countPart, entryOf, toOption_bind, toOption_getKey, toOption_raiseIf, toOption_index,
    toOption_pure, hl, hidx, Option.bind_eq_bind, Option.bind_some, Option.bind_assoc]
  refine Option.bind_congr fun idx _ => ?_
  by_cases h : idx < lut.length
  · simp [h]
  · simp [h]

theorem erase_countTemplateSeq (luts : Luts) (tpls : Tpls) (size : ℕ) :
    erase (countTemplateSeq luts tpls) =
      operands 1 >>= fun i => liftM (i.count luts tpls size) := by
  simp only [countTemplateSeq, countRow, operands, erase_bind, erase_lift, erase_pure, erase_times,
    erase_viaDecoder, bind_assoc, pure_bind, toOption_raiseIf, toOption_getKey, erase_readBs,
    lift_guard, Instr.count]
  refine bind_congr fun lid => bind_congr fun pid => bind_congr fun rc => bind_congr fun cc =>
    bind_congr fun rep => ?_
  cases hl : luts.lookup lid with
  | none =>
      rw [guard_false_bind (by simp [not_mem_keys_of_lookup hl])]
      simp [bind_lift_none]
  | some lut =>
  cases ht : tpls.lookup pid with
  | none =>
      rw [guard_false_bind (by simp [not_mem_keys_of_lookup ht])]
      simp [bind_lift_none]
  | some tpl =>
  have hguard : (¬(lid ∉ luts.map Prod.fst ∨ pid ∉ tpls.map Prod.fst ∨ min (min rc cc) rep < 1)) =
      (1 ≤ rc ∧ 1 ≤ cc ∧ 1 ≤ rep) := by
    simp only [mem_keys_of_lookup hl, mem_keys_of_lookup ht, not_true_eq_false, false_or,
      eq_iff_iff]
    omega
  simp only [hguard, lift_some_bind]
  simp only [times_read, bind_assoc]
  refine bind_congr fun _ => bind_congr_of fun s recs s' hrecs => ?_
  have hrow : ∀ r ∈ recs, ∀ n, (tpl.foldlM (countPart luts lid cc r) n).toOption =
      countFill lut tpl n r := by
    intro r hr n
    rw [toOption_foldlM]
    exact foldlM_congr_mem tpl
      (fun c _ n => toOption_countPart hl (length_of_records hrecs r hr) n c) n
  simp only [foldlM_congr_mem recs hrow, lift_bind, lift_some_bind, lift_pure]

theorem erase_countLutRun (luts : Luts) (tpls : Tpls) (size : ℕ) :
    erase (countLutRun luts) = operands 2 >>= fun i => liftM (i.count luts tpls size) := by
  simp only [countLutRun, operands, erase_bind, erase_lift, erase_pure, erase_viaDecoder,
    bind_assoc, pure_bind, toOption_raiseIf, toOption_getKey, lift_guard, Instr.count]
  refine bind_congr fun lid => bind_congr fun crd => bind_congr fun cnt => ?_
  cases hl : luts.lookup lid with
  | none =>
      rw [guard_false_bind (by simp [not_mem_keys_of_lookup hl])]
      simp [bind_lift_none]
  | some lut =>
  rw [guard_true_bind (by simp [mem_keys_of_lookup hl]), lift_some_bind]
  by_cases hcrd : crd < lut.length
  · have hguard : (¬(crd ≥ lut.length ∨ cnt < 1)) = (1 ≤ cnt) := by
      simp only [eq_iff_iff]
      omega
    simp only [hguard, toOption_index, List.getElem?_eq_getElem hcrd, lift_bind, lift_some_bind,
      lift_pure]
  · rw [guard_false_bind (by omega)]
    simp [bind_lift_none, List.getElem?_eq_none (Nat.le_of_not_lt hcrd)]

theorem erase_countSegment {luts : Luts} {lut : List Bytes} {lid : ℕ}
    (hl : luts.lookup lid = some lut) (n : ℕ) :
    erase (countSegment luts lid n) = pair byte byte >>= fun c => liftM (countCell lut n c) := by
  simp only [countSegment, pair, erase_bind, erase_lift, erase_pure, erase_viaDecoder, bind_assoc,
    pure_bind, toOption_raiseIf, toOption_getKey, toOption_index, lift_guard, hl, lift_some_bind,
    countCell]
  refine bind_congr fun crd => bind_congr fun rl => ?_
  by_cases hcrd : crd < lut.length
  · have hguard : (¬(crd ≥ lut.length ∨ rl < 1)) = (1 ≤ rl) := by
      simp only [eq_iff_iff]
      omega
    simp only [hguard, List.getElem?_eq_getElem hcrd]
    simp only [lift_bind, lift_guard, lift_some_bind, lift_pure]
  · rw [guard_false_bind (by omega)]
    simp only [lift_bind, List.getElem?_eq_none (Nat.le_of_not_lt hcrd), lift_none_bind,
      bind_lift_none]

theorem erase_countLutPattern2d (luts : Luts) (tpls : Tpls) (size : ℕ) :
    erase (countLutPattern2d luts) = operands 3 >>= fun i => liftM (i.count luts tpls size) := by
  simp only [countLutPattern2d, operands, erase_bind, erase_lift, erase_pure, erase_times,
    erase_viaDecoder, bind_assoc, pure_bind, toOption_raiseIf, lift_guard, Instr.count]
  refine bind_congr fun lid => bind_congr fun sc => bind_congr fun rows => ?_
  cases hl : luts.lookup lid with
  | none =>
      rw [guard_false_bind (by simp [not_mem_keys_of_lookup hl])]
      simp [bind_lift_none]
  | some lut =>
  have hguard : (¬(lid ∉ luts.map Prod.fst ∨ min sc rows < 1)) = (1 ≤ sc ∧ 1 ≤ rows) := by
    simp only [mem_keys_of_lookup hl, not_true_eq_false, false_or, eq_iff_iff]
    omega
  simp only [hguard, erase_countSegment hl, times_read, bind_assoc]
  simp only [lift_bind, lift_some_bind, lift_pure]

theorem erase_countRawRepeat (luts : Luts) (tpls : Tpls) (size : ℕ) :
    erase countRawRepeat = operands 4 >>= fun i => liftM (i.count luts tpls size) := by
  simp only [countRawRepeat, operands, erase_bind, erase_lift, erase_pure, erase_viaDecoder,
    erase_ahead, erase_skip, bind_assoc, pure_bind, toOption_raiseIf, lift_guard, Instr.count]
  refine bind_congr fun pl => bind_congr fun rep => ?_
  by_cases hrep : 1 ≤ rep
  · have hguard : ∀ left, (¬(pl < 1 ∨ rep < 1 ∨ left < pl)) = (1 ≤ pl ∧ pl ≤ left) := by
      intro left
      simp only [eq_iff_iff]
      omega
    simp only [hguard]
    rw [guard_true_bind hrep]
    have hlen : (blob pl >>= fun pat => (liftM (some (pat.length * rep)) : Grammar ℕ)) =
        blob pl >>= fun _ => pure (pl * rep) :=
      bind_congr_of fun s pat s' h => by rw [length_of_blob h]; rfl
    rw [hlen]
    simp only [blob, bind_assoc]
  · rw [guard_false_bind hrep]
    have hguard : ∀ left, ¬¬(pl < 1 ∨ rep < 1 ∨ left < pl) := by
      intro left
      omega
    simp only [guard_false_bind (hguard _), bind_lift_none]

theorem erase_countRawArith2d (luts : Luts) (tpls : Tpls) (size : ℕ) :
    erase countRawArith2d = operands 5 >>= fun i => liftM (i.count luts tpls size) := by
  simp only [countRawArith2d, operands, erase_bind, erase_lift, erase_pure, erase_viaDecoder,
    bind_assoc, pure_bind, toOption_raiseIf, lift_guard, Instr.count, not_or, Nat.not_lt]
  rfl

theorem erase_countRawLiteral (luts : Luts) (tpls : Tpls) (size : ℕ) :
    erase countRawLiteral = operands 6 >>= fun i => liftM (i.count luts tpls size) := by
  simp only [countRawLiteral, operands, erase_bind, erase_lift, erase_pure, erase_viaDecoder,
    erase_ahead, erase_skip, bind_assoc, pure_bind, toOption_raiseIf, lift_guard, Instr.count,
    not_or, Nat.not_lt]
  refine bind_congr fun ll => ?_
  have hlen : (blob ll >>= fun lit => (liftM (some lit.length) : Grammar ℕ)) =
      blob ll >>= fun _ => pure ll :=
    bind_congr_of fun s lit s' h => by rw [length_of_blob h]; rfl
  rw [hlen]
  simp only [blob, bind_assoc]

theorem erase_countSparsePatch (luts : Luts) (tpls : Tpls) (size : ℕ) :
    erase (countSparsePatch size) = operands 7 >>= fun i => liftM (i.count luts tpls size) := by
  have hpatch : ∀ u : Unit, erase (countPatch size u) =
      pair word byte >>= fun p => liftM (countOffset size u p) := by
    intro u
    simp only [countPatch, pair, erase_bind, erase_lift, erase_viaDecoder, bind_assoc, pure_bind,
      toOption_raiseIf, lift_guard, countOffset, Nat.not_le]
    rfl
  simp only [countSparsePatch, operands, erase_bind, erase_lift, erase_times, erase_pure,
    erase_viaDecoder, bind_assoc, pure_bind, toOption_raiseIf, lift_guard, Instr.count, hpatch,
    times_read, Nat.not_lt, byte, lift_bind, lift_pure]

/-- What an instruction generates is known from its opcode. -/
theorem operands_generates {α : Type} {op : ℕ} (hop : op ∈ allowedOps)
    (f : Instr → Bool → Grammar α) :
    (operands op >>= fun i => f i i.generates) =
      operands op >>= fun i => f i (decide (op ≤ 5)) := by
  simp only [allowedOps, List.mem_cons, List.not_mem_nil, or_false] at hop
  rcases hop with rfl | rfl | rfl | rfl | rfl | rfl | rfl <;>
    simp only [operands, bind_assoc, pure_bind, Instr.generates, Instr.opcode] <;> rfl

/-- **One instruction is read by the gate as the decoder reads it**, then counted. -/
theorem erase_countOp (luts : Luts) (tpls : Tpls) (size : ℕ) :
    erase (countOp luts tpls size) = (do
      let i ← instr
      let increase ← liftM (i.count luts tpls size)
      pure (increase, i.generates)) := by
  simp only [countOp, instr, erase_bind, erase_viaDecoder, bind_assoc]
  refine bind_congr fun op => ?_
  by_cases hop : op ∈ allowedOps
  · rw [operands_generates hop fun i g => do
      let increase ← liftM (i.count luts tpls size)
      pure (increase, g)]
    simp only [allowedOps, List.mem_cons, List.not_mem_nil, or_false] at hop
    rcases hop with rfl | rfl | rfl | rfl | rfl | rfl | rfl
    · simp only [erase_bind, erase_pure, erase_countTemplateSeq luts tpls size, bind_assoc]
      rfl
    · simp only [erase_bind, erase_pure, erase_countLutRun luts tpls size, bind_assoc]
      rfl
    · simp only [erase_bind, erase_pure, erase_countLutPattern2d luts tpls size, bind_assoc]
      rfl
    · simp only [erase_bind, erase_pure, erase_countRawRepeat luts tpls size, bind_assoc]
      rfl
    · simp only [erase_bind, erase_pure, erase_countRawArith2d luts tpls size, bind_assoc]
      rfl
    · simp only [erase_bind, erase_pure, erase_countRawLiteral luts tpls size, bind_assoc]
      rfl
    · simp only [erase_bind, erase_pure, erase_countSparsePatch luts tpls size, bind_assoc]
      rfl
  · rw [operands_of_not_mem hop]
    split <;> first | rfl | exact absurd (by decide) hop

/-! ### The walk over a program -/

/-- One instruction of the walk, after it has been read. -/
def tallyOp (luts : Luts) (tpls : Tpls) (maxOutput : ℤ) (total : ℕ) (c : ℕ × Bool) (i : Instr) :
    Option (ℕ × Bool) := do
  let increase ← i.count luts tpls c.1
  guard (((total + (c.1 + increase) : ℕ) : ℤ) ≤ maxOutput)
  pure (c.1 + increase, c.2 || i.generates)

/-- The walk over the channels of a program, the first of which has the id `k`. -/
def tally (luts : Luts) (tpls : Tpls) (maxOutput : ℤ) :
    ℕ → Tally → List (List Instr) → Option Tally
  | _, t, [] => some t
  | k, t, is :: rest => do
      let (size, generated) ← is.foldlM (tallyOp luts tpls maxOutput t.total) (0, t.generated)
      tally luts tpls maxOutput (k + 1) ⟨t.sizes ++ [(k, size)], t.total + size, generated⟩ rest

theorem erase_countStep (luts : Luts) (tpls : Tpls) (maxOutput : ℤ) (total : ℕ) (c : ℕ × Bool) :
    erase (countStep luts tpls maxOutput total c) =
      instr >>= fun i => liftM (tallyOp luts tpls maxOutput total c i) := by
  have hguard : ∀ n : ℕ, (¬(((c.1 + n : ℕ) : ℤ) > maxOutput ∨
      ((total + (c.1 + n) : ℕ) : ℤ) > maxOutput)) =
        (((total + (c.1 + n) : ℕ) : ℤ) ≤ maxOutput) := by
    intro n
    simp only [eq_iff_iff]
    omega
  simp only [countStep, erase_bind, erase_lift, erase_pure, erase_countOp, toOption_raiseIf,
    lift_guard, bind_assoc, pure_bind, hguard, tallyOp, lift_bind, lift_pure]

theorem erase_countChannels (luts : Luts) (tpls : Tpls) (maxOutput : ℤ) (n : ℕ) :
    ∀ (k : ℕ) (t : Tally),
      erase ((List.range' k n).foldlM (countChannel luts tpls maxOutput) t) =
        channels n k >>= fun chs => liftM (tally luts tpls maxOutput k t chs) := by
  induction n with
  | zero =>
      intro k t
      simp only [List.range'_zero, List.foldlM_nil, erase_pure, channels, pure_bind, tally]
      rfl
  | succ n ih =>
      intro k t
      have hguard : ∀ tid opc, (¬(tid ≠ k ∨ opc < 1)) = (tid = k ∧ 1 ≤ opc) := by
        intro tid opc
        simp only [ne_eq, not_or, not_not, Nat.not_lt]
      simp only [List.range'_succ, List.foldlM_cons, erase_bind, countChannel, erase_lift,
        erase_viaDecoder, toOption_raiseIf, lift_guard, hguard, erase_times, erase_countStep,
        times_read, bind_assoc, pure_bind, channels, channel]
      refine bind_congr fun tid => bind_congr fun opc => ?_
      by_cases hc : tid = k ∧ 1 ≤ opc
      · rw [guard_true_bind hc, guard_true_bind hc]
        obtain ⟨rfl, -⟩ := hc
        refine bind_congr fun is => ?_
        simp only [ih (tid + 1)]
        rw [lift_comm]
        simp only [tally, lift_bind]
      · rw [guard_false_bind hc, guard_false_bind hc]

/-- **The gate reads the program of a packet as the decoder does**, and walks over it then. -/
theorem erase_countMux (luts : Luts) (tpls : Tpls) (maxOutput : ℤ) :
    erase (countMux luts tpls maxOutput) = program >>= fun chs => liftM (do
      let t ← tally luts tpls maxOutput 1 ⟨[], 0, false⟩ chs
      guard t.generated
      pure t.sizes) := by
  have hguard : ∀ m nch, (¬(m ≠ magicWarm ∨ nch < 1)) = (m = magicWarm ∧ 1 ≤ nch) := by
    intro m nch
    simp only [ne_eq, not_or, not_not, Nat.not_lt]
  simp only [countMux, program, erase_bind, erase_lift, erase_viaDecoder, erase_ahead,
    toOption_raiseIf, lift_guard, hguard, bind_assoc, erase_pure, pure_bind, erase_countChannels]
  refine bind_congr fun m => bind_congr fun nch => bind_congr fun _ => bind_congr fun chs => ?_
  have hswap := lift_comm (tally luts tpls maxOutput 1 ⟨[], 0, false⟩ chs)
    (do let left ← erase unread; guard (left = 0) : Grammar Unit)
    fun t _ => (do guard t.generated; pure t.sizes)
  simpa only [bind_assoc, bind_pure, ne_eq, not_not, lift_bind, lift_guard, lift_pure] using hswap

/-! ### The walk and the execution -/

/-- An instruction can be executed and counted, or neither. -/
theorem exec_cases (luts : Luts) (tpls : Tpls) (co : Bytes) (i : Instr) :
    (i.exec luts tpls co = none ∧ i.count luts tpls co.length = none) ∨
      ∃ co' n, i.exec luts tpls co = some co' ∧ i.count luts tpls co.length = some n ∧
        co.length + n = co'.length := by
  have h := Instr.exec_length luts tpls co i
  cases he : i.exec luts tpls co <;> cases hc : i.count luts tpls co.length <;>
    simp_all

theorem length_le_of_execs {luts : Luts} {tpls : Tpls} (is : List Instr) {co co' : Bytes}
    (h : is.foldlM (fun co i => i.exec luts tpls co) co = some co') : co.length ≤ co'.length := by
  induction is generalizing co with
  | nil => simp_all
  | cons i is ih =>
      rw [List.foldlM_cons] at h
      rcases exec_cases luts tpls co i with ⟨he, -⟩ | ⟨co1, n, he, -, hn⟩
      · simp [he] at h
      · have := ih (by simpa [he] using h)
        omega

/-- The instructions of a channel are counted exactly when they can be executed and the total
stays within the limit. -/
theorem tallyOps_iff (luts : Luts) (tpls : Tpls) (maxOutput : ℤ) (total : ℕ) (is : List Instr) :
    ∀ (co : Bytes) (g : Bool) (c : ℕ × Bool),
      is.foldlM (tallyOp luts tpls maxOutput total) (co.length, g) = some c ↔
        ∃ co', is.foldlM (fun co i => i.exec luts tpls co) co = some co' ∧
          c = (co'.length, g || is.any Instr.generates) ∧
          (is ≠ [] → ((total + co'.length : ℕ) : ℤ) ≤ maxOutput) := by
  induction is with
  | nil =>
      intro co g c
      simp [eq_comm]
  | cons i is ih =>
      intro co g c
      rw [List.foldlM_cons, List.foldlM_cons, tallyOp]
      rcases exec_cases luts tpls co i with ⟨he, hc⟩ | ⟨co1, n, he, hc, hn⟩
      · simp [he, hc]
      · simp only [he, hc, Option.bind_eq_bind, Option.bind_some, hn]
        -- the bound after the last instruction implies the bound after this one
        by_cases hfit : ((total + co1.length : ℕ) : ℤ) ≤ maxOutput
        · simp only [hfit, guard_true, Option.pure_def, Option.bind_some, ih co1, List.any_cons,
            Bool.or_assoc]
          refine exists_congr fun co' => and_congr_right fun hco' => and_congr_right fun _ => ?_
          cases is with
          | nil =>
              simp only [List.foldlM_nil, Option.pure_def, Option.some.injEq] at hco'
              simpa [← hco'] using hfit
          | cons j is => simp
        · simp only [guard_eq_none hfit, ne_eq, reduceCtorEq, not_false_eq_true, true_implies]
          refine iff_of_false (by simp) ?_
          rintro ⟨co', hco', -, hle⟩
          have := length_le_of_execs is hco'
          omega

/-- The sizes of the channels, by id. -/
def sizesOf (out : Channels) : List (ℕ × ℕ) := out.map fun c => (c.1, c.2.length)

/-- The number of bytes of all channels together. -/
def totalOf (out : Channels) : ℕ := (out.map fun c => c.2.length).sum

/-- Some instruction of a program generates its bytes. -/
def generative (chs : List (List Instr)) : Bool := chs.any fun is => is.any Instr.generates

/-- The channels of a program are counted exactly when they can be executed and their total stays
within the limit. -/
theorem tally_iff (luts : Luts) (tpls : Tpls) (maxOutput : ℤ) (chs : List (List Instr))
    (hne : ∀ is ∈ chs, is ≠ []) :
    ∀ (k : ℕ) (t t' : Tally), tally luts tpls maxOutput k t chs = some t' ↔
      ∃ out, execFrom luts tpls k chs = some out ∧
        t' = ⟨t.sizes ++ sizesOf out, t.total + totalOf out, t.generated || generative chs⟩ ∧
        (chs ≠ [] → ((t.total + totalOf out : ℕ) : ℤ) ≤ maxOutput) := by
  induction chs with
  | nil =>
      intro k t t'
      cases t
      simp [tally, execFrom, sizesOf, totalOf, generative, eq_comm]
  | cons is chs ih =>
      intro k t t'
      have hops := tallyOps_iff luts tpls maxOutput t.total is [] t.generated
      simp only [List.length_nil, hne is (by simp), ne_eq, not_false_eq_true, true_implies] at hops
      simp only [tally, execFrom, Option.bind_eq_bind, Option.bind_eq_some_iff]
      constructor
      · rintro ⟨⟨size, g⟩, hsize, htail⟩
        obtain ⟨co, hco, hc, hfit⟩ := (hops _).1 hsize
        obtain ⟨out, hout, rfl, hle⟩ := (ih (fun is his => hne is (by simp [his])) _ _ _).1 htail
        rw [Prod.mk.injEq] at hc
        refine ⟨(k, co) :: out, ⟨co, hco, out, hout, rfl⟩, ?_, fun _ => ?_⟩
        · simp [sizesOf, totalOf, generative, hc, Nat.add_assoc, Bool.or_assoc]
        · cases chs with
          | nil =>
              simp only [execFrom, Option.some.injEq] at hout
              simpa [← hout, totalOf] using hfit
          | cons js chs => simpa [hc, totalOf, Nat.add_assoc] using hle
      · rintro ⟨_, ⟨co, hco, out, hout, hcons⟩, rfl, hle⟩
        obtain rfl : (k, co) :: out = _ := Option.some.inj hcons
        have hle := hle (by simp)
        have hfit : ((t.total + co.length : ℕ) : ℤ) ≤ maxOutput := by
          simp only [totalOf, List.map_cons, List.sum_cons] at hle
          omega
        refine ⟨_, (hops _).2 ⟨co, hco, rfl, hfit⟩, (ih (fun is his => hne is (by simp [his])) _ _ _).2
          ⟨out, hout, ?_, fun _ => ?_⟩⟩
        · simp [sizesOf, totalOf, generative, Nat.add_assoc, Bool.or_assoc]
        · simpa [totalOf, Nat.add_assoc] using hle

/-- A program that can be read has a channel, and every channel an instruction. -/
theorem program_ne_nil {s s' : Bytes} {chs : List (List Instr)}
    (h : program.run s = some (chs, s')) : chs ≠ [] ∧ ∀ is ∈ chs, is ≠ [] := by
  have hchs : ∀ (n k : ℕ) (s s' : Bytes) (chs : List (List Instr)),
      (channels n k).run s = some (chs, s') → chs.length = n ∧ ∀ is ∈ chs, is ≠ [] := by
    intro n
    induction n with
    | zero =>
        intro k s s' chs h
        simp only [channels, run_pure_eq_some_iff] at h
        simp [← h.1]
    | succ n ih =>
        intro k s s' chs h
        simp only [channels, channel, run_bind_eq_some_iff, run_guard_eq_some_iff,
          run_pure_eq_some_iff] at h
        obtain ⟨is, _, ⟨tid, _, -, opc, _, -, _, _, ⟨⟨-, hopc⟩, -⟩, his⟩, rest, _, hrest, rfl, -⟩ := h
        obtain ⟨hlen, hall⟩ := ih _ _ _ _ hrest
        have hne : is ≠ [] := by
          have := (several_forall (P := fun _ => True) (fun _ _ _ _ => trivial) opc _ _ _ his).1
          rintro rfl
          simp only [List.length_nil] at this
          omega
        exact ⟨by simp [hlen], List.forall_mem_cons.2 ⟨hne, hall⟩⟩
  simp only [program, run_bind_eq_some_iff, run_guard_eq_some_iff, run_pure_eq_some_iff] at h
  obtain ⟨_, _, -, nch, _, -, _, _, ⟨⟨-, hnch⟩, -⟩, chs', _, hread, _, _, -, _, _, -, rfl, -⟩ := h
  obtain ⟨hlen, hall⟩ := hchs _ _ _ _ _ hread
  refine ⟨?_, hall⟩
  rintro rfl
  simp only [List.length_nil] at hlen
  omega

/-! ### The bundle -/

theorem strictZlib_iff (Z : Zlib) (cb b : Bytes) :
    strictZlib Z cb = .ok b ↔ ∃ out o tail o', Z.decompress cb 0 = some (out, o) ∧
      Z.flush o defBufSize = some (tail, o') ∧
      ¬(¬Z.eof o' ∨ Z.unusedData o' ≠ [] ∨ Z.unconsumedTail o' ≠ []) ∧ out ++ tail = b := by
  unfold strictZlib
  constructor
  · intro h
    split at h
    · simp at h
    · next out o hd =>
        split at h
        · simp at h
        · next tail o' hf =>
            simp only [bind_eq_ok_iff, raiseIf_eq_ok_iff, pure_eq_ok_iff, exists_const] at h
            exact ⟨out, o, tail, o', hd, hf, h⟩
  · rintro ⟨out, o, tail, o', hd, hf, h⟩
    simp only [hd, hf, bind_eq_ok_iff, raiseIf_eq_ok_iff, pure_eq_ok_iff, exists_const]
    exact h

theorem inflateBounded_def (Z : Zlib) (maxBundle : ℤ) (cb b : Bytes) :
    inflateBounded Z maxBundle cb = .ok b ↔ 0 ≤ maxBundle + 1 ∧ ∃ out o tail o',
      Z.decompress cb (maxBundle + 1).toNat = some (out, o) ∧
      ¬((out.length : ℤ) > maxBundle ∨ Z.unconsumedTail o ≠ []) ∧
      Z.flush o (maxBundle + 1 - out.length).toNat = some (tail, o') ∧
      ¬((b.length : ℤ) > maxBundle) ∧
      ¬(¬Z.eof o' ∨ Z.unusedData o' ≠ [] ∨ Z.unconsumedTail o' ≠ []) ∧ out ++ tail = b := by
  unfold inflateBounded
  constructor
  · intro h
    split at h
    · simp at h
    · next hneg =>
        split at h
        · simp at h
        · next out o hd =>
            simp only [bind_eq_ok_iff, raiseIf_eq_ok_iff, exists_const] at h
            obtain ⟨hout, h⟩ := h
            split at h
            · simp at h
            · next tail o' hf =>
                simp only [bind_eq_ok_iff, raiseIf_eq_ok_iff, pure_eq_ok_iff, exists_const] at h
                obtain ⟨hb, hend, rfl⟩ := h
                exact ⟨by omega, out, o, tail, o', hd, hout, hf, hb, hend, rfl⟩
  · rintro ⟨hneg, out, o, tail, o', hd, hout, hf, hb, hend, rfl⟩
    rw [if_neg (by omega)]
    simp only [hd, hf, bind_eq_ok_iff, raiseIf_eq_ok_iff, pure_eq_ok_iff, exists_const]
    exact ⟨hout, hb, hend, trivial⟩

/-- The gate inflates a bundle as the decoder does, up to its limit. -/
theorem inflateBounded_iff (Z : Zlib) (maxBundle : ℤ) (bundle b : Bytes) :
    inflateBounded Z maxBundle bundle = .ok b ↔
      strictZlib Z bundle = .ok b ∧ (b.length : ℤ) ≤ maxBundle := by
  rw [inflateBounded_def, strictZlib_iff]
  constructor
  · rintro ⟨-, out, o, tail, o', hd, hout, hf, hb, hend, happ⟩
    simp only [not_or, gt_iff_lt, Int.not_lt] at hout
    refine ⟨⟨out, o, tail, o', ?_, ?_, hend, happ⟩, Int.not_lt.1 hb⟩
    · exact (Z.decompress_of_lt _ _ _ _ (by omega)).1 hd
    · rw [← hf]
      exact Z.flush_length _ _ _ (by decide) (by omega)
  · rintro ⟨⟨out, o, tail, o', hd, hf, hend, happ⟩, hb⟩
    have hlen : out.length ≤ b.length := by
      rw [← happ, List.length_append]
      omega
    refine ⟨by omega, out, o, tail, o', ?_, ?_, ?_, Int.not_lt.2 hb, hend, happ⟩
    · exact (Z.decompress_of_lt _ _ _ _ (by omega)).2 hd
    · simp only [not_or, gt_iff_lt, Int.not_lt, ne_eq, not_not]
      exact ⟨by omega, Z.unconsumedTail_nil _ _ _ hd⟩
    · rw [← hf]
      exact Z.flush_length _ _ _ (by omega) (by decide)

theorem preflightBundle_iff (Z : Zlib) (maxBundle : ℤ) (flag : ℕ) (bundle b : Bytes) :
    preflightBundle Z maxBundle flag bundle = .ok b ↔
      expandBundle Z flag bundle = .ok b ∧ (b.length : ℤ) ≤ maxBundle := by
  unfold preflightBundle expandBundle
  by_cases hflag : flag = 1
  · simp only [hflag, if_true, bind_eq_ok_iff, raiseIf_eq_ok_iff, pure_eq_ok_iff, exists_const,
      inflateBounded_iff, gt_iff_lt, Int.not_lt]
    constructor
    · rintro ⟨_, h, -, rfl⟩
      exact h
    · exact fun h => ⟨b, h, h.2, rfl⟩
  · simp only [hflag, if_false, bind_eq_ok_iff, raiseIf_eq_ok_iff, pure_eq_ok_iff, exists_const,
      gt_iff_lt, Int.not_lt]
    constructor
    · rintro ⟨hf, _, rfl, hle, rfl⟩
      exact ⟨⟨hf, rfl⟩, hle⟩
    · rintro ⟨⟨hf, rfl⟩, hle⟩
      exact ⟨hf, _, rfl, hle, rfl⟩

theorem coldBundle_iff {t rb rest : Bytes} {cf : ℕ} :
    callOn coldBundle t = .ok ((cf, rb), rest) ↔ ∃ c hi lo r, t = c :: hi :: lo :: r ∧
      cf = c.toNat ∧ 1 ≤ hi.toNat * 256 + lo.toNat ∧ hi.toNat * 256 + lo.toNat ≤ r.length ∧
      rb = r.take (hi.toNat * 256 + lo.toNat) ∧ rest = r.drop (hi.toNat * 256 + lo.toNat) := by
  have herase : erase coldBundle = (do
      let cf ← byte
      let bl ← word
      let rb ← blob bl
      pure (cf, rb)) := by
    simp only [coldBundle, blob, erase_bind, erase_lift, erase_pure, toOption_raiseIf, lift_guard,
      not_or, Nat.not_lt, bind_assoc]
    rfl
  simp only [callOn_eq_ok_iff, herase, run_bind_eq_some_iff, byte_run_iff, word_run_iff,
    blob_run_iff, run_pure_eq_some_iff, Prod.mk.injEq]
  constructor
  · rintro ⟨_, _, ⟨c, rfl, rfl⟩, _, r, ⟨hi, lo, rfl, rfl⟩, _, _, ⟨h1, hle, rfl, rfl⟩, ⟨rfl, rfl⟩, rfl⟩
    exact ⟨c, hi, lo, r, rfl, rfl, h1, hle, rfl, rfl⟩
  · rintro ⟨c, hi, lo, r, rfl, rfl, h1, hle, rfl, rfl⟩
    exact ⟨_, _, ⟨c, rfl, rfl⟩, _, r, ⟨hi, lo, rfl, rfl⟩, _, _, ⟨h1, hle, rfl, rfl⟩, ⟨rfl, rfl⟩, rfl⟩

/-! ### The gate and the decoder -/

/-- The bundle of a cold packet as it is parsed, and the program behind it. -/
def openCold (Z : Zlib) (pkt : Bytes) : Except Fault (Bytes × Bytes) := do
  let ((cf, rb), rest) ← callOn coldBundle pkt.tail
  let rb ← expandBundle Z cf rb
  pure (rb, rest)

/-- The bundle of a packet, if it is cold and the bundle can be expanded. -/
def bundleOf (Z : Zlib) (pkt : Bytes) : Option Bytes :=
  if isCold pkt then (openCold Z pkt).toOption.map Prod.fst else none

/-- The instructions of a packet, channel by channel, if they can be read. -/
def programOf (Z : Zlib) (pkt : Bytes) : Option (List (List Instr)) := do
  let rest ← if isCold pkt then (openCold Z pkt).toOption.map Prod.snd else some pkt
  let (chs, _) ← program.run rest
  pure chs

theorem decodeMux_iff (luts : Luts) (tpls : Tpls) {buf s : Bytes} {out : Channels} :
    callOn (decodeMux luts tpls) buf = .ok (out, s) ↔
      ∃ chs, program.run buf = some (chs, s) ∧ execProgram luts tpls chs = some out := by
  simp only [callOn_eq_ok_iff, erase_decodeMux, run_bind_eq_some_iff, run_lift_eq_some_iff]
  constructor
  · rintro ⟨chs, _, h, he, rfl⟩
    exact ⟨chs, h, he⟩
  · rintro ⟨chs, h, he⟩
    exact ⟨chs, s, h, he, rfl⟩

/-- **The gate accepts a program exactly when the decoder runs it**, within the limit and with an
instruction that generates, and predicts the lengths it will have. -/
theorem countMux_iff (luts : Luts) (tpls : Tpls) (maxOutput : ℤ) {buf s : Bytes}
    {sizes : List (ℕ × ℕ)} :
    callOn (countMux luts tpls maxOutput) buf = .ok (sizes, s) ↔
      ∃ chs out, program.run buf = some (chs, s) ∧ execProgram luts tpls chs = some out ∧
        sizes = sizesOf out ∧ (totalOf out : ℤ) ≤ maxOutput ∧ generative chs := by
  simp only [callOn_eq_ok_iff, erase_countMux, run_bind_eq_some_iff, run_lift_eq_some_iff,
    Option.bind_eq_bind, Option.bind_eq_some_iff, Option.guard_eq_some', exists_const, Option.pure_def,
    Option.some.injEq]
  constructor
  · rintro ⟨chs, _, h, ⟨t, ht, hg, rfl⟩, rfl⟩
    obtain ⟨hne, hall⟩ := program_ne_nil h
    obtain ⟨out, hout, rfl, hle⟩ := (tally_iff luts tpls maxOutput chs hall _ _ _).1 ht
    exact ⟨chs, out, h, hout, by simp, by simpa using hle hne, by simpa using hg⟩
  · rintro ⟨chs, out, h, hout, rfl, hle, hg⟩
    obtain ⟨hne, hall⟩ := program_ne_nil h
    exact ⟨chs, s, h, ⟨_, (tally_iff luts tpls maxOutput chs hall _ _ _).2
      ⟨out, hout, rfl, by simpa using fun _ => hle⟩, by simpa using hg, by simp⟩, rfl⟩

theorem preflightCold_iff (Z : Zlib) {pkt rest : Bytes} (hcold : isCold pkt) (maxBundle : ℤ)
    {tables : Luts × Tpls} :
    preflightCold Z pkt maxBundle = .ok (tables, rest) ↔
      ∃ b s, openCold Z pkt = .ok (b, rest) ∧ (b.length : ℤ) ≤ maxBundle ∧
        callOn parseBundle b = .ok (tables, s) := by
  have hparse : ∀ b p, callOn (viaDecoder parseBundle) b = .ok p ↔ callOn parseBundle b = .ok p := by
    intro b p
    rw [callOn_eq_ok_iff, callOn_eq_ok_iff, erase_viaDecoder]
  have hdrop : ∀ (a b c d : UInt8) (r : Bytes) (n : ℕ),
      (a :: b :: c :: d :: r).drop (4 + n) = r.drop n := by
    intro a b c d r n
    rw [← List.drop_drop]
    rfl
  simp only [openCold, bind_eq_ok_iff, pure_eq_ok_iff, Prod.exists, Prod.mk.injEq]
  constructor
  · intro h
    rcases pkt with _ | ⟨m, _ | ⟨c, _ | ⟨hi, _ | ⟨lo, r⟩⟩⟩⟩
    · cases hcold
    · simp [preflightCold, raiseIf] at h
    · simp [preflightCold, raiseIf] at h
    · simp [preflightCold, raiseIf] at h
    · simp only [preflightCold, index, List.getElem?_cons_zero, List.getElem?_cons_succ, ok_bind,
        bind_eq_ok_iff, raiseIf_eq_ok_iff, preflightBundle_iff, exists_const, hparse,
        pure_eq_ok_iff, Prod.exists, Prod.mk.injEq] at h
      obtain ⟨-, hbl, b, ⟨hx, hle⟩, _, _, s, hp, rfl, rfl⟩ := h
      simp only [List.length_cons] at hbl
      exact ⟨b, s, ⟨c.toNat, _, _, coldBundle_iff.2
        ⟨c, hi, lo, r, rfl, rfl, by omega, by omega, rfl, rfl⟩, b, hx, rfl,
          (hdrop m c hi lo r _).symm⟩, hle, hp⟩
  · rintro ⟨b, s, ⟨cf, rb, r, hc, rb', hx, rfl, rfl⟩, hle, hp⟩
    obtain ⟨c, hi, lo, r', ht, rfl, h1, hlen, rfl, rfl⟩ := coldBundle_iff.1 hc
    rcases pkt with _ | ⟨m, t⟩
    · cases hcold
    · rw [List.tail_cons] at ht
      subst ht
      simp only [preflightCold, index, List.getElem?_cons_zero, List.getElem?_cons_succ, ok_bind,
        bind_eq_ok_iff, raiseIf_eq_ok_iff, preflightBundle_iff, exists_const, hparse,
        pure_eq_ok_iff, Prod.exists, Prod.mk.injEq, List.length_cons]
      exact ⟨by omega, by omega, rb', ⟨hx, hle⟩, _, _, s, hp, rfl, hdrop m c hi lo r' _⟩

/-- A cold packet is decoded when its bundle can be opened and parsed and its program runs on the
tables of the bundle. -/
theorem decode_cold_iff (Z : Zlib) {pkt : Bytes} (hcold : isCold pkt) {d : Decoder}
    {out : Channels} :
    (∃ d', (decode Z pkt).run d = .ok out d') ↔
      ∃ b rest tables s chs s', openCold Z pkt = .ok (b, rest) ∧
        callOn parseBundle b = .ok (tables, s) ∧ program.run rest = some (chs, s') ∧
        execProgram tables.1 tables.2 chs = some out := by
  have hbody : (∃ d', (decode Z pkt).run d = .ok out d') ↔
      ∃ tables, coldBody Z pkt = .ok (out, tables) := by
    rw [decode_cold Z hcold]
    cases hb : coldBody Z pkt with
    | error e => simp
    | ok p =>
        simp only [EStateM.Result.ok.injEq, Except.ok.injEq]
        constructor
        · rintro ⟨_, rfl, -⟩
          exact ⟨p.2, rfl⟩
        · rintro ⟨tables, rfl⟩
          exact ⟨_, rfl, rfl⟩
  rw [hbody]
  simp only [coldBody, openCold, bind_eq_ok_iff, pure_eq_ok_iff, Prod.exists, Prod.mk.injEq,
    decodeMux_iff]
  constructor
  · rintro ⟨_, _, cf, rb, rest, hc, b, hx, pl, pt, s, hp, _, s', ⟨chs, h, he⟩, rfl, rfl, rfl⟩
    exact ⟨b, rest, pl, pt, s, chs, s', ⟨cf, rb, rest, hc, b, hx, rfl, rfl⟩, hp, h, he⟩
  · rintro ⟨b, rest, pl, pt, s, chs, s', ⟨cf, rb, _, hc, _, hx, rfl, rfl⟩, hp, h, he⟩
    exact ⟨pl, pt, cf, rb, _, hc, _, hx, pl, pt, s, hp, out, s', ⟨chs, h, he⟩, rfl, rfl, rfl⟩

/-- A warm packet is decoded when its program runs on the tables of the session. -/
theorem decode_warm_iff (Z : Zlib) {pkt : Bytes} (hwarm : isWarm pkt) {d : Decoder}
    {out : Channels} :
    (∃ d', (decode Z pkt).run d = .ok out d') ↔
      ∃ chs s, program.run pkt = some (chs, s) ∧ execProgram d.luts d.tpls chs = some out := by
  have hmux : (∃ d', (decode Z pkt).run d = .ok out d') ↔
      ∃ s, callOn (decodeMux d.luts d.tpls) pkt = .ok (out, s) := by
    rw [decode_warm Z hwarm]
    cases hb : callOn (decodeMux d.luts d.tpls) pkt with
    | error e => simp
    | ok p =>
        simp only [EStateM.Result.ok.injEq, Except.ok.injEq]
        constructor
        · rintro ⟨_, rfl, -⟩
          exact ⟨p.2, rfl⟩
        · rintro ⟨s, rfl⟩
          exact ⟨_, rfl, rfl⟩
  simp only [hmux, decodeMux_iff]
  exact exists_comm

/-- **The gate agrees with the decoder.**  In any state of the decoder and for any limits, the gate
returns a size map exactly when the decoder decodes the packet to channels of these sizes, the
packet, its bundle and its output are within the limits, some opcode of the packet is one of 1 to 5,
and the session of a warm packet has decoded a packet before. -/
theorem preflight_iff (Z : Zlib) (pkt : Bytes) (d : Decoder) (maxPacket maxBundle maxOutput : ℤ)
    (sizes : List (ℕ × ℕ)) :
    preflightBinaryOutput Z pkt d maxPacket maxBundle maxOutput = .ok sizes ↔
      ∃ out, (∃ d', (decode Z pkt).run d = .ok out d') ∧ sizes = sizesOf out ∧
        (pkt.length : ℤ) ≤ maxPacket ∧ (∀ b ∈ bundleOf Z pkt, (b.length : ℤ) ≤ maxBundle) ∧
        (totalOf out : ℤ) ≤ maxOutput ∧ (∃ chs ∈ programOf Z pkt, generative chs) ∧
        (isWarm pkt → 1 ≤ d.packetsDecoded) := by
  cases pkt with
  | nil =>
      obtain ⟨code, hcode⟩ := @decode_other Z [] (by decide) (by decide)
      simp [preflightBinaryOutput, raiseIf, hcode]
  | cons m t =>
  simp only [preflightBinaryOutput, bind_eq_ok_iff, raiseIf_eq_ok_iff, exists_const, index,
    List.getElem?_cons_zero, ok_bind, gt_iff_lt, Int.not_lt]
  by_cases hcold : isCold (m :: t)
  · have hm : m.toNat = magicCold := by simpa [isCold] using hcold
    have hwarm : ¬isWarm (m :: t) := by simp [isWarm, hm]; decide
    simp only [hm, if_true, bind_eq_ok_iff, pure_eq_ok_iff, Prod.exists, preflightCold_iff Z hcold,
      countMux_iff, decode_cold_iff Z hcold, bundleOf, programOf, hcold, hwarm]
    constructor
    · rintro ⟨-, hpkt, luts, tpls, rest, ⟨b, s, ho, hb, hp⟩, _, s', ⟨chs, out, h, he, rfl, hle, hg⟩,
        rfl⟩
      refine ⟨out, ⟨b, rest, luts, tpls, s, chs, s', ho, hp, h, he⟩, rfl, hpkt, ?_, hle,
        ⟨chs, ?_, hg⟩, by simp⟩
      · simpa [ho, Except.toOption] using hb
      · simp [ho, Except.toOption, h]
    · rintro ⟨out, ⟨b, rest, luts, tpls, s, chs, s', ho, hp, h, he⟩, rfl, hpkt, hb, hle,
        ⟨chs', hchs, hg⟩, -⟩
      have hb : (b.length : ℤ) ≤ maxBundle := by simpa [ho, Except.toOption] using hb
      obtain rfl : chs = chs' := by simpa [ho, Except.toOption, h] using hchs
      exact ⟨by simp, hpkt, luts, tpls, rest, ⟨b, s, ho, hb, hp⟩, _, s',
        ⟨chs, out, h, he, rfl, hle, hg⟩, rfl⟩
  · have hm : ¬m.toNat = magicCold := by simpa [isCold] using hcold
    by_cases hwarm : isWarm (m :: t)
    · have hm' : m.toNat = magicWarm := by simpa [isWarm] using hwarm
      have hne : ¬magicWarm = magicCold := by decide
      simp only [hm', hne, if_true, if_false, bind_eq_ok_iff, raiseIf_eq_ok_iff, exists_const,
        pure_eq_ok_iff, Prod.exists, countMux_iff, decode_warm_iff Z hwarm, bundleOf, programOf,
        hcold, hwarm, Nat.not_lt]
      constructor
      · rintro ⟨-, hpkt, hd, _, s, ⟨chs, out, h, he, rfl, hle, hg⟩, rfl⟩
        exact ⟨out, ⟨chs, s, h, he⟩, rfl, hpkt, by simp, hle, ⟨chs, by simp [h], hg⟩, fun _ => hd⟩
      · rintro ⟨out, ⟨chs, s, h, he⟩, rfl, hpkt, -, hle, ⟨chs', hchs, hg⟩, hd⟩
        obtain rfl : chs = chs' := by simpa [h] using hchs
        exact ⟨by simp, hpkt, hd trivial, _, s, ⟨chs, out, h, he, rfl, hle, hg⟩, rfl⟩
    · have hm' : ¬m.toNat = magicWarm := by simpa [isWarm] using hwarm
      obtain ⟨code, hcode⟩ := decode_other Z hcold hwarm
      simp [hm, hm', hcode]

end OriginCell
