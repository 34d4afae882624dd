/-
**The language of origin cell programs.**

The decoder reads and executes at the same time.  Behind it is a small language: an instruction
has operands, and a meaning that turns the output so far into the next output.  This module writes
the two down separately and proves that interleaving them, as the decoder does, accepts the same
programs and yields the same channels.  Anything else that walks over a packet, such as a gate that
only counts, can then be compared with the language and need not be compared with the decoder.

Main definitions:

* `OriginCell.Instr` — an instruction with its operands;
* `OriginCell.Instr.exec` — its meaning: the output after it, if it is defined;
* `OriginCell.instr`, `OriginCell.program` — the grammar, as a partial function of the bytes;
* `OriginCell.execProgram` — the meaning of a program, channel by channel.

Main results:

* `OriginCell.erase_decodeOp` — one instruction of the decoder is read, then executed;
* `OriginCell.erase_decodeMux` — so is a whole program.
-/

import Wuchang.CellDecoder

set_option relaxedAutoImplicit false
set_option autoImplicit false

namespace OriginCell

open Py

/-- An instruction, with the operands the packet gives it. -/
inductive Instr where
  | templateSeq (lid pid cc rep : ℕ) (recs : List (List ℕ))
  | lutRun (lid crd cnt : ℕ)
  | lutPattern2d (lid rows : ℕ) (cells : List (ℕ × ℕ))
  | rawRepeat (pat : Bytes) (rep : ℕ)
  | rawArith2d (st sp sl rows : ℕ)
  | rawLiteral (lit : Bytes)
  | sparsePatch (patches : List (ℕ × ℕ))
  deriving DecidableEq, Repr

/-! ### Meaning -/

/-- The entry of a table that a template code stands for in a record. -/
def entryOf (lut : List Bytes) (r : List ℕ) (c : ℤ) : Option Bytes :=
  (if c < 0 then r[(-c - 1).toNat]? else some c.toNat).bind fun ai => lut[ai]?

/-- A template filled with the values of a record. -/
def fillTemplate (lut : List Bytes) (tpl : List ℤ) (blk : Bytes) (r : List ℕ) : Option Bytes :=
  tpl.foldlM (fun blk c => do
    let ent ← entryOf lut r c
    pure (blk ++ ent)) blk

/-- One cell of a row: an entry of the table and how often it is repeated, at least once. -/
def fillCell (lut : List Bytes) (rb : Bytes) (cell : ℕ × ℕ) : Option Bytes := do
  guard (1 ≤ cell.2)
  let ent ← lut[cell.1]?
  pure (rb ++ mulBytes ent cell.2)

/-- One patch: the byte at an offset that must lie inside the output. -/
def patch (co : Bytes) (p : ℕ × ℕ) : Option Bytes := do
  guard (p.1 < co.length)
  pure (co.set p.1 (UInt8.ofNat p.2))

/-- The output after an instruction, from the output before it. -/
def Instr.exec (luts : Luts) (tpls : Tpls) (co : Bytes) : Instr → Option Bytes
  | .templateSeq lid pid _ rep recs => do
      let lut ← luts.lookup lid
      let tpl ← tpls.lookup pid
      let blk ← recs.foldlM (fillTemplate lut tpl) []
      pure (co ++ mulBytes blk rep)
  | .lutRun lid crd cnt => do
      let lut ← luts.lookup lid
      let ent ← lut[crd]?
      pure (co ++ mulBytes ent cnt)
  | .lutPattern2d lid rows cells => do
      let lut ← luts.lookup lid
      let rb ← cells.foldlM (fillCell lut) []
      pure (co ++ mulBytes rb rows)
  | .rawRepeat pat rep => some (co ++ mulBytes pat rep)
  | .rawArith2d st sp sl rows => some (co ++ mulBytes (arithRow st sp sl) rows)
  | .rawLiteral lit => some (co ++ lit)
  | .sparsePatch patches => patches.foldlM patch co

/-! ### Grammar -/

/-- A partial function that consumes a part of the unread bytes. -/
abbrev Grammar := StateT Bytes Option

/-- A byte. -/
def byte : Grammar ℕ := erase readB

/-- A big-endian word of two bytes. -/
def word : Grammar ℕ := erase readH

/-- A non-empty run of `n` bytes. -/
def blob (n : ℕ) : Grammar Bytes := do
  let left ← erase unread
  guard (1 ≤ n ∧ n ≤ left)
  erase (slice n)

theorem byte_run_iff {s s' : Bytes} {n : ℕ} :
    byte.run s = some (n, s') ↔ ∃ b, s = b :: s' ∧ n = b.toNat := by
  cases s with
  | nil => simp [byte, erase, readB, StateT.run, EStateM.run]
  | cons b s => simp [byte, erase, readB, StateT.run, EStateM.run, and_comm, eq_comm]

theorem word_run_iff {s s' : Bytes} {n : ℕ} :
    word.run s = some (n, s') ↔ ∃ hi lo, s = hi :: lo :: s' ∧ n = hi.toNat * 256 + lo.toNat := by
  have hword : word = (do let hi ← byte; let lo ← byte; pure (hi * 256 + lo)) := by
    simp only [word, readH, erase_bind, erase_pure, byte]
  simp only [hword, run_bind_eq_some_iff, byte_run_iff, run_pure_eq_some_iff]
  constructor
  · rintro ⟨_, _, ⟨hi, rfl, rfl⟩, _, _, ⟨lo, rfl, rfl⟩, rfl, rfl⟩
    exact ⟨hi, lo, rfl, rfl⟩
  · rintro ⟨hi, lo, rfl, rfl⟩
    exact ⟨_, _, ⟨hi, rfl, rfl⟩, _, _, ⟨lo, rfl, rfl⟩, rfl, rfl⟩

theorem blob_run (n : ℕ) (s : Bytes) :
    (blob n).run s = if 1 ≤ n ∧ n ≤ s.length then some (s.take n, s.drop n) else none := by
  have hleft : (erase unread).run s = some (s.length, s) := rfl
  rw [blob, StateT.run_bind, hleft, Option.bind_eq_bind, Option.bind_some]
  by_cases h : 1 ≤ n ∧ n ≤ s.length
  · rw [guard_true_bind h, if_pos h]
    rfl
  · rw [guard_false_bind h, if_neg h]
    rfl

theorem blob_run_iff {n : ℕ} {s s' b : Bytes} :
    (blob n).run s = some (b, s') ↔ 1 ≤ n ∧ n ≤ s.length ∧ b = s.take n ∧ s' = s.drop n := by
  rw [blob_run]
  split
  · next h => simp [h, eq_comm]
  · next h => simpa using fun h1 h2 => absurd ⟨h1, h2⟩ h

theorem length_of_blob {n : ℕ} {s s' b : Bytes} (h : (blob n).run s = some (b, s')) :
    b.length = n := by
  obtain ⟨-, hn, rfl, -⟩ := blob_run_iff.1 h
  rw [List.length_take, Nat.min_eq_left hn]

/-- Two readings, as a pair. -/
def pair {α β : Type} (g : Grammar α) (h : Grammar β) : Grammar (α × β) := do
  let a ← g
  let b ← h
  pure (a, b)

/-- The operands of an instruction, by its opcode. -/
def operands : ℕ → Grammar Instr
  | 1 => do
      let lid ← byte
      let pid ← byte
      let rc ← byte
      let cc ← byte
      let rep ← byte
      guard (1 ≤ rc ∧ 1 ≤ cc ∧ 1 ≤ rep)
      let recs ← several rc (several cc byte)
      pure (.templateSeq lid pid cc rep recs)
  | 2 => do
      let lid ← byte
      let crd ← byte
      let cnt ← word
      guard (1 ≤ cnt)
      pure (.lutRun lid crd cnt)
  | 3 => do
      let lid ← byte
      let sc ← byte
      let rows ← byte
      guard (1 ≤ sc ∧ 1 ≤ rows)
      let cells ← several sc (pair byte byte)
      pure (.lutPattern2d lid rows cells)
  | 4 => do
      let pl ← byte
      let rep ← word
      guard (1 ≤ rep)
      let pat ← blob pl
      pure (.rawRepeat pat rep)
  | 5 => do
      let st ← byte
      let sp ← byte
      let sl ← byte
      let rows ← byte
      guard (1 ≤ sl ∧ 1 ≤ rows)
      pure (.rawArith2d st sp sl rows)
  | 6 => do
      let ll ← word
      let lit ← blob ll
      pure (.rawLiteral lit)
  | 7 => do
      let pc ← byte
      guard (1 ≤ pc)
      let patches ← several pc (pair word byte)
      pure (.sparsePatch patches)
  | _ => failure

theorem operands_of_not_mem {op : ℕ} (h : op ∉ allowedOps) : operands op = failure := by
  unfold operands
  split <;> first | rfl | exact absurd (by decide) h

/-- An instruction: its opcode and its operands. -/
def instr : Grammar Instr := do
  let op ← byte
  operands op

/-- The channel with the id `k`: a non-empty list of instructions. -/
def channel (k : ℕ) : Grammar (List Instr) := do
  let tid ← byte
  let opc ← byte
  guard (tid = k ∧ 1 ≤ opc)
  several opc instr

/-- The channels of a program, the first of which has the id `k`. -/
def channels : ℕ → ℕ → Grammar (List (List Instr))
  | 0, _ => pure []
  | n + 1, k => do
      let is ← channel k
      let rest ← channels n (k + 1)
      pure (is :: rest)

/-- A program: the list of its channels, each a list of instructions. -/
def program : Grammar (List (List Instr)) := do
  let m ← byte
  let nch ← byte
  guard (m = magicWarm ∧ 1 ≤ nch)
  let chs ← channels nch 1
  let left ← erase unread
  guard (left = 0)
  pure chs

/-- The channels a program yields, the first of which has the id `k`. -/
def execFrom (luts : Luts) (tpls : Tpls) : ℕ → List (List Instr) → Option Channels
  | _, [] => some []
  | k, is :: rest => do
      let co ← is.foldlM (fun co i => i.exec luts tpls co) []
      let out ← execFrom luts tpls (k + 1) rest
      pure ((k, co) :: out)

/-- The channels a program yields. -/
def execProgram (luts : Luts) (tpls : Tpls) (chs : List (List Instr)) : Option Channels :=
  execFrom luts tpls 1 chs

/-! ### The decoder reads an instruction and executes it -/

theorem toOption_templateEntry (lut : List Bytes) {cc : ℕ} {r : List ℕ} (hr : r.length = cc)
    (c : ℤ) : (templateEntry lut cc r c).toOption = entryOf lut r c := by
  have hidx : (templateIndex cc r c).toOption =
      if c < 0 then r[(-c - 1).toNat]? else some c.toNat := by
    unfold templateIndex
    split
    · exact toOption_checked_index r hr.symm _
    · rfl
  rw [templateEntry, toOption_bind, hidx]
  exact bind_congr fun ai => toOption_checked_index lut rfl _

theorem erase_readBs (n : ℕ) : erase (readBs n) = several n byte := by
  induction n with
  | zero => rfl
  | succ n ih => simp only [readBs, erase_bind, erase_pure, ih, several_succ, byte]

theorem mem_keys_of_lookup {α : Type} {d : List (ℕ × α)} {k : ℕ} {a : α} (h : d.lookup k = some a) :
    k ∈ d.map Prod.fst := lookup_isSome_iff.1 (by simp [h])

theorem not_mem_keys_of_lookup {α : Type} {d : List (ℕ × α)} {k : ℕ} (h : d.lookup k = none) :
    k ∉ d.map Prod.fst := fun hk => by simpa [h] using lookup_isSome_iff.2 hk

theorem toOption_templateRow (lut : List Bytes) (tpl : List ℤ) {cc : ℕ} {r : List ℕ}
    (hr : r.length = cc) (blk : Bytes) :
    (templateRow lut tpl cc blk r).toOption = fillTemplate lut tpl blk r := by
  simp only [templateRow, fillTemplate, toOption_foldlM, toOption_bind, toOption_pure,
    toOption_templateEntry lut hr]
  rfl

theorem toOption_templateRows (lut : List Bytes) (tpl : List ℤ) {cc : ℕ} (recs : List (List ℕ))
    (hrecs : ∀ r ∈ recs, r.length = cc) (blk : Bytes) :
    (recs.foldlM (templateRow lut tpl cc) blk).toOption =
      recs.foldlM (fillTemplate lut tpl) blk := by
  rw [toOption_foldlM]
  exact foldlM_congr_mem recs (fun r hr => toOption_templateRow lut tpl (hrecs r hr)) blk

/-- All records that are read have the length the header announces. -/
theorem length_of_records {rc cc : ℕ} {s s' : Bytes} {recs : List (List ℕ)}
    (h : (several rc (several cc byte)).run s = some (recs, s')) : ∀ r ∈ recs, r.length = cc :=
  (several_forall (fun s r s' hr => (several_forall (P := fun _ => True)
    (fun _ _ _ _ => trivial) cc s r s' hr).1) rc s recs s' h).2

theorem erase_templateSeq (luts : Luts) (tpls : Tpls) (co : Bytes) :
    erase (templateSeq luts tpls co) =
      operands 1 >>= fun i => liftM (i.exec luts tpls co) := by
  simp only [templateSeq, operands, erase_bind, erase_lift, erase_pure, erase_times, bind_assoc,
    pure_bind, toOption_raiseIf, toOption_getKey, erase_readBs, lift_guard, Instr.exec]
  refine bind_congr fun lid => bind_congr fun pid => bind_congr fun rc => bind_congr fun cc =>
    bind_congr fun rep => ?_
  cases hl : luts.lookup lid with
  | none =>
      rw [guard_false_bind (by simp [not_mem_keys_of_lookup hl])]
      simp [bind_lift_none]
  | some lut =>
  cases ht : tpls.lookup pid with
  | none =>
      rw [guard_false_bind (by simp [not_mem_keys_of_lookup ht])]
      simp [bind_lift_none]
  | some tpl =>
  rw [guard_true_bind (by simp [mem_keys_of_lookup hl, mem_keys_of_lookup ht])]
  simp only [lift_some_bind, times_collect, List.nil_append, bind_assoc, pure_bind]
  have hguard : (¬(rc < 1 ∨ cc < 1 ∨ rep < 1)) = (1 ≤ rc ∧ 1 ≤ cc ∧ 1 ≤ rep) := by
    simp only [eq_iff_iff]
    omega
  simp only [hguard]
  refine bind_congr fun _ => bind_congr_of fun s recs s' hrecs => ?_
  simp only [toOption_templateRows lut tpl recs (length_of_records hrecs), lift_bind,
    lift_some_bind, lift_pure]

theorem erase_lutRun (luts : Luts) (tpls : Tpls) (co : Bytes) :
    erase (lutRun luts co) = operands 2 >>= fun i => liftM (i.exec luts tpls co) := by
  simp only [lutRun, operands, erase_bind, erase_lift, erase_pure, bind_assoc, pure_bind,
    toOption_raiseIf, toOption_getKey, lift_guard, Instr.exec]
  refine bind_congr fun lid => bind_congr fun crd => bind_congr fun cnt => ?_
  cases hl : luts.lookup lid with
  | none =>
      rw [guard_false_bind (by simp [not_mem_keys_of_lookup hl])]
      simp [bind_lift_none]
  | some lut =>
  rw [guard_true_bind (by simp [mem_keys_of_lookup hl]), lift_some_bind]
  by_cases hcrd : crd < lut.length
  · have hguard : (¬(crd ≥ lut.length ∨ cnt < 1)) = (1 ≤ cnt) := by
      simp only [eq_iff_iff]
      omega
    simp only [hguard, toOption_index, List.getElem?_eq_getElem hcrd, lift_bind, lift_some_bind,
      lift_pure]
  · rw [guard_false_bind (by omega)]
    simp [bind_lift_none, List.getElem?_eq_none (Nat.le_of_not_lt hcrd)]

theorem erase_patternCell (luts : Luts) {lut : List Bytes} {lid : ℕ} (hl : luts.lookup lid = some lut)
    (rb : Bytes) :
    erase (patternCell luts lid rb) = pair byte byte >>= fun c => liftM (fillCell lut rb c) := by
  simp only [patternCell, pair, erase_bind, erase_lift, erase_pure, bind_assoc, pure_bind,
    toOption_raiseIf, toOption_getKey, toOption_index, lift_guard, hl, lift_some_bind, fillCell]
  refine bind_congr fun crd => bind_congr fun rl => ?_
  by_cases hcrd : crd < lut.length
  · have hguard : (¬(crd ≥ lut.length ∨ rl < 1)) = (1 ≤ rl) := by
      simp only [eq_iff_iff]
      omega
    simp only [hguard, List.getElem?_eq_getElem hcrd]
    simp only [lift_bind, lift_guard, lift_some_bind, lift_pure]
  · rw [guard_false_bind (by omega)]
    simp only [lift_bind, List.getElem?_eq_none (Nat.le_of_not_lt hcrd), lift_none_bind,
      bind_lift_none]

theorem erase_lutPattern2d (luts : Luts) (tpls : Tpls) (co : Bytes) :
    erase (lutPattern2d luts co) = operands 3 >>= fun i => liftM (i.exec luts tpls co) := by
  simp only [lutPattern2d, operands, erase_bind, erase_lift, erase_pure, erase_times, bind_assoc,
    pure_bind, toOption_raiseIf, lift_guard, Instr.exec]
  refine bind_congr fun lid => bind_congr fun sc => bind_congr fun rows => ?_
  cases hl : luts.lookup lid with
  | none =>
      rw [guard_false_bind (by simp [not_mem_keys_of_lookup hl])]
      simp [bind_lift_none]
  | some lut =>
  have hguard : (¬(lid ∉ luts.map Prod.fst ∨ sc < 1 ∨ rows < 1)) = (1 ≤ sc ∧ 1 ≤ rows) := by
    simp only [mem_keys_of_lookup hl, not_true_eq_false, false_or, eq_iff_iff]
    omega
  simp only [hguard, erase_patternCell luts hl, times_read, bind_assoc]
  simp only [lift_bind, lift_some_bind, lift_pure]

theorem erase_rawRepeat (luts : Luts) (tpls : Tpls) (co : Bytes) :
    erase (rawRepeat co) = operands 4 >>= fun i => liftM (i.exec luts tpls co) := by
  simp only [rawRepeat, operands, blob, erase_bind, erase_lift, erase_pure, bind_assoc, pure_bind,
    toOption_raiseIf, lift_guard, Instr.exec]
  refine bind_congr fun pl => bind_congr fun rep => ?_
  by_cases hrep : 1 ≤ rep
  · have hguard : ∀ left, (¬(pl < 1 ∨ rep < 1 ∨ left < pl)) = (1 ≤ pl ∧ pl ≤ left) := by
      intro left
      simp only [eq_iff_iff]
      omega
    simp only [hguard]
    rw [guard_true_bind hrep]
    rfl
  · rw [guard_false_bind hrep]
    have hguard : ∀ left, ¬¬(pl < 1 ∨ rep < 1 ∨ left < pl) := by
      intro left
      omega
    simp only [guard_false_bind (hguard _), bind_lift_none]

theorem erase_rawArith2d (luts : Luts) (tpls : Tpls) (co : Bytes) :
    erase (rawArith2d co) = operands 5 >>= fun i => liftM (i.exec luts tpls co) := by
  simp only [rawArith2d, operands, erase_bind, erase_lift, erase_pure, bind_assoc, pure_bind,
    toOption_raiseIf, lift_guard, Instr.exec]
  have hguard : ∀ sl rows, (¬(sl < 1 ∨ rows < 1)) = (1 ≤ sl ∧ 1 ≤ rows) := by
    intro sl rows
    simp only [eq_iff_iff]
    omega
  simp only [hguard]
  rfl

theorem erase_rawLiteral (luts : Luts) (tpls : Tpls) (co : Bytes) :
    erase (rawLiteral co) = operands 6 >>= fun i => liftM (i.exec luts tpls co) := by
  simp only [rawLiteral, operands, blob, erase_bind, erase_lift, erase_pure, bind_assoc, pure_bind,
    toOption_raiseIf, lift_guard, Instr.exec]
  have hguard : ∀ ll left, (¬(ll < 1 ∨ left < ll)) = (1 ≤ ll ∧ ll ≤ left) := by
    intro ll left
    simp only [eq_iff_iff]
    omega
  simp only [hguard]
  rfl

theorem erase_patchEntry (co : Bytes) :
    erase (patchEntry co) = pair word byte >>= fun p => liftM (patch co p) := by
  simp only [patchEntry, pair, erase_bind, erase_lift, erase_pure, bind_assoc, pure_bind,
    toOption_raiseIf, toOption_index, lift_guard, patch, Nat.not_le]
  refine bind_congr fun off => bind_congr fun val => ?_
  by_cases hoff : off < co.length
  · rw [guard_true_bind hoff]
    simp only [List.getElem?_eq_getElem hoff, lift_bind, lift_guard, lift_some_bind, lift_pure,
      guard_true_bind hoff]
  · rw [guard_false_bind hoff]
    simp only [lift_bind, lift_guard, guard_false_bind hoff]

theorem erase_sparsePatch (luts : Luts) (tpls : Tpls) (co : Bytes) :
    erase (sparsePatch co) = operands 7 >>= fun i => liftM (i.exec luts tpls co) := by
  simp only [sparsePatch, operands, erase_bind, erase_lift, erase_times, bind_assoc, pure_bind,
    toOption_raiseIf, lift_guard, Instr.exec, erase_patchEntry, times_read, Nat.not_lt, byte]

/-- One instruction of the decoder is read from the packet, then executed. -/
theorem erase_decodeOp (luts : Luts) (tpls : Tpls) (co : Bytes) :
    erase (decodeOp luts tpls co) = instr >>= fun i => liftM (i.exec luts tpls co) := by
  simp only [decodeOp, instr, erase_bind, erase_lift, toOption_raiseIf, lift_guard, bind_assoc,
    not_not]
  refine bind_congr fun op => ?_
  by_cases hop : op ∈ allowedOps
  · rw [guard_true_bind hop]
    simp only [allowedOps, List.mem_cons, List.not_mem_nil, or_false] at hop
    rcases hop with rfl | rfl | rfl | rfl | rfl | rfl | rfl
    · exact erase_templateSeq luts tpls co
    · exact erase_lutRun luts tpls co
    · exact erase_lutPattern2d luts tpls co
    · exact erase_rawRepeat luts tpls co
    · exact erase_rawArith2d luts tpls co
    · exact erase_rawLiteral luts tpls co
    · exact erase_sparsePatch luts tpls co
  · rw [guard_false_bind hop, operands_of_not_mem hop]
    rfl

/-- The channels from the id `k` on, after channels with smaller ids, are read first and executed
then. -/
theorem erase_decodeChannels (luts : Luts) (tpls : Tpls) (n : ℕ) :
    ∀ (k : ℕ) (out : Channels), (∀ t ∈ out.map Prod.fst, t < k) →
      erase ((List.range' k n).foldlM (decodeChannel luts tpls) out) = (do
        let chs ← channels n k
        let out' ← liftM (execFrom luts tpls k chs)
        pure (out ++ out')) := by
  induction n with
  | zero =>
      intro k out _
      simp only [List.range'_zero, List.foldlM_nil, erase_pure, channels, pure_bind, execFrom,
        lift_some_bind, List.append_nil]
  | succ n ih =>
      intro k out hout
      have hguard : ∀ tid opc, (¬(tid ≠ k ∨ tid ∈ out.map Prod.fst ∨ opc < 1)) =
          (tid = k ∧ 1 ≤ opc) := by
        intro tid opc
        have hnew : k ∉ out.map Prod.fst := fun h => Nat.lt_irrefl k (hout k h)
        by_cases htid : tid = k
        · subst htid
          simp only [hnew, ne_eq, not_true_eq_false, false_or, true_and, Nat.not_lt]
        · simp only [htid, ne_eq, not_false_eq_true, true_or, not_true_eq_false, false_and]
      simp only [List.range'_succ, List.foldlM_cons, erase_bind, decodeChannel, erase_lift,
        toOption_raiseIf, lift_guard, hguard, erase_times, erase_decodeOp, times_read, bind_assoc,
        pure_bind, channels, channel]
      refine bind_congr fun tid => bind_congr fun opc => ?_
      by_cases hc : tid = k ∧ 1 ≤ opc
      · rw [guard_true_bind hc, guard_true_bind hc]
        obtain ⟨rfl, -⟩ := hc
        refine bind_congr fun is => ?_
        have hnext : ∀ co : Bytes, ∀ t ∈ (out ++ [(tid, co)]).map Prod.fst, t < tid + 1 := by
          intro co t ht
          simp only [List.map_append, List.map_cons, List.map_nil, List.mem_append,
            List.mem_singleton] at ht
          rcases ht with ht | rfl
          · exact Nat.lt_succ_of_lt (hout t ht)
          · exact Nat.lt_succ_self t
        simp only [ih (tid + 1) _ (hnext _)]
        rw [lift_comm]
        simp only [execFrom, lift_bind, bind_assoc, lift_pure, pure_bind, List.append_assoc,
          List.singleton_append]
      · rw [guard_false_bind hc, guard_false_bind hc]

/-- A whole program is read first and executed then. -/
theorem erase_decodeMux (luts : Luts) (tpls : Tpls) :
    erase (decodeMux luts tpls) = program >>= fun chs => liftM (execProgram luts tpls chs) := by
  have hguard : ∀ m nch, (¬(m ≠ magicWarm ∨ nch < 1)) = (m = magicWarm ∧ 1 ≤ nch) := by
    intro m nch
    simp only [ne_eq, not_or, not_not, Nat.not_lt]
  simp only [decodeMux, program, execProgram, erase_bind, erase_lift, toOption_raiseIf, lift_guard,
    hguard, bind_assoc, erase_pure, pure_bind]
  refine bind_congr fun m => bind_congr fun nch => bind_congr fun _ => ?_
  simp only [erase_decodeChannels luts tpls nch 1 [] (by simp), bind_assoc, pure_bind,
    List.nil_append]
  refine bind_congr fun chs => ?_
  have hswap := lift_comm (execFrom luts tpls 1 chs)
    (do let left ← erase unread; guard (left = 0) : Grammar Unit) fun out _ => pure out
  simpa only [bind_assoc, bind_pure, ne_eq, not_not] using hswap

end OriginCell
