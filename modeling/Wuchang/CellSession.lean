/-
**What a session with an origin cell decoder depends on.**

A decoder lives through any mixture of good, malformed, cold and warm packets.  Two facts carry
everything here.  Every access of the decoder is preceded by the check that makes it safe, so a
packet that cannot be decoded ends in an `OriginCellHold` and in nothing else; and the tables of
the session change only after the last step of `decode` that can fail, so what a warm packet sees
is the bundle of the last cold packet that went through.

Main definitions:

* `OriginCell.coldBody` — what a cold packet computes, a function of the packet alone;
* `OriginCell.feed` — a decoder after a list of packets, each of which may have raised;
* `OriginCell.lastCold` — the last cold packet of such a list that was decoded.

Main results:

* `OriginCell.decode_cold`, `OriginCell.decode_warm` — `decode` by its two kinds of packets;
* `OriginCell.decode_error` — a decode that raises changes nothing and raises a hold;
* `OriginCell.feed_tables` — the tables after a list of packets are those of its last cold packet;
* `OriginCell.session_semantics` — the session statement.
-/

import Wuchang.CellDecoder

set_option relaxedAutoImplicit false
set_option autoImplicit false

namespace OriginCell

open Py

/-! ### No access is refused by the interpreter -/

theorem declared_readB : Declared readB := by
  intro buf b s'
  cases buf <;> simp [readB, EStateM.run]

theorem declared_readH : Declared readH :=
  declared_readB.bind fun _ _ _ _ => declared_readB.bind fun _ _ _ _ => .pure _

theorem declared_readBs (n : ℕ) : Declared (readBs n) := by
  induction n with
  | zero => exact .pure _
  | succ n ih => exact declared_readB.bind fun _ _ _ _ => ih.bind fun _ _ _ _ => .pure _

theorem declared_slice (n : ℕ) : Declared (slice n) := by
  intro buf b s'
  simp [slice, EStateM.run]

theorem declared_unread : Declared unread := by
  intro buf b s'
  simp [unread, EStateM.run]

theorem declared_parseBundle : Declared parseBundle := by
  have entry : ∀ ents, Declared (parseEntry ents) := fun ents =>
    declared_readB.bind fun _ _ _ _ => declared_unread.bind fun _ _ _ _ =>
      .guard_bind fun _ => (declared_slice _).bind fun _ _ _ _ => .pure _
  have lut : ∀ nl, Declared (parseLut nl) := fun nl =>
    declared_readB.bind fun _ _ _ _ => declared_readB.bind fun _ _ _ _ =>
      .guard_bind fun _ => (Declared.times entry _ _).bind fun _ _ _ _ => .pure _
  have tpl : ∀ nt, Declared (parseTpl nt) := fun nt =>
    declared_readB.bind fun _ _ _ _ => declared_readB.bind fun _ _ _ _ =>
      .guard_bind fun _ => (declared_readBs _).bind fun _ _ _ _ => .pure _
  exact declared_readB.bind fun _ _ _ _ => .guard_bind fun _ =>
    (Declared.times lut _ _).bind fun _ _ _ _ => declared_readB.bind fun _ _ _ _ =>
      (Declared.times tpl _ _).bind fun _ _ _ _ => declared_unread.bind fun _ _ _ _ =>
        .guard_bind fun _ => .pure _

/-- A record is read with as many values as it is declared to have. -/
theorem length_of_readBs {n : ℕ} {buf buf' : Bytes} {r : List ℕ}
    (h : (readBs n).run buf = .ok r buf') : r.length = n := by
  induction n generalizing buf r buf' with
  | zero =>
      simp only [readBs, EStateM.run_pure, EStateM.Result.ok.injEq] at h
      simp [← h.1]
  | succ n ih =>
      simp only [readBs, EStateM.run_bind] at h
      cases hb : readB.run buf with
      | error e s => simp [hb] at h
      | ok b s =>
          cases hbs : (readBs n).run s with
          | error e s' => simp [hb, hbs] at h
          | ok bs s' =>
              simp only [hb, hbs, EStateM.run_pure, EStateM.Result.ok.injEq] at h
              rw [← h.1, List.length_cons, ih hbs]

/-- The two accesses of a template code are behind their range checks. -/
theorem own_templateEntry (lut : List Bytes) {cc : ℕ} {r : List ℕ} (hr : r.length = cc) (c : ℤ) :
    Own (templateEntry lut cc r c) := by
  have hai : Own (templateIndex cc r c) := by
    unfold templateIndex
    split
    · exact .guard_bind fun hv => .index (by omega)
    · exact .ok _
  exact hai.bind fun ai _ => .guard_bind fun h => .index (Nat.lt_of_not_ge h)

theorem declared_templateSeq (luts : Luts) (tpls : Tpls) (co : Bytes) :
    Declared (templateSeq luts tpls co) := by
  refine declared_readB.bind fun _ lid _ _ => declared_readB.bind fun _ pid _ _ =>
    declared_readB.bind fun _ rc _ _ => declared_readB.bind fun _ cc _ _ =>
    declared_readB.bind fun _ rep _ _ => .guard_bind fun hids => .guard_bind fun _ => ?_
  rw [not_or, not_not, not_not] at hids
  refine (Declared.lift (.getKey hids.1)).bind fun _ lut _ _ =>
    (Declared.lift (.getKey hids.2)).bind fun _ tpl _ _ => ?_
  refine (Declared.times (fun recs => (declared_readBs cc).bind fun _ _ _ _ => .pure _) _ _).bind
    fun s recs s' hrecs => ?_
  -- every record has `cc` values, so a variable that passes the range check is there
  have hlen : ∀ r ∈ recs, r.length = cc := by
    refine times_inv (P := fun recs => ∀ r ∈ recs, r.length = cc) ?_ rc [] s recs s' (by simp) hrecs
    intro recs s recs' s' ih hstep
    cases hr : (readBs cc).run s with
    | error e t => simp only [EStateM.run_bind, hr, reduceCtorEq] at hstep
    | ok r t =>
        simp only [EStateM.run_bind, hr, EStateM.run_pure, EStateM.Result.ok.injEq] at hstep
        rw [← hstep.1]
        intro q hq
        rcases List.mem_append.1 hq with hq | hq
        · exact ih q hq
        · rw [List.mem_singleton.1 hq]
          exact length_of_readBs hr
  refine (Declared.lift (.foldlM _ (fun r hr blk => ?_) _)).bind fun _ _ _ _ => .pure _
  exact .foldlM _ (fun c _ blk => (own_templateEntry lut (hlen r hr) c).bind fun _ _ => .ok _) _

theorem declared_lutRun (luts : Luts) (co : Bytes) : Declared (lutRun luts co) := by
  refine declared_readB.bind fun _ lid _ _ => declared_readB.bind fun _ crd _ _ =>
    declared_readH.bind fun _ cnt _ _ => .guard_bind fun hid => ?_
  refine (Declared.lift (.getKey (not_not.1 hid))).bind fun _ lut _ _ => .guard_bind fun h => ?_
  exact (Declared.lift (.index (by omega))).bind fun _ _ _ _ => .pure _

theorem declared_lutPattern2d (luts : Luts) (co : Bytes) : Declared (lutPattern2d luts co) := by
  refine declared_readB.bind fun _ lid _ _ => declared_readB.bind fun _ sc _ _ =>
    declared_readB.bind fun _ rows _ _ => .guard_bind fun hid => ?_
  rw [not_or, not_not] at hid
  refine (Declared.times (fun rb => ?_) _ _).bind fun _ _ _ _ => .pure _
  refine declared_readB.bind fun _ crd _ _ => declared_readB.bind fun _ rl _ _ =>
    (Declared.lift (.getKey hid.1)).bind fun _ lut _ _ => .guard_bind fun h => ?_
  exact (Declared.lift (.index (by omega))).bind fun _ _ _ _ => .pure _

theorem declared_rawRepeat (co : Bytes) : Declared (rawRepeat co) :=
  declared_readB.bind fun _ _ _ _ => declared_readH.bind fun _ _ _ _ =>
    declared_unread.bind fun _ _ _ _ => .guard_bind fun _ =>
      (declared_slice _).bind fun _ _ _ _ => .pure _

theorem declared_rawArith2d (co : Bytes) : Declared (rawArith2d co) :=
  declared_readB.bind fun _ _ _ _ => declared_readB.bind fun _ _ _ _ =>
    declared_readB.bind fun _ _ _ _ => declared_readB.bind fun _ _ _ _ =>
      .guard_bind fun _ => .pure _

theorem declared_rawLiteral (co : Bytes) : Declared (rawLiteral co) :=
  declared_readH.bind fun _ _ _ _ => declared_unread.bind fun _ _ _ _ => .guard_bind fun _ =>
    (declared_slice _).bind fun _ _ _ _ => .pure _

theorem declared_sparsePatch (co : Bytes) : Declared (sparsePatch co) :=
  declared_readB.bind fun _ _ _ _ => .guard_bind fun _ => .times (fun _ =>
    declared_readH.bind fun _ _ _ _ => declared_readB.bind fun _ _ _ _ => .guard_bind fun h =>
      (Declared.lift (.index (by omega))).bind fun _ _ _ _ => .pure _) _ _

theorem declared_decodeOp (luts : Luts) (tpls : Tpls) (co : Bytes) :
    Declared (decodeOp luts tpls co) := by
  refine declared_readB.bind fun _ op _ _ => .guard_bind fun _ => ?_
  split
  · exact declared_templateSeq luts tpls co
  · exact declared_lutRun luts co
  · exact declared_lutPattern2d luts co
  · exact declared_rawRepeat co
  · exact declared_rawArith2d co
  · exact declared_rawLiteral co
  · exact declared_sparsePatch co
  · exact .pure co

theorem declared_decodeMux (luts : Luts) (tpls : Tpls) : Declared (decodeMux luts tpls) := by
  have channel : ∀ out expId, Declared (decodeChannel luts tpls out expId) := fun out expId =>
    declared_readB.bind fun _ _ _ _ => declared_readB.bind fun _ _ _ _ => .guard_bind fun _ =>
      (Declared.times (declared_decodeOp luts tpls) _ _).bind fun _ _ _ _ => .pure _
  exact declared_readB.bind fun _ _ _ _ => declared_readB.bind fun _ _ _ _ => .guard_bind fun _ =>
    (Declared.foldlM _ (fun expId _ out => channel out expId) _).bind fun _ _ _ _ =>
      declared_unread.bind fun _ _ _ _ => .guard_bind fun _ => .pure _

/-! ### One packet -/

/-- The packet's magic is that of a cold packet. -/
def isCold (pkt : Bytes) : Bool := pkt.head?.map UInt8.toNat == some magicCold

/-- The packet's magic is that of a warm packet. -/
def isWarm (pkt : Bytes) : Bool := pkt.head?.map UInt8.toNat == some magicWarm

/-- What a cold packet computes: its channels and its tables, or the exception it ends in. -/
def coldBody (Z : Zlib) (pkt : Bytes) : Except Fault (Channels × Luts × Tpls) := do
  let ((cf, rb), rest) ← callOn coldBundle pkt.tail
  let rb ← expandBundle Z cf rb
  let ((pl, pt), _) ← callOn parseBundle rb
  let (out, _) ← callOn (decodeMux pl pt) rest
  pure (out, pl, pt)

theorem callOn_readB_cons (m : UInt8) (rest : Bytes) :
    callOn readB (m :: rest) = .ok (m.toNat, rest) := rfl

/-- A cold packet: what it computes is taken from the packet, and replaces the tables. -/
theorem decode_cold (Z : Zlib) {pkt : Bytes} (h : isCold pkt) (d : Decoder) :
    (decode Z pkt).run d = match coldBody Z pkt with
      | .ok (out, pl, pt) => .ok out ⟨pl, pt, d.packetsDecoded + 1⟩
      | .error e => .error e d := by
  match pkt, h with
  | m :: rest, h =>
      have hm : m.toNat = magicCold := by simpa [isCold] using h
      simp only [decode, coldBody, List.tail_cons, raiseIf_neg (List.cons_ne_nil m rest),
        callOn_readB_cons, hm, if_true, EStateM.run_bind, run_lift_ok]
      cases callOn coldBundle rest with
      | error e => rfl
      | ok b =>
          cases hx : expandBundle Z b.1.1 b.1.2 with
          | error e => simp [hx]
          | ok rb =>
              cases hp : callOn parseBundle rb with
              | error e => simp [hx, hp]
              | ok p =>
                  cases hd : callOn (decodeMux p.1.1 p.1.2) b.2 with
                  | error e => simp [hx, hp, hd]
                  | ok out => simp [hx, hp, hd]

/-- A warm packet: the program runs on the tables of the session, which stay. -/
theorem decode_warm (Z : Zlib) {pkt : Bytes} (h : isWarm pkt) (d : Decoder) :
    (decode Z pkt).run d = match callOn (decodeMux d.luts d.tpls) pkt with
      | .ok (out, _) => .ok out ⟨d.luts, d.tpls, d.packetsDecoded + 1⟩
      | .error e => .error e d := by
  match pkt, h with
  | m :: rest, h =>
      have hm : m.toNat = magicWarm := by simpa [isWarm] using h
      have hcold : ¬magicWarm = magicCold := by decide
      simp only [decode, raiseIf_neg (List.cons_ne_nil m rest), callOn_readB_cons, hm, hcold,
        if_true, if_false, EStateM.run_bind, run_lift_ok, EStateM.run_get]
      cases callOn (decodeMux d.luts d.tpls) (m :: rest) with
      | error e => rfl
      | ok p => rfl

/-- Any other packet is refused before the object is looked at. -/
theorem decode_other (Z : Zlib) {pkt : Bytes} (hc : ¬isCold pkt) (hw : ¬isWarm pkt) :
    ∃ code, ∀ d, (decode Z pkt).run d = .error (.own code) d := by
  cases pkt with
  | nil => exact ⟨"HOLD_EMPTY_PACKET", fun d => rfl⟩
  | cons m rest =>
      have hcold : ¬m.toNat = magicCold := by simpa [isCold] using hc
      have hwarm : ¬m.toNat = magicWarm := by simpa [isWarm] using hw
      refine ⟨"HOLD_INVALID_PACKET_MAGIC", fun d => ?_⟩
      simp only [decode, raiseIf_neg (List.cons_ne_nil m rest), callOn_readB_cons, hcold, hwarm,
        if_false, EStateM.run_bind, run_lift_ok]
      rfl

theorem own_strictZlib (Z : Zlib) (cb : Bytes) : Own (strictZlib Z cb) := by
  unfold strictZlib
  split
  · intro b
    simp
  · split
    · intro b
      simp
    · exact .guard_bind fun _ => .ok _

theorem own_coldBody (Z : Zlib) (pkt : Bytes) : Own (coldBody Z pkt) := by
  have bundle : Declared coldBundle :=
    declared_readB.bind fun _ _ _ _ => declared_readH.bind fun _ _ _ _ =>
      declared_unread.bind fun _ _ _ _ => .guard_bind fun _ =>
        (declared_slice _).bind fun _ _ _ _ => .pure _
  have expand : ∀ cf rb, Own (expandBundle Z cf rb) := by
    intro cf rb
    unfold expandBundle
    split
    · exact own_strictZlib Z rb
    · exact .guard_bind fun _ => .ok _
  exact (bundle.callOn _).bind fun _ _ => (expand _ _).bind fun _ _ =>
    (declared_parseBundle.callOn _).bind fun _ _ =>
      ((declared_decodeMux _ _).callOn _).bind fun _ _ => .ok _

/-- **A decode that raises has changed nothing**, and what it raises is a hold. -/
theorem decode_error (Z : Zlib) {pkt : Bytes} {d d' : Decoder} {e : Fault}
    (h : (decode Z pkt).run d = .error e d') : d' = d ∧ ∃ code, e = .own code := by
  have hown : ∀ {e : Fault}, (∀ b, e ≠ .builtin b) → ∃ code, e = .own code := by
    intro e he
    cases e with
    | own code => exact ⟨code, rfl⟩
    | builtin b => exact absurd rfl (he b)
  by_cases hc : isCold pkt
  · rw [decode_cold Z hc] at h
    cases hb : coldBody Z pkt with
    | ok p => simp [hb] at h
    | error e' =>
        simp only [hb, EStateM.Result.error.injEq] at h
        refine ⟨h.2.symm, hown fun b he => own_coldBody Z pkt b ?_⟩
        rw [hb, h.1, he]
  · by_cases hw : isWarm pkt
    · rw [decode_warm Z hw] at h
      cases hb : callOn (decodeMux d.luts d.tpls) pkt with
      | ok p => simp [hb] at h
      | error e' =>
          simp only [hb, EStateM.Result.error.injEq] at h
          refine ⟨h.2.symm, hown fun b he => (declared_decodeMux d.luts d.tpls).callOn pkt b ?_⟩
          rw [hb, h.1, he]
    · obtain ⟨code, hcode⟩ := decode_other Z hc hw
      rw [hcode, EStateM.Result.error.injEq] at h
      exact ⟨h.2.symm, code, h.1.symm⟩

/-! ### A session -/

/-- A decoder after it was given a list of packets; a packet that raises is passed over. -/
def feed (Z : Zlib) (d : Decoder) (pkts : List Bytes) : Decoder :=
  pkts.foldl (fun d pkt => after ((decode Z pkt).run d)) d

/-- The decoder returned on this packet. -/
def decodes (Z : Zlib) (d : Decoder) (pkt : Bytes) : Bool :=
  match (decode Z pkt).run d with
  | .ok _ _ => true
  | .error _ _ => false

/-- The last cold packet among `pkts` that the session decoded, or `last` if there is none. -/
def lastColdFrom (Z : Zlib) : Decoder → Option Bytes → List Bytes → Option Bytes
  | _, last, [] => last
  | d, last, pkt :: pkts =>
      lastColdFrom Z (after ((decode Z pkt).run d))
        (if isCold pkt && decodes Z d pkt then some pkt else last) pkts

/-- **The last cold packet that succeeded** in a session fed with `pkts` from its start. -/
def lastCold (Z : Zlib) (pkts : List Bytes) : Option Bytes :=
  lastColdFrom Z Decoder.init none pkts

/-- The decoder that has seen at most one packet. -/
def afterOnly (Z : Zlib) (last : Option Bytes) : Decoder := feed Z Decoder.init last.toList

/-- One packet keeps the tables equal to those of a decoder that saw only the last cold packet. -/
theorem tables_step (Z : Zlib) {d : Decoder} {last : Option Bytes} (pkt : Bytes)
    (hl : d.luts = (afterOnly Z last).luts) (ht : d.tpls = (afterOnly Z last).tpls) :
    let d' := after ((decode Z pkt).run d)
    let last' := if isCold pkt && decodes Z d pkt then some pkt else last
    d'.luts = (afterOnly Z last').luts ∧ d'.tpls = (afterOnly Z last').tpls := by
  intro d' last'
  by_cases hc : isCold pkt
  · have hrun := decode_cold Z hc
    cases hb : coldBody Z pkt with
    | ok p =>
        have hd : decodes Z d pkt = true := by simp [decodes, hrun, hb]
        have hlast : last' = some pkt := by simp [last', hc, hd]
        simp [hlast, d', afterOnly, feed, hrun, hb]
    | error e =>
        have hd : decodes Z d pkt = false := by simp [decodes, hrun, hb]
        have hlast : last' = last := by simp [last', hd]
        simp [hlast, d', hrun, hb, hl, ht]
  · have hlast : last' = last := by simp [last', hc]
    rw [hlast, ← hl, ← ht]
    by_cases hw : isWarm pkt
    · simp only [d', decode_warm Z hw]
      cases callOn (decodeMux d.luts d.tpls) pkt with
      | ok p => exact ⟨rfl, rfl⟩
      | error e => exact ⟨rfl, rfl⟩
    · obtain ⟨code, hcode⟩ := decode_other Z hc hw
      simp [d', hcode]

theorem feed_tables_from (Z : Zlib) (pkts : List Bytes) : ∀ (d : Decoder) (last : Option Bytes),
    d.luts = (afterOnly Z last).luts → d.tpls = (afterOnly Z last).tpls →
    (feed Z d pkts).luts = (afterOnly Z (lastColdFrom Z d last pkts)).luts ∧
      (feed Z d pkts).tpls = (afterOnly Z (lastColdFrom Z d last pkts)).tpls := by
  induction pkts with
  | nil => intro d last hl ht; exact ⟨hl, ht⟩
  | cons pkt pkts ih =>
      intro d last hl ht
      obtain ⟨hl', ht'⟩ := tables_step Z pkt hl ht
      exact ih _ _ hl' ht'

/-- **The tables of a session are those of the last cold packet it decoded.** -/
theorem feed_tables (Z : Zlib) (pkts : List Bytes) :
    (feed Z Decoder.init pkts).luts = (afterOnly Z (lastCold Z pkts)).luts ∧
      (feed Z Decoder.init pkts).tpls = (afterOnly Z (lastCold Z pkts)).tpls :=
  feed_tables_from Z pkts Decoder.init none rfl rfl

/-- **What a session depends on.**  After any packets `pkts`, decoding a further packet: if it
raises, the decoder is unchanged and the exception is an `OriginCellHold`; if it is cold, what it
returns or raises is the same after any other packets; and if it is warm and returns, a decoder
that has seen only the last cold packet that succeeded returns the same channels for it. -/
theorem session_semantics (Z : Zlib) (pkts : List Bytes) (pkt : Bytes) :
    (∀ e d', (decode Z pkt).run (feed Z Decoder.init pkts) = .error e d' →
      d' = feed Z Decoder.init pkts ∧ ∃ code, e = .own code) ∧
    (isCold pkt → ∀ pkts', outcome ((decode Z pkt).run (feed Z Decoder.init pkts)) =
      outcome ((decode Z pkt).run (feed Z Decoder.init pkts'))) ∧
    (isWarm pkt → ∀ out d', (decode Z pkt).run (feed Z Decoder.init pkts) = .ok out d' →
      ∃ d'', (decode Z pkt).run (afterOnly Z (lastCold Z pkts)) = .ok out d'') := by
  refine ⟨fun e d' h => decode_error Z h, ?_, ?_⟩
  · intro hc pkts'
    rw [decode_cold Z hc, decode_cold Z hc]
    cases coldBody Z pkt <;> rfl
  · intro hw out d' h
    obtain ⟨hl, ht⟩ := feed_tables Z pkts
    rw [decode_warm Z hw, hl, ht] at h
    rw [decode_warm Z hw]
    cases hb : callOn (decodeMux (afterOnly Z (lastCold Z pkts)).luts
        (afterOnly Z (lastCold Z pkts)).tpls) pkt with
    | ok p =>
        simp only [hb, EStateM.Result.ok.injEq] at h
        exact ⟨_, by rw [← h.1]⟩
    | error e => simp [hb] at h

end OriginCell
