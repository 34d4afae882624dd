/-
**The substrate bundle is written and read in one way only.**

A cold packet brings its look-up tables and templates along in a bundle, three levels of lengths
deep.  `pack_bundle` writes the bundle from two dictionaries and `_parse_bundle` reads it back.  Every
level is a layout: what the parser reads is the writing of one value, and of no other.  Empty entries,
ids that occur twice and bytes behind the end are exactly what no writing has, so the parser accepts
nothing that the packer would write differently.

Main definitions:

* `OriginCell.packBundle` — `pack_bundle`;
* `OriginCell.Packable` — the dictionaries that have a bundle;
* `OriginCell.bundleBytes` — their bundle.

Main results:

* `OriginCell.parseBundle_iff` — the parser accepts the bundles of packable dictionaries, and these
  only;
* `OriginCell.packBundle_ok` — the packer writes the bundle;
* `OriginCell.bundle_round_trip` — the two are inverse to each other, in both directions.
-/

import Wuchang.CellMotion
import Wuchang.PyLayout

set_option relaxedAutoImplicit false
set_option autoImplicit false

namespace OriginCell

open Py

/-! ### The packer -/

/-- `out.extend(ns)` and `out.append(n)` on a `bytearray`. -/
def extendInts (out : Bytes) (ns : List ℤ) : Except Fault Bytes := do
  let bs ← ns.mapM (byteOr .valueError)
  pure (out ++ bs.flatten)

/-- A value of `struct.pack` under the format `b`. -/
def packSigned (c : ℤ) : Except Fault Bytes :=
  if -128 ≤ c ∧ c < 128 then .ok [UInt8.ofNat (c % 256).toNat] else .error (.builtin .structError)

/-- One look-up table. -/
def packLut (out : Bytes) (lut : ℕ × List Bytes) : Except Fault Bytes := do
  let out ← extendInts out [lut.1, lut.2.length]
  lut.2.foldlM (fun out e => do
    let out ← extendInts out [e.length]
    pure (out ++ e)) out

/-- One template. -/
def packTpl (out : Bytes) (tpl : ℕ × List ℤ) : Except Fault Bytes := do
  let out ← extendInts out [tpl.1, tpl.2.length]
  let codes ← tpl.2.mapM packSigned
  pure (out ++ codes.flatten)

/-- `pack_bundle` -/
def packBundle (ld : Luts) (td : Tpls) : Except Fault Bytes := do
  let out ← extendInts [] [ld.length]
  let out ← ld.foldlM packLut out
  let out ← extendInts out [td.length]
  td.foldlM packTpl out

/-! ### The format -/

/-- An entry of a look-up table that has a length byte. -/
def EntryOk (e : Bytes) : Prop := 1 ≤ e.length ∧ e.length < 256

/-- A look-up table that fits its two header bytes. -/
def LutOk (lut : ℕ × List Bytes) : Prop :=
  lut.1 < 256 ∧ 1 ≤ lut.2.length ∧ lut.2.length < 256 ∧ ∀ e ∈ lut.2, EntryOk e

/-- A template that fits its two header bytes, with codes that are signed bytes. -/
def TplOk (tpl : ℕ × List ℤ) : Prop :=
  tpl.1 < 256 ∧ 1 ≤ tpl.2.length ∧ tpl.2.length < 256 ∧ ∀ c ∈ tpl.2, -128 ≤ c ∧ c < 128

/-- The dictionaries that a bundle can hold. -/
structure Packable (ld : Luts) (td : Tpls) : Prop where
  /-- There is a look-up table, and not too many of them. -/
  lutCount : 1 ≤ ld.length ∧ ld.length < 256
  lutIds : (ld.map Prod.fst).Nodup
  lutOk : ∀ lut ∈ ld, LutOk lut
  tplCount : td.length < 256
  tplIds : (td.map Prod.fst).Nodup
  tplOk : ∀ tpl ∈ td, TplOk tpl

/-- An entry behind its length. -/
def entryBytes (e : Bytes) : Bytes := UInt8.ofNat e.length :: e

/-- A look-up table behind its id and the number of its entries. -/
def lutBytes (lut : ℕ × List Bytes) : Bytes :=
  [UInt8.ofNat lut.1, UInt8.ofNat lut.2.length] ++ (lut.2.map entryBytes).flatten

/-- A code of a template, in two's complement. -/
def codeByte (c : ℤ) : UInt8 := UInt8.ofNat (c % 256).toNat

/-- A template behind its id and its length. -/
def tplBytes (tpl : ℕ × List ℤ) : Bytes :=
  [UInt8.ofNat tpl.1, UInt8.ofNat tpl.2.length] ++ tpl.2.map codeByte

/-- The bundle of two dictionaries. -/
def bundleBytes (ld : Luts) (td : Tpls) : Bytes :=
  UInt8.ofNat ld.length :: (ld.map lutBytes).flatten ++
    UInt8.ofNat td.length :: (td.map tplBytes).flatten

/-! ### The packer writes the format -/

theorem extendInts_ok (out : Bytes) {l : List ℕ} (h : ∀ n ∈ l, n < 256) :
    extendInts out (l.map Int.ofNat) = .ok (out ++ l.map UInt8.ofNat) := by
  have hmap : (l.map Int.ofNat).mapM (byteOr .valueError) =
      (.ok ((l.map Int.ofNat).map fun z => [UInt8.ofNat z.toNat]) : Except Fault _) := by
    refine mapM_eq_ok fun z hz => ?_
    obtain ⟨n, hn, rfl⟩ := List.mem_map.1 hz
    exact byteOr_ok (h n hn) _
  rw [extendInts, hmap, ok_bind]
  simp only [pure_eq_ok_iff, List.append_cancel_left_eq, List.map_map]
  clear h hmap
  induction l with
  | nil => rfl
  | cons n l ih => simpa using ih

theorem packEntries_ok (ents : List Bytes) (h : ∀ e ∈ ents, EntryOk e) :
    ∀ out : Bytes, ents.foldlM (fun out e => do
      let out ← extendInts out [e.length]
      pure (out ++ e)) out = .ok (out ++ (ents.map entryBytes).flatten) := by
  induction ents with
  | nil =>
      intro out
      simp [pure, Except.pure]
  | cons e ents ih =>
      intro out
      obtain ⟨he, hents⟩ := List.forall_mem_cons.1 h
      have hlen : extendInts out [(e.length : ℤ)] = .ok (out ++ [UInt8.ofNat e.length]) :=
        extendInts_ok (l := [e.length]) out (by simpa using he.2)
      rw [List.foldlM_cons, hlen, ok_bind]
      refine (ih hents _).trans ?_
      simp [entryBytes]

theorem packLut_ok {lut : ℕ × List Bytes} (h : LutOk lut) (out : Bytes) :
    packLut out lut = .ok (out ++ lutBytes lut) := by
  obtain ⟨hid, -, hlen, hents⟩ := h
  have hhead : extendInts out [(lut.1 : ℤ), (lut.2.length : ℤ)] =
      .ok (out ++ [UInt8.ofNat lut.1, UInt8.ofNat lut.2.length]) :=
    extendInts_ok (l := [lut.1, lut.2.length]) out (by simp [hid, hlen])
  rw [packLut, hhead, ok_bind, packEntries_ok _ hents, lutBytes, List.append_assoc]

theorem packTpl_ok {tpl : ℕ × List ℤ} (h : TplOk tpl) (out : Bytes) :
    packTpl out tpl = .ok (out ++ tplBytes tpl) := by
  obtain ⟨hid, -, hlen, hcodes⟩ := h
  have hhead : extendInts out [(tpl.1 : ℤ), (tpl.2.length : ℤ)] =
      .ok (out ++ [UInt8.ofNat tpl.1, UInt8.ofNat tpl.2.length]) :=
    extendInts_ok (l := [tpl.1, tpl.2.length]) out (by simp [hid, hlen])
  have hmap : tpl.2.mapM packSigned =
      (.ok (tpl.2.map fun c => [codeByte c]) : Except Fault _) :=
    mapM_eq_ok fun c hc => by rw [packSigned, if_pos (hcodes c hc), codeByte]
  rw [packTpl, hhead, ok_bind, hmap, ok_bind, tplBytes, ← List.append_assoc]
  simp only [pure_eq_ok_iff, ← List.flatMap_def, ← List.map_eq_flatMap]

/-- Parts that are written one behind the other. -/
theorem packAll_ok {α : Type} {pack : Bytes → α → Except Fault Bytes} {enc : α → Bytes}
    {xs : List α} (h : ∀ x ∈ xs, ∀ out, pack out x = .ok (out ++ enc x)) :
    ∀ out : Bytes, xs.foldlM pack out = .ok (out ++ (xs.map enc).flatten) := by
  induction xs with
  | nil =>
      intro out
      simp [pure, Except.pure]
  | cons x xs ih =>
      intro out
      rw [List.foldlM_cons, h x (by simp), ok_bind, ih fun y hy => h y (by simp [hy])]
      simp

/-- **The packer** writes the bundle of packable dictionaries. -/
theorem packBundle_ok {ld : Luts} {td : Tpls} (h : Packable ld td) :
    packBundle ld td = .ok (bundleBytes ld td) := by
  have hluts : extendInts [] [(ld.length : ℤ)] = .ok [UInt8.ofNat ld.length] :=
    extendInts_ok (l := [ld.length]) [] (by simpa using h.lutCount.2)
  have htpls : ∀ out, extendInts out [(td.length : ℤ)] = .ok (out ++ [UInt8.ofNat td.length]) :=
    fun out => extendInts_ok (l := [td.length]) out (by simpa using h.tplCount)
  rw [packBundle, hluts, ok_bind, packAll_ok fun lut hl => packLut_ok (h.lutOk lut hl), ok_bind,
    htpls, ok_bind, packAll_ok fun tpl ht => packTpl_ok (h.tplOk tpl ht)]
  simp [bundleBytes]

/-! ### The parser reads the format -/

theorem byte_recognises : Recognises byte (· < 256) (fun n => [UInt8.ofNat n]) := by
  intro s n s'
  rw [byte_run_iff]
  constructor
  · rintro ⟨b, rfl, rfl⟩
    exact ⟨b.toNat_lt, by simp⟩
  · rintro ⟨hn, rfl⟩
    exact ⟨_, rfl, (toNat_ofNat hn).symm⟩

theorem blob_recognises (n : ℕ) :
    Recognises (blob n) (fun b => 1 ≤ n ∧ b.length = n) (fun b => b) := by
  intro s b s'
  rw [blob_run_iff]
  constructor
  · rintro ⟨hn, hlen, rfl, rfl⟩
    exact ⟨⟨hn, by rw [List.length_take, Nat.min_eq_left hlen]⟩, (List.take_append_drop n s).symm⟩
  · rintro ⟨⟨hn, rfl⟩, rfl⟩
    exact ⟨hn, by simp, by simp, by simp⟩

/-- An entry: its length, and that many bytes. -/
def entry : Grammar Bytes := do
  let L ← byte
  blob L

/-- A code of a template. -/
def code : Grammar ℤ := do
  let b ← byte
  pure (signed b)

/-- A row of a dictionary: its id, its length, and that many elements. -/
def row {α : Type} (g : Grammar α) (acc : List (ℕ × List α)) : Grammar (List (ℕ × List α)) := do
  let id ← byte
  let n ← byte
  guard (¬(id ∈ acc.map Prod.fst ∨ n < 1))
  let as ← several n g
  pure (acc ++ [(id, as)])

theorem entry_recognises : Recognises entry EntryOk entryBytes := by
  refine (byte_recognises.bind List.length (fun L _ => blob_recognises L)
    fun _ _ h => h.2).congr (fun e => ?_) fun e _ => rfl
  constructor
  · rintro ⟨hlen, hpos, -⟩
    exact ⟨hpos, hlen⟩
  · rintro ⟨hpos, hlen⟩
    exact ⟨hlen, hpos, rfl⟩

/-- What every row of a dictionary is: an id and a length of one byte each, at least one element. -/
theorem row_recognises {α : Type} {g : Grammar α} {P : α → Prop} {enc : α → Bytes}
    (hg : Recognises g P enc) (acc : List (ℕ × List α)) (s : Bytes) (r : List (ℕ × List α))
    (s' : Bytes) : (row g acc).run s = some (r, s') ↔
      ∃ x : ℕ × List α, ((x.1 < 256 ∧ 1 ≤ x.2.length ∧ x.2.length < 256 ∧ ∀ a ∈ x.2, P a) ∧
        x.1 ∉ acc.map Prod.fst) ∧ r = acc ++ [x] ∧
        s = [UInt8.ofNat x.1, UInt8.ofNat x.2.length] ++ (x.2.map enc).flatten ++ s' := by
  simp only [row, run_bind_eq_some_iff, run_guard_eq_some_iff, run_pure_eq_some_iff, not_or,
    Nat.not_lt]
  constructor
  · rintro ⟨id, t, hid, n, u, hn, _, _, ⟨⟨hfresh, hpos⟩, rfl⟩, as, v, has, rfl, rfl⟩
    obtain ⟨hid', rfl⟩ := (byte_recognises _ _ _).1 hid
    obtain ⟨hn', rfl⟩ := (byte_recognises _ _ _).1 hn
    obtain ⟨⟨rfl, hall⟩, rfl⟩ := (hg.repeated _ _ _ _).1 has
    exact ⟨(id, as), ⟨⟨hid', hpos, hn', hall⟩, hfresh⟩, rfl, by simp⟩
  · rintro ⟨⟨id, as⟩, ⟨⟨hid, hpos, hn, hall⟩, hfresh⟩, rfl, rfl⟩
    exact ⟨id, _, (byte_recognises _ _ _).2 ⟨hid, rfl⟩, as.length, _,
      (byte_recognises _ _ _).2 ⟨hn, rfl⟩, ⟨⟩, _, ⟨⟨hfresh, hpos⟩, rfl⟩, as, s',
      (hg.repeated _ _ _ _).2 ⟨⟨rfl, hall⟩, rfl⟩, rfl, rfl⟩

theorem erase_parseEntry (ents : List Bytes) :
    erase (parseEntry ents) = (do let e ← entry; pure (ents ++ [e])) := by
  simp only [parseEntry, erase_bind, erase_lift, toOption_raiseIf, lift_guard, erase_pure, entry,
    byte, blob, bind_assoc, not_or, Nat.not_lt]

theorem erase_parseLut (nl : Luts) : erase (parseLut nl) = row entry nl := by
  simp only [parseLut, erase_bind, erase_lift, toOption_raiseIf, lift_guard, erase_pure,
    erase_times, erase_parseEntry, times_collect, List.nil_append, bind_assoc, pure_bind, row, byte]

/-- The values of the codes of a template, read one by one. -/
theorem several_code (n : ℕ) :
    several n code = (do let bs ← several n byte; pure (bs.map signed)) := by
  induction n with
  | zero => simp [several]
  | succ n ih =>
      rw [several_succ, ih]
      simp only [several_succ, code, bind_assoc, pure_bind, List.map_cons]

theorem erase_parseTpl (nt : Tpls) : erase (parseTpl nt) = row code nt := by
  simp only [parseTpl, erase_bind, erase_lift, toOption_raiseIf, lift_guard, erase_pure,
    erase_readBs, row, several_code, bind_assoc, pure_bind, byte]

theorem code_recognises :
    Recognises code (fun c => -128 ≤ c ∧ c < 128) (fun c => [codeByte c]) := by
  have hinv : ∀ n, n < 256 → ((signed n % 256).toNat) = n := by
    intro n hn
    unfold signed
    split <;> omega
  refine (byte_recognises.map (fun c : ℤ => (c % 256).toNat) hinv).congr (fun c => ?_)
    fun c _ => rfl
  constructor
  · rintro ⟨hn, hc⟩
    rw [← hc]
    unfold signed
    split <;> omega
  · rintro ⟨hlo, hhi⟩
    refine ⟨by omega, ?_⟩
    unfold signed
    split <;> omega

theorem luts_iff (n : ℕ) (s s' : Bytes) (ld : Luts) :
    (times n (row entry) []).run s = some (ld, s') ↔ (ld.length = n ∧ (∀ lut ∈ ld, LutOk lut) ∧
      (ld.map Prod.fst).Nodup) ∧ s = (ld.map lutBytes).flatten ++ s' := by
  rw [Recognises.rows (P := LutOk) (row_recognises entry_recognises) n [] s ld s'
    (by simp)]
  constructor
  · rintro ⟨as, hlen, hok, hnodup, rfl, rfl⟩
    exact ⟨⟨hlen, hok, hnodup⟩, rfl⟩
  · rintro ⟨⟨hlen, hok, hnodup⟩, rfl⟩
    exact ⟨ld, hlen, hok, hnodup, rfl, rfl⟩

theorem tpls_iff (n : ℕ) (s s' : Bytes) (td : Tpls) :
    (times n (row code) []).run s = some (td, s') ↔ (td.length = n ∧ (∀ tpl ∈ td, TplOk tpl) ∧
      (td.map Prod.fst).Nodup) ∧ s = (td.map tplBytes).flatten ++ s' := by
  have hcodes : ∀ cs : List ℤ, (cs.map fun c => [codeByte c]).flatten = cs.map codeByte :=
    fun cs => by rw [← List.flatMap_def, ← List.map_eq_flatMap]
  have hstep : ∀ acc s r s', (row code acc).run s = some (r, s') ↔
      ∃ tpl, (TplOk tpl ∧ tpl.1 ∉ acc.map Prod.fst) ∧ r = acc ++ [tpl] ∧ s = tplBytes tpl ++ s' := by
    intro acc s r s'
    rw [row_recognises code_recognises]
    simp only [hcodes]
    rfl
  rw [Recognises.rows hstep n [] s td s' (by simp)]
  constructor
  · rintro ⟨as, hlen, hok, hnodup, rfl, rfl⟩
    exact ⟨⟨hlen, hok, hnodup⟩, rfl⟩
  · rintro ⟨⟨hlen, hok, hnodup⟩, rfl⟩
    exact ⟨td, hlen, hok, hnodup, rfl, rfl⟩

/-- **The parser** accepts the bundles of packable dictionaries, and these only. -/
theorem parseBundle_iff (b s : Bytes) (ld : Luts) (td : Tpls) :
    callOn parseBundle b = .ok ((ld, td), s) ↔ Packable ld td ∧ b = bundleBytes ld td ∧ s = [] := by
  have herase : erase parseBundle = (do
      let lc ← byte
      guard (¬lc < 1)
      let nl ← times lc (row entry) []
      let tc ← byte
      let nt ← times tc (row code) []
      let left ← erase unread
      guard (¬left ≠ 0)
      pure (nl, nt) : Grammar (Luts × Tpls)) := by
    simp only [parseBundle, erase_bind, erase_lift, toOption_raiseIf, lift_guard, erase_pure,
      erase_times, erase_parseLut, erase_parseTpl, byte]
  have hunread : ∀ t n u, (erase unread).run t = some (n, u) ↔ n = t.length ∧ u = t := by
    intro t n u
    have h : (erase unread).run t = some (t.length, t) := rfl
    simp only [h, Option.some.injEq, Prod.mk.injEq, eq_comm]
  rw [callOn_eq_ok_iff, herase]
  simp only [run_bind_eq_some_iff, run_guard_eq_some_iff, run_pure_eq_some_iff, luts_iff, tpls_iff,
    hunread, byte_recognises _ _ _, Nat.not_lt, not_not]
  constructor
  · rintro ⟨_, _, ⟨hlc, rfl⟩, _, _, ⟨hpos, rfl⟩, _, _, ⟨⟨rfl, hluts, hids⟩, rfl⟩, _, _, ⟨htc, rfl⟩,
      _, _, ⟨⟨rfl, htpls, htids⟩, rfl⟩, _, _, ⟨rfl, rfl⟩, _, _, ⟨hleft, rfl⟩, heq, rfl⟩
    obtain ⟨rfl, rfl⟩ := Prod.mk.inj heq
    obtain rfl := List.length_eq_zero_iff.1 hleft
    exact ⟨⟨⟨hpos, hlc⟩, hids, hluts, htc, htids, htpls⟩, by simp [bundleBytes], rfl⟩
  · rintro ⟨h, rfl, rfl⟩
    refine ⟨ld.length, _, ⟨h.lutCount.2, rfl⟩, ⟨⟩, _, ⟨h.lutCount.1, rfl⟩, ld, _,
      ⟨⟨rfl, h.lutOk, h.lutIds⟩, rfl⟩, td.length, _, ⟨h.tplCount, rfl⟩, td, [],
      ⟨⟨rfl, h.tplOk, h.tplIds⟩, ?_⟩, 0, [], ⟨rfl, rfl⟩, ⟨⟩, [], ⟨rfl, rfl⟩, rfl, rfl⟩
    simp

/-- **The bundle codec.**  Dictionaries that fit are packed, and the bundle is parsed to the same
dictionaries in the same order; a bundle that is accepted is what the packer writes for what was
parsed. -/
theorem bundle_round_trip :
    (∀ ld td, Packable ld td →
      ∃ b, packBundle ld td = .ok b ∧ callOn parseBundle b = .ok ((ld, td), [])) ∧
    (∀ b s ld td, callOn parseBundle b = .ok ((ld, td), s) → packBundle ld td = .ok b) := by
  constructor
  · intro ld td h
    exact ⟨_, packBundle_ok h, (parseBundle_iff _ _ _ _).2 ⟨h, rfl, rfl⟩⟩
  · intro b s ld td hparse
    obtain ⟨h, rfl, -⟩ := (parseBundle_iff _ _ _ _).1 hparse
    exact packBundle_ok h

/-- A table of two entries with the template that names one of them and one variable. -/
theorem bundle_round_trip_sample :
    (∃ b, packBundle [(2, [[7], [8, 9]])] [(1, [0, -1])] = .ok b ∧
      callOn parseBundle b = .ok (([(2, [[7], [8, 9]])], [(1, [0, -1])]), [])) ∧
    packBundle [(2, [[7], [8, 9]])] [(1, [0, -1])] = .ok [1, 2, 2, 1, 7, 2, 8, 9, 1, 1, 2, 0, 255] :=
  ⟨bundle_round_trip.1 _ _ ⟨by decide, by decide, by simp [LutOk, EntryOk], by decide, by decide,
    by simp [TplOk]⟩,
    bundle_round_trip.2 [1, 2, 2, 1, 7, 2, 8, 9, 1, 1, 2, 0, 255] [] _ _ rfl⟩

end OriginCell
