/-
**JSON texts.**

`json.dumps` writes a value in one of several styles: what separates items and what separates a key from
its value, and whether text outside ASCII is escaped.  The keys are written in the order of the items,
so the sorted items of `Py.PyVal` give the texts of `sort_keys=True`.

Main definitions:

* `PyJson.Style` — the separators, and whether the text is ASCII;
* `PyJson.serialisable` — the values that are written, and not refused with a `TypeError`;
* `PyJson.write`, `PyJson.dumps` — `json.dumps`;
* `PyJson.Plain` — the values that are written, with a condition on their texts.

Main results:

* `PyJson.dumps_plain` — a plain value is written, in characters that can be encoded if its texts can;
* `PyJson.plain_of_encodable_write` — and only if they can, unless the text is ASCII;
* `PyJson.pyEq_self` — a finite value that is written equals itself.
-/

import Wuchang.PyEq

set_option relaxedAutoImplicit false
set_option autoImplicit false

namespace PyJson

open Py

/-- A style of `json.dumps`. -/
structure Style where
  itemSeparator : PyStr
  keySeparator : PyStr
  ensureAscii : Bool

/-- `separators=(",", ":"), ensure_ascii=False` -/
def compact : Style := ⟨cp ",", cp ":", false⟩

/-- `ensure_ascii=False` with the default separators -/
def spaced : Style := ⟨cp ", ", cp ": ", false⟩

/-- The defaults. -/
def ascii : Style := ⟨cp ", ", cp ": ", true⟩

/-! ### The values that are written -/

mutual

/-- No foreign object occurs, and the keys are texts. -/
def serialisable : PyVal → Bool
  | .other => false
  | .list xs => serialisableList xs
  | .dict items => serialisableItems items
  | _ => true

/-- None occurs in a list. -/
def serialisableList : List PyVal → Bool
  | [] => true
  | x :: xs => serialisable x && serialisableList xs

/-- None occurs in a dictionary. -/
def serialisableItems : Items → Bool
  | [] => true
  | (k, v) :: items => k ≠ .other && serialisable v && serialisableItems items

end

mutual

/-- No number of the value is an infinity or a NaN: what `allow_nan=False` asks for. -/
def allFinite : PyVal → Bool
  | .float x => x.isFinite
  | .list xs => allFiniteList xs
  | .dict items => allFiniteItems items
  | _ => true

/-- None of a list is. -/
def allFiniteList : List PyVal → Bool
  | [] => true
  | x :: xs => allFinite x && allFiniteList xs

/-- None of a dictionary is. -/
def allFiniteItems : Items → Bool
  | [] => true
  | (_, v) :: items => allFinite v && allFiniteItems items

end

/-! ### Texts and numbers -/

/-- `"\\u{0:04x}".format(n)` -/
def escapeUnit (n : ℕ) : PyStr :=
  cp "\\u" ++ [n / 4096, n / 256 % 16, n / 16 % 16, n % 16].map fun d => (Nat.digitChar d).toNat

/-- The escape of one code point in an ASCII text; beyond the first plane it is a surrogate pair. -/
def escapeAscii (c : ℕ) : PyStr :=
  if c < 0x7F then escapeChar c
  else if c < 0x10000 then escapeUnit c
  else escapeUnit (0xD800 + (c - 0x10000) / 0x400) ++ escapeUnit (0xDC00 + (c - 0x10000) % 0x400)

/-- A text. -/
def writeText (st : Style) (s : PyStr) : PyStr :=
  if st.ensureAscii then cp "\"" ++ s.flatMap escapeAscii ++ cp "\"" else quote s

/-- A float, with the names of the three that are not finite. -/
def writeFloat (x : PyFloat) : PyStr :=
  if x.isFinite then x.repr
  else if x.frac ≠ 0 then cp "NaN"
  else if x.neg then cp "-Infinity" else cp "Infinity"

/-- A key. -/
def writeKey (st : Style) : PyKey → PyStr
  | .str s => writeText st s
  | .other => []

/-! ### Values -/

mutual

/-- `json.dumps` of a value that is serialisable. -/
def write (st : Style) : PyVal → PyStr
  | .none => cp "null"
  | .bool b => if b then cp "true" else cp "false"
  | .int n => intText n
  | .float x => writeFloat x
  | .str s => writeText st s
  | .list [] => cp "[]"
  | .list (x :: xs) => cp "[" ++ write st x ++ writeList st xs ++ cp "]"
  | .dict [] => cp "\x7b\x7d"
  | .dict ((k, v) :: items) =>
      cp "\x7b" ++ writeKey st k ++ st.keySeparator ++ write st v ++ writeItems st items ++ cp "\x7d"
  | .other => []

/-- The elements of a list after the first. -/
def writeList (st : Style) : List PyVal → PyStr
  | [] => []
  | x :: xs => st.itemSeparator ++ write st x ++ writeList st xs

/-- The items of a dictionary after the first. -/
def writeItems (st : Style) : Items → PyStr
  | [] => []
  | (k, v) :: items =>
      st.itemSeparator ++ writeKey st k ++ st.keySeparator ++ write st v ++ writeItems st items

end

attribute [local grind =] serialisable serialisableList serialisableItems allFinite allFiniteList
  allFiniteItems write writeList writeItems

/-- `json.dumps`, or the `TypeError` it raises. -/
def dumps {ε : Type} (st : Style) (v : PyVal) : Except (Raise ε) PyStr :=
  if serialisable v then .ok (write st v) else .error (.builtin .typeError)

/-! ### Plain values -/

/-- The value is serialisable, and its texts satisfy a condition. -/
inductive Plain (P : PyStr → Prop) : PyVal → Prop
  | none : Plain P .none
  | bool (b : Bool) : Plain P (.bool b)
  | int (n : ℤ) : Plain P (.int n)
  | float (x : PyFloat) : Plain P (.float x)
  | str (s : PyStr) (h : P s) : Plain P (.str s)
  | list (xs : List PyVal) (h : ∀ x ∈ xs, Plain P x) : Plain P (.list xs)
  | dict (items : Items) (keys : ∀ p ∈ items, ∃ s, p.1 = .str s ∧ P s)
      (h : ∀ p ∈ items, Plain P p.2) : Plain P (.dict items)

variable {P : PyStr → Prop}

theorem serialisableList_iff {xs : List PyVal} :
    serialisableList xs = true ↔ ∀ x ∈ xs, serialisable x = true := by
  induction xs with
  | nil => simp [serialisableList]
  | cons x xs ih => simp [serialisableList, ih]

theorem serialisableItems_iff {items : Items} :
    serialisableItems items = true ↔ ∀ p ∈ items, p.1 ≠ .other ∧ serialisable p.2 = true := by
  induction items with
  | nil => simp [serialisableItems]
  | cons p items ih => simp [serialisableItems, ih, and_assoc]

theorem allFiniteList_iff {xs : List PyVal} :
    allFiniteList xs = true ↔ ∀ x ∈ xs, allFinite x = true := by
  induction xs with
  | nil => simp [allFiniteList]
  | cons x xs ih => simp [allFiniteList, ih]

theorem allFiniteItems_iff {items : Items} :
    allFiniteItems items = true ↔ ∀ p ∈ items, allFinite p.2 = true := by
  induction items with
  | nil => simp [allFiniteItems]
  | cons p items ih => simp [allFiniteItems, ih]

/-- A literal is serialisable when its values are. -/
theorem serialisable_obj {l : List (String × PyVal)} :
    serialisable (obj l) = true ↔ ∀ p ∈ l, serialisable p.2 = true := by
  rw [obj, serialisable, serialisableItems_iff, fields, List.forall_mem_map]
  exact forall₂_congr fun p _ => and_iff_right (by simp [key])

/-- A literal is finite when its values are. -/
theorem allFinite_obj {l : List (String × PyVal)} :
    allFinite (obj l) = true ↔ ∀ p ∈ l, allFinite p.2 = true := by
  rw [obj, allFinite, allFiniteItems_iff, fields, List.forall_mem_map]

/-- A finite value without foreign objects equals itself. -/
theorem pyEq_self {v : PyVal} (hwritten : serialisable v = true) (hfinite : allFinite v = true) :
    pyEq v v = true := by
  have hnum : ∀ {v : PyVal} {q : ℚ}, numOf v = some (.finite q) → pyEq v v = true := fun hv =>
    (pyEq_of_num hv).2 ⟨_, hv, by simp [numEq]⟩
  induction v using PyVal.induct with
  | none => rfl
  | bool b => exact hnum rfl
  | int n => exact hnum rfl
  | float x => exact hnum (by rw [numOf, if_pos (show x.isFinite = true from hfinite)])
  | str s => exact pyEq_str.2 rfl
  | list xs ih =>
      rw [serialisable, serialisableList_iff] at hwritten
      rw [allFinite, allFiniteList_iff] at hfinite
      rw [pyEq]
      induction xs with
      | nil => rfl
      | cons x xs ihxs =>
          rw [List.forall_mem_cons] at hwritten hfinite ih
          rw [pyEqList, ih.1 hwritten.1 hfinite.1, ihxs ih.2 hwritten.2 hfinite.2, Bool.and_true]
  | dict items ih =>
      rw [serialisable, serialisableItems_iff] at hwritten
      rw [allFinite, allFiniteItems_iff] at hfinite
      rw [pyEq]
      induction items with
      | nil => rfl
      | cons p items ihitems =>
          rw [List.forall_mem_cons] at hwritten hfinite ih
          rw [pyEqItems, ih.1 hwritten.1.2 hfinite.1, ihitems ih.2 hwritten.2 hfinite.2, Bool.and_true,
            Bool.and_true, decide_eq_true rfl]
  | other => cases hwritten

/-- A plain value is serialisable. -/
theorem Plain.serialisable {v : PyVal} (h : Plain P v) : serialisable v = true := by
  induction h with
  | list xs _ ih => exact serialisableList_iff.2 ih
  | dict items keys _ ih =>
      refine serialisableItems_iff.2 fun p hp => ⟨?_, ih p hp⟩
      obtain ⟨s, hs, -⟩ := keys p hp
      rw [hs]
      simp
  | _ => rfl

section Characters

variable {Q : ℕ → Prop}

theorem areChars_escapeUnit (n : ℕ) : AreChars (escapeUnit n) := by
  rw [escapeUnit, areChars_append]
  refine ⟨areChars_cp _, fun c hc => ?_⟩
  obtain ⟨d, -, rfl⟩ := List.mem_map.1 hc
  exact ⟨Nat.digitChar d, rfl⟩

theorem forall_escapeChar (hQ : ∀ ch : Char, Q ch.toNat) {c : ℕ} (hc : Q c) :
    ∀ d ∈ escapeChar c, Q d := by
  have hcp : ∀ s : String, ∀ d ∈ cp s, Q d := fun s => (areChars_cp s).forall hQ
  have hhex : ∀ n, ∀ d ∈ (Nat.toDigits 16 n).map Char.toNat, Q d := by
    intro n d hd
    obtain ⟨ch, -, rfl⟩ := List.mem_map.1 hd
    exact hQ ch
  unfold escapeChar
  split
  · exact hcp _
  · exact hcp _
  · exact hcp _
  · exact hcp _
  · exact hcp _
  · exact hcp _
  · exact hcp _
  · split_ifs
    · rw [List.map_append, List.forall_mem_append, List.forall_mem_append]
      exact ⟨hcp _, hhex _, hhex _⟩
    · simpa using hc

/-- A text is written in characters and, if it is not ASCII, its own code points. -/
theorem forall_writeText (hQ : ∀ ch : Char, Q ch.toNat) {st : Style} {s : PyStr} (h : ∀ c ∈ s, Q c) :
    ∀ c ∈ writeText st s, Q c := by
  have hquote := (areChars_cp "\"").forall hQ
  rw [writeText]
  split_ifs
  · rw [List.forall_mem_append, List.forall_mem_append]
    refine ⟨⟨hquote, fun c hc => ?_⟩, hquote⟩
    obtain ⟨d, hd, hc⟩ := List.mem_flatMap.1 hc
    rw [escapeAscii] at hc
    split_ifs at hc
    · exact forall_escapeChar hQ (h d hd) c hc
    · exact (areChars_escapeUnit _).forall hQ c hc
    · rcases List.mem_append.1 hc with hc | hc
      · exact (areChars_escapeUnit _).forall hQ c hc
      · exact (areChars_escapeUnit _).forall hQ c hc
  · rw [quote, List.forall_mem_append, List.forall_mem_append]
    refine ⟨⟨hquote, fun c hc => ?_⟩, hquote⟩
    obtain ⟨d, hd, hc⟩ := List.mem_flatMap.1 hc
    exact forall_escapeChar hQ (h d hd) c hc

theorem areChars_writeFloat (x : PyFloat) : AreChars (writeFloat x) := by
  unfold writeFloat
  split_ifs
  · exact x.areChars_repr
  · exact areChars_cp _
  · exact areChars_cp _
  · exact areChars_cp _

/-- What holds for characters and for the code points of the texts holds for those that are written. -/
theorem Plain.forall_write (hQ : ∀ ch : Char, Q ch.toNat) {st : Style}
    (hitem : ∀ c ∈ st.itemSeparator, Q c) (hkey : ∀ c ∈ st.keySeparator, Q c) {v : PyVal}
    (h : Plain (fun s => ∀ c ∈ s, Q c) v) : ∀ c ∈ write st v, Q c := by
  have hcp : ∀ s : String, ∀ d ∈ cp s, Q d := fun s => (areChars_cp s).forall hQ
  induction h with
  | none => exact hcp _
  | bool b =>
      cases b
      · exact hcp _
      · exact hcp _
  | int n => exact hcp _
  | float x => exact (areChars_writeFloat x).forall hQ
  | str s hs => exact forall_writeText hQ hs
  | list xs _ ih =>
      have htail : ∀ ys : List PyVal, (∀ y ∈ ys, ∀ c ∈ write st y, Q c) →
          ∀ c ∈ writeList st ys, Q c := by
        intro ys hys
        induction ys with
        | nil => simp [writeList]
        | cons y ys ihys =>
            rw [List.forall_mem_cons] at hys
            simp only [writeList, List.forall_mem_append]
            exact ⟨⟨hitem, hys.1⟩, ihys hys.2⟩
      cases xs with
      | nil => exact hcp _
      | cons x xs =>
          rw [List.forall_mem_cons] at ih
          simp only [write, List.forall_mem_append]
          exact ⟨⟨⟨hcp _, ih.1⟩, htail xs ih.2⟩, hcp _⟩
  | dict items keys _ ih =>
      have hkeys : ∀ p ∈ items, ∀ c ∈ writeKey st p.1, Q c := by
        intro p hp
        obtain ⟨s, hs, henc⟩ := keys p hp
        rw [hs]
        exact forall_writeText hQ henc
      have htail : ∀ ps : Items,
          (∀ p ∈ ps, (∀ c ∈ writeKey st p.1, Q c) ∧ ∀ c ∈ write st p.2, Q c) →
          ∀ c ∈ writeItems st ps, Q c := by
        intro ps hps
        induction ps with
        | nil => simp [writeItems]
        | cons p ps ihps =>
            rw [List.forall_mem_cons] at hps
            simp only [writeItems, List.forall_mem_append]
            exact ⟨⟨⟨⟨hitem, hps.1.1⟩, hkey⟩, hps.1.2⟩, ihps hps.2⟩
      cases items with
      | nil => exact hcp _
      | cons p items =>
          have hrest := htail items fun q hq => ⟨hkeys q (by simp [hq]), ih q (by simp [hq])⟩
          simp only [write, List.forall_mem_append]
          exact ⟨⟨⟨⟨⟨hcp _, hkeys p (by simp)⟩, hkey⟩, ih p (by simp)⟩, hrest⟩, hcp _⟩

end Characters

/-- A plain value is written in characters that can be encoded, if its texts can. -/
theorem Plain.encodable_write {st : Style} (hitem : Encodable st.itemSeparator)
    (hkey : Encodable st.keySeparator) {v : PyVal} (h : Plain Encodable v) : Encodable (write st v) :=
  Plain.forall_write not_isSurrogate_char hitem hkey h

/-- A dictionary is encoded with each of its values. -/
theorem encodable_of_write_dict {st : Style} {items : Items} (h : Encodable (write st (.dict items))) :
    ∀ p ∈ items, Encodable (write st p.2) := by
  have htail : ∀ items : Items, Encodable (writeItems st items) →
      ∀ p ∈ items, Encodable (write st p.2) := by
    intro items
    induction items with
    | nil => simp
    | cons p items ih =>
        intro h
        simp only [writeItems, encodable_append] at h
        rw [List.forall_mem_cons]
        exact ⟨h.1.2, ih h.2⟩
  cases items with
  | nil => simp
  | cons p items =>
      simp only [write, encodable_append] at h
      rw [List.forall_mem_cons]
      exact ⟨h.1.1.2, htail items h.1.2⟩

theorem encodable_writeList {st : Style} {xs : List PyVal} (h : Encodable (writeList st xs)) :
    ∀ x ∈ xs, Encodable (write st x) := by
  induction xs with
  | nil => simp
  | cons x xs ih =>
      simp only [writeList, encodable_append] at h
      rw [List.forall_mem_cons]
      exact ⟨h.1.2, ih h.2⟩

/-- A list is encoded with each of its elements. -/
theorem encodable_of_write_list {st : Style} {xs : List PyVal} (h : Encodable (write st (.list xs))) :
    ∀ x ∈ xs, Encodable (write st x) := by
  cases xs with
  | nil => simp
  | cons x xs =>
      simp only [write, encodable_append] at h
      rw [List.forall_mem_cons]
      exact ⟨h.1.1.2, encodable_writeList h.1.2⟩

/-- A dictionary is encoded with each of its keys. -/
theorem encodable_key_of_write_dict {st : Style} {items : Items} (h : Encodable (write st (.dict items))) :
    ∀ p ∈ items, Encodable (writeKey st p.1) := by
  have htail : ∀ items : Items, Encodable (writeItems st items) →
      ∀ p ∈ items, Encodable (writeKey st p.1) := by
    intro items
    induction items with
    | nil => simp
    | cons p items ih =>
        intro h
        simp only [writeItems, encodable_append] at h
        rw [List.forall_mem_cons]
        exact ⟨h.1.1.1.2, ih h.2⟩
  cases items with
  | nil => simp
  | cons p items =>
      simp only [write, encodable_append] at h
      rw [List.forall_mem_cons]
      exact ⟨h.1.1.1.1.2, htail items h.1.2⟩

/-- What is written so that it can be encoded, and not in ASCII, has texts that can be encoded. -/
theorem plain_of_encodable_write {st : Style} (hst : st.ensureAscii = false) {v : PyVal}
    (hwritten : serialisable v = true) (h : Encodable (write st v)) : Plain Encodable v := by
  have htext : ∀ s, Encodable (writeText st s) → Encodable s := by
    intro s hs
    rw [writeText, hst] at hs
    exact encodable_quote.1 hs
  induction v using PyVal.induct with
  | none => exact .none
  | bool b => exact .bool b
  | int n => exact .int n
  | float x => exact .float x
  | str s => exact .str s (htext s h)
  | list xs ih =>
      rw [serialisable, serialisableList_iff] at hwritten
      exact .list xs fun x hx => ih x hx (hwritten x hx) (encodable_of_write_list h x hx)
  | dict items ih =>
      rw [serialisable, serialisableItems_iff] at hwritten
      refine .dict items (fun p hp => ?_) fun p hp =>
        ih p hp (hwritten p hp).2 (encodable_of_write_dict h p hp)
      have hkey := encodable_key_of_write_dict h p hp
      have hother := (hwritten p hp).1
      cases hcase : p.1 with
      | str s =>
          rw [hcase] at hkey
          exact ⟨s, rfl, htext s hkey⟩
      | other => exact absurd hcase hother
  | other => cases hwritten

/-- A plain value is written, and the text can be encoded if its texts can. -/
theorem dumps_plain {ε : Type} {st : Style} (hitem : Encodable st.itemSeparator)
    (hkey : Encodable st.keySeparator) {v : PyVal} (h : Plain Encodable v) :
    ∃ bytes, (dumps st v >>= encodeUtf8 : Except (Raise ε) _) = .ok bytes := by
  rw [dumps, if_pos h.serialisable, ok_bind, encodeUtf8_ok (h.encodable_write hitem hkey)]
  exact ⟨_, rfl⟩

theorem plain_lit (s : String) : Plain Encodable (lit s) := .str _ (encodable_cp s)

/-- A dictionary literal of plain values is plain, for a condition that literals satisfy. -/
theorem Plain.obj (hP : ∀ s : String, P (cp s)) {l : List (String × PyVal)} (h : ∀ p ∈ l, Plain P p.2) :
    Plain P (obj l) := by
  refine .dict _ (fun q hq => ?_) fun q hq => ?_
  · obtain ⟨p, -, rfl⟩ := List.mem_map.1 hq
    exact ⟨cp p.1, rfl, hP _⟩
  · obtain ⟨p, hp, rfl⟩ := List.mem_map.1 hq
    exact h p hp

/-- A dictionary literal of plain values is plain. -/
theorem plain_obj {l : List (String × PyVal)} (h : ∀ p ∈ l, Plain Encodable p.2) :
    Plain Encodable (obj l) := .obj encodable_cp h

theorem plain_str_iff {s : PyStr} : Plain P (.str s) ↔ P s := ⟨fun h => by cases h; assumption, .str s⟩

theorem plain_list_iff {xs : List PyVal} : Plain P (.list xs) ↔ ∀ x ∈ xs, Plain P x :=
  ⟨fun h => by cases h; assumption, .list xs⟩

theorem plain_obj_iff {l : List (String × PyVal)} :
    Plain Encodable (obj l) ↔ ∀ p ∈ l, Plain Encodable p.2 := by
  refine ⟨fun h p hp => ?_, plain_obj⟩
  cases h with
  | dict _ _ hvals => exact hvals _ (List.mem_map_of_mem hp)

/-- The value of a key of a plain value is plain. -/
theorem Plain.get {v : PyVal} (h : Plain P v) (k : String) : Plain P (v.get k) := by
  cases h with
  | dict items _ hvals =>
      rw [PyVal.get]
      cases hget : getItem items (cp k) with
      | some w =>
          obtain ⟨p, hp, rfl⟩ := mem_of_getItem hget
          exact hvals p hp
      | none => exact .none
  | _ => exact .none

/-- Setting a key to a plain value keeps a dictionary plain. -/
theorem Plain.setKey {k : PyStr} {v : PyVal} {items : Items} (h : Plain P (.dict items)) (hk : P k)
    (hv : Plain P v) : Plain P (.dict (setKey k v items)) := by
  cases h with
  | dict _ keys hvals =>
      refine .dict _ (fun q hq => ?_) fun q hq => ?_
      · rcases mem_setKey hq with rfl | hq
        · exact ⟨k, rfl, hk⟩
        · exact keys q hq
      · rcases mem_setKey hq with rfl | hq
        · exact hv
        · exact hvals q hq

end PyJson
