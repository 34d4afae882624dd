/-
**Two checks for one drift.**

The gate looks for a drift of the definitions in the excerpt of a request.  The canonical verifier looks for
it again, in the JSON text of the payload that the gate builds, with other markers and other terms.  The
payload locks its definitions, and one of the locks is called `backup_core`: a term the verifier forbids
beside a marker is in every payload.  What is left of its check is whether the excerpt, as JSON writes it,
has one of the markers or one of the ADI terms.

The text of a payload is split at the quotation marks around the excerpt.  Behind and before them it is
ASCII and has none of the terms but the one that it always has, so the search comes down to the excerpt.

Main definitions:

* `FinalStateGate.DocumentedLower` — what is used of `str.lower`;
* `FinalStateGate.Harmless` — a text of ASCII characters without markers and ADI terms;
* `FinalStateGate.DefaultRequest` — a request that leaves the ADI packet and the functional state to the gate;
* `FinalStateGate.Marked` — an excerpt with a marker or an ADI term in its JSON text.

Main results:

* `FinalStateGate.harmless_write` — a value is written without the terms when its texts are;
* `FinalStateGate.checkGtDefinitionDrift_payload` — what the verifier finds in a payload;
* `FinalStateGate.drift_checks_agree_iff` — when the two checks agree.
-/

import Wuchang.FinalStateGate

set_option relaxedAutoImplicit false
set_option autoImplicit false

namespace FinalStateGate

open Py Canonical8D

/-! ### Texts without the terms -/

/-- What is used of `str.lower`: ASCII texts are lowered character by character, and a quotation mark
separates what is before it from what is behind it. -/
structure DocumentedLower (lower : PyStr → PyStr) : Prop where
  ascii : ∀ s : PyStr, (∀ c ∈ s, c < 128) → lower s = lowerAscii s
  quote : ∀ a b : PyStr, lower (a ++ 34 :: b) = lower a ++ 34 :: lower b

/-- A text of ASCII characters that has no marker and no ADI term. -/
def Harmless (t : PyStr) : Prop := (∀ c ∈ t, c < 128) ∧ DriftFree t

/-- A text in which a space, an underscore and what is not ASCII are missing. -/
theorem harmless_of_chars {t : PyStr} (h : ∀ c ∈ t, c ≠ 32 ∧ c ≠ 95 ∧ c < 128) : Harmless t := by
  refine ⟨fun c hc => (h c hc).2.2, fun term hterm => ?_⟩
  have hterms : ∀ term ∈ canonicalTerms, ((codes term).any fun c => !(c ≠ 32 && c ≠ 95 && c < 128)) = true := by
    decide
  refine not_occursIn (p := fun c => c ≠ 32 && c ≠ 95 && c < 128) (fun c hc => ?_) (hterms term hterm)
  obtain ⟨d, hd, rfl⟩ := List.mem_map.1 hc
  obtain ⟨hspace, hunder, hascii⟩ := h d hd
  simp only [Bool.and_eq_true, decide_eq_true_eq]
  split_ifs <;> omega

theorem harmless_nil : Harmless [] := harmless_of_chars (by simp)

theorem Harmless.append_cons {a b : PyStr} {q : ℕ} (hq : q ∈ [34, 44, 58, 91, 93, 123, 125])
    (ha : Harmless a) (hb : Harmless b) : Harmless (a ++ q :: b) := by
  refine ⟨?_, ha.2.append_cons hq hb.2⟩
  have hascii : ∀ q ∈ [34, 44, 58, 91, 93, 123, 125], q < 128 := by decide
  rw [List.forall_mem_append, List.forall_mem_cons]
  exact ⟨ha.1, hascii q hq, hb.1⟩

/-- What is part of a harmless text is harmless. -/
theorem Harmless.infix {a t : PyStr} (h : Harmless t) (ha : a <:+: t) : Harmless a := by
  refine ⟨fun c hc => h.1 c (ha.subset hc), fun term hterm => ?_⟩
  have hnot := decide_eq_false_iff_not.1 (h.2 term hterm)
  exact decide_eq_false_iff_not.2 fun hin => hnot (hin.trans (ha.map _))

/-! ### Values without the terms -/

theorem harmless_quote {s : PyStr} (h : Harmless (s.flatMap escapeChar)) : Harmless (quote s) := by
  have hquote : quote s = [] ++ 34 :: (s.flatMap escapeChar ++ 34 :: []) := by simp [quote, cp]
  rw [hquote]
  exact harmless_nil.append_cons (by decide) (h.append_cons (by decide) harmless_nil)

/-- A number is written with digits, signs, a point and letters. -/
theorem harmless_intText (n : ℤ) : Harmless (intText n) := by
  have hdigits : ∀ k, ∀ c ∈ PyJson.natText k, c ≠ 32 ∧ c ≠ 95 ∧ c < 128 := by
    intro k c hc
    have hdigit := PyJson.isDigit_of_mem_natText hc
    rw [PyJson.isDigit, Bool.and_eq_true, decide_eq_true_eq, decide_eq_true_eq] at hdigit
    omega
  refine harmless_of_chars ?_
  rw [PyJson.intText_eq]
  split_ifs
  · rw [List.forall_mem_cons]
    exact ⟨by decide, hdigits _⟩
  · exact hdigits _

theorem harmless_writeFloat (x : PyFloat) : Harmless (PyJson.writeFloat x) := by
  refine harmless_of_chars ?_
  have hcp : ∀ s ∈ ["NaN", "-Infinity", "Infinity", "-", "0.0", "0.", ".0", ".", "e", "+"],
      ∀ c ∈ cp s, c ≠ 32 ∧ c ≠ 95 ∧ c < 128 := by decide
  have hzeros : ∀ n, ∀ c ∈ PyFloat.zeros n, c ≠ 32 ∧ c ≠ 95 ∧ c < 128 := by
    intro n c hc
    rw [List.eq_of_mem_replicate hc]
    decide
  have hdigits : ∀ n, ∀ c ∈ (Nat.toDigits 10 n).map Char.toNat, c ≠ 32 ∧ c ≠ 95 ∧ c < 128 := by
    intro n c hc
    have hdigit := PyJson.isDigit_of_mem_natText (n := n) hc
    rw [PyJson.isDigit, Bool.and_eq_true, decide_eq_true_eq, decide_eq_true_eq] at hdigit
    omega
  simp only [List.forall_mem_cons, List.not_mem_nil, IsEmpty.forall_iff, implies_true, and_true] at hcp
  obtain ⟨hnan, hminf, hinf, hminus, hzero, hzerodot, hdotzero, hdot, he, hplus⟩ := hcp
  have hshortest : ∀ c ∈ x.shortest.1, c ≠ 32 ∧ c ≠ 95 ∧ c < 128 := by
    unfold PyFloat.shortest
    split
    · exact fun c hc => hdigits _ c ((List.rdropWhile_prefix _ _).subset hc)
    · simp
  have hexponent : ∀ e, ∀ c ∈ PyFloat.exponentText e, c ≠ 32 ∧ c ≠ 95 ∧ c < 128 := by
    intro e
    unfold PyFloat.exponentText
    dsimp only
    rw [List.forall_mem_append, List.forall_mem_append]
    refine ⟨⟨?_, hzeros _⟩, hdigits _⟩
    split_ifs
    · exact hminus
    · exact hplus
  have htake := fun n => fun c (hc : c ∈ x.shortest.1.take n) => hshortest c (List.mem_of_mem_take hc)
  have hdrop := fun n => fun c (hc : c ∈ x.shortest.1.drop n) => hshortest c (List.mem_of_mem_drop hc)
  have hlayout : ∀ c ∈ PyFloat.layout x.shortest.1 x.shortest.2, c ≠ 32 ∧ c ≠ 95 ∧ c < 128 := by
    unfold PyFloat.layout
    split_ifs
    · simp only [List.forall_mem_append]
      exact ⟨⟨hzerodot, hzeros _⟩, hshortest⟩
    · simp only [List.forall_mem_append]
      exact ⟨⟨hshortest, hzeros _⟩, hdotzero⟩
    · simp only [List.forall_mem_append]
      exact ⟨⟨htake _, hdot⟩, hdrop _⟩
    · simp only [List.forall_mem_append]
      exact ⟨⟨⟨htake _, by simp⟩, he⟩, hexponent _⟩
    · simp only [List.forall_mem_append]
      exact ⟨⟨⟨htake _, hdot, hdrop _⟩, he⟩, hexponent _⟩
  unfold PyJson.writeFloat
  split_ifs
  · unfold PyFloat.repr
    rw [List.forall_mem_append]
    refine ⟨?_, ?_⟩
    · split_ifs
      · exact hminus
      · simp
    · split_ifs
      · exact hzero
      · exact hlayout
  · exact hnan
  · exact hminf
  · exact hinf

/-- A text that is harmless in JSON. -/
def Written (s : PyStr) : Prop := Harmless (s.flatMap escapeChar)

/-- The elements of a list, behind a text. -/
theorem harmless_list {xs : List PyVal} (h : ∀ x ∈ xs, Harmless (PyJson.write PyJson.compact x)) {a : PyStr}
    (ha : Harmless a) : Harmless (a ++ (PyJson.writeList PyJson.compact xs ++ 93 :: [])) := by
  induction xs generalizing a with
  | nil => exact ha.append_cons (by decide) harmless_nil
  | cons x xs ih =>
      rw [List.forall_mem_cons] at h
      have htext : PyJson.writeList PyJson.compact (x :: xs) ++ 93 :: [] =
          44 :: (PyJson.write PyJson.compact x ++ (PyJson.writeList PyJson.compact xs ++ 93 :: [])) := by
        simp [PyJson.writeList, PyJson.compact, cp]
      rw [htext]
      exact ha.append_cons (by decide) (ih h.2 h.1)

/-- The items of a dictionary, behind a text. -/
theorem harmless_items {items : Items} (h : ∀ p ∈ items, (∃ s, p.1 = .str s ∧ Written s) ∧
      Harmless (PyJson.write PyJson.compact p.2)) {a : PyStr} (ha : Harmless a) :
    Harmless (a ++ (PyJson.writeItems PyJson.compact items ++ 125 :: [])) := by
  induction items generalizing a with
  | nil => exact ha.append_cons (by decide) harmless_nil
  | cons p items ih =>
      rw [List.forall_mem_cons] at h
      obtain ⟨k, v⟩ := p
      obtain ⟨⟨⟨s, rfl, hs⟩, hv⟩, hitems⟩ := h
      have htext : PyJson.writeItems PyJson.compact ((.str s, v) :: items) ++ 125 :: [] =
          44 :: (quote s ++ 58 :: (PyJson.write PyJson.compact v ++
            (PyJson.writeItems PyJson.compact items ++ 125 :: []))) := by
        simp [PyJson.writeItems, PyJson.writeKey, PyJson.writeText, PyJson.compact, cp]
      rw [htext]
      exact ha.append_cons (by decide) ((harmless_quote hs).append_cons (by decide) (ih hitems hv))

/-- **A value is written harmlessly when its texts are.** -/
theorem harmless_write {v : PyVal} (h : PyJson.Plain Written v) : Harmless (PyJson.write PyJson.compact v) := by
  have hword : ∀ s ∈ ["null", "true", "false"], Harmless (cp s) := fun s hs =>
    harmless_of_chars ((by decide : ∀ s ∈ ["null", "true", "false"], ∀ c ∈ cp s, c ≠ 32 ∧ c ≠ 95 ∧ c < 128) s hs)
  induction h with
  | none => exact hword _ (by simp)
  | bool b =>
      cases b
      · exact hword "false" (by simp)
      · exact hword "true" (by simp)
  | int n => exact harmless_intText n
  | float x => exact harmless_writeFloat x
  | str s hs => exact harmless_quote hs
  | list xs _ ih =>
      cases xs with
      | nil => exact harmless_of_chars (by decide)
      | cons x xs =>
          rw [List.forall_mem_cons] at ih
          have htext : PyJson.write PyJson.compact (.list (x :: xs)) =
              [] ++ 91 :: (PyJson.write PyJson.compact x ++
                (PyJson.writeList PyJson.compact xs ++ 93 :: [])) := by
            simp [PyJson.write, cp]
          rw [htext]
          exact harmless_nil.append_cons (by decide) (harmless_list ih.2 ih.1)
  | dict items hkeys _ ih =>
      cases items with
      | nil => exact harmless_of_chars (by decide)
      | cons p items =>
          have hall : ∀ q ∈ p :: items, (∃ s, q.1 = .str s ∧ Written s) ∧
              Harmless (PyJson.write PyJson.compact q.2) := fun q hq => ⟨hkeys q hq, ih q hq⟩
          obtain ⟨k, v⟩ := p
          rw [List.forall_mem_cons] at hall
          obtain ⟨⟨⟨s, hk, hs⟩, hv⟩, hitems⟩ := hall
          obtain rfl : k = .str s := hk
          have htext : PyJson.write PyJson.compact (.dict ((.str s, v) :: items)) =
              [] ++ 123 :: (quote s ++ 58 :: (PyJson.write PyJson.compact v ++
                (PyJson.writeItems PyJson.compact items ++ 125 :: []))) := by
            simp [PyJson.write, PyJson.writeKey, PyJson.writeText, PyJson.compact, cp]
          rw [htext]
          exact harmless_nil.append_cons (by decide)
            ((harmless_quote hs).append_cons (by decide) (harmless_items hitems hv))

/-! ### A text inside a dictionary -/

theorem writeItems_append (st : PyJson.Style) (xs ys : Items) :
    PyJson.writeItems st (xs ++ ys) = PyJson.writeItems st xs ++ PyJson.writeItems st ys := by
  induction xs with
  | nil => rfl
  | cons p xs ih =>
      obtain ⟨k, v⟩ := p
      simp only [List.cons_append, PyJson.writeItems, ih, List.append_assoc]

/-- The text of a dictionary around one of its texts. -/
theorem exists_around (before after : Items) (k : PyKey) : ∃ a b : PyStr, ∀ s : PyStr,
    PyJson.write PyJson.compact (.dict (before ++ (k, .str s) :: after)) =
      a ++ 34 :: (s.flatMap escapeChar ++ 34 :: b) := by
  have hquote : ∀ s : PyStr, PyJson.writeText PyJson.compact s = 34 :: (s.flatMap escapeChar ++ [34]) := by
    intro s
    simp [PyJson.writeText, PyJson.compact, quote, cp]
  cases before with
  | nil =>
      refine ⟨cp "\x7b" ++ PyJson.writeKey PyJson.compact k ++ PyJson.compact.keySeparator,
        PyJson.writeItems PyJson.compact after ++ cp "\x7d", fun s => ?_⟩
      simp [PyJson.write, hquote]
  | cons p before =>
      obtain ⟨k₀, v₀⟩ := p
      refine ⟨cp "\x7b" ++ PyJson.writeKey PyJson.compact k₀ ++ PyJson.compact.keySeparator ++
        PyJson.write PyJson.compact v₀ ++ PyJson.writeItems PyJson.compact before ++
        PyJson.compact.itemSeparator ++ PyJson.writeKey PyJson.compact k ++ PyJson.compact.keySeparator,
        PyJson.writeItems PyJson.compact after ++ cp "\x7d", fun s => ?_⟩
      simp [PyJson.write, PyJson.writeItems, writeItems_append, hquote]

/-- The value of a key is written inside the dictionary. -/
theorem write_infix_dict {items : Items} {p : PyKey × PyVal} (hp : p ∈ items) :
    PyJson.write PyJson.compact p.2 <:+: PyJson.write PyJson.compact (.dict items) := by
  have hitems : ∀ {items : Items}, p ∈ items →
      PyJson.write PyJson.compact p.2 <:+: PyJson.writeItems PyJson.compact items := by
    intro items hp
    obtain ⟨before, after, rfl⟩ := List.append_of_mem hp
    rw [writeItems_append]
    refine List.IsInfix.trans ?_ (List.suffix_append _ _).isInfix
    simp only [PyJson.writeItems, List.append_assoc]
    refine List.IsInfix.trans ?_ (List.suffix_append _ _).isInfix
    refine List.IsInfix.trans ?_ (List.suffix_append _ _).isInfix
    exact List.IsInfix.trans (List.prefix_append _ _).isInfix (List.suffix_append _ _).isInfix
  cases items with
  | nil => cases hp
  | cons q items =>
      obtain ⟨k, v⟩ := q
      simp only [PyJson.write]
      rcases List.mem_cons.1 hp with rfl | hp
      · exact ⟨cp "\x7b" ++ PyJson.writeKey PyJson.compact k ++ PyJson.compact.keySeparator,
          PyJson.writeItems PyJson.compact items ++ cp "\x7d", by simp⟩
      · exact (hitems hp).trans ⟨cp "\x7b" ++ PyJson.writeKey PyJson.compact k ++ PyJson.compact.keySeparator ++
          PyJson.write PyJson.compact v, cp "\x7d", by simp⟩

theorem occursIn_iff {text : PyStr} {term : String} : occursIn text term = true ↔ cp term <:+: text := by
  simp [occursIn]

/-- A term without a quotation mark occurs on one side of it or on the other. -/
theorem occursIn_append_quote {a b : PyStr} {term : String} (hterm : 34 ∉ cp term) :
    occursIn (a ++ 34 :: b) term = (occursIn a term || occursIn b term) := by
  rw [Bool.eq_iff_iff, Bool.or_eq_true, occursIn_iff, occursIn_iff, occursIn_iff]
  constructor
  · exact infix_append_cons hterm
  · rintro (h | h)
    · exact h.trans (List.prefix_append a _).isInfix
    · exact h.trans ((List.suffix_cons 34 b).trans (List.suffix_append a _)).isInfix

/-! ### The texts of a payload -/

/-- A text of characters that JSON leaves as they are. -/
theorem flatMap_escapeChar {s : PyStr} (h : ∀ c ∈ s, 32 ≤ c ∧ c ≠ 34 ∧ c ≠ 92) : s.flatMap escapeChar = s := by
  induction s with
  | nil => rfl
  | cons c s ih =>
      obtain ⟨⟨hcontrol, hquote, hback⟩, hs⟩ := List.forall_mem_cons.1 h
      rw [List.flatMap_cons, PyJson.escapeChar_plain hquote hback hcontrol, ih hs, List.singleton_append]

/-- The condition of a literal, for evaluation: only behind a `g` or a `c` is a term looked for. -/
def isWritten (s : PyStr) : Bool :=
  (s.all fun c => 33 ≤ c && c ≠ 34 && c ≠ 92 && c < 128) && (lowerAscii s).tails.all fun t =>
    (t.headD 33 ≠ 103 && t.headD 33 ≠ 99) || asciiTerms.all fun term => !(cp term).isPrefixOf t

theorem startsClean_of_head {t : PyStr} (hspace : t.headD 33 ≠ 32) (hascii : t.headD 33 < 128)
    (h : ((t.headD 33 ≠ 103 && t.headD 33 ≠ 99) || asciiTerms.all fun term => !(cp term).isPrefixOf t) = true) :
    startsClean t = true := by
  have hterms : (asciiTerms.all fun term => !(cp term).isPrefixOf t) = true := by
    rcases Bool.or_eq_true_iff.1 h with hhead | hterms
    · have hheads : ∀ term ∈ asciiTerms, ∃ rest, cp term = 103 :: rest ∨ cp term = 99 :: rest := by
        intro term hterm
        simp only [asciiTerms, List.mem_cons, List.not_mem_nil, or_false] at hterm
        rcases hterm with rfl | rfl | rfl
        · exact ⟨_, .inl rfl⟩
        · exact ⟨_, .inl rfl⟩
        · exact ⟨_, .inr rfl⟩
      simp only [Bool.and_eq_true, decide_eq_true_eq] at hhead
      rw [List.all_eq_true]
      intro term hterm
      obtain ⟨rest, hrest | hrest⟩ := hheads term hterm
      · cases t with
        | nil => simp [hrest]
        | cons c t =>
            have hne : ¬103 = c := Ne.symm hhead.1
            simp [hrest, List.isPrefixOf, hne]
      · cases t with
        | nil => simp [hrest]
        | cons c t =>
            have hne : ¬99 = c := Ne.symm hhead.2
            simp [hrest, List.isPrefixOf, hne]
    · exact hterms
  rw [startsClean, Bool.and_eq_true, Bool.and_eq_true, decide_eq_true_eq, decide_eq_true_eq]
  exact ⟨⟨hspace, hascii⟩, hterms⟩

theorem written_cp {s : String} (h : isWritten (codes s) = true) : Written (cp s) := by
  rw [← cp_eq_codes, isWritten, Bool.and_eq_true, List.all_eq_true, List.all_eq_true] at h
  have hchars : ∀ c ∈ cp s, ((33 ≤ c ∧ c ≠ 34) ∧ c ≠ 92) ∧ c < 128 := by simpa using h.1
  have hplain : (cp s).flatMap escapeChar = cp s :=
    flatMap_escapeChar fun c hc => ⟨by have := hchars c hc; omega, (hchars c hc).1.1.2, (hchars c hc).1.2⟩
  rw [Written, hplain]
  refine ⟨fun c hc => (hchars c hc).2, driftFree_of_startsClean (List.all_eq_true.2 fun t ht => ?_)⟩
  have hhead : t.headD 33 ≠ 32 ∧ t.headD 33 < 128 := by
    cases t with
    | nil => decide
    | cons c t =>
        obtain ⟨d, hd, rfl⟩ := List.mem_map.1 (((List.mem_tails _ _).1 ht).subset List.mem_cons_self)
        have hrange := hchars d hd
        simp only [List.headD_cons]
        split_ifs <;> omega
  exact startsClean_of_head hhead.1 hhead.2 (h.2 t ht)

/-- A text of digits, colons and small letters. -/
theorem written_of_chars {s : PyStr} (h : ∀ c ∈ s, (48 ≤ c ∧ c ≤ 58) ∨ (97 ≤ c ∧ c ≤ 122)) : Written s := by
  have hplain : s.flatMap escapeChar = s := flatMap_escapeChar fun c hc => by
    have hrange := h c hc
    omega
  refine ⟨?_, driftFree_of_chars h⟩
  rw [hplain]
  intro c hc
  have hrange := h c hc
  omega

theorem written_nil : Written [] := harmless_nil

/-- A reference to a hash. -/
theorem written_ref {name s : PyStr} (hname : ∀ c ∈ name, (48 ≤ c ∧ c ≤ 58) ∨ (97 ≤ c ∧ c ≤ 122))
    (hs : ∀ c ∈ s, (48 ≤ c ∧ c ≤ 58) ∨ (97 ≤ c ∧ c ≤ 122)) : Written (name ++ s) :=
  written_of_chars (List.forall_mem_append.2 ⟨hname, hs⟩)

theorem plain_of_lit {P : PyStr → Prop} {s : String} : PyJson.Plain P (lit s) ↔ P (cp s) := PyJson.plain_str_iff

theorem plain_of_obj {P : PyStr → Prop} {l : List (String × PyVal)} :
    PyJson.Plain P (obj l) ↔ ∀ p ∈ l, P (cp p.1) ∧ PyJson.Plain P p.2 := by
  constructor
  · rintro (_ | _ | _ | _ | _ | _ | ⟨_, hkeys, hvals⟩) p hp
    have hmem : (key p.1, p.2) ∈ fields l := List.mem_map_of_mem hp
    obtain ⟨s, hs, hP⟩ := hkeys _ hmem
    obtain rfl := PyKey.str.inj hs
    exact ⟨hP, hvals _ hmem⟩
  · intro h
    refine .dict _ (fun q hq => ?_) fun q hq => ?_
    · obtain ⟨p, hp, rfl⟩ := List.mem_map.1 hq
      exact ⟨cp p.1, rfl, (h p hp).1⟩
    · obtain ⟨p, hp, rfl⟩ := List.mem_map.1 hq
      exact (h p hp).2

theorem plain_mono {P Q : PyStr → Prop} (hPQ : ∀ s, P s → Q s) {v : PyVal} (h : PyJson.Plain P v) :
    PyJson.Plain Q v := by
  induction h with
  | none => exact .none
  | bool b => exact .bool b
  | int n => exact .int n
  | float x => exact .float x
  | str s hs => exact .str s (hPQ s hs)
  | list xs _ ih => exact .list xs ih
  | dict items hkeys _ ih =>
      refine .dict items (fun p hp => ?_) ih
      obtain ⟨s, hs, hP⟩ := hkeys p hp
      exact ⟨s, hs, hPQ s hP⟩

theorem written_literalRef (s : String) : PyJson.Plain Written (literalRef s) :=
  .str _ (written_ref (by decide) (chars_of_isHex64 (Sha256.isHex64_hexdigest _)))

/-- The packet that every request gets has none of the terms. -/
theorem written_basePassPacket : PyJson.Plain Written basePassPacket := by
  simp (disch := decide +kernel) [basePassPacket, baseCoordinate, plain_of_obj, plain_of_lit, PyJson.plain_list_iff,
    written_cp, written_literalRef, plain_bool, plain_int, AbsoluteIndex.architectureOrder,
    AbsoluteIndex.nextPacket, AbsoluteIndex.packetType, AbsoluteIndex.p10aPath, AbsoluteIndex.p10aSha256]

/-- The functional state that every request gets has none of the terms. -/
theorem written_default7d (around : Surroundings) (channel : PyStr) :
    PyJson.Plain Written (default7dFunctionalState around channel) := by
  have htype : ∀ upper : PyStr, Written (cp (if upper = cp "LINE" then "LINE_CANDIDATE_REPLY"
      else if upper = cp "ODOO" then "ODOO_CANDIDATE_REPLY"
      else if upper = cp "WEB" then "WEB_CANDIDATE_REPLY" else "NATURAL_LANGUAGE_RESPONSE")) := by
    intro upper
    split_ifs
    · exact written_cp (by decide +kernel)
    · exact written_cp (by decide +kernel)
    · exact written_cp (by decide +kernel)
    · exact written_cp (by decide +kernel)
  simp (disch := decide +kernel) [default7dFunctionalState, plain_of_obj, plain_of_lit, written_cp, plain_bool,
    htype]

theorem written_constants : PyJson.Plain Written authorityEnvelope ∧ PyJson.Plain Written definitionLock ∧
    PyJson.Plain Written lookupConditions := by
  refine ⟨?_, ?_, ?_⟩
  · simp (disch := decide +kernel) [authorityEnvelope, plain_of_obj, plain_of_lit, written_cp, plain_bool, plain_int]
  · simp (disch := decide +kernel) [definitionLock, plain_of_obj, written_cp, plain_bool]
  · simp (disch := decide +kernel) [lookupConditions, plain_of_obj, plain_of_lit, PyJson.plain_list_iff, written_cp,
      plain_bool]

/-! ### The search in a payload -/

section Payload

variable {around : Surroundings} {request : PyVal} {now : ℚ} {c : Candidate} {runId : PyStr} {payload : Payload}

/-- A request that leaves the ADI packet and the functional state to the gate. -/
structure DefaultRequest (request : PyVal) : Prop where
  packet : getItem (sourceOf request) (cp "adi_5d_absolute_index") = none
  included : AbsoluteIndex.isFalse ((PyVal.dict (sourceOf request)).get "include_adi_5d") = false
  state : ((PyVal.dict (sourceOf request)).get "functional_state_7d").isDict = false

/-- The candidate of such a request has the default packet and a default state. -/
theorem DefaultRequest.candidate (h : DefaultRequest request) (hc : normalizeCandidateRequest around request = .ok c) :
    c.adi5dAbsoluteIndex = some basePassPacket ∧
      ∃ channel, c.functionalState7d = default7dFunctionalState around channel := by
  obtain ⟨hash, -, hc⟩ := bind_eq_ok_iff.1 hc
  obtain rfl := pure_eq_ok_iff.1 hc
  refine ⟨?_, around.upper (around.str (orElse ((PyVal.dict (sourceOf request)).get "source_channel")
    (orElse ((PyVal.dict (sourceOf request)).get "channel") (lit "web")))), ?_⟩
  · dsimp only
    rw [adiPacketOf, h.packet]
    dsimp only
    rw [h.included]
    rfl
  · dsimp only
    have hstate := h.state
    cases hget : (PyVal.dict (sourceOf request)).get "functional_state_7d" with
    | dict state =>
        rw [hget] at hstate
        cases hstate
    | _ => rfl

/-- A payload holds its candidate beside a nonce and two hashes. -/
theorem of_buildCanonicalPayload (h : buildCanonicalPayload around c now runId = .ok payload) :
    ∃ nonce ref textRef : PyStr, Written nonce ∧ Written ref ∧ Written textRef ∧
      payload = payloadOf c (around.timeValue now) nonce ref
        (if c.naturalLanguageExcerpt = [] then none else some textRef) := by
  have hchars : ∀ {v : PyVal} {hash : PyStr}, stableHash v = .ok hash →
      ∀ d ∈ hash, (48 ≤ d ∧ d ≤ 58) ∨ (97 ≤ d ∧ d ≤ 122) := by
    intro v hash hhash
    obtain ⟨text, -, hhash⟩ := bind_eq_ok_iff.1 hhash
    obtain ⟨bytes, -, hhash⟩ := bind_eq_ok_iff.1 hhash
    obtain rfl := pure_eq_ok_iff.1 hhash
    exact chars_of_isHex64 (Sha256.isHex64_hexdigest _)
  have href : ∀ {v : PyVal} {ref : PyStr}, hashRef v = .ok ref → Written ref := by
    intro v ref href
    obtain ⟨hash, hhash, href⟩ := bind_eq_ok_iff.1 href
    obtain rfl := pure_eq_ok_iff.1 href
    exact written_ref (by decide) (hchars hhash)
  obtain ⟨hash, hhash, h⟩ := bind_eq_ok_iff.1 h
  obtain ⟨ref, hcandidate, h⟩ := bind_eq_ok_iff.1 h
  have hnonce : Written (cp "nonce:" ++ hash.take 32) :=
    written_ref (by decide) fun d hd => hchars hhash d (List.mem_of_mem_take hd)
  by_cases hempty : c.naturalLanguageExcerpt = []
  · rw [if_pos hempty, pure_bind] at h
    obtain rfl := pure_eq_ok_iff.1 h
    exact ⟨_, ref, [], hnonce, href hcandidate, written_nil, by rw [if_pos hempty]⟩
  · rw [if_neg hempty] at h
    obtain ⟨textRef, htext, h⟩ := bind_eq_ok_iff.1 h
    obtain rfl := pure_eq_ok_iff.1 h
    exact ⟨_, ref, textRef, hnonce, href hcandidate, href htext, by rw [if_neg hempty]⟩

/-- The texts of a payload are harmless but for the excerpt. -/
theorem plain_payloadOf {P : PyStr → Prop} (hP : ∀ s, Written s → P s) {timestamp : PyVal} {nonce ref : PyStr}
    {t : Option PyStr} (hadi : c.adi5dAbsoluteIndex = some basePassPacket)
    (hstate : ∃ channel, c.functionalState7d = default7dFunctionalState around channel)
    (htime : ∃ x, timestamp = .float x) (hnonce : Written nonce) (href : Written ref)
    (htext : ∀ s ∈ t, Written s) (hexcerpt : P c.naturalLanguageExcerpt) :
    PyJson.Plain P (.dict (payloadOf c timestamp nonce ref t)) := by
  obtain ⟨channel, hstate⟩ := hstate
  obtain ⟨x, rfl⟩ := htime
  have hmono := fun {v : PyVal} (h : PyJson.Plain Written v) => plain_mono hP h
  have hkey : ∀ s ∈ ["adi_5d_absolute_index", "authority_envelope_8d", "candidate_packet_ref", "delta_D1",
      "delta_D4", "env_D8", "functional_state_7d", "generative_transmission_definition_lock",
      "lookup_reference_reconstruction_conditions", "natural_language_candidate_excerpt",
      "natural_language_candidate_hash", "ref_D2", "user1", "route_local", "intent_order_latte"],
      P (cp s) := by
    have hall : ∀ s ∈ ["adi_5d_absolute_index", "authority_envelope_8d", "candidate_packet_ref", "delta_D1",
        "delta_D4", "env_D8", "functional_state_7d", "generative_transmission_definition_lock",
        "lookup_reference_reconstruction_conditions", "natural_language_candidate_excerpt",
        "natural_language_candidate_hash", "ref_D2", "user1", "route_local", "intent_order_latte"],
        isWritten (codes s) = true := by decide +kernel
    exact fun s hs => hP _ (written_cp (hall s hs))
  simp only [List.forall_mem_cons, List.not_mem_nil, IsEmpty.forall_iff, implies_true, and_true] at hkey
  obtain ⟨hk1, hk2, hk3, hk4, hk5, hk6, hk7, hk8, hk9, hk10, hk11, hk12, hk13, hk14, hk15⟩ := hkey
  have henv : PyJson.Plain P (obj [("nonce", .str nonce), ("timestamp", .float x)]) := by
    refine hmono ?_
    simp (disch := decide +kernel) [plain_of_obj, PyJson.plain_str_iff, written_cp, hnonce,
      PyJson.Plain.float]
  have hbase := hmono written_basePassPacket
  have hdefault := hmono (written_default7d around channel)
  obtain ⟨hauthority, hlock, hlookup⟩ := written_constants
  change PyJson.Plain P (obj _)
  rw [plain_of_obj, hadi, hstate]
  cases t with
  | none =>
      simp [optional, plain_of_lit, PyJson.plain_str_iff, hP _ href, hbase, hdefault, hmono hauthority,
        hmono hlock, hmono hlookup, henv, hk1, hk2, hk3, hk4, hk5, hk6, hk7, hk8, hk9, hk12, hk13, hk14, hk15]
  | some text =>
      simp [optional, plain_of_lit, PyJson.plain_str_iff, hP _ href, hP _ (htext text rfl), hexcerpt, hbase,
        hdefault, hmono hauthority, hmono hlock, hmono hlookup, henv, hk1, hk2, hk3, hk4, hk5, hk6, hk7, hk8,
        hk9, hk10, hk11, hk12, hk13, hk14, hk15]

/-- The excerpt, lowered as JSON writes it. -/
def writtenExcerpt (around : Surroundings) (c : Candidate) : PyStr :=
  around.lower (c.naturalLanguageExcerpt.flatMap escapeChar)

/-- The excerpt has one of the verifier's markers, or one of its ADI terms. -/
def Marked (around : Surroundings) (c : Candidate) : Prop :=
  ∃ term ∈ canonicalTerms, occursIn (writtenExcerpt around c) term = true

theorem hasAny_of_driftFree {text : PyStr} (h : ∀ term ∈ canonicalTerms, occursIn text term = false) :
    hasAny text coreMarkers = false ∧ hasAny text forbiddenAdiTerms = false :=
  ⟨hasAny_eq_false.2 fun term hterm => h term (List.mem_append_left _ hterm),
    hasAny_eq_false.2 fun term hterm => h term (List.mem_append_right _ hterm)⟩

/-- The check of the verifier, from what the lowered text of the payload has. -/
theorem checkGtDefinitionDrift_of_text {P : PyStr → Prop} (hplain : PyJson.Plain P (.dict payload))
    {core adi : Bool}
    (hcore : (hasAny (around.lower (PyJson.write PyJson.compact (.dict payload))) coreMarkers &&
      hasAny (around.lower (PyJson.write PyJson.compact (.dict payload))) forbiddenCoreTerms) = core)
    (hadi : hasAny (around.lower (PyJson.write PyJson.compact (.dict payload))) forbiddenAdiTerms = adi) :
    Canonical8D.checkGtDefinitionDrift around.library payload =
      .ok (AbsoluteIndex.errorIf core "GT_CORE_DEFINITION_DRIFT_FILE_TRANSFER_OR_CLOUD_SYNC" ++
        AbsoluteIndex.errorIf adi "ADI_5D_DEFINITION_DRIFT") := by
  rw [Canonical8D.checkGtDefinitionDrift, canonicalJson, PyJson.dumps, if_pos hplain.serialisable, ok_bind]
  subst hcore
  subst hadi
  rfl

/-- **What the verifier finds in a payload** is what it finds in the excerpt, where every marker counts:
the payload itself has the term `backup`. -/
theorem checkGtDefinitionDrift_payload (hlower : DocumentedLower around.lower)
    (htime : ∃ x, around.timeValue now = .float x) (hadi : c.adi5dAbsoluteIndex = some basePassPacket)
    (hstate : ∃ channel, c.functionalState7d = default7dFunctionalState around channel)
    (h : buildCanonicalPayload around c now runId = .ok payload) :
    Canonical8D.checkGtDefinitionDrift around.library payload =
      .ok (AbsoluteIndex.errorIf (hasAny (writtenExcerpt around c) coreMarkers)
          "GT_CORE_DEFINITION_DRIFT_FILE_TRANSFER_OR_CLOUD_SYNC" ++
        AbsoluteIndex.errorIf (hasAny (writtenExcerpt around c) forbiddenAdiTerms) "ADI_5D_DEFINITION_DRIFT") := by
  obtain ⟨nonce, ref, textRef, hnonce, href, htext, rfl⟩ := of_buildCanonicalPayload h
  by_cases hempty : c.naturalLanguageExcerpt = []
  · -- without an excerpt the whole payload is harmless
    rw [if_pos hempty]
    have hplain := plain_payloadOf (P := Written) (fun _ hs => hs) hadi hstate htime hnonce href
      (t := none) (by simp) (by rw [hempty]; exact written_nil)
    have hharmless := harmless_write hplain
    have hfree := hharmless.2
    rw [DriftFree, ← hlower.ascii _ hharmless.1] at hfree
    have hnone := hasAny_of_driftFree hfree
    have hlowered : writtenExcerpt around c = [] := by
      rw [writtenExcerpt, hempty]
      exact hlower.ascii [] (by simp)
    have hnil := @hasAny_of_driftFree [] driftFree_nil
    rw [hlowered, hnil.1, hnil.2]
    exact checkGtDefinitionDrift_of_text hplain (by rw [hnone.1, Bool.false_and]) hnone.2
  · rw [if_neg hempty]
    have hplain := plain_payloadOf (P := fun _ => True) (fun _ _ => trivial) hadi hstate htime hnonce href
      (t := some textRef) (by rintro s ⟨⟩; exact htext) trivial
    -- the text around the excerpt, and the same text around no excerpt
    obtain ⟨a, b, haround⟩ := exists_around
      (fields (optional "adi_5d_absolute_index" c.adi5dAbsoluteIndex ++ [
        ("authority_envelope_8d", authorityEnvelope), ("candidate_packet_ref", .str ref),
        ("delta_D1", lit "user1"), ("delta_D4", lit "route_local"),
        ("env_D8", obj [("nonce", .str nonce), ("timestamp", around.timeValue now)]),
        ("functional_state_7d", c.functionalState7d),
        ("generative_transmission_definition_lock", definitionLock),
        ("lookup_reference_reconstruction_conditions", lookupConditions)]))
      (fields [("natural_language_candidate_hash", .str textRef), ("ref_D2", lit "intent_order_latte")])
      (key "natural_language_candidate_excerpt")
    have hwrite : ∀ s : PyStr, PyJson.write PyJson.compact (.dict (payloadOf { c with
        naturalLanguageExcerpt := s } (around.timeValue now) nonce ref (some textRef))) =
          a ++ 34 :: (s.flatMap escapeChar ++ 34 :: b) := by
      intro s
      rw [← haround s]
      simp only [payloadOf, fields, optional, Option.map_some, Option.toList_some, List.map_append, List.map_cons,
        List.map_nil, List.append_assoc, List.cons_append, List.nil_append]
    have hharmless := harmless_write (plain_payloadOf (P := Written) (c := { c with naturalLanguageExcerpt := [] })
      (fun _ hs => hs) hadi hstate htime hnonce href (t := some textRef)
      (by rintro s ⟨⟩; exact htext) written_nil)
    have hbackup : occursIn (lowerAscii (a ++ 34 :: (([] : PyStr).flatMap escapeChar ++ 34 :: b))) "backup" =
        true := by
      have hlock : occursIn (lowerAscii (PyJson.write PyJson.compact definitionLock)) "backup" = true := by
        simp only [definitionLock, obj, fields, List.map_cons, List.map_nil, key, cp_eq_codes]
        decide +kernel
      have hmem : (key "generative_transmission_definition_lock", definitionLock) ∈ payloadOf { c with
          naturalLanguageExcerpt := [] } (around.timeValue now) nonce ref (some textRef) := by
        simp [payloadOf, fields]
      rw [occursIn_iff] at hlock ⊢
      rw [← hwrite []]
      exact hlock.trans ((write_infix_dict hmem).map _)
    rw [hwrite []] at hharmless
    have ha := hharmless.infix (List.prefix_append a _).isInfix
    have hb := hharmless.infix
      ((List.suffix_cons 34 b).trans (List.suffix_append (a ++ [34]) (34 :: b) |>.trans (by simp))).isInfix
    have hlowered : around.lower (PyJson.write PyJson.compact (.dict (payloadOf c (around.timeValue now) nonce
        ref (some textRef)))) = lowerAscii a ++ 34 :: (writtenExcerpt around c ++ 34 :: lowerAscii b) := by
      rw [hwrite c.naturalLanguageExcerpt, hlower.quote, hlower.quote, hlower.ascii a ha.1, hlower.ascii b hb.1]
      rfl
    have hquote : ∀ term ∈ "backup" :: canonicalTerms, 34 ∉ cp term := by
      simp only [canonicalTerms, coreMarkers, forbiddenAdiTerms, cp_eq_codes]
      decide
    have hsplit : ∀ term ∈ "backup" :: canonicalTerms, ∀ e : PyStr,
        occursIn (lowerAscii a ++ 34 :: (e ++ 34 :: lowerAscii b)) term =
          (occursIn (lowerAscii a) term || (occursIn e term || occursIn (lowerAscii b) term)) := by
      intro term hterm e
      rw [occursIn_append_quote (hquote term hterm), occursIn_append_quote (hquote term hterm)]
    have hany : ∀ terms : List String, (∀ term ∈ terms, term ∈ canonicalTerms) →
        hasAny (lowerAscii a ++ 34 :: (writtenExcerpt around c ++ 34 :: lowerAscii b)) terms =
          hasAny (writtenExcerpt around c) terms := by
      intro terms hterms
      rw [hasAny, hasAny, Bool.eq_iff_iff, List.any_eq_true, List.any_eq_true]
      refine exists_congr fun term => and_congr_right fun hterm => ?_
      rw [hsplit term (List.mem_cons_of_mem _ (hterms term hterm)), ha.2 term (hterms term hterm),
        hb.2 term (hterms term hterm), Bool.false_or, Bool.or_false]
    have hforbidden : hasAny (lowerAscii a ++ 34 :: (writtenExcerpt around c ++ 34 :: lowerAscii b))
        forbiddenCoreTerms = true := by
      have hempty : lowerAscii (a ++ 34 :: (([] : PyStr).flatMap escapeChar ++ 34 :: b)) =
          lowerAscii a ++ 34 :: ([] ++ 34 :: lowerAscii b) := by
        simp [lowerAscii]
      rw [hempty, hsplit _ List.mem_cons_self, Bool.or_eq_true, Bool.or_eq_true] at hbackup
      refine List.any_eq_true.2 ⟨"backup", by decide, ?_⟩
      rw [hsplit _ List.mem_cons_self, Bool.or_eq_true, Bool.or_eq_true]
      rcases hbackup with h | h | h
      · exact .inl h
      · exact absurd h (by simp [occursIn, cp])
      · exact .inr (.inr h)
    refine checkGtDefinitionDrift_of_text hplain ?_ ?_
    · rw [hlowered, hforbidden, Bool.and_true]
      exact hany _ fun term hterm => List.mem_append_left _ hterm
    · rw [hlowered]
      exact hany _ fun term hterm => List.mem_append_right _ hterm

/-- **When the two checks agree.**  For a request with the default packet and state, a check of the gate that
finds nothing tells that the verifier finds nothing in the payload if and only if the check of the gate
finds something or the excerpt, as JSON writes it, has no marker and no ADI term of the verifier. -/
theorem drift_checks_agree_iff (hlower : DocumentedLower around.lower)
    (htime : ∃ x, around.timeValue now = .float x) (hrequest : DefaultRequest request)
    (hc : normalizeCandidateRequest around request = .ok c)
    (h : buildCanonicalPayload around c now runId = .ok payload) :
    (checkGtDefinitionDrift around c.naturalLanguageExcerpt = [] →
      Canonical8D.checkGtDefinitionDrift around.library payload = .ok []) ↔
    (checkGtDefinitionDrift around c.naturalLanguageExcerpt ≠ [] ∨ ¬Marked around c) := by
  obtain ⟨hadi, hstate⟩ := hrequest.candidate hc
  have hmarked : Canonical8D.checkGtDefinitionDrift around.library payload = .ok [] ↔ ¬Marked around c := by
    rw [checkGtDefinitionDrift_payload hlower htime hadi hstate h, Except.ok.injEq, List.append_eq_nil_iff,
      errorIf_eq_nil, errorIf_eq_nil, hasAny_eq_false, hasAny_eq_false, Marked, ← List.forall_mem_append]
    simp only [canonicalTerms, not_exists, not_and, Bool.not_eq_true]
  rw [hmarked]
  tauto

end Payload

/-! ### A text with a marker -/

/-- The request of one word. -/
def coreText : PyStr := cp "核心"

/-- Its candidate packet. -/
def coreCandidate : Candidate where
  sourceChannel := cp "WEB"
  naturalLanguageHash := cp "hash:" ++ hashOf (.str coreText)
  naturalLanguageExcerpt := coreText
  functionalState7d := default7dFunctionalState sampleAround (cp "WEB")
  detourContext := quiet coreText
  requestedFlags := hardRiskFlags.map fun k => (k, false)
  channelDecision := none
  adi5dAbsoluteIndex := some basePassPacket

theorem documentedLower_sample : DocumentedLower sampleAround.lower :=
  ⟨fun _ _ => rfl, fun a b => by simp [sampleAround, lowerAscii]⟩

theorem encodable_coreText : Encodable coreText := encodable_cp _

theorem default_core : DefaultRequest (.str coreText) := by
  refine ⟨?_, ?_, ?_⟩
  · change getItem (fields _) _ = none
    simp
  · change AbsoluteIndex.isFalse ((obj _).get _) = false
    simp [AbsoluteIndex.isFalse]
  · change ((obj _).get _).isDict = false
    simp [PyVal.isDict]

theorem normalize_core : normalizeCandidateRequest sampleAround (.str coreText) = .ok coreCandidate := by
  have hextract : extractText (sourceOf (.str coreText)) = coreText := by
    simp only [sourceOf, fields, key, coreText, List.map_cons, List.map_nil, cp_eq_codes]
    decide
  have hcontext : buildDetourContext sampleAround (sourceOf (.str coreText)) coreText = quiet coreText := by
    simp only [buildDetourContext, sourceOf, fields, key, coreText, sourceFirstText, sourceTextList, PyVal.get,
      List.map_cons, List.map_nil, cp_eq_codes]
    decide
  have hget : ∀ k : String, k ≠ "text" → (PyVal.dict (sourceOf (.str coreText))).get k = .none := by
    intro k hk
    change (obj _).get k = _
    simp [Ne.symm hk]
  have hadi : adiPacketOf (sourceOf (.str coreText)) = some basePassPacket := by
    have hnone : getItem (sourceOf (.str coreText)) (cp "adi_5d_absolute_index") = none := default_core.packet
    rw [adiPacketOf, hnone, hget _ (by decide)]
    rfl
  have hflags : (hardRiskFlags.map fun k =>
      (k, boolFlag sampleAround ((PyVal.dict (sourceOf (.str coreText))).get k))) =
        hardRiskFlags.map fun k => (k, false) := by
    have hkeys : ∀ k ∈ hardRiskFlags, k ≠ "text" := by decide
    refine List.map_congr_left fun k hk => ?_
    rw [hget k (hkeys k hk)]
    rfl
  have hline : channelDecisionOf (sourceOf (.str coreText)) = none := by
    rw [channelDecisionOf, hget _ (by decide)]
  have hchannel : sampleAround.upper (sampleAround.str (lit "web")) = cp "WEB" := by decide
  have htext : orElse (.str coreText) (lit "empty-natural-language") = .str coreText := by
    rw [orElse, coreText, cp_eq_codes]
    rfl
  have hweb : orElse .none (orElse .none (lit "web")) = lit "web" := rfl
  rw [normalizeCandidateRequest]
  rw [hextract, hcontext, hflags, hadi, hline, hget _ (by decide), hget _ (by decide), hget _ (by decide), htext,
    hashRef_plain (.str _ encodable_coreText), ok_bind, hweb, hchannel]
  rfl

theorem plain_basePassPacket : PyJson.Plain Encodable basePassPacket := by
  have hliteral : ∀ s, PyJson.Plain Encodable (literalRef s) := fun s =>
    .str _ (encodable_append.2 ⟨encodable_cp _, Sha256.encodable_hexdigest _⟩)
  simp [basePassPacket, baseCoordinate, PyJson.plain_obj_iff, PyJson.plain_list_iff, PyJson.plain_lit, hliteral,
    plain_bool, plain_int]

theorem exists_payload_core : ∃ payload, buildCanonicalPayload sampleAround coreCandidate 0 [] = .ok payload := by
  have hempty : PyJson.Plain Encodable (.list []) := .list _ (by simp)
  have hcontext : PyJson.Plain Encodable (quiet coreText).value := by
    simp [DetourContext.value, quiet, PyJson.plain_obj_iff, PyJson.plain_str_iff, hempty, encodable_coreText]
  have hcandidate : PyJson.Plain Encodable coreCandidate.value := by
    simp [Candidate.value, coreCandidate, optional, PyJson.plain_obj_iff, PyJson.plain_str_iff,
      PyJson.plain_list_iff, PyJson.plain_lit, plain_bool, plain_int, hardRiskFlags, authorityEnvelope,
      lookupConditions, plain_basePassPacket, hcontext, plain_default7d, encodable_coreText, encodable_hashOf]
  have hplain : PyJson.Plain Encodable (obj [("candidate", coreCandidate.value), ("run_id", .str [])]) := by
    simp [PyJson.plain_obj_iff, PyJson.plain_str_iff, hcandidate]
  have hsome : coreCandidate.naturalLanguageExcerpt ≠ [] := by
    change coreText ≠ []
    rw [coreText, cp_eq_codes]
    decide
  rw [buildCanonicalPayload, stableHash_plain hplain, ok_bind, hashRef_plain hcandidate, ok_bind, if_neg hsome,
    hashRef_plain (v := .str coreCandidate.naturalLanguageExcerpt) (.str _ encodable_coreText), ok_bind, pure_bind]
  exact ⟨_, rfl⟩

theorem gate_finds_nothing_core : checkGtDefinitionDrift sampleAround coreText = [] := by
  have hforbidden : hasAny (sampleAround.lower coreText) gtForbiddenCoreTerms = false := by
    simp only [coreText, cp_eq_codes]
    decide
  have hadi : hasAny (sampleAround.lower coreText) adiDriftTerms = false := by
    simp only [coreText, cp_eq_codes]
    decide
  rw [checkGtDefinitionDrift, hforbidden, hadi, Bool.and_false]
  rfl

theorem marked_core : Marked sampleAround coreCandidate := by
  refine ⟨"核心", by decide, ?_⟩
  have hplain : coreText.flatMap escapeChar = coreText := by
    rw [coreText, cp_eq_codes]
    decide
  have hlower : sampleAround.lower coreText = coreText := by
    rw [coreText, cp_eq_codes]
    decide
  change occursIn (sampleAround.lower (coreText.flatMap escapeChar)) _ = true
  rw [hplain, hlower, occursIn_iff]
  exact List.infix_refl _

/-- The condition, for the word. -/
theorem drift_checks_agree_core : ∃ payload,
    buildCanonicalPayload sampleAround coreCandidate 0 [] = .ok payload ∧
    ((checkGtDefinitionDrift sampleAround coreText = [] →
      Canonical8D.checkGtDefinitionDrift sampleAround.library payload = .ok []) ↔
    (checkGtDefinitionDrift sampleAround coreText ≠ [] ∨ ¬Marked sampleAround coreCandidate)) := by
  obtain ⟨payload, hpayload⟩ := exists_payload_core
  exact ⟨payload, hpayload,
    drift_checks_agree_iff documentedLower_sample ⟨_, rfl⟩ default_core normalize_core hpayload⟩

/-- The gate finds nothing in the word, and the verifier finds a drift in its payload. -/
theorem drift_checks_disagree : ∃ payload,
    normalizeCandidateRequest sampleAround (.str coreText) = .ok coreCandidate ∧
      buildCanonicalPayload sampleAround coreCandidate 0 [] = .ok payload ∧
      checkGtDefinitionDrift sampleAround coreCandidate.naturalLanguageExcerpt = [] ∧
      ¬Canonical8D.checkGtDefinitionDrift sampleAround.library payload = .ok [] := by
  obtain ⟨payload, hpayload⟩ := exists_payload_core
  refine ⟨payload, normalize_core, hpayload, gate_finds_nothing_core, ?_⟩
  obtain ⟨hadi, hstate⟩ := default_core.candidate normalize_core
  rw [checkGtDefinitionDrift_payload documentedLower_sample ⟨_, rfl⟩ hadi hstate hpayload, Except.ok.injEq,
    List.append_eq_nil_iff, errorIf_eq_nil, errorIf_eq_nil, hasAny_eq_false, hasAny_eq_false]
  obtain ⟨term, hterm, hin⟩ := marked_core
  rintro ⟨hcore, hforbidden⟩
  rcases List.mem_append.1 hterm with hmem | hmem
  · rw [hcore term hmem] at hin
    cases hin
  · rw [hforbidden term hmem] at hin
    cases hin

end FinalStateGate
