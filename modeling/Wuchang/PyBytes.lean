/-
**Bytes that are read.**

`json.loads` of bytes first decodes them: a byte order mark or the zero bytes at the start tell the
encoding, and it is UTF-8 if there are none.  A surrogate is decoded like any other code point.

Main definitions:

* `Py.IsText` — a text has code points only;
* `Py.decodeUtf8`, `Py.decodeUtf16`, `Py.decodeUtf32` — `b.decode(…, "surrogatepass")`;
* `PyJson.Loaded` — what `json.loads` returns;
* `PyJson.decode`, `PyJson.loadsBytes` — `json.loads(b)`.

Main results:

* `Py.decodeUtf8_utf8`, `Py.utf8_injective` — a text is decoded as it was encoded;
* `PyJson.loaded_loadsBytes` — a value that is read has texts only, and sorted dictionaries;
* `PyJson.loadsBytes_write` — an object that was written and encoded is read back.
-/

import Wuchang.PyJsonRead

set_option relaxedAutoImplicit false
set_option autoImplicit false

namespace Py

/-- A text has code points only. -/
def IsText (s : PyStr) : Prop := ∀ c ∈ s, c < 0x110000

instance (s : PyStr) : Decidable (IsText s) := inferInstanceAs (Decidable (∀ c ∈ s, c < 0x110000))

theorem isText_cp (s : String) : IsText (cp s) := by
  intro c hc
  obtain ⟨ch, -, rfl⟩ := List.mem_map.1 hc
  have := ch.valid
  simp only [UInt32.isValidChar, Nat.isValidChar] at this
  unfold Char.toNat
  omega

/-! ### UTF-8 -/

/-- A byte that goes on with a code point. -/
def isTail (b : UInt8) : Bool := 0x80 ≤ b.toNat && b.toNat < 0xC0

/-- The code point a lead and its tails stand for, if none shorter stands for it. -/
def codePoint (least lead : ℕ) (tails : List UInt8) : Option ℕ :=
  let c := tails.foldl (fun c b => c * 64 + (b.toNat - 0x80)) lead
  if tails.all isTail ∧ least ≤ c ∧ c < 0x110000 then some c else none

/-- `b.decode("utf-8", "surrogatepass")` -/
def decodeUtf8 : List UInt8 → Option PyStr
  | [] => some []
  | a :: rest =>
      if a.toNat < 0x80 then (decodeUtf8 rest).map (a.toNat :: ·)
      else match rest with
      | [] => none
      | b :: rest =>
          if 0xC0 ≤ a.toNat ∧ a.toNat < 0xE0 then
            match codePoint 0x80 (a.toNat - 0xC0) [b] with
            | some c => (decodeUtf8 rest).map (c :: ·)
            | none => none
          else match rest with
          | [] => none
          | c :: rest =>
              if 0xE0 ≤ a.toNat ∧ a.toNat < 0xF0 then
                match codePoint 0x800 (a.toNat - 0xE0) [b, c] with
                | some c => (decodeUtf8 rest).map (c :: ·)
                | none => none
              else match rest with
              | [] => none
              | d :: rest =>
                  if 0xF0 ≤ a.toNat then
                    match codePoint 0x10000 (a.toNat - 0xF0) [b, c, d] with
                    | some c => (decodeUtf8 rest).map (c :: ·)
                    | none => none
                  else none

/-! ### UTF-16 and UTF-32 -/

/-- Two bytes as a number. -/
def unit16 (big : Bool) (a b : UInt8) : ℕ :=
  if big then a.toNat * 256 + b.toNat else b.toNat * 256 + a.toNat

/-- The units of a text in UTF-16. -/
def units16 (big : Bool) : List UInt8 → Option (List ℕ)
  | [] => some []
  | [_] => none
  | a :: b :: rest => (units16 big rest).map (unit16 big a b :: ·)

/-- A pair of surrogates is one code point. -/
def joinUnits : List ℕ → PyStr
  | [] => []
  | [unit] => [unit]
  | unit :: low :: rest =>
      if 0xD800 ≤ unit ∧ unit ≤ 0xDBFF ∧ 0xDC00 ≤ low ∧ low ≤ 0xDFFF then
        (0x10000 + (unit - 0xD800) * 0x400 + (low - 0xDC00)) :: joinUnits rest
      else unit :: joinUnits (low :: rest)

/-- `b.decode("utf-16-be", "surrogatepass")`, or with the other byte order. -/
def decodeUtf16 (big : Bool) (b : List UInt8) : Option PyStr := (units16 big b).map joinUnits

/-- `b.decode("utf-32-be", "surrogatepass")`, or with the other byte order. -/
def decodeUtf32 (big : Bool) : List UInt8 → Option PyStr
  | [] => some []
  | a :: b :: c :: d :: rest =>
      let n :=
        if big then unit16 true a b * 0x10000 + unit16 true c d
        else unit16 false c d * 0x10000 + unit16 false a b
      if n < 0x110000 then (decodeUtf32 big rest).map (n :: ·) else none
  | _ => none

/-! ### A text is decoded as it was encoded -/

theorem codePoint_eq {least lead c : ℕ} {tails : List UInt8} (htails : ∀ b ∈ tails, isTail b = true)
    (hvalue : tails.foldl (fun c b => c * 64 + (b.toNat - 0x80)) lead = c) (hleast : least ≤ c)
    (hc : c < 0x110000) : codePoint least lead tails = some c := by
  rw [codePoint, hvalue]
  exact if_pos ⟨List.all_eq_true.2 htails, hleast, hc⟩

theorem isTail_ofNat {n : ℕ} (h : n < 64) : isTail (UInt8.ofNat (0x80 + n)) = true := by
  rw [isTail, UInt8.toNat_ofNat', Nat.mod_eq_of_lt (by omega), Bool.and_eq_true, decide_eq_true_eq,
    decide_eq_true_eq]
  omega

theorem toNat_ofNat_lt {n : ℕ} (h : n < 256) : (UInt8.ofNat n).toNat = n := by
  rw [UInt8.toNat_ofNat', Nat.mod_eq_of_lt h]

/-- The bytes of a code point are decoded to it. -/
theorem decodeUtf8_utf8Char {c : ℕ} (hc : c < 0x110000) (rest : List UInt8) :
    decodeUtf8 (utf8Char c ++ rest) = (decodeUtf8 rest).map (c :: ·) := by
  unfold utf8Char
  split_ifs with h1 h2 h3
  · rw [List.cons_append, List.nil_append, decodeUtf8.eq_def]
    dsimp only
    rw [toNat_ofNat_lt (by omega), if_pos h1]
  · have hpoint : codePoint 0x80 (0xC0 + c / 64 - 0xC0) [UInt8.ofNat (0x80 + c % 64)] = some c := by
      refine codePoint_eq ?_ ?_ (by omega) hc
      · simp only [List.forall_mem_cons, List.not_mem_nil, IsEmpty.forall_iff, implies_true, and_true]
        exact isTail_ofNat (Nat.mod_lt _ (by norm_num))
      · simp only [List.foldl_cons, List.foldl_nil]
        rw [toNat_ofNat_lt (by omega)]
        omega
    simp only [List.cons_append, List.nil_append]
    rw [decodeUtf8.eq_def]
    dsimp only
    rw [toNat_ofNat_lt (by omega), if_neg (by omega)]
    rw [if_pos (by omega), hpoint]
  · have hpoint : codePoint 0x800 (0xE0 + c / 4096 - 0xE0)
        [UInt8.ofNat (0x80 + c / 64 % 64), UInt8.ofNat (0x80 + c % 64)] = some c := by
      refine codePoint_eq ?_ ?_ (by omega) hc
      · simp only [List.forall_mem_cons, List.not_mem_nil, IsEmpty.forall_iff, implies_true, and_true]
        exact ⟨isTail_ofNat (Nat.mod_lt _ (by norm_num)), isTail_ofNat (Nat.mod_lt _ (by norm_num))⟩
      · simp only [List.foldl_cons, List.foldl_nil]
        rw [toNat_ofNat_lt (by omega), toNat_ofNat_lt (by omega)]
        omega
    simp only [List.cons_append, List.nil_append]
    rw [decodeUtf8.eq_def]
    dsimp only
    rw [toNat_ofNat_lt (by omega), if_neg (by omega)]
    rw [if_neg (by omega), if_pos (by omega), hpoint]
  · have hpoint : codePoint 0x10000 (0xF0 + c / 262144 - 0xF0)
        [UInt8.ofNat (0x80 + c / 4096 % 64), UInt8.ofNat (0x80 + c / 64 % 64),
          UInt8.ofNat (0x80 + c % 64)] = some c := by
      refine codePoint_eq ?_ ?_ (by omega) hc
      · simp only [List.forall_mem_cons, List.not_mem_nil, IsEmpty.forall_iff, implies_true, and_true]
        exact ⟨isTail_ofNat (Nat.mod_lt _ (by norm_num)), isTail_ofNat (Nat.mod_lt _ (by norm_num)),
          isTail_ofNat (Nat.mod_lt _ (by norm_num))⟩
      · simp only [List.foldl_cons, List.foldl_nil]
        rw [toNat_ofNat_lt (by omega), toNat_ofNat_lt (by omega), toNat_ofNat_lt (by omega)]
        omega
    simp only [List.cons_append, List.nil_append]
    rw [decodeUtf8.eq_def]
    dsimp only
    rw [toNat_ofNat_lt (by omega), if_neg (by omega)]
    rw [if_neg (by omega), if_neg (by omega), if_pos (by omega), hpoint]

/-- A text is decoded as it was encoded. -/
theorem decodeUtf8_utf8 {s : PyStr} (h : IsText s) : decodeUtf8 (s.flatMap utf8Char) = some s := by
  induction s with
  | nil => rfl
  | cons c s ih =>
      obtain ⟨hc, hs⟩ := List.forall_mem_cons.1 h
      rw [List.flatMap_cons, decodeUtf8_utf8Char hc, ih hs]
      rfl

/-- Different texts have different encodings. -/
theorem utf8_injective {s t : PyStr} (hs : IsText s) (ht : IsText t)
    (h : s.flatMap utf8Char = t.flatMap utf8Char) : s = t := by
  have hdecode := decodeUtf8_utf8 hs
  rw [h, decodeUtf8_utf8 ht, Option.some.injEq] at hdecode
  exact hdecode.symm

end Py

namespace PyJson

open Py

/-! ### Values that are read -/

/-- What `json.loads` returns: texts, and dictionaries in the order of their keys. -/
inductive Loaded : PyVal → Prop
  | none : Loaded .none
  | bool (b : Bool) : Loaded (.bool b)
  | int (n : ℤ) : Loaded (.int n)
  | float (x : PyFloat) : Loaded (.float x)
  | str (s : PyStr) (h : IsText s) : Loaded (.str s)
  | list (xs : List PyVal) (h : ∀ x ∈ xs, Loaded x) : Loaded (.list xs)
  | dict (items : Items) (sorted : Sorted items) (keys : ∀ p ∈ items, ∃ s, p.1 = .str s ∧ IsText s)
      (h : ∀ p ∈ items, Loaded p.2) : Loaded (.dict items)

/-- Setting a key keeps a dictionary. -/
theorem Loaded.setKey {k : PyStr} {v : PyVal} {items : Items} (h : Loaded (.dict items)) (hk : IsText k)
    (hv : Loaded v) : Loaded (.dict (setKey k v items)) := by
  cases h with
  | dict _ sorted keys hvals =>
      have hstr : ∀ p ∈ items, ∃ s, p.1 = .str s := by
        intro p hp
        obtain ⟨s, hs, -⟩ := keys p hp
        exact ⟨s, hs⟩
      refine .dict _ (sorted_setKey k v sorted hstr) (fun q hq => ?_) fun q hq => ?_
      · rcases mem_setKey hq with rfl | hq
        · exact ⟨k, rfl, hk⟩
        · exact keys q hq
      · rcases mem_setKey hq with rfl | hq
        · exact hv
        · exact hvals q hq

theorem loaded_nil : Loaded (.dict []) := .dict [] List.Pairwise.nil (by simp) (by simp)

/-- A reader returns a value with texts only, and a text is left. -/
def LoadsText (read : Option (PyVal × PyStr)) : Prop :=
  ∀ v rest, read = some (v, rest) → Loaded v ∧ IsText rest

theorem hexValue_lt {c n : ℕ} (h : hexValue c = some n) : n < 16 := by
  unfold hexValue at h
  split_ifs at h
  all_goals
    rw [Option.some.injEq] at h
    omega

theorem hexUnit_lt {a b c d n : ℕ} (h : hexUnit a b c d = some n) : n < 0x10000 := by
  simp only [hexUnit, Option.bind_eq_bind, Option.bind_eq_some_iff, Option.pure_def, Option.some.injEq] at h
  obtain ⟨a, ha, b, hb, c, hc, d, hd, rfl⟩ := h
  have := hexValue_lt ha
  have := hexValue_lt hb
  have := hexValue_lt hc
  have := hexValue_lt hd
  omega

theorem isText_push {c : ℕ} (hc : c < 0x110000) {read : Option (PyStr × PyStr)}
    (h : ∀ t rest, read = some (t, rest) → IsText t ∧ IsText rest) :
    ∀ t rest, push c read = some (t, rest) → IsText t ∧ IsText rest := by
  intro t rest hread
  rw [push, Option.map_eq_some_iff] at hread
  obtain ⟨⟨t, rest⟩, hread, heq⟩ := hread
  cases heq
  obtain ⟨ht, hrest⟩ := h t rest hread
  exact ⟨List.forall_mem_cons.2 ⟨hc, ht⟩, hrest⟩

theorem unescape_lt {c e : ℕ} (h : unescape c = some e) : e < 0x110000 := by
  have hrange : ∀ {n : ℕ}, n < 0x110000 → some n = some e → e < 0x110000 := fun hn heq =>
    Option.some.inj heq ▸ hn
  unfold unescape at h
  split at h
  · exact hrange (by norm_num) h
  · exact hrange (by norm_num) h
  · exact hrange (by norm_num) h
  · exact hrange (by norm_num) h
  · exact hrange (by norm_num) h
  · exact hrange (by norm_num) h
  · exact hrange (by norm_num) h
  · exact hrange (by norm_num) h
  · cases h

/-- A string that is read from a text is one. -/
theorem isText_scanString {s : PyStr} (hs : IsText s) :
    ∀ t rest, scanString s = some (t, rest) → IsText t ∧ IsText rest := by
  fun_induction scanString s with
  | case1 | case3 | case4 | case9 | case11 =>
      intro t rest h
      cases h
  | case2 rest =>
      intro t rest h
      cases h
      exact ⟨by simp [IsText], fun c hc => hs c (by simp [hc])⟩
  | case5 a b c d unit hunit hhigh a' b' c' d' rest low hlow hrange ih =>
      exact isText_push (by omega) (ih fun e he =>
        hs e (List.mem_append_right [92, 117, a, b, c, d, 92, 117, a', b', c', d'] he))
  | case6 a b c d unit hunit hhigh a' b' c' d' rest low hlow hrange ih =>
      have := hexUnit_lt hunit
      exact isText_push (by omega) (ih fun e he => hs e (List.mem_append_right [92, 117, a, b, c, d] he))
  | case7 a b c d unit hunit hhigh rest hne ih =>
      have := hexUnit_lt hunit
      exact isText_push (by omega) (ih fun e he => hs e (List.mem_append_right [92, 117, a, b, c, d] he))
  | case8 a b c d rest unit hunit hhigh ih =>
      have := hexUnit_lt hunit
      exact isText_push (by omega) (ih fun e he => hs e (List.mem_append_right [92, 117, a, b, c, d] he))
  | case10 c rest hne e he ih =>
      exact isText_push (unescape_lt he) (ih fun d hd => hs d (List.mem_append_right [92, c] hd))
  | case12 c rest _ _ _ _ ih =>
      exact isText_push (hs c List.mem_cons_self) (ih fun d hd => hs d (List.mem_cons_of_mem _ hd))

theorem isText_dropWhile {s : PyStr} (hs : IsText s) (p : ℕ → Bool) : IsText (s.dropWhile p) :=
  fun c hc => hs c ((List.dropWhile_suffix p).subset hc)

theorem isText_skipSpace {s : PyStr} (hs : IsText s) : IsText (skipSpace s) := isText_dropWhile hs _

/-- A number is read from a text up to a text. -/
theorem texts_scanUnsigned {s : PyStr} (hs : IsText s) (neg : Bool) :
    LoadsText (scanUnsigned neg s) := by
  have hcons : ∀ {c : ℕ} {s : PyStr}, IsText (c :: s) → IsText s := fun h =>
    (List.forall_mem_cons.1 h).2
  have hinteger : IsText (scanInteger s).2 := by
    unfold scanInteger
    split
    · exact hcons hs
    · exact isText_dropWhile hs _
  have hfraction : ∀ s, IsText s → IsText (scanFraction s).2 := by
    intro s hs
    unfold scanFraction
    split
    · split_ifs
      · exact hs
      · exact isText_dropWhile (hcons hs) _
    · exact hs
  have hsign : ∀ s, IsText s → IsText (scanSign s).2 := by
    intro s hs
    unfold scanSign
    split
    · exact hcons hs
    · exact hcons hs
    · exact hs
  have hexponent : ∀ s, IsText s → IsText (scanExponent s).2 := by
    intro s hs
    unfold scanExponent
    split
    · dsimp only
      split_ifs
      · exact isText_dropWhile (hsign _ (hcons hs)) _
      · exact isText_dropWhile (hsign _ (hcons hs)) _
      · exact hs
    · simp [IsText]
  intro v rest h
  rw [scanUnsigned] at h
  dsimp only at h
  split_ifs at h
  · cases h
    exact ⟨.int _, hexponent _ (hfraction _ hinteger)⟩
  · cases h
    exact ⟨.int _, hexponent _ (hfraction _ hinteger)⟩
  · cases h
    exact ⟨.float _, hexponent _ (hfraction _ hinteger)⟩

theorem texts_scanPlain {s : PyStr} (hs : IsText s) : LoadsText (scanPlain s) := by
  intro v rest h
  unfold scanPlain at h
  split at h
  · next p hfind =>
      cases h
      refine ⟨?_, fun c hc => hs c (List.mem_of_mem_drop hc)⟩
      have hmem := List.mem_of_find?_eq_some hfind
      simp only [constants, List.mem_cons, List.not_mem_nil, or_false] at hmem
      rcases hmem with rfl | rfl | rfl | rfl | rfl | rfl
      · exact .none
      · exact .bool _
      · exact .bool _
      · exact .float _
      · exact .float _
      · exact .float _
  · unfold scanNumber at h
    split at h
    · exact texts_scanUnsigned (fun c hc => hs c (by simp [hc])) true v rest h
    · exact texts_scanUnsigned hs false v rest h

/-- The three readers of values are taken together, by the steps that are left. -/
theorem texts_scan (steps : ℕ) :
    (∀ s, IsText s → LoadsText (scanOnce steps s)) ∧
      (∀ items s, Loaded (.dict items) → IsText s →
        LoadsText (scanMembers steps items s)) ∧
      ∀ xs s, (∀ x ∈ xs, Loaded x) → IsText s →
        LoadsText (scanElements steps xs s) := by
  induction steps with
  | zero =>
      refine ⟨fun s _ v rest h => ?_, fun items s _ _ v rest h => ?_, fun xs s _ _ v rest h => ?_⟩
      · rw [scanOnce] at h
        cases h
      · rw [scanMembers] at h
        cases h
      · rw [scanElements] at h
        cases h
  | succ steps ih =>
      obtain ⟨ihOnce, ihMembers, ihElements⟩ := ih
      have hcons : ∀ {c : ℕ} {s : PyStr}, IsText (c :: s) → IsText s := fun h =>
        (List.forall_mem_cons.1 h).2
      refine ⟨fun s hs v rest h => ?_, fun items s hitems hs v rest h => ?_,
        fun xs s hxs hs v rest h => ?_⟩
      · unfold scanOnce at h
        split at h
        · rw [Option.map_eq_some_iff] at h
          obtain ⟨⟨t, rest⟩, hscan, heq⟩ := h
          cases heq
          obtain ⟨ht, hrest⟩ := isText_scanString (hcons hs) _ _ hscan
          exact ⟨.str t ht, hrest⟩
        · have hskip := isText_skipSpace (hcons hs)
          split at h
          · next heq =>
              cases h
              rw [heq] at hskip
              exact ⟨loaded_nil, hcons hskip⟩
          · exact ihMembers [] _ loaded_nil hskip v rest h
        · have hskip := isText_skipSpace (hcons hs)
          split at h
          · next heq =>
              cases h
              rw [heq] at hskip
              exact ⟨.list [] (by simp), hcons hskip⟩
          · exact ihElements [] _ (by simp) hskip v rest h
        · exact texts_scanPlain hs v rest h
      · unfold scanMembers at h
        split at h
        · split at h
          · cases h
          · next hscan =>
              obtain ⟨hk, hrest⟩ := isText_scanString (hcons hs) _ _ hscan
              have hskip := isText_skipSpace hrest
              split at h
              · next heq =>
                  rw [heq] at hskip
                  split at h
                  · cases h
                  · next honce =>
                      obtain ⟨hv, hrest⟩ := ihOnce _ (isText_skipSpace (hcons hskip)) _ _ honce
                      have hset := hitems.setKey hk hv
                      have hskip := isText_skipSpace hrest
                      split at h
                      · next heq =>
                          rw [heq] at hskip
                          exact ihMembers _ _ hset (isText_skipSpace (hcons hskip)) v rest h
                      · next heq =>
                          cases h
                          rw [heq] at hskip
                          exact ⟨hset, hcons hskip⟩
                      · cases h
              · cases h
        · cases h
      · unfold scanElements at h
        split at h
        · cases h
        · next honce =>
            obtain ⟨hx, hrest⟩ := ihOnce _ hs _ _ honce
            have hskip := isText_skipSpace hrest
            have happend : ∀ {x}, Loaded x → ∀ y ∈ xs ++ [x], Loaded y := by
              intro x hx y hy
              rcases List.mem_append.1 hy with hy | hy
              · exact hxs y hy
              · rw [List.mem_singleton.1 hy]
                exact hx
            split at h
            · next heq =>
                rw [heq] at hskip
                exact ihElements _ _ (happend hx) (isText_skipSpace (hcons hskip)) v rest h
            · next heq =>
                cases h
                rw [heq] at hskip
                exact ⟨.list _ (happend hx), hcons hskip⟩
            · cases h

/-- What is read from a text. -/
theorem loaded_loads {s : PyStr} (hs : IsText s) {v : PyVal} (h : loads s = some v) : Loaded v := by
  unfold loads at h
  split at h
  · next hscan =>
      split_ifs at h
      cases h
      exact ((texts_scan _).1 _ (isText_skipSpace hs) _ _ hscan).1
  · cases h

/-! ### `json.loads` of bytes -/

/-- `b.decode(json.detect_encoding(b), "surrogatepass")` -/
def decode (b : List UInt8) : Option PyStr :=
  if [0, 0, 0xFE, 0xFF].isPrefixOf b then decodeUtf32 true (b.drop 4)
  else if [0xFF, 0xFE, 0, 0].isPrefixOf b then decodeUtf32 false (b.drop 4)
  else if [0xFE, 0xFF].isPrefixOf b then decodeUtf16 true (b.drop 2)
  else if [0xFF, 0xFE].isPrefixOf b then decodeUtf16 false (b.drop 2)
  else if [0xEF, 0xBB, 0xBF].isPrefixOf b then decodeUtf8 (b.drop 3)
  else match b with
  | b₀ :: b₁ :: b₂ :: b₃ :: _ =>
      if b₀ = 0 then if b₁ ≠ 0 then decodeUtf16 true b else decodeUtf32 true b
      else if b₁ = 0 then if b₂ ≠ 0 ∨ b₃ ≠ 0 then decodeUtf16 false b else decodeUtf32 false b
      else decodeUtf8 b
  | [b₀, b₁] =>
      if b₀ = 0 then decodeUtf16 true b
      else if b₁ = 0 then decodeUtf16 false b
      else decodeUtf8 b
  | _ => decodeUtf8 b

/-- `json.loads(b)` -/
def loadsBytes (b : List UInt8) : Option PyVal :=
  match decode b with
  | some s => loads s
  | none => none

theorem isText_map_cons {c : ℕ} (hc : c < 0x110000) {read : Option PyStr}
    (h : ∀ s, read = some s → IsText s) : ∀ s, read.map (c :: ·) = some s → IsText s := by
  intro s hs
  obtain ⟨t, ht, rfl⟩ := Option.map_eq_some_iff.1 hs
  exact List.forall_mem_cons.2 ⟨hc, h t ht⟩

theorem codePoint_lt {least lead c : ℕ} {tails : List UInt8} (h : codePoint least lead tails = some c) :
    c < 0x110000 := by
  rw [codePoint] at h
  split_ifs at h with hc
  rw [← Option.some.inj h]
  exact hc.2.2

/-- UTF-8 is decoded to a text. -/
theorem isText_decodeUtf8 (b : List UInt8) : ∀ s, decodeUtf8 b = some s → IsText s := by
  fun_induction decodeUtf8 b with
  | case1 =>
      intro s h
      cases h
      simp [IsText]
  | case2 a rest ha ih => exact isText_map_cons (by omega) ih
  | case4 a _ b rest _ c hc ih => exact isText_map_cons (codePoint_lt hc) ih
  | case7 a _ b _ c rest _ d hd ih => exact isText_map_cons (codePoint_lt hd) ih
  | case10 a _ b _ c _ d rest _ e he ih => exact isText_map_cons (codePoint_lt he) ih
  | case3 | case5 | case6 | case8 | case9 | case11 | case12 =>
      intro s h
      cases h

theorem unit16_lt (big : Bool) (a b : UInt8) : unit16 big a b < 0x10000 := by
  have ha := a.toNat_lt
  have hb := b.toNat_lt
  unfold unit16
  split_ifs <;> omega

theorem isText_joinUnits {units : List ℕ} (h : ∀ unit ∈ units, unit < 0x10000) :
    IsText (joinUnits units) := by
  fun_induction joinUnits units with
  | case1 => simp [IsText]
  | case2 unit =>
      have := h unit (by simp)
      simp [IsText]
      omega
  | case3 unit low rest hpair ih =>
      exact List.forall_mem_cons.2 ⟨by omega, ih fun u hu => h u (by simp [hu])⟩
  | case4 unit low rest hpair ih =>
      have := h unit (by simp)
      exact List.forall_mem_cons.2 ⟨by omega, ih fun u hu => h u (List.mem_cons_of_mem _ hu)⟩

theorem isText_decodeUtf16 (big : Bool) (b : List UInt8) : ∀ s, decodeUtf16 big b = some s → IsText s := by
  have hunits : ∀ units, units16 big b = some units → ∀ unit ∈ units, unit < 0x10000 := by
    fun_induction units16 big b with
    | case1 =>
        intro units h
        cases h
        simp
    | case2 =>
        intro units h
        cases h
    | case3 a b rest ih =>
        intro units h
        obtain ⟨units, hrest, rfl⟩ := Option.map_eq_some_iff.1 h
        exact List.forall_mem_cons.2 ⟨unit16_lt big a b, ih units hrest⟩
  intro s h
  obtain ⟨units, hread, rfl⟩ := Option.map_eq_some_iff.1 h
  exact isText_joinUnits (hunits units hread)

theorem isText_decodeUtf32 (big : Bool) (b : List UInt8) : ∀ s, decodeUtf32 big b = some s → IsText s := by
  fun_induction decodeUtf32 big b with
  | case1 =>
      intro s h
      cases h
      simp [IsText]
  | case2 a b c d rest n hn ih => exact isText_map_cons hn ih
  | case3 | case4 =>
      intro s h
      cases h

/-- Bytes are decoded to a text. -/
theorem isText_decode (b : List UInt8) : ∀ s, decode b = some s → IsText s := by
  unfold decode
  split_ifs
  · exact isText_decodeUtf32 true _
  · exact isText_decodeUtf32 false _
  · exact isText_decodeUtf16 true _
  · exact isText_decodeUtf16 false _
  · exact isText_decodeUtf8 _
  · split
    · split_ifs
      · exact isText_decodeUtf16 true _
      · exact isText_decodeUtf32 true _
      · exact isText_decodeUtf16 false _
      · exact isText_decodeUtf32 false _
      · exact isText_decodeUtf8 _
    · split_ifs
      · exact isText_decodeUtf16 true _
      · exact isText_decodeUtf16 false _
      · exact isText_decodeUtf8 _
    · exact isText_decodeUtf8 _

/-- What is read from bytes. -/
theorem loaded_loadsBytes {b : List UInt8} {v : PyVal} (h : loadsBytes b = some v) : Loaded v := by
  unfold loadsBytes at h
  split at h
  · next hdecode => exact loaded_loads (isText_decode b _ hdecode) h
  · cases h

/-- Bytes that start with a brace, and without a zero behind it, are UTF-8. -/
theorem decode_brace {b : UInt8} (hb : b ≠ 0) (rest : List UInt8) :
    decode (123 :: b :: rest) = decodeUtf8 (123 :: b :: rest) := by
  have hbrace : ∀ {c : UInt8} {mark : List UInt8}, (c == 123) = false →
      ¬(c :: mark).isPrefixOf (123 :: b :: rest) = true := by
    intro c mark hc
    rw [List.isPrefixOf, hc, Bool.false_and]
    exact Bool.false_ne_true
  unfold decode
  rw [if_neg (hbrace rfl), if_neg (hbrace rfl), if_neg (hbrace rfl), if_neg (hbrace rfl),
    if_neg (hbrace rfl)]
  split
  · next heq =>
      obtain ⟨hzero, heq⟩ := List.cons.inj heq
      obtain ⟨rfl, -⟩ := List.cons.inj heq
      rw [← hzero, if_neg (by decide), if_neg hb]
  · next heq =>
      obtain ⟨hzero, heq⟩ := List.cons.inj heq
      obtain ⟨rfl, -⟩ := List.cons.inj heq
      rw [← hzero, if_neg (by decide), if_neg hb]
  · rfl

variable {st : Style}

/-- A plain value is written as a text. -/
theorem isText_write (hst : st.Simple) {v : PyVal} (h : Plain IsText v) : IsText (write st v) := by
  have hQ : ∀ ch : Char, ch.toNat < 0x110000 := fun ch => isText_cp (String.singleton ch) _ (by simp [cp])
  have hspaces : ∀ n, ∀ c ∈ List.replicate n 32, c < 0x110000 := by
    intro n c hc
    rw [List.eq_of_mem_replicate hc]
    norm_num
  obtain ⟨m, hitem⟩ := hst.item
  obtain ⟨n, hkey⟩ := hst.key
  refine Plain.forall_write hQ ?_ ?_ h
  · rw [hitem]
    exact List.forall_mem_cons.2 ⟨by norm_num, hspaces m⟩
  · rw [hkey]
    exact List.forall_mem_cons.2 ⟨by norm_num, hspaces n⟩

/-- An object that was written and encoded, with white space behind it, is read back. -/
theorem loadsBytes_write (hst : st.Simple) {items : Items} (hread : Readable (.dict items))
    (htext : Plain IsText (.dict items)) {space : PyStr} (hends : Ends space)
    (hspace : skipSpace space = []) (hascii : IsText space) :
    loadsBytes ((write st (.dict items) ++ space).flatMap utf8Char) = some (.dict items) := by
  have hstart : ∃ c t, write st (.dict items) ++ space = 123 :: c :: t ∧ (c = 34 ∨ c = 125) := by
    cases hread with
    | dict _ _ hkeys _ =>
        cases items with
        | nil => exact ⟨125, space, rfl, .inr rfl⟩
        | cons p items =>
            obtain ⟨⟨k, hk⟩, -⟩ := List.forall_mem_cons.1 hkeys
            obtain ⟨pk, v⟩ := p
            subst hk
            obtain ⟨t, htext, -⟩ := reads_text hst k
              (st.keySeparator ++ (write st v ++ (writeItems st items ++ (cp "\x7d" ++ space))))
            refine ⟨34, t, ?_, .inl rfl⟩
            simp only [write, writeKey, List.append_assoc]
            rw [htext]
            rfl
  have hdecode : decode ((write st (.dict items) ++ space).flatMap utf8Char) =
      decodeUtf8 ((write st (.dict items) ++ space).flatMap utf8Char) := by
    obtain ⟨c, t, heq, rfl | rfl⟩ := hstart
    · rw [heq]
      exact decode_brace (by decide) _
    · rw [heq]
      exact decode_brace (by decide) _
  have hall : IsText (write st (.dict items) ++ space) :=
    List.forall_mem_append.2 ⟨isText_write hst htext, hascii⟩
  rw [loadsBytes, hdecode, decodeUtf8_utf8 hall]
  exact loads_write hst hread hends hspace

end PyJson
