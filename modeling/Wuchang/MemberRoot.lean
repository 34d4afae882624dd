/-
**The root of a member's identity.**

The verifier of the member-sovereign identity contract checks packets one after the other: their schema, that
nothing in them is in plain text, their hashes, and that they are bound to each other.  A check that fails
raises with the code of what is held.  This module has what all packets are checked with, and the root.

A packet is hashed in a normal form: texts and keys are normalised, and floats are refused.

Main definitions:

* `MemberIdentity.contentHash`, `MemberIdentity.actionHash`, `MemberIdentity.receiptHash` — the hashes;
* `MemberIdentity.walkForbidden` — nothing is in plain text;
* `MemberIdentity.Same`, `MemberIdentity.requireSame` — two fields are equal;
* `MemberIdentity.isProper` — a value with nothing in plain text and no float;
* `MemberIdentity.verifyRoot` — the check of a root.

Main results:

* `MemberIdentity.sha256Json_proper`, `MemberIdentity.walkForbidden_proper` — such a value has a hash and passes;
* `MemberIdentity.contentHash_insert` — the hash of a packet does not depend on the one it records;
* `MemberIdentity.requireSame_eq_ok_iff` — when two fields pass as equal;
* `MemberIdentity.check_bind_eq_ok_iff` — a check in front of others.
-/

import Mathlib.Data.List.Dedup
import Mathlib.Data.List.Infix
import Wuchang.PyEq
import Wuchang.PyJson
import Wuchang.Sha256

set_option relaxedAutoImplicit false
set_option autoImplicit false

namespace MemberIdentity

open Py

/-- The exceptions: `ContractHold` with its code and, behind a colon, a path; and the `ValidationError` of
the schemas. -/
inductive Failure where
  | hold (code : String) (path : PyStr)
  | validationError
  deriving DecidableEq, Repr

/-- An exception. -/
abbrev Fault := Raise Failure

/-- `raise ContractHold(code)` -/
def hold {α : Type} (code : String) : Except Fault α := .error (.own (.hold code []))

/-- `_require` -/
def require (c : Prop) [Decidable c] (code : String) : Except Fault Unit := if c then .ok () else hold code

/-- What the verifier takes from outside. -/
structure Library where
  /-- `unicodedata.normalize("NFC", s)` -/
  nfc : PyStr → PyStr
  /-- `str` of a key that is no text. -/
  keyText : PyStr
  /-- `str` of a value that is no text. -/
  text : PyVal → PyStr
  /-- Whether a value conforms to one of the three schemas. -/
  conforms : String → PyVal → Bool
  /-- `datetime.fromisoformat(s)` in microseconds, if `s` is a time. -/
  fromIsoformat : PyStr → Option ℤ

/-! ### Access -/

/-- `v.get(k)` -/
def get (v : PyVal) (k : String) : Except Fault PyVal :=
  match v with
  | .dict items => .ok ((getItem items (cp k)).getD .none)
  | _ => .error (.builtin .attributeError)

/-- `v.get(k, default)` -/
def getOr (v : PyVal) (k : String) (default : PyVal) : Except Fault PyVal :=
  match v with
  | .dict items => .ok ((getItem items (cp k)).getD default)
  | _ => .error (.builtin .attributeError)

/-- `v.get(k)`, for a key that is a value. -/
def getAt (v : PyVal) (k : Except Fault PyVal) : Except Fault PyVal :=
  match v with
  | .dict items => do
      let k ← k
      if isHashable k then
        match k with
        | .str s => pure ((getItem items s).getD .none)
        | _ => pure .none
      else .error (.builtin .typeError)
  | _ => .error (.builtin .attributeError)

/-- What `for item in v` goes through. -/
def elementsOf : PyVal → Except Fault (List PyVal)
  | .list xs => .ok xs
  | .dict items => .ok (items.map fun p => match p.1 with
      | .str s => .str s
      | .other => .other)
  | .str s => .ok (s.map fun c => .str [c])
  | _ => .error (.builtin .typeError)

/-- `set(v)`, by its elements. -/
def setOf (v : PyVal) : Except Fault (List PyVal) := do
  let xs ← elementsOf v
  if xs.all isHashable then pure xs else .error (.builtin .typeError)

/-- `xs == ys`, for sets. -/
def sameSet (xs ys : List PyVal) : Bool :=
  (xs.all fun x => ys.any (pyEq x)) && ys.all fun y => xs.any (pyEq y)

/-- `v[k] == w[l]` -/
def Same (v : PyVal) (k : String) (w : PyVal) (l : String) : Prop :=
  ∃ x y, v.at k = (.ok x : Except Fault PyVal) ∧ w.at l = (.ok y : Except Fault PyVal) ∧ pyEq x y = true

/-- `_require(v[k] == w[l], code)` -/
def requireSame (v : PyVal) (k : String) (w : PyVal) (l : String) (code : String) : Except Fault Unit := do
  let x ← v.at k
  let y ← w.at l
  require (pyEq x y) code

theorem require_eq_ok_iff {c : Prop} [Decidable c] {code : String} {u : Unit} : require c code = .ok u ↔ c := by
  unfold require
  split
  · next h => exact iff_of_true rfl h
  · next h => exact iff_of_false (by simp [hold]) h

/-- When two fields pass as equal. -/
theorem requireSame_eq_ok_iff {v w : PyVal} {k l code : String} {u : Unit} :
    requireSame v k w l code = .ok u ↔ Same v k w l := by
  simp only [requireSame, bind_eq_ok_iff, require_eq_ok_iff, Same]
  constructor
  · rintro ⟨x, hx, y, hy, heq⟩
    exact ⟨x, y, hx, hy, heq⟩
  · rintro ⟨x, y, hx, hy, heq⟩
    exact ⟨x, hx, y, hy, heq⟩

/-- A check in front of others. -/
theorem check_bind_eq_ok_iff {α : Type} {x : Except Fault Unit} {y : Except Fault α} {a : α} :
    (x >>= fun _ => y) = .ok a ↔ x = .ok () ∧ y = .ok a := by
  rw [bind_eq_ok_iff]
  exact ⟨fun ⟨_, hx, hy⟩ => ⟨hx, hy⟩, fun ⟨hx, hy⟩ => ⟨(), hx, hy⟩⟩

/-- The loop over the fields of a binding. -/
def requireAllSame (v w : PyVal) (code : String) : List String → Except Fault Unit
  | [] => .ok ()
  | k :: keys => do
      requireSame v k w k code
      requireAllSame v w code keys

/-! ### Hashes -/

mutual

/-- `_normalize_for_canonical_json` -/
def normalize (lib : Library) : PyVal → Except Fault PyVal
  | .float x => hold (if x.isFinite then "HOLD_FLOAT_FORBIDDEN" else "HOLD_NON_FINITE_NUMBER")
  | .str s => .ok (.str (lib.nfc s))
  | .list xs => do
      let ys ← normalizeList lib xs
      pure (.list ys)
  | .dict items => do
      let ys ← normalizeItems lib [] items
      pure (.dict ys)
  | .other => hold "HOLD_UNSUPPORTED_CANONICAL_JSON_TYPE"
  | v => .ok v

/-- The elements of a list. -/
def normalizeList (lib : Library) : List PyVal → Except Fault (List PyVal)
  | [] => .ok []
  | x :: xs => do
      let y ← normalize lib x
      let ys ← normalizeList lib xs
      pure (y :: ys)

/-- The items of a dictionary, added to those that are normalised already. -/
def normalizeItems (lib : Library) (done : Items) : Items → Except Fault Items
  | [] => .ok done
  | (k, v) :: items => do
      let w ← normalize lib v
      let name := match k with
        | .str s => s
        | .other => lib.keyText
      normalizeItems lib (setKey (lib.nfc name) w done) items

end

/-- `sha256_json` -/
def sha256Json (lib : Library) (v : PyVal) : Except Fault PyStr := do
  let normalized ← normalize lib v
  let bytes ← encodeUtf8 (PyJson.write PyJson.compact normalized)
  pure (Sha256.hexdigest bytes)

/-- The fields of the basis of an action's hash, by the fields of the action, but for its scopes. -/
def actionBasis : List (String × String) := [
  ("action_class", "action_class"), ("action_hash_algorithm", "action_hash_algorithm"),
  ("action_ref", "action_ref"), ("action_type", "action_code"),
  ("amount_currency_hash", "amount_currency_hash"),
  ("amount_currency_hash_scope", "amount_currency_hash_scope"), ("effect_class", "effect_class"),
  ("member_display_hash", "member_display_hash"), ("parameters_sha256", "parameters_sha256"),
  ("purpose_ref", "purpose_ref"), ("resource_refs", "resource_refs"),
  ("revocation_epoch", "revocation_epoch"), ("root_generation", "root_generation"),
  ("root_packet_ref", "root_packet_ref"), ("root_ref", "identity_root_ref"), ("scene_ref", "scene_ref"),
  ("schema_version", "schema_version"), ("session_ref", "session_ref"),
  ("subject_binding_ref", "subject_binding_ref"), ("target_ref", "target_ref"),
  ("terms_version", "terms_version")]

/-- `action_binding[k]`, where a missing key is held. -/
def basisField (binding : PyVal) (k : String) : Except Fault PyVal :=
  match (binding.at k : Except Fault PyVal) with
  | .error (.builtin .keyError) => hold "HOLD_ACTION_HASH_BASIS_INCOMPLETE"
  | r => r

/-- A field of the basis. -/
def basisItem (binding : PyVal) (p : String × String) : Except Fault (PyStr × PyVal) := do
  let v ← basisField binding p.2
  pure (cp p.1, v)

/-- The elements of a list of texts. -/
def textsOf : List PyVal → Option (List PyStr)
  | [] => some []
  | .str s :: xs => (textsOf xs).map fun ss => s :: ss
  | _ => none

/-- `action_hash_basis` -/
def actionHashBasis (binding : PyVal) : Except Fault PyVal := do
  let scopes ← basisField binding "scope_refs"
  match scopes with
  | .list xs =>
      match textsOf xs with
      | some texts => do
          let fields ← actionBasis.mapM (basisItem binding)
          let sorted := (texts.dedup.mergeSort fun a b => a ≤ b).map .str
          pure (.dict (setKey (cp "scope_refs") (.list sorted)
            (fields.foldl (fun items p => setKey p.1 p.2 items) [])))
      | none => hold "HOLD_ACTION_SCOPE_REFS_INVALID"
  | _ => hold "HOLD_ACTION_SCOPE_REFS_INVALID"

/-- `action_hash` -/
def actionHash (lib : Library) (binding : PyVal) : Except Fault PyStr := do
  let basis ← actionHashBasis binding
  sha256Json lib basis

/-- `receipt_hash` -/
def receiptHash (lib : Library) (receipt : PyVal) : Except Fault PyStr :=
  match receipt with
  | .dict items =>
      if getItem items (cp "receipt_sha256") = none then hold "HOLD_RECEIPT_HASH_FIELD_MISSING"
      else sha256Json lib (.dict (eraseKey (cp "receipt_sha256") items))
  | _ => .error (.builtin .typeError)

/-- `content_hash` -/
def contentHash (lib : Library) (packet : PyVal) : Except Fault PyStr :=
  match packet with
  | .dict items =>
      match getItem items (cp "integrity") with
      | some (.dict integrity) =>
          if getItem integrity (cp "content_sha256") = none then hold "HOLD_CONTENT_HASH_FIELD_MISSING"
          else sha256Json lib (.dict (setKey (cp "integrity")
            (.dict (eraseKey (cp "content_sha256") integrity)) items))
      | _ => hold "HOLD_CONTENT_HASH_FIELD_MISSING"
  | _ => hold "HOLD_CONTENT_HASH_FIELD_MISSING"

/-- `_require(v[section][field] == sha, code)`, where the hash is computed in between. -/
def requireHash (recorded : Except Fault PyVal) (computed : Except Fault PyStr) (code : String) :
    Except Fault Unit := do
  let recorded ← recorded
  let sha ← computed
  require (pyEq recorded (.str sha)) code

/-- A packet that records its hash passes. -/
theorem requireHash_self {recorded : Except Fault PyVal} {computed : Except Fault PyStr} {sha : PyStr}
    (hrecorded : recorded = .ok (.str sha)) (hcomputed : computed = .ok sha) (code : String) :
    requireHash recorded computed code = .ok () := by
  rw [requireHash, hrecorded, hcomputed, ok_bind, ok_bind]
  exact require_eq_ok_iff.2 (pyEq_str.2 rfl)

/-- `packet["integrity"]["content_sha256"]` -/
def recordedContent (packet : PyVal) : Except Fault PyVal := do
  let integrity ← packet.at "integrity"
  integrity.at "content_sha256"

/-! ### Plain text -/

/-- `FORBIDDEN_PACKET_KEYS` -/
def forbiddenPacketKeys : List String := ["name", "member_name", "display_name", "email", "phone", "mobile",
  "address", "provider_subject", "raw_provider_subject", "provider_profile", "access_token",
  "refresh_token", "password", "secret", "credential", "private_key", "raw_key", "amount", "currency"]

/-- `EMAIL_VALUE_RE.fullmatch(s)` -/
def isEmail (s : PyStr) : Bool :=
  let front := s.takeWhile fun c => c ≠ 64
  let domain := (s.dropWhile fun c => c ≠ 64).drop 1
  decide (front ≠ [] ∧ 64 ∈ s ∧ 64 ∉ domain) && s.all (fun c => !isSpace c) &&
    (domain.drop 1).dropLast.contains 46

/-- The characters between the words of a header. -/
def isHeaderChar (c : ℕ) : Bool := (65 ≤ c && c ≤ 90) || c = 32

/-- A text starts with the header of a private key. -/
def startsPrivateKey (s : PyStr) : Bool :=
  let start := cp "-----BEGIN "
  let rest := s.drop start.length
  start.isPrefixOf s && (cp "PRIVATE KEY").isSuffixOf (rest.takeWhile isHeaderChar) &&
    (cp "-----").isPrefixOf (rest.dropWhile isHeaderChar)

/-- `PRIVATE_KEY_VALUE_RE.search(s)` -/
def hasPrivateKey (s : PyStr) : Bool := s.tails.any startsPrivateKey

/-- `raise ContractHold("HOLD_MEMBER_PLAINTEXT_BOUNDARY:" + ".".join(path))` -/
def plaintext (path : List PyStr) : Except Fault Unit :=
  .error (.own (.hold "HOLD_MEMBER_PLAINTEXT_BOUNDARY" ((cp ".").intercalate path)))

mutual

/-- `_walk_forbidden` -/
def walkForbidden (path : List PyStr) : PyVal → Except Fault Unit
  | .dict items => walkItems path items
  | .list xs => walkList path 0 xs
  | .str s => if isEmail s || hasPrivateKey s then plaintext path else .ok ()
  | _ => .ok ()

/-- The items of a dictionary. -/
def walkItems (path : List PyStr) : Items → Except Fault Unit
  | [] => .ok ()
  | (.other, _) :: _ => .error (.builtin .attributeError)
  | (.str k, item) :: items => do
      if forbiddenPacketKeys.any fun f => cp f = lowerAscii k then plaintext (path ++ [k])
      else .ok ()
      walkForbidden (path ++ [k]) item
      walkItems path items

/-- The elements of a list, from an index on. -/
def walkList (path : List PyStr) (i : ℕ) : List PyVal → Except Fault Unit
  | [] => .ok ()
  | x :: xs => do
      walkForbidden (path ++ [intText i]) x
      walkList path (i + 1) xs

end

/-! ### Values that can be hashed -/

/-- A text without a space and an at sign that is no key of plain text and can be encoded. -/
def isProperText (s : PyStr) : Bool :=
  (s.all fun c => c ≠ 32 && c ≠ 64 && !decide (IsSurrogate c)) &&
    forbiddenPacketKeys.all fun f => !decide (codes f = lowerAscii s)

mutual

/-- Nothing in a value is in plain text, and no number in it is a float. -/
def isProper : PyVal → Bool
  | .str s => isProperText s
  | .list xs => isProperList xs
  | .dict items => isProperItems items
  | .float _ => false
  | .other => false
  | _ => true

/-- The elements of a list. -/
def isProperList : List PyVal → Bool
  | [] => true
  | x :: xs => isProper x && isProperList xs

/-- The items of a dictionary. -/
def isProperItems : Items → Bool
  | [] => true
  | (.str k, v) :: items => isProperText k && isProper v && isProperItems items
  | (.other, _) :: _ => false

end

attribute [local grind =] isProper isProperList isProperItems

theorem chars_proper {s : PyStr} (h : isProperText s = true) : ∀ c ∈ s, c ≠ 32 ∧ c ≠ 64 ∧ ¬IsSurrogate c := by
  intro c hc
  have hall := List.all_eq_true.1 (Bool.and_eq_true_iff.1 h).1 c hc
  simpa [and_assoc] using hall

theorem encodable_proper {s : PyStr} (h : isProperText s = true) : Encodable s :=
  fun c hc => (chars_proper h c hc).2.2

/-- A proper text is no address. -/
theorem not_isEmail_proper {s : PyStr} (h : isProperText s = true) : isEmail s = false := by
  have hat : 64 ∉ s := fun hmem => (chars_proper h 64 hmem).2.1 rfl
  simp [isEmail, hat]

/-- A proper text holds no private key: the header of one has a space. -/
theorem not_hasPrivateKey_proper {s : PyStr} (h : isProperText s = true) : hasPrivateKey s = false := by
  refine Bool.eq_false_iff.2 fun hany => ?_
  obtain ⟨t, ht, hstart⟩ := List.any_eq_true.1 hany
  have hprefix : (cp "-----BEGIN ").isPrefixOf t = true := by
    simp only [startsPrivateKey, Bool.and_eq_true] at hstart
    exact hstart.1.1
  have hspace : 32 ∈ t := (List.isPrefixOf_iff_prefix.1 hprefix).subset (by decide)
  exact (chars_proper h 32 (((List.mem_tails _ _).1 ht).subset hspace)).1 rfl

/-- The digits of a hash are proper. -/
theorem isProperText_of_isHex64 {s : PyStr} (h : Sha256.isHex64 s = true) : isProperText s = true := by
  obtain ⟨hlength, hdigits⟩ := Bool.and_eq_true_iff.1 h
  have hchars : (s.all fun c => c ≠ 32 && c ≠ 64 && !decide (IsSurrogate c)) = true := by
    refine List.all_eq_true.2 fun c hc => ?_
    have hrange : (48 ≤ c ∧ c ≤ 57) ∨ (97 ≤ c ∧ c ≤ 102) := by simpa using List.all_eq_true.1 hdigits c hc
    have hsurrogate : ¬IsSurrogate c := by
      unfold IsSurrogate
      omega
    have hspace : c ≠ 32 := by omega
    have hat : c ≠ 64 := by omega
    simp [hsurrogate, hspace, hat]
  have hforbidden : (forbiddenPacketKeys.all fun f => !decide (codes f = lowerAscii s)) = true := by
    refine List.all_eq_true.2 fun f hf => ?_
    have hne : (codes f).length ≠ 64 := (by decide : ∀ f ∈ forbiddenPacketKeys, (codes f).length ≠ 64) f hf
    have hlower : (lowerAscii s).length = 64 := by simpa [lowerAscii] using hlength
    simpa using fun heq : codes f = lowerAscii s => hne (by rw [heq, hlower])
  rw [isProperText, hchars, hforbidden]
  rfl

theorem isProper_obj {l : List (String × PyVal)} :
    isProper (obj l) = l.all fun p => isProperText (cp p.1) && isProper p.2 := by
  rw [obj, isProper]
  induction l with
  | nil => rfl
  | cons p l ih =>
      rw [List.all_cons, ← ih]
      rfl

theorem isProper_lit (s : String) : isProper (lit s) = isProperText (codes s) := by rw [lit, isProper, cp_eq_codes]

theorem isProper_list_iff {xs : List PyVal} : isProper (.list xs) = true ↔ ∀ x ∈ xs, isProper x = true := by
  rw [isProper]
  induction xs with
  | nil => simp [isProperList]
  | cons x xs ih => rw [isProperList, Bool.and_eq_true, ih, List.forall_mem_cons]

theorem isProper_dict_iff {items : Items} : isProper (.dict items) = true ↔
    ∀ p ∈ items, ∃ k, p.1 = .str k ∧ isProperText k = true ∧ isProper p.2 = true := by
  rw [isProper]
  induction items with
  | nil => simp [isProperItems]
  | cons p items ih =>
      obtain ⟨k, v⟩ := p
      rw [List.forall_mem_cons, ← ih]
      cases k with
      | str k => simp [isProperItems, and_assoc]
      | other => simp [isProperItems]

/-- What is in a proper value is proper. -/
theorem isProper_of_at {v w : PyVal} {k : String} (h : isProper v = true)
    (hat : v.at k = (.ok w : Except Fault PyVal)) : isProper w = true := by
  cases v with
  | dict items =>
      rw [PyVal.at] at hat
      cases hget : getItem items (cp k) with
      | none => rw [hget] at hat; cases hat
      | some u =>
          rw [hget] at hat
          obtain rfl := Except.ok.inj hat
          obtain ⟨p, hp, rfl⟩ := mem_of_getItem hget
          obtain ⟨-, -, -, hv⟩ := isProper_dict_iff.1 h p hp
          exact hv
  | _ => cases hat

/-- Setting a key keeps a dictionary proper. -/
theorem isProper_setKey {k : PyStr} {v : PyVal} {items : Items} (h : isProper (.dict items) = true)
    (hk : isProperText k = true) (hv : isProper v = true) : isProper (.dict (setKey k v items)) = true := by
  refine isProper_dict_iff.2 fun p hp => ?_
  rcases mem_setKey hp with rfl | hp
  · exact ⟨k, rfl, hk, hv⟩
  · exact isProper_dict_iff.1 h p hp

/-- Setting several keys keeps a dictionary proper. -/
theorem isProper_foldl {changes : List (PyStr × PyVal)} {items : Items}
    (hchanges : ∀ p ∈ changes, isProperText p.1 = true ∧ isProper p.2 = true)
    (h : isProper (.dict items) = true) :
    isProper (.dict (changes.foldl (fun items p => setKey p.1 p.2 items) items)) = true := by
  induction changes generalizing items with
  | nil => exact h
  | cons p changes ih =>
      obtain ⟨⟨hk, hv⟩, hrest⟩ := List.forall_mem_cons.1 hchanges
      exact ih hrest (isProper_setKey h hk hv)

/-- Nothing is found in a proper value. -/
theorem walkForbidden_proper {v : PyVal} (h : isProper v = true) (path : List PyStr) :
    walkForbidden path v = .ok () := by
  induction v using PyVal.induct generalizing path with
  | str s =>
      rw [isProper] at h
      simp [walkForbidden, not_isEmail_proper h, not_hasPrivateKey_proper h]
  | list xs ih =>
      rw [isProper] at h
      rw [walkForbidden]
      -- the loop over the elements, from any index on
      suffices hloop : ∀ i, walkList path i xs = .ok () from hloop 0
      induction xs with
      | nil => exact fun i => rfl
      | cons x xs ihxs =>
          intro i
          obtain ⟨hx, hxs⟩ := Bool.and_eq_true_iff.1 h
          rw [walkList, ih x (by simp) hx, ok_bind]
          exact ihxs (fun y hy => ih y (by simp [hy])) hxs (i + 1)
  | dict items ih =>
      rw [isProper] at h
      rw [walkForbidden]
      induction items with
      | nil => rfl
      | cons p items ihitems =>
          obtain ⟨k, v⟩ := p
          cases k with
          | other => cases h
          | str k =>
              simp only [isProperItems, Bool.and_eq_true] at h
              have hkey : (forbiddenPacketKeys.any fun f => cp f = lowerAscii k) = false := by
                refine List.any_eq_false.2 fun f hf => ?_
                rw [cp_eq_codes]
                simpa using List.all_eq_true.1 (Bool.and_eq_true_iff.1 h.1.1).2 f hf
              rw [walkItems, hkey, if_neg (by simp), ok_bind, ih (.str k, v) (by simp) h.1.2, ok_bind]
              exact ihitems (fun q hq => ih q (by simp [hq])) h.2
  | _ => rfl

/-- A proper value has a normal form that can be written. -/
theorem normalize_proper {lib : Library} (hnfc : ∀ s, Py.Encodable s → Py.Encodable (lib.nfc s)) {v : PyVal}
    (h : isProper v = true) : ∃ w, normalize lib v = .ok w ∧ PyJson.Plain Encodable w := by
  induction v using PyVal.induct with
  | none => exact ⟨_, rfl, .none⟩
  | bool b => exact ⟨_, rfl, .bool b⟩
  | int n => exact ⟨_, rfl, .int n⟩
  | float x => cases h
  | other => cases h
  | str s => exact ⟨_, rfl, .str _ (hnfc s (encodable_proper h))⟩
  | list xs ih =>
      rw [isProper] at h
      suffices hloop : ∃ ys, normalizeList lib xs = .ok ys ∧ ∀ y ∈ ys, PyJson.Plain Encodable y by
        obtain ⟨ys, hys, hplain⟩ := hloop
        exact ⟨.list ys, by rw [normalize, hys]; rfl, .list ys hplain⟩
      induction xs with
      | nil => exact ⟨[], rfl, by simp⟩
      | cons x xs ihxs =>
          obtain ⟨hx, hxs⟩ := Bool.and_eq_true_iff.1 h
          obtain ⟨y, hy, hplainy⟩ := ih x (by simp) hx
          obtain ⟨ys, hys, hplain⟩ := ihxs (fun z hz => ih z (by simp [hz])) hxs
          exact ⟨y :: ys, by rw [normalizeList, hy, ok_bind, hys]; rfl, List.forall_mem_cons.2 ⟨hplainy, hplain⟩⟩
  | dict items ih =>
      rw [isProper] at h
      suffices hloop : ∀ done, PyJson.Plain Encodable (.dict done) →
          ∃ ys, normalizeItems lib done items = .ok ys ∧ PyJson.Plain Encodable (.dict ys) by
        obtain ⟨ys, hys, hplain⟩ := hloop [] (.dict _ (by simp) (by simp))
        exact ⟨.dict ys, by rw [normalize, hys]; rfl, hplain⟩
      induction items with
      | nil => exact fun done hdone => ⟨done, rfl, hdone⟩
      | cons p items ihitems =>
          obtain ⟨k, v⟩ := p
          cases k with
          | other => cases h
          | str k =>
              simp only [isProperItems, Bool.and_eq_true] at h
              intro done hdone
              obtain ⟨w, hw, hplainw⟩ := ih (.str k, v) (by simp) h.1.2
              rw [normalizeItems, hw, ok_bind]
              exact ihitems (fun q hq => ih q (by simp [hq])) h.2 _
                (hdone.setKey (hnfc k (encodable_proper h.1.1)) hplainw)

/-- A proper value has a hash. -/
theorem sha256Json_proper {lib : Library} (hnfc : ∀ s, Py.Encodable s → Py.Encodable (lib.nfc s)) {v : PyVal}
    (h : isProper v = true) : ∃ sha, sha256Json lib v = .ok sha ∧ Sha256.isHex64 sha = true := by
  obtain ⟨w, hw, hplain⟩ := normalize_proper hnfc h
  rw [sha256Json, hw, ok_bind, encodeUtf8_ok (hplain.encodable_write (encodable_cp _) (encodable_cp _))]
  exact ⟨_, rfl, Sha256.isHex64_hexdigest _⟩

theorem eq_map_of_textsOf {xs : List PyVal} {texts : List PyStr} (h : textsOf xs = some texts) :
    xs = texts.map .str := by
  induction xs generalizing texts with
  | nil =>
      obtain rfl := Option.some.inj h
      rfl
  | cons x xs ih =>
      cases x with
      | str s =>
          obtain ⟨rest, hrest, rfl⟩ := Option.map_eq_some_iff.1 h
          rw [List.map_cons, ih hrest]
      | _ => cases h

theorem isProper_of_basisField {binding v : PyVal} {k : String} (h : isProper binding = true)
    (hv : basisField binding k = .ok v) : isProper v = true := by
  unfold basisField at hv
  split at hv
  · cases hv
  · exact isProper_of_at h hv

theorem isProperText_actionBasis : isProperText (cp "scope_refs") = true ∧
    ∀ p ∈ actionBasis, isProperText (cp p.1) = true := by
  simp only [actionBasis, List.forall_mem_cons, cp_eq_codes]
  decide +kernel

/-- The basis of a proper action is proper. -/
theorem isProper_actionHashBasis {binding basis : PyVal} (h : isProper binding = true)
    (hbasis : actionHashBasis binding = .ok basis) : isProper basis = true := by
  obtain ⟨scopes, hscopes, hbasis⟩ := bind_eq_ok_iff.1 hbasis
  have hproper := isProper_of_basisField h hscopes
  split at hbasis
  · next xs =>
      split at hbasis
      · next texts htexts =>
          obtain ⟨items, hitems, hbasis⟩ := bind_eq_ok_iff.1 hbasis
          obtain rfl := pure_eq_ok_iff.1 hbasis
          have hfields : ∀ p ∈ items, isProperText p.1 = true ∧ isProper p.2 = true := by
            intro p hp
            obtain ⟨q, hq, hitem⟩ := (mem_of_mapM hitems).1 hp
            obtain ⟨v, hv, hpair⟩ := bind_eq_ok_iff.1 hitem
            obtain rfl := pure_eq_ok_iff.1 hpair
            exact ⟨isProperText_actionBasis.2 q hq, isProper_of_basisField h hv⟩
          refine isProper_setKey (isProper_foldl hfields rfl) isProperText_actionBasis.1 ?_
          refine isProper_list_iff.2 fun x hx => isProper_list_iff.1 hproper x ?_
          obtain ⟨s, hs, rfl⟩ := List.mem_map.1 hx
          rw [eq_map_of_textsOf htexts]
          exact List.mem_map_of_mem (List.mem_dedup.1 (List.mem_mergeSort.1 hs))
      · cases hbasis
  · cases hbasis

/-- The hash of a packet does not depend on the one it records. -/
theorem contentHash_insert {lib : Library} {front back inner outer : List (String × PyVal)} (recorded : PyVal)
    (hfront : ∀ p ∈ front, (key p.1).lt (key "integrity")) (hinner : ∀ p ∈ inner, p.1 ≠ "content_sha256")
    (houter : ∀ p ∈ outer, p.1 ≠ "content_sha256") :
    contentHash lib (obj (front ++
        ("integrity", obj (inner ++ ("content_sha256", recorded) :: outer)) :: back)) =
      sha256Json lib (obj (front ++ ("integrity", obj (inner ++ outer)) :: back)) := by
  have hne : ∀ p ∈ front, p.1 ≠ "integrity" := fun p hp heq => PyKey.lt_irrefl _ (heq ▸ hfront p hp)
  rw [obj, contentHash, getItem_insert _ hne]
  simp only [obj]
  rw [getItem_insert _ hinner, if_neg (by simp), eraseKey_insert _ hinner houter, setKey_insert _ _ hfront]

/-- The hash of an action does not depend on the one it records. -/
theorem actionHash_insert {lib : Library} {front back : List (String × PyVal)} (recorded : PyVal) :
    actionHash lib (obj (front ++ ("action_hash", recorded) :: back)) = actionHash lib (obj (front ++ back)) := by
  have hfield : ∀ k, k ≠ "action_hash" → basisField (obj (front ++ ("action_hash", recorded) :: back)) k =
      basisField (obj (front ++ back)) k := by
    intro k hk
    have hat : (obj (front ++ ("action_hash", recorded) :: back)).at k =
        ((obj (front ++ back)).at k : Except Fault PyVal) := by
      rw [obj, obj, PyVal.at, PyVal.at, getItem_insert_of_ne _ hk]
    rw [basisField, basisField, hat]
  have hloop : ∀ l : List (String × String), (∀ p ∈ l, p.2 ≠ "action_hash") →
      l.mapM (basisItem (obj (front ++ ("action_hash", recorded) :: back))) =
        l.mapM (basisItem (obj (front ++ back))) := by
    intro l hl
    induction l with
    | nil => rfl
    | cons p l ih =>
        rw [List.mapM_cons, List.mapM_cons, basisItem, basisItem, hfield p.2 (hl p (by simp)), ih fun q hq => hl q (by simp [hq])]
  rw [actionHash, actionHash, actionHashBasis, actionHashBasis, hfield "scope_refs" (by decide),
    hloop actionBasis (by decide)]

/-- `validate_instance` -/
def validateInstance (lib : Library) (schema : String) (instance_ : PyVal) : Except Fault Unit :=
  if lib.conforms schema instance_ then .ok () else .error (.own .validationError)

/-! ### Times -/

/-- `_parse_zulu` -/
def parseZulu (lib : Library) (v : PyVal) : Except Fault ℤ :=
  match v with
  | .str s =>
      if s.getLast? ≠ some 90 then hold "HOLD_PACKET_TIME_INVALID"
      else match lib.fromIsoformat (s.dropLast ++ cp "+00:00") with
        | some t => .ok t
        | none => hold "HOLD_PACKET_TIME_INVALID"
  | _ => .error (.builtin .attributeError)

/-! ### The root -/

/-- A snapshot that has to be given. -/
def evidenced (snapshot : Option PyVal) (code : String) : Except Fault PyVal :=
  match snapshot with
  | some v => .ok v
  | none => hold code

/-- `_require(v.get(k) == w[l], code)` -/
def requireGet (v : PyVal) (k : String) (w : PyVal) (l : String) (code : String) : Except Fault Unit := do
  let x ← get v k
  let y ← w.at l
  require (pyEq x y) code

/-- The loop over the fields of a registry's entry. -/
def requireAllGet (v w : PyVal) (code : String) : List String → Except Fault Unit
  | [] => .ok ()
  | k :: keys => do
      requireGet v k w k code
      requireAllGet v w code keys

/-- `v is True` -/
def isTrue : PyVal → Bool
  | .bool b => b
  | _ => false

/-- An entry of the registry is the current one of a subject. -/
def isCurrentEntry (root item : PyVal) : Except Fault Bool := do
  let current ← get item "current"
  if !isTrue current then pure false else do
  let subject ← get item "subject_binding_ref"
  let bound ← root.at "subject_binding_ref"
  pure (pyEq subject bound)

/-- `[x for x in xs if p(x)]` -/
def filterM (p : PyVal → Except Fault Bool) : List PyVal → Except Fault (List PyVal)
  | [] => .ok []
  | x :: xs => do
      let keep ← p x
      let rest ← filterM p xs
      pure (if keep then x :: rest else rest)

/-- The entry of a root in its registry. -/
def rootEntry (root registry : PyVal) : Except Fault PyVal := do
  let entries ← getOr registry "entries" (.list [])
  let entries ← elementsOf entries
  let entries ← filterM (isCurrentEntry root) entries
  match entries with
  | [entry] => pure entry
  | _ => hold "HOLD_ROOT_UNIQUENESS_NOT_EVIDENCED"

/-- `proofs.get(v[k])`, which has to be a dictionary. -/
def proofOf (registry v : PyVal) (k : String) (code : String) : Except Fault PyVal := do
  let proofs ← getOr registry "proofs" (obj [])
  let proof ← getAt proofs (v.at k)
  match proof with
  | .dict items => pure (.dict items)
  | _ => hold code

/-- `verify_root` -/
def verifyRoot (lib : Library) (root : PyVal) (rootRegistry proofRegistry : Option PyVal) :
    Except Fault Unit := do
  validateInstance lib "root" root
  walkForbidden [] root
  requireHash (recordedContent root) (contentHash lib root) "HOLD_ROOT_CONTENT_HASH_MISMATCH"
  let state ← root.at "root_state"
  require (pyEq state (lit "ACTIVE_CANDIDATE")) "HOLD_ROOT_NOT_CURRENT_ACTIVE_CANDIDATE"
  let registry ← evidenced rootRegistry "HOLD_ROOT_REGISTRY_NOT_EVIDENCED"
  requireGet registry "registry_ref" root "identity_registry_ref" "HOLD_ROOT_REGISTRY_REF_MISMATCH"
  let entry ← rootEntry root registry
  requireAllGet entry root "HOLD_ROOT_REGISTRY_BINDING_MISMATCH"
    ["identity_root_ref", "root_packet_ref", "root_generation", "revocation_epoch"]
  let proofs ← evidenced proofRegistry "HOLD_ROOT_PROOF_NOT_EVIDENCED"
  requireGet proofs "registry_ref" root "trusted_issuer_registry_ref" "HOLD_ROOT_ISSUER_REGISTRY_MISMATCH"
  let proof ← proofOf proofs root "member_verification_proof_ref" "HOLD_ROOT_PROOF_INVALID"
  requireAllGet proof root "HOLD_ROOT_PROOF_INVALID"
    ["identity_root_ref", "root_packet_ref", "subject_binding_ref", "root_generation",
      "member_verification_key_commitment", "issuer_attestation_ref"]
  let verification ← get proof "verification_state"
  require (pyEq verification (lit "VERIFIED_CANDIDATE_EVIDENCE")) "HOLD_ROOT_PROOF_INVALID"

end MemberIdentity
