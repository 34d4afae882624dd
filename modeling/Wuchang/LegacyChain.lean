/-
**The legacy chain of the evidence ledger.**

The records of the legacy ledger are hashed over the texts of five fields, written one behind the other
without a separator.  The last of the five, the hash of the record before, has 64 characters; where the
others begin and end is not written down.  So the last hash of a chain determines, for every record, what
the four texts are together, and the four texts themselves only together with their lengths.

What `str` makes of a value that is no text is a parameter.

Main definitions:

* `EvidenceLedger.calculateLegacyHashV1`, `EvidenceLedger.verifyLegacyChain` — the hash of a record, and the
  loop over the records.

Main results:

* `EvidenceLedger.legacyContent_of_head` — two chains with one last hash have the same text in every record;
* `EvidenceLedger.legacyChain_iff` — they have the same fields if and only if these are cut at the same places.
-/

import Wuchang.EvidenceLedger
import Wuchang.PyBytes

set_option relaxedAutoImplicit false
set_option autoImplicit false

namespace EvidenceLedger

open Py

/-! ### The loop -/

/-- `GENESIS_HASH` -/
def genesisHash : PyStr := List.replicate 64 48

/-- The fields that are hashed, but `previous_hash`. -/
def contentFields : List String := ["timestamp", "event_type", "content", "actor"]

section Verify

variable (str : PyVal → PyStr)

/-- The texts of the fields of a record, one behind the other. -/
def legacyPayload (record : Record) : Except Fault PyStr := do
  let texts ← (contentFields ++ ["previous_hash"]).mapM fun field => do
    let v ← (PyVal.dict record.items).at field
    pure (str v)
  pure texts.flatten

/-- `calculate_legacy_hash_v1` -/
def calculateLegacyHashV1 (record : Record) : Except Fault PyStr := do
  let text ← legacyPayload str record
  let payload ← encodeUtf8 text
  pure (Sha256.hexdigest payload)

/-- The loop of `verify_legacy_chain`, from one record on. -/
def verifyLegacyFrom (expectedIndex : ℕ) (previous : PyVal) : List Record → Except Fault Verdict
  | [] => .ok chainValid
  | record :: records =>
      if ¬pyEq (record.get "index") (.int expectedIndex) then .ok (false, "LEGACY_INDEX_DIVERGENCE")
      else if ¬pyEq (record.get "previous_hash") previous then
        .ok (false, "LEGACY_PREVIOUS_HASH_DIVERGENCE")
      else if ¬pyEq ((getItem record.items (cp "hash_profile")).getD (lit "LEGACY_HASH_V1"))
          (lit "LEGACY_HASH_V1") then .ok (false, "LEGACY_HASH_PROFILE_UNSUPPORTED")
      else do
        let hash ← calculateLegacyHashV1 str record
        if ¬pyEq (record.get "hash") (.str hash) then pure (false, "LEGACY_HASH_DIVERGENCE")
        else do
          let previous ← (PyVal.dict record.items).at "hash"
          verifyLegacyFrom (expectedIndex + 1) previous records

/-- `verify_legacy_chain`, on the records of the file. -/
def verifyLegacyChain (records : List Record) : Except Fault Verdict :=
  verifyLegacyFrom str 1 (.str genesisHash) records

/-- The text of a field. -/
def Record.text (record : Record) (field : String) : PyStr := str (record.get field)

/-- The texts of the fields but `previous_hash`, one behind the other. -/
def Record.content (record : Record) : PyStr := (contentFields.map (record.text str)).flatten

/-- Two records with one hash have one text. -/
def NoLegacyCollision (xs ys : List Record) : Prop :=
  ∀ r ∈ xs, ∀ q ∈ ys, ∀ text text' : PyStr, legacyPayload str r = .ok text → legacyPayload str q = .ok text' →
    Sha256.hexdigest (text.flatMap utf8Char) = Sha256.hexdigest (text'.flatMap utf8Char) →
      text.flatMap utf8Char = text'.flatMap utf8Char

/-- The texts that are hashed are Python strings. -/
def CodePoints (record : Record) : Prop :=
  ∀ field ∈ contentFields ++ ["previous_hash"], IsText (record.text str field)

end Verify

/-! ### What is accepted -/

section Accepted

variable {str : PyVal → PyStr} {record : Record} {records : List Record}

theorem of_legacyPayload {text : PyStr} (h : legacyPayload str record = .ok text) :
    text = record.content str ++ record.text str "previous_hash" := by
  simp only [legacyPayload, contentFields, List.cons_append, List.nil_append, List.mapM_cons, List.mapM_nil,
    bind_eq_ok_iff, pure_eq_ok_iff, exists_eq_left'] at h
  obtain ⟨texts, ⟨v₁, ⟨w₁, h₁, rfl⟩, t₁, ⟨v₂, ⟨w₂, h₂, rfl⟩, t₂, ⟨v₃, ⟨w₃, h₃, rfl⟩, t₃, ⟨v₄, ⟨w₄, h₄, rfl⟩,
    t₄, ⟨v₅, ⟨w₅, h₅, rfl⟩, rfl⟩, rfl⟩, rfl⟩, rfl⟩, rfl⟩, rfl⟩ := h
  have hget : ∀ {k : String} {w : PyVal}, (PyVal.dict record.items).at k = (.ok w : Except Fault PyVal) →
      str w = record.text str k := fun hk => by rw [Record.text, Record.get, get_of_at hk]
  rw [hget h₁, hget h₂, hget h₃, hget h₄, hget h₅]
  simp [Record.content, contentFields]

/-- A record that is accepted: it is linked, and it has its hash. -/
structure LegacyAccepted (str : PyVal → PyStr) (previous : PyVal) (record : Record) (text : PyStr) :
    Prop where
  linked : pyEq (record.get "previous_hash") previous = true
  payload : legacyPayload str record = .ok text
  encodable : Encodable text
  hashed : record.get "hash" = .str (Sha256.hexdigest (text.flatMap utf8Char))

theorem of_verifyLegacyFrom_cons {i : ℕ} {previous : PyVal}
    (h : verifyLegacyFrom str i previous (record :: records) = .ok chainValid) :
    ∃ text, LegacyAccepted str previous record text ∧
      verifyLegacyFrom str (i + 1) (record.get "hash") records = .ok chainValid := by
  have hdivergence : ∀ reason, (.ok (false, reason) : Except Fault Verdict) ≠ .ok chainValid := by
    simp [chainValid]
  rw [verifyLegacyFrom] at h
  by_cases hindex : ¬pyEq (record.get "index") (.int i)
  · exact absurd (if_pos hindex ▸ h) (hdivergence _)
  rw [if_neg hindex] at h
  by_cases hprevious : ¬pyEq (record.get "previous_hash") previous
  · exact absurd (if_pos hprevious ▸ h) (hdivergence _)
  rw [if_neg hprevious] at h
  by_cases hprofile : ¬pyEq ((getItem record.items (cp "hash_profile")).getD (lit "LEGACY_HASH_V1"))
      (lit "LEGACY_HASH_V1")
  · exact absurd (if_pos hprofile ▸ h) (hdivergence _)
  rw [if_neg hprofile] at h
  obtain ⟨hash, hcalculated, h⟩ := bind_eq_ok_iff.1 h
  by_cases hhash : ¬pyEq (record.get "hash") (.str hash)
  · exact absurd (if_pos hhash ▸ h) (hdivergence _)
  rw [if_neg hhash] at h
  obtain ⟨next, hnext, h⟩ := bind_eq_ok_iff.1 h
  obtain ⟨text, htext, hcalculated⟩ := bind_eq_ok_iff.1 hcalculated
  obtain ⟨bytes, hbytes, hcalculated⟩ := bind_eq_ok_iff.1 hcalculated
  obtain ⟨hencodable, rfl⟩ := encodeUtf8_isOk_iff.1 hbytes
  obtain rfl := pure_eq_ok_iff.1 hcalculated
  rw [not_not, pyEq_str] at hhash
  refine ⟨text, ⟨not_not.1 hprevious, htext, hencodable, hhash⟩, ?_⟩
  rw [Record.get, get_of_at hnext]
  exact h

/-- The records of an accepted chain are linked, and each has its hash. -/
theorem of_verifyLegacyFrom {i : ℕ} {anchor : PyStr} (hanchor : anchor.length = 64)
    (h : verifyLegacyFrom str i (.str anchor) records = .ok chainValid) :
    HashChain.Linked (fun r : Record => r.get "hash") (fun r => r.get "previous_hash") (.str anchor) records ∧
      ∀ r ∈ records, ∃ text previous, legacyPayload str r = .ok text ∧ Encodable text ∧
        r.get "hash" = .str (Sha256.hexdigest (text.flatMap utf8Char)) ∧
        r.get "previous_hash" = .str previous ∧ previous.length = 64 := by
  induction records generalizing i anchor with
  | nil => exact ⟨trivial, by simp⟩
  | cons record records ih =>
      obtain ⟨text, hrecord, hrest⟩ := of_verifyLegacyFrom_cons h
      have hlinked := pyEq_str.1 hrecord.linked
      rw [hrecord.hashed] at hrest
      have hdigest := Sha256.isHex64_hexdigest (text.flatMap utf8Char)
      rw [Sha256.isHex64, Bool.and_eq_true] at hdigest
      obtain ⟨hlinks, hall⟩ := ih (by simpa using hdigest.1) hrest
      rw [← hrecord.hashed] at hlinks
      refine ⟨⟨hlinked, hlinks⟩, ?_⟩
      rw [List.forall_mem_cons]
      exact ⟨⟨text, anchor, hrecord.payload, hrecord.encodable, hrecord.hashed, hlinked, hanchor⟩, hall⟩

end Accepted

/-! ### What the last hash determines -/

section Head

variable {str : PyVal → PyStr} {xs ys : List Record}

/-- The hash of the last record. -/
def lastHash (records : List Record) : Option PyVal := records.getLast?.map fun record => record.get "hash"

theorem lastHead_eq (records : List Record) (anchor : PyVal) :
    HashChain.lastHead (fun r : Record => r.get "hash") anchor records = (lastHash records).getD anchor := by
  induction records using List.reverseRecOn with
  | nil => rfl
  | append_singleton records record _ => simp [HashChain.lastHead_concat, lastHash]

/-- What stands before a text of 64 characters. -/
theorem content_of_append {s t a b : PyStr} (h : s ++ a = t ++ b) (ha : a.length = 64) (hb : b.length = 64) :
    s = t ∧ a = b := List.append_inj' h (ha.trans hb.symm)

/-- Two accepted chains of one length with one last hash have the same text in every record, if none of
their hashes collide. -/
theorem legacyContent_of_head (hstr : ∀ s, str (.str s) = s)
    (hxs : verifyLegacyChain str xs = .ok chainValid) (hys : verifyLegacyChain str ys = .ok chainValid)
    (hlength : xs.length = ys.length) (hlast : lastHash xs = lastHash ys)
    (hcollision : NoLegacyCollision str xs ys) (hxtext : ∀ r ∈ xs, CodePoints str r)
    (hytext : ∀ r ∈ ys, CodePoints str r) :
    List.Forall₂ (fun r q : Record => r.content str = q.content str ∧
      r.get "previous_hash" = q.get "previous_hash") xs ys := by
  obtain ⟨hlinked, hall⟩ := of_verifyLegacyFrom List.length_replicate hxs
  obtain ⟨hlinked', hall'⟩ := of_verifyLegacyFrom List.length_replicate hys
  refine HashChain.forall₂_of_lastHead hlinked hlinked' hlength
    (by rw [lastHead_eq, lastHead_eq, hlast]) (fun r hr q hq hhead => ?_) fun r _ q _ hsame => hsame.2
  obtain ⟨text, previous, htext, hencodable, hhash, hprevious, hlen⟩ := hall r hr
  obtain ⟨text', previous', htext', hencodable', hhash', hprevious', hlen'⟩ := hall' q hq
  have hdigest : Sha256.hexdigest (text.flatMap utf8Char) = Sha256.hexdigest (text'.flatMap utf8Char) :=
    PyVal.str.inj (hhash.symm.trans (hhead.trans hhash'))
  have hvalid : ∀ {r : Record} {text : PyStr}, CodePoints str r → legacyPayload str r = .ok text →
      IsText text := by
    intro r text hpoints hpayload c hc
    rw [of_legacyPayload hpayload, Record.content, List.mem_append, List.mem_flatten] at hc
    rcases hc with ⟨t, ht, hc⟩ | hc
    · obtain ⟨field, hfield, rfl⟩ := List.mem_map.1 ht
      exact hpoints field (List.mem_append_left _ hfield) c hc
    · exact hpoints "previous_hash" (List.mem_append_right _ (List.mem_singleton_self _)) c hc
  have hsame : text = text' := utf8_injective (hvalid (hxtext r hr) htext) (hvalid (hytext q hq) htext')
    (hcollision r hr q hq text text' htext htext' hdigest)
  have hlink : ∀ {r : Record} {previous : PyStr}, r.get "previous_hash" = .str previous →
      r.text str "previous_hash" = previous := fun h => by rw [Record.text, h, hstr]
  rw [of_legacyPayload htext, of_legacyPayload htext', hlink hprevious, hlink hprevious'] at hsame
  obtain ⟨hcontent, heq⟩ := content_of_append hsame hlen hlen'
  exact ⟨hcontent, by rw [hprevious, hprevious', heq]⟩

/-- Texts that are the same one behind the other, and of the same lengths, are the same. -/
theorem eq_of_flatten {α : Type} {f g : α → PyStr} {fs : List α}
    (h : (fs.map f).flatten = (fs.map g).flatten) (hlen : ∀ a ∈ fs, (f a).length = (g a).length) :
    ∀ a ∈ fs, f a = g a := by
  induction fs with
  | nil => simp
  | cons a fs ih =>
      rw [List.map_cons, List.map_cons, List.flatten_cons, List.flatten_cons] at h
      rw [List.forall_mem_cons] at hlen ⊢
      obtain ⟨hfirst, hrest⟩ := List.append_inj h hlen.1
      exact ⟨hfirst, ih hrest hlen.2⟩

/-- **Tampering with the legacy chain.**  Two accepted chains of one length with one last hash have the same
fields in every record if and only if these have the same lengths in every record, if none of their hashes
collide. -/
theorem legacyChain_iff (str : PyVal → PyStr) (hstr : ∀ s, str (.str s) = s) (xs ys : List Record)
    (hxs : verifyLegacyChain str xs = .ok chainValid) (hys : verifyLegacyChain str ys = .ok chainValid)
    (hlength : xs.length = ys.length) (hlast : lastHash xs = lastHash ys)
    (hcollision : NoLegacyCollision str xs ys) (hxtext : ∀ r ∈ xs, CodePoints str r)
    (hytext : ∀ r ∈ ys, CodePoints str r) :
    (∀ (i : ℕ) (r q : Record), xs[i]? = some r → ys[i]? = some q →
        ∀ field ∈ contentFields, r.text str field = q.text str field) ↔
      ∀ (i : ℕ) (r q : Record), xs[i]? = some r → ys[i]? = some q →
        ∀ field ∈ contentFields, (r.text str field).length = (q.text str field).length := by
  have hcontent := legacyContent_of_head hstr hxs hys hlength hlast hcollision hxtext hytext
  constructor
  · intro h i r q hr hq field hfield
    rw [h i r q hr hq field hfield]
  · intro h i r q hr hq
    obtain ⟨hi, rfl⟩ := List.getElem?_eq_some_iff.1 hr
    obtain ⟨hi', rfl⟩ := List.getElem?_eq_some_iff.1 hq
    exact eq_of_flatten (hcontent.get hi hi').1 (h i _ _ hr hq)

end Head

/-! ### Two chains with one record -/

/-- `str`, for texts. -/
def strOf : PyVal → PyStr
  | .str s => s
  | _ => []

/-- The texts of a first record, one behind the other. -/
def sampleText (timestamp eventType : String) : PyStr := cp timestamp ++ cp eventType ++ genesisHash

/-- The fields of a first record, with its hash. -/
def sampleLegacyFields (timestamp eventType : String) : List (String × PyVal) := [("actor", lit ""),
  ("content", lit ""), ("event_type", lit eventType),
  ("hash", .str (Sha256.hexdigest ((sampleText timestamp eventType).flatMap utf8Char))), ("index", .int 1),
  ("previous_hash", .str genesisHash), ("timestamp", lit timestamp)]

/-- A first record with its hash. -/
def sampleLegacy (timestamp eventType : String) : Record where
  items := fields (sampleLegacyFields timestamp eventType)
  sorted := sorted_fields.2 (by simp [sampleLegacyFields]; decide)

theorem encodable_genesisHash : Encodable genesisHash := by
  intro c hc
  rw [List.eq_of_mem_replicate hc]
  decide

theorem payload_sample (timestamp eventType : String) :
    legacyPayload strOf (sampleLegacy timestamp eventType) = .ok (sampleText timestamp eventType) := by
  simp [legacyPayload, contentFields, sampleLegacy, sampleLegacyFields, sampleText, PyVal.at, strOf, lit, pure,
    Except.pure, bind, Except.bind]
  rfl

theorem legacy_valid (timestamp eventType : String) :
    verifyLegacyChain strOf [sampleLegacy timestamp eventType] = .ok chainValid := by
  have hencodable : Encodable (sampleText timestamp eventType) :=
    encodable_append.2 ⟨encodable_append.2 ⟨encodable_cp _, encodable_cp _⟩, encodable_genesisHash⟩
  have hcalculated : calculateLegacyHashV1 strOf (sampleLegacy timestamp eventType) =
      .ok (Sha256.hexdigest ((sampleText timestamp eventType).flatMap utf8Char)) := by
    rw [calculateLegacyHashV1, payload_sample, ok_bind, encodeUtf8_ok hencodable]
    rfl
  have hindex : (sampleLegacy timestamp eventType).get "index" = .int 1 := by
    simp [Record.get, sampleLegacy, sampleLegacyFields, PyVal.get]
  have hprevious : (sampleLegacy timestamp eventType).get "previous_hash" = .str genesisHash := by
    simp [Record.get, sampleLegacy, sampleLegacyFields, PyVal.get]
  have hprofile : getItem (sampleLegacy timestamp eventType).items (cp "hash_profile") = none := by
    simp [sampleLegacy, sampleLegacyFields]
  have hhash : (PyVal.dict (sampleLegacy timestamp eventType).items).at "hash" =
      (.ok (.str (Sha256.hexdigest ((sampleText timestamp eventType).flatMap utf8Char))) : Except Fault PyVal) := by
    simp [sampleLegacy, sampleLegacyFields, PyVal.at]
  have hget : (sampleLegacy timestamp eventType).get "hash" =
      .str (Sha256.hexdigest ((sampleText timestamp eventType).flatMap utf8Char)) := get_of_at hhash
  rw [verifyLegacyChain, verifyLegacyFrom, hindex, if_neg (not_not.2 (by rfl)), hprevious,
    if_neg (not_not.2 (pyEq_str.2 rfl)), hprofile, Option.getD_none,
    if_neg (not_not.2 (pyEq_lit.2 rfl)), hcalculated, ok_bind, hget, if_neg (not_not.2 (pyEq_str.2 rfl)), hhash, ok_bind, verifyLegacyFrom]

theorem codePoints_sample (timestamp eventType : String) :
    CodePoints strOf (sampleLegacy timestamp eventType) := by
  intro field hfield
  have hgenesis : IsText genesisHash := by
    intro c hc
    rw [List.eq_of_mem_replicate hc]
    decide
  simp only [contentFields, List.cons_append, List.nil_append, List.mem_cons, List.not_mem_nil, or_false] at hfield
  rcases hfield with rfl | rfl | rfl | rfl | rfl <;>
    simp [Record.text, Record.get, sampleLegacy, sampleLegacyFields, PyVal.get, strOf, lit, isText_cp,
      hgenesis]

/-- A chain and itself. -/
theorem legacyChain_iff_sample : verifyLegacyChain strOf [sampleLegacy "2026" "A"] = .ok chainValid ∧
    ∀ (i : ℕ) (r q : Record), [sampleLegacy "2026" "A"][i]? = some r → [sampleLegacy "2026" "A"][i]? = some q →
      ∀ field ∈ contentFields, r.text strOf field = q.text strOf field := by
  have hcollision : NoLegacyCollision strOf [sampleLegacy "2026" "A"] [sampleLegacy "2026" "A"] := by
    intro r hr q hq text text' htext htext' _
    rw [List.mem_singleton.1 hr] at htext
    rw [List.mem_singleton.1 hq, htext, Except.ok.injEq] at htext'
    rw [htext']
  have hpoints : ∀ r ∈ [sampleLegacy "2026" "A"], CodePoints strOf r := by
    intro r hr
    rw [List.mem_singleton.1 hr]
    exact codePoints_sample _ _
  refine ⟨legacy_valid "2026" "A", (legacyChain_iff strOf (fun _ => rfl) _ _ (legacy_valid "2026" "A")
    (legacy_valid "2026" "A") rfl rfl hcollision hpoints hpoints).2 fun i r q hr hq field _ => ?_⟩
  obtain rfl := Option.some.inj (hr.symm.trans hq)
  rfl

/-- The last digit of the time is read as the first letter of the type: the hash is the same. -/
theorem legacyChain_ambiguous : ¬∀ (str : PyVal → PyStr), (∀ s, str (.str s) = s) → ∀ xs ys : List Record,
    verifyLegacyChain str xs = .ok chainValid → verifyLegacyChain str ys = .ok chainValid →
      xs.length = ys.length → lastHash xs = lastHash ys → NoLegacyCollision str xs ys →
        (∀ r ∈ xs, CodePoints str r) → (∀ r ∈ ys, CodePoints str r) →
          ∀ (i : ℕ) (r q : Record), xs[i]? = some r → ys[i]? = some q →
            ∀ field ∈ contentFields, r.text str field = q.text str field := by
  intro hall
  have htext : sampleText "2026" "A" = sampleText "202" "6A" := rfl
  have hhash : lastHash [sampleLegacy "2026" "A"] = lastHash [sampleLegacy "202" "6A"] :=
    congrArg (fun t : PyStr => some (PyVal.str (Sha256.hexdigest (t.flatMap utf8Char)))) htext
  have hcollision : NoLegacyCollision strOf [sampleLegacy "2026" "A"] [sampleLegacy "202" "6A"] := by
    intro r hr q hq text text' hpayload hpayload' _
    rw [List.mem_singleton.1 hr, payload_sample, Except.ok.injEq] at hpayload
    rw [List.mem_singleton.1 hq, payload_sample, Except.ok.injEq] at hpayload'
    rw [← hpayload, ← hpayload', htext]
  have hpoints : ∀ timestamp eventType, ∀ r ∈ [sampleLegacy timestamp eventType], CodePoints strOf r := by
    intro timestamp eventType r hr
    rw [List.mem_singleton.1 hr]
    exact codePoints_sample _ _
  have hfields := hall strOf (fun _ => rfl) _ _ (legacy_valid "2026" "A") (legacy_valid "202" "6A") rfl hhash
    hcollision (hpoints _ _) (hpoints _ _) 0 _ _ rfl rfl "timestamp" (by decide)
  exact absurd hfields (by decide)

end EvidenceLedger
