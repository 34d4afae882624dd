/-
**A candidate is received.**

The owner of the total field decides on a candidate packet: it checks the evidence of a dynamic context packet,
that there is an authority, the disposition at a breakpoint, the state of the candidate and the claims it makes.
An adapter in front of it makes these checks with code of its own, then resolves an authority that can be used
once, and only then calls the owner.

The decision of the owner carries the hash of the candidate, which the adapter does not compute before: a
candidate or an authority with a text that cannot be encoded passes the adapter and makes the owner raise.

Main definitions:

* `ReceiveCandidate.Adapter.preflight` — the checks of the adapter;
* `ReceiveCandidate.receiveCandidate` — the decision of the owner.

Main results:

* `ReceiveCandidate.evidence_of_adapter` — evidence the adapter accepts is accepted by the owner;
* `ReceiveCandidate.receiveCandidate_of_preflight` — the decision on a candidate that passes the adapter;
* `ReceiveCandidate.preflight_agrees` — when the owner accepts a candidate that passes the adapter.
-/

import Wuchang.PyCase
import Wuchang.PyEq
import Wuchang.FieldPacket

set_option relaxedAutoImplicit false
set_option autoImplicit false

namespace ReceiveCandidate

open Py TotalField

/-- An exception; only the interpreter raises any. -/
abbrev Fault := Raise Empty

/-- What is used of texts. -/
structure Texts where
  /-- `str(v)` -/
  str : PyVal → PyStr
  /-- `s.upper()` -/
  upper : PyStr → PyStr
  /-- a decimal digit outside ASCII -/
  isDecimal : ℕ → Bool

/-- `v in (…)` -/
def inValues (v : PyVal) (vs : List PyVal) : Bool := vs.any (pyEq v)

/-- `dict(v) if isinstance(v, Mapping) else None` -/
def asMapping : PyVal → PyVal
  | .dict items => .dict items
  | _ => .none

/-- `d.pop("packet_sha256", None)`, on a copy. -/
def unsigned : PyVal → PyVal
  | .dict items => .dict (eraseKey (cp "packet_sha256") items)
  | v => v

/-! ### The evidence -/

/-- The last tests of `_valid_dynamic_context_evidence`, the same in both modules. -/
def isGoverned (packet : PyVal) : Bool :=
  ((packet.get "source_bindings").truthy || (packet.get "context_items").truthy) &&
    (packet.get "policy").isDict && (match (packet.get "policy").get "evidence_only" with
      | .bool b => b
      | _ => false)

/-- `_valid_dynamic_context_evidence`, up to the test of the hash that is given. -/
def validEvidence (isHash : PyStr → Bool) (packet : PyVal) : Except Fault Bool :=
  match packet with
  | .dict _ =>
      if pyEq (packet.get "state") (lit "TOTAL_FIELD_DYNAMIC_CONTEXT_READY") then
        match packet.get "packet_sha256" with
        | .str sha256 =>
            if isHash sha256 then do
              let hash ← canonicalSha256 (unsigned packet)
              pure (decide (hash = sha256) && isGoverned packet)
            else .ok false
        | _ => .ok false
      else .ok false
  | _ => .ok false

/-- `_valid_dynamic_context_evidence` of the owner -/
def validDynamicContextEvidence (packet : PyVal) : Except Fault Bool := validEvidence Sha256.isHex64 packet

/-! ### The breakpoint -/

/-- `_breakpoint_disposition` -/
inductive Disposition where
  | deny
  | hold
  | allow
  deriving DecidableEq, Repr

/-- `values` -/
def breakpointValues (candidate : PyVal) : List PyVal :=
  candidate.get "breakpoint_disposition" :: ["breakpoint", "breakpoint_gate", "governance"].flatMap fun key =>
    if (candidate.get key).isDict then
      ["decision", "disposition", "state"].map (candidate.get key).get
    else []

/-- `_breakpoint_disposition` of the owner -/
def breakpointDisposition (t : Texts) (candidate : PyVal) : Disposition :=
  let normalized := ((breakpointValues candidate).filter fun v => !inValues v [.none, lit ""]).map fun v =>
    t.upper (strip (t.str v))
  if normalized.any fun s => s ∈ ["DENY", "BLOCK", "BLOCK_BREAKPOINT_OR_POLICY"].map cp then .deny
  else if normalized.any fun s => s = cp "HOLD" || (cp "HOLD_").isPrefixOf s then .hold
  else .allow

/-! ### The owner -/

/-- `allowed_candidate_states` -/
def allowedCandidateStates : List String := ["CANDIDATE_ONLY", "CANDIDATE_ONLY_WITH_FORBIDDEN_FIELDS_REMOVED"]

/-- The candidate supplies a decision or a claim to be executed. -/
def claimsDecision (candidate : PyVal) : Bool :=
  !inValues (candidate.get "execution_authorized") [.none, .bool false] ||
    ["decision", "total_field_decision", "verdict"].any fun key =>
      !inValues (candidate.get key) [.none, lit "", .bool false]

/-- `authority_ref in (None, "", {})` -/
def isAbsent (authorityRef : PyVal) : Bool := inValues authorityRef [.none, lit "", obj []]

/-- `canonical_sha256(v) if v is not None else None` -/
def digestOf : PyVal → Except Fault PyVal
  | .none => pure .none
  | v => do
      let hash ← canonicalSha256 v
      pure (.str hash)

/-- `_decision_result` -/
def decisionResult (t : Texts) (decision reason : String) (candidate context authorityRef : PyVal) :
    Except Fault PyVal := do
  let candidateDigest ← digestOf candidate
  let authorityDigest ← digestOf (if isAbsent authorityRef then .none else authorityRef)
  pure (obj [("authority_ref_sha256", authorityDigest), ("candidate_authority", .bool false),
    ("candidate_packet_sha256", candidateDigest), ("decision", lit decision),
    ("decision_authority", lit "ACTIVE_LOCAL_TOTAL_FIELD_OWNER"),
    ("dynamic_context_packet_sha256",
      if context.isDict then .str (t.str (context.get "packet_sha256")) else .none),
    ("execution_authorized", .bool false),
    ("policy", obj [("candidate_only", .bool true), ("canonical_pointer_write", .bool false),
      ("db_write", .bool false), ("deploy", .bool false), ("model_decision_is_authoritative", .bool false),
      ("restart", .bool false), ("router_write", .bool false)]),
    ("reason", lit reason), ("state", lit decision)])

/-- `receive_candidate` -/
def receiveCandidate (t : Texts) (candidatePacket dynamicContextPacket authorityRef : PyVal) :
    Except Fault PyVal := do
  let candidate := asMapping candidatePacket
  let context := asMapping dynamicContextPacket
  let evidence ← validDynamicContextEvidence context
  if ¬evidence then
    decisionResult t "HOLD_EVIDENCE_INCOMPLETE"
      "dynamic_context_packet is missing, unbound, or has no governed evidence" candidate context authorityRef
  else if isAbsent authorityRef then
    decisionResult t "HOLD_AUTHORITY_INCOMPLETE" "authority_ref is required" candidate context authorityRef
  else if ¬candidate.isDict then
    decisionResult t "HOLD_EVIDENCE_INCOMPLETE" "candidate_packet is missing" .none context authorityRef
  else
    match breakpointDisposition t candidate with
    | .deny =>
        decisionResult t "BLOCK_BREAKPOINT_OR_POLICY" "breakpoint or policy denied the candidate before decision"
          candidate context authorityRef
    | .hold =>
        decisionResult t "HOLD_BREAKPOINT_OR_POLICY" "breakpoint or policy held the candidate before decision"
          candidate context authorityRef
    | .allow => do
        let allowed ← inTexts (candidate.get "state") allowedCandidateStates
        if ¬allowed then
          decisionResult t "HOLD_EVIDENCE_INCOMPLETE" "candidate state is unknown and cannot be normalized"
            candidate context authorityRef
        else if claimsDecision candidate then
          decisionResult t "HOLD_EVIDENCE_INCOMPLETE"
            "candidate supplied a decision or execution claim that cannot be promoted" candidate context authorityRef
        else
          decisionResult t "ALLOW_CANDIDATE_ACCEPTED"
            "candidate accepted for governed review without execution authority" candidate context authorityRef

/-! ### The adapter -/

namespace Adapter

/-- A digit for `int(s, 16)` -/
def isDigit (t : Texts) (c : ℕ) : Bool :=
  (48 ≤ c && c ≤ 57) || (65 ≤ c && c ≤ 70) || (97 ≤ c && c ≤ 102) || t.isDecimal c

/-- What may stand behind a digit: more digits, each behind at most one underscore. -/
def moreDigits (t : Texts) : PyStr → Bool
  | [] => true
  | 95 :: c :: s => isDigit t c && moreDigits t s
  | c :: s => isDigit t c && moreDigits t s

/-- One digit or more. -/
def digits (t : Texts) : PyStr → Bool
  | [] => false
  | c :: s => isDigit t c && moreDigits t s

/-- What may stand behind a sign. -/
def magnitude (t : Texts) : PyStr → Bool
  | 48 :: 120 :: 95 :: s => digits t s
  | 48 :: 88 :: 95 :: s => digits t s
  | 48 :: 120 :: s => digits t s
  | 48 :: 88 :: s => digits t s
  | s => digits t s

/-- `int(s, 16)` does not raise. -/
def readsHex (t : Texts) (s : PyStr) : Bool :=
  match strip s with
  | 43 :: s => magnitude t s
  | 45 :: s => magnitude t s
  | s => magnitude t s

/-- `_valid_dynamic_context_evidence` of the adapter -/
def validDynamicContextEvidence (t : Texts) (packet : PyVal) : Except Fault Bool :=
  validEvidence (fun sha256 => sha256.length = 64 && readsHex t sha256) packet

/-- `_breakpoint_disposition` of the adapter, word for word the one of the owner. -/
def breakpointDisposition (t : Texts) (candidate : PyVal) : Disposition :=
  ReceiveCandidate.breakpointDisposition t candidate

/-- `FORBIDDEN_CANDIDATE_AUTHORITY_FIELDS`, in order. -/
def forbiddenCandidateAuthorityFields : List String := ["access_profile_ref", "authority_lookup_ref",
  "authority_ref", "d8_decision_ref", "d8_decision_state", "formal_decision_authority", "formal_seal_authority",
  "founder_capability_assignment_ref", "founder_person_packet_ref", "registered_device_ref"]

/-- `ALLOWED_CANDIDATE_STATES` -/
def allowedCandidateStates : List String := ["CANDIDATE_ONLY", "CANDIDATE_ONLY_WITH_FORBIDDEN_FIELDS_REMOVED"]

/-- `forbidden` -/
def forbidden (candidate : PyVal) : List String :=
  forbiddenCandidateAuthorityFields.filter fun field =>
    !inValues (candidate.get field) [.none, lit "", .bool false, .list [], obj []]

/-- What the checks found: the packets, and the state and the reason of a refusal. -/
structure Preflight where
  candidate : PyVal
  context : PyVal
  refusal : Option (String × String)

/-- `_preflight` -/
def preflight (t : Texts) (candidatePacket dynamicContextPacket : PyVal) : Except Fault Preflight := do
  let candidate := asMapping candidatePacket
  let context := asMapping dynamicContextPacket
  let evidence ← validDynamicContextEvidence t context
  if ¬evidence then
    pure ⟨candidate, context, some ("HOLD_EVIDENCE_INCOMPLETE",
      "dynamic_context_packet is missing, unbound, or has no governed evidence")⟩
  else if ¬candidate.isDict then
    pure ⟨.none, context, some ("HOLD_EVIDENCE_INCOMPLETE", "candidate_packet is missing")⟩
  else if forbidden candidate ≠ [] then
    pure ⟨candidate, context, some ("HOLD_EVIDENCE_INCOMPLETE",
      "candidate attempted to supply authority fields: " ++ String.intercalate "," (forbidden candidate))⟩
  else
    match breakpointDisposition t candidate with
    | .deny =>
        pure ⟨candidate, context, some ("BLOCK_BREAKPOINT_OR_POLICY",
          "breakpoint or policy denied the candidate before authority resolution")⟩
    | .hold =>
        pure ⟨candidate, context, some ("HOLD_BREAKPOINT_OR_POLICY",
          "breakpoint or policy held the candidate before authority resolution")⟩
    | .allow => do
        let allowed ← inTexts (candidate.get "state") allowedCandidateStates
        if ¬allowed then
          pure ⟨candidate, context, some ("HOLD_EVIDENCE_INCOMPLETE",
            "candidate state is unknown and cannot be normalized")⟩
        else if claimsDecision candidate then
          pure ⟨candidate, context, some ("HOLD_EVIDENCE_INCOMPLETE",
            "candidate supplied a decision or execution claim that cannot be promoted")⟩
        else pure ⟨candidate, context, none⟩

end Adapter

/-! ### The evidence again -/

variable {t : Texts}

theorem validEvidence_eq_ok_true {isHash : PyStr → Bool} {packet : PyVal}
    (h : validEvidence isHash packet = .ok true) : packet.isDict ∧
      packet.get "state" = lit "TOTAL_FIELD_DYNAMIC_CONTEXT_READY" ∧
      (∃ sha256, packet.get "packet_sha256" = .str sha256 ∧ canonicalSha256 (unsigned packet) =
        (.ok sha256 : Except Fault PyStr)) ∧ isGoverned packet := by
  cases packet with
  | dict items =>
      rw [validEvidence] at h
      split_ifs at h with hstate
      · split at h
        · next sha256 hsha =>
            split_ifs at h with hhash
            · obtain ⟨hash, hcanonical, h⟩ := bind_eq_ok_iff.1 h
              have h := pure_eq_ok_iff.1 h
              rw [Bool.and_eq_true, decide_eq_true_eq] at h
              obtain ⟨rfl, hgoverned⟩ := h
              exact ⟨rfl, pyEq_lit.1 hstate, ⟨hash, hsha, hcanonical⟩, hgoverned⟩
            · cases h
        · cases h
      · cases h
  | _ => cases h

theorem isHex64_of_canonicalSha256 {v : PyVal} {hash : PyStr}
    (h : canonicalSha256 v = (.ok hash : Except Fault PyStr)) : Sha256.isHex64 hash := by
  have hplain := canonicalSha256_isOk_iff.1 ⟨hash, h⟩
  obtain rfl := Except.ok.inj ((canonicalSha256_ok hplain).symm.trans h)
  exact Sha256.isHex64_hexdigest _

/-- **Evidence the adapter accepts is accepted by the owner**: only a hash that the code writes equals the
computed one. -/
theorem evidence_of_adapter {packet : PyVal} (h : Adapter.validDynamicContextEvidence t packet = .ok true) :
    validDynamicContextEvidence packet = .ok true := by
  obtain ⟨hdict, hstate, ⟨sha256, hsha, hcanonical⟩, hgoverned⟩ := validEvidence_eq_ok_true h
  cases packet with
  | dict items =>
      rw [validDynamicContextEvidence, validEvidence, if_pos (pyEq_lit.2 hstate)]
      simp only [hsha, isHex64_of_canonicalSha256 hcanonical, if_true, hcanonical, ok_bind, hgoverned]
      simp [pure, Except.pure]
  | _ => cases hdict

/-! ### A candidate that passes the adapter -/

/-- What the checks of the adapter found when they refuse nothing. -/
theorem preflight_passed {candidate context : PyVal} {r : Adapter.Preflight}
    (h : Adapter.preflight t candidate context = .ok r) (hr : r.refusal = none) :
    asMapping candidate = candidate ∧ candidate.isDict ∧
      Adapter.validDynamicContextEvidence t (asMapping context) = .ok true ∧
      breakpointDisposition t candidate = .allow ∧
      (inTexts (candidate.get "state") allowedCandidateStates : Except Fault Bool) = .ok true ∧
      claimsDecision candidate = false := by
  obtain ⟨evidence, hevidence, h⟩ := bind_eq_ok_iff.1 h
  cases evidence with
  | false =>
      rw [if_pos (by decide)] at h
      obtain rfl := pure_eq_ok_iff.1 h
      cases hr
  | true =>
      rw [if_neg (by decide)] at h
      by_cases hdict : (asMapping candidate).isDict
      · have hself : asMapping candidate = candidate := by
          cases candidate with
          | dict items => rfl
          | _ => cases hdict
        rw [if_neg (not_not.2 hdict)] at h
        rw [hself] at h hdict
        by_cases hforbidden : Adapter.forbidden candidate ≠ []
        · rw [if_pos hforbidden] at h
          obtain rfl := pure_eq_ok_iff.1 h
          cases hr
        · rw [if_neg hforbidden] at h
          cases hbreak : Adapter.breakpointDisposition t candidate with
          | deny =>
              rw [hbreak] at h
              obtain rfl := pure_eq_ok_iff.1 h
              cases hr
          | hold =>
              rw [hbreak] at h
              obtain rfl := pure_eq_ok_iff.1 h
              cases hr
          | allow =>
              rw [hbreak] at h
              obtain ⟨allowed, hallowed, h⟩ := bind_eq_ok_iff.1 h
              cases allowed with
              | false =>
                  obtain rfl := pure_eq_ok_iff.1 h
                  cases hr
              | true =>
                  rw [if_neg (by decide)] at h
                  by_cases hclaims : claimsDecision candidate
                  · rw [if_pos hclaims] at h
                    obtain rfl := pure_eq_ok_iff.1 h
                    cases hr
                  · exact ⟨hself, hdict, hevidence, hbreak, hallowed, Bool.eq_false_iff.2 hclaims⟩
      · rw [if_pos hdict] at h
        obtain rfl := pure_eq_ok_iff.1 h
        cases hr

/-- **The decision on a candidate that passes the adapter.** -/
theorem receiveCandidate_of_preflight {candidate context authorityRef : PyVal} {r : Adapter.Preflight}
    (h : Adapter.preflight t candidate context = .ok r) (hr : r.refusal = none)
    (hauthority : isAbsent authorityRef = false) :
    receiveCandidate t candidate context authorityRef = decisionResult t "ALLOW_CANDIDATE_ACCEPTED"
      "candidate accepted for governed review without execution authority" candidate (asMapping context)
      authorityRef := by
  obtain ⟨hself, hdict, hevidence, hbreak, hallowed, hclaims⟩ := preflight_passed h hr
  rw [receiveCandidate, hself, evidence_of_adapter hevidence, ok_bind, if_neg (by decide), if_neg (by simp [hauthority]),
    if_neg (by simp [hdict])]
  simp only [hbreak, hallowed, ok_bind, not_true_eq_false, if_false, hclaims, Bool.false_eq_true]

theorem exists_digestOf_iff {v : PyVal} : (∃ d, digestOf v = .ok d) ↔ PyJson.Plain Encodable v := by
  rw [← @canonicalSha256_isOk_iff Empty]
  cases v with
  | none => exact iff_of_true ⟨_, rfl⟩ (canonicalSha256_isOk_iff.2 .none)
  | _ => exact exists_bind_pure_iff

/-- **When the owner accepts a candidate that passes the adapter**: its texts and those of the authority can be
encoded. -/
theorem preflight_agrees {candidate context authorityRef : PyVal} {r : Adapter.Preflight}
    (h : Adapter.preflight t candidate context = .ok r) (hr : r.refusal = none)
    (hauthority : isAbsent authorityRef = false) :
    (∃ result, receiveCandidate t candidate context authorityRef = .ok result ∧
      result.get "state" = lit "ALLOW_CANDIDATE_ACCEPTED") ↔
      PyJson.Plain Encodable candidate ∧ PyJson.Plain Encodable authorityRef := by
  rw [receiveCandidate_of_preflight h hr hauthority, ← @exists_digestOf_iff candidate, ← @exists_digestOf_iff authorityRef]
  constructor
  · rintro ⟨result, hresult, -⟩
    obtain ⟨c, hc, hresult⟩ := bind_eq_ok_iff.1 hresult
    obtain ⟨a, ha, -⟩ := bind_eq_ok_iff.1 hresult
    rw [hauthority, if_neg (by decide)] at ha
    exact ⟨⟨c, hc⟩, a, ha⟩
  · rintro ⟨⟨c, hc⟩, a, ha⟩
    refine ⟨_, bind_eq_ok_iff.2 ⟨c, hc, bind_eq_ok_iff.2 ⟨a, ?_, rfl⟩⟩, by simp⟩
    rw [hauthority, if_neg (by decide)]
    exact ha

/-! ### Samples -/

/-- Texts, without those of other values and of other letters than those of ASCII. -/
def sampleTexts : Texts where
  str v := match v with
    | .str s => s
    | _ => cp "None"
  upper s := s.map fun c => if 97 ≤ c ∧ c ≤ 122 then c - 32 else c
  isDecimal _ := false

/-- The items of a dynamic context without its hash. -/
def sampleContextItems : List (String × PyVal) := [("context_items", .list [lit "item_ref:1"]),
  ("policy", obj [("evidence_only", .bool true)]), ("state", lit "TOTAL_FIELD_DYNAMIC_CONTEXT_READY")]

/-- A dynamic context. -/
def sampleContext : PyVal :=
  .dict (setKey (cp "packet_sha256") (.str (hashOf (obj sampleContextItems))) (fields sampleContextItems))

/-- A candidate with a note. -/
def sampleCandidate (note : PyStr) : PyVal := obj [("note", .str note), ("state", lit "CANDIDATE_ONLY")]

theorem plain_sampleContextItems : PyJson.Plain Encodable (obj sampleContextItems) := by
  refine PyJson.plain_obj ?_
  simp only [sampleContextItems, List.forall_mem_cons, List.not_mem_nil, false_implies, implies_true, and_true]
  refine ⟨.list _ ?_, PyJson.plain_obj ?_, PyJson.plain_lit _⟩
  · simpa using PyJson.plain_lit "item_ref:1"
  · simpa using PyJson.Plain.bool true

/-- A lower-case hexadecimal digit. -/
def IsLowerHex (c : ℕ) : Prop := (48 ≤ c ∧ c ≤ 57) ∨ (97 ≤ c ∧ c ≤ 102)

theorem isDigit_of_isLowerHex {c : ℕ} (h : IsLowerHex c) : Adapter.isDigit t c := by
  simp only [Adapter.isDigit, Bool.or_eq_true, Bool.and_eq_true, decide_eq_true_eq]
  rcases h with h | h
  · exact .inl (.inl (.inl h))
  · exact .inl (.inr h)

theorem moreDigits_of_isLowerHex {s : PyStr} (h : ∀ c ∈ s, IsLowerHex c) : Adapter.moreDigits t s := by
  induction s with
  | nil => rfl
  | cons c s ih =>
      rw [List.forall_mem_cons] at h
      have hc : c ≠ 95 := by
        rintro rfl
        rcases h.1 with h | h <;> omega
      rw [Adapter.moreDigits, isDigit_of_isLowerHex h.1, ih h.2]
      · rfl
      · simp [hc]

/-- A digest can be read as a number. -/
theorem readsHex_of_isHex64 {s : PyStr} (h : Sha256.isHex64 s) : Adapter.readsHex t s := by
  rw [Sha256.isHex64, Bool.and_eq_true, List.all_eq_true, decide_eq_true_eq] at h
  obtain ⟨hlength, hchars⟩ := h
  have hchars : ∀ c ∈ s, IsLowerHex c := fun c hc => by simpa [IsLowerHex] using hchars c hc
  have hstrip : strip s = s := by
    refine strip_eq_self fun c hc => ?_
    have hspace : ∀ d, (48 ≤ d ∧ d ≤ 57) ∨ (97 ≤ d ∧ d ≤ 102) → isSpace d = false := by
      intro d hd
      rw [Bool.eq_false_iff]
      simp only [isSpace, List.contains_eq_mem, List.mem_cons, List.not_mem_nil, or_false, Bool.or_eq_true,
        Bool.and_eq_true, decide_eq_true_eq, ne_eq]
      omega
    exact hspace c (hchars c hc)
  have hdigits : Adapter.digits t s := by
    cases s with
    | nil => cases hlength
    | cons c s =>
        rw [List.forall_mem_cons] at hchars
        rw [Adapter.digits, isDigit_of_isLowerHex hchars.1, moreDigits_of_isLowerHex hchars.2]
        rfl
  have hmagnitude : Adapter.magnitude t s := by
    unfold Adapter.magnitude
    split
    iterate 4
      exfalso
      simp only [List.forall_mem_cons, IsLowerHex] at hchars
      omega
    exact hdigits
  rw [Adapter.readsHex, hstrip]
  split
  · exfalso
    simp only [List.forall_mem_cons, IsLowerHex] at hchars
    omega
  · exfalso
    simp only [List.forall_mem_cons, IsLowerHex] at hchars
    omega
  · exact hmagnitude

theorem unsigned_sampleContext : unsigned sampleContext = obj sampleContextItems := by
  refine congrArg PyVal.dict (eraseKey_setKey _ fun q hq => ?_)
  obtain ⟨r, hr, rfl⟩ := List.mem_map.1 hq
  have hkey : ∀ k ∈ sampleContextItems.map Prod.fst, k ≠ "packet_sha256" := by simp [sampleContextItems]
  exact fun heq => hkey r.1 (List.mem_map_of_mem hr) (key_inj.1 heq)

theorem get_sampleContext {k : String} (hk : k ≠ "packet_sha256") :
    sampleContext.get k = (obj sampleContextItems).get k := by
  rw [sampleContext, PyVal.get, getItem_setKey, if_neg fun heq => hk (cp_inj.1 heq)]
  rfl

theorem sampleContext_valid : Adapter.validDynamicContextEvidence t sampleContext = .ok true := by
  have hsha : sampleContext.get "packet_sha256" = .str (hashOf (obj sampleContextItems)) := by
    rw [sampleContext, PyVal.get, getItem_setKey, if_pos rfl, Option.getD_some]
  have hstate : sampleContext.get "state" = lit "TOTAL_FIELD_DYNAMIC_CONTEXT_READY" := by
    rw [get_sampleContext (by decide)]
    simp [sampleContextItems]
  have hgoverned : isGoverned sampleContext = true := by
    simp [isGoverned, get_sampleContext, sampleContextItems, PyVal.truthy]
  have hhex : Sha256.isHex64 (hashOf (obj sampleContextItems)) := Sha256.isHex64_hexdigest _
  have hlength : (hashOf (obj sampleContextItems)).length = 64 := by
    rw [Sha256.isHex64, Bool.and_eq_true, decide_eq_true_eq] at hhex
    exact hhex.1
  rw [Adapter.validDynamicContextEvidence, sampleContext, validEvidence, ← sampleContext, if_pos (pyEq_lit.2 hstate)]
  simp only [hsha, hlength, readsHex_of_isHex64 hhex, decide_true, Bool.and_true, if_true, unsigned_sampleContext,
    canonicalSha256_ok plain_sampleContextItems, ok_bind, hgoverned]
  rfl

theorem preflight_sample (note : PyStr) : Adapter.preflight sampleTexts (sampleCandidate note) sampleContext =
    .ok ⟨sampleCandidate note, sampleContext, none⟩ := by
  have hcandidate : asMapping (sampleCandidate note) = sampleCandidate note := rfl
  have hcontext : asMapping sampleContext = sampleContext := rfl
  have hdict : (sampleCandidate note).isDict = true := rfl
  have hforbidden : Adapter.forbidden (sampleCandidate note) = [] := by
    simp [Adapter.forbidden, Adapter.forbiddenCandidateAuthorityFields, sampleCandidate, inValues, pyEq]
  have hbreak : Adapter.breakpointDisposition sampleTexts (sampleCandidate note) = .allow := by
    simp [Adapter.breakpointDisposition, breakpointDisposition, breakpointValues, sampleCandidate, inValues, pyEq,
      PyVal.isDict]
  have hallowed : (inTexts ((sampleCandidate note).get "state") Adapter.allowedCandidateStates : Except Fault Bool) =
      .ok true := by
    rw [inTexts_eq_ok_iff]
    exact ⟨"CANDIDATE_ONLY", by simp [Adapter.allowedCandidateStates], by simp [sampleCandidate]⟩
  have hnone : ∀ {k : String}, k ≠ "note" → k ≠ "state" → (sampleCandidate note).get k = .none := by
    intro k hnote hstate
    simp [sampleCandidate, hnote.symm, hstate.symm]
  have hclaims : claimsDecision (sampleCandidate note) = false := by
    simp only [claimsDecision, List.any_cons, List.any_nil]
    rw [hnone (by decide) (by decide), hnone (by decide) (by decide), hnone (by decide) (by decide),
      hnone (by decide) (by decide)]
    rfl
  rw [Adapter.preflight, hcandidate, hcontext, sampleContext_valid, ok_bind, if_neg (by decide),
    if_neg (not_not.2 hdict), if_neg (not_not.2 hforbidden)]
  simp only [hbreak, hallowed, ok_bind, not_true_eq_false, if_false, hclaims, Bool.false_eq_true]
  rfl

theorem canonicalSha256_error {v : PyVal} (hwritten : PyJson.serialisable v = true)
    (h : ¬PyJson.Plain Encodable v) : canonicalSha256 v = (.error (.builtin .unicodeEncodeError) : Except Fault PyStr) := by
  have htext : ¬Encodable (PyJson.write PyJson.compact v) :=
    fun htext => h (PyJson.plain_of_encodable_write rfl hwritten htext)
  rw [canonicalSha256, PyJson.dumps, if_pos hwritten, ok_bind, encodeUtf8_error htext]
  rfl

/-- A candidate with half of a surrogate pair passes the adapter, and the owner does not accept it. -/
theorem preflight_disagrees : Adapter.preflight sampleTexts (sampleCandidate [0xD800]) sampleContext =
      .ok ⟨sampleCandidate [0xD800], sampleContext, none⟩ ∧
    isAbsent (lit "authority_ref:1") = false ∧
    receiveCandidate sampleTexts (sampleCandidate [0xD800]) sampleContext (lit "authority_ref:1") =
      .error (.builtin .unicodeEncodeError) := by
  have hsurrogate : ¬PyJson.Plain Encodable (sampleCandidate [0xD800]) := by
    intro h
    have hnote := (PyJson.plain_obj_iff.1 h) ("note", .str [0xD800]) List.mem_cons_self
    exact PyJson.plain_str_iff.1 hnote 0xD800 List.mem_cons_self (by decide)
  have hwritten : PyJson.serialisable (sampleCandidate [0xD800]) = true := by
    simp [sampleCandidate, PyJson.serialisable_obj, PyJson.serialisable, lit]
  refine ⟨preflight_sample _, rfl, ?_⟩
  rw [receiveCandidate_of_preflight (preflight_sample _) rfl rfl, decisionResult,
    show digestOf (sampleCandidate [0xD800]) = _ from congrArg (· >>= _) (canonicalSha256_error hwritten hsurrogate)]
  rfl

/-- A candidate that is accepted. -/
theorem preflight_agrees_sample :
    (∃ result, receiveCandidate sampleTexts (sampleCandidate []) sampleContext (lit "authority_ref:1") = .ok result ∧
      result.get "state" = lit "ALLOW_CANDIDATE_ACCEPTED") ↔
      PyJson.Plain Encodable (sampleCandidate []) ∧ PyJson.Plain Encodable (lit "authority_ref:1") :=
  preflight_agrees (preflight_sample []) rfl rfl

end ReceiveCandidate
