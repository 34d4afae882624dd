/-
**The consent to a voucher checkout.**

Three packets lead to the redemption of a voucher: the clerk's request, the confirmation of the member who
owns the voucher, and the evidence of the transaction.  Each carries the hash of its content, and each names
the packet before it by that packet's hash.

The hashes are made when a packet is built, and nowhere are they made again to be compared: the evidence
takes the two hashes from the packets it is given.  Whose member confirms is looked at when the confirmation
is built, and not when the evidence is.  So the chain is closed by who builds the packets, and the evidence
alone only says that the confirmation names the request.

Main definitions:

* `VoucherCheckout.buildRedTeaRedeemRequest`, `VoucherCheckout.buildOwnerConfirmation`,
  `VoucherCheckout.buildTransactionEvidence` — the three packets;
* `VoucherCheckout.Sealed` — a packet carries the hash of the rest of it;
* `VoucherCheckout.ChainSealed` — both packets are sealed, and the confirmation is of the request.

Main results:

* `VoucherCheckout.sealed_of_seal` — what is sealed when it is built;
* `VoucherCheckout.evidence_binds` — what evidence says about the packets it was built from;
* `VoucherCheckout.evidence_of_altered` — evidence of an altered request.
-/

import Wuchang.PyEq
import Wuchang.PyJson
import Wuchang.Sha256

set_option relaxedAutoImplicit false
set_option autoImplicit false

namespace VoucherCheckout

open Py

/-- The exceptions: `SovereignCheckoutHold` by its code, and the `OverflowError` of an infinite number. -/
inductive Failure where
  | hold (code : String)
  | overflowError
  deriving DecidableEq, Repr

/-- An exception. -/
abbrev Fault := Raise Failure

/-- `raise SovereignCheckoutHold(code)` -/
def hold {α : Type} (code : String) : Except Fault α := .error (.own (.hold code))

/-- `if c: raise SovereignCheckoutHold(code)` -/
def holdIf (c : Prop) [Decidable c] (code : String) : Except Fault Unit := raiseIf c (.hold code)

/-! ### Values -/

/-- `v.get(k)` -/
def get (v : PyVal) (k : String) : Except Fault PyVal :=
  match v with
  | .dict items => .ok ((getItem items (cp k)).getD .none)
  | _ => .error (.builtin .attributeError)

/-- `canonical_sha256` -/
def canonicalSha256 (v : PyVal) : Except Fault PyStr :=
  if ¬PyJson.serialisable v then .error (.builtin .typeError)
  else if ¬PyJson.allFinite v then .error (.builtin .valueError)
  else do
    let bytes ← encodeUtf8 (PyJson.write PyJson.compact v)
    pure (Sha256.hexdigest bytes)

/-- `_require_text` -/
def requireText (v : PyVal) (code : String) : Except Fault PyStr :=
  match v with
  | .str s => if strip s = [] then hold code else .ok (strip s)
  | _ => hold code

/-- `_require_sha256` -/
def requireSha256 (v : PyVal) (code : String) : Except Fault PyStr := do
  let value ← requireText v code
  if Sha256.isHex64 (lowerAscii value) then pure (lowerAscii value) else hold code

/-- A character of the prefix of `_HASH_REF`. -/
def isPrefixChar (c : ℕ) : Bool :=
  (97 ≤ c && c ≤ 122) || (48 ≤ c && c ≤ 57) || c = 95 || c = 46 || c = 45

/-- `_HASH_REF`: the last seventy-two characters are the marker and the hash. -/
def isHashRef (s : PyStr) : Bool :=
  let front := s.take (s.length - 72)
  (match front with
    | [] => false
    | c :: rest => (97 ≤ c && c ≤ 122) && rest.all isPrefixChar) &&
  (s.drop (s.length - 72)).take 8 == cp ":sha256:" && Sha256.isHex64 (s.drop (s.length - 64))

/-- `_require_hash_ref` -/
def requireHashRef (v : PyVal) (code : String) : Except Fault PyStr := do
  let value ← requireText v code
  if isHashRef value then pure value else hold code

/-- What `int` reads of the digits of a text, given what was read so far and whether it ended in a digit. -/
def readDigits (digit : ℕ → Option ℕ) : ℕ → Bool → PyStr → Option ℕ
  | n, afterDigit, [] => if afterDigit then some n else none
  | n, afterDigit, c :: s =>
      if c = 95 then if afterDigit then readDigits digit n false s else none
      else do
        let d ← digit c
        readDigits digit (10 * n + d) true s

/-- `int(s)`, of a text. -/
def readInt (digit : ℕ → Option ℕ) (s : PyStr) : Option ℤ :=
  match strip s with
  | 45 :: s => (readDigits digit 0 false s).map fun n => -n
  | 43 :: s => (readDigits digit 0 false s).map fun n => n
  | s => (readDigits digit 0 false s).map fun n => n

/-- `int(v)`; the decimal digits of Unicode are given. -/
def toInt (digit : ℕ → Option ℕ) : PyVal → Except Fault ℤ
  | .int n => .ok n
  | .bool b => .ok (if b then 1 else 0)
  | .float x =>
      if x.isFinite then .ok (x.value.num.tdiv x.value.den)
      else if x.frac = 0 then .error (.own .overflowError)
      else .error (.builtin .valueError)
  | .str s =>
      match readInt digit s with
      | some n => .ok n
      | none => .error (.builtin .valueError)
  | _ => .error (.builtin .typeError)

/-! ### The request -/

def schema : String := "W7TP_LIAOGUO_SOVEREIGN_VOUCHER_CHECKOUT_V1"

def couplingRule : String := "ONE_COUPLED_DYNAMIC_STATE_FIELD_NOT_PIPELINE"

def nonDifferentialSemantics : String := "NON_DIFFERENTIAL_POINTER_FIRST_STATE_RECONSTRUCTION"

/-- `packet[k] = canonical_sha256(packet)` -/
def sealPacket (k : String) (packet : List (String × PyVal)) : Except Fault PyVal := do
  let sha ← canonicalSha256 (obj packet)
  pure (.dict (setKey (cp k) (.str sha) (fields packet)))

/-- The arguments of a request besides the receipt of the lookup. -/
structure RequestArgs where
  sandboxMemberRef : PyVal
  sandboxOrganizationRef : PyVal
  sandboxProductRef : PyVal
  voucherRef : PyVal
  voucherHash : PyVal
  orderRef : PyVal
  issuedAt : PyVal

/-- `field` -/
def requestField (memberRef organizationRef seatRef productRef orderRef voucherRef voucherHash receiptHash
    issuedAt : PyStr) (entitlementCount : ℤ) : List (String × PyVal) := [
  ("D1_INTENT", obj [("intent", lit "REDEEM_ONE_LIAOGUO_RED_TEA_VOUCHER"), ("quantity", .int 1)]),
  ("D2_STATE", obj [
    ("state", lit "PENDING_OWNER_CONFIRMATION"), ("voucher_count_before", .int entitlementCount)]),
  ("D3_COORDINATE", obj [
    ("member_ref", .str memberRef), ("order_ref", .str orderRef), ("organization_ref", .str organizationRef),
    ("product_ref", .str productRef), ("seat_ref", .str seatRef)]),
  ("D4_EVIDENCE", obj [
    ("lookup_receipt_hash", .str receiptHash), ("voucher_preimage_hash", .str voucherHash),
    ("voucher_ref", .str voucherRef)]),
  ("D5_EXECUTION_POLICY", obj [
    ("clerk_may_redeem", .bool false), ("clerk_may_request", .bool true),
    ("member_confirmation_required", .bool true), ("voucher_use_quantity", .int 1)]),
  ("D6_GENERATIVE_STATE_TRANSMISSION", obj [
    ("differential_payload_bytes", .int 0), ("member_plaintext_transmitted", .bool false),
    ("phone_plaintext_transmitted", .bool false), ("predecessor_state_required", .bool false),
    ("semantic_class", lit nonDifferentialSemantics)]),
  ("D7_RISK_ISOLATION", obj [
    ("cross_member", .bool false), ("cross_organization", .bool false), ("fail_closed", .bool true),
    ("happiness_coin_effect", .bool false), ("other_product_effect", .bool false),
    ("sandbox_only", .bool true)]),
  ("D8_ENVELOPE_AUTHORITY", obj [
    ("ai_is_not_member_disposal_authority", .bool true),
    ("candidate_until_member_confirmation", .bool true),
    ("member_disposal_authority_required", .bool true),
    ("staff_is_not_member_disposal_authority", .bool true)]),
  ("coupling_rule", lit couplingRule),
  ("issued_at", .str issuedAt),
  ("schema", lit schema)]

/-- `v or 0` -/
def orZero (v : PyVal) : PyVal := if v.truthy then v else .int 0

/-- `v is True` -/
def isTrue : PyVal → Bool
  | .bool b => b
  | _ => false

/-- `build_red_tea_redeem_request` -/
def buildRedTeaRedeemRequest (digit : ℕ → Option ℕ) (lookupReceipt : PyVal) (args : RequestArgs) :
    Except Fault PyVal := do
  let member ← get lookupReceipt "member_ref"
  let memberRef ← requireText member "HOLD_MATCHED_MEMBER_REF_REQUIRED"
  let organization ← get lookupReceipt "organization_ref"
  let organizationRef ← requireText organization "HOLD_ORGANIZATION_REF_REQUIRED"
  let seat ← get lookupReceipt "seat_ref"
  let seatRef ← requireHashRef seat "HOLD_SEAT_REF_INVALID"
  let matched ← get lookupReceipt "matched"
  let ambiguous ← get lookupReceipt "ambiguous"
  holdIf (¬isTrue matched ∨ ambiguous.truthy)
    "HOLD_LOW_RISK_LOOKUP_NOT_MATCHED"
  let sandboxMember ← requireText args.sandboxMemberRef "HOLD_SANDBOX_MEMBER_REF_REQUIRED"
  holdIf (memberRef ≠ sandboxMember) "HOLD_SANDBOX_MEMBER_SCOPE_MISMATCH"
  let sandboxOrganization ← requireText args.sandboxOrganizationRef "HOLD_SANDBOX_ORGANIZATION_REF_REQUIRED"
  holdIf (organizationRef ≠ sandboxOrganization) "HOLD_SANDBOX_ORGANIZATION_SCOPE_MISMATCH"
  let productRef ← requireText args.sandboxProductRef "HOLD_SANDBOX_PRODUCT_REF_REQUIRED"
  let voucherRef ← requireText args.voucherRef "HOLD_VOUCHER_REF_REQUIRED"
  let voucherHash ← requireSha256 args.voucherHash "HOLD_VOUCHER_HASH_INVALID"
  let orderRef ← requireText args.orderRef "HOLD_ORDER_REF_REQUIRED"
  let issuedAt ← requireText args.issuedAt "HOLD_REQUEST_TIME_REQUIRED"
  let entitlement ← get lookupReceipt "entitlement_count"
  let count ← toInt digit (orZero entitlement)
  holdIf (count ≠ 10) "HOLD_SANDBOX_REQUIRES_EXACT_10_TO_9_PREIMAGE"
  let entitlement ← lookupReceipt.at "entitlement_count"
  let entitlementCount ← toInt digit entitlement
  let receipt ← get lookupReceipt "receipt_hash"
  let receiptHash ← requireSha256 receipt "HOLD_LOOKUP_RECEIPT_HASH_INVALID"
  sealPacket "request_hash" (requestField memberRef organizationRef seatRef productRef orderRef voucherRef
    voucherHash receiptHash issuedAt entitlementCount)

/-! ### The confirmation -/

/-- `payload` -/
def confirmationPayload (requestHash memberRef confirmationRef : PyStr) (decision : PyVal)
    (confirmedAt : PyStr) : List (String × PyVal) := [
  ("authority", lit "NATURAL_PERSON_MEMBER"),
  ("confirmation_ref", .str confirmationRef),
  ("confirmed_at", .str confirmedAt),
  ("decision", decision),
  ("event", lit "OWNER_CONFIRMATION"),
  ("member_ref", .str memberRef),
  ("one_time", .bool true),
  ("request_hash", .str requestHash),
  ("schema", lit schema)]

/-- `request_packet.get("D3_COORDINATE", {})` -/
def coordinateOf (request : PyVal) : Except Fault PyVal :=
  match request with
  | .dict items => .ok ((getItem items (cp "D3_COORDINATE")).getD (obj []))
  | _ => .error (.builtin .attributeError)

/-- `build_owner_confirmation` -/
def buildOwnerConfirmation (requestPacket confirmerMemberRef confirmationRef decision confirmedAt : PyVal) :
    Except Fault PyVal := do
  let hash ← get requestPacket "request_hash"
  let requestHash ← requireSha256 hash "HOLD_REQUEST_HASH_INVALID"
  let coordinate ← coordinateOf requestPacket
  let member ← get coordinate "member_ref"
  let memberRef ← requireText member "HOLD_REQUEST_MEMBER_REF_REQUIRED"
  let confirmer ← requireText confirmerMemberRef "HOLD_CONFIRMER_MEMBER_REF_REQUIRED"
  holdIf (confirmer ≠ memberRef) "HOLD_CROSS_MEMBER_CONFIRMATION"
  let confirmationRef ← requireHashRef confirmationRef "HOLD_MEMBER_CONFIRMATION_REF_INVALID"
  let known ← inTexts decision ["CONSENT", "DENY"]
  holdIf (¬known) "HOLD_MEMBER_CONFIRMATION_DECISION_INVALID"
  let confirmedAt ← requireText confirmedAt "HOLD_CONFIRMATION_TIME_REQUIRED"
  sealPacket "confirmation_hash" (confirmationPayload requestHash memberRef confirmationRef decision confirmedAt)

/-! ### The evidence -/

/-- The arguments of the evidence besides the two packets. -/
structure EvidenceArgs where
  voucherCountBefore : PyVal
  voucherCountAfter : PyVal
  voucherHashBefore : PyVal
  voucherHashAfter : PyVal
  executedAt : PyVal
  executorRef : PyVal

/-- `evidence` -/
def evidenceFields (requestHash confirmationHash : PyStr) (before after : ℤ)
    (hashBefore hashAfter executedAt executorRef : PyStr) : List (String × PyVal) := [
  ("confirmation_hash", .str confirmationHash),
  ("effect", obj [
    ("happiness_coin_delta", .int 0), ("product_quantity", .int 1), ("voucher_quantity", .int (-1))]),
  ("event", lit "VOUCHER_REDEEM_EFFECT"),
  ("executed_at", .str executedAt),
  ("executor_ref", .str executorRef),
  ("request_hash", .str requestHash),
  ("schema", lit schema),
  ("state_transition", .list [
    lit "LOOKUP_VERIFIED", lit "PENDING_OWNER_CONFIRMATION", lit "AUTHORIZED", lit "CONSUMED"]),
  ("voucher_count_after", .int after),
  ("voucher_count_before", .int before),
  ("voucher_hash_after", .str hashAfter),
  ("voucher_hash_before", .str hashBefore)]

/-- `build_transaction_evidence` -/
def buildTransactionEvidence (digit : ℕ → Option ℕ) (requestPacket confirmation : PyVal)
    (args : EvidenceArgs) : Except Fault PyVal := do
  let hash ← get requestPacket "request_hash"
  let requestHash ← requireSha256 hash "HOLD_REQUEST_HASH_INVALID"
  let decision ← get confirmation "decision"
  holdIf (¬pyEq decision (lit "CONSENT")) "HOLD_MEMBER_CONSENT_REQUIRED"
  let named ← get confirmation "request_hash"
  holdIf (¬pyEq named (.str requestHash)) "HOLD_CONFIRMATION_REQUEST_MISMATCH"
  let before ← toInt digit args.voucherCountBefore
  let after ← toInt digit args.voucherCountAfter
  holdIf (before ≠ 10 ∨ after ≠ 9) "HOLD_SANDBOX_REQUIRES_EXACT_10_TO_9_EFFECT"
  let hash ← get confirmation "confirmation_hash"
  let confirmationHash ← requireSha256 hash "HOLD_CONFIRMATION_HASH_INVALID"
  let hashBefore ← requireSha256 args.voucherHashBefore "HOLD_VOUCHER_PREIMAGE_HASH_INVALID"
  let hashAfter ← requireSha256 args.voucherHashAfter "HOLD_VOUCHER_POSTIMAGE_HASH_INVALID"
  let executedAt ← requireText args.executedAt "HOLD_EXECUTION_TIME_REQUIRED"
  let executorRef ← requireText args.executorRef "HOLD_EXECUTOR_REF_REQUIRED"
  sealPacket "transaction_hash" (evidenceFields requestHash confirmationHash before after hashBefore hashAfter
    executedAt executorRef)

/-! ### Seals -/

/-- A packet carries, under a key, the hash of the rest of it. -/
def Sealed (k : String) (packet : PyVal) : Prop :=
  ∃ items sha, packet = .dict items ∧ canonicalSha256 (.dict (eraseKey (cp k) items)) = .ok sha ∧
    packet.get k = .str sha

/-- Both packets are sealed, and the confirmation names the request and its member. -/
structure ChainSealed (request confirmation : PyVal) : Prop where
  requestSealed : Sealed "request_hash" request
  confirmationSealed : Sealed "confirmation_hash" confirmation
  named : confirmation.get "request_hash" = request.get "request_hash"
  member : confirmation.get "member_ref" = (request.get "D3_COORDINATE").get "member_ref"

/-- A packet with its hash. -/
theorem of_sealPacket {k : String} {content : List (String × PyVal)} {packet : PyVal}
    (h : sealPacket k content = .ok packet) : ∃ sha, canonicalSha256 (obj content) = .ok sha ∧
      packet = .dict (setKey (cp k) (.str sha) (fields content)) := by
  obtain ⟨sha, hsha, h⟩ := bind_eq_ok_iff.1 h
  exact ⟨sha, hsha, (pure_eq_ok_iff.1 h).symm⟩

/-- **What is sealed when it is built.** -/
theorem sealed_of_seal {k : String} {content : List (String × PyVal)} {packet : PyVal}
    (hk : ∀ p ∈ content, p.1 ≠ k) (h : sealPacket k content = .ok packet) : Sealed k packet := by
  obtain ⟨sha, hsha, rfl⟩ := of_sealPacket h
  refine ⟨_, sha, rfl, ?_, ?_⟩
  · rw [eraseKey_setKey]
    · exact hsha
    · intro q hq
      obtain ⟨p, hp, rfl⟩ := List.mem_map.1 hq
      exact fun heq => hk p hp (key_inj.1 heq)
  · rw [PyVal.get, getItem_setKey, if_pos rfl]
    rfl

/-- The other fields of a packet are those of its content. -/
theorem get_of_seal {k l : String} {content : List (String × PyVal)} {packet : PyVal} (hl : l ≠ k)
    (h : sealPacket k content = .ok packet) : packet.get l = (obj content).get l := by
  obtain ⟨sha, -, rfl⟩ := of_sealPacket h
  rw [PyVal.get, getItem_setKey, if_neg (by rwa [cp_inj])]
  rfl

/-- The hash that a packet was given is a hash. -/
theorem hash_of_seal {k : String} {content : List (String × PyVal)} {packet : PyVal}
    (h : sealPacket k content = .ok packet) : ∃ sha, packet.get k = .str sha ∧ Sha256.isHex64 sha = true := by
  obtain ⟨sha, hsha, rfl⟩ := of_sealPacket h
  refine ⟨sha, ?_, ?_⟩
  · rw [PyVal.get, getItem_setKey, if_pos rfl]
    rfl
  · unfold canonicalSha256 at hsha
    split at hsha
    · cases hsha
    · split at hsha
      · cases hsha
      · obtain ⟨bytes, -, hsha⟩ := bind_eq_ok_iff.1 hsha
        rw [← pure_eq_ok_iff.1 hsha]
        exact Sha256.isHex64_hexdigest _

/-! ### Hashes are their own normal form -/

theorem strip_of_hex {s : PyStr} (h : Sha256.isHex64 s = true) : strip s = s := by
  have hspace : ∀ c ∈ s, isSpace c = false := by
    intro c hc
    have hrange := List.all_eq_true.1 (Bool.and_eq_true_iff.1 h).2 c hc
    simp only [Bool.or_eq_true, Bool.and_eq_true, decide_eq_true_eq] at hrange
    have hbound : c < 256 ∧ 48 ≤ c ∧ c ≤ 102 := by omega
    exact (by decide : ∀ c : Fin 103, 48 ≤ c.1 → isSpace c.1 = false) ⟨c, by omega⟩ hbound.2.1
  have hdrop : s.dropWhile isSpace = s := by
    cases s with
    | nil => rfl
    | cons c s => exact List.dropWhile_cons_of_neg (by simp [hspace c (by simp)])
  rw [strip, hdrop, List.rdropWhile_eq_self_iff]
  intro hne
  simp [hspace _ (List.getLast_mem hne)]

theorem lowerAscii_of_hex {s : PyStr} (h : Sha256.isHex64 s = true) : lowerAscii s = s := by
  refine (List.map_congr_left fun c hc => ?_).trans (List.map_id s)
  have hrange := List.all_eq_true.1 (Bool.and_eq_true_iff.1 h).2 c hc
  simp only [Bool.or_eq_true, Bool.and_eq_true, decide_eq_true_eq] at hrange
  rw [if_neg (by omega), if_neg (by omega), id]

theorem requireSha256_of_hex {s : PyStr} (h : Sha256.isHex64 s = true) (code : String) :
    requireSha256 (.str s) code = .ok s := by
  have hne : s ≠ [] := by
    rintro rfl
    cases h
  rw [requireSha256, requireText, strip_of_hex h, if_neg hne, ok_bind, lowerAscii_of_hex h, if_pos h]
  rfl

/-- What `_require_sha256` returns is a hash. -/
theorem of_requireSha256 {v : PyVal} {code : String} {s : PyStr} (h : requireSha256 v code = .ok s) :
    Sha256.isHex64 s = true := by
  obtain ⟨value, -, h⟩ := bind_eq_ok_iff.1 h
  split at h
  · next hhex =>
      rw [← pure_eq_ok_iff.1 h]
      exact hhex
  · cases h

theorem of_requireText {v : PyVal} {code : String} {s : PyStr} (h : requireText v code = .ok s) :
    ∃ t, v = .str t ∧ s = strip t := by
  unfold requireText at h
  split at h
  · next t =>
      split at h
      · cases h
      · exact ⟨t, rfl, (Except.ok.inj h).symm⟩
  · cases h

theorem get_eq_ok {v w : PyVal} {k : String} (h : get v k = .ok w) : v.get k = w := by
  cases v with
  | dict items => exact Except.ok.inj h
  | _ => cases h

/-! ### The chain -/

/-- A built request is sealed, and its member is a stripped text. -/
theorem of_buildRequest {digit : ℕ → Option ℕ} {receipt request : PyVal} {args : RequestArgs}
    (h : buildRedTeaRedeemRequest digit receipt args = .ok request) :
    Sealed "request_hash" request ∧
      (∃ sha, request.get "request_hash" = .str sha ∧ Sha256.isHex64 sha = true) ∧
      ∃ member, (request.get "D3_COORDINATE").get "member_ref" = .str (strip member) := by
  unfold buildRedTeaRedeemRequest at h
  obtain ⟨member, -, h⟩ := bind_eq_ok_iff.1 h
  obtain ⟨memberRef, hmember, h⟩ := bind_eq_ok_iff.1 h
  -- the checks between the member and the seal
  iterate 23 obtain ⟨_, -, h⟩ := bind_eq_ok_iff.1 h
  refine ⟨sealed_of_seal (by simp [requestField]) h, hash_of_seal h, ?_⟩
  obtain ⟨t, -, rfl⟩ := of_requireText hmember
  refine ⟨t, ?_⟩
  rw [get_of_seal (by decide) h]
  simp [requestField]

/-- A missing coordinate has the values of an empty one. -/
theorem get_coordinateOf {request coordinate : PyVal} (h : coordinateOf request = .ok coordinate) (k : String) :
    (request.get "D3_COORDINATE").get k = coordinate.get k := by
  cases request with
  | dict items =>
      obtain rfl := Except.ok.inj h
      rw [PyVal.get]
      cases getItem items (cp "D3_COORDINATE") with
      | none => rfl
      | some v => rfl
  | _ => cases h

/-- A built confirmation is sealed, and names the request and its member. -/
theorem of_buildConfirmation {request confirmer ref decision time confirmation : PyVal}
    (h : buildOwnerConfirmation request confirmer ref decision time = .ok confirmation) :
    Sealed "confirmation_hash" confirmation ∧
      (∃ requestHash, requireSha256 (request.get "request_hash") "HOLD_REQUEST_HASH_INVALID" = .ok requestHash ∧
        confirmation.get "request_hash" = .str requestHash) ∧
      ∃ member, (request.get "D3_COORDINATE").get "member_ref" = .str member ∧
        confirmation.get "member_ref" = .str (strip member) := by
  unfold buildOwnerConfirmation at h
  obtain ⟨hash, hhash, h⟩ := bind_eq_ok_iff.1 h
  obtain ⟨requestHash, hrequest, h⟩ := bind_eq_ok_iff.1 h
  obtain ⟨coordinate, hcoordinate, h⟩ := bind_eq_ok_iff.1 h
  obtain ⟨member, hmember, h⟩ := bind_eq_ok_iff.1 h
  obtain ⟨memberRef, hmemberRef, h⟩ := bind_eq_ok_iff.1 h
  iterate 6 obtain ⟨_, -, h⟩ := bind_eq_ok_iff.1 h
  obtain ⟨t, ht, rfl⟩ := of_requireText hmemberRef
  have hd3 : (request.get "D3_COORDINATE").get "member_ref" = .str t := by
    rw [← ht, ← get_eq_ok hmember, get_coordinateOf hcoordinate]
  refine ⟨sealed_of_seal (by simp [confirmationPayload]) h, ⟨requestHash, ?_, ?_⟩, t, hd3, ?_⟩
  · rw [get_eq_ok hhash]
    exact hrequest
  · rw [get_of_seal (by decide) h]
    simp [confirmationPayload]
  · rw [get_of_seal (by decide) h]
    simp [confirmationPayload]

/-- A confirmation that was built of a built request closes the chain. -/
theorem chainSealed_of_build {digit : ℕ → Option ℕ}
    {receipt request confirmer ref decision time confirmation : PyVal} {args : RequestArgs}
    (hrequest : buildRedTeaRedeemRequest digit receipt args = .ok request)
    (hconfirmation : buildOwnerConfirmation request confirmer ref decision time = .ok confirmation) :
    ChainSealed request confirmation := by
  obtain ⟨hsealed, ⟨sha, hsha, hhex⟩, member, hmember⟩ := of_buildRequest hrequest
  obtain ⟨hsealed', ⟨requestHash, hhash, hnamed⟩, member', hmember', hconfirmed⟩ :=
    of_buildConfirmation hconfirmation
  refine ⟨hsealed, hsealed', ?_, ?_⟩
  · rw [hsha, requireSha256_of_hex hhex] at hhash
    rw [hnamed, hsha, Except.ok.inj hhash]
  · obtain rfl : member' = strip member := PyVal.str.inj (hmember'.symm.trans hmember)
    rw [hconfirmed, hmember, strip_strip]

/-- The evidence names a consent and a request. -/
structure Names (request confirmation evidence : PyVal) (requestHash confirmationHash : PyStr) : Prop where
  consent : confirmation.get "decision" = lit "CONSENT"
  requested : requireSha256 (request.get "request_hash") "HOLD_REQUEST_HASH_INVALID" = .ok requestHash
  named : confirmation.get "request_hash" = .str requestHash
  confirmed : requireSha256 (confirmation.get "confirmation_hash") "HOLD_CONFIRMATION_HASH_INVALID" =
    .ok confirmationHash
  hashes : Sha256.isHex64 requestHash = true ∧ Sha256.isHex64 confirmationHash = true
  carried : evidence.get "request_hash" = .str requestHash ∧
    evidence.get "confirmation_hash" = .str confirmationHash

/-- **What evidence says about the packets it was built from.**  It names a consent to a request by their
hashes; that the chain is sealed follows when both packets were built, and not altered since. -/
theorem evidence_binds {digit : ℕ → Option ℕ} {request confirmation evidence : PyVal} {args : EvidenceArgs}
    (h : buildTransactionEvidence digit request confirmation args = .ok evidence) :
    (∃ requestHash confirmationHash, Names request confirmation evidence requestHash confirmationHash) ∧
      ∀ receipt requestArgs confirmer ref decision time,
        buildRedTeaRedeemRequest digit receipt requestArgs = .ok request →
        buildOwnerConfirmation request confirmer ref decision time = .ok confirmation →
        ChainSealed request confirmation := by
  refine ⟨?_, fun _ _ _ _ _ _ => chainSealed_of_build⟩
  unfold buildTransactionEvidence at h
  obtain ⟨hash, hhash, h⟩ := bind_eq_ok_iff.1 h
  obtain ⟨requestHash, hrequest, h⟩ := bind_eq_ok_iff.1 h
  obtain ⟨decision, hdecision, h⟩ := bind_eq_ok_iff.1 h
  obtain ⟨_, hconsent, h⟩ := bind_eq_ok_iff.1 h
  obtain ⟨named, hnamed, h⟩ := bind_eq_ok_iff.1 h
  obtain ⟨_, hmatch, h⟩ := bind_eq_ok_iff.1 h
  iterate 3 obtain ⟨_, -, h⟩ := bind_eq_ok_iff.1 h
  obtain ⟨confirmed, hconfirmed, h⟩ := bind_eq_ok_iff.1 h
  obtain ⟨confirmationHash, hconfirmation, h⟩ := bind_eq_ok_iff.1 h
  iterate 4 obtain ⟨_, -, h⟩ := bind_eq_ok_iff.1 h
  refine ⟨requestHash, confirmationHash, ?_⟩
  constructor
  case consent =>
    rw [get_eq_ok hdecision]
    exact pyEq_lit.1 (not_not.1 (raiseIf_eq_ok_iff.1 hconsent))
  case requested =>
    rw [get_eq_ok hhash]
    exact hrequest
  case named =>
    rw [get_eq_ok hnamed]
    exact pyEq_str.1 (not_not.1 (raiseIf_eq_ok_iff.1 hmatch))
  case confirmed =>
    rw [get_eq_ok hconfirmed]
    exact hconfirmation
  case hashes => exact ⟨of_requireSha256 hrequest, of_requireSha256 hconfirmation⟩
  case carried =>
    rw [get_of_seal (by decide) h, get_of_seal (by decide) h]
    simp [evidenceFields]

/-! ### An altered request -/

/-- A text that is a hash, of nothing in particular. -/
def someHash : PyStr := List.replicate 64 48

/-- A request of one member. -/
def alteredRequest : PyVal := obj [
  ("D3_COORDINATE", obj [("member_ref", lit "MEMBER-A")]), ("request_hash", .str someHash)]

/-- The consent of another member, which was not built either. -/
def otherConfirmation : PyVal := obj [
  ("confirmation_hash", .str someHash), ("decision", lit "CONSENT"), ("member_ref", lit "MEMBER-B"),
  ("request_hash", .str someHash)]

def sampleArgs : EvidenceArgs :=
  ⟨.int 10, .int 9, .str someHash, .str someHash, lit "2026-09-29 20:02:01", lit "odoo-user:7"⟩

/-- A plain content without infinite numbers is sealed. -/
theorem exists_sealPacket (k : String) {content : List (String × PyVal)}
    (hplain : PyJson.Plain Encodable (obj content)) (hfinite : PyJson.allFinite (obj content) = true) :
    ∃ packet, sealPacket k content = .ok packet := by
  rw [sealPacket, canonicalSha256, if_neg (not_not.2 hplain.serialisable), if_neg (not_not.2 hfinite),
    encodeUtf8_ok (hplain.encodable_write (encodable_cp _) (encodable_cp _))]
  exact ⟨_, rfl⟩

theorem run_altered : ∃ evidence,
    buildTransactionEvidence (fun _ => none) alteredRequest otherConfirmation sampleArgs = .ok evidence := by
  have hhash : Sha256.isHex64 someHash = true := by decide
  have hencodable : Encodable someHash := by
    intro c hc
    rw [List.eq_of_mem_replicate hc]
    decide
  have hplain : PyJson.Plain Encodable (obj (evidenceFields someHash someHash 10 9 someHash someHash
      (cp "2026-09-29 20:02:01") (cp "odoo-user:7"))) := by
    simp only [evidenceFields, PyJson.plain_obj_iff, List.forall_mem_cons, List.not_mem_nil,
      IsEmpty.forall_iff, implies_true, and_true, PyJson.plain_str_iff, PyJson.plain_list_iff,
      PyJson.plain_lit, true_and, encodable_cp, hencodable]
    exact ⟨⟨.int _, .int _, .int _⟩, .int _, .int _⟩
  obtain ⟨evidence, hevidence⟩ := exists_sealPacket "transaction_hash" hplain rfl
  have hrequest : get alteredRequest "request_hash" = .ok (.str someHash) := rfl
  have hdecision : get otherConfirmation "decision" = .ok (lit "CONSENT") := rfl
  have hnamed : get otherConfirmation "request_hash" = .ok (.str someHash) := rfl
  have hconfirmed : get otherConfirmation "confirmation_hash" = .ok (.str someHash) := rfl
  have hsame : pyEq (.str someHash) (.str someHash) = true := pyEq_str.2 rfl
  have hconsent : pyEq (lit "CONSENT") (lit "CONSENT") = true := pyEq_lit.2 rfl
  have htime : requireText (lit "2026-09-29 20:02:01") "HOLD_EXECUTION_TIME_REQUIRED" =
      .ok (cp "2026-09-29 20:02:01") := rfl
  have hexecutor : requireText (lit "odoo-user:7") "HOLD_EXECUTOR_REF_REQUIRED" = .ok (cp "odoo-user:7") := rfl
  refine ⟨evidence, ?_⟩
  rw [buildTransactionEvidence, hrequest, ok_bind, requireSha256_of_hex hhash, ok_bind, hdecision, ok_bind,
    hnamed, hconfirmed]
  simp only [hsame, hconsent, ok_bind, sampleArgs, requireSha256_of_hex hhash, htime, hexecutor, toInt, holdIf,
    raiseIf_neg, not_true, not_false_eq_true, ne_eq, or_self]
  exact hevidence

theorem digest_ne : Sha256.hexdigest ((PyJson.write PyJson.compact
    (obj [("D3_COORDINATE", obj [("member_ref", lit "MEMBER-A")])])).flatMap utf8Char) ≠ someHash := by
  unfold Sha256.hexdigest
  decide +kernel

/-- **Evidence of an altered request**, on the consent of another member. -/
theorem evidence_of_altered : (∃ evidence,
    buildTransactionEvidence (fun _ => none) alteredRequest otherConfirmation sampleArgs = .ok evidence) ∧
    ¬Sealed "request_hash" alteredRequest ∧
    otherConfirmation.get "member_ref" ≠ (alteredRequest.get "D3_COORDINATE").get "member_ref" := by
  refine ⟨run_altered, ?_, by simp [otherConfirmation, alteredRequest, lit, cp_inj]⟩
  rintro ⟨items, sha, hitems, hsha, hget⟩
  obtain rfl := PyVal.dict.inj hitems
  obtain rfl : someHash = sha := PyVal.str.inj hget
  have hrest : PyVal.dict (eraseKey (cp "request_hash") (fields [
      ("D3_COORDINATE", obj [("member_ref", lit "MEMBER-A")]), ("request_hash", .str someHash)])) =
      obj [("D3_COORDINATE", obj [("member_ref", lit "MEMBER-A")])] := by
    simp [eraseKey, fields, obj, key, cp_inj]
  rw [hrest] at hsha
  have hplain : PyJson.Plain Encodable (obj [("D3_COORDINATE", obj [("member_ref", lit "MEMBER-A")])]) := by
    simp [PyJson.plain_obj_iff, PyJson.plain_lit]
  rw [canonicalSha256, if_neg (not_not.2 hplain.serialisable), if_neg (not_not.2 (by rfl)),
    encodeUtf8_ok (hplain.encodable_write (encodable_cp _) (encodable_cp _))] at hsha
  exact digest_ne (Except.ok.inj hsha)

/-- What this evidence says. -/
theorem evidence_binds_sample : ∃ evidence requestHash confirmationHash,
    Names alteredRequest otherConfirmation evidence requestHash confirmationHash := by
  obtain ⟨evidence, hrun⟩ := run_altered
  exact ⟨evidence, (evidence_binds hrun).1⟩

end VoucherCheckout
