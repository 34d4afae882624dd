/-
**The replay keys of identity packets.**

A derived packet has one replay key and a dual receipt has two.  A packet that was accepted must not be
accepted again, so its keys are added to a set; the packets ask for this to happen at once or not at all.

The set is changed in the middle of the checks.  A derived packet whose key is new has it added before its
payload is looked at, and each receipt of a pair has its key added before the next receipt, and before the
decisions are joined.  A packet that one of the later checks holds has used up its key all the same.

Main definitions:

* `MemberIdentity.verifyDerivedPacket`, `MemberIdentity.verifyDualReceipt` — the verifications, as methods
  on the set of the keys that were seen;
* `MemberIdentity.Atomic` — the keys of an accepted packet are added and were new, and a packet that is held
  adds none;
* `MemberIdentity.PayloadBound`, `MemberIdentity.Joined` — what is checked when keys have been added.

Main results:

* `MemberIdentity.payloadChecks_isOk_iff`, `MemberIdentity.joinChecks_isOk_iff` — when these checks pass;
* `MemberIdentity.derived_atomic_iff`, `MemberIdentity.dual_atomic_iff` — when a verification is atomic.
-/

import Wuchang.MemberRoot

set_option relaxedAutoImplicit false
set_option autoImplicit false

namespace MemberIdentity

open Py

/-! ### The set of keys -/

/-- A replay key: a domain or an authority, and a nonce. -/
abbrev ReplayKey := PyVal × PyVal

/-- `seen_nonces`, if it is given. -/
abbrev Ledger := Option (List ReplayKey)

/-- A key is in the set. -/
def isSeen (seen : List ReplayKey) (k : ReplayKey) : Bool := seen.any fun s => pyEq s.1 k.1 && pyEq s.2 k.2

/-- A key can be looked up in the set and is not there. -/
def IsNew (seen : List ReplayKey) (k : ReplayKey) : Prop :=
  isHashable k.1 = true ∧ isHashable k.2 = true ∧ isSeen seen k = false

/-- `_require(seen_nonces is not None, "HOLD_REPLAY_LEDGER_NOT_EVIDENCED")` -/
def requireLedger : EStateM Fault Ledger Unit := fun ledger =>
  match ledger with
  | some _ => .ok () ledger
  | none => .error (.own (.hold "HOLD_REPLAY_LEDGER_NOT_EVIDENCED" [])) ledger

/-- `_require(replay_key not in seen_nonces, code)`, and `seen_nonces.add(replay_key)` -/
def consume (k : ReplayKey) (code : String) : EStateM Fault Ledger Unit := fun ledger =>
  match ledger with
  | some seen =>
      if !(isHashable k.1 && isHashable k.2) then .error (.builtin .typeError) ledger
      else if isSeen seen k then .error (.own (.hold code [])) ledger
      else .ok () (some (seen ++ [k]))
  | none => .error (.builtin .typeError) ledger

/-- The keys of an accepted packet are added and were not there before; a packet that is held adds none. -/
def Atomic {α : Type} (method : EStateM Fault Ledger α) (ledger : Ledger)
    (keys : Except Fault (List ReplayKey)) : Prop :=
  match method.run ledger with
  | .ok _ ledger' => ∃ seen ks, ledger = some seen ∧ keys = .ok ks ∧ ledger' = some (seen ++ ks) ∧
      ∀ k ∈ ks, isSeen seen k = false
  | .error _ ledger' => ledger' = ledger

/-! ### Derived packets -/

/-- The fields a packet shares with its root. -/
def rootFields : List String := ["identity_root_ref", "root_packet_ref", "subject_binding_ref",
  "root_generation", "revocation_epoch"]

/-- The fields a derived packet shares with its root, and its action with the packet. -/
def derivedFields : List String := rootFields ++ ["member_display_hash", "terms_version"]

/-- The times of a packet: when it was issued and when it expires. -/
def timesOf (lib : Library) (packet : PyVal) : Except Fault (ℤ × ℤ) := do
  let issued ← packet.at "issued_at"
  let issued ← parseZulu lib issued
  let expires ← packet.at "expires_at"
  let expires ← parseZulu lib expires
  pure (issued, expires)

/-- The checks of `verify_derived_packet` before the set is looked at. -/
def derivedChecks (lib : Library) (packet root : PyVal) (rootRegistry proofRegistry : Option PyVal)
    (now : PyVal) : Except Fault Unit := do
  verifyRoot lib root rootRegistry proofRegistry
  validateInstance lib "derived" packet
  walkForbidden [] packet
  requireHash (recordedContent packet) (contentHash lib packet) "HOLD_DERIVED_CONTENT_HASH_MISMATCH"
  requireAllSame packet root "HOLD_DERIVED_ROOT_BINDING" derivedFields
  let binding ← packet.at "action_binding"
  requireAllSame binding packet "HOLD_ACTION_ROOT_BINDING_MISMATCH" derivedFields
  requireHash (binding.at "action_hash") (actionHash lib binding) "HOLD_ACTION_HASH_MISMATCH"
  let (issued, expires) ← timesOf lib packet
  let current ← parseZulu lib now
  require (issued ≤ current ∧ current < expires) "HOLD_DERIVED_PACKET_TIME_INVALID"
  let packetType ← packet.at "packet_type"
  let governance ← inTexts packetType ["MEMBER_REVOCATION", "MEMBER_RECOVERY"]
  let ttl := (expires - issued) / 1000000
  require (0 < ttl ∧ ttl ≤ if governance then 86400 else 3600) "HOLD_DERIVED_PACKET_TTL_INVALID"

/-- `v is None` -/
def isNone : PyVal → Bool
  | .none => true
  | _ => false

/-- `_require(v[k] is None, code)` -/
def requireNone (v : PyVal) (k : String) (code : String) : Except Fault Unit := do
  let x ← v.at k
  require (isNone x) code

/-- `set(v[k]) == set(w[l])` -/
def requireSameSet (v : PyVal) (k : String) (w : PyVal) (l : String) (code : String) : Except Fault Unit := do
  let x ← v.at k
  let xs ← setOf x
  let y ← w.at l
  let ys ← setOf y
  require (sameSet xs ys) code

/-- `v > w`; the schemas have integers here. -/
def greater : PyVal → PyVal → Except Fault Bool
  | .int m, .int n => .ok (n < m)
  | _, _ => .error (.builtin .typeError)

/-- `v + 1`; the schemas have an integer here. -/
def successor : PyVal → Except Fault PyVal
  | .int n => .ok (.int (n + 1))
  | _ => .error (.builtin .typeError)

/-- The binding of a derived packet to its session and its scene. -/
def sessionChecks (packetType root binding payload : PyVal) : Except Fault Unit :=
  if pyEq packetType (lit "MEMBER_SESSION") then do
    requireSame binding "session_ref" payload "session_ref" "HOLD_DERIVED_SESSION_BINDING"
    requireNone binding "scene_ref" "HOLD_DERIVED_SESSION_BINDING"
    requireSame payload "subject_binding_ref" root "subject_binding_ref" "HOLD_DERIVED_CROSS_MEMBER"
  else do
    let scened ← inTexts packetType ["MEMBER_SCENE", "MEMBER_CONSENT", "MEMBER_ROLE_SEAT_LEASE"]
    if scened then do
      requireSame binding "session_ref" payload "session_ref" "HOLD_DERIVED_SESSION_SCENE_BINDING"
      requireSame binding "scene_ref" payload "scene_ref" "HOLD_DERIVED_SESSION_SCENE_BINDING"
    else do
      requireNone binding "session_ref" "HOLD_DERIVED_ROOT_GOVERNANCE_BINDING"
      requireNone binding "scene_ref" "HOLD_DERIVED_ROOT_GOVERNANCE_BINDING"

/-- The binding of a scene and of a consent to their action. -/
def actionChecks (binding payload : PyVal) : Except Fault Unit := do
  requireSame payload "purpose_ref" binding "purpose_ref" "HOLD_ACTION_PURPOSE_MISMATCH"
  requireSameSet payload "scope_refs" binding "scope_refs" "HOLD_ACTION_SCOPE_MISMATCH"
  requireSame payload "action_hash" binding "action_hash" "HOLD_ACTION_HASH_MISMATCH"

/-- The checks of a revocation. -/
def revocationChecks (root payload : PyVal) : Except Fault Unit := do
  let new ← payload.at "new_revocation_epoch"
  let previous ← payload.at "previous_revocation_epoch"
  let later ← greater new previous
  require later "HOLD_REVOCATION_EPOCH_RACE"
  requireSame payload "previous_revocation_epoch" root "revocation_epoch" "HOLD_REVOCATION_EPOCH_STALE"

/-- The checks of a recovery. -/
def recoveryChecks (root payload : PyVal) : Except Fault Unit := do
  requireSame payload "previous_root_packet_ref" root "root_packet_ref" "HOLD_RECOVERY_ROOT_MISMATCH"
  requireSame payload "expected_root_generation" root "root_generation"
    "HOLD_RECOVERY_COMPARE_AND_SWAP_MISMATCH"
  requireSame payload "expected_revocation_epoch" root "revocation_epoch"
    "HOLD_RECOVERY_COMPARE_AND_SWAP_MISMATCH"
  let new ← payload.at "new_root_generation"
  let generation ← root.at "root_generation"
  let next ← successor generation
  require (pyEq new next) "HOLD_RECOVERY_ROTATION_RACE"
  let newPacket ← payload.at "new_root_packet_ref"
  let rootPacket ← root.at "root_packet_ref"
  require (¬pyEq newPacket rootPacket) "HOLD_RECOVERY_ROTATION_RACE"

/-- `v.get(k) == w[l] and …` -/
def getSame (v : PyVal) (k : String) (w : PyVal) (l : String) (rest : Except Fault Bool) :
    Except Fault Bool := do
  let x ← get v k
  let y ← w.at l
  if pyEq x y then rest else pure false

/-- An entry of the registry of seats is the one that is leased. -/
def isSeatEntry (root payload entry : PyVal) : Except Fault Bool :=
  getSame entry "identity_root_ref" root "identity_root_ref" <|
    getSame entry "role_ref" payload "role_ref" <| getSame entry "seat_ref" payload "seat_ref" <|
      getSame entry "scene_ref" payload "scene_ref" do
        let state ← get entry "state"
        pure (pyEq state (lit "AVAILABLE_CANDIDATE"))

/-- The checks of the lease of a seat. -/
def leaseChecks (root binding payload : PyVal) (seatRegistry : Option PyVal) : Except Fault Unit := do
  requireSameSet payload "scope_refs" binding "scope_refs" "HOLD_ACTION_SCOPE_MISMATCH"
  let registry ← evidenced seatRegistry "HOLD_ROLE_SEAT_REGISTRY_NOT_EVIDENCED"
  requireGet registry "registry_ref" payload "role_table_snapshot_ref" "HOLD_ROLE_SEAT_SNAPSHOT_MISMATCH"
  requireGet registry "registry_sha256" payload "role_table_snapshot_hash" "HOLD_ROLE_SEAT_SNAPSHOT_MISMATCH"
  let entries ← getOr registry "entries" (.list [])
  let entries ← elementsOf entries
  let entries ← filterM (isSeatEntry root payload) entries
  require (entries.length = 1) "HOLD_FOUNDER_SEAT_BINDING"
  requireGet registry "seat_lease_cas_ref" payload "seat_lease_cas_ref" "HOLD_SEAT_LEASE_RACE"
  let active ← get registry "active_lease_refs"
  require (pyEq active (.list [])) "HOLD_SEAT_LEASE_RACE"

/-- The checks of a packet of its type. -/
def typeChecks (packetType root binding payload : PyVal) (seatRegistry : Option PyVal) : Except Fault Unit :=
  if pyEq packetType (lit "MEMBER_SCENE") then actionChecks binding payload
  else if pyEq packetType (lit "MEMBER_CONSENT") then do
    actionChecks binding payload
    requireSame payload "amount_currency_hash" binding "amount_currency_hash"
      "HOLD_AMOUNT_CURRENCY_HASH_MISMATCH"
  else if pyEq packetType (lit "MEMBER_REVOCATION") then revocationChecks root payload
  else if pyEq packetType (lit "MEMBER_RECOVERY") then recoveryChecks root payload
  else if pyEq packetType (lit "MEMBER_ROLE_SEAT_LEASE") then leaseChecks root binding payload seatRegistry
  else pure ()

/-- The checks of `verify_derived_packet` after the key was added. -/
def payloadChecks (packet root : PyVal) (seatRegistry : Option PyVal) : Except Fault PyVal := do
  let binding ← packet.at "action_binding"
  let payload ← packet.at "payload"
  let packetType ← packet.at "packet_type"
  sessionChecks packetType root binding payload
  typeChecks packetType root binding payload seatRegistry
  pure packetType

/-- `replay_key` -/
def replayKey (packet : PyVal) (scope : String) : Except Fault ReplayKey := do
  let domain ← packet.at scope
  let nonce ← packet.at "nonce_ref"
  pure (domain, nonce)

/-- What is returned. -/
def verdict (state : PyStr) : PyVal := obj [
  ("authority_granted", .bool false), ("runtime_enabled", .bool false), ("state", .str state)]

/-- `str(v)` -/
def str (lib : Library) : PyVal → PyStr
  | .str s => s
  | v => lib.text v

/-- The keys of a derived packet. -/
def derivedKeys (packet : PyVal) : Except Fault (List ReplayKey) := do
  let k ← replayKey packet "replay_domain_ref"
  pure [k]

/-- `verify_derived_packet` -/
def verifyDerivedPacket (lib : Library) (packet root : PyVal)
    (rootRegistry proofRegistry seatRegistry : Option PyVal) (now : PyVal) : EStateM Fault Ledger PyVal := do
  derivedChecks lib packet root rootRegistry proofRegistry now
  requireLedger
  let k ← replayKey packet "replay_domain_ref"
  consume k "HOLD_DERIVED_PACKET_REPLAY"
  let packetType ← payloadChecks packet root seatRegistry
  pure (verdict (cp "PASS_" ++ str lib packetType ++ cp "_CONTRACT_CANDIDATE"))

/-! ### Dual receipts -/

/-- The checks of `verify_dual_receipt` before the receipts are looked at. -/
def bindingChecks (lib : Library) (packet root : PyVal) (rootRegistry proofRegistry : Option PyVal) :
    Except Fault PyVal := do
  verifyRoot lib root rootRegistry proofRegistry
  validateInstance lib "dual_receipt" packet
  walkForbidden [] packet
  requireHash (recordedContent packet) (contentHash lib packet) "HOLD_DUAL_RECEIPT_CONTENT_HASH_MISMATCH"
  requireAllSame packet root "HOLD_RECEIPT_ROOT_BINDING_MISMATCH" rootFields
  let action ← packet.at "action_binding"
  requireHash (action.at "action_hash") (actionHash lib action) "HOLD_ACTION_HASH_MISMATCH"
  requireAllSame action packet "HOLD_ACTION_ROOT_BINDING_MISMATCH" rootFields
  requireAllSame action root "HOLD_ACTION_ROOT_BINDING_MISMATCH" ["member_display_hash", "terms_version"]
  requireAllSame packet action "HOLD_RECEIPT_SESSION_SCENE_MISMATCH" ["session_ref", "scene_ref"]
  pure action

/-- `{k: v[k] for k in keys}` -/
def collect (v : PyVal) (keys : List String) : Except Fault (List (String × PyVal)) :=
  keys.mapM fun k => do
    let x ← v.at k
    pure (k, x)

/-- The fields of an action that its receipts and the proof of the member share. -/
def actionFields : List String := ["action_hash", "purpose_ref", "scope_refs", "effect_class",
  "member_display_hash", "terms_version", "amount_currency_hash"]

/-- `all(proof.get(key) == value for key, value in expected.items())` -/
def agrees (proof : PyVal) : List (String × PyVal) → Except Fault Bool
  | [] => .ok true
  | (k, expected) :: rest => do
      let x ← get proof k
      if pyEq x expected then agrees proof rest else pure false

/-- The loop over the fields of a receipt. -/
def requireCommon (receipt : PyVal) (codeOf : String → String) :
    List (String × PyVal) → Except Fault Unit
  | [] => .ok ()
  | (k, expected) :: rest => do
      let x ← receipt.at k
      require (pyEq x expected) (codeOf k)
      requireCommon receipt codeOf rest

/-- `mismatch_codes.get(key, "HOLD_RECEIPT_SUBJECT_MISMATCH")` -/
def mismatchCode (k : String) : String :=
  match [("action_hash", "HOLD_ACTION_HASH_RECEIPT_MISMATCH"), ("purpose_ref", "HOLD_PURPOSE_REF_MISMATCH"),
    ("scope_refs", "HOLD_SCOPE_REFS_MISMATCH"), ("effect_class", "HOLD_EFFECT_CLASS_MISMATCH"),
    ("member_display_hash", "HOLD_MEMBER_DISPLAY_HASH_MISMATCH"),
    ("terms_version", "HOLD_TERMS_VERSION_MISMATCH"),
    ("amount_currency_hash", "HOLD_AMOUNT_CURRENCY_HASH_MISMATCH")].lookup k with
  | some code => code
  | none => "HOLD_RECEIPT_SUBJECT_MISMATCH"

/-- The checks of `verify_dual_receipt` on the two receipts, before the set is looked at. -/
def pairChecks (lib : Library) (packet root action member totalField : PyVal)
    (memberProofRegistry : Option PyVal) : Except Fault Unit := do
  requireHash (member.at "receipt_sha256") (receiptHash lib member) "HOLD_MEMBER_RECEIPT_HASH_MISMATCH"
  requireHash (totalField.at "receipt_sha256") (receiptHash lib totalField)
    "HOLD_TOTAL_FIELD_RECEIPT_HASH_MISMATCH"
  requireAllSame member root "HOLD_MEMBER_RECEIPT_PROOF_BINDING_MISMATCH"
    ["member_verification_key_commitment", "member_verification_method_ref"]
  let registry ← evidenced memberProofRegistry "HOLD_MEMBER_PROOF_REGISTRY_NOT_EVIDENCED"
  requireGet registry "registry_ref" member "trusted_member_proof_registry_ref"
    "HOLD_MEMBER_PROOF_REGISTRY_MISMATCH"
  let proof ← proofOf registry member "member_proof_ref" "HOLD_MEMBER_RECEIPT_INVALID"
  let ofMember ← collect member ["receipt_ref"]
  let ofRoot ← collect root
    (rootFields ++ ["member_verification_key_commitment", "member_verification_method_ref"])
  let ofAction ← collect action actionFields
  let valid ← agrees proof
    (ofMember ++ ofRoot ++ ofAction ++ [("verification_state", lit "VERIFIED_CANDIDATE_EVIDENCE")])
  require valid "HOLD_MEMBER_RECEIPT_INVALID"
  let ofPacket ← collect packet (rootFields ++ ["session_ref", "scene_ref"])
  requireCommon member mismatchCode (ofPacket ++ ofAction)
  requireCommon totalField mismatchCode (ofPacket ++ ofAction)
  let odoo ← packet.at "odoo_binding"
  requireSame odoo "action_hash" action "action_hash" "HOLD_ACTION_HASH_RECEIPT_MISMATCH"

/-- The time of a receipt is checked, and its key is made. -/
def receiptKey (lib : Library) (current : ℤ) (receipt : PyVal) : Except Fault ReplayKey := do
  let issued ← receipt.at "issued_at"
  let issued ← parseZulu lib issued
  require (issued ≤ current) "HOLD_RECEIPT_TIME_INVALID"
  let expires ← receipt.at "expires_at"
  let expires ← parseZulu lib expires
  require (current < expires) "HOLD_RECEIPT_TIME_INVALID"
  replayKey receipt "authority"

/-- The body of the loop over the two receipts. -/
def acceptReceipt (lib : Library) (current : ℤ) (receipt : PyVal) : EStateM Fault Ledger Unit := do
  let k ← receiptKey lib current receipt
  consume k "HOLD_RECEIPT_REPLAY"

/-- `a or b` -/
def orElse (a b : Except Fault Bool) : Except Fault Bool := do
  let x ← a
  if x then pure true else b

/-- `a and b` -/
def andThen (a b : Except Fault Bool) : Except Fault Bool := do
  let x ← a
  if x then b else pure false

/-- `v[k] == text` -/
def isText (v : PyVal) (k text : String) : Except Fault Bool := do
  let x ← v.at k
  pure (pyEq x (lit text))

/-- `expected_state` and `result_state` -/
def joined (packet member totalField : PyVal) : Except Fault (String × String) := do
  let refused := do
    let decision ← member.at "decision"
    inTexts decision ["DENY", "WITHDRAW"]
  let blocked ← orElse refused (isText totalField "decision" "BLOCK")
  if blocked then pure ("BLOCK", "BLOCK_MEMBER_OR_TOTAL_FIELD_DECISION") else do
  let bound := do
    let odoo ← packet.at "odoo_binding"
    isText odoo "state" "BOUND"
  let ready ← andThen (isText member "decision" "CONSENT") (andThen (isText totalField "decision" "PASS") bound)
  pure (if ready then ("READY_CANDIDATE", "PASS_DUAL_RECEIPT_READY_CANDIDATE")
    else ("HOLD", "HOLD_DUAL_RECEIPT_NOT_READY"))

/-- The checks of `verify_dual_receipt` after both keys were added. -/
def joinChecks (packet member totalField : PyVal) : Except Fault String := do
  let (expected, result) ← joined packet member totalField
  let aggregate ← packet.at "aggregate_state"
  require (pyEq aggregate (lit expected)) "HOLD_AGGREGATE_STATE_MISMATCH"
  pure result

/-- The keys of a dual receipt. -/
def dualKeys (packet : PyVal) : Except Fault (List ReplayKey) := do
  let member ← packet.at "member_receipt"
  let totalField ← packet.at "total_field_receipt"
  let k ← replayKey member "authority"
  let l ← replayKey totalField "authority"
  pure [k, l]

/-- `verify_dual_receipt` -/
def verifyDualReceipt (lib : Library) (packet root : PyVal)
    (rootRegistry proofRegistry memberProofRegistry : Option PyVal) (now : PyVal) :
    EStateM Fault Ledger PyVal := do
  let action ← bindingChecks lib packet root rootRegistry proofRegistry
  let member ← (packet.at "member_receipt" : Except Fault PyVal)
  let totalField ← (packet.at "total_field_receipt" : Except Fault PyVal)
  pairChecks lib packet root action member totalField memberProofRegistry
  requireLedger
  let current ← parseZulu lib now
  acceptReceipt lib current member
  acceptReceipt lib current totalField
  let result ← joinChecks packet member totalField
  pure (obj [("state", lit result), ("candidate_only", .bool true), ("authority_granted", .bool false),
    ("runtime_enabled", .bool false)])

/-! ### What is checked when keys have been added -/

/-- `v[k] is None` -/
def IsNoneAt (v : PyVal) (k : String) : Prop := v.at k = (.ok .none : Except Fault PyVal)

/-- `set(v[k]) == set(w[l])` -/
def SameSet (v : PyVal) (k : String) (w : PyVal) (l : String) : Prop :=
  ∃ x xs y ys, v.at k = (.ok x : Except Fault PyVal) ∧ setOf x = .ok xs ∧
    w.at l = (.ok y : Except Fault PyVal) ∧ setOf y = .ok ys ∧ sameSet xs ys = true

/-- `v.get(k) == w[l]` -/
def SameGet (v : PyVal) (k : String) (w : PyVal) (l : String) : Prop :=
  ∃ x y, get v k = .ok x ∧ w.at l = (.ok y : Except Fault PyVal) ∧ pyEq x y = true

theorem requireNone_eq_ok_iff {v : PyVal} {k code : String} {u : Unit} :
    requireNone v k code = .ok u ↔ IsNoneAt v k := by
  simp only [requireNone, bind_eq_ok_iff, require_eq_ok_iff, IsNoneAt]
  constructor
  · rintro ⟨x, hx, hnone⟩
    cases x with
    | none => exact hx
    | _ => cases hnone
  · exact fun h => ⟨_, h, rfl⟩

theorem requireSameSet_eq_ok_iff {v w : PyVal} {k l code : String} {u : Unit} :
    requireSameSet v k w l code = .ok u ↔ SameSet v k w l := by
  simp only [requireSameSet, bind_eq_ok_iff, require_eq_ok_iff, SameSet]
  constructor
  · rintro ⟨x, hx, xs, hxs, y, hy, ys, hys, h⟩
    exact ⟨x, xs, y, ys, hx, hxs, hy, hys, h⟩
  · rintro ⟨x, xs, y, ys, hx, hxs, hy, hys, h⟩
    exact ⟨x, hx, xs, hxs, y, hy, ys, hys, h⟩

theorem requireGet_eq_ok_iff {v w : PyVal} {k l code : String} {u : Unit} :
    requireGet v k w l code = .ok u ↔ SameGet v k w l := by
  simp only [requireGet, bind_eq_ok_iff, require_eq_ok_iff, SameGet]
  constructor
  · rintro ⟨x, hx, y, hy, h⟩
    exact ⟨x, y, hx, hy, h⟩
  · rintro ⟨x, y, hx, hy, h⟩
    exact ⟨x, hx, y, hy, h⟩

/-- The packets that belong to a session and a scene. -/
def scenedTypes : List String := ["MEMBER_SCENE", "MEMBER_CONSENT", "MEMBER_ROLE_SEAT_LEASE"]

/-- A packet is bound to its session and its scene. -/
structure SessionBound (packetType root binding payload : PyVal) : Prop where
  session : packetType = lit "MEMBER_SESSION" → Same binding "session_ref" payload "session_ref" ∧
    IsNoneAt binding "scene_ref" ∧ Same payload "subject_binding_ref" root "subject_binding_ref"
  scene : (∃ t ∈ scenedTypes, packetType = lit t) → Same binding "session_ref" payload "session_ref" ∧
    Same binding "scene_ref" payload "scene_ref"
  governance : packetType ≠ lit "MEMBER_SESSION" → (¬∃ t ∈ scenedTypes, packetType = lit t) →
    IsNoneAt binding "session_ref" ∧ IsNoneAt binding "scene_ref"

/-- A payload is bound to an action. -/
structure ActionBound (binding payload : PyVal) : Prop where
  purpose : Same payload "purpose_ref" binding "purpose_ref"
  scopes : SameSet payload "scope_refs" binding "scope_refs"
  action : Same payload "action_hash" binding "action_hash"

/-- A revocation goes on from the epoch of the root. -/
structure RevocationBound (root payload : PyVal) : Prop where
  later : ∃ m n, payload.at "new_revocation_epoch" = (.ok (.int n) : Except Fault PyVal) ∧
    payload.at "previous_revocation_epoch" = (.ok (.int m) : Except Fault PyVal) ∧ m < n
  current : Same payload "previous_revocation_epoch" root "revocation_epoch"

/-- A recovery goes on from the generation of the root. -/
structure RecoveryBound (root payload : PyVal) : Prop where
  previous : Same payload "previous_root_packet_ref" root "root_packet_ref"
  generation : Same payload "expected_root_generation" root "root_generation"
  epoch : Same payload "expected_revocation_epoch" root "revocation_epoch"
  next : ∃ x n, payload.at "new_root_generation" = (.ok x : Except Fault PyVal) ∧
    root.at "root_generation" = (.ok (.int n) : Except Fault PyVal) ∧ pyEq x (.int (n + 1)) = true
  rotated : ∃ x y, payload.at "new_root_packet_ref" = (.ok x : Except Fault PyVal) ∧
    root.at "root_packet_ref" = (.ok y : Except Fault PyVal) ∧ ¬pyEq x y = true

/-- The seat is in the registry once, and nobody has it. -/
structure SeatFree (root payload registry : PyVal) : Prop where
  snapshot : SameGet registry "registry_ref" payload "role_table_snapshot_ref"
  digest : SameGet registry "registry_sha256" payload "role_table_snapshot_hash"
  unique : ∃ v xs entry, getOr registry "entries" (.list []) = .ok v ∧ elementsOf v = .ok xs ∧
    filterM (isSeatEntry root payload) xs = .ok [entry]
  swap : SameGet registry "seat_lease_cas_ref" payload "seat_lease_cas_ref"
  vacant : ∃ v, get registry "active_lease_refs" = .ok v ∧ pyEq v (.list []) = true

/-- A seat is leased. -/
structure LeaseBound (root binding payload : PyVal) (seatRegistry : Option PyVal) : Prop where
  scopes : SameSet payload "scope_refs" binding "scope_refs"
  seat : ∃ registry, seatRegistry = some registry ∧ SeatFree root payload registry

/-- What a packet of its type is bound to. -/
structure TypeBound (packetType root binding payload : PyVal) (seatRegistry : Option PyVal) : Prop where
  session : SessionBound packetType root binding payload
  scene : packetType = lit "MEMBER_SCENE" → ActionBound binding payload
  consent : packetType = lit "MEMBER_CONSENT" → ActionBound binding payload ∧
    Same payload "amount_currency_hash" binding "amount_currency_hash"
  revocation : packetType = lit "MEMBER_REVOCATION" → RevocationBound root payload
  recovery : packetType = lit "MEMBER_RECOVERY" → RecoveryBound root payload
  lease : packetType = lit "MEMBER_ROLE_SEAT_LEASE" → LeaseBound root binding payload seatRegistry

/-- The payload of a derived packet is bound to its action, its root and the seats. -/
def PayloadBound (packet root : PyVal) (seatRegistry : Option PyVal) : Prop :=
  ∃ binding payload packetType, packet.at "action_binding" = (.ok binding : Except Fault PyVal) ∧
    packet.at "payload" = (.ok payload : Except Fault PyVal) ∧
    packet.at "packet_type" = (.ok packetType : Except Fault PyVal) ∧ isHashable packetType = true ∧
    TypeBound packetType root binding payload seatRegistry

/-- The state of a dual receipt is that of its two decisions. -/
def Joined (packet member totalField : PyVal) : Prop :=
  ∃ p, joined packet member totalField = .ok p ∧
    packet.at "aggregate_state" = (.ok (lit p.1) : Except Fault PyVal)

theorem sessionChecks_eq_ok_iff {packetType root binding payload : PyVal} {u : Unit} :
    sessionChecks packetType root binding payload = .ok u ↔
      isHashable packetType = true ∧ SessionBound packetType root binding payload := by
  unfold sessionChecks
  by_cases hsession : packetType = lit "MEMBER_SESSION"
  · have hscene : ¬∃ t ∈ scenedTypes, packetType = lit t := by
      rintro ⟨t, ht, rfl⟩
      obtain rfl := cp_injective (PyVal.str.inj hsession)
      exact absurd ht (by decide)
    rw [if_pos (pyEq_lit.2 hsession), check_bind_eq_ok_iff, check_bind_eq_ok_iff, requireSame_eq_ok_iff,
      requireNone_eq_ok_iff, requireSame_eq_ok_iff]
    constructor
    · exact fun h => ⟨by rw [hsession]; rfl, fun _ => h, fun h => absurd h hscene, fun h => absurd hsession h⟩
    · exact fun h => h.2.session hsession
  · rw [if_neg (fun h => hsession (pyEq_lit.1 h)), bind_eq_ok_iff]
    by_cases hhash : isHashable packetType = true
    · have hin : (inTexts packetType scenedTypes : Except Fault Bool) =
          .ok (scenedTypes.any fun t => pyEq packetType (lit t)) := by rw [inTexts, if_pos hhash]
      have hany : (scenedTypes.any fun t => pyEq packetType (lit t)) = true ↔
          ∃ t ∈ scenedTypes, packetType = lit t := by simp only [List.any_eq_true, pyEq_lit]
      change (∃ a, inTexts packetType scenedTypes = .ok a ∧ _) ↔ _
      rw [hin]
      by_cases hscene : ∃ t ∈ scenedTypes, packetType = lit t
      · rw [hany.2 hscene]
        simp only [Except.ok.injEq, exists_eq_left', if_true, check_bind_eq_ok_iff, requireSame_eq_ok_iff]
        constructor
        · exact fun h => ⟨hhash, fun h => absurd h hsession, fun _ => h, fun _ h => absurd hscene h⟩
        · exact fun h => h.2.scene hscene
      · rw [Bool.eq_false_iff.2 (mt hany.1 hscene)]
        simp only [Except.ok.injEq, exists_eq_left', Bool.false_eq_true, if_false, check_bind_eq_ok_iff,
          requireNone_eq_ok_iff]
        constructor
        · exact fun h => ⟨hhash, fun h => absurd h hsession, fun h => absurd h hscene, fun _ _ => h⟩
        · exact fun h => h.2.governance hsession hscene
    · refine iff_of_false ?_ fun h => hhash h.1
      rintro ⟨b, hb, -⟩
      rw [inTexts, if_neg hhash] at hb
      cases hb

theorem actionChecks_eq_ok_iff {binding payload : PyVal} {u : Unit} :
    actionChecks binding payload = .ok u ↔ ActionBound binding payload := by
  rw [actionChecks, check_bind_eq_ok_iff, check_bind_eq_ok_iff, requireSame_eq_ok_iff,
    requireSameSet_eq_ok_iff, requireSame_eq_ok_iff]
  exact ⟨fun h => ⟨h.1, h.2.1, h.2.2⟩, fun h => ⟨h.purpose, h.scopes, h.action⟩⟩

theorem greater_eq_ok_true_iff {v w : PyVal} :
    greater v w = .ok true ↔ ∃ m n, v = .int n ∧ w = .int m ∧ m < n := by
  constructor
  · intro h
    unfold greater at h
    split at h
    · next n m => exact ⟨m, n, rfl, rfl, by simpa using h⟩
    · cases h
  · rintro ⟨m, n, rfl, rfl, h⟩
    simp [greater, h]

theorem revocationChecks_eq_ok_iff {root payload : PyVal} {u : Unit} :
    revocationChecks root payload = .ok u ↔ RevocationBound root payload := by
  simp only [revocationChecks, bind_eq_ok_iff, require_eq_ok_iff, requireSame_eq_ok_iff]
  constructor
  · rintro ⟨new, hnew, previous, hprevious, later, hgreater, -, rfl, hcurrent⟩
    obtain ⟨m, n, rfl, rfl, hlt⟩ := greater_eq_ok_true_iff.1 hgreater
    exact ⟨⟨m, n, hnew, hprevious, hlt⟩, hcurrent⟩
  · rintro ⟨⟨m, n, hnew, hprevious, hlt⟩, hcurrent⟩
    exact ⟨_, hnew, _, hprevious, true, greater_eq_ok_true_iff.2 ⟨m, n, rfl, rfl, hlt⟩, (), rfl, hcurrent⟩

theorem successor_eq_ok_iff {v w : PyVal} : successor v = .ok w ↔ ∃ n, v = .int n ∧ w = .int (n + 1) := by
  cases v <;> simp [successor, eq_comm]

theorem recoveryChecks_eq_ok_iff {root payload : PyVal} {u : Unit} :
    recoveryChecks root payload = .ok u ↔ RecoveryBound root payload := by
  simp only [recoveryChecks, bind_eq_ok_iff, require_eq_ok_iff, requireSame_eq_ok_iff,
    successor_eq_ok_iff]
  constructor
  · rintro ⟨-, hprevious, -, hgeneration, -, hepoch, x, hx, y, hy, z, ⟨n, rfl, rfl⟩, -, hnext, v, hv, w, hw,
      hrotated⟩
    exact ⟨hprevious, hgeneration, hepoch, ⟨x, n, hx, hy, hnext⟩, ⟨v, w, hv, hw, hrotated⟩⟩
  · rintro ⟨hprevious, hgeneration, hepoch, ⟨x, n, hx, hy, hnext⟩, ⟨v, w, hv, hw, hrotated⟩⟩
    exact ⟨(), hprevious, (), hgeneration, (), hepoch, x, hx, _, hy, _, ⟨n, rfl, rfl⟩, (), hnext, v, hv, w, hw,
      hrotated⟩

theorem leaseChecks_eq_ok_iff {root binding payload : PyVal} {seatRegistry : Option PyVal} {u : Unit} :
    leaseChecks root binding payload seatRegistry = .ok u ↔ LeaseBound root binding payload seatRegistry := by
  simp only [leaseChecks, bind_eq_ok_iff, require_eq_ok_iff, requireSameSet_eq_ok_iff, requireGet_eq_ok_iff,
    List.length_eq_one_iff]
  constructor
  · rintro ⟨-, hscopes, registry, hregistry, -, hsnapshot, -, hdigest, v, hv, xs, hxs, entries, hentries, -,
      ⟨entry, rfl⟩, -, hswap, active, hactive, hvacant⟩
    refine ⟨hscopes, registry, ?_, hsnapshot, hdigest, ⟨v, xs, entry, hv, hxs, hentries⟩, hswap,
      ⟨active, hactive, hvacant⟩⟩
    cases seatRegistry with
    | some r => exact congrArg some (Except.ok.inj hregistry)
    | none => cases hregistry
  · rintro ⟨hscopes, registry, rfl, hsnapshot, hdigest, ⟨v, xs, entry, hv, hxs, hentries⟩, hswap,
      ⟨active, hactive, hvacant⟩⟩
    exact ⟨(), hscopes, registry, rfl, (), hsnapshot, (), hdigest, v, hv, xs, hxs, _, hentries, (),
      ⟨entry, rfl⟩, (), hswap, active, hactive, hvacant⟩

theorem typeChecks_eq_ok_iff {packetType root binding payload : PyVal} {seatRegistry : Option PyVal} {u : Unit}
    (hsession : SessionBound packetType root binding payload) :
    typeChecks packetType root binding payload seatRegistry = .ok u ↔
      TypeBound packetType root binding payload seatRegistry := by
  have hne : ∀ {s t : String}, s ≠ t → packetType = lit s → packetType ≠ lit t := by
    rintro s t hst rfl heq
    exact hst (cp_injective (PyVal.str.inj heq))
  have hif : ∀ {t : String} {x y : Except Fault Unit}, packetType ≠ lit t →
      (if pyEq packetType (lit t) then x else y) = y := fun h => if_neg (mt pyEq_lit.1 h)
  unfold typeChecks
  by_cases hscene : packetType = lit "MEMBER_SCENE"
  · rw [if_pos (pyEq_lit.2 hscene), actionChecks_eq_ok_iff]
    exact ⟨fun h => ⟨hsession, fun _ => h, fun h => absurd h (hne (by decide) hscene),
      fun h => absurd h (hne (by decide) hscene), fun h => absurd h (hne (by decide) hscene),
      fun h => absurd h (hne (by decide) hscene)⟩, fun h => h.scene hscene⟩
  rw [hif hscene]
  by_cases hconsent : packetType = lit "MEMBER_CONSENT"
  · rw [if_pos (pyEq_lit.2 hconsent), check_bind_eq_ok_iff, actionChecks_eq_ok_iff, requireSame_eq_ok_iff]
    exact ⟨fun h => ⟨hsession, fun h => absurd h hscene, fun _ => h,
      fun h => absurd h (hne (by decide) hconsent), fun h => absurd h (hne (by decide) hconsent),
      fun h => absurd h (hne (by decide) hconsent)⟩, fun h => h.consent hconsent⟩
  rw [hif hconsent]
  by_cases hrevocation : packetType = lit "MEMBER_REVOCATION"
  · rw [if_pos (pyEq_lit.2 hrevocation), revocationChecks_eq_ok_iff]
    exact ⟨fun h => ⟨hsession, fun h => absurd h hscene, fun h => absurd h hconsent, fun _ => h,
      fun h => absurd h (hne (by decide) hrevocation), fun h => absurd h (hne (by decide) hrevocation)⟩,
      fun h => h.revocation hrevocation⟩
  rw [hif hrevocation]
  by_cases hrecovery : packetType = lit "MEMBER_RECOVERY"
  · rw [if_pos (pyEq_lit.2 hrecovery), recoveryChecks_eq_ok_iff]
    exact ⟨fun h => ⟨hsession, fun h => absurd h hscene, fun h => absurd h hconsent,
      fun h => absurd h hrevocation, fun _ => h, fun h => absurd h (hne (by decide) hrecovery)⟩,
      fun h => h.recovery hrecovery⟩
  rw [hif hrecovery]
  by_cases hlease : packetType = lit "MEMBER_ROLE_SEAT_LEASE"
  · rw [if_pos (pyEq_lit.2 hlease), leaseChecks_eq_ok_iff]
    exact ⟨fun h => ⟨hsession, fun h => absurd h hscene, fun h => absurd h hconsent,
      fun h => absurd h hrevocation, fun h => absurd h hrecovery, fun _ => h⟩, fun h => h.lease hlease⟩
  rw [hif hlease]
  exact iff_of_true rfl ⟨hsession, fun h => absurd h hscene, fun h => absurd h hconsent,
    fun h => absurd h hrevocation, fun h => absurd h hrecovery, fun h => absurd h hlease⟩

/-- When the payload passes. -/
theorem payloadChecks_isOk_iff {packet root : PyVal} {seatRegistry : Option PyVal} :
    (∃ v, payloadChecks packet root seatRegistry = .ok v) ↔ PayloadBound packet root seatRegistry := by
  simp only [payloadChecks, bind_eq_ok_iff, sessionChecks_eq_ok_iff, PayloadBound]
  constructor
  · rintro ⟨-, binding, hbinding, payload, hpayload, packetType, htype, -, ⟨hhash, hsession⟩, u, hchecks, -⟩
    exact ⟨binding, payload, packetType, hbinding, hpayload, htype, hhash,
      (typeChecks_eq_ok_iff hsession).1 hchecks⟩
  · rintro ⟨binding, payload, packetType, hbinding, hpayload, htype, hhash, hbound⟩
    exact ⟨packetType, binding, hbinding, payload, hpayload, packetType, htype, (), ⟨hhash, hbound.session⟩, (),
      (typeChecks_eq_ok_iff hbound.session).2 hbound, rfl⟩

/-- When the decisions are joined. -/
theorem joinChecks_isOk_iff {packet member totalField : PyVal} :
    (∃ result, joinChecks packet member totalField = .ok result) ↔ Joined packet member totalField := by
  simp only [joinChecks, bind_eq_ok_iff, require_eq_ok_iff, pyEq_lit, Joined]
  constructor
  · rintro ⟨-, p, hp, aggregate, haggregate, -, rfl, -⟩
    exact ⟨p, hp, haggregate⟩
  · rintro ⟨p, hp, haggregate⟩
    exact ⟨p.2, p, hp, _, haggregate, (), rfl, rfl⟩

/-! ### When a verification is atomic -/

section Methods

variable {α : Type} {ledger : Ledger} {keys : Except Fault (List ReplayKey)}

theorem atomic_error {method : EStateM Fault Ledger α} {e : Fault} (h : method.run ledger = .error e ledger) :
    Atomic method ledger keys := by
  rw [Atomic, h]

/-- Checks before the rest of a verification. -/
theorem atomic_lift_bind_iff {β : Type} {x : Except Fault β} {f : β → EStateM Fault Ledger α} :
    Atomic ((liftM x : EStateM Fault Ledger β) >>= f) ledger keys ↔ ∀ b, x = .ok b → Atomic (f b) ledger keys := by
  cases x with
  | ok b => exact ⟨fun h c hc => Except.ok.inj hc ▸ h, fun h => h b rfl⟩
  | error e => exact iff_of_true (atomic_error rfl) (fun b hb => by cases hb)

/-- The set has to be given. -/
theorem atomic_requireLedger_iff {f : Unit → EStateM Fault Ledger α} :
    Atomic (requireLedger >>= f) ledger keys ↔ ∀ seen, ledger = some seen → Atomic (f ()) ledger keys := by
  cases ledger with
  | some seen => exact ⟨fun h _ _ => h, fun h => h seen rfl⟩
  | none => exact iff_of_true (atomic_error rfl) (fun seen hseen => by cases hseen)

end Methods

theorem run_consume {seen : List ReplayKey} {k : ReplayKey} (code : String) (h : IsNew seen k) :
    (consume k code).run (some seen) = .ok () (some (seen ++ [k])) := by
  obtain ⟨hfst, hsnd, hnew⟩ := h
  simp [consume, EStateM.run, hfst, hsnd, hnew]

theorem run_consume_of_not {seen : List ReplayKey} {k : ReplayKey} (code : String) (h : ¬IsNew seen k) :
    ∃ e, (consume k code).run (some seen) = .error e (some seen) := by
  simp only [IsNew, not_and, Bool.not_eq_false] at h
  by_cases hhash : (isHashable k.1 && isHashable k.2) = true
  · have hseen := h (Bool.and_eq_true_iff.1 hhash).1 (Bool.and_eq_true_iff.1 hhash).2
    exact ⟨_, by simp [consume, EStateM.run, hhash, hseen]; rfl⟩
  · exact ⟨.builtin .typeError, by simp [consume, EStateM.run, hhash]⟩

/-- The checks after the last key was added fail, or they do not. -/
theorem atomic_consume_lift_iff {α β : Type} {seen : List ReplayKey} {k : ReplayKey} {code : String}
    {x : Except Fault β} {f : β → α} :
    Atomic (consume k code >>= fun _ => (liftM x : EStateM Fault Ledger β) >>= fun b => pure (f b)) (some seen)
      (.ok [k]) ↔ (IsNew seen k → ∃ b, x = .ok b) := by
  by_cases h : IsNew seen k
  · rw [Atomic, EStateM.run_bind, run_consume code h]
    cases x with
    | ok b => exact iff_of_true ⟨seen, [k], rfl, rfl, rfl, by simpa using h.2.2⟩ fun _ => ⟨b, rfl⟩
    | error e =>
        refine iff_of_false (fun heq => ?_) fun hall => ?_
        · exact absurd (Option.some.inj heq) (by simp)
        · obtain ⟨b, hb⟩ := hall h
          cases hb
  · obtain ⟨e, he⟩ := run_consume_of_not code h
    exact iff_of_true (atomic_error (by rw [EStateM.run_bind, he])) fun hnew => absurd hnew h

/-- The verification of a derived packet is atomic exactly when the payload of a packet whose key is added is
bound. -/
theorem derived_atomic_iff {lib : Library} {packet root : PyVal}
    {rootRegistry proofRegistry seatRegistry : Option PyVal} {now : PyVal} {ledger : Ledger} :
    Atomic (verifyDerivedPacket lib packet root rootRegistry proofRegistry seatRegistry now) ledger
        (derivedKeys packet) ↔
      ∀ seen k, derivedChecks lib packet root rootRegistry proofRegistry now = .ok () → ledger = some seen →
        replayKey packet "replay_domain_ref" = .ok k → IsNew seen k → PayloadBound packet root seatRegistry := by
  rw [verifyDerivedPacket, atomic_lift_bind_iff]
  simp only [atomic_requireLedger_iff, atomic_lift_bind_iff, ← payloadChecks_isOk_iff]
  have hkeys : ∀ {k}, replayKey packet "replay_domain_ref" = .ok k → derivedKeys packet = .ok [k] :=
    fun h => by rw [derivedKeys, h]; rfl
  constructor
  · intro h seen k hchecks hledger hk
    subst hledger
    have hatomic := h () hchecks seen rfl k hk
    rw [hkeys hk] at hatomic
    exact atomic_consume_lift_iff.1 hatomic
  · intro h u hchecks seen hledger k hk
    subst hledger
    rw [hkeys hk]
    exact atomic_consume_lift_iff.2 (h seen k hchecks rfl hk)

/-! ### Two keys -/

section Pair

variable {lib : Library} {current : ℤ} {member totalField : PyVal} {seen : List ReplayKey} {k : ReplayKey}

theorem replayKey_of_receiptKey {receipt : PyVal} (h : receiptKey lib current receipt = .ok k) :
    replayKey receipt "authority" = .ok k := by
  simp only [receiptKey, bind_eq_ok_iff, require_eq_ok_iff] at h
  obtain ⟨-, -, -, -, -, -, -, -, -, -, -, -, h⟩ := h
  exact h

/-- A receipt whose time is right and whose key is new has its key added. -/
theorem run_acceptReceipt {receipt : PyVal} (hk : receiptKey lib current receipt = .ok k) (h : IsNew seen k) :
    (acceptReceipt lib current receipt).run (some seen) = .ok () (some (seen ++ [k])) := by
  rw [acceptReceipt, hk]
  exact run_consume _ h

/-- Any other receipt is held, and the set is left alone. -/
theorem run_acceptReceipt_of_not {receipt : PyVal} (h : ∀ k, receiptKey lib current receipt = .ok k → ¬IsNew seen k) :
    ∃ e, (acceptReceipt lib current receipt).run (some seen) = .error e (some seen) := by
  cases hk : receiptKey lib current receipt with
  | error e => exact ⟨e, by rw [acceptReceipt, hk]; rfl⟩
  | ok k =>
      obtain ⟨e, he⟩ := run_consume_of_not "HOLD_RECEIPT_REPLAY" (h k hk)
      exact ⟨e, by rw [acceptReceipt, hk]; exact he⟩

/-- What is still checked when the key of the member's receipt is added. -/
def PairBound (lib : Library) (current : ℤ) (seen : List ReplayKey) (k : ReplayKey)
    (packet member totalField : PyVal) : Prop :=
  (∃ l, receiptKey lib current totalField = .ok l ∧ IsNew (seen ++ [k]) l) ∧ Joined packet member totalField

/-- The loop over the two receipts, and the checks behind it. -/
theorem atomic_pair_iff {α β : Type} {keys : Except Fault (List ReplayKey)} {x : Except Fault β} {f : β → α}
    (hkeys : ∀ k l, replayKey member "authority" = .ok k → replayKey totalField "authority" = .ok l →
      keys = .ok [k, l]) :
    Atomic (acceptReceipt lib current member >>= fun _ => acceptReceipt lib current totalField >>= fun _ =>
        (liftM x : EStateM Fault Ledger β) >>= fun b => pure (f b)) (some seen) keys ↔
      ∀ k, receiptKey lib current member = .ok k → IsNew seen k →
        (∃ l, receiptKey lib current totalField = .ok l ∧ IsNew (seen ++ [k]) l) ∧ ∃ b, x = .ok b := by
  by_cases hfirst : ∃ k, receiptKey lib current member = .ok k ∧ IsNew seen k
  · obtain ⟨k, hk, hnew⟩ := hfirst
    have hleft : some (seen ++ [k]) ≠ some seen := fun h => absurd (Option.some.inj h) (by simp)
    rw [Atomic, EStateM.run_bind, run_acceptReceipt hk hnew]
    simp only [EStateM.run_bind]
    by_cases hsecond : ∃ l, receiptKey lib current totalField = .ok l ∧ IsNew (seen ++ [k]) l
    · obtain ⟨l, hl, hlnew⟩ := hsecond
      rw [run_acceptReceipt hl hlnew]
      cases x with
      | ok b =>
          refine iff_of_true ⟨seen, [k, l], rfl, hkeys k l (replayKey_of_receiptKey hk)
            (replayKey_of_receiptKey hl), by simp, ?_⟩ fun k' hk' _ => ?_
          · have hlseen := hlnew.2.2
            simp only [isSeen, List.any_append, Bool.or_eq_false_iff] at hlseen
            simpa using ⟨hnew.2.2, hlseen.1⟩
          · obtain rfl := Except.ok.inj (hk.symm.trans hk')
            exact ⟨⟨l, hl, hlnew⟩, b, rfl⟩
      | error e =>
          refine iff_of_false (fun heq => ?_) fun hall => ?_
          · exact absurd (Option.some.inj heq) (by simp)
          · obtain ⟨-, b, hb⟩ := hall k hk hnew
            cases hb
    · obtain ⟨e, he⟩ := run_acceptReceipt_of_not fun l hl hlnew => hsecond ⟨l, hl, hlnew⟩
      rw [he]
      exact iff_of_false hleft fun hall => hsecond (hall k hk hnew).1
  · obtain ⟨e, he⟩ := run_acceptReceipt_of_not fun k hk hnew => hfirst ⟨k, hk, hnew⟩
    exact iff_of_true (atomic_error (by rw [EStateM.run_bind, he]))
      fun k hk hnew => absurd ⟨k, hk, hnew⟩ hfirst

end Pair

/-- The verification of a dual receipt is atomic exactly when a pair whose first key is added has a second
receipt whose time is right and whose key is new, and the decisions are joined. -/
theorem dual_atomic_iff {lib : Library} {packet root : PyVal}
    {rootRegistry proofRegistry memberProofRegistry : Option PyVal} {now : PyVal} {ledger : Ledger} :
    Atomic (verifyDualReceipt lib packet root rootRegistry proofRegistry memberProofRegistry now) ledger
        (dualKeys packet) ↔
      ∀ action member totalField seen current k,
        bindingChecks lib packet root rootRegistry proofRegistry = .ok action →
        packet.at "member_receipt" = (.ok member : Except Fault PyVal) →
        packet.at "total_field_receipt" = (.ok totalField : Except Fault PyVal) →
        pairChecks lib packet root action member totalField memberProofRegistry = .ok () →
        ledger = some seen → parseZulu lib now = .ok current → receiptKey lib current member = .ok k →
        IsNew seen k → PairBound lib current seen k packet member totalField := by
  simp only [verifyDualReceipt, atomic_lift_bind_iff, atomic_requireLedger_iff, PairBound,
    ← joinChecks_isOk_iff]
  have hkeys : ∀ {member totalField}, packet.at "member_receipt" = (.ok member : Except Fault PyVal) →
      packet.at "total_field_receipt" = (.ok totalField : Except Fault PyVal) → ∀ k l,
      replayKey member "authority" = .ok k → replayKey totalField "authority" = .ok l →
      dualKeys packet = .ok [k, l] := by
    intro member totalField hmember htotal k l hk hl
    rw [dualKeys, hmember, ok_bind, htotal, ok_bind, hk, ok_bind, hl]
    rfl
  constructor
  · intro h action member totalField seen current k haction hmember htotal hpair hledger hcurrent
    subst hledger
    exact (atomic_pair_iff (hkeys hmember htotal)).1
      (h action haction member hmember totalField htotal () hpair seen rfl current hcurrent) k
  · intro h action haction member hmember totalField htotal u hpair seen hledger current hcurrent
    subst hledger
    exact (atomic_pair_iff (hkeys hmember htotal)).2
      fun k => h action member totalField seen current k haction hmember htotal hpair rfl hcurrent

/-- When the verification of a derived packet and that of a dual receipt are atomic. -/
theorem replay_atomic_iff (lib : Library) (packet root : PyVal)
    (rootRegistry proofRegistry seatRegistry memberProofRegistry : Option PyVal) (now : PyVal) (ledger : Ledger) :
    (Atomic (verifyDerivedPacket lib packet root rootRegistry proofRegistry seatRegistry now) ledger
        (derivedKeys packet) ↔
      ∀ seen k, derivedChecks lib packet root rootRegistry proofRegistry now = .ok () → ledger = some seen →
        replayKey packet "replay_domain_ref" = .ok k → IsNew seen k → PayloadBound packet root seatRegistry) ∧
    (Atomic (verifyDualReceipt lib packet root rootRegistry proofRegistry memberProofRegistry now) ledger
        (dualKeys packet) ↔
      ∀ action member totalField seen current k,
        bindingChecks lib packet root rootRegistry proofRegistry = .ok action →
        packet.at "member_receipt" = (.ok member : Except Fault PyVal) →
        packet.at "total_field_receipt" = (.ok totalField : Except Fault PyVal) →
        pairChecks lib packet root action member totalField memberProofRegistry = .ok () →
        ledger = some seen → parseZulu lib now = .ok current → receiptKey lib current member = .ok k →
        IsNew seen k → PairBound lib current seen k packet member totalField) :=
  ⟨derived_atomic_iff, dual_atomic_iff⟩

/-! ### The lease of a seat without a registry -/

/-- The digits of a hash. -/
def zeros : PyStr := List.replicate 64 48

/-- A reference by a hash. -/
def refTo (kind : String) : PyVal := .str (cp kind ++ cp ":sha256:" ++ zeros)

/-- The authorities. -/
def sampleAuthority : PyVal := obj [
  ("candidate_authority", lit "none"), ("member_consent_authority", lit "member"),
  ("process_authority", lit "odoo"), ("safety_and_landing_authority", lit "total_field_verifier")]

/-- What a root promises. -/
def samplePolicy : PyVal := obj [
  ("non_bearer", .bool true), ("one_active_root_generation_per_member", .bool true),
  ("permanent_roles_in_root", .bool false), ("permanent_scopes_in_root", .bool false),
  ("possession_conveys_authority", .bool false), ("recoverable", .bool true), ("revocable", .bool true),
  ("rotatable", .bool true), ("unique", .bool true), ("verifiable", .bool true),
  ("verified_channel_binding_is_sovereign_identity", .bool false)]

/-- The transmission. -/
def sampleTransmission : PyVal := obj [
  ("backup", .bool false), ("cloud_sync", .bool false), ("download_decryption", .bool false),
  ("equivalent_state_ref", refTo "equivalent_state_ref"), ("ordinary_file_movement", .bool false),
  ("protocol", lit "W7TP_8D_INTENT_FIELD_PACKET"),
  ("reconstruction_condition_ref", refTo "reconstruction_condition_ref"),
  ("state_packet_ref", refTo "state_packet_ref"), ("total_field_verify_ref", refTo "total_field_verify_ref")]

/-- The fields of a root before its integrity. -/
def rootFront : List (String × PyVal) := [
  ("authority_granted", .bool false), ("authority_model", sampleAuthority),
  ("bearer_authority", .bool false), ("candidate_only", .bool true),
  ("credential_material_included", .bool false), ("formal_execution_authority", .bool false),
  ("generative_transmission", sampleTransmission), ("identity_registry_ref", refTo "identity_registry_ref"),
  ("identity_root_ref", refTo "member_identity_root_ref")]

/-- The fields of a root after its integrity. -/
def rootBack : List (String × PyVal) := [
  ("issued_at", lit "2026-07-25T00:00:00Z"), ("issuer_attestation_ref", refTo "issuer_attestation_ref"),
  ("lifecycle", lit "CANDIDATE"), ("member_display_hash", .str zeros),
  ("member_plaintext_included", .bool false),
  ("member_verification_key_commitment", refTo "member_key_commitment"),
  ("member_verification_method_ref", refTo "member_verification_method_ref"),
  ("member_verification_proof_ref", refTo "member_proof_ref"),
  ("packet_type", lit "MEMBER_SOVEREIGN_IDENTITY_ROOT"), ("previous_root_packet_ref", .none),
  ("recovery_policy_ref", refTo "recovery_policy_ref"), ("revocation_epoch", .int 0),
  ("revocation_registry_ref", refTo "revocation_registry_ref"), ("root_generation", .int 1),
  ("root_packet_ref", refTo "member_root_packet_ref"), ("root_policy", samplePolicy),
  ("root_state", lit "ACTIVE_CANDIDATE"), ("rotation_epoch", .int 0),
  ("rotation_policy_ref", refTo "rotation_policy_ref"), ("runtime_enabled", .bool false),
  ("schema_version", lit "W7TP-MEMBER-SOVEREIGN-IDENTITY-ROOT/1.0"),
  ("subject_binding_ref", refTo "member_subject_binding_ref"), ("terms_version", lit "member-terms-v1"),
  ("trusted_issuer_registry_ref", refTo "trusted_issuer_registry_ref"),
  ("verified_channel_binding_set_ref", refTo "verified_channel_binding_set_ref")]

/-- The fields of an action before its hash. -/
def bindingFront : List (String × PyVal) := [
  ("action_class", lit "NON_TRANSACTION"), ("action_code", lit "READ_CANDIDATE")]

/-- The fields of an action after its hash. -/
def bindingBack : List (String × PyVal) := [
  ("action_hash_algorithm", lit "SHA256_CANONICAL_MEMBER_ACTION_BASIS/1.0"),
  ("action_ref", refTo "action_ref"), ("amount_currency_hash", .none),
  ("amount_currency_hash_scope", lit "CANONICAL_AMOUNT_MINOR_CURRENCY_TARGET_REF/1.0"),
  ("effect_class", lit "E1_READ"), ("identity_root_ref", refTo "member_identity_root_ref"),
  ("member_display_hash", .str zeros), ("parameters_sha256", .str zeros),
  ("purpose_ref", refTo "purpose_ref"), ("resource_refs", .list []), ("revocation_epoch", .int 0),
  ("root_generation", .int 1), ("root_packet_ref", refTo "member_root_packet_ref"),
  ("scene_ref", refTo "member_scene_ref"), ("schema_version", lit "W7TP-MEMBER-ACTION-HASH-BASIS/1.0"),
  ("scope_refs", .list [refTo "scope_ref"]), ("session_ref", refTo "member_session_ref"),
  ("subject_binding_ref", refTo "member_subject_binding_ref"), ("target_ref", refTo "target_ref"),
  ("terms_version", lit "member-terms-v1")]

/-- The lease of a seat. -/
def samplePayload : PyVal := obj [
  ("atomic_seat_lease_required", .bool true),
  ("founder_role_requires_explicit_member_root_binding", .bool true),
  ("issuing_process_authority", lit "odoo"), ("lease_ref", refTo "seat_lease_ref"),
  ("organization_ref", refTo "organization_ref"), ("role_ref", refTo "role_ref"),
  ("role_seat_ref", refTo "member_role_seat_ref"), ("role_table_snapshot_hash", .str zeros),
  ("role_table_snapshot_ref", refTo "role_table_snapshot_ref"), ("scene_ref", refTo "member_scene_ref"),
  ("scope_refs", .list [refTo "scope_ref"]), ("seat_lease_cas_ref", refTo "seat_lease_cas_ref"),
  ("seat_ref", refTo "seat_ref"), ("session_ref", refTo "member_session_ref"),
  ("subdelegation_allowed", .bool false), ("transferable", .bool false)]

/-- The fields of a packet between its action and its integrity. -/
def packetFront : List (String × PyVal) := [
  ("atomic_nonce_consumption_required", .bool true), ("authority_granted", .bool false),
  ("authority_model", sampleAuthority), ("candidate_only", .bool true),
  ("credential_material_included", .bool false), ("derived_packet_ref", refTo "member_derived_packet_ref"),
  ("expires_at", lit "2026-07-25T00:10:00Z"), ("formal_execution_authority", .bool false),
  ("generative_transmission", sampleTransmission), ("identity_root_ref", refTo "member_identity_root_ref")]

/-- The fields of a packet after its integrity. -/
def packetBack : List (String × PyVal) := [
  ("issued_at", lit "2026-07-25T00:00:00Z"), ("lifecycle", lit "CANDIDATE"),
  ("member_display_hash", .str zeros), ("member_plaintext_included", .bool false),
  ("nonce_ref", refTo "nonce_ref"), ("packet_type", lit "MEMBER_ROLE_SEAT_LEASE"),
  ("payload", samplePayload), ("replay_domain_ref", refTo "replay_domain_ref"), ("revocation_epoch", .int 0),
  ("root_generation", .int 1), ("root_packet_accepted_as_action_credential", .bool false),
  ("root_packet_ref", refTo "member_root_packet_ref"), ("runtime_enabled", .bool false),
  ("schema_version", lit "W7TP-MEMBER-SOVEREIGN-DERIVED-PACKETS/1.0"),
  ("subject_binding_ref", refTo "member_subject_binding_ref"), ("terms_version", lit "member-terms-v1")]

/-- The hash that is returned. -/
def shaOf : Except Fault PyStr → PyStr
  | .ok sha => sha
  | .error _ => []

/-- The times of the samples. -/
def sampleTime (s : PyStr) : Option ℤ :=
  if s = cp "2026-07-25T00:00:00+00:00" then some 1784937600000000
  else if s = cp "2026-07-25T00:01:00+00:00" then some 1784937660000000
  else if s = cp "2026-07-25T00:10:00+00:00" then some 1784938200000000
  else none

/-- The library, on texts in normal form and on packets that conform to their schemas. -/
def sampleLibrary : Library where
  nfc := id
  keyText := []
  text _ := []
  conforms _ _ := true
  fromIsoformat := sampleTime

/-- The fields of an integrity before its hash. -/
def integrityFront : List (String × PyVal) := [
  ("canonicalization", lit "UTF8_NFC_SORTED_KEYS_NO_WHITESPACE_NO_FLOATS")]

/-- The fields of an integrity after its hash. -/
def integrityBack : List (String × PyVal) := [("hash_algorithm", lit "SHA-256"),
  ("hash_scope", lit "ALL_PACKET_FIELDS_EXCEPT_INTEGRITY_CONTENT_SHA256")]

/-- The fields of the integrity of a root after its hash. -/
def rootIntegrityBack : List (String × PyVal) := integrityBack ++ [
  ("member_proof_verification_required", .bool true),
  ("trusted_issuer_registry_verification_required", .bool true)]

/-- A root before it is sealed. -/
def unsealedRoot : PyVal := obj (rootFront ++ ("integrity", obj (integrityFront ++ rootIntegrityBack)) :: rootBack)

/-- A root. -/
def sampleRoot : PyVal := obj (rootFront ++ ("integrity", obj (integrityFront ++
  ("content_sha256", .str (shaOf (sha256Json sampleLibrary unsealedRoot))) :: rootIntegrityBack)) :: rootBack)

/-- The hash of an action. -/
def sampleActionHash : PyStr := shaOf (actionHash sampleLibrary (obj (bindingFront ++ bindingBack)))

/-- An action. -/
def sampleBinding : PyVal := obj (bindingFront ++ ("action_hash", .str sampleActionHash) :: bindingBack)

/-- The packet of the lease of a seat before it is sealed. -/
def unsealedPacket : PyVal := obj ((("action_binding", sampleBinding) :: packetFront) ++
  ("integrity", obj (integrityFront ++ integrityBack)) :: packetBack)

/-- The packet of the lease of a seat. -/
def samplePacket : PyVal := obj ((("action_binding", sampleBinding) :: packetFront) ++
  ("integrity", obj (integrityFront ++
    ("content_sha256", .str (shaOf (sha256Json sampleLibrary unsealedPacket))) :: integrityBack)) :: packetBack)

/-- The registry of roots. -/
def sampleRootRegistry : PyVal := obj [
  ("entries", .list [obj [("current", .bool true), ("identity_root_ref", refTo "member_identity_root_ref"),
    ("revocation_epoch", .int 0), ("root_generation", .int 1), ("root_packet_ref", refTo "member_root_packet_ref"),
    ("subject_binding_ref", refTo "member_subject_binding_ref")]]),
  ("registry_ref", refTo "identity_registry_ref")]

/-- The registry of proofs. -/
def sampleProofRegistry : PyVal := obj [
  ("proofs", .dict [(.str (cp "member_proof_ref" ++ cp ":sha256:" ++ zeros), obj [
    ("identity_root_ref", refTo "member_identity_root_ref"),
    ("issuer_attestation_ref", refTo "issuer_attestation_ref"),
    ("member_verification_key_commitment", refTo "member_key_commitment"), ("root_generation", .int 1),
    ("root_packet_ref", refTo "member_root_packet_ref"),
    ("subject_binding_ref", refTo "member_subject_binding_ref"),
    ("verification_state", lit "VERIFIED_CANDIDATE_EVIDENCE")])]),
  ("registry_ref", refTo "trusted_issuer_registry_ref")]

theorem nfc_sample : ∀ s, Py.Encodable s → Py.Encodable (sampleLibrary.nfc s) := fun _ h => h

theorem isProper_refTo (kind : String) :
    isProper (refTo kind) = isProperText (codes kind ++ codes ":sha256:" ++ zeros) := by
  rw [refTo, isProper, cp_eq_codes, cp_eq_codes]

/-- The fields of the samples are proper, but for their hashes. -/
theorem proper_fields : (rootFront ++ rootBack ++ integrityFront ++ rootIntegrityBack ++ bindingFront ++
    bindingBack ++ packetFront ++ packetBack).all
      (fun p => isProperText (cp p.1) && isProper p.2) = true := by
  simp only [rootFront, rootBack, integrityFront, rootIntegrityBack, integrityBack, bindingFront, bindingBack,
    packetFront, packetBack, samplePayload, samplePolicy, sampleAuthority, sampleTransmission, List.cons_append,
    List.nil_append, List.all_cons, List.all_nil, cp_eq_codes, isProper_lit, isProper_refTo, isProper_obj, isProper,
    isProperList]
  decide +kernel

theorem proper_names : ∀ name ∈ ["action_binding", "action_hash", "content_sha256", "integrity"],
    isProperText (cp name) = true := by
  simp only [List.forall_mem_cons, cp_eq_codes]
  decide +kernel

/-- A hash that can be computed is returned. -/
theorem shaOf_of_ok {x : Except Fault PyStr} (h : ∃ sha, x = .ok sha ∧ Sha256.isHex64 sha = true) :
    x = .ok (shaOf x) ∧ isProperText (shaOf x) = true := by
  obtain ⟨sha, rfl, hsha⟩ := h
  exact ⟨rfl, isProperText_of_isHex64 hsha⟩

theorem isProper_insert {front back : List (String × PyVal)} {k : String} {v : PyVal}
    (hfront : (front.all fun p => isProperText (cp p.1) && isProper p.2) = true)
    (hback : (back.all fun p => isProperText (cp p.1) && isProper p.2) = true)
    (hk : isProperText (cp k) = true) (hv : isProper v = true) :
    isProper (obj (front ++ (k, v) :: back)) = true := by
  rw [isProper_obj, List.all_append, List.all_cons, hfront, hback, hk, hv]
  rfl

theorem proper_unsealedRoot : isProper unsealedRoot = true := by
  have h := proper_fields
  simp only [List.all_append, Bool.and_eq_true] at h
  obtain ⟨⟨⟨⟨⟨⟨⟨hfront, hback⟩, hinner⟩, houter⟩, -⟩, -⟩, -⟩, -⟩ := h
  refine isProper_insert hfront hback (proper_names _ (by simp)) ?_
  rw [isProper_obj, List.all_append, hinner, houter]
  rfl

theorem hash_sampleRoot :
    sha256Json sampleLibrary unsealedRoot = .ok (shaOf (sha256Json sampleLibrary unsealedRoot)) ∧
      isProperText (shaOf (sha256Json sampleLibrary unsealedRoot)) = true :=
  shaOf_of_ok (sha256Json_proper nfc_sample proper_unsealedRoot)

theorem proper_sampleRoot : isProper sampleRoot = true := by
  have h := proper_fields
  simp only [List.all_append, Bool.and_eq_true] at h
  obtain ⟨⟨⟨⟨⟨⟨⟨hfront, hback⟩, hinner⟩, houter⟩, -⟩, -⟩, -⟩, -⟩ := h
  exact isProper_insert hfront hback (proper_names _ (by simp))
    (isProper_insert hinner houter (proper_names _ (by simp)) hash_sampleRoot.2)

theorem rootFront_lt : ∀ p ∈ rootFront, (key p.1).lt (key "integrity") := by
  simp only [rootFront, List.forall_mem_cons, List.not_mem_nil, IsEmpty.forall_iff, implies_true, and_true, key,
    cp_eq_codes]
  decide +kernel

theorem contentHash_sampleRoot : contentHash sampleLibrary sampleRoot =
    .ok (shaOf (sha256Json sampleLibrary unsealedRoot)) :=
  (contentHash_insert _ rootFront_lt (by decide) (by decide)).trans hash_sampleRoot.1

theorem get_obj_ok (l : List (String × PyVal)) (k : String) :
    MemberIdentity.get (obj l) k = .ok ((getItem (fields l) (cp k)).getD .none) := rfl

theorem getOr_obj (l : List (String × PyVal)) (k : String) (default : PyVal) :
    getOr (obj l) k default = .ok ((getItem (fields l) (cp k)).getD default) := rfl

theorem pyEq_refTo (kind : String) : pyEq (refTo kind) (refTo kind) = true := pyEq_str.2 rfl

theorem recordedContent_sampleRoot :
    recordedContent sampleRoot = .ok (.str (shaOf (sha256Json sampleLibrary unsealedRoot))) := by
  simp [recordedContent, sampleRoot, rootFront, integrityFront, at_obj]

/-- The root is verified. -/
theorem verifyRoot_sample : verifyRoot sampleLibrary sampleRoot (some sampleRootRegistry)
    (some sampleProofRegistry) = .ok () := by
  have hhash := requireHash_self recordedContent_sampleRoot contentHash_sampleRoot
    "HOLD_ROOT_CONTENT_HASH_MISMATCH"
  have hentry : rootEntry sampleRoot sampleRootRegistry = .ok (obj [("current", .bool true),
      ("identity_root_ref", refTo "member_identity_root_ref"), ("revocation_epoch", .int 0),
      ("root_generation", .int 1), ("root_packet_ref", refTo "member_root_packet_ref"),
      ("subject_binding_ref", refTo "member_subject_binding_ref")]) := by
    simp [rootEntry, sampleRootRegistry, getOr_obj, elementsOf, filterM, isCurrentEntry, get_obj_ok, isTrue,
      sampleRoot, rootFront, rootBack, at_obj, pyEq_refTo]
    rfl
  have hproof : proofOf sampleProofRegistry sampleRoot "member_verification_proof_ref"
      "HOLD_ROOT_PROOF_INVALID" = .ok (obj [
      ("identity_root_ref", refTo "member_identity_root_ref"),
      ("issuer_attestation_ref", refTo "issuer_attestation_ref"),
      ("member_verification_key_commitment", refTo "member_key_commitment"), ("root_generation", .int 1),
      ("root_packet_ref", refTo "member_root_packet_ref"),
      ("subject_binding_ref", refTo "member_subject_binding_ref"),
      ("verification_state", lit "VERIFIED_CANDIDATE_EVIDENCE")]) := by
    simp [proofOf, sampleProofRegistry, getOr_obj, sampleRoot, rootFront, rootBack, at_obj, getAt, refTo,
      isHashable, getItem]
    rfl
  rw [verifyRoot, walkForbidden_proper proper_sampleRoot, hhash]
  simp only [evidenced, ok_bind, hentry, hproof]
  simp [validateInstance, sampleLibrary, sampleRoot, sampleRootRegistry, sampleProofRegistry, rootFront, rootBack,
    at_obj, get_obj_ok, requireGet, requireAllGet, require, pyEq_refTo]
  rfl

/-! ### The sample is held after its key was added -/

theorem proper_action : isProper (obj (bindingFront ++ bindingBack)) = true := by
  have h := proper_fields
  simp only [List.all_append, Bool.and_eq_true] at h
  rw [isProper_obj, List.all_append, h.1.1.1.2, h.1.1.2]
  rfl

/-- The action of the sample has a basis. -/
theorem exists_basis : ∃ basis, actionHashBasis (obj (bindingFront ++ bindingBack)) = .ok basis := by
  simp [actionHashBasis, basisField, basisItem, actionBasis, at_obj, bindingFront, bindingBack, textsOf, refTo]

theorem hash_sampleAction :
    actionHash sampleLibrary (obj (bindingFront ++ bindingBack)) = .ok sampleActionHash ∧
      isProperText sampleActionHash = true := by
  obtain ⟨basis, hbasis⟩ := exists_basis
  refine shaOf_of_ok ?_
  rw [actionHash, hbasis]
  exact sha256Json_proper nfc_sample (isProper_actionHashBasis proper_action hbasis)

theorem proper_sampleBinding : isProper sampleBinding = true := by
  have h := proper_fields
  simp only [List.all_append, Bool.and_eq_true] at h
  exact isProper_insert h.1.1.1.2 h.1.1.2 (proper_names _ (by simp)) hash_sampleAction.2

theorem proper_packetFront : (("action_binding", sampleBinding) :: packetFront).all
    (fun p => isProperText (cp p.1) && isProper p.2) = true := by
  have h := proper_fields
  simp only [List.all_append, Bool.and_eq_true] at h
  rw [List.all_cons, h.1.2, proper_sampleBinding, proper_names "action_binding" (by simp)]
  rfl

theorem proper_unsealedPacket : isProper unsealedPacket = true := by
  have h := proper_fields
  simp only [List.all_append, Bool.and_eq_true] at h
  refine isProper_insert proper_packetFront h.2 (proper_names _ (by simp)) ?_
  have hback : (integrityBack.all fun p => isProperText (cp p.1) && isProper p.2) = true := by
    have hback := h.1.1.1.1.2
    rw [rootIntegrityBack, List.all_append, Bool.and_eq_true] at hback
    exact hback.1
  rw [isProper_obj, List.all_append, h.1.1.1.1.1.2, hback]
  rfl

theorem hash_samplePacket :
    sha256Json sampleLibrary unsealedPacket = .ok (shaOf (sha256Json sampleLibrary unsealedPacket)) ∧
      isProperText (shaOf (sha256Json sampleLibrary unsealedPacket)) = true :=
  shaOf_of_ok (sha256Json_proper nfc_sample proper_unsealedPacket)

theorem proper_samplePacket : isProper samplePacket = true := by
  have h := proper_fields
  simp only [List.all_append, Bool.and_eq_true] at h
  have hback : (integrityBack.all fun p => isProperText (cp p.1) && isProper p.2) = true := by
    have hback := h.1.1.1.1.2
    rw [rootIntegrityBack, List.all_append, Bool.and_eq_true] at hback
    exact hback.1
  exact isProper_insert proper_packetFront h.2 (proper_names _ (by simp))
    (isProper_insert h.1.1.1.1.1.2 hback (proper_names _ (by simp)) hash_samplePacket.2)

theorem packetFront_lt : ∀ p ∈ ("action_binding", sampleBinding) :: packetFront,
    (key p.1).lt (key "integrity") := by
  simp only [packetFront, List.forall_mem_cons, List.not_mem_nil, IsEmpty.forall_iff, implies_true, and_true, key,
    cp_eq_codes]
  decide +kernel

theorem contentHash_samplePacket : contentHash sampleLibrary samplePacket =
    .ok (shaOf (sha256Json sampleLibrary unsealedPacket)) :=
  (contentHash_insert _ packetFront_lt (by decide) (by decide)).trans hash_samplePacket.1

theorem recordedContent_samplePacket :
    recordedContent samplePacket = .ok (.str (shaOf (sha256Json sampleLibrary unsealedPacket))) := by
  simp [recordedContent, samplePacket, packetFront, integrityFront, at_obj]

theorem actionHash_sampleBinding : actionHash sampleLibrary sampleBinding = .ok sampleActionHash :=
  (actionHash_insert _).trans hash_sampleAction.1

theorem recordedAction_sample :
    (sampleBinding.at "action_hash" : Except Fault PyVal) = .ok (.str sampleActionHash) := by
  simp [sampleBinding, bindingFront, at_obj]

/-- What is checked before the set is looked at passes. -/
theorem derivedChecks_sample : derivedChecks sampleLibrary samplePacket sampleRoot (some sampleRootRegistry)
    (some sampleProofRegistry) (lit "2026-07-25T00:01:00Z") = .ok () := by
  have hcontent := requireHash_self recordedContent_samplePacket contentHash_samplePacket
    "HOLD_DERIVED_CONTENT_HASH_MISMATCH"
  have haction := requireHash_self recordedAction_sample actionHash_sampleBinding "HOLD_ACTION_HASH_MISMATCH"
  have hbinding : (samplePacket.at "action_binding" : Except Fault PyVal) = .ok sampleBinding := by
    simp [samplePacket, at_obj]
  have hroot : requireAllSame samplePacket sampleRoot "HOLD_DERIVED_ROOT_BINDING" derivedFields = .ok () := by
    simp [requireAllSame, requireSame, derivedFields, rootFields, samplePacket, sampleRoot, packetFront, packetBack,
      rootFront, rootBack, at_obj, require, pyEq_refTo]
    rfl
  have hpacket : requireAllSame sampleBinding samplePacket "HOLD_ACTION_ROOT_BINDING_MISMATCH" derivedFields =
      .ok () := by
    simp [requireAllSame, requireSame, derivedFields, rootFields, samplePacket, sampleBinding, packetFront,
      packetBack, bindingFront, bindingBack, at_obj, require, pyEq_refTo]
    rfl
  have htimes : timesOf sampleLibrary samplePacket = .ok (1784937600000000, 1784938200000000) := by
    simp [timesOf, samplePacket, packetFront, packetBack, at_obj]
    rfl
  have hnow : parseZulu sampleLibrary (lit "2026-07-25T00:01:00Z") = .ok 1784937660000000 := by rfl
  have htype : (samplePacket.at "packet_type" : Except Fault PyVal) = .ok (lit "MEMBER_ROLE_SEAT_LEASE") := by
    simp [samplePacket, packetFront, packetBack, at_obj]
  have hgovernance : (inTexts (lit "MEMBER_ROLE_SEAT_LEASE") ["MEMBER_REVOCATION", "MEMBER_RECOVERY"] :
      Except Fault Bool) = .ok false := by
    simp [inTexts, lit, isHashable, pyEq, cp_inj]
  have hschema : validateInstance sampleLibrary "derived" samplePacket = .ok () := rfl
  rw [derivedChecks]
  refine check_bind_eq_ok_iff.2 ⟨verifyRoot_sample, check_bind_eq_ok_iff.2 ⟨hschema, ?_⟩⟩
  refine check_bind_eq_ok_iff.2 ⟨walkForbidden_proper proper_samplePacket [], ?_⟩
  refine check_bind_eq_ok_iff.2 ⟨hcontent, check_bind_eq_ok_iff.2 ⟨hroot, ?_⟩⟩
  refine bind_eq_ok_iff.2 ⟨sampleBinding, hbinding, check_bind_eq_ok_iff.2 ⟨hpacket, ?_⟩⟩
  refine check_bind_eq_ok_iff.2 ⟨haction, bind_eq_ok_iff.2 ⟨_, htimes, bind_eq_ok_iff.2 ⟨_, hnow, ?_⟩⟩⟩
  refine check_bind_eq_ok_iff.2 ⟨require_eq_ok_iff.2 (by decide), bind_eq_ok_iff.2 ⟨_, htype, ?_⟩⟩
  exact bind_eq_ok_iff.2 ⟨_, hgovernance, require_eq_ok_iff.2 (by decide)⟩

/-- The lease of a seat that is held because there is no registry of seats has used up its key. -/
theorem not_atomic_sample : ¬Atomic (verifyDerivedPacket sampleLibrary samplePacket sampleRoot
    (some sampleRootRegistry) (some sampleProofRegistry) none (lit "2026-07-25T00:01:00Z")) (some [])
    (derivedKeys samplePacket) := by
  rw [derived_atomic_iff]
  intro h
  have htype : (samplePacket.at "packet_type" : Except Fault PyVal) = .ok (lit "MEMBER_ROLE_SEAT_LEASE") := by
    simp [samplePacket, packetFront, packetBack, at_obj]
  have hkey : replayKey samplePacket "replay_domain_ref" = .ok (refTo "replay_domain_ref", refTo "nonce_ref") := by
    simp [replayKey, samplePacket, packetFront, packetBack, at_obj]
  have hnew : IsNew [] (refTo "replay_domain_ref", refTo "nonce_ref") := ⟨rfl, rfl, rfl⟩
  have hpayload := h [] _ derivedChecks_sample rfl hkey hnew
  obtain ⟨binding, payload, packetType, hbinding, hvalue, htype', hhash, hbound⟩ := hpayload
  have hlease := hbound.lease (Except.ok.inj (htype'.symm.trans htype))
  obtain ⟨-, registry, hregistry, -⟩ := hlease
  cases hregistry

end MemberIdentity
