/-
**The gate of a member's action spends its nonce once.**

`evaluate_member_action_session` checks a request that joins a root, a session, a scene, an action and two
receipts, has a verifier judge the identity candidate in it, compares all of these with each other and with
the material of the candidate, and last of all spends the nonce of the session.  Calls share nothing but
the consumer of nonces: a call runs on its own until it asks the consumer, and on its own with the answer.

The validator of the request schema, the texts of values that are no texts, the verifier of the identity
candidate and the consumer are parameters.  Of the validator it is asked that what it accepts conforms to
the schema; of the consumer, in a run, that it answers `CONSUMED` at most once for a nonce.

Main definitions:

* `MemberAction.memberActionRequest` — the schema of a request;
* `MemberAction.p1BindingReason`, `MemberAction.p3ChainReason`, `MemberAction.roleSeatReason` — the checks;
* `MemberAction.beforeNonce`, `MemberAction.afterNonce`, `MemberAction.evaluateMemberActionSession` — a
  call, up to the nonce, from there on, and as a whole;
* `MemberAction.Step` — calls that are interleaved;
* `MemberAction.Answerable` — the verifier answers a mapping, and what it passes can be compared.

Main results:

* `MemberAction.beforeNonce_returns_iff`, `MemberAction.evaluate_returns_iff` — when a call returns;
* `MemberAction.coherent_of_beforeNonce`, `MemberAction.afterNonce_returns` — what is known of a call that
  spends its nonce;
* `MemberAction.gate_safe_iff` — when all runs of calls are safe;
* `MemberAction.gate_raises` — a verifier that answers `None`.
-/

import Wuchang.JsonSchema
import Wuchang.CanonicalVerifier
import Mathlib.Data.List.Dedup
import Mathlib.Data.List.Pairwise
import Mathlib.Logic.Relation

set_option relaxedAutoImplicit false
set_option autoImplicit false

namespace MemberAction

open Py JsonSchema

/-- An exception; a number can be too large to become a float. -/
abbrev Fault := Canonical8D.Fault

/-! ### The schema -/

/-- `^[a-z][a-z0-9_.-]*$`, the part of a reference before `_ref:sha256:` -/
def isStem : PyStr → Bool
  | [] => false
  | c :: s => (97 ≤ c && c ≤ 122) &&
      s.all fun c => (97 ≤ c && c ≤ 122) || (48 ≤ c && c ≤ 57) || c = 95 || c = 46 || c = 45

/-- `HASH_REF_PATTERN` -/
def isHashRef (s : PyStr) : Bool :=
  let t := chomp s
  let cut := t.length - 76
  isStem (t.take cut) && (t.drop cut).take 12 = cp "_ref:sha256:" && Sha256.isHex64 (t.drop (cut + 12))

/-- `#/$defs/sha256` -/
def sha256 : Schema := text isSha256

/-- `#/$defs/hashRef` -/
def hashRef : Schema := text isHashRef

/-- `#/$defs/scopeRefs` -/
def scopeRefs : Schema := array 1 none (text (isHashOf "scope_ref"))

/-- `#/$defs/effectClass` -/
def effectClass : Schema := enum ["E0_ANSWER", "E1_READ", "E2_CANDIDATE", "E3_SANDBOX",
  "E4_REVERSIBLE_WRITE", "E5_HIGH_IMPACT"]

/-- `#/$defs/seatLease` -/
def seatLease : Schema := object [("lease_ref", hashRef), ("seat_ref", hashRef),
  ("seat_class", enum ["MEMBER", "FOUNDER_DEVELOPER"]), ("role_ref", hashRef),
  ("identity_root_ref", hashRef), ("root_generation", integer 1 none),
  ("revocation_epoch", integer 0 none), ("issued_at_epoch", integer 0 none),
  ("expires_at_epoch", integer 1 none), ("state", constant "ACTIVE_CANDIDATE")]

/-- `#/$defs/roleSeatSnapshot` -/
def roleSeatSnapshot : Schema := object [("snapshot_ref", hashRef), ("snapshot_sha256", sha256),
  ("role_refs", array 0 none hashRef), ("seat_leases", array 0 none seatLease)]

/-- The properties of `#/$defs/session`. -/
def sessionProperties : List (String × Schema) := [("session_ref", hashRef), ("identity_root_ref", hashRef),
  ("root_packet_ref", hashRef), ("root_generation", integer 1 none), ("revocation_epoch", integer 0 none),
  ("issued_at_epoch", integer 0 none), ("expires_at_epoch", integer 1 none),
  ("ttl_seconds", integer 1 (some 3600)), ("scope_refs", scopeRefs), ("effect_class", effectClass),
  ("device_ref", anyOf [hashRef, null]), ("channel_ref", anyOf [hashRef, null]), ("nonce_ref", hashRef),
  ("nonce_binding_sha256", sha256), ("role_seat_snapshot", roleSeatSnapshot)]

/-- `#/$defs/session`, where the device or the channel is there. -/
def session : Schema := fun v =>
  object sessionProperties v && (hashRef (v.get "device_ref") || hashRef (v.get "channel_ref"))

/-- The properties of `#/$defs/scene`. -/
def sceneProperties : List (String × Schema) := [("scene_ref", hashRef), ("identity_root_ref", hashRef),
  ("root_generation", integer 1 none), ("revocation_epoch", integer 0 none), ("session_ref", hashRef),
  ("scope_refs", scopeRefs), ("effect_class", effectClass)]

/-- The properties of `#/$defs/action`. -/
def actionProperties : List (String × Schema) := [("action_hash", sha256), ("purpose_ref", hashRef),
  ("scope_refs", scopeRefs), ("effect_class", effectClass)]

/-- The properties of a receipt, given its state and its authority. -/
def receiptProperties (state authority : String) : List (String × Schema) := [("receipt_ref", hashRef),
  ("receipt_state", constant state), ("authority", constant authority), ("action_hash", sha256),
  ("root_generation", integer 1 none), ("session_ref", hashRef), ("scene_ref", hashRef),
  ("scope_refs", scopeRefs), ("effect_class", effectClass)]

/-- `#/$defs/memberConsentReceipt` -/
def memberConsentReceipt : Schema := object (receiptProperties "CONSENT" "member")

/-- `#/$defs/totalFieldReceipt` -/
def totalFieldReceipt : Schema := object (receiptProperties "PASS" "total_field_verifier")

/-- `"type": "object", "minProperties": 1` -/
def identityCandidate : Schema
  | .dict items => items ≠ []
  | _ => false

/-- `P3_SCHEMA_VERSION` -/
def p3SchemaVersion : String := "w7tp.member-session-dual-receipt-9107.v1"

/-- The properties of `#/$defs/memberActionRequest`. -/
def requestProperties : List (String × Schema) := [("schema_version", constant p3SchemaVersion),
  ("request_mode", constant "ACTION_REQUEST"), ("p1_identity_candidate", identityCandidate),
  ("member_ref", hashRef), ("xiaoj_agent_ref", hashRef), ("identity_root_ref", hashRef),
  ("root_packet_ref", hashRef), ("root_generation", integer 1 none), ("revocation_epoch", integer 0 none),
  ("session", session), ("scene", object sceneProperties), ("action", object actionProperties),
  ("member_consent_receipt", memberConsentReceipt), ("total_field_receipt", totalFieldReceipt),
  ("provider_context", object [("provider_count", integer 1 (some 2)),
    ("provider_refs", array 1 (some 2) hashRef), ("candidate_authority", constant "none")]),
  ("verification_refs", array 1 none hashRef)]

/-- `#/$defs/memberActionRequest` -/
def memberActionRequest : Schema := object requestProperties

/-! ### What is read of a request -/

/-- A lease of a seat, with the fields that are read by their names. -/
structure SeatLease where
  value : PyVal
  roleRef : PyVal
  seatRef : PyVal

/-- The snapshot of roles and seats. -/
structure Snapshot where
  snapshotRef : PyVal
  snapshotSha256 : PyVal
  roleRefs : PyVal
  seatLeases : List SeatLease

/-- The session, with its dictionary. -/
structure Session where
  value : PyVal
  sessionRef : PyVal
  identityRootRef : PyVal
  rootGeneration : PyVal
  revocationEpoch : PyVal
  issuedAtEpoch : PyVal
  expiresAtEpoch : PyVal
  ttlSeconds : PyVal
  scopeRefs : PyVal
  effectClass : PyVal
  deviceRef : PyVal
  channelRef : PyVal
  nonceRef : PyVal
  nonceBindingSha256 : PyVal
  roleSeatSnapshot : Snapshot

/-- The scene, with its dictionary. -/
structure Scene where
  value : PyVal
  sceneRef : PyVal
  identityRootRef : PyVal
  rootGeneration : PyVal
  revocationEpoch : PyVal
  sessionRef : PyVal
  scopeRefs : PyVal
  effectClass : PyVal

/-- The action. -/
structure Action where
  actionHash : PyVal
  purposeRef : PyVal
  scopeRefs : PyVal
  effectClass : PyVal

/-- A receipt, with its dictionary. -/
structure Receipt where
  value : PyVal
  receiptRef : PyVal
  receiptState : PyVal
  actionHash : PyVal
  rootGeneration : PyVal
  sessionRef : PyVal
  sceneRef : PyVal
  scopeRefs : PyVal
  effectClass : PyVal

/-- The request. -/
structure Request where
  p1IdentityCandidate : PyVal
  identityRootRef : PyVal
  rootPacketRef : PyVal
  rootGeneration : PyVal
  revocationEpoch : PyVal
  session : Session
  scene : Scene
  action : Action
  memberConsentReceipt : Receipt
  totalFieldReceipt : Receipt

/-- Iteration over a list. -/
def listOf : PyVal → Except Fault (List PyVal)
  | .list xs => .ok xs
  | _ => .error (.builtin .typeError)

/-- The fields of a lease. -/
def readLease (v : PyVal) : Except Fault SeatLease := do
  pure { value := v, roleRef := ← v.at "role_ref", seatRef := ← v.at "seat_ref" }

/-- The fields of the snapshot. -/
def readSnapshot (v : PyVal) : Except Fault Snapshot := do
  let leases ← v.at "seat_leases"
  let leases ← listOf leases
  pure { snapshotRef := ← v.at "snapshot_ref", snapshotSha256 := ← v.at "snapshot_sha256",
         roleRefs := ← v.at "role_refs", seatLeases := ← leases.mapM readLease }

/-- The fields of the session. -/
def readSession (v : PyVal) : Except Fault Session := do
  let snapshot ← v.at "role_seat_snapshot"
  pure { value := v, sessionRef := ← v.at "session_ref", identityRootRef := ← v.at "identity_root_ref",
         rootGeneration := ← v.at "root_generation", revocationEpoch := ← v.at "revocation_epoch",
         issuedAtEpoch := ← v.at "issued_at_epoch", expiresAtEpoch := ← v.at "expires_at_epoch",
         ttlSeconds := ← v.at "ttl_seconds", scopeRefs := ← v.at "scope_refs",
         effectClass := ← v.at "effect_class", deviceRef := ← v.at "device_ref",
         channelRef := ← v.at "channel_ref", nonceRef := ← v.at "nonce_ref",
         nonceBindingSha256 := ← v.at "nonce_binding_sha256", roleSeatSnapshot := ← readSnapshot snapshot }

/-- The fields of the scene. -/
def readScene (v : PyVal) : Except Fault Scene := do
  pure { value := v, sceneRef := ← v.at "scene_ref", identityRootRef := ← v.at "identity_root_ref",
         rootGeneration := ← v.at "root_generation", revocationEpoch := ← v.at "revocation_epoch",
         sessionRef := ← v.at "session_ref", scopeRefs := ← v.at "scope_refs",
         effectClass := ← v.at "effect_class" }

/-- The fields of the action. -/
def readAction (v : PyVal) : Except Fault Action := do
  pure { actionHash := ← v.at "action_hash", purposeRef := ← v.at "purpose_ref",
         scopeRefs := ← v.at "scope_refs", effectClass := ← v.at "effect_class" }

/-- The fields of a receipt. -/
def readReceipt (v : PyVal) : Except Fault Receipt := do
  pure { value := v, receiptRef := ← v.at "receipt_ref", receiptState := ← v.at "receipt_state",
         actionHash := ← v.at "action_hash", rootGeneration := ← v.at "root_generation",
         sessionRef := ← v.at "session_ref", sceneRef := ← v.at "scene_ref",
         scopeRefs := ← v.at "scope_refs", effectClass := ← v.at "effect_class" }

/-- The fields of a request.  They are read behind the validator, so that it does not matter where. -/
def readRequest (v : PyVal) : Except Fault Request := do
  let sessionValue ← v.at "session"
  let sceneValue ← v.at "scene"
  let actionValue ← v.at "action"
  let consentValue ← v.at "member_consent_receipt"
  let verdictValue ← v.at "total_field_receipt"
  pure { p1IdentityCandidate := ← v.at "p1_identity_candidate",
         identityRootRef := ← v.at "identity_root_ref", rootPacketRef := ← v.at "root_packet_ref",
         rootGeneration := ← v.at "root_generation", revocationEpoch := ← v.at "revocation_epoch",
         session := ← readSession sessionValue, scene := ← readScene sceneValue,
         action := ← readAction actionValue, memberConsentReceipt := ← readReceipt consentValue,
         totalFieldReceipt := ← readReceipt verdictValue }

/-! ### Hashes and references -/

/-- `canonical_sha256` -/
def canonicalSha256 (v : PyVal) : Except Fault PyStr := do
  let json ← PyJson.dumps PyJson.compact v
  if ¬PyJson.allFinite v then .error (.builtin .valueError)
  else do
    let bytes ← encodeUtf8 json
    pure (Sha256.hexdigest bytes)

/-- `f"{stem}:sha256:{digest}"` -/
def refOf (stem : String) (digest : PyStr) : PyVal := .str (cp (stem ++ ":sha256:") ++ digest)

/-- `isinstance(item, str)`, for all of a list -/
def textsOf : List PyVal → Option (List PyStr)
  | [] => some []
  | .str s :: xs => (textsOf xs).map fun texts => s :: texts
  | _ :: _ => none

/-- `_sorted_refs` -/
def sortedRefs : PyVal → Option (List PyStr)
  | .list xs =>
      match textsOf xs with
      | some texts => if texts.dedup.mergeSort (fun s t => decide (s ≤ t)) = texts then some texts else none
      | none => none
  | _ => none

/-- `value.items()` of a mapping. -/
def itemsOf : PyVal → Items
  | .dict items => items
  | _ => []

/-- `_sealed_ref` -/
def sealedRef (value : PyVal) (refField stem : String) (excludedFields : List String) :
    Except Fault Bool := do
  let material := (itemsOf value).filter fun p => p.1 ≠ key refField ∧ ∀ k ∈ excludedFields, p.1 ≠ key k
  let digest ← canonicalSha256 (.dict material)
  pure (pyEq (value.get refField) (refOf stem digest))

/-! ### The material of the identity candidate -/

/-- `v[-1]`; a mapping whose keys are texts has no item `-1`. -/
def last : PyVal → Option PyVal
  | .list xs => xs.getLast?
  | .str s => s.getLast?.map fun c => .str [c]
  | _ => none

/-- `v[k]`, where the exception is caught. -/
def itemAt (v : PyVal) (k : String) : Option PyVal := (v.at k : Except Fault PyVal).toOption

/-- What the identity candidate says of the root, the session, the scene, the seat and the action. -/
structure P1Material where
  root : PyVal
  session : PyVal
  scene : PyVal
  roleSeat : PyVal
  action : PyVal

/-- `_p1_join_material` -/
def p1JoinMaterial (candidate : PyVal) : Option P1Material := do
  let rootChain ← itemAt candidate "root_chain_evidence"
  let rootChain ← itemAt rootChain "payload"
  let derived ← itemAt candidate "derived_packets_evidence"
  let derived ← itemAt derived "payload"
  let dualReceipt ← itemAt candidate "dual_receipt_evidence"
  let dualReceipt ← itemAt dualReceipt "payload"
  let roots ← itemAt rootChain "roots"
  let currentRoot ← last roots
  let session ← itemAt derived "session"
  let session ← itemAt session "payload"
  let scene ← itemAt derived "scene"
  let scene ← itemAt scene "payload"
  let roleSeat ← itemAt derived "role_seat"
  let roleSeat ← itemAt roleSeat "payload"
  let action ← itemAt dualReceipt "action_binding"
  pure ⟨currentRoot, session, scene, roleSeat, action⟩

/-! ### The checks -/

/-- The reason to hold that a check returns, if any. -/
abbrev Check := Except Fault (Option String)

/-- `if c: return reason`, and then the rest. -/
def holdIf (c : Bool) (reason : String) (rest : Check) : Check := if c then .ok (some reason) else rest

/-- `any(v.get(k) != w for …)`; what is no mapping has no method `get`. -/
def differs (v : PyVal) (expected : List (String × PyVal)) : Except Fault Bool :=
  if v.isDict then .ok (expected.any fun p => !pyEq (v.get p.1) p.2) else .error (.builtin .attributeError)

/-- The fields of a request that its root has as well. -/
def rootFields (request : Request) : List (String × PyVal) := [("identity_root_ref", request.identityRootRef),
  ("root_packet_ref", request.rootPacketRef), ("root_generation", request.rootGeneration),
  ("revocation_epoch", request.revocationEpoch)]

/-- The fields of an action that are compared. -/
def actionFields (action : Action) : List (String × PyVal) := [("action_hash", action.actionHash),
  ("purpose_ref", action.purposeRef), ("scope_refs", action.scopeRefs), ("effect_class", action.effectClass)]

/-- `lease["role_ref"] == p1_role_ref and lease["seat_ref"] == p1_seat_ref` -/
def leaseMatches (roleSeat : PyVal) (lease : SeatLease) : Bool :=
  pyEq lease.roleRef (roleSeat.get "role_ref") && pyEq lease.seatRef (roleSeat.get "seat_ref")

/-- The last check of `_p1_binding_reason`, which asks for the seat if there are leases. -/
def seatBindingReason (leases : List SeatLease) (roleSeat : PyVal) : Check :=
  if leases.isEmpty then .ok none
  else if ¬roleSeat.isDict then .error (.builtin .attributeError)
  else holdIf (!leases.any (leaseMatches roleSeat)) "HOLD_P1_ROLE_SEAT_BINDING_MISMATCH" (.ok none)

/-- `_p1_binding_reason` -/
def p1BindingReason (request : Request) (p1Material : P1Material) : Check := do
  let rootDiffers ← differs p1Material.root (rootFields request)
  holdIf rootDiffers "HOLD_P1_ROOT_BINDING_MISMATCH" do
    let sessionDiffers ← differs p1Material.session [("session_ref", request.session.sessionRef)]
    holdIf sessionDiffers "HOLD_P1_SESSION_BINDING_MISMATCH" do
      let sceneDiffers ← differs p1Material.scene [("scene_ref", request.scene.sceneRef)]
      holdIf sceneDiffers "HOLD_P1_SCENE_BINDING_MISMATCH" do
        let actionDiffers ← differs p1Material.action (actionFields request.action)
        holdIf actionDiffers "HOLD_P1_ACTION_BINDING_MISMATCH"
          (seatBindingReason request.session.roleSeatSnapshot.seatLeases p1Material.roleSeat)

/-- `v != w` -/
def unequal (v w : PyVal) : Bool := !pyEq v w

/-- The root of a session or of a scene is that of the request. -/
def otherRoot (request : Request) (identityRootRef rootGeneration revocationEpoch : PyVal) : Bool :=
  unequal identityRootRef request.identityRootRef || unequal rootGeneration request.rootGeneration ||
    unequal revocationEpoch request.revocationEpoch

/-- The scopes of the action are sorted, and all others are the same. -/
def otherScopes (request : Request) : Bool :=
  let scopes := sortedRefs request.action.scopeRefs
  scopes = none || sortedRefs request.session.scopeRefs ≠ scopes ||
    sortedRefs request.scene.scopeRefs ≠ scopes ||
    sortedRefs request.memberConsentReceipt.scopeRefs ≠ scopes ||
    sortedRefs request.totalFieldReceipt.scopeRefs ≠ scopes

/-- Some effect class is not that of the action. -/
def otherEffects (request : Request) : Bool :=
  unequal request.session.effectClass request.action.effectClass ||
    unequal request.scene.effectClass request.action.effectClass ||
    unequal request.memberConsentReceipt.effectClass request.action.effectClass ||
    unequal request.totalFieldReceipt.effectClass request.action.effectClass

/-- A receipt is not on the action, the root, the session and the scene of the request. -/
def otherBasis (request : Request) (receipt : Receipt) : Bool :=
  unequal receipt.actionHash request.action.actionHash ||
    unequal receipt.rootGeneration request.rootGeneration ||
    unequal receipt.sessionRef request.session.sessionRef ||
    unequal receipt.sceneRef request.scene.sceneRef ||
    unequal receipt.effectClass request.action.effectClass

/-- The four references by a hash, of what is behind them. -/
def sealReason (request : Request) : Check := do
  let sealed ← sealedRef request.session.value "session_ref" "session_ref" ["nonce_binding_sha256"]
  holdIf (!sealed) "HOLD_SESSION_HASH_BINDING_MISMATCH" do
    let sealed ← sealedRef request.scene.value "scene_ref" "scene_ref" []
    holdIf (!sealed) "HOLD_SCENE_HASH_BINDING_MISMATCH" do
      let sealed ← sealedRef request.memberConsentReceipt.value "receipt_ref" "member_consent_receipt_ref" []
      holdIf (!sealed) "HOLD_MEMBER_RECEIPT_HASH_BINDING_MISMATCH" do
        let sealed ← sealedRef request.totalFieldReceipt.value "receipt_ref" "total_field_receipt_ref" []
        holdIf (!sealed) "HOLD_TOTAL_FIELD_RECEIPT_HASH_BINDING_MISMATCH" (.ok none)

/-- `_p3_chain_reason` -/
def p3ChainReason (request : Request) : Check :=
  let session := request.session
  let scene := request.scene
  let memberReceipt := request.memberConsentReceipt
  let totalFieldReceipt := request.totalFieldReceipt
  holdIf (otherRoot request session.identityRootRef session.rootGeneration session.revocationEpoch)
    "HOLD_CROSS_ROOT_SESSION" <|
  holdIf (otherRoot request scene.identityRootRef scene.rootGeneration scene.revocationEpoch)
    "HOLD_CROSS_ROOT_SCENE" <|
  holdIf (unequal scene.sessionRef session.sessionRef) "HOLD_CROSS_SESSION_SCENE" <|
  holdIf (otherScopes request) "HOLD_SCOPE_EXPANSION" <|
  holdIf (otherEffects request) "HOLD_EFFECT_CLASS_EXPANSION" <|
  holdIf (otherBasis request memberReceipt || otherBasis request totalFieldReceipt)
    "HOLD_DUAL_RECEIPT_BASIS_MISMATCH" <|
  holdIf (unequal memberReceipt.receiptState (lit "CONSENT")) "HOLD_MEMBER_CONSENT_RECEIPT_REQUIRED" <|
  holdIf (unequal totalFieldReceipt.receiptState (lit "PASS")) "HOLD_TOTAL_FIELD_RECEIPT_REQUIRED"
    (sealReason request)

/-- The number a value is; what it is asked of are numbers by the schema, or integers. -/
def numberOf (v : PyVal) : ℚ := v.num?.getD 0

/-- `float(v)` of a number that is an integer by the schema. -/
def toFloat (v : PyVal) : Except Fault ℚ :=
  match v with
  | .int n =>
      if 1024 ≤ Nat.log2 (Canonical8D.roundNat n.natAbs) then .error (.own .overflowError)
      else .ok (if n < 0 then -Canonical8D.roundNat n.natAbs else Canonical8D.roundNat n.natAbs)
  | v => .ok (numberOf v)

/-- `v - w` of two numbers that are integers by the schema: an `int` is converted to a float if the other
one is a float, and the difference of floats is rounded. -/
def minus (v w : PyVal) : Except Fault ℚ :=
  match v, w with
  | .int m, .int n => .ok (m - n : ℤ)
  | v, w => do
      let a ← toFloat v
      let b ← toFloat w
      let magnitude := Canonical8D.roundNat ⌊|a - b|⌋.toNat
      pure (if a < b then -magnitude else magnitude)

/-- The time a session is looked at is in its interval. -/
def isOpen (session : Session) (currentEpoch : ℤ) : Bool :=
  numberOf session.issuedAtEpoch ≤ currentEpoch && currentEpoch < numberOf session.expiresAtEpoch

/-- A session is open, and not longer than it may be. -/
def sessionTimely (session : Session) (currentEpoch : ℤ) : Except Fault Bool :=
  if isOpen session currentEpoch then do
    let span ← minus session.expiresAtEpoch session.issuedAtEpoch
    pure (span ≤ numberOf session.ttlSeconds)
  else .ok false

/-- `isinstance(v, int)` -/
def isInt : PyVal → Bool
  | .int _ => true
  | .bool _ => true
  | _ => false

/-- What the loop over the leases has seen: the lease of each seat, and the leases of founders. -/
structure Seats where
  seenSeats : List (PyStr × PyStr)
  founderLeases : List PyStr

/-- What a call uses of its surroundings. -/
structure Surroundings where
  /-- the validator finds no error in a request -/
  accepts : PyVal → Bool
  /-- `str(v)` of what is no text -/
  text : PyVal → PyStr

/-- `str(v)` -/
def Surroundings.str (around : Surroundings) : PyVal → PyStr
  | .str s => s
  | v => around.text v

/-- One round of the loop over the leases, which may end with a reason to hold. -/
def checkLease (around : Surroundings) (request : Request) (currentEpoch : ℤ) (seats : Seats)
    (lease : PyVal) : Except String Seats :=
  let issued := lease.get "issued_at_epoch"
  let expires := lease.get "expires_at_epoch"
  let seatRef := around.str (lease.get "seat_ref")
  let leaseRef := around.str (lease.get "lease_ref")
  if ¬lease.isDict then .error "HOLD_ROLE_SEAT_SNAPSHOT_NOT_EVIDENCED"
  else if unequal (lease.get "identity_root_ref") request.identityRootRef ||
      unequal (lease.get "root_generation") request.rootGeneration ||
      unequal (lease.get "revocation_epoch") request.revocationEpoch then .error "HOLD_ROLE_SEAT_CROSS_ROOT"
  else if ¬(isInt issued ∧ isInt expires ∧ numberOf issued ≤ currentEpoch ∧
      currentEpoch < numberOf expires) then .error "HOLD_ROLE_SEAT_LEASE_EXPIRED"
  else if ((seats.seenSeats.lookup seatRef).any fun seen => seen ≠ leaseRef) then
    .error "HOLD_DOUBLE_ACTIVE_SEAT"
  else .ok ⟨(seatRef, leaseRef) :: seats.seenSeats,
    if pyEq (lease.get "seat_class") (lit "FOUNDER_DEVELOPER") then seats.founderLeases.insert leaseRef
    else seats.founderLeases⟩

/-- The loop over the leases, and the number of founders. -/
def leasesReason (around : Surroundings) (request : Request) (currentEpoch : ℤ) (leases : List PyVal) :
    Option String :=
  match leases.foldlM (checkLease around request currentEpoch) ⟨[], []⟩ with
  | .error reason => some reason
  | .ok seats => if 1 < seats.founderLeases.length then some "HOLD_DOUBLE_ACTIVE_SEAT" else none

/-- `snapshot_material` -/
def snapshotMaterial (snapshot : Snapshot) : PyVal := obj [("role_refs", snapshot.roleRefs),
  ("seat_leases", .list (snapshot.seatLeases.map SeatLease.value))]

/-- `_role_seat_reason` -/
def roleSeatReason (around : Surroundings) (request : Request) (currentEpoch : ℤ)
    (activeSeatLeases : List PyVal) : Check := do
  let snapshot := request.session.roleSeatSnapshot
  let digest ← canonicalSha256 (snapshotMaterial snapshot)
  holdIf (unequal snapshot.snapshotSha256 (.str digest) ||
    unequal snapshot.snapshotRef (refOf "role_seat_snapshot_ref" digest))
    "HOLD_ROLE_SEAT_SNAPSHOT_HASH_MISMATCH" <|
  holdIf (sortedRefs snapshot.roleRefs).isNone "HOLD_ROLE_SEAT_SNAPSHOT_NOT_CANONICAL"
    (.ok (leasesReason around request currentEpoch
      (snapshot.seatLeases.map SeatLease.value ++ activeSeatLeases)))

/-- The checks of the session: its time, its epoch, its roles and seats. -/
def sessionReason (around : Surroundings) (request : Request) (currentEpoch : ℤ)
    (activeSeatLeases : List PyVal) : Check := do
  let timely ← sessionTimely request.session currentEpoch
  holdIf (!timely) "HOLD_SESSION_TTL_INVALID" <|
  holdIf (unequal request.session.revocationEpoch request.revocationEpoch) "HOLD_STALE_REVOCATION_EPOCH"
    (roleSeatReason around request currentEpoch activeSeatLeases)

/-! ### A call -/

/-- What a call returns: the state, the reason and, of a pass, the reference and the material of the
gate. -/
structure Result where
  state : String
  reasonCode : PyStr
  gate : Option (PyStr × PyVal)

/-- `_p3_hold` -/
def p3Hold (reasonCode : String) : Result := ⟨"HOLD", cp reasonCode, none⟩

/-- What a call is given. -/
structure Call where
  request : PyVal
  currentEpoch : ℤ
  /-- `p1_verifier or _default_p1_verifier` -/
  p1Verifier : PyVal → Except Fault PyVal
  /-- the consumer of nonces has a method `consume_once` -/
  nonceConsumer : Bool
  activeSeatLeases : List PyVal

/-- What a call that asks the consumer of nonces keeps. -/
structure Ask where
  request : Request
  bindingSha256 : PyStr

/-- How far a call comes without the consumer of nonces. -/
inductive Progress where
  | returned (result : Result)
  | asks (ask : Ask)

/-- A check that ends a call with the reason it gives. -/
def holdOn (check : Check) (rest : Except Fault Progress) : Except Fault Progress := do
  match ← check with
  | some reason => pure (.returned (p3Hold reason))
  | none => rest

/-- `nonce_material` -/
def nonceMaterial (request : Request) : PyVal := obj [("action_hash", request.action.actionHash),
  ("channel_ref", request.session.channelRef), ("device_ref", request.session.deviceRef),
  ("effect_class", request.action.effectClass), ("expires_at_epoch", request.session.expiresAtEpoch),
  ("identity_root_ref", request.identityRootRef), ("nonce_ref", request.session.nonceRef),
  ("revocation_epoch", request.revocationEpoch), ("root_generation", request.rootGeneration),
  ("scene_ref", request.scene.sceneRef), ("scope_refs", request.action.scopeRefs),
  ("session_ref", request.session.sessionRef)]

/-- The nonce is bound to the request, and then the consumer is asked. -/
def askNonce (call : Call) (request : Request) : Except Fault Progress := do
  let bindingSha256 ← canonicalSha256 (nonceMaterial request)
  if unequal request.session.nonceBindingSha256 (.str bindingSha256) then
    pure (.returned (p3Hold "HOLD_NONCE_BINDING_MISMATCH"))
  else if ¬call.nonceConsumer then pure (.returned (p3Hold "HOLD_DURABLE_NONCE_INTERFACE_REQUIRED"))
  else pure (.asks ⟨request, bindingSha256⟩)

/-- What is returned when the verifier of the identity candidate does not pass it; what is no mapping has
no method `get`. -/
def p1Refusal (around : Surroundings) (p1Result : PyVal) : Except Fault Progress :=
  if ¬p1Result.isDict then .error (.builtin .attributeError)
  else
    let reason := p1Result.get "reason_code"
    .ok (.returned ⟨if pyEq (p1Result.get "state") (lit "BLOCK") then "BLOCK" else "HOLD",
      if reason.truthy then around.str reason else cp "HOLD_P1_VERIFIER_REQUIRED", none⟩)

/-- `p1_result.get("state") == "PASS"` of a mapping -/
def p1Passes (p1Result : PyVal) : Bool := p1Result.isDict && pyEq (p1Result.get "state") (lit "PASS")

/-- A call, up to the consumer of nonces. -/
def beforeNonce (around : Surroundings) (call : Call) : Except Fault Progress :=
  if ¬call.request.isDict then .ok (.returned (p3Hold "HOLD_MEMBER_ACTION_REQUEST_REQUIRED"))
  else if ¬around.accepts call.request then .ok (.returned (p3Hold "HOLD_MEMBER_ACTION_SCHEMA_INVALID"))
  else do
    let request ← readRequest call.request
    match call.p1Verifier request.p1IdentityCandidate with
    | .error _ => pure (.returned (p3Hold "HOLD_P1_VERIFIER_UNAVAILABLE"))
    | .ok p1Result =>
        if p1Passes p1Result then
          match p1JoinMaterial request.p1IdentityCandidate with
          | none => pure (.returned (p3Hold "HOLD_P1_VERIFIED_MATERIAL_REQUIRED"))
          | some p1Material =>
              holdOn (p1BindingReason request p1Material) <|
              holdOn (p3ChainReason request) <|
              holdOn (sessionReason around request call.currentEpoch call.activeSeatLeases)
                (askNonce call request)
        else p1Refusal around p1Result

/-- `evidence_material` -/
def evidenceMaterial (ask : Ask) : PyVal := obj [("atomic", .bool true),
  ("binding_sha256", .str ask.bindingSha256), ("durable", .bool true),
  ("expires_at_epoch", ask.request.session.expiresAtEpoch), ("nonce_ref", ask.request.session.nonceRef),
  ("state", lit "CONSUMED")]

/-- `v is True` -/
def isTrue : PyVal → Bool
  | .bool b => b
  | _ => false

/-- The evidence is not that of the consumption that was asked for. -/
def otherEvidence (ask : Ask) (nonceEvidence : PyVal) (evidenceSha256 : PyStr) : Bool :=
  unequal (nonceEvidence.get "state") (lit "CONSUMED") ||
    unequal (nonceEvidence.get "nonce_ref") ask.request.session.nonceRef ||
    unequal (nonceEvidence.get "binding_sha256") (.str ask.bindingSha256) ||
    unequal (nonceEvidence.get "expires_at_epoch") ask.request.session.expiresAtEpoch ||
    !isTrue (nonceEvidence.get "durable") || !isTrue (nonceEvidence.get "atomic") ||
    unequal (nonceEvidence.get "evidence_ref") (refOf "nonce_consumption_evidence_ref" evidenceSha256)

/-- `gate_material` -/
def gateMaterial (request : Request) (evidenceRef : PyVal) : PyVal := obj [
  ("action_hash", request.action.actionHash), ("candidate_authority", lit "none"),
  ("effect_class", request.action.effectClass), ("identity_root_ref", request.identityRootRef),
  ("member_consent_authority", lit "member"),
  ("member_consent_receipt_ref", request.memberConsentReceipt.receiptRef),
  ("nonce_consumption_evidence_ref", evidenceRef), ("process_authority", lit "odoo"),
  ("revocation_epoch", request.revocationEpoch), ("root_generation", request.rootGeneration),
  ("safety_and_landing_authority", lit "total_field_verifier"), ("scene_ref", request.scene.sceneRef),
  ("schema_version", lit p3SchemaVersion), ("scope_refs", request.action.scopeRefs),
  ("session_ref", request.session.sessionRef),
  ("total_field_receipt_ref", request.totalFieldReceipt.receiptRef)]

/-- A call, from what `consume_once` has returned or raised. -/
def afterNonce (ask : Ask) : Except Fault PyVal → Except Fault Result
  | .error _ => .ok (p3Hold "HOLD_DURABLE_NONCE_CONSUME_FAILED")
  | .ok nonceEvidence =>
      if ¬nonceEvidence.isDict then .ok (p3Hold "HOLD_DURABLE_NONCE_EVIDENCE_REQUIRED")
      else if pyEq (nonceEvidence.get "state") (lit "REPLAY") then .ok (p3Hold "HOLD_NONCE_REPLAY")
      else do
        let evidenceSha256 ← canonicalSha256 (evidenceMaterial ask)
        if otherEvidence ask nonceEvidence evidenceSha256 then
          pure (p3Hold "HOLD_DURABLE_NONCE_EVIDENCE_INVALID")
        else do
          let evidenceRef ← nonceEvidence.at "evidence_ref"
          let gateSha256 ← canonicalSha256 (gateMaterial ask.request evidenceRef)
          pure ⟨"PASS", cp "PASS_P3_SESSION_DUAL_RECEIPT_9107_GATE_CANDIDATE",
            some (cp "member_action_gate_ref:sha256:" ++ gateSha256,
              gateMaterial ask.request evidenceRef)⟩

/-- `evaluate_member_action_session`, with a consumer of nonces. -/
def evaluateMemberActionSession (around : Surroundings) (call : Call)
    (consumeOnce : Ask → Except Fault PyVal) : Except Fault Result := do
  match ← beforeNonce around call with
  | .returned result => pure result
  | .asks ask => afterNonce ask (consumeOnce ask)

/-! ### Calls that are interleaved -/

/-- What a call is about to do, or what it has done; of a call that has returned, whether it has asked the
consumer. -/
inductive Phase where
  | ready
  | asking (ask : Ask)
  | returned (result : Result) (asked : Bool)
  | raised

/-- What a consumer was asked, and what it has answered. -/
structure Answer where
  ask : Ask
  answer : Except Fault PyVal

/-- The calls, and the answers of the consumer, each with the call it was for. -/
structure State (ι : Type) where
  phase : ι → Phase
  answers : List (ι × Answer)

/-- The phase a call is in when it has run up to the consumer. -/
def phaseOf : Except Fault Progress → Phase
  | .ok (.returned result) => .returned result false
  | .ok (.asks ask) => .asking ask
  | .error _ => .raised

/-- The phase a call is in when it has run to its end. -/
def endOf : Except Fault Result → Phase
  | .ok result => .returned result true
  | .error _ => .raised

variable {ι : Type} [DecidableEq ι]

/-- A step: a call runs up to the consumer, or the consumer answers a call, which then runs to its end. -/
inductive Step (around : Surroundings) (calls : ι → Call) : State ι → State ι → Prop
  | start (s : State ι) (i : ι) (h : s.phase i = .ready) :
      Step around calls s ⟨Function.update s.phase i (phaseOf (beforeNonce around (calls i))), s.answers⟩
  | consume (s : State ι) (i : ι) (ask : Ask) (answer : Except Fault PyVal) (h : s.phase i = .asking ask) :
      Step around calls s ⟨Function.update s.phase i (endOf (afterNonce ask answer)),
        s.answers ++ [(i, ⟨ask, answer⟩)]⟩

/-- No call has begun. -/
def initial : State ι := ⟨fun _ => .ready, []⟩

/-- The states a run comes to. -/
def Reachable (around : Surroundings) (calls : ι → Call) (s : State ι) : Prop :=
  Relation.ReflTransGen (Step around calls) initial s

/-- The consumer has answered `CONSUMED`. -/
def Answer.granted (answer : Answer) : Prop :=
  ∃ evidence, answer.answer = .ok evidence ∧ evidence.get "state" = lit "CONSUMED"

/-- The consumer answers `CONSUMED` at most once for a nonce. -/
def OncePerNonce {ι : Type} (answers : List (ι × Answer)) : Prop :=
  answers.Pairwise fun a b =>
    ¬(a.2.granted ∧ b.2.granted ∧ a.2.ask.request.session.nonceRef = b.2.ask.request.session.nonceRef)

/-! ### What the schema gives -/

theorem encodable_of_isHashRef {s : PyStr} (h : isHashRef s = true) : Encodable s := by
  simp only [isHashRef, Bool.and_eq_true, decide_eq_true_eq] at h
  obtain ⟨⟨hstem, hmiddle⟩, hhex⟩ := h
  refine encodable_of_chomp ?_
  generalize chomp s = t at hstem hmiddle hhex
  generalize t.length - 76 = cut at hstem hmiddle hhex
  have hparts : t = t.take cut ++ ((t.drop cut).take 12 ++ t.drop (cut + 12)) := by
    rw [← List.drop_drop, List.take_append_drop, List.take_append_drop]
  rw [hparts, hmiddle]
  refine encodable_append.2 ⟨?_, encodable_append.2 ⟨encodable_cp _, encodable_of_isHex64 hhex⟩⟩
  generalize t.take cut = stem at hstem
  cases stem with
  | nil => cases hstem
  | cons c stem =>
      simp only [isStem, Bool.and_eq_true, List.all_eq_true, Bool.or_eq_true, decide_eq_true_eq] at hstem
      intro d hd
      unfold IsSurrogate
      rcases List.mem_cons.1 hd with rfl | hd
      · omega
      · have hrange := hstem.2 d hd
        omega

theorem closed_hashRef : Closed hashRef := closed_text fun _ h => encodable_of_isHashRef h

theorem closed_scopeRefs : Closed scopeRefs := closed_array (closed_hashOf _)

theorem closed_effectClass : Closed effectClass := closed_enum _

theorem closed_seatLease : Closed seatLease := closed_object <| by
  simp only [List.forall_mem_cons, List.not_mem_nil, IsEmpty.forall_iff, implies_true, and_true]
  exact ⟨closed_hashRef, closed_hashRef, closed_enum _, closed_hashRef, closed_hashRef, closed_integer _ _,
    closed_integer _ _, closed_integer _ _, closed_integer _ _, closed_constant _⟩

/-- The properties of the snapshot. -/
theorem closed_snapshot : Closed roleSeatSnapshot := closed_object <| by
  simp only [List.forall_mem_cons, List.not_mem_nil, IsEmpty.forall_iff, implies_true, and_true]
  exact ⟨closed_hashRef, closed_sha256, closed_array closed_hashRef, closed_array closed_seatLease⟩

theorem closed_binding : Closed (anyOf [hashRef, null]) := closed_anyOf <| by
  simp only [List.forall_mem_cons, List.not_mem_nil, IsEmpty.forall_iff, implies_true, and_true]
  exact ⟨closed_hashRef, closed_null⟩

theorem closed_sessionProperties : ∀ q ∈ sessionProperties, Closed q.2 := by
  simp only [sessionProperties, List.forall_mem_cons, List.not_mem_nil, IsEmpty.forall_iff, implies_true,
    and_true]
  exact ⟨closed_hashRef, closed_hashRef, closed_hashRef, closed_integer _ _, closed_integer _ _,
    closed_integer _ _, closed_integer _ _, closed_integer _ _, closed_scopeRefs, closed_effectClass,
    closed_binding, closed_binding, closed_hashRef, closed_sha256, closed_snapshot⟩

theorem closed_sceneProperties : ∀ q ∈ sceneProperties, Closed q.2 := by
  simp only [sceneProperties, List.forall_mem_cons, List.not_mem_nil, IsEmpty.forall_iff, implies_true,
    and_true]
  exact ⟨closed_hashRef, closed_hashRef, closed_integer _ _, closed_integer _ _, closed_hashRef,
    closed_scopeRefs, closed_effectClass⟩

theorem closed_actionProperties : ∀ q ∈ actionProperties, Closed q.2 := by
  simp only [actionProperties, List.forall_mem_cons, List.not_mem_nil, IsEmpty.forall_iff, implies_true,
    and_true]
  exact ⟨closed_sha256, closed_hashRef, closed_scopeRefs, closed_effectClass⟩

theorem closed_receiptProperties (state authority : String) :
    ∀ q ∈ receiptProperties state authority, Closed q.2 := by
  simp only [receiptProperties, List.forall_mem_cons, List.not_mem_nil, IsEmpty.forall_iff, implies_true,
    and_true]
  exact ⟨closed_hashRef, closed_constant _, closed_constant _, closed_sha256, closed_integer _ _,
    closed_hashRef, closed_hashRef, closed_scopeRefs, closed_effectClass⟩

/-! ### What is read of a request that conforms -/

section Read

variable {v : PyVal}

theorem read_leases {xs : List PyVal} (h : ∀ x ∈ xs, seatLease x = true) :
    ∃ leases, xs.mapM readLease = .ok leases ∧ leases.map SeatLease.value = xs := by
  induction xs with
  | nil => exact ⟨[], rfl, rfl⟩
  | cons x xs ih =>
      rw [List.forall_mem_cons] at h
      obtain ⟨leases, hleases, hvalues⟩ := ih h.2
      have hrole := (at_of_object (ε := Canonical8D.Failure) h.1 (by decide)
        (show ("role_ref", hashRef) ∈ _ by simp)).1
      have hseat := (at_of_object (ε := Canonical8D.Failure) h.1 (by decide)
        (show ("seat_ref", hashRef) ∈ _ by simp)).1
      rw [List.mapM_cons, readLease, hrole, ok_bind, hseat, ok_bind, pure_bind, hleases, ok_bind]
      exact ⟨_, rfl, by rw [List.map_cons, hvalues]⟩

/-- What is used of the snapshot has a canonical text. -/
theorem read_snapshot (h : roleSeatSnapshot v = true) :
    ∃ snapshot, readSnapshot v = .ok snapshot ∧ Canonical (snapshotMaterial snapshot) := by
  have hnames : ([("snapshot_ref", hashRef), ("snapshot_sha256", sha256), ("role_refs", array 0 none hashRef),
      ("seat_leases", array 0 none seatLease)].map Prod.fst).Nodup := by decide
  have hleases := at_of_object (ε := Canonical8D.Failure) h hnames
    (show ("seat_leases", array 0 none seatLease) ∈ _ by simp)
  have href := at_of_object (ε := Canonical8D.Failure) h hnames (show ("snapshot_ref", hashRef) ∈ _ by simp)
  have hsha := at_of_object (ε := Canonical8D.Failure) h hnames (show ("snapshot_sha256", sha256) ∈ _ by simp)
  have hroles := at_of_object (ε := Canonical8D.Failure) h hnames
    (show ("role_refs", array 0 none hashRef) ∈ _ by simp)
  obtain ⟨xs, hxs, hconform⟩ := of_array hleases.2
  obtain ⟨leases, hread, hvalues⟩ := read_leases hconform
  rw [readSnapshot, hleases.1, ok_bind, hxs, listOf, ok_bind, href.1, ok_bind, hsha.1, ok_bind, hroles.1, ok_bind,
    hread, ok_bind]
  refine ⟨_, rfl, canonical_obj ?_⟩
  simp only [List.forall_mem_cons, List.not_mem_nil, IsEmpty.forall_iff, implies_true, and_true, hvalues]
  exact ⟨closed_array closed_hashRef _ hroles.2, canonical_list fun x hx => closed_seatLease x (hconform x hx)⟩

/-- What is used of the session has a canonical text. -/
structure Session.Canonical (s : Session) : Prop where
  value : JsonSchema.Canonical s.value
  channelRef : JsonSchema.Canonical s.channelRef
  deviceRef : JsonSchema.Canonical s.deviceRef
  expiresAtEpoch : JsonSchema.Canonical s.expiresAtEpoch
  nonceRef : JsonSchema.Canonical s.nonceRef
  sessionRef : JsonSchema.Canonical s.sessionRef
  snapshot : JsonSchema.Canonical (snapshotMaterial s.roleSeatSnapshot)

theorem read_session (h : session v = true) :
    ∃ s, readSession v = .ok s ∧ s.nonceRef = v.get "nonce_ref" ∧ s.Canonical := by
  rw [session, Bool.and_eq_true] at h
  have hnames : (sessionProperties.map Prod.fst).Nodup := by decide
  have hat := at_of_closed (ε := Canonical8D.Failure) h.1 hnames closed_sessionProperties
  obtain ⟨snapshot, hread, hcanonical⟩ := read_snapshot (get_of_object h.1 hnames
    (show ("role_seat_snapshot", roleSeatSnapshot) ∈ _ by simp [sessionProperties]))
  rw [readSession, (hat "role_seat_snapshot" (by decide)).1, ok_bind, (hat "session_ref" (by decide)).1, ok_bind,
    (hat "identity_root_ref" (by decide)).1, ok_bind, (hat "root_generation" (by decide)).1, ok_bind,
    (hat "revocation_epoch" (by decide)).1, ok_bind, (hat "issued_at_epoch" (by decide)).1, ok_bind,
    (hat "expires_at_epoch" (by decide)).1, ok_bind, (hat "ttl_seconds" (by decide)).1, ok_bind,
    (hat "scope_refs" (by decide)).1, ok_bind, (hat "effect_class" (by decide)).1, ok_bind,
    (hat "device_ref" (by decide)).1, ok_bind, (hat "channel_ref" (by decide)).1, ok_bind,
    (hat "nonce_ref" (by decide)).1, ok_bind, (hat "nonce_binding_sha256" (by decide)).1, ok_bind, hread, ok_bind]
  exact ⟨_, rfl, rfl, closed_object closed_sessionProperties v h.1, (hat "channel_ref" (by decide)).2,
    (hat "device_ref" (by decide)).2, (hat "expires_at_epoch" (by decide)).2, (hat "nonce_ref" (by decide)).2,
    (hat "session_ref" (by decide)).2, hcanonical⟩

theorem read_scene (h : object sceneProperties v = true) :
    ∃ s, readScene v = .ok s ∧ Canonical s.value ∧ Canonical s.sceneRef := by
  have hat := at_of_closed (ε := Canonical8D.Failure) h (by decide) closed_sceneProperties
  rw [readScene, (hat "scene_ref" (by decide)).1, ok_bind, (hat "identity_root_ref" (by decide)).1, ok_bind,
    (hat "root_generation" (by decide)).1, ok_bind, (hat "revocation_epoch" (by decide)).1, ok_bind,
    (hat "session_ref" (by decide)).1, ok_bind, (hat "scope_refs" (by decide)).1, ok_bind,
    (hat "effect_class" (by decide)).1, ok_bind]
  exact ⟨_, rfl, closed_object closed_sceneProperties v h, (hat "scene_ref" (by decide)).2⟩

theorem read_action (h : object actionProperties v = true) :
    ∃ a, readAction v = .ok a ∧ Canonical a.actionHash ∧ Canonical a.scopeRefs ∧ Canonical a.effectClass := by
  have hat := at_of_closed (ε := Canonical8D.Failure) h (by decide) closed_actionProperties
  rw [readAction, (hat "action_hash" (by decide)).1, ok_bind, (hat "purpose_ref" (by decide)).1, ok_bind,
    (hat "scope_refs" (by decide)).1, ok_bind, (hat "effect_class" (by decide)).1, ok_bind]
  exact ⟨_, rfl, (hat "action_hash" (by decide)).2, (hat "scope_refs" (by decide)).2,
    (hat "effect_class" (by decide)).2⟩

theorem read_receipt {state authority : String} (h : object (receiptProperties state authority) v = true) :
    ∃ r, readReceipt v = .ok r ∧ Canonical r.value ∧ Canonical r.receiptRef := by
  have hnames : (receiptProperties state authority).map Prod.fst = ["receipt_ref", "receipt_state", "authority",
      "action_hash", "root_generation", "session_ref", "scene_ref", "scope_refs", "effect_class"] := rfl
  have hat := at_of_closed (ε := Canonical8D.Failure) h (by rw [hnames]; decide)
    (closed_receiptProperties state authority)
  rw [hnames] at hat
  rw [readReceipt, (hat "receipt_ref" (by decide)).1, ok_bind, (hat "receipt_state" (by decide)).1, ok_bind,
    (hat "action_hash" (by decide)).1, ok_bind, (hat "root_generation" (by decide)).1, ok_bind,
    (hat "session_ref" (by decide)).1, ok_bind, (hat "scene_ref" (by decide)).1, ok_bind,
    (hat "scope_refs" (by decide)).1, ok_bind, (hat "effect_class" (by decide)).1, ok_bind]
  exact ⟨_, rfl, closed_object (closed_receiptProperties state authority) v h, (hat "receipt_ref" (by decide)).2⟩

/-- What is used of a request has a canonical text. -/
structure Request.Canonical (r : Request) : Prop where
  identityRootRef : JsonSchema.Canonical r.identityRootRef
  rootGeneration : JsonSchema.Canonical r.rootGeneration
  revocationEpoch : JsonSchema.Canonical r.revocationEpoch
  session : r.session.Canonical
  sceneValue : JsonSchema.Canonical r.scene.value
  sceneRef : JsonSchema.Canonical r.scene.sceneRef
  actionHash : JsonSchema.Canonical r.action.actionHash
  scopeRefs : JsonSchema.Canonical r.action.scopeRefs
  effectClass : JsonSchema.Canonical r.action.effectClass
  memberReceipt : JsonSchema.Canonical r.memberConsentReceipt.value
  memberReceiptRef : JsonSchema.Canonical r.memberConsentReceipt.receiptRef
  totalFieldReceipt : JsonSchema.Canonical r.totalFieldReceipt.value
  totalFieldReceiptRef : JsonSchema.Canonical r.totalFieldReceipt.receiptRef

/-- A request that conforms is read. -/
theorem read_request (h : memberActionRequest v = true) : ∃ r, readRequest v = .ok r ∧
    r.session.nonceRef = (v.get "session").get "nonce_ref" ∧ r.Canonical := by
  have hnames : (requestProperties.map Prod.fst).Nodup := by decide
  have hat : ∀ (k : String) (schema : Schema), (k, schema) ∈ requestProperties →
      v.at k = (.ok (v.get k) : Except Fault PyVal) ∧ schema (v.get k) = true :=
    fun _ _ hk => at_of_object h hnames hk
  have hidentity := hat "identity_root_ref" hashRef (by simp [requestProperties])
  have hpacket := hat "root_packet_ref" hashRef (by simp [requestProperties])
  have hgeneration := hat "root_generation" (integer 1 none) (by simp [requestProperties])
  have hepoch := hat "revocation_epoch" (integer 0 none) (by simp [requestProperties])
  have hcandidate := hat "p1_identity_candidate" identityCandidate (by simp [requestProperties])
  have hsession := hat "session" session (by simp [requestProperties])
  have hscene := hat "scene" (object sceneProperties) (by simp [requestProperties])
  have haction := hat "action" (object actionProperties) (by simp [requestProperties])
  have hconsent := hat "member_consent_receipt" memberConsentReceipt (by simp [requestProperties])
  have hverdict := hat "total_field_receipt" totalFieldReceipt (by simp [requestProperties])
  obtain ⟨s, hs, hnonce, hsCanonical⟩ := read_session hsession.2
  obtain ⟨scene, hreadScene, hsceneValue, hsceneRef⟩ := read_scene hscene.2
  obtain ⟨action, hreadAction, hactionHash, hscopes, heffect⟩ := read_action haction.2
  obtain ⟨consent, hreadConsent, hconsentValue, hconsentRef⟩ := read_receipt hconsent.2
  obtain ⟨verdict, hreadVerdict, hverdictValue, hverdictRef⟩ := read_receipt hverdict.2
  rw [readRequest, hsession.1, ok_bind, hscene.1, ok_bind, haction.1, ok_bind, hconsent.1, ok_bind, hverdict.1,
    ok_bind, hcandidate.1, ok_bind, hidentity.1, ok_bind, hpacket.1, ok_bind, hgeneration.1, ok_bind, hepoch.1,
    ok_bind, hs, ok_bind, hreadScene, ok_bind, hreadAction, ok_bind, hreadConsent, ok_bind, hreadVerdict, ok_bind]
  exact ⟨_, rfl, hnonce, closed_hashRef _ hidentity.2, closed_integer _ _ _ hgeneration.2,
    closed_integer _ _ _ hepoch.2, hsCanonical, hsceneValue, hsceneRef, hactionHash, hscopes, heffect,
    hconsentValue, hconsentRef, hverdictValue, hverdictRef⟩

end Read

/-! ### The checks return -/

/-- A computation returns. -/
def Returns {ε α : Type} (x : Except ε α) : Prop := ∃ a, x = .ok a

/-- The values of a mapping agree with those that are expected. -/
def Agrees (v : PyVal) (expected : List (String × PyVal)) : Prop :=
  ∀ p ∈ expected, pyEq (v.get p.1) p.2 = true

/-- What the verifier has passed can be compared with the request: each part that is looked at is a
mapping. -/
def Comparable (request : Request) (m : P1Material) : Prop :=
  m.root.isDict ∧ (Agrees m.root (rootFields request) →
    m.session.isDict ∧ (Agrees m.session [("session_ref", request.session.sessionRef)] →
      m.scene.isDict ∧ (Agrees m.scene [("scene_ref", request.scene.sceneRef)] →
        m.action.isDict ∧ (Agrees m.action (actionFields request.action) →
          request.session.roleSeatSnapshot.seatLeases.isEmpty ∨ m.roleSeat.isDict))))

/-- A number that can become a float. -/
def Fits : PyVal → Prop
  | .int n => Nat.log2 (Canonical8D.roundNat n.natAbs) < 1024
  | _ => True

/-- The difference of two numbers can be computed: both are of the type `int`, or both can become
floats. -/
def Convertible (v w : PyVal) : Prop := (∃ m n, v = .int m ∧ w = .int n) ∨ Fits v ∧ Fits w

/-- A call that does not raise: the verifier raises or answers a mapping, what it passes can be compared,
and the length of a session that is looked at can be computed. -/
def Answerable (around : Surroundings) (call : Call) : Prop :=
  around.accepts call.request = true → ∀ request, readRequest call.request = .ok request →
    ∀ p1Result, call.p1Verifier request.p1IdentityCandidate = .ok p1Result →
      p1Result.isDict ∧ (p1Passes p1Result → ∀ m, p1JoinMaterial request.p1IdentityCandidate = some m →
        Comparable request m ∧ (p1BindingReason request m = .ok none → p3ChainReason request = .ok none →
          isOpen request.session call.currentEpoch →
            Convertible request.session.expiresAtEpoch request.session.issuedAtEpoch))

section Checks

variable {request : Request} {m : P1Material}

theorem canonicalSha256_returns {v : PyVal} (h : Canonical v) : Returns (canonicalSha256 v) := by
  obtain ⟨hplain, hfinite⟩ := h
  have hencodable : Encodable (PyJson.write PyJson.compact v) :=
    hplain.encodable_write (encodable_cp _) (encodable_cp _)
  rw [canonicalSha256, PyJson.dumps, if_pos hplain.serialisable, ok_bind, if_neg (not_not.2 hfinite),
    encodeUtf8_ok hencodable]
  exact ⟨_, rfl⟩

theorem sealedRef_returns {value : PyVal} (h : Canonical value) (refField stem : String)
    (excludedFields : List String) : Returns (sealedRef value refField stem excludedFields) := by
  have hitems : Canonical (.dict (itemsOf value)) := by
    cases value with
    | dict items => exact h
    | _ => exact ⟨.dict [] (by simp) (by simp), rfl⟩
  obtain ⟨digest, hdigest⟩ := canonicalSha256_returns (hitems.filter fun p =>
    decide (p.1 ≠ key refField ∧ ∀ k ∈ excludedFields, p.1 ≠ key k))
  rw [sealedRef, hdigest, ok_bind]
  exact ⟨_, rfl⟩

theorem holdIf_returns {c : Bool} {reason : String} {rest : Check} (h : Returns rest) :
    Returns (holdIf c reason rest) := by
  rw [holdIf]
  split_ifs
  · exact ⟨_, rfl⟩
  · exact h

theorem holdIf_eq_none {c : Bool} {reason : String} {rest : Check} :
    holdIf c reason rest = .ok none ↔ c = false ∧ rest = .ok none := by
  cases c <;> simp [holdIf]

/-- A check whose guard returns, and then the rest. -/
theorem guard_returns {x : Except Fault Bool} {reason : String} {f : Bool → Bool} {rest : Check}
    (hx : Returns x) (h : Returns rest) : Returns (x >>= fun b => holdIf (f b) reason rest) := by
  obtain ⟨b, hb⟩ := hx
  rw [hb, ok_bind]
  exact holdIf_returns h

theorem sealReason_returns (h : request.Canonical) : Returns (sealReason request) :=
  guard_returns (f := not) (sealedRef_returns h.session.value _ _ _) <|
  guard_returns (f := not) (sealedRef_returns h.sceneValue _ _ _) <|
  guard_returns (f := not) (sealedRef_returns h.memberReceipt _ _ _) <|
  guard_returns (f := not) (sealedRef_returns h.totalFieldReceipt _ _ _) ⟨none, rfl⟩

theorem p3ChainReason_returns (h : request.Canonical) : Returns (p3ChainReason request) :=
  holdIf_returns <| holdIf_returns <| holdIf_returns <| holdIf_returns <| holdIf_returns <| holdIf_returns <|
    holdIf_returns <| holdIf_returns <| sealReason_returns h

theorem roleSeatReason_returns (around : Surroundings) (h : request.Canonical) (currentEpoch : ℤ)
    (activeSeatLeases : List PyVal) :
    Returns (roleSeatReason around request currentEpoch activeSeatLeases) := by
  obtain ⟨digest, hdigest⟩ := canonicalSha256_returns h.session.snapshot
  rw [roleSeatReason, hdigest, ok_bind]
  exact holdIf_returns <| holdIf_returns ⟨_, rfl⟩

/-- A comparison returns when its value is a mapping; the rest has to return if the values agree. -/
theorem compare_returns_iff {v : PyVal} {expected : List (String × PyVal)} {reason : String} {rest : Check} :
    Returns (differs v expected >>= fun b => holdIf b reason rest) ↔
      v.isDict ∧ (Agrees v expected → Returns rest) := by
  rw [differs]
  split_ifs with hdict
  · rw [ok_bind, holdIf, and_iff_right hdict]
    split_ifs with hdiffers
    · refine iff_of_true ⟨_, rfl⟩ fun hagrees => ?_
      obtain ⟨p, hp, hne⟩ := List.any_eq_true.1 hdiffers
      simp [hagrees p hp] at hne
    · rw [imp_iff_right]
      intro p hp
      by_contra hne
      exact hdiffers (List.any_eq_true.2 ⟨p, hp, by simpa using hne⟩)
  · exact iff_of_false (by simp [Returns]) fun h => hdict h.1

/-- A comparison holds nothing back when the values agree. -/
theorem compare_eq_none {v : PyVal} {expected : List (String × PyVal)} {reason : String} {rest : Check}
    (h : (differs v expected >>= fun b => holdIf b reason rest) = .ok none) :
    Agrees v expected ∧ rest = .ok none := by
  obtain ⟨b, hb, h⟩ := bind_eq_ok_iff.1 h
  obtain ⟨rfl, hrest⟩ := holdIf_eq_none.1 h
  rw [differs] at hb
  split_ifs at hb
  refine ⟨fun p hp => ?_, hrest⟩
  simpa using List.any_eq_false.1 (Except.ok.inj hb) p hp

/-- The binding to the identity candidate is judged when the parts of the candidate are mappings. -/
theorem p1BindingReason_returns_iff : Returns (p1BindingReason request m) ↔ Comparable request m := by
  have hseat : Returns (seatBindingReason request.session.roleSeatSnapshot.seatLeases m.roleSeat) ↔
      (request.session.roleSeatSnapshot.seatLeases.isEmpty ∨ m.roleSeat.isDict) := by
    rw [seatBindingReason]
    split_ifs with hempty hdict
    · exact iff_of_true ⟨_, rfl⟩ (.inl hempty)
    · exact iff_of_true (holdIf_returns ⟨_, rfl⟩) (.inr hdict)
    · exact iff_of_false (by simp [Returns]) fun h => h.elim hempty hdict
  rw [p1BindingReason, compare_returns_iff, compare_returns_iff, compare_returns_iff, compare_returns_iff, hseat]
  rfl

theorem toFloat_returns_iff {v : PyVal} : Returns (toFloat v) ↔ Fits v := by
  cases v with
  | int n =>
      rw [toFloat, Fits]
      split_ifs with h
      · exact iff_of_false (by simp [Returns]) (by omega)
      · exact iff_of_true ⟨_, rfl⟩ (by omega)
      · exact iff_of_true ⟨_, rfl⟩ (by omega)
  | _ => exact iff_of_true ⟨_, rfl⟩ trivial

theorem minus_returns_iff {v w : PyVal} : Returns (minus v w) ↔ Convertible v w := by
  have hfloat : Returns (do
      let a ← toFloat v
      let b ← toFloat w
      let magnitude := Canonical8D.roundNat ⌊|a - b|⌋.toNat
      pure (if a < b then -(magnitude : ℚ) else magnitude)) ↔ Fits v ∧ Fits w := by
    rw [← toFloat_returns_iff, ← toFloat_returns_iff]
    refine exists_bind_ok_iff fun a _ => ?_
    exact exists_bind_pure_iff
  by_cases hints : ∃ m n, v = .int m ∧ w = .int n
  · obtain ⟨m, n, rfl, rfl⟩ := hints
    exact iff_of_true ⟨_, rfl⟩ (.inl ⟨m, n, rfl, rfl⟩)
  · rw [Convertible, or_iff_right hints, ← hfloat, minus]
    intro m n hv hw
    exact hints ⟨m, n, hv, hw⟩

theorem sessionReason_returns_iff (around : Surroundings) (h : request.Canonical) (currentEpoch : ℤ)
    (activeSeatLeases : List PyVal) :
    Returns (sessionReason around request currentEpoch activeSeatLeases) ↔
      (isOpen request.session currentEpoch →
        Convertible request.session.expiresAtEpoch request.session.issuedAtEpoch) := by
  have hrest := roleSeatReason_returns around h currentEpoch activeSeatLeases
  rw [sessionReason, sessionTimely]
  split_ifs with hopen
  · rw [← minus_returns_iff, imp_iff_right hopen]
    constructor
    · rintro ⟨r, hr⟩
      obtain ⟨b, hb, -⟩ := bind_eq_ok_iff.1 hr
      obtain ⟨span, hspan, -⟩ := bind_eq_ok_iff.1 hb
      exact ⟨span, hspan⟩
    · rintro ⟨span, hspan⟩
      rw [hspan, ok_bind, pure_bind]
      exact holdIf_returns <| holdIf_returns hrest
  · rw [ok_bind]
    exact iff_of_true (holdIf_returns <| holdIf_returns hrest) fun h => absurd h hopen

theorem nonceMaterial_canonical (h : request.Canonical) : Canonical (nonceMaterial request) := by
  refine canonical_obj ?_
  simp only [List.forall_mem_cons, List.not_mem_nil, IsEmpty.forall_iff, implies_true, and_true]
  exact ⟨h.actionHash, h.session.channelRef, h.session.deviceRef, h.effectClass, h.session.expiresAtEpoch,
    h.identityRootRef, h.session.nonceRef, h.revocationEpoch, h.rootGeneration, h.sceneRef, h.scopeRefs,
    h.session.sessionRef⟩

theorem askNonce_returns (call : Call) (h : request.Canonical) : Returns (askNonce call request) := by
  obtain ⟨digest, hdigest⟩ := canonicalSha256_returns (nonceMaterial_canonical h)
  rw [askNonce, hdigest, ok_bind]
  split_ifs
  · exact ⟨_, rfl⟩
  · exact ⟨_, rfl⟩
  · exact ⟨_, rfl⟩

theorem holdOn_returns_iff {check : Check} {rest : Except Fault Progress} :
    Returns (holdOn check rest) ↔ Returns check ∧ (check = .ok none → Returns rest) := by
  rcases check with e | reason | reason
  · exact iff_of_false (by simp [holdOn, Returns]) fun h => by simp [Returns] at h
  · simp [holdOn, Returns]
  · simp [holdOn, Returns, pure, Except.pure]

/-- A check that returns a reason ends a call without asking. -/
theorem holdOn_eq_asks {check : Check} {rest : Except Fault Progress} {ask : Ask}
    (h : holdOn check rest = .ok (.asks ask)) : check = .ok none ∧ rest = .ok (.asks ask) := by
  rcases check with e | reason | reason
  · cases h
  · exact ⟨rfl, h⟩
  · cases h

/-- A result that is returned without asking is that of the rest, or a hold. -/
theorem holdOn_eq_returned {check : Check} {rest : Except Fault Progress} {result : Result}
    (h : holdOn check rest = .ok (.returned result)) :
    result.state = "HOLD" ∨ rest = .ok (.returned result) := by
  rcases check with e | reason | reason
  · cases h
  · exact .inr h
  · obtain rfl := Progress.returned.inj (Except.ok.inj h)
    exact .inl rfl

end Checks

section Call

variable {around : Surroundings} {call : Call}

/-- **When a call raises.**  Up to the consumer of nonces a call returns if and only if it is answerable. -/
theorem beforeNonce_returns_iff
    (haccepts : ∀ v, around.accepts v = true → memberActionRequest v = true) :
    Returns (beforeNonce around call) ↔ Answerable around call := by
  rw [beforeNonce]
  split_ifs with hdict haccepted
  · obtain ⟨request, hread, -, hcanonical⟩ := read_request (haccepts _ haccepted)
    have hall : Answerable around call ↔ ∀ p1Result,
        call.p1Verifier request.p1IdentityCandidate = .ok p1Result →
        p1Result.isDict ∧ (p1Passes p1Result → ∀ m, p1JoinMaterial request.p1IdentityCandidate = some m →
          Comparable request m ∧ (p1BindingReason request m = .ok none → p3ChainReason request = .ok none →
            isOpen request.session call.currentEpoch →
              Convertible request.session.expiresAtEpoch request.session.issuedAtEpoch)) := by
      refine ⟨fun h => h haccepted request hread, fun h _ request' hread' => ?_⟩
      obtain rfl := Except.ok.inj (hread.symm.trans hread')
      exact h
    rw [hread, ok_bind, hall]
    cases hverifier : call.p1Verifier request.p1IdentityCandidate with
    | error e => exact iff_of_true ⟨_, rfl⟩ (by simp)
    | ok p1Result =>
        simp only [Except.ok.injEq, forall_eq']
        split_ifs with hpasses
        · have hisDict : p1Result.isDict = true := (Bool.and_eq_true_iff.1 hpasses).1
          rw [and_iff_right hisDict, imp_iff_right hpasses]
          cases hmaterial : p1JoinMaterial request.p1IdentityCandidate with
          | none => exact iff_of_true ⟨_, rfl⟩ (by simp)
          | some m =>
              simp only [Option.some.injEq, forall_eq']
              rw [holdOn_returns_iff, holdOn_returns_iff, holdOn_returns_iff, p1BindingReason_returns_iff,
                and_iff_right (p3ChainReason_returns hcanonical), sessionReason_returns_iff around hcanonical]
              exact and_congr_right fun _ => forall_congr' fun _ => forall_congr' fun _ =>
                and_iff_left fun _ => askNonce_returns call hcanonical
        · by_cases hisDict : p1Result.isDict = true
          · rw [p1Refusal, if_neg (not_not.2 hisDict)]
            exact iff_of_true ⟨_, rfl⟩ ⟨hisDict, fun h => absurd h hpasses⟩
          · rw [p1Refusal, if_pos hisDict]
            exact iff_of_false (by simp [Returns]) fun h => hisDict h.1
  · exact iff_of_true ⟨_, rfl⟩ fun h => absurd h haccepted
  · refine iff_of_true ⟨_, rfl⟩ fun haccepted => ?_
    exact absurd (isDict_of_object (haccepts _ haccepted)) hdict

end Call

/-! ### What is known of a call that spends its nonce -/

/-- The parts of a request, its receipts and the material of the identity candidate agree. -/
structure Coherent (request : Request) (m : P1Material) : Prop where
  actionHash : ∀ v ∈ [request.memberConsentReceipt.actionHash, request.totalFieldReceipt.actionHash,
    m.action.get "action_hash"], pyEq v request.action.actionHash = true
  rootGeneration : ∀ v ∈ [request.session.rootGeneration, request.scene.rootGeneration,
    request.memberConsentReceipt.rootGeneration, request.totalFieldReceipt.rootGeneration,
    m.root.get "root_generation"], pyEq v request.rootGeneration = true
  sessionRef : ∀ v ∈ [request.scene.sessionRef, request.memberConsentReceipt.sessionRef,
    request.totalFieldReceipt.sessionRef, m.session.get "session_ref"],
    pyEq v request.session.sessionRef = true
  sceneRef : ∀ v ∈ [request.memberConsentReceipt.sceneRef, request.totalFieldReceipt.sceneRef,
    m.scene.get "scene_ref"], pyEq v request.scene.sceneRef = true
  effectClass : ∀ v ∈ [request.session.effectClass, request.scene.effectClass,
    request.memberConsentReceipt.effectClass, request.totalFieldReceipt.effectClass,
    m.action.get "effect_class"], pyEq v request.action.effectClass = true
  /-- the scopes are the same list, which is sorted and has no duplicates -/
  scopeRefs : ∃ scopes : List PyStr, scopes.Pairwise (· < ·) ∧
    ∀ v ∈ [request.action.scopeRefs, request.session.scopeRefs, request.scene.scopeRefs,
      request.memberConsentReceipt.scopeRefs, request.totalFieldReceipt.scopeRefs],
      v = .list (scopes.map .str)
  p1Scopes : pyEq (m.action.get "scope_refs") request.action.scopeRefs = true
  root : Agrees m.root (rootFields request)

/-- The reasons of a call that has asked the consumer of nonces. -/
def nonceReasons : List String := ["HOLD_DURABLE_NONCE_CONSUME_FAILED", "HOLD_DURABLE_NONCE_EVIDENCE_REQUIRED",
  "HOLD_NONCE_REPLAY", "HOLD_DURABLE_NONCE_EVIDENCE_INVALID",
  "PASS_P3_SESSION_DUAL_RECEIPT_9107_GATE_CANDIDATE"]

section Spend

variable {around : Surroundings} {call : Call} {request : Request} {m : P1Material} {ask : Ask}

theorem textsOf_eq_some {xs : List PyVal} {texts : List PyStr} (h : textsOf xs = some texts) :
    xs = texts.map .str := by
  induction xs generalizing texts with
  | nil =>
      obtain rfl := Option.some.inj h
      rfl
  | cons x xs ih =>
      cases x with
      | str s =>
          obtain ⟨rest, hrest, rfl⟩ := Option.map_eq_some_iff.1 h
          rw [ih hrest, List.map_cons]
      | _ => cases h

/-- What is sorted by references is a list of texts in strictly increasing order. -/
theorem of_sortedRefs {v : PyVal} {texts : List PyStr} (h : sortedRefs v = some texts) :
    v = .list (texts.map .str) ∧ texts.Pairwise (· < ·) := by
  cases v with
  | list xs =>
      rw [sortedRefs] at h
      cases htexts : textsOf xs with
      | none =>
          rw [htexts] at h
          cases h
      | some ts =>
          rw [htexts] at h
          dsimp only at h
          split_ifs at h with hsorted
          obtain rfl := Option.some.inj h
          refine ⟨congrArg _ (textsOf_eq_some htexts), ?_⟩
          have hle : (ts.dedup.mergeSort fun s t => decide (s ≤ t)).Pairwise fun s t => decide (s ≤ t) = true :=
            List.pairwise_mergeSort (fun a b c hab hbc => by simp at *; exact hab.trans hbc)
              (fun a b => by simpa using le_total a b) _
          have hnodup : (ts.dedup.mergeSort fun s t => decide (s ≤ t)).Nodup :=
            (List.mergeSort_perm _ _).nodup_iff.2 (List.nodup_dedup _)
          rw [hsorted] at hle hnodup
          exact (hle.and hnodup).imp fun hst => lt_of_le_of_ne (by simpa using hst.1) hst.2
  | _ => cases h

theorem unequal_eq_false {v w : PyVal} : unequal v w = false ↔ pyEq v w = true := by
  rw [unequal, Bool.not_eq_false']

/-- What the binding to the identity candidate and the chain of the request have checked. -/
theorem coherent_of_reasons (hbinding : p1BindingReason request m = .ok none)
    (hchain : p3ChainReason request = .ok none) : Coherent request m := by
  obtain ⟨hroot, hbinding⟩ := compare_eq_none hbinding
  obtain ⟨hsession, hbinding⟩ := compare_eq_none hbinding
  obtain ⟨hscene, hbinding⟩ := compare_eq_none hbinding
  obtain ⟨haction, -⟩ := compare_eq_none hbinding
  have hgeneration := hroot ("root_generation", request.rootGeneration) (by simp [rootFields])
  have hsessionRef := hsession ("session_ref", request.session.sessionRef) (by simp)
  have hsceneRef := hscene ("scene_ref", request.scene.sceneRef) (by simp)
  have hactionHash := haction ("action_hash", request.action.actionHash) (by simp [actionFields])
  have hscopes := haction ("scope_refs", request.action.scopeRefs) (by simp [actionFields])
  have heffect := haction ("effect_class", request.action.effectClass) (by simp [actionFields])
  simp only [p3ChainReason, holdIf_eq_none, otherRoot, otherScopes, otherEffects, otherBasis,
    Bool.or_eq_false_iff, unequal_eq_false, decide_eq_false_iff_not, not_not] at hchain
  obtain ⟨⟨⟨-, hg1⟩, -⟩, ⟨⟨-, hg2⟩, -⟩, hs0, ⟨⟨⟨⟨hsome, hscope1⟩, hscope2⟩, hscope3⟩, hscope4⟩,
    ⟨⟨⟨he1, he2⟩, he3⟩, he4⟩, ⟨⟨⟨⟨⟨ha1, hg3⟩, hs1⟩, hc1⟩, -⟩, ⟨⟨⟨ha2, hg4⟩, hs2⟩, hc2⟩, -⟩, -⟩ := hchain
  obtain ⟨scopes, hscope0⟩ := Option.ne_none_iff_exists'.1 hsome
  rw [hscope0] at hscope1 hscope2 hscope3 hscope4
  refine ⟨?_, ?_, ?_, ?_, ?_, ⟨scopes, (of_sortedRefs hscope0).2, ?_⟩, hscopes, hroot⟩
  all_goals
    simp only [List.forall_mem_cons, List.not_mem_nil, IsEmpty.forall_iff, implies_true, and_true]
  · exact ⟨ha1, ha2, hactionHash⟩
  · exact ⟨hg1, hg2, hg3, hg4, hgeneration⟩
  · exact ⟨hs0, hs1, hs2, hsessionRef⟩
  · exact ⟨hc1, hc2, hsceneRef⟩
  · exact ⟨he1, he2, he3, he4, heffect⟩
  · exact ⟨(of_sortedRefs hscope0).1, (of_sortedRefs hscope1).1, (of_sortedRefs hscope2).1,
      (of_sortedRefs hscope3).1, (of_sortedRefs hscope4).1⟩

theorem encodable_of_canonicalSha256 {v : PyVal} {digest : PyStr} (h : canonicalSha256 v = .ok digest) :
    Encodable digest := by
  obtain ⟨json, -, h⟩ := bind_eq_ok_iff.1 h
  split_ifs at h
  obtain ⟨bytes, -, h⟩ := bind_eq_ok_iff.1 h
  obtain rfl := pure_eq_ok_iff.1 h
  exact Sha256.encodable_hexdigest _

/-- What a call knows that asks the consumer of nonces. -/
structure Asks (call : Call) (ask : Ask) : Prop where
  read : readRequest call.request = .ok ask.request
  nonceRef : ask.request.session.nonceRef = (call.request.get "session").get "nonce_ref"
  canonical : ask.request.Canonical
  binding : Encodable ask.bindingSha256
  coherent : ∃ m, p1JoinMaterial ask.request.p1IdentityCandidate = some m ∧ Coherent ask.request m

theorem of_askNonce {p : Progress} (h : askNonce call request = .ok p) :
    (∃ result, p = .returned result ∧ result.state = "HOLD") ∨
      ∃ digest, canonicalSha256 (nonceMaterial request) = .ok digest ∧ p = .asks ⟨request, digest⟩ := by
  obtain ⟨digest, hdigest, h⟩ := bind_eq_ok_iff.1 h
  split_ifs at h
  · exact .inl ⟨_, (Except.ok.inj h).symm, rfl⟩
  · exact .inr ⟨digest, hdigest, (Except.ok.inj h).symm⟩
  · exact .inl ⟨_, (Except.ok.inj h).symm, rfl⟩

/-- A refusal of the verifier is a hold or a block. -/
theorem of_p1Refusal {p1Result : PyVal} {p : Progress} (h : p1Refusal around p1Result = .ok p) :
    ∃ result, p = .returned result ∧ result.state ≠ "PASS" := by
  rw [p1Refusal] at h
  by_cases hdict : p1Result.isDict = true
  · rw [if_neg (not_not.2 hdict)] at h
    refine ⟨_, (Except.ok.inj h).symm, ?_⟩
    dsimp only
    split_ifs <;> decide
  · rw [if_pos hdict] at h
    cases h

/-- **A call that asks the consumer of nonces is coherent.** -/
theorem coherent_of_beforeNonce (haccepts : ∀ v, around.accepts v = true → memberActionRequest v = true)
    (h : beforeNonce around call = .ok (.asks ask)) : Asks call ask := by
  rw [beforeNonce] at h
  split_ifs at h with hdict haccepted
  swap
  · cases h
  swap
  · cases h
  obtain ⟨request, hread, hnonce, hcanonical⟩ := read_request (haccepts _ haccepted)
  rw [hread, ok_bind] at h
  cases hverifier : call.p1Verifier request.p1IdentityCandidate with
  | error e =>
      rw [hverifier] at h
      cases h
  | ok p1Result =>
      rw [hverifier] at h
      dsimp only at h
      split_ifs at h with hpasses
      · cases hmaterial : p1JoinMaterial request.p1IdentityCandidate with
        | none =>
            rw [hmaterial] at h
            cases h
        | some m =>
            rw [hmaterial] at h
            obtain ⟨hbinding, h⟩ := holdOn_eq_asks h
            obtain ⟨hchain, h⟩ := holdOn_eq_asks h
            obtain ⟨-, h⟩ := holdOn_eq_asks h
            rcases of_askNonce h with ⟨result, hask, -⟩ | ⟨digest, hdigest, hask⟩
            · cases hask
            obtain rfl := Progress.asks.inj hask
            exact ⟨hread, hnonce, hcanonical, encodable_of_canonicalSha256 hdigest, m, hmaterial,
              coherent_of_reasons hbinding hchain⟩
      · obtain ⟨result, hask, -⟩ := of_p1Refusal h
        cases hask

/-- A call that returns without asking does not pass. -/
theorem not_pass_of_beforeNonce {result : Result} (h : beforeNonce around call = .ok (.returned result)) :
    result.state ≠ "PASS" := by
  have hhold : ∀ {result : Result}, result.state = "HOLD" → result.state ≠ "PASS" := by
    intro result hstate
    rw [hstate]
    decide
  rw [beforeNonce] at h
  split_ifs at h with hdict haccepted
  · obtain ⟨request, -, h⟩ := bind_eq_ok_iff.1 h
    cases hverifier : call.p1Verifier request.p1IdentityCandidate with
    | error e =>
        rw [hverifier] at h
        obtain rfl := Progress.returned.inj (Except.ok.inj h)
        exact hhold rfl
    | ok p1Result =>
        rw [hverifier] at h
        dsimp only at h
        split_ifs at h with hpasses
        · cases hmaterial : p1JoinMaterial request.p1IdentityCandidate with
          | none =>
              rw [hmaterial] at h
              obtain rfl := Progress.returned.inj (Except.ok.inj h)
              exact hhold rfl
          | some m =>
              rw [hmaterial] at h
              rcases holdOn_eq_returned h with hstate | h
              · exact hhold hstate
              rcases holdOn_eq_returned h with hstate | h
              · exact hhold hstate
              rcases holdOn_eq_returned h with hstate | h
              · exact hhold hstate
              rcases of_askNonce h with ⟨result', hreturned, hstate⟩ | ⟨digest, -, hreturned⟩
              · obtain rfl := Progress.returned.inj hreturned
                exact hhold hstate
              · cases hreturned
        · obtain ⟨result', hreturned, hstate⟩ := of_p1Refusal h
          obtain rfl := Progress.returned.inj hreturned
          exact hstate
  · obtain rfl := Progress.returned.inj (Except.ok.inj h)
    exact hhold rfl
  · obtain rfl := Progress.returned.inj (Except.ok.inj h)
    exact hhold rfl

theorem evidenceMaterial_canonical (h : ask.request.Canonical) (hbinding : Encodable ask.bindingSha256) :
    Canonical (evidenceMaterial ask) := by
  refine canonical_obj ?_
  simp only [List.forall_mem_cons, List.not_mem_nil, IsEmpty.forall_iff, implies_true, and_true]
  exact ⟨canonical_bool _, ⟨.str _ hbinding, rfl⟩, canonical_bool _, h.session.expiresAtEpoch, h.session.nonceRef,
    canonical_lit _⟩

theorem gateMaterial_canonical (h : request.Canonical) {evidenceRef : PyVal} (hevidence : Canonical evidenceRef) :
    Canonical (gateMaterial request evidenceRef) := by
  refine canonical_obj ?_
  simp only [List.forall_mem_cons, List.not_mem_nil, IsEmpty.forall_iff, implies_true, and_true]
  exact ⟨h.actionHash, canonical_lit _, h.effectClass, h.identityRootRef, canonical_lit _, h.memberReceiptRef,
    hevidence, canonical_lit _, h.revocationEpoch, h.rootGeneration, canonical_lit _, h.sceneRef, canonical_lit _,
    h.scopeRefs, h.session.sessionRef, h.totalFieldReceiptRef⟩

/-- **A call that has asked returns.**  Whatever the consumer answers, the reason is one of the nonce, and a
pass is on the answer `CONSUMED`. -/
theorem afterNonce_returns (h : Asks call ask) (answer : Except Fault PyVal) :
    ∃ result, afterNonce ask answer = .ok result ∧ result.reasonCode ∈ nonceReasons.map cp ∧
      (result.state = "PASS" → (Answer.mk ask answer).granted) := by
  have hhold : ∀ {reason : String}, reason ∈ nonceReasons →
      (p3Hold reason).reasonCode ∈ nonceReasons.map cp ∧
        ((p3Hold reason).state = "PASS" → (Answer.mk ask answer).granted) := by
    intro reason hreason
    exact ⟨List.mem_map_of_mem hreason, fun hpass => absurd (show "HOLD" = "PASS" from hpass) (by decide)⟩
  cases answer with
  | error e => exact ⟨_, rfl, hhold (by decide)⟩
  | ok evidence =>
      rw [afterNonce]
      split_ifs with hdict hreplay
      · exact ⟨_, rfl, hhold (by decide)⟩
      · obtain ⟨digest, hdigest⟩ := canonicalSha256_returns (evidenceMaterial_canonical h.canonical h.binding)
        rw [hdigest, ok_bind]
        split_ifs with hother
        · exact ⟨_, rfl, hhold (by decide)⟩
        · rw [Bool.not_eq_true, otherEvidence] at hother
          simp only [Bool.or_eq_false_iff, unequal_eq_false, pyEq_lit] at hother
          obtain ⟨⟨⟨⟨⟨⟨hstate, -⟩, -⟩, -⟩, -⟩, -⟩, href⟩ := hother
          rw [refOf, pyEq_str] at href
          have hat : evidence.at "evidence_ref" = (.ok (refOf "nonce_consumption_evidence_ref" digest) :
              Except Fault PyVal) := by
            cases evidence with
            | dict items =>
                rw [PyVal.at]
                rw [PyVal.get] at href
                cases hget : getItem items (cp "evidence_ref") with
                | some w =>
                    rw [hget] at href
                    exact congrArg _ href
                | none =>
                    rw [hget] at href
                    cases href
            | _ => cases hdict
          have hevidence : Canonical (refOf "nonce_consumption_evidence_ref" digest) :=
            ⟨.str _ (encodable_append.2 ⟨encodable_cp _, encodable_of_canonicalSha256 hdigest⟩), rfl⟩
          obtain ⟨gateSha256, hgate⟩ := canonicalSha256_returns (gateMaterial_canonical h.canonical hevidence)
          rw [hat, ok_bind, hgate, ok_bind]
          exact ⟨_, rfl, List.mem_map_of_mem (by decide), fun _ => ⟨evidence, rfl, hstate⟩⟩
      · exact ⟨_, rfl, hhold (by decide)⟩

/-- **When a call returns.**  A call with a consumer of nonces returns if and only if it is answerable. -/
theorem evaluate_returns_iff (haccepts : ∀ v, around.accepts v = true → memberActionRequest v = true)
    (consumeOnce : Ask → Except Fault PyVal) :
    Returns (evaluateMemberActionSession around call consumeOnce) ↔ Answerable around call := by
  rw [← beforeNonce_returns_iff haccepts, evaluateMemberActionSession]
  cases hbefore : beforeNonce around call with
  | error e => exact iff_of_false (by simp [Returns]) (by simp [Returns])
  | ok progress =>
      refine iff_of_true ?_ ⟨_, rfl⟩
      rw [ok_bind]
      cases progress with
      | returned result => exact ⟨result, rfl⟩
      | asks ask =>
          obtain ⟨result, hresult, -⟩ := afterNonce_returns (coherent_of_beforeNonce haccepts hbefore)
            (consumeOnce ask)
          exact ⟨result, hresult⟩

end Spend

/-! ### All runs -/

/-- The call has passed. -/
def Phase.passed : Phase → Prop
  | .returned result _ => result.state = "PASS"
  | _ => False

/-- The reference of the nonce of a request. -/
def Call.nonceRef (call : Call) : PyVal := (call.request.get "session").get "nonce_ref"

/-- What is asked of a state: no call has raised, no two calls have passed with one nonce, a call that has
asked the consumer has returned for a reason of the nonce, and a call that has passed is coherent. -/
structure Safe {ι : Type} (calls : ι → Call) (s : State ι) : Prop where
  quiet : ∀ i, s.phase i ≠ .raised
  once : ∀ i j, (s.phase i).passed → (s.phase j).passed → (calls i).nonceRef = (calls j).nonceRef → i = j
  unasked : ∀ i result, s.phase i = .returned result true → result.reasonCode ∈ nonceReasons.map cp
  coherent : ∀ i, (s.phase i).passed → ∃ request m, readRequest (calls i).request = .ok request ∧
    p1JoinMaterial request.p1IdentityCandidate = some m ∧ Coherent request m

/-- What a phase tells of a call, and of the answers the consumer has given it. -/
def Traced (around : Surroundings) (call : Call) (given : Answer → Prop) : Phase → Prop
  | .ready => True
  | .asking ask => beforeNonce around call = .ok (.asks ask)
  | .returned result false => beforeNonce around call = .ok (.returned result)
  | .returned result true => ∃ ask answer, beforeNonce around call = .ok (.asks ask) ∧
      afterNonce ask answer = .ok result ∧ given ⟨ask, answer⟩
  | .raised => False

section Runs

variable {ι : Type} [DecidableEq ι] {around : Surroundings} {calls : ι → Call} {s s' : State ι}

/-- More answers do not change what a phase tells. -/
theorem Traced.mono {call : Call} {given given' : Answer → Prop} {phase : Phase}
    (h : Traced around call given phase) (hmore : ∀ answer, given answer → given' answer) :
    Traced around call given' phase := by
  cases phase with
  | returned result asked =>
      cases asked with
      | false => exact h
      | true =>
          obtain ⟨ask, answer, hbefore, hafter, hgiven⟩ := h
          exact ⟨ask, answer, hbefore, hafter, hmore _ hgiven⟩
  | _ => exact h

/-- A step keeps what the phases tell, if the calls are answerable. -/
theorem traced_step (haccepts : ∀ v, around.accepts v = true → memberActionRequest v = true)
    (hanswerable : ∀ i, Answerable around (calls i)) (hstep : Step around calls s s')
    (h : ∀ i, Traced around (calls i) (fun answer => (i, answer) ∈ s.answers) (s.phase i)) :
    ∀ i, Traced around (calls i) (fun answer => (i, answer) ∈ s'.answers) (s'.phase i) := by
  intro j
  cases hstep with
  | start i hready =>
      by_cases hij : j = i
      · subst hij
        dsimp only
        rw [Function.update_self]
        obtain ⟨progress, hprogress⟩ := (beforeNonce_returns_iff haccepts).2 (hanswerable j)
        rw [hprogress]
        cases progress with
        | returned result => exact hprogress
        | asks ask => exact hprogress
      · dsimp only
        rw [Function.update_of_ne hij]
        exact h j
  | consume i ask answer hasking =>
      by_cases hij : j = i
      · subst hij
        dsimp only
        rw [Function.update_self]
        have hbefore : beforeNonce around (calls j) = .ok (.asks ask) := by
          have htraced := h j
          rw [hasking] at htraced
          exact htraced
        obtain ⟨result, hafter, -⟩ := afterNonce_returns (coherent_of_beforeNonce haccepts hbefore) answer
        rw [hafter]
        exact ⟨ask, answer, hbefore, hafter, by simp⟩
      · dsimp only
        rw [Function.update_of_ne hij]
        exact (h j).mono fun a ha => List.mem_append_left _ ha

/-- In a run of answerable calls every phase tells of its call. -/
theorem traced_of_reachable (haccepts : ∀ v, around.accepts v = true → memberActionRequest v = true)
    (hanswerable : ∀ i, Answerable around (calls i)) (h : Reachable around calls s) :
    ∀ i, Traced around (calls i) (fun answer => (i, answer) ∈ s.answers) (s.phase i) := by
  induction h with
  | refl => exact fun _ => trivial
  | tail _ hstep ih => exact traced_step haccepts hanswerable hstep ih

/-- A call that has passed has asked, and the answer was `CONSUMED`. -/
theorem of_passed (haccepts : ∀ v, around.accepts v = true → memberActionRequest v = true) {call : Call}
    {given : Answer → Prop} {phase : Phase} (h : Traced around call given phase) (hpassed : phase.passed) :
    ∃ ask answer, Asks call ask ∧ given ⟨ask, answer⟩ ∧ (Answer.mk ask answer).granted := by
  cases phase with
  | returned result asked =>
      cases asked with
      | false => exact absurd hpassed (not_pass_of_beforeNonce h)
      | true =>
          obtain ⟨ask, answer, hbefore, hafter, hgiven⟩ := h
          have hasks := coherent_of_beforeNonce haccepts hbefore
          obtain ⟨result', hafter', -, hgranted⟩ := afterNonce_returns hasks answer
          obtain rfl := Except.ok.inj (hafter.symm.trans hafter')
          exact ⟨ask, answer, hasks, hgiven, hgranted hpassed⟩
  | _ => exact hpassed.elim

/-- Where every phase tells of its call, and the consumer has kept its promise, the state is safe. -/
theorem safe_of_traced (haccepts : ∀ v, around.accepts v = true → memberActionRequest v = true)
    (h : ∀ i, Traced around (calls i) (fun answer => (i, answer) ∈ s.answers) (s.phase i))
    (honce : OncePerNonce s.answers) : Safe calls s := by
  refine ⟨fun i hraised => ?_, fun i j hi hj hnonce => ?_, fun i result hresult => ?_, fun i hi => ?_⟩
  · have htraced := h i
    rw [hraised] at htraced
    exact htraced
  · obtain ⟨ask, answer, hasks, hgiven, hgranted⟩ := of_passed haccepts (h i) hi
    obtain ⟨ask', answer', hasks', hgiven', hgranted'⟩ := of_passed haccepts (h j) hj
    by_contra hne
    -- the two answers are at different positions, and both are `CONSUMED` for one nonce
    have hsymm : Std.Symm fun a b : ι × Answer => ¬(a.2.granted ∧ b.2.granted ∧
        a.2.ask.request.session.nonceRef = b.2.ask.request.session.nonceRef) :=
      ⟨fun a b hab hba => hab ⟨hba.2.1, hba.1, hba.2.2.symm⟩⟩
    refine List.Pairwise.forall honce hgiven hgiven' (fun heq => hne (congrArg Prod.fst heq))
      ⟨hgranted, hgranted', ?_⟩
    rw [hasks.nonceRef, hasks'.nonceRef]
    exact hnonce
  · have htraced := h i
    rw [hresult] at htraced
    obtain ⟨ask, answer, hbefore, hafter, -⟩ := htraced
    obtain ⟨result', hafter', hreason, -⟩ := afterNonce_returns (coherent_of_beforeNonce haccepts hbefore) answer
    obtain rfl := Except.ok.inj (hafter.symm.trans hafter')
    exact hreason
  · obtain ⟨ask, answer, hasks, -⟩ := of_passed haccepts (h i) hi
    obtain ⟨m, hm, hcoherent⟩ := hasks.coherent
    exact ⟨ask.request, m, hasks.read, hm, hcoherent⟩

/-- A call that does not return up to the consumer of nonces raises in a run. -/
theorem exists_raised {i : ι} (h : ¬Returns (beforeNonce around (calls i))) :
    ∃ s, Reachable around calls s ∧ OncePerNonce s.answers ∧ s.phase i = .raised := by
  have hraised : phaseOf (beforeNonce around (calls i)) = .raised := by
    cases hbefore : beforeNonce around (calls i) with
    | error e => rfl
    | ok progress => exact absurd ⟨progress, hbefore⟩ h
  refine ⟨_, .single (Step.start initial i rfl), .nil, ?_⟩
  dsimp only
  rw [Function.update_self, hraised]

/-- **The gate spends a nonce once.**  All runs in which the consumer keeps its promise are safe if and only
if every call is answerable. -/
theorem gate_safe_iff (haccepts : ∀ v, around.accepts v = true → memberActionRequest v = true) :
    (∀ s, Reachable around calls s → OncePerNonce s.answers → Safe calls s) ↔
      ∀ i, Answerable around (calls i) := by
  constructor
  · intro h i
    by_contra hnot
    rw [← beforeNonce_returns_iff haccepts] at hnot
    obtain ⟨s, hs, honce, hraised⟩ := exists_raised hnot
    exact (h s hs honce).quiet i hraised
  · intro hanswerable s hs honce
    exact safe_of_traced haccepts (traced_of_reachable haccepts hanswerable hs) honce

end Runs

/-! ### A verifier that answers `None` -/

/-- Surroundings whose validator accepts what conforms. -/
def sampleAround : Surroundings := ⟨memberActionRequest, fun _ => []⟩

/-- The digest of zeros. -/
def zeros : PyStr := List.replicate 64 48

/-- A reference by the digest of zeros. -/
def sampleRef (stem : String) : PyVal := refOf stem zeros

/-- The scopes of the request. -/
def sampleScopes : PyVal := .list [sampleRef "scope_ref"]

/-- A receipt of the request. -/
def sampleReceipt (state authority : String) : PyVal := obj [("action_hash", .str zeros),
  ("authority", lit authority), ("effect_class", lit "E1_READ"), ("receipt_ref", sampleRef "receipt_ref"),
  ("receipt_state", lit state), ("root_generation", .int 1), ("scene_ref", sampleRef "scene_ref"),
  ("scope_refs", sampleScopes), ("session_ref", sampleRef "session_ref")]

/-- A request that conforms to the schema. -/
def sampleRequest : PyVal := obj [
  ("action", obj [("action_hash", .str zeros), ("effect_class", lit "E1_READ"),
    ("purpose_ref", sampleRef "purpose_ref"), ("scope_refs", sampleScopes)]),
  ("identity_root_ref", sampleRef "member_identity_root_ref"),
  ("member_consent_receipt", sampleReceipt "CONSENT" "member"), ("member_ref", sampleRef "member_ref"),
  ("p1_identity_candidate", obj [("candidate", .bool true)]),
  ("provider_context", obj [("candidate_authority", lit "none"), ("provider_count", .int 1),
    ("provider_refs", .list [sampleRef "provider_ref"])]),
  ("request_mode", lit "ACTION_REQUEST"), ("revocation_epoch", .int 0), ("root_generation", .int 1),
  ("root_packet_ref", sampleRef "member_root_packet_ref"),
  ("scene", obj [("effect_class", lit "E1_READ"), ("identity_root_ref", sampleRef "member_identity_root_ref"),
    ("revocation_epoch", .int 0), ("root_generation", .int 1), ("scene_ref", sampleRef "scene_ref"),
    ("scope_refs", sampleScopes), ("session_ref", sampleRef "session_ref")]),
  ("schema_version", lit p3SchemaVersion),
  ("session", obj [("channel_ref", .none), ("device_ref", sampleRef "device_ref"),
    ("effect_class", lit "E1_READ"), ("expires_at_epoch", .int 600),
    ("identity_root_ref", sampleRef "member_identity_root_ref"), ("issued_at_epoch", .int 0),
    ("nonce_binding_sha256", .str zeros), ("nonce_ref", sampleRef "nonce_ref"), ("revocation_epoch", .int 0),
    ("role_seat_snapshot", obj [("role_refs", .list []), ("seat_leases", .list []),
      ("snapshot_ref", sampleRef "role_seat_snapshot_ref"), ("snapshot_sha256", .str zeros)]),
    ("root_generation", .int 1), ("root_packet_ref", sampleRef "member_root_packet_ref"),
    ("scope_refs", sampleScopes), ("session_ref", sampleRef "session_ref"), ("ttl_seconds", .int 600)]),
  ("total_field_receipt", sampleReceipt "PASS" "total_field_verifier"),
  ("verification_refs", .list [sampleRef "evidence_ref"]), ("xiaoj_agent_ref", sampleRef "xiaoj_agent_ref")]

/-- A call whose verifier answers `None`. -/
def sampleCall : Call := ⟨sampleRequest, 0, fun _ => .ok .none, true, []⟩

theorem memberActionRequest_sample : memberActionRequest sampleRequest = true := by
  simp only [memberActionRequest, requestProperties, sceneProperties, actionProperties,
    memberConsentReceipt, totalFieldReceipt, receiptProperties, sampleRequest,
    sampleReceipt, sampleScopes, sampleRef, refOf, p3SchemaVersion, obj, fields, lit, key, List.map_cons, List.map_nil,
    cp_eq_codes]
  decide +kernel

theorem gate_safe_sample :
    (∀ s, Reachable sampleAround (fun _ : Unit => sampleCall) s → OncePerNonce s.answers →
      Safe (fun _ : Unit => sampleCall) s) ↔ ∀ _ : Unit, Answerable sampleAround sampleCall :=
  gate_safe_iff fun _ h => h

theorem evaluate_returns_iff_sample : Returns (evaluateMemberActionSession sampleAround sampleCall fun _ => .ok .none) ↔
    Answerable sampleAround sampleCall :=
  evaluate_returns_iff (fun _ h => h) _

/-- The answer `None` of a verifier makes the call of a request that conforms raise an `AttributeError`. -/
theorem gate_raises : memberActionRequest sampleRequest = true ∧
    (∀ consumeOnce, evaluateMemberActionSession sampleAround sampleCall consumeOnce =
      .error (.builtin .attributeError)) ∧
    ¬∀ s, Reachable sampleAround (fun _ : Unit => sampleCall) s → OncePerNonce s.answers →
      Safe (fun _ : Unit => sampleCall) s := by
  have hbefore : beforeNonce sampleAround sampleCall = .error (.builtin .attributeError) := by
    obtain ⟨request, hread, -⟩ := read_request memberActionRequest_sample
    have hdict : sampleCall.request.isDict = true := rfl
    have haccepted : sampleAround.accepts sampleCall.request = true := memberActionRequest_sample
    rw [beforeNonce, if_neg (not_not.2 hdict), if_neg (not_not.2 haccepted),
      show sampleCall.request = sampleRequest from rfl, hread, ok_bind]
    rfl
  refine ⟨memberActionRequest_sample, fun consumeOnce => ?_, fun hsafe => ?_⟩
  · rw [evaluateMemberActionSession, hbefore]
    rfl
  · obtain ⟨s, hs, honce, hraised⟩ := @exists_raised Unit _ sampleAround (fun _ => sampleCall) () (by
      simp [hbefore, Returns])
    exact (hsafe s hs honce).quiet () hraised

end MemberAction
