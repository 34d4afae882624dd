/-
**The mobile approval of a fixed contract.**

A ceremony is begun, its record is stored in a directory of its own, and a signed approval that completes it is
stored once.  Whoever asks for the status, or begins, reads the approval if there is one, and every ceremony
otherwise.  A file is published by a link to a temporary file, so that no one reads a part of it.

The store has the directories and files that the program makes below its own directory, which nobody else
changes; its temporary files have names only, since nothing but the link reads what was written to them.  The
files of the contract, the credential of the phone, the library that verifies signatures and the texts of times
are parameters.

Main definitions:

* `MobileApproval.Setting` — what the program uses from outside;
* `MobileApproval.Store`, `MobileApproval.Op` — the store, and the operations on files;
* `MobileApproval.checkPending`, `MobileApproval.verifyProof` — the checks of a ceremony and of an approval;
* `MobileApproval.status`, `MobileApproval.begin`, `MobileApproval.complete` — the calls.

The crashes of the calls are the subject of a module of their own.
-/

import Wuchang.Interruptions
import Wuchang.PyBase64
import Wuchang.PyBytes
import Wuchang.PyFloatRead
import Wuchang.Sha256

set_option relaxedAutoImplicit false
set_option autoImplicit false

namespace MobileApproval

open Py Interruptions

abbrev Bytes := List UInt8

/-- An exception: a `PermissionError` with a reason is the program's own. -/
abbrev Fault := Raise PyStr

/-- `require` -/
def require (condition : Bool) (reason : String) : Except Fault Unit :=
  if condition then .ok () else .error (.own (cp reason))

/-! ### Constants -/

def domain : String := "W7TP_GST_V21_MOBILE_FIXED_PROMOTION_CONTRACT_APPROVAL_V1"

def rpId : String := "taiji01.tailea1eef.ts.net"

def webOrigin : String := "https://taiji01.tailea1eef.ts.net:9122"

def bundle : String := "artifacts/8d-adi-workloop/gst-v21-promotion-contract-20261021T193300Z"

def leaf : String := "manifests/total_field/origin_cell_gst_v21_specification"

def contractSha : String := "7a8e405e5edde1a03a3a086742caf132bda3d7e464e6293936d2bc9057f66e49"

def descriptorSha : String := "6c245b22d17da0dff2237d919616c0ee398d00b8002f0ca7e44fcddc70f17a7f"

def credSha : String := "dc3e0c3b3a8d2abce785157f57f7581c378e5fda960e086666b624f2ff393de5"

def coseSha : String := "f7227e7f2738202e79b3aecee7f853dfe62e28b2ebcc24b4af6fb68c24b2f502"

def maxBytes : ℕ := 131072

/-- `bindings` -/
def bindings : PyVal := obj [
  ("approval_intent", lit "APPROVE_FIXED_PROMOTION_CONTRACT"),
  ("contract_sha256", lit contractSha),
  ("credential_file_sha256", lit credSha),
  ("descriptor_sha256", lit descriptorSha),
  ("fixed_input_file_sha256", obj [(bundle ++ "/ADMISSION_DESCRIPTOR.json", lit descriptorSha),
    (bundle ++ "/PROMOTION_CONTRACT.json", lit contractSha)]),
  ("intended_postimages_are_current_state_claim", .bool false),
  ("intended_static_postimage_sha256", obj [
    ("configs/total_field/w7tp_capability_internalization_registry_v1.json",
      lit "604fd4d1cc9f186f634dc9629aecd5a7c3d8fda9965660ea37ceef59a2ee1bb2"),
    (leaf ++ "/CANONICAL_RECORD.json", lit "da238cde240dd2dfb77176db274180ca7e47f684046b7f4e306080b82e550d6f"),
    (leaf ++ "/SPECIFICATION.md", lit "0cf1d5f6f0c55bf1193cfd1227404b1999e61f1472d66eb8fd6087f2cd038855")]),
  ("mobile_cose_sha256", lit coseSha),
  ("origin", lit webOrigin),
  ("other_writes_authorized", .bool false),
  ("receipt_repair_authorized_by_this_signature", .bool false),
  ("retroactive_human_signature_claim", .bool false),
  ("rp_id", lit rpId),
  ("runtime_activation_authorized", .bool false),
  ("scope", lit "GST_V21_MOBILE_APPROVE_FIXED_PROMOTION_CONTRACT_V1"),
  ("target", lit "/home/taiji_admin/Taiji_Hub")]

/-! ### What is outside -/

/-- What the library reads from an assertion. -/
structure Parsed where
  clientData : Bytes
  rpIdHash : Bytes
  userPresent : Bool
  userVerified : Bool

/-- The signing inputs and the library. -/
structure Setting where
  /-- `raw_read(ROOT / relative, expected)` for the fixed files -/
  fixedFiles : List (Except Fault Bytes)
  /-- `raw_read(CRED, CRED_SHA)` -/
  credFile : Except Fault Bytes
  /-- `sha(raw) == CRED_SHA` -/
  isCredential : Bytes → Bool
  /-- `sha(cbor.encode(key.public_key)) == COSE_SHA` for `key = AttestedCredentialData(data)` -/
  isMobileKey : Bytes → Except Fault Bool
  /-- `key.credential_id` -/
  credentialId : Bytes → Bytes
  /-- `fido.authenticate_begin`, with the bytes of the options and of the state as texts -/
  authenticateBegin : Bytes → Bytes → Except Fault (PyVal × PyVal)
  /-- `AuthenticationResponse.from_dict` -/
  parseAssertion : PyVal → Except Fault Parsed
  /-- `fido.authenticate_complete`, of a state, a key and an assertion: the id of the credential -/
  authenticateComplete : PyVal → Bytes → PyVal → Except Fault Bytes
  /-- `datetime.fromisoformat(s)` in microseconds, unless there is no time zone -/
  fromisoformat : PyStr → Option (Option ℤ)
  /-- `t.isoformat()` -/
  isoformat : ℤ → PyStr
  /-- `max(1, int(delta.total_seconds() * 1000))` -/
  remainingMs : ℤ → ℤ

/-! ### Texts and files -/

/-- `canon` -/
def canon (v : PyVal) : Except Fault Bytes := do
  let text ← PyJson.dumps PyJson.compact v
  if ¬PyJson.allFinite v then .error (.builtin .valueError)
  else encodeUtf8 text

/-- `unb64` -/
def readB64 : PyVal → Except Fault Bytes
  | .str s => do
      require (s.length ≤ maxBytes && s ≠ [] && s.all isUrlChar) "BASE64URL_INVALID"
      match unb64 s with
      | some raw => pure raw
      | none => .error (.builtin .valueError)
  | _ => .error (.own (cp "BASE64URL_INVALID"))

/-- `value.replace('Z', '+00:00')` -/
def replaceZ (s : PyStr) : PyStr := s.flatMap fun c => if c = 90 then cp "+00:00" else [c]

/-- `instant` -/
def instant (setting : Setting) : PyVal → Except Fault ℤ
  | .str s => match setting.fromisoformat (replaceZ s) with
      | some (some t) => .ok t
      | some none => .error (.own (cp "TIME_ZONE_REQUIRED"))
      | none => .error (.builtin .valueError)
  | _ => .error (.builtin .attributeError)

/-- `raw_read` of a file of the store -/
def rawRead (file : Option Bytes) (expected : Bytes → Bool) : Except Fault Bytes :=
  match file with
  | none => .error (.builtin .osError)
  | some raw => do
      require (raw.length ≤ maxBytes) "SOURCE_TYPE_OR_SIZE_INVALID"
      require (expected raw) "SOURCE_HASH_OR_SIZE_INVALID"
      pure raw

/-- `json.loads` -/
def loads (raw : Bytes) : Except Fault PyVal :=
  match PyJson.loadsBytes raw with
  | some v => .ok v
  | none => .error (.builtin .valueError)

/-- `read` -/
def readFile (file : Option Bytes) (expected : Bytes → Bool) : Except Fault PyVal := do
  let raw ← rawRead file expected
  let value ← loads raw
  require value.isDict "SOURCE_SHAPE_INVALID"
  pure value

/-- `d.get(k)`, which only a dictionary has. -/
def getField (d : PyVal) (k : String) : Except Fault PyVal :=
  if d.isDict then .ok (d.get k) else .error (.builtin .attributeError)

/-- `v is b` -/
def isBool (v : PyVal) (b : Bool) : Bool :=
  match v with
  | .bool c => c == b
  | _ => false

/-- `[0-9a-f]{32}` -/
def isCeremonyId (s : PyStr) : Bool :=
  s.length = 32 && s.all fun c => (48 ≤ c && c ≤ 57) || (97 ≤ c && c ≤ 102)

/-! ### The checks -/

/-- `key_from_public` -/
def keyFromPublic (setting : Setting) (encoded : PyVal) : Except Fault Bytes := do
  let data ← readB64 encoded
  let mobile ← setting.isMobileKey data
  require mobile "MOBILE_PUBLIC_KEY_MISMATCH"
  pure data

/-- The fields of a payload. -/
def payloadFields : List String := ["bindings", "ceremony_id", "expires_at", "issued_at", "nonce",
  "public_credential_sha256", "single_use", "transport_delay_requires_new_signature"]

/-- `hashlib.sha256(canon([DOMAIN, payload])).digest()` -/
def challengeOf (payload : PyVal) : Except Fault Bytes := do
  let raw ← canon (.list [lit domain, payload])
  pure (Sha256.digestBytes raw)

/-- `set(d) == {…}` for what has `d.get` -/
def hasFields (d : PyVal) (names : List String) : Bool :=
  match d with
  | .dict items => keysAre items names
  | _ => false

/-- `re.fullmatch` of the id of a ceremony -/
def matchesId : PyVal → Except Fault Bool
  | .str s => .ok (isCeremonyId s)
  | _ => .error (.builtin .typeError)

/-- `check_pending` -/
def checkPending (setting : Setting) (pending : PyVal) : Except Fault PyVal := do
  let schema ← getField pending "schema"
  require (schema.eq (lit (domain ++ "/PENDING"))) "PENDING_SCHEMA"
  let payload ← pending.at "signed_payload"
  let bound ← getField payload "bindings"
  require (bound.eq bindings) "EXACT_SCOPE_CHANGED"
  require (hasFields payload payloadFields) "PAYLOAD_FIELDS"
  let ceremonyId ← payload.at "ceremony_id"
  let matching ← matchesId ceremonyId
  require matching "CEREMONY_ID"
  let pendingId ← pending.at "ceremony_id"
  require (pendingId.eq ceremonyId) "CEREMONY_ID"
  let nonceText ← payload.at "nonce"
  let nonce ← readB64 nonceText
  require (nonce.length = 32 && isBool (payload.get "single_use") true &&
    isBool (payload.get "transport_delay_requires_new_signature") false) "CHALLENGE_POLICY"
  let expiresText ← payload.at "expires_at"
  let expires ← instant setting expiresText
  let issuedText ← payload.at "issued_at"
  let issued ← instant setting issuedText
  require (0 < expires - issued && expires - issued ≤ 900000000) "CEREMONY_LIFETIME_INVALID"
  let encoded ← pending.at "public_credential_b64url"
  let data ← readB64 encoded
  let credentialSha ← payload.at "public_credential_sha256"
  require ((PyVal.str (Sha256.hexdigest data)).eq credentialSha) "PUBLIC_CREDENTIAL_BINDING"
  let challenge ← challengeOf payload
  let state ← pending.at "webauthn_state"
  let stateChallenge ← getField state "challenge"
  require (stateChallenge.eq (.str (b64 challenge)) && (state.get "user_verification").eq (lit "required"))
    "CHALLENGE_STATE"
  pure payload

/-- What is answered when an approval is stored. -/
def approvedAnswer (evidenceSha256 : PyStr) (verifiedAt : PyVal) : PyVal := obj [
  ("can_request_passkey", .bool false),
  ("canonical_promotion_executed", .bool false),
  ("contract_sha256", lit contractSha),
  ("ed25519_grant_issued", .bool false),
  ("evidence_sha256", .str evidenceSha256),
  ("formal_effect_authorized", .bool false),
  ("founder_binding_verified", .bool false),
  ("human_approval_intent_captured", .bool true),
  ("message", lit "手機授權簽章已保存；後續回執修復與身分綁定另行處理。"),
  ("receipt_repair_executed", .bool false),
  ("signature_verified", .bool true),
  ("state", lit "MOBILE_SIGNATURE_SAVED_NATIVE_BINDING_PENDING"),
  ("verified_at", verifiedAt)]

/-- `verify_proof` -/
def verifyProof (setting : Setting) (proof : PyVal) : Except Fault PyVal := do
  let schema ← getField proof "schema"
  require (schema.eq (lit (domain ++ "/SIGNED_APPROVAL"))) "PROOF_SCHEMA"
  let pending ← proof.at "pending"
  let payload ← checkPending setting pending
  let issuedText ← payload.at "issued_at"
  let issued ← instant setting issuedText
  let verifiedText ← proof.at "verified_at"
  let verified ← instant setting verifiedText
  let expiresText ← payload.at "expires_at"
  let expires ← instant setting expiresText
  require (issued ≤ verified && verified < expires) "VERIFICATION_OUTSIDE_CEREMONY"
  let assertion ← proof.at "assertion"
  let parsed ← setting.parseAssertion assertion
  let client ← loads parsed.clientData
  let clientOrigin ← getField client "origin"
  require (clientOrigin.eq (lit webOrigin) &&
    isBool (match client with
      | .dict items => (getItem items (cp "crossOrigin")).getD (.bool false)
      | _ => .none) false) "EXACT_ORIGIN_REQUIRED"
  let encoded ← pending.at "public_credential_b64url"
  let key ← keyFromPublic setting encoded
  let state ← pending.at "webauthn_state"
  let credentialId ← setting.authenticateComplete state key assertion
  require (credentialId = setting.credentialId key && parsed.rpIdHash = Sha256.digestBytes ((cp rpId).flatMap utf8Char))
    "EXACT_MOBILE_CREDENTIAL_AND_RP_REQUIRED"
  require (parsed.userPresent && parsed.userVerified) "USER_PRESENCE_AND_VERIFICATION_REQUIRED"
  require (isBool (proof.get "founder_binding_verified") false &&
    isBool (proof.get "formal_effect_authorized") false) "SIGNATURE_ONLY_STATE_REQUIRED"
  let raw ← canon proof
  pure (approvedAnswer (Sha256.hexdigest (raw ++ [10])) verifiedText)

/-! ### The store -/

/-- A directory of a ceremony: its record, and the names of its temporary files. -/
structure Ceremony where
  pending : Option Bytes
  temporaries : List PyStr

/-- The directory of the program. -/
structure Store where
  /-- The directory is there. -/
  made : Bool
  /-- `STATE / 'ceremonies'`, in the order in which its entries are listed -/
  ceremonies : Option (List (PyStr × Ceremony))
  publicCredential : Option Bytes
  evidence : Option Bytes
  temporaries : List PyStr

/-- The store before the first call. -/
def emptyStore : Store := ⟨false, none, none, none, []⟩

/-- The files that are published. -/
inductive Target where
  | publicCredential
  | evidence
  | pending (ceremonyId : PyStr)

/-- The operations on files. -/
inductive Op where
  | makeState
  | makeCeremonies
  /-- `path.parent.mkdir` -/
  | makeParent (target : Target)
  | openTemporary (target : Target) (name : PyStr)
  | write (target : Target) (name : PyStr)
  | link (target : Target) (name : PyStr) (raw : Bytes)
  | unlink (target : Target) (name : PyStr)

/-- The directories of the ceremonies. -/
def Store.entries (s : Store) : List (PyStr × Ceremony) := s.ceremonies.getD []

/-- A directory of a ceremony is changed. -/
def Store.update (s : Store) (ceremonyId : PyStr) (f : Ceremony → Ceremony) : Store :=
  { s with ceremonies := s.ceremonies.map fun entries =>
      entries.map fun p => if p.1 = ceremonyId then (p.1, f p.2) else p }

/-- The names of the temporary files beside a target, if its directory is there. -/
def Store.temporariesOf (s : Store) : Target → Option (List PyStr)
  | .pending ceremonyId => (s.entries.lookup ceremonyId).map Ceremony.temporaries
  | _ => if s.made then some s.temporaries else none

/-- The temporary files beside a target are changed. -/
def Store.setTemporaries (s : Store) (f : List PyStr → List PyStr) : Target → Store
  | .pending ceremonyId => s.update ceremonyId fun c => { c with temporaries := f c.temporaries }
  | _ => { s with temporaries := f s.temporaries }

/-- What is stored at a target. -/
def Store.content (s : Store) : Target → Option Bytes
  | .publicCredential => s.publicCredential
  | .evidence => s.evidence
  | .pending ceremonyId => (s.entries.lookup ceremonyId).bind Ceremony.pending

/-- A file is there from now on. -/
def Store.publish (s : Store) (raw : Bytes) : Target → Store
  | .publicCredential => { s with publicCredential := some raw }
  | .evidence => { s with evidence := some raw }
  | .pending ceremonyId => s.update ceremonyId fun c => { c with pending := some raw }

/-- The directory of a ceremony, which may be there. -/
def Store.makeCeremony (s : Store) (ceremonyId : PyStr) : Store :=
  { s with
    made := true
    ceremonies := some (if ceremonyId ∈ s.entries.map Prod.fst then s.entries
      else s.entries ++ [(ceremonyId, ⟨none, []⟩)]) }

/-- One operation; it fails where an `OSError` is raised. -/
def apply : Op → Store → Option Store
  | .makeState, s => some { s with made := true }
  | .makeCeremonies, s => some { s with made := true, ceremonies := some s.entries }
  | .makeParent (.pending ceremonyId), s => some (s.makeCeremony ceremonyId)
  | .makeParent _, s => some { s with made := true }
  | .openTemporary target name, s => match s.temporariesOf target with
      | some names => if name ∈ names then none else some (s.setTemporaries (· ++ [name]) target)
      | none => none
  | .write _ _, s => some s
  | .link target name raw, s => match s.temporariesOf target, s.content target with
      | some names, none => if name ∈ names then some (s.publish raw target) else none
      | _, _ => none
  | .unlink target name, s => some (s.setTemporaries (·.filter (· ≠ name)) target)

/-- A program on the store. -/
abbrev Method := Program Op Store Fault

/-- An operation of the operating system. -/
def operate (op : Op) : Method Unit := perform apply (.builtin .osError) op

/-! ### Publication -/

/-- `persist_bytes_new`, with the name that is drawn for the temporary file. -/
def persistBytesNew (target : Target) (raw : Bytes) (name : PyStr) : Method Unit := do
  operate (.makeParent target)
  check (require (raw.length ≤ maxBytes) "PROOF_TOO_LARGE")
  operate (.openTemporary target name)
  ensure (do
    operate (.write target name)
    operate (.link target name raw)) (operate (.unlink target name))

/-- `persist_new` -/
def persistNew (target : Target) (value : PyVal) (name : PyStr) : Method Bytes := do
  let raw ← check (canon value)
  persistBytesNew target (raw ++ [10]) name
  pure (raw ++ [10])

/-- `initialize_state` -/
def initializeState (setting : Setting) (name : PyStr) : Method Unit := do
  operate .makeState
  operate .makeCeremonies
  let s ← Interruptions.read
  match s.publicCredential with
  | some raw => check do
      let record ← readFile (some raw) setting.isCredential
      let encoded ← record.at "credential_data_b64url"
      let _ ← keyFromPublic setting encoded
      pure ()
  | none => do
      let raw ← check setting.credFile
      check do
        let record ← loads raw
        let encoded ← record.at "credential_data_b64url"
        let _ ← keyFromPublic setting encoded
        pure ()
      persistBytesNew .publicCredential raw name

/-! ### The calls -/

/-- `credential`: the key, and the text it is read from. -/
def credential (setting : Setting) (s : Store) : Except Fault (Bytes × PyVal) := do
  let record ← match s.publicCredential with
    | some raw => readFile (some raw) setting.isCredential
    | none => do
        let raw ← setting.credFile
        let value ← loads raw
        require value.isDict "SOURCE_SHAPE_INVALID"
        pure value
  let encoded ← record.at "credential_data_b64url"
  let key ← keyFromPublic setting encoded
  pure (key, encoded)

/-- `check_signing_inputs` -/
def checkSigningInputs (setting : Setting) (s : Store) : Except Fault (Bytes × PyVal) := do
  let _ ← setting.fixedFiles.mapM id
  credential setting s

/-- A time of the payload of a ceremony. -/
def timeOf (setting : Setting) (pending : PyVal) (k : String) : Except Fault ℤ := do
  let payload ← pending.at "signed_payload"
  let text ← payload.at k
  instant setting text

/-- One entry of `_existing_pending`. -/
def readCeremony (setting : Setting) (entry : PyStr × Ceremony) : Except Fault PyVal := do
  require (isCeremonyId entry.1) "CEREMONY_DIRECTORY_INVALID"
  let pending ← readFile entry.2.pending fun _ => true
  let _ ← checkPending setting pending
  pure pending

/-- `_existing_pending`: the records of all ceremonies, the latest first. -/
def existingPending (setting : Setting) (s : Store) : Except Fault (List PyVal) := do
  let result ← s.entries.mapM (readCeremony setting)
  let dated ← result.mapM fun pending => do
    let issued ← timeOf setting pending "issued_at"
    pure (issued, pending)
  pure ((dated.mergeSort fun a b => b.1 ≤ a.1).map Prod.snd)

/-- `next((v for v in vs if p(v)), None)` -/
def findFirst (p : PyVal → Except Fault Bool) : List PyVal → Except Fault (Option PyVal)
  | [] => .ok none
  | v :: vs => do
      let found ← p v
      if found then pure (some v) else findFirst p vs

/-- `public_entry`: exceptions that are no `PermissionError` are replaced. -/
def publicFault : Fault → Fault
  | .own reason => .own reason
  | .builtin _ => .own (cp "REQUEST_OR_PROOF_INVALID")

/-- What `status` answers while there is no approval. -/
def statusAnswer (anyPending : Bool) (expiresAt : Option PyVal) : PyVal := obj ([
  ("can_request_passkey", .bool true), ("contract_sha256", lit contractSha)] ++
  (match expiresAt with
    | some text => [("expires_at", text)]
    | none => []) ++ [
  ("formal_effect_authorized", .bool false),
  ("founder_binding_verified", .bool false),
  ("receipt_repair_executed", .bool false),
  ("signature_verified", .bool false),
  ("state", lit (if expiresAt.isSome then "SIGNING_IN_PROGRESS"
    else if anyPending then "SIGNING_WINDOW_EXPIRED" else "READY_TO_SIGN"))])

/-- The body of `status`. -/
def statusOf (setting : Setting) (now : ℤ) (s : Store) : Except Fault PyVal :=
  match s.evidence with
  | some raw => do
      let proof ← readFile (some raw) fun _ => true
      verifyProof setting proof
  | none => do
      let _ ← checkSigningInputs setting s
      let pending ← existingPending setting s
      let current ← findFirst (fun value => do
        let expires ← timeOf setting value "expires_at"
        pure (now < expires)) pending
      match current with
      | none => pure (statusAnswer (pending ≠ []) none)
      | some value => do
          let payload ← value.at "signed_payload"
          let expires ← payload.at "expires_at"
          pure (statusAnswer true (some expires))

/-- `status` -/
def status (setting : Setting) (now : ℤ) (s : Store) : Except Fault PyVal :=
  (statusOf setting now s).mapError publicFault

/-- What a call of `begin` draws: the id of the ceremony, its nonce, and names for temporary files. -/
structure Draws where
  ceremonyId : PyStr
  isId : isCeremonyId ceremonyId = true
  nonce : Bytes
  length_nonce : nonce.length = 32
  credentialName : PyStr
  pendingName : PyStr

/-- The payload that is signed. -/
def payloadOf (setting : Setting) (now : ℤ) (draws : Draws) (credentialSha : PyStr) : PyVal := obj [
  ("bindings", bindings),
  ("ceremony_id", .str draws.ceremonyId),
  ("expires_at", .str (setting.isoformat (now + 900000000))),
  ("issued_at", .str (setting.isoformat now)),
  ("nonce", .str (b64 draws.nonce)),
  ("public_credential_sha256", .str credentialSha),
  ("single_use", .bool true),
  ("transport_delay_requires_new_signature", .bool false)]

/-- The record of a ceremony. -/
def recordOf (draws : Draws) (payload encoded options state : PyVal) : PyVal := obj [
  ("ceremony_id", .str draws.ceremonyId),
  ("options", options),
  ("public_credential_b64url", encoded),
  ("schema", lit (domain ++ "/PENDING")),
  ("signed_payload", payload),
  ("webauthn_state", state)]

/-- What `begin` answers of a ceremony. -/
def beginAnswer (ceremonyId options expiresAt : PyVal) (remainingMs : ℤ) (reused : Bool) : PyVal := obj [
  ("ceremony_id", ceremonyId), ("expires_at", expiresAt), ("options", options), ("pending_reused", .bool reused),
  ("remaining_ms", .int remainingMs), ("state", lit "SIGNING_IN_PROGRESS")]

/-- What `begin` answers of a ceremony that is in progress. -/
def reusedAnswer (setting : Setting) (now : ℤ) (pending : PyVal) : Except Fault PyVal := do
  let ceremonyId ← pending.at "ceremony_id"
  let options ← pending.at "options"
  let payload ← pending.at "signed_payload"
  let expiresAt ← payload.at "expires_at"
  let expires ← instant setting expiresAt
  pure (beginAnswer ceremonyId options expiresAt (setting.remainingMs (expires - now)) true)

/-- The body of `begin`. -/
def beginBody (setting : Setting) (now : ℤ) (draws : Draws) : Method PyVal := do
  let s ← Interruptions.read
  match s.evidence with
  | some raw => check do
      let proof ← readFile (some raw) fun _ => true
      verifyProof setting proof
  | none => do
      let inputs ← check (checkSigningInputs setting s)
      let pendings ← check (existingPending setting s)
      let current ← check (findFirst (fun pending => do
        let issued ← timeOf setting pending "issued_at"
        let expires ← timeOf setting pending "expires_at"
        pure (issued ≤ now && now < expires)) pendings)
      match current with
      | some pending => check (reusedAnswer setting now pending)
      | none => do
          initializeState setting draws.credentialName
          let data ← check (readB64 inputs.2)
          let payload := payloadOf setting now draws (Sha256.hexdigest data)
          let challenge ← check (challengeOf payload)
          let begun ← check (setting.authenticateBegin inputs.1 challenge)
          let _ ← persistNew (.pending draws.ceremonyId) (recordOf draws payload inputs.2 begun.1 begun.2)
            draws.pendingName
          pure (beginAnswer (.str draws.ceremonyId) begun.1 (.str (setting.isoformat (now + 900000000))) 900000 false)

/-- `begin` -/
def begin (setting : Setting) (now : ℤ) (draws : Draws) : Method PyVal :=
  replacing publicFault (beginBody setting now draws)

/-- The approval that is stored. -/
def proofOf (setting : Setting) (now : ℤ) (pending assertion : PyVal) : PyVal := obj [
  ("assertion", assertion), ("formal_effect_authorized", .bool false), ("founder_binding_verified", .bool false),
  ("pending", pending), ("schema", lit (domain ++ "/SIGNED_APPROVAL")),
  ("verified_at", .str (setting.isoformat now)),
  ("verified_at_source", lit "LOCAL_SERVER_OBSERVATION_NOT_INDEPENDENT_SIGNING_TIMESTAMP")]

/-- The body of `complete`, with the name that is drawn for the temporary file. -/
def completeBody (setting : Setting) (now : ℤ) (body : PyVal) (name : PyStr) : Method PyVal := do
  check do
    require (hasFields body ["ceremony_id", "response"]) "COMPLETION_SHAPE_OR_SIZE_INVALID"
    let raw ← canon body
    require (raw.length ≤ maxBytes) "COMPLETION_SHAPE_OR_SIZE_INVALID"
  let ceremonyId ← check (body.at "ceremony_id")
  let response ← check (body.at "response")
  let s ← Interruptions.read
  match s.evidence with
  | some raw => check do
      let saved ← readFile (some raw) fun _ => true
      let savedPending ← saved.at "pending"
      let savedId ← savedPending.at "ceremony_id"
      let assertion ← saved.at "assertion"
      require (ceremonyId.eq savedId && response.eq assertion) "DIFFERENT_COMPLETION_REPLAY_REJECTED"
      verifyProof setting saved
  | none => do
      let id ← check (match ceremonyId with
        | .str id => if isCeremonyId id then .ok id else .error (.own (cp "CEREMONY_ID_INVALID"))
        | _ => .error (.own (cp "CEREMONY_ID_INVALID")))
      let _ ← check (checkSigningInputs setting s)
      let pending ← check (readFile (s.content (.pending id)) fun _ => true)
      check do
        let payload ← checkPending setting pending
        let issuedText ← payload.at "issued_at"
        let issued ← instant setting issuedText
        let expiresText ← payload.at "expires_at"
        let expires ← instant setting expiresText
        require (issued ≤ now && now < expires) "SIGNING_WINDOW_EXPIRED"
      let summary ← check (verifyProof setting (proofOf setting now pending response))
      let raw ← persistNew .evidence (proofOf setting now pending response) name
      let s' ← Interruptions.read
      check do
        let saved ← rawRead s'.evidence fun _ => true
        require (Sha256.hexdigest saved = Sha256.hexdigest raw) "SAVED_PROOF_READBACK_MISMATCH"
      pure summary

/-- `complete` -/
def complete (setting : Setting) (now : ℤ) (body : PyVal) (name : PyStr) : Method PyVal :=
  replacing publicFault (completeBody setting now body name)

end MobileApproval
