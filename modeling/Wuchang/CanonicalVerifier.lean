/-
**The canonical 8D verifier: a packet is let through once.**

`taiji_8d_canonical_verifier.py` decides a transmission by a chain of guards: the secrets, the shape of
the payload, the distance of its timestamp from the clock, the signature over its core, and a table of
used nonces in an SQLite file.  Then the ADI 5D gate and the tensor space have their say, and a record is
appended to a chained log.

A nonce is forgotten `ttl` seconds after it was used, and a packet stays acceptable on both sides of its
own timestamp: the two windows agree for a packet that is not dated ahead of its first use, and only
then.

Times are exact: they are rational numbers.  The Unicode table of `str.lower`, the text of a formatted
value and the result of the ADI 5D verifier, which reads a file, are parameters.

Main definitions:

* `Canonical8D.Payload`, `Canonical8D.packetCore` — a payload, and the part of it that is signed;
* `Canonical8D.markUsedOrReplay` — the table of nonces, as a `ReplayWindow`;
* `Canonical8D.verifyPayload`, `Canonical8D.processTransmission` — the guards, and a whole call;
* `Canonical8D.trace` — the calls of a run, each with the state it was made in;
* `Canonical8D.ReplayFree` — a core passes once, and what is allowed is signed and in time.

Main results:

* `Canonical8D.replayFree_of_notAhead` — a run whose packets are not dated ahead is free of replays.
-/

import Wuchang.PyJson
import Wuchang.Sha256
import Wuchang.ReplayWindow
import Mathlib.Tactic.Linarith

set_option relaxedAutoImplicit false
set_option autoImplicit false

namespace Canonical8D

open Py

/-- The exceptions beside those of `Py.Builtin`. -/
inductive Failure where
  | overflowError
  deriving DecidableEq, Repr

/-- An exception. -/
abbrev Fault := Raise Failure

/-- What a call decides. -/
inductive Decision where
  | denySecretNotConfigured
  | denySchemaInvalid
  | denySchemaInvalidD8Envelope
  | denyTtlExpired
  | denyD7SignatureInvalid
  | denyReplayAttack
  | pass
  | hold
  | block
  | allow
  deriving DecidableEq, Repr

/-- The text of a decision. -/
def Decision.text : Decision → String
  | denySecretNotConfigured => "DENY_SECRET_NOT_CONFIGURED"
  | denySchemaInvalid => "DENY_SCHEMA_INVALID"
  | denySchemaInvalidD8Envelope => "DENY_SCHEMA_INVALID_D8_ENVELOPE"
  | denyTtlExpired => "DENY_TTL_EXPIRED"
  | denyD7SignatureInvalid => "DENY_D7_SIGNATURE_INVALID"
  | denyReplayAttack => "DENY_REPLAY_ATTACK"
  | pass => "PASS"
  | hold => "HOLD"
  | block => "BLOCK"
  | allow => "ALLOW"

/-! ### Canonical texts -/

/-- `canonical_json` -/
def canonicalJson (v : PyVal) : Except Fault PyStr := PyJson.dumps PyJson.compact v

/-- `sha256_hex` -/
def sha256Hex (data : PyStr) : Except Fault PyStr := do
  let bytes ← encodeUtf8 data
  pure (Sha256.hexdigest bytes)

/-- `hmac_sha256_hex` -/
def hmacSha256Hex (secret : List UInt8) (data : PyStr) : Except Fault PyStr := do
  let bytes ← encodeUtf8 data
  pure (Sha256.hmac secret bytes)

/-- The items of a JSON object. -/
abbrev Payload := Items

/-- `payload.get(k)` -/
def Payload.get (payload : Payload) (k : String) : PyVal := (PyVal.dict payload).get k

/-- What is signed of a payload. -/
structure PacketCore where
  d1 : PyVal
  d2 : PyVal
  d4 : PyVal
  d8Nonce : PyVal
  d8Timestamp : PyVal

/-- The core of a payload; a foreign envelope has no `get`. -/
def packetCore (payload : Payload) : Except Fault PacketCore :=
  let env := payload.get "env_D8"
  let core (env : PyVal) : PacketCore :=
    ⟨payload.get "delta_D1", payload.get "ref_D2", payload.get "delta_D4", env.get "nonce",
      env.get "timestamp"⟩
  if ¬env.truthy then .ok (core (.dict []))
  else if env.isDict then .ok (core env)
  else .error (.builtin .attributeError)

/-- `canonical_packet_core` -/
def canonicalPacketCore (payload : Payload) : Except Fault PyStr := do
  let core ← packetCore payload
  canonicalJson (obj [("D1", core.d1), ("D2", core.d2), ("D4", core.d4), ("D8_nonce", core.d8Nonce),
    ("D8_timestamp", core.d8Timestamp)])

/-- `sign_d7_packet` -/
def signD7Packet (payload : Payload) (d7Secret : List UInt8) : Except Fault PyStr := do
  let core ← canonicalPacketCore payload
  hmacSha256Hex d7Secret core

/-- `hmac.compare_digest` of two texts, which have to be ASCII. -/
def compareDigest (expected supplied : PyStr) : Except Fault Bool :=
  if (expected ++ supplied).all fun c => c < 128 then .ok (expected = supplied)
  else .error (.builtin .typeError)

/-- `verify_d7_signature` -/
def verifyD7Signature (payload : Payload) (d7Secret : List UInt8) : Except Fault Bool :=
  match payload.get "proof_D7" with
  | .str [] => .ok false
  | .str supplied => do
      let expected ← signD7Packet payload d7Secret
      compareDigest expected supplied
  | _ => .ok false

/-! ### The table of nonces -/

/-- A row of `nonce_ledger`. -/
structure NonceRow where
  nonce : PyStr
  packetHash : PyStr
  usedAt : ℚ
  expiresAt : ℚ

/-- The committed rows of the file. -/
abbrev NonceLedger := List NonceRow

/-- `cleanup` -/
def cleanup (now : ℚ) (rows : NonceLedger) : NonceLedger := ReplayWindow.cleanup NonceRow.expiresAt now rows

/-- `mark_used_or_replay`: whether the nonce was not used yet, and the rows that are left. -/
def markUsedOrReplay (rows : NonceLedger) (nonce packetHash : PyStr) (now : ℚ) (ttlSeconds : ℤ) :
    Bool × NonceLedger :=
  ReplayWindow.use NonceRow.nonce NonceRow.expiresAt now ⟨nonce, packetHash, now, now + ttlSeconds⟩ rows

/-! ### The guards -/

/-- A number that was converted by `float`. -/
inductive Timestamp where
  | finite (q : ℚ)
  | infinity
  | nan
  deriving DecidableEq

/-- A natural number, rounded to 53 binary digits; a tie goes to the even one. -/
def roundNat (n : ℕ) : ℕ :=
  let unit := 2 ^ (Nat.log2 n + 1 - 53)
  let up := unit < 2 * (n % unit) ∨ (2 * (n % unit) = unit ∧ n / unit % 2 = 1)
  (if up then n / unit + 1 else n / unit) * unit

/-- `float(v)` of a number. -/
def floatOf : PyVal → Except Fault Timestamp
  | .bool b => .ok (.finite (if b then 1 else 0))
  | .int n =>
      let magnitude := roundNat n.natAbs
      if 1024 ≤ Nat.log2 magnitude then .error (.own .overflowError)
      else .ok (.finite (if n < 0 then -magnitude else magnitude))
  | .float x => .ok (if x.isFinite then .finite x.value else if x.frac = 0 then .infinity else .nan)
  | _ => .error (.builtin .typeError)

/-- `isinstance(v, (int, float))` -/
def isNumber : PyVal → Bool
  | .bool _ => true
  | .int _ => true
  | .float _ => true
  | _ => false

/-- `abs(now - timestamp) > ttl_seconds` -/
def beyondTtl (now : ℚ) (ttlSeconds : ℤ) : Timestamp → Bool
  | .finite t => ttlSeconds < |now - t|
  | .infinity => true
  | .nan => false

/-- `VerifierSecrets` -/
structure VerifierSecrets where
  d7Secret : List UInt8
  trajectorySecret : List UInt8
  auditSecret : List UInt8
  keyVersion : PyStr := cp "local-key-v1"

/-- `configured` -/
def VerifierSecrets.configured (secrets : VerifierSecrets) : Bool :=
  secrets.d7Secret ≠ [] && secrets.trajectorySecret ≠ [] && secrets.auditSecret ≠ []

/-- `VerifierConfig` -/
structure VerifierConfig where
  ttlSeconds : ℤ := 30
  verifierVersion : PyStr := cp "v4.1.0-canonical-8d-d7-nonce-audit-hmac"
  sealVersion : PyStr := cp "canonical-8d-seal-v1"
  externalAnchorRef : Option PyStr := none

/-- The keys a payload must have. -/
def required : List String := ["delta_D1", "ref_D2", "delta_D4", "proof_D7", "env_D8"]

/-- `k in payload` -/
def Payload.has (payload : Payload) (k : String) : Bool := (getItem payload (cp k)).isSome

/-- The nonce of an envelope, when the envelope has the right shape. -/
def nonceOf (env : PyVal) : Option PyStr :=
  match env.get "nonce" with
  | .str [] => none
  | .str nonce => if isNumber (env.get "timestamp") then some nonce else none
  | _ => none

/-- `verify_payload`: the decision with the stage that made it, and the rows that are left. -/
def verifyPayload (secrets : VerifierSecrets) (config : VerifierConfig) (payload : Payload) (now : ℚ)
    (packetHash : PyStr) (rows : NonceLedger) : Except Fault ((Decision × String) × NonceLedger) :=
  let env := payload.get "env_D8"
  if ¬secrets.configured then .ok ((.denySecretNotConfigured, "secret_guard"), rows)
  else if ¬required.all payload.has then
    if ¬payload.has "env_D8" then .ok ((.denySchemaInvalidD8Envelope, "schema_verifier"), rows)
    else .ok ((.denySchemaInvalid, "schema_verifier"), rows)
  else if ¬env.isDict then .ok ((.denySchemaInvalidD8Envelope, "schema_verifier"), rows)
  else match nonceOf env with
    | none => .ok ((.denySchemaInvalidD8Envelope, "schema_verifier"), rows)
    | some nonce => do
        let timestamp ← floatOf (env.get "timestamp")
        if beyondTtl now config.ttlSeconds timestamp then pure ((.denyTtlExpired, "ttl_guard"), rows)
        else do
          let signed ← verifyD7Signature payload secrets.d7Secret
          if ¬signed then pure ((.denyD7SignatureInvalid, "d7_signature_guard"), rows)
          else
            let (fresh, rows) := markUsedOrReplay rows nonce packetHash now config.ttlSeconds
            pure (if fresh then (.pass, "formal_verifier") else (.denyReplayAttack, "nonce_guard"), rows)

/-! ### The ADI 5D gate and the tensor space -/

/-- What the verifier uses of its surroundings. -/
structure Library where
  /-- `str.lower` -/
  lower : PyStr → PyStr
  /-- `f"{v}"` -/
  format : PyVal → PyStr
  /-- the number `created_at` of a record -/
  timeValue : ℚ → PyVal

/-- `needle in text` -/
def occursIn (text : PyStr) (needle : String) : Bool := decide (cp needle <:+: text)

/-- `forbidden_core_terms` -/
def forbiddenCoreTerms : List String := ["cloud encrypted sync", "encrypted cloud sync", "file transfer",
  "backup", "download-decrypt restore", "download and decrypt restore", "decrypt restore", "檔案搬運",
  "雲端密文同步", "備份", "下載解密"]

/-- `core_markers` -/
def coreMarkers : List String := ["generative_transmission_core", "gt_core", "core_technology", "核心"]

/-- `forbidden_adi_terms` -/
def forbiddenAdiTerms : List String := ["adi neural network", "5d neural network",
  "ordinary json five fields", "generic 5d schema", "external tensor network", "extra tensor network",
  "普通 json 五欄位", "神經網路", "外掛張量網"]

/-- `check_gt_definition_drift` -/
def checkGtDefinitionDrift (lib : Library) (payload : Payload) : Except Fault (List String) := do
  let text ← canonicalJson (.dict payload)
  let text := lib.lower text
  let core := if coreMarkers.any (occursIn text) && forbiddenCoreTerms.any (occursIn text) then
    ["GT_CORE_DEFINITION_DRIFT_FILE_TRANSFER_OR_CLOUD_SYNC"] else []
  let adi := if forbiddenAdiTerms.any (occursIn text) then ["ADI_5D_DEFINITION_DRIFT"] else []
  pure (core ++ adi)

/-- The dictionary `verify_adi_5d_gate` returns. -/
structure GateResult where
  decision : Decision
  resultCode : String
  checks : PyVal
  errors : List PyVal

/-- `d.get(k, default)` of a dictionary. -/
def getOr (v : PyVal) (k : String) (default : PyVal) : Except Fault PyVal :=
  match v with
  | .dict items => .ok ((getItem items (cp k)).getD default)
  | _ => .error (.builtin .attributeError)

/-- `list(v)` -/
def listOf : PyVal → Except Fault (List PyVal)
  | .list xs => .ok xs
  | .str s => .ok (s.map fun c => .str [c])
  | .dict items => .ok (items.map fun p => match p.1 with
      | .str s => .str s
      | .other => .other)
  | _ => .error (.builtin .typeError)

/-- `verify_adi_5d_gate`, where `adiResult` is what the ADI 5D verifier answers for a packet. -/
def verifyAdi5dGate (lib : Library) (adiResult : PyVal → Except Fault PyVal) (payload : Payload) :
    Except Fault GateResult := do
  let driftErrors ← checkGtDefinitionDrift lib payload
  let adiPacket := payload.get "adi_5d_absolute_index"
  if driftErrors ≠ [] then
    pure ⟨.hold, "HOLD_GT_DEFINITION_DRIFT", .dict [], driftErrors.map lit⟩
  else if ¬adiPacket.isDict then
    pure ⟨.hold, "HOLD_ADI_5D_REQUIRED", .dict [], [lit "ADI_5D_ABSOLUTE_INDEX_MISSING"]⟩
  else do
    let result ← adiResult adiPacket
    let errors ← getOr result "ERRORS" (.list [])
    let errors ← listOf errors
    let dryRun ← getOr result "DRY_RUN" .none
    let checks ← getOr result "CHECKS" (.dict [])
    let passed := dryRun.eq (lit "PASS")
    pure ⟨if passed then .allow else .hold, if passed then "ADI_5D_GATE_PASS" else "HOLD_ADI_5D_REQUIRED",
      checks, errors⟩

/-- `static_oracle.get(ref, "wood_unknown")`; a list or a dictionary cannot be looked up. -/
def staticOracle (ref : PyVal) : Except Fault PyStr :=
  match ref with
  | .list _ => .error (.builtin .typeError)
  | .dict _ => .error (.builtin .typeError)
  | ref => .ok (if ref.eq (lit "intent_order_latte") then cp "wood_task_01" else cp "wood_unknown")

/-- `map_8d_to_5elements` of the reconstructed dictionary. -/
def map8dTo5elements (lib : Library) (payload : Payload) : Except Fault (List PyStr) := do
  let wood ← staticOracle (payload.get "ref_D2")
  pure [cp "metal_gov_strict::res_pos1", wood, cp "water_" ++ lib.format (payload.get "delta_D4"),
    cp "fire_state_draft::env_verified",
    cp "earth_id_" ++ lib.format (payload.get "delta_D1") ++ cp "::sig_verified"]

/-- `evaluate`: whether the sparse space holds the vector. -/
def evaluate (vector : List PyStr) : Bool :=
  vector = ["metal_gov_strict::res_pos1", "wood_task_01", "water_route_local",
    "fire_state_draft::env_verified", "earth_id_user1::sig_verified"].map cp

/-- The text of an execution candidate. -/
def candidateText (found : Bool) : String := if found then "EXEC_POS_ORDER" else "QUARANTINE_DENY_BY_DEFAULT"

/-! ### A call -/

/-- An entry of `logs`. -/
structure AuditLog where
  runId : PyStr
  packetHash : PyStr
  trajectoryHmac : List PyStr
  collapseResult : Decision
  executionCandidate : Option String
  adi5dGateResult : Option GateResult
  verifierVersion : PyStr
  prevLogHash : PyStr
  logHash : PyStr
  logHmac : PyStr
  keyVersion : PyStr
  gateStage : String
  sealVersion : PyStr
  externalAnchorRef : Option PyStr
  createdAt : PyVal

/-- The dictionary of a gate result; it is empty when the gate was not asked. -/
def gateValue : Option GateResult → PyVal
  | none => .dict []
  | some gate => obj [("checks", gate.checks), ("decision", lit gate.decision.text),
      ("errors", .list gate.errors), ("result_code", lit gate.resultCode)]

/-- The dictionary `log_core` is made of. -/
def logCore (log : AuditLog) : PyVal :=
  obj [("adi_5d_gate_result", gateValue log.adi5dGateResult),
    ("collapse_result", lit log.collapseResult.text),
    ("created_at", log.createdAt),
    ("execution_candidate", (log.executionCandidate.map lit).getD .none),
    ("gate_stage", lit log.gateStage),
    ("key_version", .str log.keyVersion),
    ("packet_hash", .str log.packetHash),
    ("prev_log_hash", .str log.prevLogHash),
    ("run_id", .str log.runId),
    ("trajectory_hmac", .list (log.trajectoryHmac.map .str)),
    ("verifier_version", .str log.verifierVersion)]

/-- What a verifier keeps, and the file of its nonces. -/
structure State where
  ledger : NonceLedger
  prevLogHash : PyStr
  logs : List AuditLog

/-- `hashlib.sha256(b"TAIJI_GENESIS_BLOCK_0000").hexdigest()` -/
def genesis : PyStr := Sha256.hexdigest ((cp "TAIJI_GENESIS_BLOCK_0000").map UInt8.ofNat)

/-- A new verifier on a file. -/
def State.opened (ledger : NonceLedger) : State := ⟨ledger, genesis, []⟩

/-- A call of `process_transmission`, with what it reads beside its arguments. -/
structure Call where
  payload : Payload
  now : ℚ
  runId : PyStr
  adiResult : PyVal → Except Fault PyVal

section Calls

variable (lib : Library) (secrets : VerifierSecrets) (config : VerifierConfig)

/-- The hash of the packet, and the guards. -/
def judge (call : Call) (rows : NonceLedger) :
    Except Fault (PyStr × (Decision × String) × NonceLedger) := do
  let text ← canonicalJson (.dict call.payload)
  let packetHash ← sha256Hex text
  let verdict ← verifyPayload secrets config call.payload call.now packetHash rows
  pure (packetHash, verdict)

/-- The gate and the tensor space, for a packet that passed the guards. -/
def collapse (call : Call) (verdict : Decision × String) :
    Except Fault ((Decision × String) × List PyStr × Option String × Option GateResult) :=
  if verdict.1 ≠ .pass then .ok (verdict, [], none, none)
  else do
    let gate ← verifyAdi5dGate lib call.adiResult call.payload
    if gate.decision ≠ .allow then pure ((.hold, "adi_5d_gate"), [], none, some gate)
    else do
      let vector ← map8dTo5elements lib call.payload
      let trajectory ← vector.mapM (hmacSha256Hex secrets.trajectorySecret)
      let found := evaluate vector
      pure ((if found then .allow else .block, "tensor_collapse"), trajectory, some (candidateText found),
        some gate)

/-- The record of a call. -/
def audit (call : Call) (packetHash prevLogHash : PyStr) (verdict : Decision × String)
    (trajectory : List PyStr) (candidate : Option String) (gate : Option GateResult) :
    Except Fault AuditLog := do
  let log : AuditLog := ⟨call.runId, packetHash, trajectory, verdict.1, candidate, gate,
    config.verifierVersion, prevLogHash, [], [], secrets.keyVersion, verdict.2, config.sealVersion,
    config.externalAnchorRef, lib.timeValue call.now⟩
  let text ← canonicalJson (logCore log)
  let logHash ← sha256Hex text
  let logHmac ← if secrets.auditSecret ≠ [] then hmacSha256Hex secrets.auditSecret logHash else pure []
  pure { log with logHash := logHash, logHmac := logHmac }

/-- `process_transmission`: what it returns or raises, and what it leaves.  A nonce that was marked stays
marked when a later step raises. -/
def processTransmission (call : Call) (s : State) : Except Fault (Decision × AuditLog) × State :=
  match judge secrets config call s.ledger with
  | .error e => (.error e, s)
  | .ok (packetHash, verdict, rows) =>
      let recorded : Except Fault (Decision × AuditLog) := do
        let (verdict, trajectory, candidate, gate) ← collapse lib secrets call verdict
        let log ← audit lib secrets config call packetHash s.prevLogHash verdict trajectory candidate gate
        pure (verdict.1, log)
      match recorded with
      | .error e => (.error e, { s with ledger := rows })
      | .ok (decision, log) => (.ok (decision, log), ⟨rows, log.logHash, s.logs ++ [log]⟩)

/-! ### Runs -/

/-- A step of a run: a call, or the file is closed and opened by a new verifier. -/
inductive Step where
  | transmit (call : Call)
  | reopen

/-- What a step leaves. -/
def afterStep (s : State) : Step → State
  | .transmit call => (processTransmission lib secrets config call s).2
  | .reopen => .opened s.ledger

/-- The calls of a run, each with the state it was made in. -/
def trace (s : State) : List Step → List (State × Call)
  | [] => []
  | .transmit call :: steps => (s, call) :: trace (afterStep lib secrets config s (.transmit call)) steps
  | .reopen :: steps => trace (afterStep lib secrets config s .reopen) steps

/-- The calls of a run. -/
def callsOf : List Step → List Call
  | [] => []
  | .transmit call :: steps => call :: callsOf steps
  | .reopen :: steps => callsOf steps

/-! ### Replays -/

/-- The guards let a call through, the nonce guard included. -/
def Passes (p : State × Call) : Prop :=
  ∃ packetHash stage rows, judge secrets config p.2 p.1.ledger = .ok (packetHash, (.pass, stage), rows)

/-- A call ends in `ALLOW`. -/
def Allowed (p : State × Call) : Prop :=
  ∃ log, (processTransmission lib secrets config p.2 p.1).1 = .ok (.allow, log)

/-- The timestamp of a payload, as `float` converts it. -/
def timestampOf (payload : Payload) : Except Fault Timestamp :=
  floatOf ((payload.get "env_D8").get "timestamp")

/-- The proof of a payload is the keyed digest of its core. -/
def Signed (payload : Payload) : Prop :=
  ∃ core proof, canonicalPacketCore payload = .ok core ∧ payload.get "proof_D7" = .str proof ∧
    hmacSha256Hex secrets.d7Secret core = .ok proof

/-- The timestamp of a call lies within the `ttl` of its own time. -/
def InTime (call : Call) : Prop :=
  ∃ t, timestampOf call.payload = .ok (.finite t) ∧ |call.now - t| ≤ config.ttlSeconds

/-- A core passes the nonce guard once, and ends in `ALLOW` once; what ends in `ALLOW` is signed and in
time. -/
structure ReplayFree (l : List (State × Call)) : Prop where
  passes_once : l.Pairwise fun p q => Passes secrets config p → Passes secrets config q →
    packetCore p.2.payload ≠ packetCore q.2.payload
  allowed_once : l.Pairwise fun p q => Allowed lib secrets config p → Allowed lib secrets config q →
    packetCore p.2.payload ≠ packetCore q.2.payload
  allowed_signed : ∀ p ∈ l, Allowed lib secrets config p →
    Signed secrets p.2.payload ∧ InTime config p.2

/-- The timestamp is neither an infinity nor a NaN. -/
def FiniteTimestamp (payload : Payload) : Prop :=
  timestampOf payload ≠ .ok .infinity ∧ timestampOf payload ≠ .ok .nan

/-- A packet with a valid proof is not dated later than the call's own time, or too late to pass. -/
def NotAhead (call : Call) : Prop :=
  verifyD7Signature call.payload secrets.d7Secret = .ok true →
    ∀ t, timestampOf call.payload = .ok (.finite t) → t ≤ call.now ∨ call.now + config.ttlSeconds < t

end Calls

section Guards

variable {lib : Library} {secrets : VerifierSecrets} {config : VerifierConfig} {payload : Payload}
  {call : Call} {s : State} {rows rows' : NonceLedger} {now : ℚ} {packetHash : PyStr}

/-- What the guards have checked when they let a packet through. -/
structure Cleared (secrets : VerifierSecrets) (config : VerifierConfig) (payload : Payload) (now : ℚ)
    (nonce : PyStr) (timestamp : Timestamp) : Prop where
  configured : secrets.configured = true
  has : required.all payload.has = true
  isDict : (payload.get "env_D8").isDict = true
  named : nonceOf (payload.get "env_D8") = some nonce
  dated : timestampOf payload = .ok timestamp
  inTime : beyondTtl now config.ttlSeconds timestamp = false
  signed : verifyD7Signature payload secrets.d7Secret = .ok true

/-- A packet the guards clear is put to the nonce guard. -/
theorem Cleared.verifyPayload_eq {nonce : PyStr} {timestamp : Timestamp}
    (h : Cleared secrets config payload now nonce timestamp) :
    verifyPayload secrets config payload now packetHash rows =
      .ok (if (markUsedOrReplay rows nonce packetHash now config.ttlSeconds).1 then
          (.pass, "formal_verifier") else (.denyReplayAttack, "nonce_guard"),
        (markUsedOrReplay rows nonce packetHash now config.ttlSeconds).2) := by
  have htimestamp := h.dated
  rw [timestampOf] at htimestamp
  rw [verifyPayload]
  dsimp only
  rw [if_neg (not_not.2 h.configured), if_neg (not_not.2 h.has), if_neg (not_not.2 h.isDict), h.named]
  dsimp only
  rw [htimestamp, ok_bind, h.inTime, if_neg Bool.false_ne_true, h.signed, ok_bind,
    if_neg (not_not.2 rfl)]
  rfl

/-- A packet is cleared and put to the nonce guard, or it is denied and the rows stay. -/
theorem of_verifyPayload {verdict : Decision × String}
    (h : verifyPayload secrets config payload now packetHash rows = .ok (verdict, rows')) :
    (∃ nonce timestamp, Cleared secrets config payload now nonce timestamp ∧
        ((markUsedOrReplay rows nonce packetHash now config.ttlSeconds).1 = true ∨
          verdict = (.denyReplayAttack, "nonce_guard")) ∧
        rows' = (markUsedOrReplay rows nonce packetHash now config.ttlSeconds).2 ∧
        verdict.1 ≠ .allow) ∨
      (verdict.1 ≠ .pass ∧ rows' = rows ∧ verdict.1 ≠ .allow) := by
  have hdenied : ∀ denied : Decision × String, denied.1 ≠ .pass ∧ denied.1 ≠ .allow →
      Except.ok (denied, rows) = (.ok (verdict, rows') : Except Fault _) →
      verdict.1 ≠ .pass ∧ rows' = rows ∧ verdict.1 ≠ .allow := by
    rintro denied ⟨hpass, hallow⟩ h
    obtain ⟨rfl, rfl⟩ := Prod.mk.inj (Except.ok.inj h)
    exact ⟨hpass, rfl, hallow⟩
  by_cases hcleared : ∃ nonce timestamp, Cleared secrets config payload now nonce timestamp
  · obtain ⟨nonce, timestamp, hcleared⟩ := hcleared
    rw [hcleared.verifyPayload_eq] at h
    obtain ⟨rfl, rfl⟩ := Prod.mk.inj (Except.ok.inj h)
    refine .inl ⟨nonce, timestamp, hcleared, ?_, rfl, ?_⟩
    · split_ifs with hfresh
      · exact .inl hfresh
      · exact .inr rfl
    · split_ifs
      · decide
      · decide
  · refine .inr ?_
    rw [verifyPayload] at h
    dsimp only at h
    split_ifs at h with hconfigured hhas hdict
    · cases hnonce : nonceOf (payload.get "env_D8") with
      | none =>
          rw [hnonce] at h
          exact hdenied _ (by decide) h
      | some nonce =>
          rw [hnonce] at h
          obtain ⟨timestamp, htimestamp, h⟩ := bind_eq_ok_iff.1 h
          by_cases hbeyond : beyondTtl now config.ttlSeconds timestamp = true
          · rw [if_pos hbeyond] at h
            exact hdenied _ (by decide) h
          · rw [if_neg hbeyond] at h
            obtain ⟨signed, hsigned, h⟩ := bind_eq_ok_iff.1 h
            cases signed with
            | false => exact hdenied _ (by decide) h
            | true => exact absurd ⟨nonce, timestamp, hconfigured, hhas, hdict, hnonce, htimestamp,
                by simpa using hbeyond, hsigned⟩ hcleared
    · exact hdenied _ (by decide) h
    · exact hdenied _ (by decide) h
    · exact hdenied _ (by decide) h
    · exact hdenied _ (by decide) h

/-- A call gets to the guards when its packet can be hashed. -/
theorem of_judge {verdict : Decision × String}
    (h : judge secrets config call rows = .ok (packetHash, verdict, rows')) :
    verifyPayload secrets config call.payload call.now packetHash rows = .ok (verdict, rows') := by
  obtain ⟨text, -, h⟩ := bind_eq_ok_iff.1 h
  obtain ⟨hash, -, h⟩ := bind_eq_ok_iff.1 h
  obtain ⟨left, hverdict, h⟩ := bind_eq_ok_iff.1 h
  obtain ⟨rfl, rfl⟩ := Prod.mk.inj (pure_eq_ok_iff.1 h)
  exact hverdict

/-- A call that passes was cleared, and its nonce was not used; the rows that are left say so. -/
theorem of_passes (lib : Library) (h : Passes secrets config (s, call)) : ∃ nonce timestamp packetHash,
    Cleared secrets config call.payload call.now nonce timestamp ∧
      (markUsedOrReplay s.ledger nonce packetHash call.now config.ttlSeconds).1 = true ∧
      (afterStep lib secrets config s (.transmit call)).ledger =
        (markUsedOrReplay s.ledger nonce packetHash call.now config.ttlSeconds).2 := by
  obtain ⟨packetHash, stage, rows, h⟩ := h
  have hledger : (afterStep lib secrets config s (.transmit call)).ledger = rows := by
    rw [afterStep, processTransmission, h]
    dsimp only
    split
    · rfl
    · rfl
  rcases of_verifyPayload (of_judge h) with ⟨nonce, timestamp, hcleared, hfresh | hverdict, hrows, -⟩ |
    ⟨hpass, -⟩
  · exact ⟨nonce, timestamp, packetHash, hcleared, hfresh, hledger.trans hrows⟩
  · cases hverdict
  · exact absurd rfl hpass

/-- The rows after a call: those before it, or what the nonce guard left. -/
theorem ledger_afterStep (lib : Library) (secrets : VerifierSecrets) (config : VerifierConfig)
    (s : State) (call : Call) :
    (afterStep lib secrets config s (.transmit call)).ledger = s.ledger ∨
      ∃ nonce packetHash, (afterStep lib secrets config s (.transmit call)).ledger =
        (markUsedOrReplay s.ledger nonce packetHash call.now config.ttlSeconds).2 := by
  rw [afterStep, processTransmission]
  cases hjudge : judge secrets config call s.ledger with
  | error e => exact .inl rfl
  | ok admitted =>
      obtain ⟨packetHash, verdict, rows⟩ := admitted
      have hrows : rows = s.ledger ∨ ∃ nonce packetHash,
          rows = (markUsedOrReplay s.ledger nonce packetHash call.now config.ttlSeconds).2 := by
        rcases of_verifyPayload (of_judge hjudge) with ⟨nonce, -, -, -, hrows, -⟩ | ⟨-, hrows, -⟩
        · exact .inr ⟨nonce, packetHash, hrows⟩
        · exact .inl hrows
      dsimp only
      split
      · exact hrows
      · exact hrows

/-- What is allowed has passed. -/
theorem Allowed.passes (h : Allowed lib secrets config (s, call)) : Passes secrets config (s, call) := by
  obtain ⟨log, h⟩ := h
  rw [processTransmission] at h
  dsimp only at h
  cases hjudge : judge secrets config call s.ledger with
  | error e =>
      rw [hjudge] at h
      cases h
  | ok admitted =>
      obtain ⟨packetHash, ⟨decision, stage⟩, rows⟩ := admitted
      rw [hjudge] at h
      dsimp only at h
      split at h
      · cases h
      · next allowed log' hrecorded =>
          obtain ⟨⟨verdict, trajectory, candidate, gate⟩, hcollapse, hrecorded⟩ :=
            bind_eq_ok_iff.1 hrecorded
          obtain ⟨log'', -, hrecorded⟩ := bind_eq_ok_iff.1 hrecorded
          obtain ⟨hallowed, -⟩ := Prod.mk.inj (pure_eq_ok_iff.1 hrecorded)
          have hallow : verdict.1 = .allow := hallowed.trans (Prod.mk.inj (Except.ok.inj h)).1
          by_cases hpass : decision = .pass
          · subst hpass
            exact ⟨packetHash, stage, rows, hjudge⟩
          · rw [collapse, if_pos hpass] at hcollapse
            obtain ⟨rfl, -⟩ := Prod.mk.inj (Except.ok.inj hcollapse)
            rcases of_verifyPayload (of_judge hjudge) with ⟨-, -, -, -, -, hnot⟩ | ⟨-, -, hnot⟩
            · exact absurd hallow hnot
            · exact absurd hallow hnot

/-- A signature that is accepted is the keyed digest of the core. -/
theorem signed_of_verify (h : verifyD7Signature payload secrets.d7Secret = .ok true) :
    Signed secrets payload := by
  rw [verifyD7Signature] at h
  split at h
  · cases h
  · next supplied _ hproof =>
      obtain ⟨expected, hexpected, h⟩ := bind_eq_ok_iff.1 h
      obtain ⟨core, hcore, hexpected⟩ := bind_eq_ok_iff.1 hexpected
      rw [compareDigest] at h
      split_ifs at h
      obtain rfl : expected = supplied := by simpa using h
      exact ⟨core, expected, hcore, hproof, hexpected⟩
  · cases h

/-- A cleared packet with a finite timestamp is in time. -/
theorem Cleared.near {nonce : PyStr} {timestamp : Timestamp}
    (h : Cleared secrets config payload now nonce timestamp) (hfinite : FiniteTimestamp payload) :
    ∃ t, timestamp = .finite t ∧ |now - t| ≤ config.ttlSeconds := by
  cases timestamp with
  | finite t => exact ⟨t, rfl, by simpa [beyondTtl] using h.inTime⟩
  | infinity => exact absurd h.dated hfinite.1
  | nan => exact absurd h.dated hfinite.2

/-- The core of a cleared packet names its nonce and its timestamp. -/
theorem Cleared.packetCore_eq {nonce : PyStr} {timestamp : Timestamp}
    (h : Cleared secrets config payload now nonce timestamp) :
    packetCore payload = .ok ⟨payload.get "delta_D1", payload.get "ref_D2", payload.get "delta_D4",
      (payload.get "env_D8").get "nonce", (payload.get "env_D8").get "timestamp"⟩ := by
  have htruthy : (payload.get "env_D8").truthy = true := by
    have hnamed := h.named
    cases henv : payload.get "env_D8" with
    | dict items =>
        cases items with
        | nil =>
            rw [henv] at hnamed
            cases hnamed
        | cons p items => rfl
    | _ =>
        rw [henv] at hnamed
        cases hnamed
  rw [packetCore]
  dsimp only
  rw [if_neg (not_not.2 htruthy), if_pos h.isDict]

/-- Packets with one core have one nonce and one timestamp. -/
theorem Cleared.same_core {payload' : Payload} {now' : ℚ} {nonce nonce' : PyStr}
    {timestamp timestamp' : Timestamp} (h : Cleared secrets config payload now nonce timestamp)
    (h' : Cleared secrets config payload' now' nonce' timestamp')
    (hcore : packetCore payload = packetCore payload') : nonce = nonce' ∧ timestamp = timestamp' := by
  rw [h.packetCore_eq, h'.packetCore_eq] at hcore
  obtain ⟨-, -, -, hnonce, htimestamp⟩ := PacketCore.mk.inj (Except.ok.inj hcore)
  have hnamed := h.named
  rw [nonceOf, hnonce, htimestamp] at hnamed
  have hdated := h.dated
  rw [timestampOf, htimestamp] at hdated
  exact ⟨Option.some.inj (hnamed.symm.trans h'.named), Except.ok.inj (hdated.symm.trans h'.dated)⟩

/-! ### Runs -/

variable {steps : List Step} {clock expiry : ℚ} {nonce : PyStr}

/-- A guard in the table of nonces. -/
abbrev Guarded (rows : NonceLedger) (clock : ℚ) (nonce : PyStr) (expiry : ℚ) : Prop :=
  ReplayWindow.Guarded NonceRow.nonce NonceRow.expiresAt rows clock nonce expiry

/-- A call keeps every guard. -/
theorem guarded_afterStep (h : Guarded s.ledger clock nonce expiry) (hclock : clock ≤ call.now) :
    Guarded (afterStep lib secrets config s (.transmit call)).ledger call.now nonce expiry := by
  rcases ledger_afterStep lib secrets config s call with hledger | ⟨used, packetHash, hledger⟩
  · rw [hledger]
    exact h.advance hclock
  · rw [hledger]
    exact h.use hclock _

/-- As long as a nonce is guarded, no call with the nonce passes. -/
theorem lt_of_guarded (hguard : Guarded s.ledger clock nonce expiry)
    (hlater : ∀ c ∈ callsOf steps, clock ≤ c.now)
    (hclock : (callsOf steps).Pairwise fun c d => c.now ≤ d.now) :
    ∀ p ∈ trace lib secrets config s steps, Passes secrets config p →
      nonceOf (p.2.payload.get "env_D8") = some nonce → expiry < p.2.now := by
  induction steps generalizing s clock with
  | nil => simp [trace]
  | cons step steps ih =>
      cases step with
      | reopen => exact ih hguard hlater hclock
      | transmit call =>
          rw [callsOf, List.pairwise_cons] at hclock
          have hnow : clock ≤ call.now := hlater call (by simp [callsOf])
          rintro p hp hpass hnonce
          rw [trace, List.mem_cons] at hp
          rcases hp with rfl | hp
          · obtain ⟨nonce', timestamp, packetHash, hcleared, hfresh, -⟩ := of_passes lib hpass
            obtain rfl := Option.some.inj (hnonce.symm.trans hcleared.named)
            exact ReplayWindow.lt_of_use hguard hnow hfresh
          · exact ih (guarded_afterStep hguard hnow) (fun c hc => hclock.1 c hc) hclock.2 p hp hpass hnonce

theorem mem_callsOf {p : State × Call} (h : p ∈ trace lib secrets config s steps) :
    p.2 ∈ callsOf steps := by
  induction steps generalizing s with
  | nil => simp [trace] at h
  | cons step steps ih =>
      cases step with
      | reopen => exact ih h
      | transmit call =>
          rcases List.mem_cons.1 h with rfl | h
          · exact List.mem_cons_self
          · exact List.mem_cons_of_mem _ (ih h)

/-- A core that has passed does not pass again, when the packet was not dated ahead. -/
theorem passes_once (hclock : (callsOf steps).Pairwise fun c d => c.now ≤ d.now)
    (hfinite : ∀ c ∈ callsOf steps, FiniteTimestamp c.payload)
    (hahead : ∀ c ∈ callsOf steps, NotAhead secrets config c) :
    (trace lib secrets config s steps).Pairwise fun p q => Passes secrets config p →
      Passes secrets config q → packetCore p.2.payload ≠ packetCore q.2.payload := by
  induction steps generalizing s with
  | nil => exact List.Pairwise.nil
  | cons step steps ih =>
      cases step with
      | reopen => exact ih hclock hfinite hahead
      | transmit call =>
          rw [callsOf, List.pairwise_cons] at hclock
          rw [callsOf, List.forall_mem_cons] at hfinite hahead
          rw [trace, List.pairwise_cons]
          refine ⟨?_, ih hclock.2 hfinite.2 hahead.2⟩
          intro q hq hpass hpass' hcore
          obtain ⟨nonce, timestamp, packetHash, hcleared, hfresh, hledger⟩ := of_passes lib hpass
          obtain ⟨nonce', timestamp', -, hcleared', -⟩ := of_passes lib hpass'
          obtain ⟨rfl, rfl⟩ := hcleared.same_core hcleared' hcore
          have hguard : Guarded (afterStep lib secrets config s (.transmit call)).ledger call.now nonce
              (call.now + config.ttlSeconds) := by
            rw [hledger]
            exact ReplayWindow.guarded_use hfresh
          have hlater := lt_of_guarded hguard hclock.1 hclock.2 q hq hpass' hcleared'.named
          obtain ⟨t, rfl, hnear⟩ := hcleared.near hfinite.1
          obtain ⟨t', ht', hnear'⟩ := hcleared'.near (hfinite.2 _ (mem_callsOf hq))
          obtain rfl := Timestamp.finite.inj ht'
          -- the second window ends with the timestamp, which the first call has reached
          have hend := (abs_le.1 hnear').2
          have hstart := (abs_le.1 hnear).1
          rcases hahead.1 hcleared.signed t hcleared.dated with hpast | hfar
          · linarith
          · linarith

/-- **Free of replays.**  In every run over a file of nonces, with times that do not decrease and finite
timestamps: if no validly signed packet is dated later than the call that presents it, a core passes the
nonce guard once and ends in `ALLOW` once, and what ends in `ALLOW` is signed and in time. -/
theorem replayFree_of_notAhead (lib : Library) (secrets : VerifierSecrets) (config : VerifierConfig)
    (s : State) (steps : List Step) (hclock : (callsOf steps).Pairwise fun c d => c.now ≤ d.now)
    (hfinite : ∀ c ∈ callsOf steps, FiniteTimestamp c.payload)
    (hahead : ∀ c ∈ callsOf steps, NotAhead secrets config c) :
    ReplayFree lib secrets config (trace lib secrets config s steps) where
  passes_once := passes_once hclock hfinite hahead
  allowed_once := (passes_once hclock hfinite hahead).imp fun hpass hp hq => hpass hp.passes hq.passes
  allowed_signed := by
    rintro p hp hallowed
    obtain ⟨nonce, timestamp, -, hcleared, -⟩ := of_passes lib hallowed.passes
    obtain ⟨t, rfl, hnear⟩ := hcleared.near (hfinite _ (mem_callsOf hp))
    exact ⟨signed_of_verify hcleared.signed, t, hcleared.dated, hnear⟩

/-- A cleared packet passes when it can be hashed and its nonce was not used. -/
theorem passes_of_cleared {nonce text packetHash : PyStr} {timestamp : Timestamp}
    (hcleared : Cleared secrets config call.payload call.now nonce timestamp)
    (htext : canonicalJson (.dict call.payload) = .ok text) (hhash : sha256Hex text = .ok packetHash)
    (hfresh : (markUsedOrReplay s.ledger nonce packetHash call.now config.ttlSeconds).1 = true) :
    Passes secrets config (s, call) := by
  have hjudge : judge secrets config call s.ledger = .ok (packetHash, (.pass, "formal_verifier"),
      (markUsedOrReplay s.ledger nonce packetHash call.now config.ttlSeconds).2) := by
    rw [judge, htext, ok_bind, hhash, ok_bind, hcleared.verifyPayload_eq, if_pos hfresh]
    rfl
  exact ⟨_, _, _, hjudge⟩

/-- **A packet that is dated ahead can be replayed.**  When it has passed, it passes again at the end of
its window. -/
theorem replay_of_ahead (lib : Library) {t : ℚ} (hpass : Passes secrets config (s, call))
    (hdated : timestampOf call.payload = .ok (.finite t)) (hahead : call.now < t) :
    Passes secrets config (afterStep lib secrets config s (.transmit call),
      { call with now := t + config.ttlSeconds }) := by
  obtain ⟨nonce, timestamp, packetHash, hcleared, hfresh, hledger⟩ := of_passes lib hpass
  obtain rfl := Except.ok.inj (hdated.symm.trans hcleared.dated)
  have hnear : |call.now - t| ≤ config.ttlSeconds := by simpa [beyondTtl] using hcleared.inTime
  have httl : (0 : ℚ) ≤ config.ttlSeconds := (abs_nonneg _).trans hnear
  have hcleared' : Cleared secrets config call.payload (t + config.ttlSeconds) nonce (.finite t) :=
    { hcleared with inTime := by simp [beyondTtl, abs_of_nonneg httl] }
  obtain ⟨hash, stage, rows, hjudge⟩ := hpass
  obtain ⟨text, htext, hjudge⟩ := bind_eq_ok_iff.1 hjudge
  obtain ⟨hash', hhash, -⟩ := bind_eq_ok_iff.1 hjudge
  refine passes_of_cleared hcleared' htext hhash ?_
  rw [hledger]
  exact ReplayWindow.use_again hfresh (by dsimp only; linarith) rfl

end Guards

/-! ### A packet that is dated ahead -/

/-- A verifier with the default configuration. -/
def sampleSecrets : VerifierSecrets where
  d7Secret := [1]
  trajectorySecret := [2]
  auditSecret := [3]

/-- A library for a run in which nothing is formatted. -/
def sampleLibrary : Library := ⟨id, fun _ => [], fun _ => .int 0⟩

/-- The core of a packet with the timestamp 20. -/
def sampleCore : PyVal := obj [("D1", lit "user1"), ("D2", lit "intent_order_latte"),
  ("D4", lit "route_local"), ("D8_nonce", lit "n-1"), ("D8_timestamp", .int 20)]

/-- The packet, with the proof for its core. -/
def samplePayload : Payload := fields [("delta_D1", lit "user1"), ("delta_D4", lit "route_local"),
  ("env_D8", obj [("nonce", lit "n-1"), ("timestamp", .int 20)]),
  ("proof_D7", .str (Sha256.hmac [1] ((PyJson.write PyJson.compact sampleCore).flatMap utf8Char))),
  ("ref_D2", lit "intent_order_latte")]

/-- The packet is presented at a time. -/
def sampleCall (now : ℚ) : Call where
  payload := samplePayload
  now := now
  runId := cp "run_0"
  adiResult _ := .ok (obj [])

/-- A value of literals has a canonical text, and the text can be encoded. -/
theorem canonicalJson_ok {v : PyVal} (h : PyJson.Plain Encodable v) :
    canonicalJson v = .ok (PyJson.write PyJson.compact v) ∧
      Encodable (PyJson.write PyJson.compact v) := by
  refine ⟨?_, h.encodable_write (encodable_cp _) (encodable_cp _)⟩
  rw [canonicalJson, PyJson.dumps, if_pos h.serialisable]

theorem hmacSha256Hex_ok {s : PyStr} (secret : List UInt8) (h : Encodable s) :
    hmacSha256Hex secret s = .ok (Sha256.hmac secret (s.flatMap utf8Char)) := by
  rw [hmacSha256Hex, encodeUtf8_ok h, ok_bind]
  rfl

/-- A keyed digest is a text of ASCII characters that is not empty. -/
theorem ascii_hmac (secret msg : List UInt8) :
    Sha256.hmac secret msg ≠ [] ∧ ∀ c ∈ Sha256.hmac secret msg, c < 128 := by
  obtain ⟨hlength, hdigits⟩ := Bool.and_eq_true_iff.1 (Sha256.isHex64_hmac secret msg)
  refine ⟨fun h => ?_, fun c hc => ?_⟩
  · rw [h] at hlength
    cases hlength
  · have hrange := List.all_eq_true.1 hdigits c hc
    simp only [Bool.or_eq_true, Bool.and_eq_true, decide_eq_true_eq] at hrange
    omega

/-- The proof of the sample is the keyed digest of its core. -/
theorem sample_signed : verifyD7Signature samplePayload sampleSecrets.d7Secret = .ok true := by
  have hplain : PyJson.Plain Encodable sampleCore := by
    refine PyJson.plain_obj ?_
    simp only [List.forall_mem_cons, List.not_mem_nil, false_imp_iff, implies_true, and_true]
    exact ⟨PyJson.plain_lit _, PyJson.plain_lit _, PyJson.plain_lit _, PyJson.plain_lit _, .int _⟩
  obtain ⟨htext, hencodable⟩ := canonicalJson_ok hplain
  have hcore : canonicalPacketCore samplePayload = .ok (PyJson.write PyJson.compact sampleCore) := htext
  have hhmac := hmacSha256Hex_ok [1] hencodable
  have hascii := ascii_hmac [1] ((PyJson.write PyJson.compact sampleCore).flatMap utf8Char)
  generalize hproof : Sha256.hmac [1] ((PyJson.write PyJson.compact sampleCore).flatMap utf8Char) = proof
    at hhmac hascii
  have hget : samplePayload.get "proof_D7" = .str proof := by
    rw [← hproof]
    rfl
  rw [verifyD7Signature, hget]
  cases proof with
  | nil => exact absurd rfl hascii.1
  | cons c proof =>
      have hall : ((c :: proof) ++ (c :: proof)).all (fun c => decide (c < 128)) = true := by
        rw [List.all_append, Bool.and_self, List.all_eq_true]
        exact fun d hd => decide_eq_true (hascii.2 d hd)
      dsimp only
      rw [signD7Packet, hcore, ok_bind, show sampleSecrets.d7Secret = [1] from rfl, hhmac, ok_bind,
        compareDigest, if_pos hall, decide_eq_true rfl]

theorem sample_cleared {now : ℚ} (hnear : |now - 20| ≤ 30) :
    Cleared sampleSecrets {} samplePayload now (cp "n-1") (.finite 20) where
  configured := rfl
  has := rfl
  isDict := rfl
  named := rfl
  dated := by decide
  inTime := by simp [beyondTtl, hnear]
  signed := sample_signed

/-- The packet passes a verifier that has not seen it, at second 0. -/
theorem sample_passes : Passes sampleSecrets {} (.opened [], sampleCall 0) := by
  have hplain : PyJson.Plain Encodable (.dict samplePayload) := by
    refine PyJson.plain_obj ?_
    simp only [List.forall_mem_cons, List.not_mem_nil, false_imp_iff, implies_true, and_true]
    refine ⟨PyJson.plain_lit _, PyJson.plain_lit _, PyJson.plain_obj ?_, .str _ ?_, PyJson.plain_lit _⟩
    · simpa using ⟨PyJson.plain_lit "n-1", PyJson.Plain.int 20⟩
    · exact Sha256.encodable_hexdigest _
  obtain ⟨htext, hencodable⟩ := canonicalJson_ok hplain
  have hhash : sha256Hex (PyJson.write PyJson.compact (.dict samplePayload)) =
      .ok (Sha256.hexdigest ((PyJson.write PyJson.compact (.dict samplePayload)).flatMap utf8Char)) := by
    rw [sha256Hex, encodeUtf8_ok hencodable, ok_bind]
    rfl
  have hnear : |(0 : ℚ) - 20| ≤ 30 := by norm_num
  exact @passes_of_cleared _ _ (sampleCall 0) _ _ _ _ _ (sample_cleared hnear) htext hhash rfl

theorem sample_dated : timestampOf samplePayload = .ok (.finite 20) :=
  (@sample_cleared 20 (by simp)).dated

theorem sample_finite : FiniteTimestamp samplePayload := by
  rw [FiniteTimestamp, sample_dated]
  exact ⟨by decide, by decide⟩

/-- The packet is presented at second 0 and, when its nonce is forgotten, at second 50: it passes twice. -/
theorem not_replayFree_ahead :
    (callsOf [.transmit (sampleCall 0), .transmit (sampleCall 50)]).Pairwise (fun c d => c.now ≤ d.now) ∧
      (∀ c ∈ callsOf [.transmit (sampleCall 0), .transmit (sampleCall 50)], FiniteTimestamp c.payload) ∧
      ¬ReplayFree sampleLibrary sampleSecrets {} (trace sampleLibrary sampleSecrets {} (.opened [])
        [.transmit (sampleCall 0), .transmit (sampleCall 50)]) := by
  refine ⟨by simp [callsOf, sampleCall], ?_, fun h => ?_⟩
  · simp only [callsOf, List.forall_mem_cons, List.not_mem_nil, false_imp_iff, implies_true, and_true]
    exact ⟨sample_finite, sample_finite⟩
  · have hagain := replay_of_ahead sampleLibrary sample_passes sample_dated (by simp [sampleCall])
    have hcall : ({ sampleCall 0 with now := 20 + ((30 : ℤ) : ℚ) } : Call) = sampleCall 50 := by
      norm_num [sampleCall]
    rw [show ({} : VerifierConfig).ttlSeconds = 30 from rfl, hcall] at hagain
    exact (List.pairwise_cons.1 h.passes_once).1 _ List.mem_cons_self sample_passes hagain rfl

/-- The packet is presented at second 20 and again at second 50, and the file is reopened in between. -/
theorem replayFree_later : ReplayFree sampleLibrary sampleSecrets {}
    (trace sampleLibrary sampleSecrets {} (.opened [])
      [.transmit (sampleCall 20), .reopen, .transmit (sampleCall 50)]) := by
  refine replayFree_of_notAhead _ _ _ _ _ (by norm_num [callsOf, sampleCall]) ?_ ?_
  · simp only [callsOf, List.forall_mem_cons, List.not_mem_nil, false_imp_iff, implies_true, and_true]
    exact ⟨sample_finite, sample_finite⟩
  · have hahead : ∀ now : ℚ, 20 ≤ now → NotAhead sampleSecrets {} (sampleCall now) := by
      intro now hnow _ t ht
      obtain rfl := Timestamp.finite.inj (Except.ok.inj (sample_dated.symm.trans ht))
      exact .inl hnow
    simp only [callsOf, List.forall_mem_cons, List.not_mem_nil, false_imp_iff, implies_true, and_true]
    exact ⟨hahead 20 le_rfl, hahead 50 (by norm_num)⟩

end Canonical8D
