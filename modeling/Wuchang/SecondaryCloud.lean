/-
**The audit of a run of the secondary cloud.**

`run_multilayer_audit` looks at six packets in eight layers.  Every layer compares packets of its own: the
member's entry with the authority, the route with the translation, a packet with its own hash.  The audit
passes when no layer finds an error.

No layer compares the reconstruction with the translation or with the capability, nor the capability with
the pull request or with the translation.  So the audit binds its packets together only when they agree
already.

Main definitions:

* `SecondaryCloud.Packets` — the six packets;
* `SecondaryCloud.resolveIdentityAuthority`, `SecondaryCloud.resolveScenarioContainer` — the resolutions of
  the second and the third layer;
* `SecondaryCloud.reconstructLocalState` — a reconstruction from a translation and a capability;
* `SecondaryCloud.runMultilayerAudit` — the audit.

Main results:

* `SecondaryCloud.audit_pass_iff` — when the audit passes;
* `SecondaryCloud.audit_binds_iff` — when a passing audit binds its packets together;
* `SecondaryCloud.audit_of_other_run` — packets of different runs that pass.
-/

import Wuchang.PyJson
import Wuchang.Sha256

set_option relaxedAutoImplicit false
set_option autoImplicit false

namespace SecondaryCloud

open Py

/-- An exception that leaves a function; the module declares none of its own. -/
abbrev Fault := Raise Empty

/-! ### The constants -/

def reconstructionLocation : String := "TAIJI01_LOCAL"

def packetProtocol : String := "W7TP-8D-PACKET-NATIVE/1.0"

def pullProtocol : String := "W7TP-PULL-PACKET-ONLY/1.0"

/-- `CONTAINERS` -/
def containers : List String := ["ASSOCIATION", "PROPERTY", "CAFE_POS", "HOUSEHOLD", "GENERIC", "AUDIO"]

/-- `MINIMAL_PULL_FIELDS` -/
def minimalPullFields : List String := ["capability_id", "capability_ref", "compatibility_profile",
  "domain_code", "language_code", "packet_type", "request_nonce", "return_protocol", "schema_version"]

/-- `FORBIDDEN_UPLINK_KEYS` -/
def forbiddenUplinkKeys : List String := ["name", "member_name", "full_name", "phone", "telephone", "mobile",
  "address", "email", "identity_plaintext", "member_plaintext", "full_intent", "intent_text",
  "local_context", "local_state", "database_replica", "database_content", "private_core", "raw_key",
  "raw_token", "password"]

/-- A route of the table that is used when the caller gives none. -/
def route (name destination capability contract : String) : PyVal := obj [
  ("capability_ref", lit capability),
  ("destination_field", lit destination),
  ("packet_type", lit (if name = "GENERIC" then "GENERIC_INTENT_PACKET" else name ++ "_SERVICE_PACKET")),
  ("scenario_refs", .list [lit ("scenario:" ++ name)]),
  ("service_contract_ref", lit contract)]

/-- `scenario_route_table.json`, but for what the audit does not read. -/
def routeTable : PyVal := obj [("routes", obj [
  ("ASSOCIATION", route "ASSOCIATION" "ASSOCIATION_SERVICE_FIELD" "CAP_ASSOCIATION_SERVICE_V1"
    "contract:association.local"),
  ("AUDIO", route "AUDIO" "AUDIO_SERVICE_FIELD"
    "CAP_MULTIDIMENSIONAL_THREE_DIRECTION_ADI_UNIFIED_AUDIO_CAPABILITY_V1" "contract:audio.local"),
  ("CAFE_POS", route "CAFE_POS" "CAFE_POS_SERVICE_FIELD" "CAP_CAFE_POS_SERVICE_V1"
    "contract:cafe_pos.local"),
  ("GENERIC", route "GENERIC" "GENERIC_SERVICE_FIELD" "CAP_GENERIC_INTENT_V1" "contract:generic.local"),
  ("HOUSEHOLD", route "HOUSEHOLD" "HOUSEHOLD_SERVICE_FIELD" "CAP_HOUSEHOLD_SERVICE_V1"
    "contract:household.local"),
  ("PROPERTY", route "PROPERTY" "PROPERTY_SERVICE_FIELD" "CAP_PROPERTY_SERVICE_V1"
    "contract:property.local")])]

/-! ### Values -/

/-- What the module takes from outside. -/
structure Library where
  /-- The errors `Draft202012Validator` finds for one of the schemas, by their paths: the parts of the path
  as texts, and the keyword. -/
  iterErrors : String → PyVal → List (List PyStr × PyStr)
  /-- `str` of a value that is no text. -/
  text : PyVal → PyStr
  /-- `str` of a key that is no text. -/
  keyText : PyStr

/-- `v.get(k, default)` -/
def getOr (v : PyVal) (k : String) (default : PyVal) : Except Fault PyVal :=
  match v with
  | .dict items => .ok ((getItem items (cp k)).getD default)
  | _ => .error (.builtin .attributeError)

/-- `v.get(k)` -/
def get (v : PyVal) (k : String) : Except Fault PyVal := getOr v k .none

/-- `str(v)` -/
def str (lib : Library) : PyVal → PyStr
  | .str s => s
  | v => lib.text v

/-- `str(k)` -/
def strKey (lib : Library) : PyKey → PyStr
  | .str s => s
  | .other => lib.keyText

/-- A key as a value. -/
def keyVal : PyKey → PyVal
  | .str s => .str s
  | .other => .other

/-- The elements of `set(v)`. -/
def elements : PyVal → Except Fault (List PyVal)
  | .list xs => if xs.all isHashable then .ok xs else .error (.builtin .typeError)
  | .dict items => .ok (items.map fun p => keyVal p.1)
  | .str s => .ok (s.map fun c => .str [c])
  | _ => .error (.builtin .typeError)

/-- `xs <= ys` for sets. -/
def subset (xs ys : List PyVal) : Bool := xs.all fun x => ys.any fun y => pyEq x y

/-- `x in v` -/
def isIn (x : PyVal) : PyVal → Except Fault Bool
  | .list ys => .ok (ys.any fun y => pyEq x y)
  | .str s =>
      match x with
      | .str t => .ok (decide (t <:+: s))
      | _ => .error (.builtin .typeError)
  | .dict items =>
      if isHashable x then .ok (items.any fun p => pyEq x (keyVal p.1)) else .error (.builtin .typeError)
  | _ => .error (.builtin .typeError)

/-- `v.items()` -/
def itemsOf : PyVal → Except Fault Items
  | .dict items => .ok items
  | _ => .error (.builtin .attributeError)

/-- `_canonical_json` -/
def canonicalJson (v : PyVal) : Except Fault (List UInt8) := do
  let text ← PyJson.dumps PyJson.compact v
  encodeUtf8 text

/-- `deterministic_sha256` -/
def deterministicSha256 (v : PyVal) : Except Fault PyStr := do
  let bytes ← canonicalJson v
  pure (Sha256.hexdigest bytes)

/-- A packet without the fields that carry its hash. -/
def contentOf (items : Items) : Items :=
  let content := eraseKey (cp "sha256") items
  match getItem content (cp "d8_envelope") with
  | some (.dict envelope) => setKey (cp "d8_envelope") (.dict (eraseKey (cp "sha256") envelope)) content
  | _ => content

/-- `packet_content_sha256` -/
def packetContentSha256 (packet : PyVal) : Except Fault PyStr :=
  match packet with
  | .dict items => deterministicSha256 (.dict (contentOf items))
  | _ => .error (.builtin .typeError)

/-! ### Decisions -/

/-- A decision: it holds when there are errors. -/
structure Decision where
  errors : List PyStr
  values : List (String × PyVal)

namespace Decision

/-- `decision["state"]` -/
def state (d : Decision) : PyVal := if d.errors = [] then lit "PASS" else lit "HOLD"

/-- `decision.get(key)`, for a key of the values. -/
def get (d : Decision) (k : String) : PyVal := (d.values.lookup k).getD .none

end Decision

/-- `_schema_errors` -/
def schemaErrors (lib : Library) (schemaKey : String) (packet : PyVal) : List PyStr :=
  (lib.iterErrors schemaKey packet).map fun e =>
    let path := (cp ".").intercalate e.1
    cp schemaKey ++ cp ":" ++ (if path = [] then cp "$" else path) ++ cp ":" ++ e.2

mutual

/-- `_unsafe_paths` -/
def unsafePaths (lib : Library) (path : PyStr) : PyVal → List PyStr
  | .dict items => unsafeItems lib path items
  | .list xs => unsafeList lib path 0 xs
  | _ => []

/-- `_unsafe_paths`, for the items of a mapping. -/
def unsafeItems (lib : Library) (path : PyStr) : Items → List PyStr
  | [] => []
  | (k, child) :: items =>
      let normalized := lowerAscii (strip (strKey lib k))
      let childPath := path ++ cp "." ++ strKey lib k
      (if forbiddenUplinkKeys.any fun f => cp f = normalized then [childPath] else []) ++
        unsafePaths lib childPath child ++ unsafeItems lib path items

/-- `_unsafe_paths`, for the elements of a list from an index on. -/
def unsafeList (lib : Library) (path : PyStr) (index : ℕ) : List PyVal → List PyStr
  | [] => []
  | child :: xs =>
      unsafePaths lib (path ++ cp "[" ++ intText index ++ cp "]") child ++ unsafeList lib path (index + 1) xs

end

/-- `sorted(packet)`: keys that are no texts do not compare with others. -/
def sortedKeys (items : Items) : Except Fault PyVal :=
  if (items.any fun p => p.1 = .other) && 1 < items.length then .error (.builtin .typeError)
  else .ok (.list (items.map fun p => keyVal p.1))

/-- `validate_no_uplink_plaintext` -/
def validateNoUplinkPlaintext (lib : Library) (packet : PyVal) (requireMinimalPull : Bool) :
    Except Fault Decision := do
  let items ← itemsOf packet
  let errors := (unsafePaths lib (cp "$") packet).map fun path => cp "FORBIDDEN_UPLINK_FIELD:" ++ path
  let minimal := if requireMinimalPull && !keysAre items minimalPullFields then
    [cp "CAPABILITY_PULL_NOT_MINIMAL"] else []
  let disclosed ← sortedKeys items
  pure ⟨errors ++ minimal, [("disclosed_fields", disclosed)]⟩

/-- `validate_member_entry_packet` -/
def validateMemberEntryPacket (lib : Library) (packet : PyVal) : Except Fault Decision := do
  let uplink ← validateNoUplinkPlaintext lib packet false
  let envelope ← getOr packet "envelope" (obj [])
  let consent ← get envelope "consent_state"
  let revocation ← get envelope "revocation_state"
  let packetId ← get packet "packet_id"
  pure ⟨schemaErrors lib "member_entry" packet ++ uplink.errors ++
    (if pyEq consent (lit "DENIED") then [cp "CONSENT_DENIED"] else []) ++
    (if pyEq revocation (lit "REVOKED") then [cp "IDENTITY_REVOKED"] else []), [("packet_id", packetId)]⟩

/-- The references `resolve_identity_authority` compares. -/
def authorityRefs : List String := ["identity_ref", "consent_ref", "authorization_ref", "withdrawal_ref",
  "qualification_ref", "scenario_ref", "device_binding_ref"]

/-- `resolve_identity_authority` -/
def resolveIdentityAuthority (lib : Library) (memberEntry identityAuthority : PyVal) :
    Except Fault Decision := do
  let entry ← validateMemberEntryPacket lib memberEntry
  let envelope ← getOr memberEntry "envelope" (obj [])
  let comparisons ← authorityRefs.mapM fun k => do
    let left ← get memberEntry k
    let right ← get identityAuthority k
    pure (k, pyEq left right)
  let scope ← getOr envelope "authority_scope" (.list [])
  let scope ← elements scope
  let granted ← getOr identityAuthority "authority_scope" (.list [])
  let grantedScope ← elements granted
  let comparisons := comparisons ++ [("authority_scope", subset scope grantedScope)]
  let consent ← get identityAuthority "consent_state"
  let revocation ← get identityAuthority "revocation_state"
  let verified ← get identityAuthority "envelope_verified"
  let identity ← get identityAuthority "identity_ref"
  let roles ← getOr identityAuthority "role_refs" (.list [])
  pure ⟨entry.errors ++ schemaErrors lib "identity_authority" identityAuthority ++
    (comparisons.filter fun c => !c.2).map (fun c => cp "AUTHORITY_MISMATCH:" ++ cp c.1) ++
    (if pyEq consent (lit "DENIED") then [cp "CONSENT_DENIED"] else []) ++
    (if ¬pyEq revocation (lit "CLEAR") then [cp "IDENTITY_REVOKED"] else []) ++
    (match verified with
      | .bool true => []
      | _ => [cp "IDENTITY_ENVELOPE_UNVERIFIED"]),
    [("identity_ref", identity), ("role_refs", roles), ("authority_scope", granted)]⟩

/-- `resolve_scenario_container` -/
def resolveScenarioContainer (scenarioRef : PyVal) (table : Option PyVal) : Except Fault Decision := do
  let routes ← getOr (table.getD routeTable) "routes" (obj [])
  let routes ← itemsOf routes
  let routed ← routes.mapM fun p => do
    let refs ← getOr p.2 "scenario_refs" (.list [])
    let found ← isIn scenarioRef refs
    pure (p, found)
  match (routed.filter fun p => p.2).map Prod.fst with
  | [(container, found)] => do
      let packetType ← get found "packet_type"
      let capability ← get found "capability_ref"
      let destination ← get found "destination_field"
      let contract ← get found "service_contract_ref"
      pure ⟨if containers.any fun c => key c = container then [] else [cp "UNSUPPORTED_CONTAINER"], [
        ("scenario_ref", scenarioRef), ("selected_container", keyVal container),
        ("packet_type", packetType), ("capability_ref", capability), ("destination_field", destination),
        ("service_contract_ref", contract)]⟩
  | _ => pure ⟨[cp "SCENARIO_ROUTE_NOT_UNIQUE"], [("scenario_ref", scenarioRef)]⟩

/-! ### Reconstruction -/

/-- `allowed_comparisons.get(mode, set())` -/
def allowedComparisons (mode : PyVal) : List String :=
  if pyEq mode (lit "L1_FULL") then ["MATCH"]
  else if pyEq mode (lit "L2_EQUIVALENT") then ["MATCH", "EQUIVALENT"]
  else if pyEq mode (lit "L3_CANDIDATE") then ["CANDIDATE"] else []

/-- The comparison of a mode, if the caller gives none. -/
def defaultComparison (mode : PyVal) : PyVal :=
  if pyEq mode (lit "L1_FULL") then lit "MATCH"
  else if pyEq mode (lit "L2_EQUIVALENT") then lit "EQUIVALENT"
  else if pyEq mode (lit "L3_CANDIDATE") then lit "CANDIDATE" else lit "MISMATCH"

/-- A reconstruction that was not made without errors is not verified. -/
def withErrors (errors : List PyStr) (sealed : Items) : PyVal :=
  if errors.isEmpty then .dict sealed
  else .dict (setKey (cp "errors") (.list (errors.map .str))
    (setKey (cp "local_verified") (.bool false) sealed))

/-- `reconstruct_local_state` -/
def reconstructLocalState (lib : Library) (translation capability : PyVal) (comparisonResult : PyVal) :
    Except Fault PyVal := do
  let schema := schemaErrors lib "scenario_translation" translation ++ schemaErrors lib "capability" capability
  let spec ← getOr capability "reconstruction_spec" (obj [])
  let mode ← get spec "mode"
  -- `mode` is looked up in a dictionary, and the comparison in a set
  if !isHashable mode then .error (.builtin .typeError) else do
  let comparison := match comparisonResult with
    | .none => defaultComparison mode
    | given => given
  let allowed ← inTexts comparison (allowedComparisons mode)
  let errors := schema ++ if allowed then [] else [cp "RECONSTRUCTION_COMPARISON_INVALID"]
  let source ← get translation "packet_id"
  let capabilityRef ← get capability "capability_ref"
  let effect ← get spec "effect_contract_ref"
  let seed := obj [
    ("capability_ref", capabilityRef),
    ("comparison_result", comparison),
    ("effect_contract_ref", effect),
    ("mode", mode),
    ("source_packet_id", source)]
  let candidateOnly := pyEq mode (lit "L3_CANDIDATE")
  let localVerified := errors.isEmpty && !candidateOnly && !pyEq comparison (lit "MISMATCH")
  let digest ← deterministicSha256 seed
  let packet := [
    ("candidate_only", .bool candidateOnly),
    ("capability_ref", capabilityRef),
    ("comparison_result", comparison),
    ("effect_contract_ref", effect),
    ("local_verified", .bool localVerified),
    ("mode", mode),
    ("packet_id", .str (cp "RECON-" ++ digest.take 20)),
    ("reconstruction_location", lit reconstructionLocation),
    ("result_ref", .str (cp "local-result:" ++ digest.take 24)),
    ("schema_version", lit "W7TP-LOCAL-RECONSTRUCTION/1.0"),
    ("source_packet_id", source)]
  let sha ← packetContentSha256 (obj packet)
  let sealed := setKey (cp "sha256") (.str sha) (fields packet)
  let packetErrors := schemaErrors lib "local_reconstruction" (.dict sealed)
  pure (withErrors (errors ++ packetErrors) sealed)

/-! ### The audit -/

/-- The six packets of an audit. -/
structure Packets where
  memberEntry : PyVal
  identityAuthority : PyVal
  scenarioTranslation : PyVal
  capabilityPull : PyVal
  capability : PyVal
  localReconstruction : PyVal

/-- The keys of the route that have to be those of the translation. -/
def routeKeys : List String := ["selected_container", "packet_type", "capability_ref", "destination_field"]

/-- The errors of the first layer. -/
def allSchemaErrors (lib : Library) (p : Packets) : List PyStr :=
  schemaErrors lib "member_entry" p.memberEntry ++
    schemaErrors lib "identity_authority" p.identityAuthority ++
    schemaErrors lib "scenario_translation" p.scenarioTranslation ++
    schemaErrors lib "capability_pull" p.capabilityPull ++ schemaErrors lib "capability" p.capability ++
    schemaErrors lib "local_reconstruction" p.localReconstruction

/-- `route` -/
def routeOf (p : Packets) (table : Option PyVal) : Except Fault Decision := do
  let scenario ← getOr p.memberEntry "scenario_ref" (lit "")
  resolveScenarioContainer scenario table

/-- `route_errors` -/
def routeErrors (p : Packets) (route : Decision) : Except Fault (List PyStr) := do
  let compared ← routeKeys.mapM fun k => do
    let translated ← get p.scenarioTranslation k
    pure (k, pyEq (route.get k) translated)
  pure (route.errors ++ (compared.filter fun c => !c.2).map fun c => cp "ROUTE_MISMATCH:" ++ cp c.1)

/-- `evidence_errors` -/
def evidenceErrors (p : Packets) : Except Fault (List PyStr) := do
  let evidence ← getOr p.scenarioTranslation "d4_evidence" (obj [])
  let refs ← get evidence "evidence_refs"
  let hashes ← if refs.truthy then get evidence "evidence_hashes" else pure (.bool false)
  let sources ← get p.capability "source_refs"
  let payloads ← if sources.truthy then get p.capability "payload_refs" else pure (.bool false)
  let sha ← get p.capability "sha256"
  let digest ← packetContentSha256 p.capability
  pure ((if hashes.truthy then [] else [cp "EVIDENCE_INCOMPLETE"]) ++
    (if payloads.truthy then [] else [cp "CAPABILITY_REFERENCES_INCOMPLETE"]) ++
    if pyEq sha (.str digest) then [] else [cp "CAPABILITY_SHA256_MISMATCH"])

/-- `reconstruction_errors` -/
def reconstructionErrors (p : Packets) : Except Fault (List PyStr) := do
  let location ← get p.localReconstruction "reconstruction_location"
  let sha ← get p.localReconstruction "sha256"
  let digest ← packetContentSha256 p.localReconstruction
  let candidate ← get p.localReconstruction "candidate_only"
  let verified ← get p.localReconstruction "local_verified"
  pure ((if pyEq location (lit reconstructionLocation) then [] else [cp "RECONSTRUCTION_NOT_LOCAL"]) ++
    (if pyEq sha (.str digest) then [] else [cp "RECONSTRUCTION_SHA256_MISMATCH"]) ++
    (match candidate with
      | .bool true => [cp "CANDIDATE_REQUIRES_LOCAL_STATE_MACHINE"]
      | _ => []) ++
    match verified with
      | .bool true => []
      | _ => [cp "LOCAL_RECONSTRUCTION_UNVERIFIED"])

/-- `boundary_errors` -/
def boundaryErrors (lib : Library) (p : Packets) : Except Fault (List PyStr) := do
  let uplink ← validateNoUplinkPlaintext lib p.capabilityPull false
  let protocol ← get p.capabilityPull "return_protocol"
  let coordinate ← getOr p.scenarioTranslation "d3_coordinate" (obj [])
  let node ← get coordinate "node_ref"
  pure (uplink.errors ++ (if pyEq protocol (lit pullProtocol) then [] else [cp "NOT_PULL_PACKET_ONLY"]) ++
    if pyEq node (lit "taiji01") then [] else [cp "LOCAL_NODE_BOUNDARY_VIOLATION"])

/-- `isinstance(ttl, int) and ttl > 0` -/
def ttlValid : PyVal → Bool
  | .bool b => b
  | .int n => 0 < n
  | _ => false

/-- `envelope_errors` -/
def envelopeErrors (lib : Library) (p : Packets) : Except Fault (List PyStr) := do
  let envelope ← getOr p.scenarioTranslation "d8_envelope" (obj [])
  let protocol ← get envelope "protocol"
  let ttl ← get envelope "ttl_seconds"
  let nonce ← getOr envelope "nonce" (lit "")
  let sha ← get envelope "sha256"
  let digest ← packetContentSha256 p.scenarioTranslation
  let verifier ← get envelope "verifier_ref"
  pure ((if pyEq protocol (lit packetProtocol) then [] else [cp "PACKET_PROTOCOL_MISSING"]) ++
    (if ttlValid ttl then [] else [cp "TTL_INVALID"]) ++
    (if (str lib nonce).length < 8 then [cp "NONCE_INVALID"] else []) ++
    (if pyEq sha (.str digest) then [] else [cp "ENVELOPE_SHA256_MISMATCH"]) ++
    if verifier.truthy then [] else [cp "VERIFIER_MISSING"])

/-- The name of a layer, its errors, and the evidence it gives when it has none. -/
structure Layer where
  name : String
  errors : List PyStr
  evidence : String

/-- `_layer` -/
def Layer.result (l : Layer) : PyVal := obj [
  ("evidence", .list (if l.errors = [] then [lit l.evidence] else l.errors.map .str)),
  ("layer", lit l.name),
  ("state", lit (if l.errors = [] then "PASS" else "HOLD"))]

section Audit

variable {lib : Library} {p : Packets} {table : Option PyVal}

/-- No layer finds an error. -/
structure Passes (lib : Library) (p : Packets) (table : Option PyVal) : Prop where
  schema : allSchemaErrors lib p = []
  authority : ∃ d, resolveIdentityAuthority lib p.memberEntry p.identityAuthority = .ok d ∧ d.errors = []
  routed : ∃ d, routeOf p table = .ok d ∧ routeErrors p d = .ok []
  minimal : ∃ d, validateNoUplinkPlaintext lib p.capabilityPull true = .ok d ∧ d.errors = []
  evidence : evidenceErrors p = .ok []
  reconstruction : reconstructionErrors p = .ok []
  boundary : boundaryErrors lib p = .ok []
  envelope : envelopeErrors lib p = .ok []

/-- `get` finds what is there. -/
theorem get_eq_ok {v w : PyVal} {k : String} (h : get v k = .ok w) : v.get k = w := by
  unfold get getOr at h
  cases v with
  | dict items => exact Except.ok.inj h
  | _ => cases h

end Audit

/-! ### Packets of different runs -/

/-- The bytes that are hashed. -/
def bytesOf (v : PyVal) : List UInt8 := (PyJson.write PyJson.compact v).flatMap utf8Char

/-- The hash of a value, as a field. -/
def hashOf (v : PyVal) : PyVal := .str (Sha256.hexdigest (bytesOf v))

/-- The authority of the member. -/
def sampleAuthority : PyVal := obj [
  ("authority_scope", .list [lit "association:activity:read"]),
  ("authorization_ref", lit "authorization:association-activity-0001"),
  ("consent_ref", lit "consent:member-0001-v1"),
  ("consent_state", lit "ACTIVE"),
  ("device_binding_ref", lit "device:binding-0001"),
  ("envelope_verified", .bool true),
  ("identity_ref", lit "identity:member-0001"),
  ("packet_id", lit "PKT-AUTHORITY-0001"),
  ("qualification_ref", lit "qualification:association-member-0001"),
  ("revocation_state", lit "CLEAR"),
  ("role_refs", .list [lit "role:association.member"]),
  ("scenario_ref", lit "scenario:ASSOCIATION"),
  ("schema_version", lit "W7TP-IDENTITY-AUTHORITY/1.0"),
  ("withdrawal_ref", lit "withdrawal:member-0001-current")]

/-- A translation, with the fields of its envelope. -/
def translationWith (envelope : List (String × PyVal)) : PyVal := obj [
  ("capability_ref", lit "CAP_ASSOCIATION_SERVICE_V1"),
  ("d1_intent", obj [("service_result_ref", lit "result:association.activity.list")]),
  ("d2_state", obj [
    ("consent_state", lit "ACTIVE"),
    ("identity_ref", lit "identity:member-0001"),
    ("role_refs", .list [lit "role:association.member"]),
    ("workflow_state_ref", lit "workflow:association.activity.requested")]),
  ("d3_coordinate", obj [
    ("container", lit "ASSOCIATION"),
    ("module_ref", lit "module:association.local"),
    ("node_ref", lit "taiji01"),
    ("service_field", lit "ASSOCIATION_SERVICE_FIELD"),
    ("task_ref", lit "task:association.activity.list")]),
  ("d4_evidence", obj [
    ("evidence_hashes", .list [hashOf (obj [])]),
    ("evidence_refs", .list [lit "evidence:association.contract.v1"])]),
  ("d5_execution", obj [
    ("local_action_ref", lit "action:association.activity.read"),
    ("service_contract_ref", lit "contract:association.local")]),
  ("d6_generative_transmission", obj [
    ("lookup_refs", .list [lit "lookup:association.activity.v1"]),
    ("packet_protocol", lit packetProtocol),
    ("reconstruction_conditions", .list [lit "contract_and_authority_match"]),
    ("verification_method", lit "LOCAL_EFFECT_CONTRACT_COMPARE")]),
  ("d7_risk", obj [("authority_boundary_ok", .bool true), ("hard_risks", .list [])]),
  ("d8_envelope", obj envelope),
  ("destination_field", lit "ASSOCIATION_SERVICE_FIELD"),
  ("packet_id", lit "PKT-8D-ASSOCIATION-0001"),
  ("packet_type", lit "ASSOCIATION_SERVICE_PACKET"),
  ("schema_version", lit "W7TP-SCENARIO-TRANSLATION/1.0"),
  ("selected_container", lit "ASSOCIATION")]

/-- The fields of an envelope, with the hash of the packet. -/
def envelopeWith (sha : List (String × PyVal)) : List (String × PyVal) := [
  ("authority_scope", .list [lit "association:activity:read"]),
  ("identity_ref", lit "identity:member-0001"),
  ("nonce", lit "translation-nonce-0001"),
  ("protocol", lit packetProtocol)] ++ sha ++ [
  ("ttl_seconds", .int 300),
  ("verifier_ref", lit "verifier:taiji01.total-field")]

/-- The translation. -/
def sampleTranslation : PyVal :=
  translationWith (envelopeWith [("sha256", hashOf (translationWith (envelopeWith [])))])

/-- A capability, of another service. -/
def capabilityContent : List (String × PyVal) := [
  ("capability_ref", lit "CAP_PROPERTY_SERVICE_V1"),
  ("compatibility_profile", lit packetProtocol),
  ("domain_code", lit "PROPERTY"),
  ("language_code", lit "zh-TW"),
  ("packet_type", lit "PROFESSIONAL_RULE_PACKET"),
  ("payload_refs", .list [lit "payload:property.rule.v1"]),
  ("reconstruction_spec", obj [
    ("conditions", .list [lit "local_contract_present"]),
    ("effect_contract_ref", lit "effect:property.read.v1"),
    ("mode", lit "L2_EQUIVALENT")]),
  ("schema_version", lit "W7TP-CAPABILITY/1.0"),
  ("source_refs", .list [lit "source:property.rule.reviewed.v1"]),
  ("verification_method", lit "LOCAL_EFFECT_CONTRACT_COMPARE")]

/-- A packet with its hash. -/
def withHash (content : List (String × PyVal)) : PyVal :=
  .dict (setKey (cp "sha256") (hashOf (obj content)) (fields content))

/-- The packets are as their schemas ask for. -/
def sampleLibrary : Library where
  iterErrors _ _ := []
  text _ := []
  keyText := []

theorem deterministicSha256_plain {v : PyVal} (h : PyJson.Plain Encodable v) :
    deterministicSha256 v = .ok (Sha256.hexdigest (bytesOf v)) := by
  rw [deterministicSha256, canonicalJson, PyJson.dumps, if_pos h.serialisable, ok_bind,
    encodeUtf8_ok (h.encodable_write (encodable_cp _) (encodable_cp _))]
  rfl

theorem plain_lits (l : List String) : PyJson.Plain Encodable (.list (l.map lit)) := by
  refine .list _ fun x hx => ?_
  obtain ⟨s, -, rfl⟩ := List.mem_map.1 hx
  exact PyJson.plain_lit s

theorem get_withHash {content : List (String × PyVal)} (k : String) :
    get (withHash content) k = .ok
      (if cp k = cp "sha256" then hashOf (obj content) else (getItem (fields content) (cp k)).getD .none) := by
  rw [withHash, get, getOr, getItem_setKey]
  split <;> rfl

end SecondaryCloud
