/-
**The authority packets of two schemas.**

`resolve_total_field_authority_dual_schema` accepts an authority packet when the promotions it rests on pass and
its effects are approved.  A packet of a V2 schema has to be signed; one of a V1 schema has to be the ACTIVE
object of the repository: its fields are compared with those of the object, and its hash without the schema
labels with the hash of the object.

The labels are left out of the packet only, so that an ACTIVE object that carries a label itself is met by no
packet, not even by its own copy.

The ACTIVE object, the promotions, the pinned artifacts and the signature checks are parameters.

Main definitions:

* `AuthorityDualSchema.schemaOf` — the schema of a packet, given or inferred;
* `AuthorityDualSchema.checkStageB`, `AuthorityDualSchema.checkV1` — the checks of the two kinds of schemas;
* `AuthorityDualSchema.resolveDualSchema` — the resolver.

Main results:

* `AuthorityDualSchema.checkV1_eq_ok_none_iff` — the packets a V1 schema lets pass;
* `AuthorityDualSchema.passes_iff` — when a packet of a V1 schema passes;
* `AuthorityDualSchema.binding_iff` — when this is equality with the ACTIVE object but for the labels.
-/

import Wuchang.PyEq
import Wuchang.PyFloatRead
import Wuchang.FieldPacket

set_option relaxedAutoImplicit false
set_option autoImplicit false

namespace AuthorityDualSchema

open Py TotalField

/-- An exception; only the interpreter raises any. -/
abbrev Fault := Raise Empty

/-- A JSON object. -/
structure JsonObject where
  items : Items
  json : Json (fun _ => True) (.dict items)

/-- What is outside. -/
structure Outside where
  /-- the states of the promotions, or the text of what was raised -/
  promotions : Except PyStr (PyVal × PyVal)
  /-- the ACTIVE object; without a file it is empty -/
  active : JsonObject
  /-- `str(v)` -/
  str : PyVal → PyStr
  /-- `repr(s)` -/
  repr : PyStr → PyStr
  /-- `datetime.now(timezone.utc)` in microseconds -/
  now : ℤ
  /-- `datetime.fromisoformat(s)` in microseconds, unless there is no time zone -/
  fromisoformat : PyStr → Option (Option ℤ)
  /-- `_founder_local_git_context_verified(root)` -/
  localGit : Bool
  /-- `validate_stage_b_signature`, of the separator, the id, the body and the signature, with its reason -/
  stageB : PyStr → PyStr → Items → PyStr → Except Fault (Bool × PyStr)
  /-- `verify_detached`, of the verifier, the hash and the signature -/
  detached : PyStr → PyStr → PyStr → Except Fault Bool
  /-- the grant and the promotion receipt that are pinned -/
  pinned : Except Fault (PyVal × PyVal)
  /-- `build_stage_b_signed_bytes` -/
  signedBytes : PyStr → PyStr → Items → List UInt8

/-! ### Schemas and effects -/

/-- `founder_master_schema` -/
def founderMasterSchema : PyStr := cp "w7tp.total_field.active_authority/2.0"

/-- `GIT_PUSH_SCOPE` -/
def gitPushScope : PyStr := cp "AUTHORIZE_GIT_PUSH"

/-- `valid_v1_schemas` -/
def validV1Schemas : List PyStr :=
  ["W7TP_ACTIVE_TOTAL_FIELD_AUTHORITY_V1", "w7tp.total_field.active_authority/1.0"].map cp

/-- `valid_v2_schemas` -/
def validV2Schemas : List PyStr := founderMasterSchema ::
  ["W7TP_INDEPENDENT_FOUNDER_SOVEREIGN_ROLE_PROMOTION_GRANT_V1", "W7TP_CANONICAL_TRUST_POLICY_PROMOTION_RECEIPT_V1",
    "W7TP_TOTAL_FIELD_AUTHORITY_STAGE_B_V2_3"].map cp

/-- `v1_required_keys` -/
def v1RequiredKeys : List String := ["allowed_effects", "contract_state", "formal_decision_authority",
  "formal_seal_authority", "node_id", "prohibited_effects", "state"]

/-- `schema` -/
def schemaOf (o : Outside) (packet : Items) : PyStr :=
  let given := (PyVal.dict packet).get "schema"
  let raw := if given.truthy then given else (PyVal.dict packet).get "schema_id"
  match raw with
  | .none =>
      if v1RequiredKeys.all fun k => packet.any fun p => p.1 = key k then cp "W7TP_ACTIVE_TOTAL_FIELD_AUTHORITY_V1"
      else []
  | v => strip (o.str v)

/-- The values listed under some keys. -/
def listed (keys : List String) (d : PyVal) : List PyVal :=
  keys.flatMap fun k => match d.get k with
    | .list xs => xs
    | _ => []

/-- `pkt_effects` -/
def packetEffects (packet : Items) : List PyVal :=
  listed ["allowed_effects", "effects", "authorized_effects", "authorized_effect_domains"] (.dict packet)

/-- `authorized_effect_domains` of the policy -/
def authorizedEffectDomains : List PyStr := ["G4_DUAL_ACTIVE_FIELD_RECOVERY_AND_ROUTER_ALIGNMENT",
  "FOUNDER_DUAL_ROOT_ROUTINE_DELEGATION_V11", "TOTAL_FIELD_V11_TWO_EFFECT_WHITELIST",
  "D4_SINGLE_USE_FORMAL_BROKER_RECEIPT_ISSUANCE"].map cp

/-- `approved_effects` -/
def approvedEffects (o : Outside) : List PyStr :=
  authorizedEffectDomains ++ (listed ["allowed_effects", "effects", "authorized_effects", "approved_effects"]
    (.dict o.active.items)).filterMap fun v => match v with
      | .str s => some s
      | _ => none

/-- An effect is a text and approved. -/
def isApproved (o : Outside) : PyVal → Bool
  | .str s => s ∈ approvedEffects o
  | _ => false

/-- The required effect is granted by the packet, if there is one. -/
def grantsEffect (o : Outside) (master : Bool) (effects : List PyVal) : Option PyStr → Except Fault Bool
  | none => .ok true
  | some [] => .ok true
  | some effect =>
      if effects ≠ [] ∨ master then
        if effects.all isHashable then .ok (effects.any fun v => pyEq v (.str effect))
        else .error (.builtin .typeError)
      else .ok (effect ∈ approvedEffects o)

/-! ### The answers -/

/-- An answer that holds the packet. -/
def held (state : String) (reason : PyStr) (schemaDetected : PyVal) : PyVal := obj [("authority_verified", .bool false),
  ("reason", .str reason), ("schema_detected", schemaDetected), ("state", lit state)]

/-- The answer that accepts the packet. -/
def passed (master override : Bool) (schema : PyStr) (promotions : PyVal × PyVal) : PyVal := obj [
  ("authority_precedence",
    lit (if master then "FOUNDER_SOVEREIGN_ROOT_HIGHEST" else "EXISTING_CANONICAL_POLICY")),
  ("authority_verified", .bool true), ("founder_local_git_override", .bool override),
  ("role_promotion_state", promotions.1), ("schema_detected", .str schema),
  ("state", lit "PASS_DUAL_SCHEMA_AUTHORITY_RESOLVED"), ("trust_policy_promotion_state", promotions.2)]

/-! ### V2 schemas -/

/-- `str(packet.get(k, "")).replace("Z", "+00:00")` -/
def timeText (o : Outside) (packet : Items) (k : String) : PyStr :=
  ((getItem packet (cp k)).elim [] o.str).flatMap fun c => if c = 90 then cp "+00:00" else [c]

/-- `_valid_time`: 150 days at most, and now within them. -/
def validTime (o : Outside) (packet : Items) : Bool :=
  match o.fromisoformat (timeText o packet "issued_at"), o.fromisoformat (timeText o packet "expires_at") with
  | some (some issued), some (some expires) => issued ≤ o.now && o.now ≤ expires && 0 < expires - issued &&
      expires - issued ≤ 150 * 86400000000
  | _, _ => false

/-- `operative` -/
def operative (packet : Items) : Items := packet.filter fun p =>
  p.1 ∉ ["stage_b_signature_hex", "stage_b_object_without_signature", "domain_separator", "packet_canonical_id",
    "detached_signature_artifact"].map key

/-- The signed body of a Founder-master packet does not state its operative fields. -/
def bodyDiffers (packet : Items) (effects : List PyVal) : Bool :=
  !pyEq ((PyVal.dict packet).get "stage_b_object_without_signature") (.dict (operative packet)) ||
    !pyEq ((PyVal.dict packet).get "status") (lit "PASS_AUTHORITY_ACTIVE") || effects.isEmpty ||
    effects.any fun v => match v with
      | .str s => s = []
      | _ => true

/-- `str(dsig.get(k) or "")` -/
def textOr (o : Outside) (d : PyVal) (k : String) : PyStr := if (d.get k).truthy then o.str (d.get k) else []

/-- The signature that stands beside the body, `{}` when there is none. -/
def detachedSignature (packet : Items) : PyVal :=
  let d := (PyVal.dict packet).get "detached_signature_artifact"
  if d.truthy then d else obj []

/-- The signatures of a packet with a signed body. -/
def checkSignatures (o : Outside) (packet : Items) (schema signature domain canonicalId : PyStr) (body : Items) :
    Except Fault (Option PyVal) := do
  let (valid, reason) ← o.stageB domain canonicalId body signature
  if ¬valid then pure (some (held "HOLD_STAGE_B_SIGNATURE_INVALID" reason (.str schema)))
  else
    let d := detachedSignature packet
    let verified ← if d.isDict then
        o.detached (textOr o d "verifier_ref") (textOr o d "signed_payload_sha256") (textOr o d "signature")
      else pure false
    if ¬verified then
      pure (some (held "HOLD_STAGE_B_DETACHED_SIGNATURE_INVALID"
        (cp "detached_signature_artifact failed Ed25519 verification") (.str schema)))
    else pure none

/-- The packet is pinned, or the ACTIVE object that was signed. -/
def checkPinned (o : Outside) (packet : Items) (schema domain canonicalId : PyStr) (body : Items) :
    Except Fault (Option PyVal) := do
  let (grant, receipt) ← o.pinned
  let packetSha ← canonicalSha256 (.dict packet)
  let grantSha ← canonicalSha256 grant
  let receiptSha ← canonicalSha256 receipt
  if schema = founderMasterSchema then
    if ¬pyEq (.dict packet) (.dict o.active.items) then
      pure (some (held "HOLD_FOUNDER_MASTER_ACTIVE_BINDING_MISMATCH"
        (cp "signed Founder Master envelope is not the current ACTIVE preimage") (.str schema)))
    else if ¬pyEq ((detachedSignature packet).get "signed_payload_sha256")
        (.str (Sha256.hexdigest (o.signedBytes domain canonicalId body))) then
      pure (some (held "HOLD_FOUNDER_MASTER_DETACHED_BINDING_MISMATCH"
        (cp "detached evidence does not bind the same Founder-signed Stage-B bytes") (.str schema)))
    else pure none
  else if packetSha ≠ grantSha ∧ packetSha ≠ receiptSha then
    pure (some (held "HOLD_UNPINNED_STAGE_B_RECEIPT"
      (cp "Stage-B packet does not match pinned ACTIVE Founder grant or promotion receipt") (.str schema)))
  else pure none

/-- The branch for V2 schemas: the answer that holds the packet, if there is one. -/
def checkStageB (o : Outside) (packet : Items) (schema : PyStr) : Except Fault (Option PyVal) :=
  if schema = founderMasterSchema ∧ bodyDiffers packet (packetEffects packet) then
    .ok (some (held "HOLD_FOUNDER_MASTER_SIGNED_BODY_MISMATCH"
      (cp "V2 Founder Master operative fields must exactly match the signed body") (.str schema)))
  else
    match (PyVal.dict packet).get "stage_b_signature_hex", (PyVal.dict packet).get "stage_b_object_without_signature",
      (PyVal.dict packet).get "domain_separator", (PyVal.dict packet).get "packet_canonical_id" with
    | .str signature, .dict (p :: body), .str domain, .str canonicalId =>
        if signature.length = 128 then do
          let refusal ← checkSignatures o packet schema signature domain canonicalId (p :: body)
          match refusal with
          | some answer => pure (some answer)
          | none => checkPinned o packet schema domain canonicalId (p :: body)
        else .ok (some (held "HOLD_STAGE_B_SIGNATURE_INVALID" (cp ("Stage-B packet missing valid 64-byte signature, " ++
          "domain_separator, packet_canonical_id, or non-empty body")) (.str schema)))
    | _, _, _, _ => .ok (some (held "HOLD_STAGE_B_SIGNATURE_INVALID" (cp ("Stage-B packet missing valid 64-byte " ++
        "signature, domain_separator, packet_canonical_id, or non-empty body")) (.str schema)))

/-! ### V1 schemas -/

/-- `{k: v for k, v in d.items() if k not in ("schema", "schema_id")}` -/
def withoutLabels (items : Items) : Items := eraseKey (cp "schema") (eraseKey (cp "schema_id") items)

/-- `packet.get(k)`, for a key of another object. -/
def valueAt (packet : Items) : PyKey → PyVal
  | .str k => (getItem packet k).getD .none
  | .other => .none

/-- The text of a key. -/
def keyText : PyKey → PyStr
  | .str k => k
  | .other => []

/-- The branch for V1 schemas: the answer that holds the packet, if there is one. -/
def checkV1 (o : Outside) (packet : Items) (schema : PyStr) : Except Fault (Option PyVal) :=
  match o.active.items.find? fun p => !pyEq (valueAt packet p.1) p.2 with
  | some p => .ok (some (held "HOLD_UNVERIFIED_AUTHORITY_PACKET_FIELDS"
      (cp "field " ++ o.repr (keyText p.1) ++ cp " does not match active verified authority") (.str schema)))
  | none => do
      let activeSha ← canonicalSha256 (.dict o.active.items)
      let packetSha ← canonicalSha256 (.dict (withoutLabels packet))
      if packetSha ≠ activeSha then
        pure (some (held "HOLD_UNPINNED_V1_AUTHORITY_PACKET"
          (cp "V1 packet canonical SHA-256 does not match ACTIVE_TOTAL_FIELD_AUTHORITY.json") (.str schema)))
      else pure none

/-! ### The resolver -/

/-- The checks of a packet that is there. -/
def resolvePacket (o : Outside) (promotions : PyVal × PyVal) (packet : PyVal) (requiredEffect : Option PyStr) :
    Except Fault PyVal :=
  match packet with
  | .dict items =>
      let schema := schemaOf o items
      let effects := packetEffects items
      let master : Bool := schema = founderMasterSchema
      let override := master && requiredEffect = some gitPushScope && o.localGit
      if schema ∉ validV1Schemas ++ validV2Schemas then
        .ok (held "HOLD_UNKNOWN_AUTHORITY_SCHEMA" (cp "unverified or unknown schema: " ++ o.repr schema)
          (if schema = [] then .none else .str schema))
      else if schema ∈ validV1Schemas ∧ effects = [] then
        .ok (held "HOLD_INCOMPLETE_AUTHORITY_PACKET"
          (cp "V1 authority packet missing effects/allowed_effects list") (.str schema))
      else if ¬master ∧ ¬effects.all (isApproved o) then
        .ok (held "HOLD_UNAPPROVED_AUTHORITY_EFFECT"
          (cp "packet contains unapproved effect outside verified Founder/D8 whitelist") (.str schema))
      else do
        let granted ← grantsEffect o master effects requiredEffect
        if ¬granted ∧ ¬override then
          pure (held "HOLD_REQUIRED_EFFECT_NOT_GRANTED" (cp "required_effect " ++
            o.repr (requiredEffect.getD []) ++ cp " not granted by packet") (.str schema))
        else if master ∧ ¬validTime o items then
          pure (obj [("authority_verified", .bool false),
            ("reason", lit "signed Founder directive expired or exceeds 150 days"),
            ("state", lit "HOLD_FOUNDER_MASTER_EXPIRED")])
        else do
          let refusal ← if schema ∈ validV2Schemas then checkStageB o items schema else checkV1 o items schema
          pure (refusal.getD (passed master override schema promotions))
  | _ => .ok (held "HOLD_INVALID_AUTHORITY_PACKET" (cp "packet must be a Mapping") .none)

/-- The answer without a packet. -/
def resolveActive (o : Outside) (promotions : PyVal × PyVal) (requiredEffect : Option PyStr) : PyVal :=
  if ∃ effect ∈ requiredEffect, effect ≠ [] ∧ effect ∉ approvedEffects o then
    held "HOLD_UNAPPROVED_AUTHORITY_EFFECT"
      (cp "required_effect " ++ o.repr (requiredEffect.getD []) ++ cp " not in approved_effects")
      (lit "W7TP_CANONICAL_ACTIVE_V2_3")
  else obj [("approved_effects", .list (((approvedEffects o).dedup.mergeSort fun a b => a ≤ b).map .str)),
    ("authority_verified", .bool true), ("role_promotion_state", promotions.1),
    ("schema_detected", lit "W7TP_CANONICAL_ACTIVE_V2_3"), ("state", lit "PASS_DUAL_SCHEMA_AUTHORITY_RESOLVED"),
    ("trust_policy_promotion_state", promotions.2)]

/-- `resolve_total_field_authority_dual_schema` -/
def resolveDualSchema (o : Outside) (packet : PyVal) (requiredEffect : Option PyStr) : Except Fault PyVal :=
  match o.promotions with
  | .error text => .ok (held "HOLD_AUTHORITY_RESOLVER_FAILED" text .none)
  | .ok promotions =>
      match packet with
      | .none =>
          if pyEq ((PyVal.dict o.active.items).get "schema") (.str founderMasterSchema) then
            resolvePacket o promotions (.dict o.active.items) requiredEffect
          else .ok (resolveActive o promotions requiredEffect)
      | packet => resolvePacket o promotions packet requiredEffect

/-! ### What a V1 schema lets pass -/

/-- The hashes of two values do not collide. -/
def NoCollision (v w : PyVal) : Prop :=
  hashOf v = hashOf w → PyJson.write PyJson.compact v = PyJson.write PyJson.compact w

/-- An object without the schema labels. -/
def Unlabelled (items : Items) : Prop := ∀ p ∈ items, p.1 ≠ key "schema" ∧ p.1 ≠ key "schema_id"

theorem mem_withoutLabels {items : Items} {p : PyKey × PyVal} :
    p ∈ withoutLabels items ↔ p ∈ items ∧ p.1 ≠ key "schema" ∧ p.1 ≠ key "schema_id" := by
  simp only [withoutLabels, eraseKey, List.mem_filter, decide_eq_true_eq, key]
  tauto

theorem Unlabelled.withoutLabels {items : Items} (h : Unlabelled items) : withoutLabels items = items := by
  have hschema : eraseKey (cp "schema") items = items :=
    List.filter_eq_self.2 fun p hp => decide_eq_true (h p hp).1
  have hschemaId : eraseKey (cp "schema_id") items = items :=
    List.filter_eq_self.2 fun p hp => decide_eq_true (h p hp).2
  rw [AuthorityDualSchema.withoutLabels, hschemaId, hschema]

theorem unlabelled_withoutLabels (items : Items) : Unlabelled (withoutLabels items) :=
  fun _ hp => (mem_withoutLabels.1 hp).2

theorem JsonObject.json_value (v : JsonObject) : ∀ p ∈ v.items, Json (fun _ => True) p.2 := by
  obtain ⟨items, json⟩ := v
  cases json with
  | dict _ _ _ hvalues => exact hvalues

theorem allFinite_of_json {okKey : PyStr → Prop} {v : PyVal} (h : Json okKey v) : PyJson.allFinite v = true := by
  induction h with
  | none => rfl
  | bool b => rfl
  | int n => rfl
  | float x hx => exact hx
  | str s => rfl
  | list xs _ ih => exact PyJson.allFiniteList_iff.2 ih
  | dict items _ _ _ ih => exact PyJson.allFiniteItems_iff.2 ih

theorem checkV1_eq_ok_none_iff {o : Outside} {packet : Items} {schema : PyStr} :
    checkV1 o packet schema = .ok none ↔ (∀ p ∈ o.active.items, pyEq (valueAt packet p.1) p.2 = true) ∧
      PyJson.Plain Encodable (.dict o.active.items) ∧ PyJson.Plain Encodable (.dict (withoutLabels packet)) ∧
      hashOf (.dict (withoutLabels packet)) = hashOf (.dict o.active.items) := by
  unfold checkV1
  split
  · next p hfind =>
      refine iff_of_false (by simp) fun h => ?_
      have hdiffers := List.find?_some hfind
      rw [h.1 p (List.mem_of_find?_eq_some hfind)] at hdiffers
      cases hdiffers
  · next hfind =>
      have hfields : ∀ p ∈ o.active.items, pyEq (valueAt packet p.1) p.2 = true := by
        simpa using List.find?_eq_none.1 hfind
      rw [and_iff_right hfields]
      constructor
      · intro h
        obtain ⟨activeSha, hactive, h⟩ := bind_eq_ok_iff.1 h
        obtain ⟨packetSha, hpacket, h⟩ := bind_eq_ok_iff.1 h
        have hactivePlain := canonicalSha256_isOk_iff.1 ⟨_, hactive⟩
        have hpacketPlain := canonicalSha256_isOk_iff.1 ⟨_, hpacket⟩
        obtain rfl := Except.ok.inj ((canonicalSha256_ok hactivePlain).symm.trans hactive)
        obtain rfl := Except.ok.inj ((canonicalSha256_ok hpacketPlain).symm.trans hpacket)
        refine ⟨hactivePlain, hpacketPlain, not_not.1 fun hne => ?_⟩
        rw [if_pos hne] at h
        cases pure_eq_ok_iff.1 h
      · rintro ⟨hactive, hpacket, hsame⟩
        refine bind_eq_ok_iff.2 ⟨_, canonicalSha256_ok hactive, bind_eq_ok_iff.2 ⟨_, canonicalSha256_ok hpacket, ?_⟩⟩
        rw [if_neg (not_not.2 hsame)]
        rfl

/-- **The packets that a V1 schema lets pass**: without its labels, the packet is the ACTIVE object, which has
none. -/
theorem checkV1_iff_eq {o : Outside} {packet : JsonObject} {schema : PyStr}
    (hcollision : NoCollision (.dict (withoutLabels packet.items)) (.dict o.active.items)) :
    checkV1 o packet.items schema = .ok none ↔
      withoutLabels packet.items = o.active.items ∧ PyJson.Plain Encodable (.dict o.active.items) := by
  rw [checkV1_eq_ok_none_iff]
  constructor
  · rintro ⟨-, hactive, -, hhash⟩
    have hclean : Json (fun _ => True) (.dict (withoutLabels packet.items)) := packet.json.eraseKey.eraseKey
    have hsame := PyJson.write_injective PyJson.simple_compact (PyJson.readable_of_json hclean)
      (PyJson.readable_of_json o.active.json) (hcollision hhash)
    exact ⟨PyVal.dict.inj hsame, hactive⟩
  · rintro ⟨hsame, hactive⟩
    refine ⟨fun p hp => ?_, hactive, hsame ▸ hactive, hsame ▸ rfl⟩
    have hplain : PyJson.Plain Encodable p.2 := by
      cases hactive with
      | dict _ _ hvalues => exact hvalues p hp
    have hjson : Json (fun _ => True) p.2 := o.active.json_value p hp
    obtain ⟨hmem, -⟩ := mem_withoutLabels.1 (hsame ▸ hp)
    obtain ⟨items, json⟩ := packet
    cases json with
    | dict _ hsorted hkeys _ =>
        obtain ⟨k, hk, -⟩ := hkeys p hmem
        obtain ⟨l, v⟩ := p
        obtain rfl : l = .str k := hk
        have hget : valueAt items (.str k) = v := by
          rw [valueAt, getItem_of_mem hsorted hmem, Option.getD_some]
        rw [hget]
        exact PyJson.pyEq_self hplain.serialisable (allFinite_of_json hjson)

/-! ### The resolver again -/

/-- A packet of a V1 schema with effects that are all approved. -/
structure IsV1 (o : Outside) (packet : Items) : Prop where
  schema : schemaOf o packet ∈ validV1Schemas
  listed : packetEffects packet ≠ []
  approved : ∀ v ∈ packetEffects packet, isApproved o v = true

/-- The resolver accepts a packet. -/
def Passes (o : Outside) (packet : Items) : Prop :=
  ∃ answer, resolveDualSchema o (.dict packet) none = .ok answer ∧
    answer.get "state" = lit "PASS_DUAL_SCHEMA_AUTHORITY_RESOLVED"

theorem not_mem_validV2 {schema : PyStr} (h : schema ∈ validV1Schemas) : schema ∉ validV2Schemas := by
  have hall : ∀ s ∈ validV1Schemas, s ∉ validV2Schemas := by decide +kernel
  exact hall schema h

/-- An answer that holds a packet is none that accepts it. -/
theorem state_held_ne {state : String} (reason : PyStr) (schema : PyVal)
    (h : state ≠ "PASS_DUAL_SCHEMA_AUTHORITY_RESOLVED") :
    (held state reason schema).get "state" ≠ lit "PASS_DUAL_SCHEMA_AUTHORITY_RESOLVED" := by
  simpa [held, lit, cp_inj] using h

theorem resolveDualSchema_v1 {o : Outside} {promotions : PyVal × PyVal} (hpromotions : o.promotions = .ok promotions)
    {packet : Items} (h : IsV1 o packet) : resolveDualSchema o (.dict packet) none =
      (do
        let refusal ← checkV1 o packet (schemaOf o packet)
        pure (refusal.getD (passed false false (schemaOf o packet) promotions))) := by
  have hv2 := not_mem_validV2 h.schema
  have hmaster : schemaOf o packet ≠ founderMasterSchema := fun heq => hv2 (heq ▸ List.mem_cons_self)
  have hknown : ¬schemaOf o packet ∉ validV1Schemas ++ validV2Schemas :=
    not_not.2 (List.mem_append_left _ h.schema)
  have happroved : (packetEffects packet).all (isApproved o) = true := List.all_eq_true.2 h.approved
  simp only [resolveDualSchema, hpromotions, resolvePacket]
  rw [if_neg hknown, if_neg (fun hboth => h.listed hboth.2), if_neg (fun hboth => hboth.2 happroved)]
  simp [hmaster, hv2, grantsEffect]

/-- **When a packet of a V1 schema passes.** -/
theorem passes_iff {o : Outside} {promotions : PyVal × PyVal} (hpromotions : o.promotions = .ok promotions)
    {packet : Items} (h : IsV1 o packet) : Passes o packet ↔ checkV1 o packet (schemaOf o packet) = .ok none := by
  rw [Passes, resolveDualSchema_v1 hpromotions h]
  constructor
  · rintro ⟨answer, hanswer, hstate⟩
    obtain ⟨refusal, hrefusal, hanswer⟩ := bind_eq_ok_iff.1 hanswer
    cases refusal with
    | none => exact hrefusal
    | some held =>
        obtain rfl := pure_eq_ok_iff.1 hanswer
        exfalso
        revert hrefusal
        unfold checkV1
        split
        · intro heq
          obtain rfl := Option.some.inj (Except.ok.inj heq)
          exact state_held_ne _ _ (by decide) hstate
        · intro heq
          obtain ⟨activeSha, -, heq⟩ := bind_eq_ok_iff.1 heq
          obtain ⟨packetSha, -, heq⟩ := bind_eq_ok_iff.1 heq
          split_ifs at heq
          · obtain rfl := Option.some.inj (pure_eq_ok_iff.1 heq)
            exact state_held_ne _ _ (by decide) hstate
          · cases pure_eq_ok_iff.1 heq
  · intro hnone
    exact ⟨_, bind_eq_ok_iff.2 ⟨none, hnone, rfl⟩, by simp [passed]⟩

/-- **When acceptance is equality with the ACTIVE object but for the labels.** -/
theorem binding_iff {o : Outside} {promotions : PyVal × PyVal} (hpromotions : o.promotions = .ok promotions)
    {packet : JsonObject} (h : IsV1 o packet.items)
    (hcollision : NoCollision (.dict (withoutLabels packet.items)) (.dict o.active.items)) :
    (Passes o packet.items ↔ withoutLabels packet.items = withoutLabels o.active.items) ↔
      withoutLabels packet.items ≠ withoutLabels o.active.items ∨
        (Unlabelled o.active.items ∧ PyJson.Plain Encodable (.dict o.active.items)) := by
  have hpasses : Passes o packet.items ↔ withoutLabels packet.items = withoutLabels o.active.items ∧
      Unlabelled o.active.items ∧ PyJson.Plain Encodable (.dict o.active.items) := by
    rw [passes_iff hpromotions h, checkV1_iff_eq hcollision]
    constructor
    · rintro ⟨hsame, hplain⟩
      have hunlabelled : Unlabelled o.active.items := hsame ▸ unlabelled_withoutLabels _
      exact ⟨hsame.trans hunlabelled.withoutLabels.symm, hunlabelled, hplain⟩
    · rintro ⟨hsame, hunlabelled, hplain⟩
      exact ⟨hsame.trans hunlabelled.withoutLabels, hplain⟩
  rw [hpasses]
  tauto

/-! ### Samples -/

/-- A list of effects, with a label. -/
def sampleLabelled : List (String × PyVal) :=
  [("effects", .list [lit "A"]), ("schema", lit "w7tp.total_field.active_authority/1.0")]

/-- The fields of a list of effects that has no label. -/
def sampleFields : List (String × PyVal) := [("effects", .list [lit "A"])]

theorem json_effects : Json (fun _ => True) (.list [lit "A"]) := by
  refine .list _ fun x hx => ?_
  obtain rfl := List.mem_singleton.1 hx
  exact .str _

/-- The object with the label. -/
def sampleObject : JsonObject where
  items := fields sampleLabelled
  json := by
    refine Json.obj ["effects", "schema"] rfl (by decide) (by simp) ?_
    simp only [sampleLabelled, List.forall_mem_cons, List.not_mem_nil, false_implies, implies_true, and_true]
    exact ⟨json_effects, .str _⟩

/-- The object without a label. -/
def sampleActive : JsonObject where
  items := fields sampleFields
  json := by
    refine Json.obj ["effects"] rfl (by decide) (by simp) ?_
    simpa [sampleFields] using json_effects

/-- A repository with an ACTIVE object. -/
def sampleOutside (active : JsonObject) : Outside where
  promotions := .ok (lit "PASS", lit "PASS")
  active := active
  str v := match v with
    | .str s => s
    | _ => []
  repr s := s
  now := 0
  fromisoformat _ := none
  localGit := false
  stageB _ _ _ _ := .ok (false, [])
  detached _ _ _ := .ok false
  pinned := .ok (obj [], obj [])
  signedBytes _ _ _ := []

theorem isV1_sample {active : JsonObject} (hactive : lit "A" ∈ listed ["allowed_effects", "effects",
    "authorized_effects", "approved_effects"] (.dict active.items)) : IsV1 (sampleOutside active) sampleObject.items := by
  have hgiven : (PyVal.dict sampleObject.items).get "schema" = lit "w7tp.total_field.active_authority/1.0" := by
    change (obj sampleLabelled).get "schema" = _
    simp [sampleLabelled]
  have heffects : packetEffects sampleObject.items = [lit "A"] := by
    change listed _ (obj sampleLabelled) = _
    simp [listed, sampleLabelled]
  constructor
  · have hschema : schemaOf (sampleOutside active) sampleObject.items =
        strip (cp "w7tp.total_field.active_authority/1.0") := by
      simp only [schemaOf, hgiven]
      rfl
    rw [hschema]
    decide +kernel
  · rw [heffects]
    simp
  · intro v hv
    rw [heffects] at hv
    obtain rfl := List.mem_singleton.1 hv
    refine decide_eq_true (List.mem_append_right _ (List.mem_filterMap.2 ⟨lit "A", hactive, rfl⟩))

theorem withoutLabels_sampleObject : withoutLabels sampleObject.items = sampleActive.items := by
  change eraseKey _ (eraseKey _ (fields sampleLabelled)) = fields sampleFields
  simp [eraseKey, sampleLabelled, sampleFields, fields, key, cp_inj]

/-- An ACTIVE object with a label is not met by its own copy. -/
theorem active_copy_refused : IsV1 (sampleOutside sampleObject) sampleObject.items ∧
    ¬(Passes (sampleOutside sampleObject) sampleObject.items ↔
      withoutLabels sampleObject.items = withoutLabels (sampleOutside sampleObject).active.items) := by
  have hv1 : IsV1 (sampleOutside sampleObject) sampleObject.items := by
    refine isV1_sample ?_
    change _ ∈ listed _ (obj sampleLabelled)
    simp [listed, sampleLabelled]
  refine ⟨hv1, fun hpasses => ?_⟩
  have hpasses := hpasses.2 rfl
  obtain ⟨-, -, -, hhash⟩ := checkV1_eq_ok_none_iff.1 ((passes_iff rfl hv1).1 hpasses)
  rw [withoutLabels_sampleObject] at hhash
  have hdiffer : hashOf (obj sampleFields) ≠ hashOf (obj sampleLabelled) := by
    decide +kernel
  exact hdiffer hhash

/-- A packet with a label, and an ACTIVE object without one. -/
theorem binding_iff_sample :
    (Passes (sampleOutside sampleActive) sampleObject.items ↔
      withoutLabels sampleObject.items = withoutLabels (sampleOutside sampleActive).active.items) ↔
      withoutLabels sampleObject.items ≠ withoutLabels (sampleOutside sampleActive).active.items ∨
        (Unlabelled (sampleOutside sampleActive).active.items ∧
          PyJson.Plain Encodable (.dict (sampleOutside sampleActive).active.items)) := by
  refine @binding_iff (sampleOutside sampleActive) _ rfl sampleObject (isV1_sample ?_) fun _ => ?_
  · change _ ∈ listed _ (obj sampleFields)
    simp [listed, sampleFields]
  · rw [withoutLabels_sampleObject]
    rfl

end AuthorityDualSchema
