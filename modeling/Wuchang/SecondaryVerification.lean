/-
**The packets the secondary cloud seals.**

A reconstruction and a verification are sealed with the hash of their content, and looked at by their
schema only afterwards.  A verification that its schema refuses is rewritten and sealed again.  A
reconstruction with errors is rewritten as well, but it keeps the hash of what it was before: it gets a list
of errors, and with it a content that was never hashed.

Main definitions:

* `SecondaryCloud.produceVerificationPacket` — the verification;
* `SecondaryCloud.SelfConsistent` — a packet carries the hash of its content;
* `SecondaryCloud.sealedReconstruction` — a reconstruction when it is sealed, and the errors found before;
* `SecondaryCloud.Accepted` — a reconstruction is made without errors.

Main results:

* `SecondaryCloud.selfConsistent_of_produce` — a verification is always self-consistent;
* `SecondaryCloud.reconstructLocalState_eq` — a reconstruction is the sealed one, with its errors;
* `SecondaryCloud.selfConsistent_iff_accepted` — a reconstruction is self-consistent exactly when it is
  accepted.
-/

import Wuchang.SecondaryCloud
import Wuchang.PyJsonRead

set_option relaxedAutoImplicit false
set_option autoImplicit false

namespace SecondaryCloud

open Py

/-! ### The verification -/

def cloudMode : String := "PULL_PACKET_ONLY"

def memberUpload : String := "DENY"

def verificationLocation : String := "LOCAL_OR_TOTAL_FIELD"

/-- `v`, if `isinstance(v, int)`. -/
def intOf : PyVal → Option ℤ
  | .int n => some n
  | .bool b => some (if b then 1 else 0)
  | _ => none

/-- `list(v)` -/
def listOf : PyVal → Except Fault (List PyVal)
  | .list xs => .ok xs
  | .dict items => .ok (items.map fun p => keyVal p.1)
  | .str s => .ok (s.map fun c => .str [c])
  | _ => .error (.builtin .typeError)

/-- `round(x, 2)`, of a float that is not negative. -/
def roundTwo (x : PyFloat) : PyFloat := .ofRat false (PyFloat.roundHalfEven (x.magnitude * 100) / 100)

/-- `round((passed / total) * 100, 2)` -/
def percentage (passed total : ℤ) : PyFloat :=
  roundTwo (.ofRat false ((PyFloat.ofRat false (passed / total)).magnitude * 100))

/-- `confidence` -/
def confidenceOf (basis : PyVal) : Except Fault PyVal :=
  match basis with
  | .none => pure .none
  | basis => do
      let passed ← get basis "passed_checks"
      let total ← get basis "total_checks"
      match intOf passed, intOf total with
      | some passed, some total =>
          if 0 < total ∧ 0 ≤ passed ∧ passed ≤ total then pure (.float (percentage passed total))
          else pure .none
      | _, _ => pure .none

/-- `v is b` -/
def isBool (b : Bool) : PyVal → Bool
  | .bool c => b == c
  | _ => false

/-- `can_seal` -/
def canSeal (localReconstruction auditResult : PyVal) : Except Fault Bool := do
  let state ← get auditResult "state"
  if !pyEq state (lit "PASS") then pure false else do
  let verified ← get localReconstruction "local_verified"
  if !isBool true verified then pure false else do
  let candidate ← get localReconstruction "candidate_only"
  pure (isBool false candidate)

/-- What a verification takes from the caller: the run, the translation's fields, the references and the
layers. -/
structure Verified where
  runId : PyVal
  packetId : PyVal
  container : PyVal
  packetType : PyVal
  capabilityRef : PyVal
  evidenceRefs : List PyVal
  confidence : PyVal
  layers : List PyVal

/-- The fields of a verification that is not sealed yet. -/
def verificationItems (v : Verified) (state stage result status : String) : Items := fields [
  ("audit_layers", .list v.layers),
  ("capability_ref", v.capabilityRef),
  ("cloud_mode", lit cloudMode),
  ("confidence", v.confidence),
  ("current_stage", lit stage),
  ("evidence_refs", .list v.evidenceRefs),
  ("member_upload", lit memberUpload),
  ("packet_id", v.packetId),
  ("packet_type", v.packetType),
  ("reconstruct", lit reconstructionLocation),
  ("run_id", v.runId),
  ("seal_status", lit status),
  ("selected_container", v.container),
  ("state", lit state),
  ("verification_result", lit result),
  ("verify", lit verificationLocation)]

/-- `packet["sha256"] = packet_content_sha256(packet)` -/
def withContentSha256 (items : Items) : Except Fault Items := do
  let sha ← packetContentSha256 (.dict items)
  pure (setKey (cp "sha256") (.str sha) items)

/-- What becomes of a verification that its schema refuses. -/
def rejected (items : Items) : Items :=
  setKey (cp "seal_status") (lit "NOT_SEALED") (setKey (cp "verification_result") (lit "REJECTED")
    (setKey (cp "current_stage") (lit "HOLD") (setKey (cp "state") (lit "HOLD") items)))

/-- `produce_verification_packet` -/
def produceVerificationPacket (lib : Library) (runId translation localReconstruction auditResult
    confidenceBasis : PyVal) : Except Fault PyVal := do
  let sealable ← canSeal localReconstruction auditResult
  let confidence ← confidenceOf confidenceBasis
  let evidence ← getOr translation "d4_evidence" (obj [])
  let refs ← getOr evidence "evidence_refs" (.list [])
  let refs ← listOf refs
  let reconstructed ← get localReconstruction "packet_id"
  let packetId ← get translation "packet_id"
  let container ← get translation "selected_container"
  let packetType ← get translation "packet_type"
  let capabilityRef ← get translation "capability_ref"
  let layers ← getOr auditResult "layers" (.list [])
  let layers ← listOf layers
  let verified : Verified := {
    runId, packetId, container, packetType, capabilityRef, confidence, layers
    evidenceRefs := refs ++ [.str (cp "local-reconstruction:" ++ str lib reconstructed)] }
  let items ← withContentSha256 (if sealable
    then verificationItems verified "PASS" "SEAL" "VERIFIED" "SEALED"
    else verificationItems verified "HOLD" "HOLD" "UNVERIFIED" "NOT_SEALED")
  if schemaErrors lib "verification" (.dict items) ≠ [] then do
    let items ← withContentSha256 (rejected items)
    pure (.dict items)
  else pure (.dict items)

/-! ### Self-consistency -/

/-- A packet carries the hash of its content. -/
def SelfConsistent (packet : PyVal) : Prop :=
  ∃ sha, packetContentSha256 packet = .ok sha ∧ packet.get "sha256" = .str sha

/-- The content of a packet does not depend on the hash it carries. -/
theorem contentOf_seal (sha : PyVal) (items : Items) :
    contentOf (setKey (cp "sha256") sha items) = contentOf items := by
  rw [contentOf, contentOf, eraseKey_setKey_self]

/-- What is sealed is self-consistent. -/
theorem selfConsistent_of_seal {items sealed : Items} (h : withContentSha256 items = .ok sealed) :
    SelfConsistent (.dict sealed) := by
  obtain ⟨sha, hsha, hsealed⟩ := bind_eq_ok_iff.1 h
  cases hsealed
  refine ⟨sha, ?_, ?_⟩
  · rw [packetContentSha256, contentOf_seal]
    exact hsha
  · rw [PyVal.get, getItem_setKey, if_pos rfl]
    rfl

variable {lib : Library}

/-- A verification is self-consistent, whether its schema accepts it or not. -/
theorem selfConsistent_of_produce {runId translation reconstruction audit basis packet : PyVal}
    (h : produceVerificationPacket lib runId translation reconstruction audit basis = .ok packet) :
    SelfConsistent packet := by
  unfold produceVerificationPacket at h
  obtain ⟨sealable, -, h⟩ := bind_eq_ok_iff.1 h
  obtain ⟨confidence, -, h⟩ := bind_eq_ok_iff.1 h
  obtain ⟨evidence, -, h⟩ := bind_eq_ok_iff.1 h
  obtain ⟨refs, -, h⟩ := bind_eq_ok_iff.1 h
  obtain ⟨refs', -, h⟩ := bind_eq_ok_iff.1 h
  obtain ⟨reconstructed, -, h⟩ := bind_eq_ok_iff.1 h
  obtain ⟨packetId, -, h⟩ := bind_eq_ok_iff.1 h
  obtain ⟨container, -, h⟩ := bind_eq_ok_iff.1 h
  obtain ⟨packetType, -, h⟩ := bind_eq_ok_iff.1 h
  obtain ⟨capabilityRef, -, h⟩ := bind_eq_ok_iff.1 h
  obtain ⟨layers, -, h⟩ := bind_eq_ok_iff.1 h
  obtain ⟨layers', -, h⟩ := bind_eq_ok_iff.1 h
  obtain ⟨items, hitems, h⟩ := bind_eq_ok_iff.1 h
  split at h
  · obtain ⟨resealed, hresealed, h⟩ := bind_eq_ok_iff.1 h
    cases h
    exact selfConsistent_of_seal hresealed
  · cases h
    exact selfConsistent_of_seal hitems

/-! ### Reconstructions -/

/-- The mode of a capability, the comparison, and whether the mode allows it. -/
def comparisonOf (capability comparisonResult : PyVal) : Except Fault (PyVal × PyVal × Bool) := do
  let spec ← getOr capability "reconstruction_spec" (obj [])
  let mode ← get spec "mode"
  if !isHashable mode then .error (.builtin .typeError) else do
  let comparison := match comparisonResult with
    | .none => defaultComparison mode
    | given => given
  let allowed ← inTexts comparison (allowedComparisons mode)
  pure (mode, comparison, allowed)

/-- The errors that are found before a reconstruction is sealed. -/
def earlyErrors (lib : Library) (translation capability : PyVal) (allowed : Bool) : List PyStr :=
  schemaErrors lib "scenario_translation" translation ++ schemaErrors lib "capability" capability ++
    if allowed then [] else [cp "RECONSTRUCTION_COMPARISON_INVALID"]

/-- The fields of a reconstruction before and after its verdict. -/
def reconstructionHead (mode comparison capabilityRef effect : PyVal) : List (String × PyVal) := [
  ("candidate_only", .bool (pyEq mode (lit "L3_CANDIDATE"))),
  ("capability_ref", capabilityRef),
  ("comparison_result", comparison),
  ("effect_contract_ref", effect)]

/-- The fields after it. -/
def reconstructionTail (mode source : PyVal) (digest : PyStr) : List (String × PyVal) := [
  ("mode", mode),
  ("packet_id", .str (cp "RECON-" ++ digest.take 20)),
  ("reconstruction_location", lit reconstructionLocation),
  ("result_ref", .str (cp "local-result:" ++ digest.take 24)),
  ("schema_version", lit "W7TP-LOCAL-RECONSTRUCTION/1.0"),
  ("source_packet_id", source)]

/-- The content of a reconstruction when it is sealed. -/
def reconstructionFields (mode comparison capabilityRef effect source : PyVal) (digest : PyStr)
    (verified : Bool) : List (String × PyVal) :=
  reconstructionHead mode comparison capabilityRef effect ++ ("local_verified", .bool verified) ::
    reconstructionTail mode source digest

/-- A reconstruction when it is sealed, and the errors that were found before. -/
def sealedReconstruction (lib : Library) (translation capability comparisonResult : PyVal) :
    Except Fault (List PyStr × Items) := do
  let (mode, comparison, allowed) ← comparisonOf capability comparisonResult
  let errors := earlyErrors lib translation capability allowed
  let source ← get translation "packet_id"
  let capabilityRef ← get capability "capability_ref"
  let spec ← getOr capability "reconstruction_spec" (obj [])
  let effect ← get spec "effect_contract_ref"
  let digest ← deterministicSha256 (obj [
    ("capability_ref", capabilityRef),
    ("comparison_result", comparison),
    ("effect_contract_ref", effect),
    ("mode", mode),
    ("source_packet_id", source)])
  let verified := errors.isEmpty && !pyEq mode (lit "L3_CANDIDATE") && !pyEq comparison (lit "MISMATCH")
  let sealed ← withContentSha256
    (fields (reconstructionFields mode comparison capabilityRef effect source digest verified))
  pure (errors, sealed)

/-- A reconstruction is the sealed one, with its errors. -/
theorem reconstructLocalState_eq (translation capability comparisonResult : PyVal) :
    reconstructLocalState lib translation capability comparisonResult = (do
      let (errors, sealed) ← sealedReconstruction lib translation capability comparisonResult
      pure (withErrors (errors ++ schemaErrors lib "local_reconstruction" (.dict sealed)) sealed)) := by
  unfold reconstructLocalState sealedReconstruction comparisonOf
  cases hspec : getOr capability "reconstruction_spec" (obj []) with
  | error e => rfl
  | ok spec =>
      simp only [ok_bind]
      cases hmode : get spec "mode" with
      | error e => rfl
      | ok mode =>
          simp only [ok_bind]
          split
          · rfl
          · simp only [bind_assoc, pure_bind, withContentSha256, reconstructionFields, reconstructionHead,
              reconstructionTail, List.cons_append, List.nil_append, earlyErrors]
            rfl

/-- A reconstruction is made without errors: its packets satisfy their schemas, the mode allows the
comparison, and what is sealed satisfies its schema. -/
structure Accepted (lib : Library) (translation capability comparisonResult : PyVal) : Prop where
  translated : schemaErrors lib "scenario_translation" translation = []
  capable : schemaErrors lib "capability" capability = []
  compared : ∀ mode comparison allowed,
    comparisonOf capability comparisonResult = .ok (mode, comparison, allowed) → allowed = true
  conforming : ∀ errors sealed,
    sealedReconstruction lib translation capability comparisonResult = .ok (errors, sealed) →
      schemaErrors lib "local_reconstruction" (.dict sealed) = []

/-- The bytes that are hashed for two packets are the same if their hashes are. -/
def NoCollision (xs ys : Items) : Prop :=
  ∀ sha, packetContentSha256 (.dict xs) = .ok sha → packetContentSha256 (.dict ys) = .ok sha →
    canonicalJson (.dict (contentOf xs)) = canonicalJson (.dict (contentOf ys))

/-- The parts of a sealed reconstruction. -/
theorem of_sealedReconstruction {translation capability comparisonResult : PyVal} {errors : List PyStr}
    {sealed : Items}
    (h : sealedReconstruction lib translation capability comparisonResult = .ok (errors, sealed)) :
    ∃ mode comparison allowed capabilityRef effect source digest verified sha,
      comparisonOf capability comparisonResult = .ok (mode, comparison, allowed) ∧
      errors = earlyErrors lib translation capability allowed ∧
      packetContentSha256 (obj (reconstructionFields mode comparison capabilityRef effect source digest
        verified)) = .ok sha ∧
      sealed = setKey (cp "sha256") (.str sha) (fields (reconstructionFields mode comparison capabilityRef
        effect source digest verified)) := by
  unfold sealedReconstruction at h
  obtain ⟨⟨mode, comparison, allowed⟩, hcomparison, h⟩ := bind_eq_ok_iff.1 h
  obtain ⟨source, -, h⟩ := bind_eq_ok_iff.1 h
  obtain ⟨capabilityRef, -, h⟩ := bind_eq_ok_iff.1 h
  obtain ⟨spec, -, h⟩ := bind_eq_ok_iff.1 h
  obtain ⟨effect, -, h⟩ := bind_eq_ok_iff.1 h
  obtain ⟨digest, -, h⟩ := bind_eq_ok_iff.1 h
  obtain ⟨items, hitems, h⟩ := bind_eq_ok_iff.1 h
  obtain ⟨sha, hsha, hsealed⟩ := bind_eq_ok_iff.1 hitems
  cases h
  cases hsealed
  exact ⟨mode, comparison, allowed, capabilityRef, effect, source, digest, _, sha, hcomparison, rfl, hsha, rfl⟩

/-- What is left of a reconstruction that was sealed, and then got errors or none. -/
def refused (errors : PyVal) (sealed : Items) : Items :=
  setKey (cp "errors") errors (setKey (cp "local_verified") (.bool false) sealed)

section Contents

variable (mode comparison capabilityRef effect source sha errors : PyVal) (digest : PyStr) (verified : Bool)

/-- The content of a sealed reconstruction is what was sealed. -/
theorem contentOf_sealed :
    contentOf (setKey (cp "sha256") sha (fields (reconstructionFields mode comparison capabilityRef effect
      source digest verified))) =
      fields (reconstructionHead mode comparison capabilityRef effect) ++
        (key "local_verified", .bool verified) :: fields (reconstructionTail mode source digest) := by
  rw [contentOf_seal]
  simp +decide [contentOf, eraseKey, fields, getItem, reconstructionFields, reconstructionHead,
    reconstructionTail]

/-- The content of a reconstruction that got errors has their list before the verdict. -/
theorem contentOf_refused :
    contentOf (refused errors (setKey (cp "sha256") sha (fields (reconstructionFields mode comparison
      capabilityRef effect source digest verified)))) =
      fields (reconstructionHead mode comparison capabilityRef effect) ++ (key "errors", errors) ::
        (key "local_verified", .bool false) :: fields (reconstructionTail mode source digest) := by
  simp +decide [refused, contentOf, eraseKey, fields, getItem, setKey, reconstructionFields,
    reconstructionHead, reconstructionTail]

end Contents

theorem writeItems_append (st : PyJson.Style) (xs ys : Items) :
    PyJson.writeItems st (xs ++ ys) = PyJson.writeItems st xs ++ PyJson.writeItems st ys := by
  induction xs with
  | nil => rfl
  | cons p xs ih => simp [PyJson.writeItems, ih]

theorem prefix_writeItems (k : String) (v : PyVal) (items : Items) :
    (cp "," ++ quote (cp k)).flatMap utf8Char <+:
      (PyJson.writeItems PyJson.compact ((key k, v) :: items)).flatMap utf8Char := by
  simp only [PyJson.writeItems, List.append_assoc, List.flatMap_append]
  rw [← List.append_assoc]
  exact List.prefix_append _ _

/-- Dictionaries that go on differently after the same items are written differently. -/
theorem write_head_ne {head xs ys : Items} {l r : List UInt8} (hhead : head ≠ []) (hne : l ≠ r)
    (hlength : l.length = r.length)
    (hl : l <+: (PyJson.writeItems PyJson.compact xs).flatMap utf8Char)
    (hr : r <+: (PyJson.writeItems PyJson.compact ys).flatMap utf8Char) :
    (PyJson.write PyJson.compact (.dict (head ++ xs))).flatMap utf8Char ≠
      (PyJson.write PyJson.compact (.dict (head ++ ys))).flatMap utf8Char := by
  intro heq
  obtain ⟨⟨k, v⟩, head, rfl⟩ := List.exists_cons_of_ne_nil hhead
  simp only [List.cons_append, PyJson.write, writeItems_append, List.flatMap_append] at heq
  have hrest := List.append_cancel_left (List.append_cancel_left (List.append_cancel_right heq))
  rw [hrest] at hl
  exact hne ((List.prefix_of_prefix_length_le hl hr hlength.le).eq_of_length hlength)

/-- The bytes of a value whose digest is taken. -/
theorem of_deterministicSha256 {v : PyVal} {sha : PyStr} (h : deterministicSha256 v = .ok sha) :
    canonicalJson v = .ok ((PyJson.write PyJson.compact v).flatMap utf8Char) := by
  obtain ⟨bytes, hbytes, -⟩ := bind_eq_ok_iff.1 h
  rw [hbytes]
  unfold canonicalJson PyJson.dumps at hbytes
  split at hbytes
  · rw [ok_bind, encodeUtf8] at hbytes
    split at hbytes
    · cases hbytes
    · exact hbytes.symm
  · cases hbytes

/-- A reconstruction that gets errors gets a content that was not hashed. -/
theorem digest_ne_of_refused {mode comparison capabilityRef effect source errors : PyVal} {digest : PyStr}
    {verified : Bool} {sha : PyStr} {sealed : Items}
    (hsealed : sealed = setKey (cp "sha256") (.str sha) (fields (reconstructionFields mode comparison
      capabilityRef effect source digest verified)))
    (hcollision : NoCollision sealed (refused errors sealed))
    (hsha : packetContentSha256 (.dict sealed) = .ok sha) :
    packetContentSha256 (.dict (refused errors sealed)) ≠ .ok sha := by
  intro hrefused
  have heq := hcollision sha hsha hrefused
  rw [of_deterministicSha256 hsha, of_deterministicSha256 hrefused, hsealed, contentOf_sealed,
    contentOf_refused] at heq
  have hverified := prefix_writeItems "local_verified" (.bool verified)
    (fields (reconstructionTail mode source digest))
  have herrors := prefix_writeItems "errors" errors
    ((key "local_verified", .bool false) :: fields (reconstructionTail mode source digest))
  -- the two texts part after the quote of the next key
  refine write_head_ne (l := (cp ",\"l").flatMap utf8Char) (r := (cp ",\"e").flatMap utf8Char)
    (by simp [reconstructionHead, fields]) (by decide) rfl ?_ ?_ (Except.ok.inj heq)
  · exact List.IsPrefix.trans (by decide) hverified
  · exact List.IsPrefix.trans (by decide) herrors

/-- What was sealed is self-consistent with its errors exactly when there are none. -/
theorem selfConsistent_withErrors {translation capability comparisonResult : PyVal}
    {found errors : List PyStr} {sealed : Items}
    (hsealed : sealedReconstruction lib translation capability comparisonResult = .ok (found, sealed))
    (hcollision : errors ≠ [] → NoCollision sealed (refused (.list (errors.map .str)) sealed)) :
    SelfConsistent (withErrors errors sealed) ↔ errors = [] := by
  obtain ⟨mode, comparison, allowed, capabilityRef, effect, source, digest, verified, sha, -, -, hsha, heq⟩ :=
    of_sealedReconstruction hsealed
  have hself : packetContentSha256 (.dict sealed) = .ok sha := by
    rw [packetContentSha256, heq, contentOf_seal]
    exact hsha
  have hget : getItem sealed (cp "sha256") = some (.str sha) := by
    rw [heq, getItem_setKey, if_pos rfl]
  constructor
  · rintro ⟨sha', hsha', hcarried⟩
    by_contra hne
    rw [withErrors, if_neg (by simpa using hne), ← refused] at hsha' hcarried
    rw [PyVal.get, refused, getItem_setKey, if_neg (by simp [cp_inj]), getItem_setKey,
      if_neg (by simp [cp_inj]), hget] at hcarried
    cases hcarried
    exact digest_ne_of_refused heq (hcollision hne) hself hsha'
  · rintro rfl
    exact ⟨sha, hself, by rw [withErrors, List.isEmpty_nil, if_pos rfl, PyVal.get, hget]; rfl⟩

/-- A reconstruction is accepted exactly when no error is found before and after it is sealed. -/
theorem accepted_iff {translation capability comparisonResult : PyVal} {errors : List PyStr} {sealed : Items}
    (hsealed : sealedReconstruction lib translation capability comparisonResult = .ok (errors, sealed)) :
    Accepted lib translation capability comparisonResult ↔
      errors ++ schemaErrors lib "local_reconstruction" (.dict sealed) = [] := by
  obtain ⟨mode, comparison, allowed, -, -, -, -, -, -, hcomparison, herrors, -, -⟩ :=
    of_sealedReconstruction hsealed
  have hearly : errors = [] ↔ schemaErrors lib "scenario_translation" translation = [] ∧
      schemaErrors lib "capability" capability = [] ∧ allowed = true := by
    rw [herrors, earlyErrors, List.append_eq_nil_iff, List.append_eq_nil_iff, and_assoc]
    cases allowed
    · simp
    · simp
  rw [List.append_eq_nil_iff, hearly]
  constructor
  · intro h
    exact ⟨⟨h.translated, h.capable, h.compared _ _ _ hcomparison⟩, h.conforming _ _ hsealed⟩
  · rintro ⟨⟨htranslated, hcapable, hallowed⟩, hconforming⟩
    refine ⟨htranslated, hcapable, fun mode' comparison' allowed' h => ?_, fun errors' sealed' h => ?_⟩
    · rw [hcomparison] at h
      cases h
      exact hallowed
    · rw [hsealed] at h
      cases h
      exact hconforming

/-- A reconstruction is self-consistent exactly when it is accepted, and a verification always. -/
theorem selfConsistent_iff_accepted {translation capability comparisonResult packet : PyVal}
    (hrun : reconstructLocalState lib translation capability comparisonResult = .ok packet)
    (hcollision : ∀ errors sealed,
      sealedReconstruction lib translation capability comparisonResult = .ok (errors, sealed) →
        NoCollision sealed (refused (packet.get "errors") sealed)) :
    (SelfConsistent packet ↔ Accepted lib translation capability comparisonResult) ∧
      ∀ runId translation reconstruction audit basis verification,
        produceVerificationPacket lib runId translation reconstruction audit basis = .ok verification →
          SelfConsistent verification := by
  refine ⟨?_, fun _ _ _ _ _ _ hproduce => selfConsistent_of_produce hproduce⟩
  rw [reconstructLocalState_eq] at hrun
  obtain ⟨⟨errors, sealed⟩, hsealed, hpacket⟩ := bind_eq_ok_iff.1 hrun
  cases hpacket
  rw [accepted_iff hsealed]
  refine selfConsistent_withErrors hsealed fun hne => ?_
  have hget : (withErrors (errors ++ schemaErrors lib "local_reconstruction" (.dict sealed)) sealed).get
      "errors" = .list ((errors ++ schemaErrors lib "local_reconstruction" (.dict sealed)).map .str) := by
    rw [withErrors, if_neg (by simpa using hne), PyVal.get, getItem_setKey, if_pos rfl]
    rfl
  rw [← hget]
  exact hcollision _ _ hsealed

/-! ### A reconstruction that the mode does not allow -/

/-- The digest of its seed. -/
def sampleDigest : PyStr := Sha256.hexdigest (bytesOf (obj [
  ("capability_ref", lit "CAP_PROPERTY_SERVICE_V1"),
  ("comparison_result", lit "MISMATCH"),
  ("effect_contract_ref", lit "effect:property.read.v1"),
  ("mode", lit "L2_EQUIVALENT"),
  ("source_packet_id", lit "PKT-8D-ASSOCIATION-0001")]))

/-- Its fields before and after the verdict. -/
def sampleHead : List (String × PyVal) :=
  reconstructionHead (lit "L2_EQUIVALENT") (lit "MISMATCH") (lit "CAP_PROPERTY_SERVICE_V1")
    (lit "effect:property.read.v1")

def sampleTail : List (String × PyVal) :=
  reconstructionTail (lit "L2_EQUIVALENT") (lit "PKT-8D-ASSOCIATION-0001") sampleDigest

def sampleErrors : PyVal := .list [lit "RECONSTRUCTION_COMPARISON_INVALID"]

set_option maxRecDepth 8000 in
theorem digests_ne : Sha256.hexdigest (bytesOf (obj (sampleHead ++ ("local_verified", .bool false) ::
    sampleTail))) ≠ Sha256.hexdigest (bytesOf (obj (sampleHead ++ ("errors", sampleErrors) ::
      ("local_verified", .bool false) :: sampleTail))) := by
  unfold Sha256.hexdigest
  decide +kernel

/-- It when it is sealed. -/
def sampleSealed : Items :=
  setKey (cp "sha256") (hashOf (obj (sampleHead ++ ("local_verified", .bool false) :: sampleTail)))
    (fields (sampleHead ++ ("local_verified", .bool false) :: sampleTail))

theorem plain_sampleTail : ∀ p ∈ sampleTail, PyJson.Plain Encodable p.2 := by
  have hdigest : ∀ n, Encodable (sampleDigest.take n) := fun n c hc =>
    Sha256.encodable_hexdigest _ c (List.mem_of_mem_take hc)
  simp only [sampleTail, reconstructionTail, List.forall_mem_cons, List.not_mem_nil, IsEmpty.forall_iff,
    implies_true, and_true]
  exact ⟨PyJson.plain_lit _, .str _ (encodable_append.2 ⟨encodable_cp _, hdigest _⟩), PyJson.plain_lit _,
    .str _ (encodable_append.2 ⟨encodable_cp _, hdigest _⟩), PyJson.plain_lit _, PyJson.plain_lit _⟩

theorem plain_sampleHead : ∀ p ∈ sampleHead, PyJson.Plain Encodable p.2 := by
  simp only [sampleHead, reconstructionHead, List.forall_mem_cons, List.not_mem_nil, IsEmpty.forall_iff,
    implies_true, and_true]
  exact ⟨.bool _, PyJson.plain_lit _, PyJson.plain_lit _, PyJson.plain_lit _⟩

theorem contentOf_sampleSealed :
    PyVal.dict (contentOf sampleSealed) = obj (sampleHead ++ ("local_verified", .bool false) :: sampleTail) := by
  have h := contentOf_sealed (lit "L2_EQUIVALENT") (lit "MISMATCH") (lit "CAP_PROPERTY_SERVICE_V1")
    (lit "effect:property.read.v1") (lit "PKT-8D-ASSOCIATION-0001")
    (hashOf (obj (sampleHead ++ ("local_verified", .bool false) :: sampleTail))) sampleDigest false
  rw [obj, fields, List.map_append]
  exact congrArg PyVal.dict h

theorem contentOf_sampleRefused :
    PyVal.dict (contentOf (refused sampleErrors sampleSealed)) =
      obj (sampleHead ++ ("errors", sampleErrors) :: ("local_verified", .bool false) :: sampleTail) := by
  have h := contentOf_refused (lit "L2_EQUIVALENT") (lit "MISMATCH") (lit "CAP_PROPERTY_SERVICE_V1")
    (lit "effect:property.read.v1") (lit "PKT-8D-ASSOCIATION-0001")
    (hashOf (obj (sampleHead ++ ("local_verified", .bool false) :: sampleTail))) sampleErrors sampleDigest false
  rw [obj, fields, List.map_append]
  exact congrArg PyVal.dict h

theorem digest_sampleSealed : packetContentSha256 (.dict sampleSealed) = .ok (Sha256.hexdigest
    (bytesOf (obj (sampleHead ++ ("local_verified", .bool false) :: sampleTail)))) := by
  rw [packetContentSha256, contentOf_sampleSealed]
  refine deterministicSha256_plain (PyJson.plain_obj ?_)
  rw [List.forall_mem_append, List.forall_mem_cons]
  exact ⟨plain_sampleHead, .bool _, plain_sampleTail⟩

theorem digest_sampleRefused : packetContentSha256 (.dict (refused sampleErrors sampleSealed)) =
    .ok (Sha256.hexdigest (bytesOf (obj (sampleHead ++ ("errors", sampleErrors) ::
      ("local_verified", .bool false) :: sampleTail)))) := by
  rw [packetContentSha256, contentOf_sampleRefused]
  refine deterministicSha256_plain (PyJson.plain_obj ?_)
  rw [List.forall_mem_append, List.forall_mem_cons, List.forall_mem_cons]
  exact ⟨plain_sampleHead, plain_lits ["RECONSTRUCTION_COMPARISON_INVALID"], .bool _, plain_sampleTail⟩

theorem sealed_sample : sealedReconstruction sampleLibrary sampleTranslation (withHash capabilityContent)
    (lit "MISMATCH") = .ok ([cp "RECONSTRUCTION_COMPARISON_INVALID"], sampleSealed) := by
  have hspec : getOr (withHash capabilityContent) "reconstruction_spec" (obj []) = .ok (obj [
      ("conditions", .list [lit "local_contract_present"]),
      ("effect_contract_ref", lit "effect:property.read.v1"),
      ("mode", lit "L2_EQUIVALENT")]) := by
    rw [withHash, getOr, getItem_setKey, if_neg (by simp [cp_inj])]
    rfl
  have hcomparison : comparisonOf (withHash capabilityContent) (lit "MISMATCH") =
      .ok (lit "L2_EQUIVALENT", lit "MISMATCH", false) := by
    rw [comparisonOf, hspec]
    rfl
  have hcapability : get (withHash capabilityContent) "capability_ref" =
      .ok (lit "CAP_PROPERTY_SERVICE_V1") := (get_withHash _).trans rfl
  have hsource : get sampleTranslation "packet_id" = .ok (lit "PKT-8D-ASSOCIATION-0001") := rfl
  have hseed : PyJson.Plain Encodable (obj [
      ("capability_ref", lit "CAP_PROPERTY_SERVICE_V1"),
      ("comparison_result", lit "MISMATCH"),
      ("effect_contract_ref", lit "effect:property.read.v1"),
      ("mode", lit "L2_EQUIVALENT"),
      ("source_packet_id", lit "PKT-8D-ASSOCIATION-0001")]) := by
    refine PyJson.plain_obj ?_
    simp only [List.forall_mem_cons, List.not_mem_nil, IsEmpty.forall_iff, implies_true, and_true,
      PyJson.plain_lit]
  have heffect : get (obj [
      ("conditions", .list [lit "local_contract_present"]),
      ("effect_contract_ref", lit "effect:property.read.v1"),
      ("mode", lit "L2_EQUIVALENT")]) "effect_contract_ref" = .ok (lit "effect:property.read.v1") := rfl
  have hdigest : deterministicSha256 _ = .ok sampleDigest := deterministicSha256_plain hseed
  have herrors : earlyErrors sampleLibrary sampleTranslation (withHash capabilityContent) false =
      [cp "RECONSTRUCTION_COMPARISON_INVALID"] := rfl
  have hfields : reconstructionFields (lit "L2_EQUIVALENT") (lit "MISMATCH") (lit "CAP_PROPERTY_SERVICE_V1")
      (lit "effect:property.read.v1") (lit "PKT-8D-ASSOCIATION-0001") sampleDigest false =
      sampleHead ++ ("local_verified", .bool false) :: sampleTail := rfl
  have hsha : withContentSha256 (fields (sampleHead ++ ("local_verified", .bool false) :: sampleTail)) =
      .ok sampleSealed := by
    have h := digest_sampleSealed
    rw [packetContentSha256, sampleSealed, contentOf_seal] at h
    rw [withContentSha256, packetContentSha256, h]
    rfl
  rw [sealedReconstruction, hcomparison, ok_bind]
  dsimp only
  rw [hsource, ok_bind, hcapability, ok_bind, hspec, ok_bind, heffect, ok_bind, hdigest, ok_bind, herrors,
    List.isEmpty_cons, Bool.false_and, Bool.false_and, hfields, hsha]
  rfl

/-- The reconstruction with the comparison `"MISMATCH"`. -/
theorem reconstruct_sample : reconstructLocalState sampleLibrary sampleTranslation
    (withHash capabilityContent) (lit "MISMATCH") = .ok (.dict (refused sampleErrors sampleSealed)) := by
  rw [reconstructLocalState_eq, sealed_sample]
  rfl

theorem noCollision_sample : NoCollision sampleSealed (refused sampleErrors sampleSealed) := by
  intro sha hsealed hrefused
  rw [digest_sampleSealed] at hsealed
  rw [digest_sampleRefused] at hrefused
  exact absurd (Except.ok.inj (hsealed.trans hrefused.symm)) digests_ne

/-- It carries a hash that is not that of its content. -/
theorem not_selfConsistent_sample : ¬∀ packet, reconstructLocalState sampleLibrary sampleTranslation
    (withHash capabilityContent) (lit "MISMATCH") = .ok packet → SelfConsistent packet := by
  intro h
  obtain ⟨sha, hsha, hcarried⟩ := h _ reconstruct_sample
  rw [digest_sampleRefused] at hsha
  have hget : (PyVal.dict (refused sampleErrors sampleSealed)).get "sha256" =
      hashOf (obj (sampleHead ++ ("local_verified", .bool false) :: sampleTail)) := by
    rw [PyVal.get, refused, getItem_setKey, if_neg (by simp [cp_inj]), getItem_setKey,
      if_neg (by simp [cp_inj]), sampleSealed, getItem_setKey, if_pos rfl]
    rfl
  rw [hget] at hcarried
  exact digests_ne ((PyVal.str.inj hcarried).trans (Except.ok.inj hsha).symm)

/-- The theorem on this reconstruction, and on a verification of it. -/
theorem selfConsistent_sample :
    (SelfConsistent (.dict (refused sampleErrors sampleSealed)) ↔
      Accepted sampleLibrary sampleTranslation (withHash capabilityContent) (lit "MISMATCH")) ∧
      ∀ runId translation reconstruction audit basis verification,
        produceVerificationPacket sampleLibrary runId translation reconstruction audit basis =
          .ok verification → SelfConsistent verification := by
  refine selfConsistent_iff_accepted reconstruct_sample fun errors sealed hsealed => ?_
  rw [sealed_sample] at hsealed
  cases hsealed
  have hget : (PyVal.dict (refused sampleErrors sampleSealed)).get "errors" = sampleErrors := by
    rw [PyVal.get, refused, getItem_setKey, if_pos rfl]
    rfl
  rw [hget]
  exact noCollision_sample

end SecondaryCloud
