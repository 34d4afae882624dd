/-
**Source exports of model accounts.**

`build_source_preserving_model_orchestration_packet` asks for exports of model accounts, or merges up to eight of
them: statements of the user are filed under the digest of their claim, skills under the digest of their name and
their coordinate, and every source is kept.  Texts are redacted and cut to a bound; some short fields and the keys
of objects are only cut.

A JSON object is kept sorted by its keys; `Setting.ordered` gives the order in which its items came.  The patterns
for secrets, and what is used of texts outside ASCII, are parameters.

Main definitions:

* `ModelSources.sanitizeString`, `ModelSources.sanitizeValue` — redacted texts and values;
* `ModelSources.takeStatement`, `ModelSources.takeSkill`, `ModelSources.takeExport` — the merge;
* `ModelSources.mergeExports` — the merge of all exports;
* `ModelSources.buildPacket` — the packet.
-/

import Wuchang.ProgressProjection
import Wuchang.PyCase
import Wuchang.PyRegex
import Wuchang.Grouping

set_option relaxedAutoImplicit false
set_option autoImplicit false

namespace ModelSources

open Py TotalField
open ProgressProjection (Fault invalid requireNonEmptyString elementsOr)

/-- What is used of the interpreter. -/
structure Setting where
  /-- `str(v)` -/
  str : PyVal → PyStr
  /-- `s.upper()` -/
  upper : PyStr → PyStr
  /-- `\w` -/
  isWord : ℕ → Bool
  /-- the items of a dictionary in the order of their insertion -/
  ordered : Items → Items
  /-- `_contains_sensitive_value` -/
  containsSensitive : PyStr → Bool
  /-- `utc_now()` -/
  utcNow : PyStr

/-! ### Redaction -/

/-- A letter as `re.IGNORECASE` compares it: besides those of ASCII there are `İ`, `ı`, `ſ` and the Kelvin sign. -/
def fold (c : ℕ) : ℕ :=
  if 65 ≤ c ∧ c ≤ 90 then c + 32
  else if c = 0x130 ∨ c = 0x131 then 105
  else if c = 0x17F then 115
  else if c = 0x212A then 107
  else c

/-- Characters that `re.IGNORECASE` does not tell apart. -/
def same (c d : ℕ) : Bool := fold c = fold d

/-- `[A-Z]` -/
def isLetter (c : ℕ) : Bool := 97 ≤ fold c && fold c ≤ 122

/-- `[0-9]` -/
def isDigit (c : ℕ) : Bool := 48 ≤ c && c ≤ 57

/-- `[A-Z0-9._%+-]` -/
def isLocal (c : ℕ) : Bool := isLetter c || isDigit c || c ∈ cp "._%+-"

/-- `[A-Z0-9.-]` -/
def isDomain (c : ℕ) : Bool := isLetter c || isDigit c || c ∈ cp ".-"

/-- `\b[A-Z0-9._%+-]+@[A-Z0-9.-]+\.[A-Z]{2,}\b` -/
def emailPattern : Regex.Pattern :=
  [[.bound, .many isLocal 1, .char (same 64), .many isDomain 1, .char (same 46), .many isLetter 2, .bound]]

/-- `CHIANG Cheng-Lung|江政隆` -/
def personPattern : Regex.Pattern := [Regex.literal same "CHIANG Cheng-Lung", Regex.literal same "江政隆"]

/-- `(https?://[^\s?#]+)\?[^\s#]+` -/
def queryPattern : Regex.Pattern := [Regex.literal same "http" ++ [.opt (same 115)] ++ Regex.literal same "://" ++
  [.many (fun c => !isSpace c && c ≠ 63 && c ≠ 35) 1, .char (same 63), .many (fun c => !isSpace c && c ≠ 35) 1]]

/-- A text has a match of `PERSONAL_DATA_PATTERNS`. -/
def hasPersonalData (setting : Setting) (s : PyStr) : Bool :=
  Regex.search setting.isWord emailPattern s || Regex.search setting.isWord personPattern s

/-- `_redact_personal_data` -/
def redactPersonalData (setting : Setting) (s : PyStr) : PyStr :=
  Regex.sub setting.isWord personPattern (fun _ => cp "[REDACTED_PERSON]")
    (Regex.sub setting.isWord emailPattern (fun _ => cp "[REDACTED_EMAIL]") s)

/-- `_sanitize_model_source_string`; the first group of a match ends before its question mark. -/
def sanitizeString (setting : Setting) (s : PyStr) : PyStr :=
  Regex.sub setting.isWord queryPattern (fun found => found.takeWhile (· ≠ 63) ++ cp "?[REDACTED_QUERY]")
    (redactPersonalData setting s)

/-- `str(key)` -/
def keyText (setting : Setting) : PyKey → PyStr
  | .str s => s
  | .other => setting.str .other

/-- `_sanitize_model_source_value`, for so many levels that are left. -/
def sanitizeValue (setting : Setting) : ℕ → PyVal → PyVal
  | 0, _ => lit "[DEPTH_LIMIT]"
  | levels + 1, v =>
      match v with
      | .str s => .str ((sanitizeString setting s).take 4000)
      | .none => .none
      | .bool b => .bool b
      | .int n => .int n
      | .float x => .float x
      | .list xs => .list ((xs.take 128).map (sanitizeValue setting levels))
      | .dict items => .dict (((setting.ordered items).take 128).foldl (fun out p =>
          setKey ((keyText setting p.1).take 160) (sanitizeValue setting levels p.2) out) [])
      | .other => .str ((sanitizeString setting (setting.str .other)).take 1000)

/-- `str(d.get(k) or default)` -/
def textOr (setting : Setting) (d : PyVal) (k default : String) : PyStr :=
  if (d.get k).truthy then setting.str (d.get k) else cp default

/-- `str(coordinate)` -/
def accountText (setting : Setting) (sourceExport : PyVal) : PyStr :=
  let account := sourceExport.get "source_account"
  setting.str (match account with
    | .dict _ =>
        if (account.get "source_account_coordinate").truthy then account.get "source_account_coordinate"
        else if (account.get "account_identity").truthy then account.get "account_identity"
        else lit "UNKNOWN"
    | .str s => .str s
    | _ => lit "UNKNOWN")

/-- `_model_source_account_coordinate` -/
def accountCoordinate (setting : Setting) (sourceExport : PyVal) : PyStr :=
  (sanitizeString setting (accountText setting sourceExport)).take 240

/-! ### Statements -/

/-- The number of elements of a list. -/
def lengthOf : PyVal → ℕ
  | .list xs => xs.length
  | _ => 0

/-- `str(d.get(k, ""))` -/
def textAt (setting : Setting) (d : PyVal) (k : String) : PyStr :=
  match d with
  | .dict items => (getItem items (cp k)).elim [] setting.str
  | _ => []

/-- The verbatim text of a statement that is kept: one of the user or the founder that is not blank. -/
def verbatimOf (setting : Setting) (statement : PyVal) : Option PyStr :=
  if statement.isDict ∧ setting.upper (textAt setting statement "speaker") ∈ ["USER", "FOUNDER"].map cp then
    match statement.get "verbatim_user_statement" with
    | .str verbatim => if strip verbatim = [] then none else some verbatim
    | _ => none
  else none

/-- `normalized_claim`, before it is redacted. -/
def claimOf (statement : PyVal) (verbatim : PyStr) : PyStr :=
  match statement.get "normalized_claim" with
  | .str claim => if strip claim = [] then strip (List.intercalate [32] (splitWords verbatim)) else strip claim
  | _ => strip (List.intercalate [32] (splitWords verbatim))

/-- `superseded_by` -/
def supersededBy (setting : Setting) (statement : PyVal) : PyVal :=
  let s := (sanitizeString setting (textOr setting statement "superseded_by" "")).take 1000
  if s = [] then .none else .str s

/-- The source of a statement. -/
def statementSource (setting : Setting) (ordinal : ℕ) (coordinate : PyStr) (statement : PyVal) (verbatim : PyStr) :
    PyVal := obj [("source_account_coordinate", .str coordinate), ("source_ordinal", .int ordinal),
  ("source_status", .str ((textOr setting statement "status" "UNKNOWN").take 40)),
  ("superseded_by", supersededBy setting statement),
  ("thread_id_or_url", .str ((sanitizeString setting (textOr setting statement "thread_id_or_url" "UNKNOWN")).take 512)),
  ("thread_title", .str ((sanitizeString setting (textOr setting statement "thread_title" "UNKNOWN")).take 240)),
  ("timestamp", .str ((textOr setting statement "timestamp" "UNKNOWN").take 80)),
  ("verbatim_user_statement", .str ((sanitizeString setting (strip verbatim)).take 4000))]

/-! ### Skills -/

/-- `MODEL_SOURCE_SKILL_FIELDS` without the name, in order. -/
def contractFields : List String := ["acceptance_conditions", "artifact_or_exact_coordinate", "authority_boundary",
  "example_cases", "failure_modes", "inputs", "observed_status", "outputs", "side_effects", "tool_binding", "trigger"]

/-- `isinstance(skill, Mapping) and MODEL_SOURCE_SKILL_FIELDS.issubset(skill)` -/
def isComplete : PyVal → Bool
  | .dict items => ("skill_or_capability_name" :: contractFields).all fun k => items.any fun p => p.1 = key k
  | _ => false

/-- The name of a skill, redacted. -/
def skillName (setting : Setting) (skill : PyVal) : PyStr :=
  sanitizeString setting (setting.str (skill.get "skill_or_capability_name"))

/-- The coordinate of a skill, redacted. -/
def skillCoordinate (setting : Setting) (skill : PyVal) : PyStr :=
  sanitizeString setting (setting.str (skill.get "artifact_or_exact_coordinate"))

/-- The source of a skill. -/
def skillSource (setting : Setting) (ordinal : ℕ) (coordinate : PyStr) (skill : PyVal) : PyVal := obj [
  ("capability_contract", obj (contractFields.map fun k => (k, sanitizeValue setting 7 (skill.get k)))),
  ("source_account_coordinate", .str coordinate),
  ("source_observed_status", .str ((textOr setting skill "observed_status" "UNKNOWN").take 80)),
  ("source_ordinal", .int ordinal)]

/-! ### The merge -/

/-- The claims that were filed, with their texts. -/
abbrev ClaimGroup := Grouping.Group PyStr PyStr PyVal

/-- The skills that were filed, with their names and coordinates. -/
abbrev SkillGroup := Grouping.Group PyStr (PyStr × PyStr) PyVal

/-- What was merged. -/
structure Merge where
  bindings : List PyVal
  claims : List ClaimGroup
  skills : List SkillGroup
  conflicts : List PyVal
  threads : ℕ
  limitations : ℕ
  statements : ℕ
  skippedStatements : ℕ
  skippedSkills : ℕ

/-- Nothing. -/
def Merge.empty : Merge := ⟨[], [], [], [], 0, 0, 0, 0, 0⟩

/-- A step of the loop over the statements. -/
def takeStatement (setting : Setting) (ordinal : ℕ) (coordinate : PyStr) (m : Merge) (statement : PyVal) :
    Except Fault Merge := do
  raiseIf (2000 ≤ m.statements) (invalid "MODEL_SOURCE_STATEMENT_LIMIT_EXCEEDED")
  match verbatimOf setting statement with
  | none =>
      pure { m with
        statements := m.statements + 1
        skippedStatements := m.skippedStatements + 1 }
  | some verbatim => do
      let claim := (sanitizeString setting (claimOf statement verbatim)).take 4000
      let bytes ← encodeUtf8 claim
      pure { m with
        statements := m.statements + 1
        claims := Grouping.file ⟨Sha256.hexdigest bytes, claim,
          statementSource setting ordinal coordinate statement verbatim⟩ m.claims }

/-- A step of the loop over the skills. -/
def takeSkill (setting : Setting) (ordinal : ℕ) (coordinate : PyStr) (m : Merge) (skill : PyVal) :
    Except Fault Merge := do
  raiseIf (256 ≤ m.skills.length) (invalid "MODEL_SOURCE_SKILL_LIMIT_EXCEEDED")
  if ¬isComplete skill then pure { m with skippedSkills := m.skippedSkills + 1 }
  else do
    let name := (skillName setting skill).take 240
    let artifact := (skillCoordinate setting skill).take 512
    let bytes ← encodeUtf8 (name ++ 0 :: artifact)
    pure { m with
      skills := Grouping.file ⟨Sha256.hexdigest bytes, (name, artifact),
        skillSource setting ordinal coordinate skill⟩ m.skills }

/-- `MODEL_SOURCE_REQUIRED_AUTHORITY_BOUNDARY`, in order. -/
def requiredAuthorityBoundary : List String := ["AI_IS_NOT_AUTHORITY", "CANDIDATE_IS_NOT_CANONICAL",
  "CHAT_MEMORY_IS_D4_EVIDENCE_ONLY", "NO_EXTERNAL_EFFECT", "SOURCE_ACCOUNT_REMAINS_SEPARATE",
  "TOTAL_FIELD_REOBSERVATION_REQUIRED"]

/-- `missing_boundary` -/
def missingBoundary (boundary : List PyVal) : List String := requiredAuthorityBoundary.filter fun required =>
  !boundary.any fun v => match v with
    | .str s => strip s = cp required
    | _ => false

/-- `declared_digest_state` and `recomputed_declared_preimage_sha256` -/
def checkDigest (items : Items) : Except Fault (String × PyVal) :=
  match (PyVal.dict items).get "source_digest" with
  | .dict declared =>
      match (PyVal.dict declared).get "value" with
      | .str value => do
          let recomputed ← canonicalSha256 (.dict (eraseKey (cp "source_digest") items))
          pure (if recomputed = value then "MATCH" else "CONFLICT", .str recomputed)
      | _ => .ok ("NOT_PROVIDED", .none)
  | _ => .ok ("NOT_PROVIDED", .none)

/-- A binding of an export. -/
def binding (setting : Setting) (ordinal : ℕ) (coordinate objectSha256 : PyStr) (digest : String × PyVal)
    (sourceExport : PyVal) : PyVal := obj [
  ("access_limitation_count", .int (lengthOf (sourceExport.get "access_limitations"))),
  ("declared_digest_state", lit digest.1),
  ("export_id", .str ((sanitizeString setting (textOr setting sourceExport "export_id" "UNKNOWN")).take 240)),
  ("may_define_current_founder_intent", .bool false), ("recomputed_declared_preimage_sha256", digest.2),
  ("schema_version", .str ((textOr setting sourceExport "schema_version" "UNKNOWN").take 40)),
  ("source_account_coordinate", .str coordinate), ("source_account_identity_merge", .bool false),
  ("source_object_sha256", .str objectSha256), ("source_ordinal", .int ordinal),
  ("source_thread_count", .int (lengthOf (sourceExport.get "source_threads")))]

/-- The elements of a field that has to be a list, and whether it is. -/
def listField (sourceExport : PyVal) (k : String) : List PyVal × Bool :=
  match sourceExport.get k with
  | .list xs => (xs, true)
  | v => ([], !v.truthy)

/-- A conflict that the code finds. -/
def shapeConflict (ordinal : ℕ) (type : String) : PyVal :=
  obj [("source_ordinal", .int ordinal), ("type", lit type)]

/-- `str(d.get("id") or d.get("topic") or d.get("subject") or "UNKNOWN")` -/
def conflictRef (setting : Setting) (imported : PyVal) : PyStr :=
  if (imported.get "id").truthy then setting.str (imported.get "id")
  else if (imported.get "topic").truthy then setting.str (imported.get "topic")
  else textOr setting imported "subject" "UNKNOWN"

/-- The conflicts that an export reports. -/
def reportedConflicts (setting : Setting) (ordinal : ℕ) (sourceExport : PyVal) : List PyVal :=
  (((listField sourceExport "conflicts").1.take 256).filter PyVal.isDict).map fun imported => obj [
    ("conflict_ref", .str ((sanitizeString setting (conflictRef setting imported)).take 240)),
    ("source_ordinal", .int ordinal), ("type", lit "SOURCE_REPORTED_CONFLICT")]

/-- The conflicts that are found before the statements. -/
def boundaryConflicts (ordinal : ℕ) (objectSha256 : PyStr) (missing : List String) (digest : String × PyVal) :
    List PyVal :=
  (if missing = [] then [] else [obj [("missing", .list (missing.map lit)), ("source_ordinal", .int ordinal),
    ("type", lit "AUTHORITY_BOUNDARY_INCOMPLETE")]]) ++
  (if digest.1 = "CONFLICT" then [obj [("recomputed_declared_preimage_sha256", digest.2),
    ("source_object_sha256", .str objectSha256), ("source_ordinal", .int ordinal),
    ("type", lit "SOURCE_DECLARED_DIGEST_MISMATCH")]] else [])

/-- A step of the loop over the exports. -/
def takeExport (setting : Setting) (m : Merge) (numbered : PyVal × ℕ) : Except Fault Merge :=
  match numbered with
  | (.dict items, ordinal) => do
      let sourceExport := PyVal.dict items
      let objectSha256 ← canonicalSha256 sourceExport
      let coordinate := accountCoordinate setting sourceExport
      let boundary ← elementsOr (sourceExport.get "authority_boundary")
      let digest ← checkDigest items
      let statements := listField sourceExport "founder_statements"
      let skills := listField sourceExport "skills_and_capabilities"
      let opened := { m with
        bindings := m.bindings ++ [binding setting ordinal coordinate objectSha256 digest sourceExport]
        conflicts := m.conflicts ++ boundaryConflicts ordinal objectSha256 (missingBoundary boundary) digest ++
          (if statements.2 then [] else [shapeConflict ordinal "FOUNDER_STATEMENTS_SHAPE_INVALID"])
        threads := m.threads + lengthOf (sourceExport.get "source_threads")
        limitations := m.limitations + lengthOf (sourceExport.get "access_limitations") }
      let stated ← statements.1.foldlM (takeStatement setting ordinal coordinate) opened
      let skilled ← skills.1.foldlM (takeSkill setting ordinal coordinate) { stated with
        conflicts := stated.conflicts ++
          (if skills.2 then [] else [shapeConflict ordinal "SKILLS_AND_CAPABILITIES_SHAPE_INVALID"]) }
      pure { skilled with conflicts := skilled.conflicts ++ reportedConflicts setting ordinal sourceExport }
  | _ => .error (.builtin .typeError)

/-- The loop over the exports. -/
def mergeExports (setting : Setting) (exports : List PyVal) : Except Fault Merge :=
  (exports.zipIdx 1).foldlM (takeExport setting) Merge.empty

/-! ### The packet -/

/-- `_model_source_collection_prompt` -/
def collectionPrompt (taskScope : PyStr) : PyStr :=
  (["你現在只做創辦人意圖來源整理，不設計新架構、不修改記憶、GPT、設定、檔案或外部系統。\n",
  "只收集與此範圍直接相關的內容："].flatMap cp) ++ taskScope ++
  ["\n",
  "只接受可見的 USER／FOUNDER 原句；AI 回答、AI 推測、帳號記憶摘要與舊候選只能標為 ",
  "D4。",
  "每筆保留來源帳號座標、對話標題、thread ID 或 URL、時間、speaker、原句、正規化主",
  "張、",
  "OBSERVED／RECONSTRUCTED／INFERRED／CONFLICT／UNKNOWN、s",
  "uperseded_by、provenance 與 confidence_basis。\n",
  "固定 D1 意圖、D2 狀態、D3 座標、D4 證據、D5 執行／政策、D6 生成式傳輸、D7 風險",
  "／隔離、",
  "D8 封套／權威；Identity／Seat 是完整封套前置條件，不是 D1。\n",
  "D6 只接受 TARGET_BASE_STATE + MINIMUM_REQUIRED_DELTA ",
  "+ REFERENCES + COORDINATES + ",
  "RECONSTRUCTION_RULES + VERIFICATION_RULES，接收端依共同已准",
  "入基座確定性重建同一目標狀態。",
  "Prompt、一般上下文、SSH、Git、VPN、同步、壓縮、檔案複製與雲端推理不是 D6。\n",
  "技能必須列出實體座標、trigger、inputs、outputs、tool_binding、sid",
  "e_effects、failure_modes、",
  "acceptance_conditions、example_cases、context refere",
  "nces 與 authority boundary；模型自述能力標為 UNKNOWN。\n",
  "不得用多數決、語意平均或相似度製造真理；衝突並存，被最新使用者原話取代者明列 superseded_",
  "by。",
  "不得輸出秘密、權杖、金鑰、Cookie、授權碼或會員明文。若完整歷史不可讀，精確列出 access_",
  "limitations。\n",
  "輸出單一可解析 UTF-8 JSON，包含 schema_version、export_id、sou",
  "rce_account、export_scope、",
  "access_limitations、source_threads、founder_statemen",
  "ts、supersession_chain、eight_d_claims、",
  "skills_and_capabilities、conflicts、legacy_contamina",
  "tion_rejected、unknowns、authority_boundary 與 source",
  "_digest。"].flatMap cp

/-- The arguments of the builder. -/
structure Arguments where
  mode : PyVal
  taskScope : PyVal
  currentFounderIntentRef : PyVal
  sourceAccountCoordinate : PyVal
  /-- the elements of a collection that is no text and no mapping -/
  sourceExports : Option (List PyVal)
  generatedAt : Option PyStr

/-- `schema_id` -/
def schemaId : PyVal := lit "W7TP_8DADI_MODEL_SOURCE_ORCHESTRATION_V1"

/-- The packet that asks for an export. -/
def requestPacket (mode scope intentRef coordinate timestamp : PyStr) : List (String × PyVal) := [
  ("D1_INTENT", obj [("founder_intent_ref", .str intentRef), ("task_scope", .str scope)]),
  ("D2_STATE", obj [("external_result", lit "NOT_YET_RECEIVED"), ("source_request", lit "READY")]),
  ("D3_COORDINATE", obj [("source_account_coordinate", .str coordinate),
    ("source_account_identity_merge", .bool false)]),
  ("D4_EVIDENCE", obj [("prompt_zh_TW", .str (collectionPrompt scope)),
    ("returned_export_requires_local_validation", .bool true)]),
  ("D5_EXECUTION_POLICY", obj [("account_authentication_remains_with_account_holder", .bool true),
    ("carrier_availability_requires_runtime_reobservation", .bool true),
    ("carrier_options", .list [lit "AUTHORIZED_BROWSER_AUTOMATION", lit "USER_MEDIATED_EXPORT_FILE"]),
    ("side_effect_class", lit "NONE")]),
  ("D6_GENERATIVE_TRANSMISSION", obj [("carrier_may_not_define_d6", .bool true),
    ("classification", lit "NOT_D6_MODEL_SOURCE_SOLICITATION")]),
  ("D7_RISK_QUARANTINE", obj [("secret_member_plaintext_forbidden", .bool true),
    ("self_declared_digest_requires_recomputation", .bool true), ("unknown_not_invented", .bool true)]),
  ("D8_ENVELOPE_AUTHORITY", obj [("candidate_only", .bool true), ("model_authority", .bool false),
    ("operation_authority", .bool false), ("source_account_authority", .bool false)]),
  ("generated_at", .str timestamp), ("mode", .str mode), ("schema_id", schemaId),
  ("state", lit "MODEL_SOURCE_REQUEST_READY")]

/-- `D8_ENVELOPE_AUTHORITY` behind an export. -/
def envelopeAuthority : PyVal := obj [("candidate_only", .bool true), ("model_authority", .bool false),
  ("operation_authority", .bool false), ("source_account_authority", .bool false),
  ("total_field_reobservation_required", .bool true)]

/-- The packet for exports with a secret. -/
def heldPacket (mode timestamp : PyStr) : List (String × PyVal) := [("D8_ENVELOPE_AUTHORITY", envelopeAuthority),
  ("candidate_only", .bool true), ("generated_at", .str timestamp), ("mode", .str mode),
  ("operation_authority", .bool false), ("schema_id", schemaId), ("source_payload_retained", .bool false),
  ("state", lit "HOLD_MODEL_SOURCE_SECRET_OR_MEMBER_PLAINTEXT")]

/-- A group of a claim. -/
def claimValue (g : ClaimGroup) : PyVal := obj [("claim_digest", .str g.key),
  ("evidence_class", lit "EXTERNAL_ACCOUNT_D4_SOURCE_REPORTED_VERBATIM"),
  ("may_define_current_founder_intent", .bool false), ("normalized_claim", .str g.head),
  ("sources", .list g.members)]

/-- A group of a skill. -/
def skillValue (g : SkillGroup) : PyVal := obj [("artifact_or_exact_coordinate", .str g.head.2),
  ("assimilation_state", lit "DOCUMENTED_EXTERNAL_ARTIFACT_NOT_LOCALLY_OBSERVED"),
  ("capability_digest", .str g.key), ("skill_or_capability_name", .str g.head.1),
  ("skill_registration_eligible", .bool false), ("sources", .list g.members)]

/-- Groups in the order of their digests. -/
def sortGroups {η : Type} (gs : List (Grouping.Group PyStr η PyVal)) : List (Grouping.Group PyStr η PyVal) :=
  gs.mergeSort fun g h => g.key ≤ h.key

/-- `D3_COORDINATE` of the merge. -/
def mergedCoordinate (m : Merge) : PyVal := obj [("source_account_identity_merge", .bool false),
  ("source_bindings", .list m.bindings), ("source_thread_count", .int m.threads)]

/-- `D4_EVIDENCE` of the merge. -/
def mergedEvidence (m : Merge) : PyVal := obj [("access_limitation_count", .int m.limitations),
  ("documented_capability_groups", .list ((sortGroups m.skills).map skillValue)),
  ("exact_claim_groups", .list ((sortGroups m.claims).map claimValue)),
  ("skipped_skill_count", .int m.skippedSkills), ("skipped_statement_count", .int m.skippedStatements)]

/-- `D7_RISK_QUARANTINE` of the merge. -/
def mergedQuarantine (m : Merge) : PyVal := obj [("conflicts", .list m.conflicts),
  ("secret_member_plaintext_forbidden", .bool true),
  ("source_digest_mismatch_does_not_silently_discard_source", .bool true), ("unknown_not_invented", .bool true)]

/-- The packet of the merge. -/
def mergedPacket (m : Merge) (mode scope intentRef timestamp : PyStr) : List (String × PyVal) := [
  ("D1_INTENT", obj [("current_founder_intent_ref", .str intentRef), ("task_scope", .str scope)]),
  ("D2_STATE", obj [("absolute_founder_intent_completeness_claim_allowed", .bool false),
    ("all_account_history_complete", .bool (m.limitations = 0)),
    ("current_intent_update_requires_current_founder_or_total_field", .bool true),
    ("supplied_source_closure", .bool true)]),
  ("D3_COORDINATE", mergedCoordinate m), ("D4_EVIDENCE", mergedEvidence m),
  ("D5_EXECUTION_POLICY", obj [("cloud_context_scope", lit "CURRENT_TASK_MINIMUM_REQUIRED_CONTEXT_ONLY"),
    ("cloud_model_role", lit "MINIMUM_SCOPED_SUBTASK_CANDIDATE_SUPPLIER"),
    ("cloud_result_returns_to_total_field", .bool true),
    ("conflict_resolution", lit "PRESERVE_UNTIL_CURRENT_FOUNDER_OR_TOTAL_FIELD_DECISION"),
    ("controller", lit "TOTAL_FIELD_USING_8D_ADI"),
    ("local_small_model_role", lit "BOUNDED_INTENT_AND_TASK_WORKER"), ("majority_vote_used", .bool false),
    ("merge_rule", lit "EXACT_NORMALIZED_CLAIM_DIGEST_WITH_ALL_PROVENANCE_RETAINED"),
    ("model_to_model_result_is_authority", .bool false), ("semantic_similarity_used", .bool false),
    ("side_effect_class", lit "NONE")]),
  ("D6_GENERATIVE_TRANSMISSION", obj [("classification", lit "NOT_D6_SOURCE_AND_CONTEXT_FUSION"),
    ("may_become_d6_only_with_complete_target_reconstruction_contract", .bool true)]),
  ("D7_RISK_QUARANTINE", mergedQuarantine m), ("D8_ENVELOPE_AUTHORITY", envelopeAuthority),
  ("generated_at", .str timestamp), ("mode", .str mode), ("schema_id", schemaId),
  ("state", lit (if m.conflicts = [] then "SOURCE_PRESERVING_MODEL_ORCHESTRATION_CANDIDATE_READY"
    else "SOURCE_PRESERVING_MODEL_ORCHESTRATION_CANDIDATE_WITH_CONFLICTS"))]

/-- The checks of the exports, and their JSON text. -/
def checkExports (sourceExports : Option (List PyVal)) : Except Fault (List PyVal × PyStr) :=
  match sourceExports with
  | none => .error (.own (invalid "MODEL_SOURCE_EXPORTS_REQUIRED"))
  | some exports => do
      raiseIf (exports = [] ∨ 8 < exports.length) (invalid "MODEL_SOURCE_EXPORT_COUNT_INVALID")
      raiseIf (¬exports.all PyVal.isDict) (invalid "MODEL_SOURCE_EXPORT_SHAPE_INVALID")
      let serialized ← PyJson.dumps PyJson.compact (.list exports)
      let bytes ← encodeUtf8 serialized
      raiseIf (1000000 < bytes.length) (invalid "MODEL_SOURCE_EXPORTS_TOO_LARGE")
      pure (exports, serialized)

/-- `build_source_preserving_model_orchestration_packet` -/
def buildPacket (setting : Setting) (args : Arguments) : Except Fault PyVal := do
  let mode ← requireNonEmptyString args.mode "mode"
  let mode := setting.upper mode
  let scope ← requireNonEmptyString args.taskScope "task_scope"
  let scope := (sanitizeString setting scope).take 4000
  let intentRef ← requireNonEmptyString args.currentFounderIntentRef "current_founder_intent_ref"
  let intentRef := (sanitizeString setting intentRef).take 512
  let coordinate := (sanitizeString setting (if args.sourceAccountCoordinate.truthy then
    setting.str args.sourceAccountCoordinate else cp "UNKNOWN")).take 240
  let timestamp := match args.generatedAt with
    | some (c :: s) => c :: s
    | _ => setting.utcNow
  if mode = cp "PREPARE_SOURCE_REQUEST" then
    finalizePacket (requestPacket mode scope intentRef coordinate timestamp)
  else do
    raiseIf (mode ≠ cp "ASSIMILATE_SOURCE_EXPORTS") (invalid "MODEL_SOURCE_MODE_UNSUPPORTED")
    let (exports, serialized) ← checkExports args.sourceExports
    if setting.containsSensitive serialized then finalizePacket (heldPacket mode timestamp)
    else do
      let m ← mergeExports setting exports
      finalizePacket (mergedPacket m mode scope intentRef timestamp)

end ModelSources
