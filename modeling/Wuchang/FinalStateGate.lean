/-
**The final-state gate looks at the beginning of a text.**

`run_total_field_gate` takes the text of a request, collapses its white space and keeps the first 700
characters.  Three checks scan this excerpt, and the canonical verifier scans a payload that holds the
excerpt as well.  What a long text says behind it is not looked at.

The Unicode tables of `str.lower` and `str.upper`, the texts of values that are no texts, the float of a
time, the random name of a call and the digest of a file are parameters.

Main definitions:

* `FinalStateGate.normalizeCandidateRequest` — the candidate packet of a request;
* `FinalStateGate.checkGtDefinitionDrift`, `FinalStateGate.checkHardRisk`,
  `FinalStateGate.checkDetourAlertHardGate`, `FinalStateGate.check7dFunctionalState`,
  `FinalStateGate.checkChannelCandidate` — the checks;
* `FinalStateGate.runTotalFieldGate` — the gate;
* `FinalStateGate.Clean` — a text without the terms that are looked for.

Main results:

* `FinalStateGate.pass_iff` — when the gate passes;
* `FinalStateGate.gate_sees_iff` — when a passing gate has seen the whole text;
* `FinalStateGate.gate_passes_long_text` — a text of 706 characters that passes.
-/

import Wuchang.TransmissionAudit
import Wuchang.PyJsonRead
import Mathlib.Data.List.Infix

set_option relaxedAutoImplicit false
set_option autoImplicit false

namespace FinalStateGate

open Py Canonical8D

/-! ### The terms -/

/-- `ALLOWED_7D_FUNCTIONAL_STATES` -/
def allowed7dFunctionalStates : List String := ["NATURAL_LANGUAGE_RESPONSE", "INFORMATION_LOOKUP",
  "MENU_EXPLANATION", "MEMBER_SUPPORT_CANDIDATE", "LINE_CANDIDATE_REPLY", "WEB_CANDIDATE_REPLY",
  "ODOO_CANDIDATE_REPLY"]

/-- `GT_FORBIDDEN_CORE_TERMS` -/
def gtForbiddenCoreTerms : List String := ["cloud encrypted sync", "encrypted cloud sync", "cloud sync",
  "file transfer", "backup", "download-decrypt restore", "download and decrypt restore",
  "decrypt restore", "檔案搬運", "雲端密文同步", "雲端同步", "備份", "下載解密"]

/-- `GT_CORE_MARKERS` -/
def gtCoreMarkers : List String := ["generative transmission", "generative_transmission", "gt core",
  "gt_core", "生成式傳輸", "核心"]

/-- `ADI_DRIFT_TERMS` -/
def adiDriftTerms : List String := ["adi neural network", "5d neural network",
  "ordinary json five fields", "generic 5d schema", "external tensor network", "extra tensor network",
  "普通 json 五欄位", "神經網路", "外掛張量網"]

/-- `HARD_RISK_TERMS` -/
def hardRiskTerms : List String := ["db write", "database write", "odoo write", "write_to_pos",
  "pos order create", "payment capture", "payment", "pay", "付款", "支付", "deploy", "restart", "reboot",
  "router write", "formal submit", "production activation", "寫入資料庫", "寫入 odoo", "寫入 pos", "下單",
  "付款扣款", "正式送件", "部署", "重啟", "重開"]

/-- `HARD_RISK_FLAGS`, in order. -/
def hardRiskFlags : List String := ["db_write", "deploy", "formal_submit", "odoo_write", "payment_capture",
  "production_activation", "reboot", "restart", "router_write", "write_to_pos"]

/-- `DETOUR_ALERT_HARD_GATE_CODES` -/
def detourAlertHardGateCodes : List String := ["CONTEXT_WINDOW_FULL", "TARGET_PACKET_MISMATCH",
  "TOUCHED_OUT_OF_SCOPE_PATH", "BACKEND_TASK_TOUCHED_FRONTEND", "CAFE_ONBOARDING_TOUCHED_COCKPIT_UI",
  "UNAUTHORIZED_FEATURE_EXPANSION", "RESTORE_WITHOUT_DIFF_OWNERSHIP", "PASS_EXISTS_BUT_RERUN_REQUESTED",
  "MIN_LANDING_BUT_REPORT_OR_ARCHITECTURE_EXPANSION", "USER_OPERATION_BURDEN_INCREASED",
  "NON_GENERATIVE_RECONSTRUCTION_PATH", "PASTE_BURDEN_WHEN_RECONSTRUCTABLE"]

/-- `DETOUR_FRONTEND_PATH_PREFIXES` -/
def detourFrontendPathPrefixes : List PyStr := ["web/", "frontend/", "ui/", "static/", "assets/"].map cp

/-- `DETOUR_COCKPIT_UI_PREFIX` -/
def detourCockpitUiPrefix : PyStr := cp "web/packet_inference_cockpit/"

/-- `GENERATIVE_RECONSTRUCTION_MODES` -/
def generativeReconstructionModes : List String := ["generative_reconstruction",
  "generative reconstruction", "generative-reconstruction", "生成式重構"]

/-- `PASTE_BURDEN_REQUEST_TERMS` -/
def pasteBurdenRequestTerms : List String := ["貼給 codex", "貼給codex", "再貼一次", "轉給新 thread",
  "轉給新thread", "轉給新的 thread", "轉給新的thread", "重跑給我看", "把這段貼回來", "paste this back",
  "paste it back", "paste again", "send to new thread", "new thread", "rerun and paste"]

/-- `PASTE_BURDEN_RECONSTRUCTABLE_TERMS` -/
def pasteBurdenReconstructableTerms : List String := ["run_id", "tests=", "git_status", "git status",
  "existing evidence", "current diff", "現有 diff", "既有證據", "總場判斷", "生成式重構"]

/-- `unauthorized_feature_terms` -/
def unauthorizedFeatureTerms : List String := ["unauthorized feature", "unauthorized_feature", "大量新增",
  "ai key", "cloud translator", "literary flow", "scenario deck"]

/-! ### Values -/

/-- What the gate uses of its surroundings. -/
structure Surroundings where
  /-- `str.lower` -/
  lower : PyStr → PyStr
  /-- `str.upper` -/
  upper : PyStr → PyStr
  /-- `str(v)` of a value that is no text -/
  text : PyVal → PyStr
  /-- `str(k)` of a key that is no text -/
  keyText : PyStr
  /-- the float of a time -/
  timeValue : ℚ → PyVal
  /-- `uuid.uuid4().hex[:16]` -/
  callName : PyStr
  /-- the digest of the addendum, if the file exists -/
  p10a : Option PyStr

/-- `str(v)` -/
def Surroundings.str (around : Surroundings) : PyVal → PyStr
  | .str s => s
  | v => around.text v

/-- What the canonical verifier uses of them. -/
def Surroundings.library (around : Surroundings) : Library := ⟨around.lower, around.str, around.timeValue⟩

/-- What the ADI 5D verifier uses of them. -/
def Surroundings.index (around : Surroundings) : AbsoluteIndex.Surroundings := ⟨around.lower, around.p10a⟩

/-- `stable_hash` -/
def stableHash (v : PyVal) : Except Fault PyStr := do
  let text ← canonicalJson v
  sha256Hex text

/-- `hash_ref` -/
def hashRef (v : PyVal) : Except Fault PyStr := do
  let hash ← stableHash v
  pure (cp "hash:" ++ hash)

/-- `_bool_flag` -/
def boolFlag (around : Surroundings) : PyVal → Bool
  | .bool b => b
  | .str s => ["1", "true", "yes", "y", "on"].any fun t => around.lower (strip s) = cp t
  | _ => false

/-- `s.split()` -/
def words (s : PyStr) : List PyStr := (s.splitOnP isSpace).filter fun w => w ≠ []

/-- `" ".join(s.split())` -/
def collapse (s : PyStr) : PyStr := (cp " ").intercalate (words s)

/-- The characters `_norm_label` keeps. -/
def isLabelChar (c : ℕ) : Bool :=
  (97 ≤ c && c ≤ 122) || (48 ≤ c && c ≤ 57) || (0x4E00 ≤ c && c ≤ 0x9FFF)

/-- `re.sub(r"[^a-z0-9\u4e00-\u9fff]+", "_", s)`, where the character before was kept or not. -/
def squash : Bool → PyStr → PyStr
  | _, [] => []
  | kept, c :: s =>
      if isLabelChar c then c :: squash true s
      else if kept then 95 :: squash false s
      else squash false s

/-- `_norm_label`, of a text. -/
def normLabel (around : Surroundings) (s : PyStr) : PyStr :=
  ((squash true (around.lower (strip s))).dropWhile (· = 95)).rdropWhile (· = 95)

mutual

/-- `_normalize_text_list`; the keys of a dictionary come in their order. -/
def normalizeTextList (around : Surroundings) : PyVal → List PyStr
  | .none => []
  | .list xs => normalizeTexts around xs
  | .dict items => (items.filter fun p => boolFlag around p.2).map fun p => match p.1 with
      | .str s => s
      | .other => around.keyText
  | .str s => ((s.splitOnP fun c => c = 10 ∨ c = 44).map strip).filter fun piece => piece ≠ []
  | v =>
      let normalized := strip (around.text v)
      if normalized = [] then [] else [normalized]

/-- `_normalize_text_list`, of the elements of a list. -/
def normalizeTexts (around : Surroundings) : List PyVal → List PyStr
  | [] => []
  | x :: xs => normalizeTextList around x ++ normalizeTexts around xs

end

/-- The text of a field, if it is there and not empty. -/
def textAt (source : Items) (k : String) : Option PyStr :=
  match (PyVal.dict source).get k with
  | .str s => if strip s = [] then none else some s
  | _ => none

/-- `_source_first_text` -/
def sourceFirstText (source : Items) (keys : List String) : PyStr :=
  ((keys.findSome? (textAt source)).map strip).getD []

/-- `_source_text_list` -/
def sourceTextList (around : Surroundings) (source : Items) (keys : List String) : List PyStr :=
  keys.flatMap fun k => normalizeTextList around ((PyVal.dict source).get k)

/-- `while s.startswith("./"): s = s[2:]` -/
def dropDots : PyStr → PyStr
  | 46 :: 47 :: s => dropDots s
  | s => s

/-- `_clean_rel_path` -/
def cleanRelPath (path : PyStr) : PyStr :=
  (dropDots ((strip path).map fun c => if c = 92 then 47 else c)).dropWhile (· = 47)

/-- `_path_matches_prefix` -/
def pathMatchesPrefix (path stem : PyStr) : Bool :=
  let pathClean := cleanRelPath path
  let prefixClean := (cleanRelPath stem).rdropWhile (· = 47)
  prefixClean ≠ [] && (pathClean = prefixClean || (prefixClean ++ cp "/").isPrefixOf pathClean)

/-- `_any_path_matches_prefix` -/
def anyPathMatchesPrefix (paths prefixes : List PyStr) : Bool :=
  paths.any fun path => prefixes.any fun stem => pathMatchesPrefix path stem

/-! ### The candidate packet -/

/-- `detour_context` -/
structure DetourContext where
  taskSummary : PyStr
  targetPacket : PyStr
  actualPacket : PyStr
  taskLayer : PyStr
  requiredMode : PyStr
  actualMode : PyStr
  assistantRequest : PyStr
  runId : PyStr
  tests : PyStr
  gitStatus : PyStr
  diffSummary : PyStr
  touchedPaths : List PyStr
  allowedPaths : List PyStr
  outOfScopePaths : List PyStr
  addedFeatures : List PyStr
  evidenceRefs : List PyStr
  flags : List (String × Bool)
  deriving DecidableEq

/-- `flags.get(k)` -/
def DetourContext.flag (d : DetourContext) (k : String) : Bool := (d.flags.lookup k).getD false

/-- The dictionary of a detour context. -/
def DetourContext.value (d : DetourContext) : PyVal := obj [
  ("actual_mode", .str d.actualMode), ("actual_packet", .str d.actualPacket),
  ("added_features", .list (d.addedFeatures.map .str)), ("allowed_paths", .list (d.allowedPaths.map .str)),
  ("assistant_request", .str d.assistantRequest), ("diff_summary", .str d.diffSummary),
  ("evidence_refs", .list (d.evidenceRefs.map .str)),
  ("flags", obj (d.flags.map fun p => (p.1, .bool p.2))), ("git_status", .str d.gitStatus),
  ("out_of_scope_paths", .list (d.outOfScopePaths.map .str)), ("required_mode", .str d.requiredMode),
  ("run_id", .str d.runId), ("target_packet", .str d.targetPacket), ("task_layer", .str d.taskLayer),
  ("task_summary", .str d.taskSummary), ("tests", .str d.tests),
  ("touched_paths", .list (d.touchedPaths.map .str))]

/-- `bool_keys`, in order. -/
def boolKeys : List String := ["architecture_expansion", "assistant_requested_paste",
  "assistant_requested_repost", "assistant_requested_rerun", "assistant_requested_transfer",
  "backend_task", "cafe_onboarding", "context_window_full", "diff_ownership_verified",
  "diff_reconstructable", "existing_evidence_available", "feature_expansion_authorized",
  "generative_reconstruction_available", "git_status_available", "min_landing_required",
  "non_generative_reconstruction_path", "pass_exists", "paste_request", "reconstructable",
  "report_expansion", "rerun_requested", "restore_performed", "restore_requested", "restore_suggested",
  "run_id_available", "target_packet_mismatch", "tests_available", "total_field_can_decide",
  "unauthorized_feature_expansion", "user_operation_burden_increased"]

/-- `_build_detour_context` -/
def buildDetourContext (around : Surroundings) (source : Items) (text : PyStr) : DetourContext :=
  let summary := sourceFirstText source ["task_summary", "task", "goal"]
  { taskSummary := if summary = [] then text else summary
    targetPacket := sourceFirstText source ["target_packet", "expected_packet", "task_packet"]
    actualPacket := sourceFirstText source ["actual_packet", "current_packet", "modified_packet"]
    taskLayer := sourceFirstText source ["task_layer", "task_type", "work_layer"]
    requiredMode := sourceFirstText source ["required_mode", "expected_mode", "path_mode"]
    actualMode := sourceFirstText source ["actual_mode", "taken_mode", "implemented_mode"]
    assistantRequest := sourceFirstText source
      ["assistant_request", "assistant_next_step", "requested_user_action", "proposed_next"]
    runId := sourceFirstText source ["run_id", "RUN_ID"]
    tests := sourceFirstText source ["tests", "TESTS", "test_result", "test_results"]
    gitStatus := sourceFirstText source ["git_status", "GIT_STATUS"]
    diffSummary := sourceFirstText source ["diff_summary", "existing_diff", "current_diff"]
    touchedPaths := (sourceTextList around source
      ["touched_paths", "modified_paths", "changed_files", "files_changed", "diff_paths", "paths"]).map
        cleanRelPath
    allowedPaths := (sourceTextList around source
      ["allowed_paths", "scope_paths", "target_paths", "in_scope_paths"]).map cleanRelPath
    outOfScopePaths := (sourceTextList around source ["out_of_scope_paths", "forbidden_touched_paths"]).map
      cleanRelPath
    addedFeatures := sourceTextList around source ["added_features", "new_features", "feature_expansion"]
    evidenceRefs := sourceTextList around source
      ["evidence_refs", "existing_evidence", "total_field_evidence"]
    flags := (boolKeys.filter fun k => (getItem source (cp k)).isSome).map fun k =>
      (k, boolFlag around ((PyVal.dict source).get k)) }

/-- The text of an event of a LINE candidate. -/
def eventText (event : PyVal) : Option PyStr :=
  match event with
  | .dict items => textAt items "message_text_candidate"
  | _ => none

/-- The text a request is answered for: its first text, or that of its first LINE event. -/
def requestText (source : Items) : Option PyStr :=
  match ["text", "utterance", "message", "intent_text", "natural_language", "query"].findSome?
      (textAt source) with
  | some text => some text
  | none =>
      match ((PyVal.dict source).get "line_candidate").get "event_candidates" with
      | .list events => events.findSome? eventText
      | _ => none

/-- The text, with its white space collapsed. -/
def wholeText (source : Items) : PyStr := ((requestText source).map collapse).getD []

/-- `_extract_text` -/
def extractText (source : Items) : PyStr := (wholeText source).take 700

/-- `default_7d_functional_state` -/
def default7dFunctionalState (around : Surroundings) (sourceChannel : PyStr) : PyVal :=
  let channel := around.upper sourceChannel
  obj [("candidate_only", .bool true), ("db_write", .bool false), ("deploy", .bool false),
    ("equivalent_state_or_effect_generation", .bool true), ("executable_state", .bool false),
    ("formal_submit", .bool false),
    ("functional_state_type", lit (if channel = cp "LINE" then "LINE_CANDIDATE_REPLY"
      else if channel = cp "ODOO" then "ODOO_CANDIDATE_REPLY"
      else if channel = cp "WEB" then "WEB_CANDIDATE_REPLY" else "NATURAL_LANGUAGE_RESPONSE")),
    ("layer", lit "7D_FUNCTIONAL_STATE_LAYER"), ("odoo_write", .bool false), ("restart", .bool false),
    ("state_generation_mode", lit "EQUIVALENT_STATE_EFFECT")]

/-- `hash_ref` of the ADI 5D verifier, of a literal. -/
def literalRef (s : String) : PyVal :=
  .str (cp "hash:" ++ Sha256.hexdigest ((cp s).flatMap utf8Char))

/-- A coordinate of `base_pass_packet`. -/
def baseCoordinate (role ref hashed : String) : PyVal := obj [
  ("coordinate_hash", literalRef hashed), ("coordinate_ref", lit ref), ("coordinate_role", lit role),
  ("index_scope_ref", lit ("index_scope_ref:" ++ hashed))]

/-- `base_pass_packet` -/
def basePassPacket : PyVal := obj [
  ("adi_absolute_index", obj [
    ("absolute_index_ref", lit "adi_absolute_index_ref:p10a_min"),
    ("absolute_position_code", lit "absolute_position_code:ref_only"),
    ("actual_index_rules_disclosed", .bool false),
    ("authority_anchor_ref", lit "authority_anchor_ref:local_total_field"),
    ("conflict_resolution_ref", lit "conflict_resolution_ref:adi_5d"),
    ("h64_td_ref_only", .bool true),
    ("index_id", lit "adi_5d_absolute_index:p10a:min_landing"),
    ("index_version", lit "adi_5d.v1"),
    ("lookup_route_ref", lit "lookup_route_ref:adi_5d"),
    ("reconstruction_condition_ref", lit "reconstruction_condition_ref:adi_5d"),
    ("route_weight_ref", lit "route_weight_ref:adi_5d"),
    ("state_position_ref", lit "state_position_ref:adi_5d")]),
  ("architecture_order", .list (AbsoluteIndex.architectureOrder.map lit)),
  ("five_dimensions", obj [
    ("authority_coordinate", baseCoordinate "authority_reference_coordinate"
      "authority_reference_coordinate:local_total_field" "authority"),
    ("evidence_coordinate", baseCoordinate "evidence_reference_coordinate"
      "evidence_reference_coordinate:p10a" "evidence"),
    ("space_coordinate", baseCoordinate "space_coordinate" "space_coordinate:local_total_field" "space"),
    ("state_coordinate", baseCoordinate "state_coordinate" "state_coordinate:candidate_pending_verify"
      "state"),
    ("time_coordinate", baseCoordinate "timestamp_coordinate" "timestamp_coordinate:20260706T194804Z"
      "time")]),
  ("generic_5d_schema_used", .bool false),
  ("hash_chain", obj [
    ("current_record_hash", literalRef "current-adi-5d-record"),
    ("previous_record_hash", literalRef "previous-adi-5d-record")]),
  ("lookup_reference_reconstruction_conditions", obj [
    ("lookup_refs", .list [lit "lookup_ref:adi_5d_route"]),
    ("reconstruction_condition_refs", .list [lit "reconstruction_condition_ref:equivalent_state_or_effect"]),
    ("reference_refs", .list [lit "reference_ref:p10a_addendum", lit "reference_ref:clean_authority_index"])]),
  ("next_packet_name", lit AbsoluteIndex.nextPacket),
  ("p10a_addendum_ref", obj [
    ("path_ref", lit AbsoluteIndex.p10aPath), ("sha256", lit AbsoluteIndex.p10aSha256)]),
  ("packet_type", lit AbsoluteIndex.packetType),
  ("run_id", lit "ADI_5D_ABSOLUTE_INDEX_SCHEMA_VERIFIER_MIN_LANDING_TEST"),
  ("safety_boundary", obj [
    ("cloud_call_executed", .bool false), ("db_write", .bool false), ("deploy", .bool false),
    ("h64_td_ref_only", .bool true), ("legal_patent_exclusivity_claimed", .bool false),
    ("no_member_plaintext", .bool true), ("no_secret", .bool true), ("odoo_write", .bool false),
    ("restart", .bool false)]),
  ("sandbox_only", .bool true),
  ("verifier_contract", obj [
    ("allowed_decisions", .list [lit "PASS", lit "HOLD", lit "BLOCK"]),
    ("cloud_candidate_only", .bool true), ("final_decision_by_cloud", .bool false),
    ("hold_on_adi_rule_disclosure", .bool true), ("hold_on_definition_drift", .bool true),
    ("hold_on_generic_5d", .bool true), ("local_total_field_authority", .bool true),
    ("requires_total_field_verify", .bool true)]),
  ("within_8d_envelope", obj [
    ("adi_5d_inside_8d", .bool true),
    ("authority_envelope", obj [
      ("authority_scope_ref", lit "authority_scope_ref:local_total_field"),
      ("content_hash", literalRef "adi-5d-content"),
      ("nonce_ref", lit "nonce_ref:adi_5d_min_landing"),
      ("seal_required", .bool true),
      ("ttl_seconds", .int 300)]),
    ("five_dimensions_do_not_replace_8d", .bool true),
    ("packet_ref", lit "8d_packet_ref:adi_5d_absolute_index_min_landing")])]

/-- `candidate_packet` -/
structure Candidate where
  sourceChannel : PyStr
  naturalLanguageHash : PyStr
  naturalLanguageExcerpt : PyStr
  functionalState7d : PyVal
  detourContext : DetourContext
  requestedFlags : List (String × Bool)
  /-- the decision of the verifier of the channel, if the request has a LINE candidate -/
  channelDecision : Option PyVal
  adi5dAbsoluteIndex : Option PyVal

/-- The conditions every candidate packet carries. -/
def lookupConditions : PyVal := obj [
  ("actual_h64_td_rules_disclosed", .bool false),
  ("lookup_refs", .list [lit "lookup_ref:total_field_safe_natural_reply"]),
  ("reconstruction_condition_refs", .list [lit "reconstruction_condition_ref:equivalent_state_or_effect"]),
  ("reference_refs", .list [lit "reference_ref:clean_authority_index"])]

/-- The envelope every candidate packet carries. -/
def authorityEnvelope : PyVal := obj [
  ("authority", lit "LOCAL_TOTAL_FIELD"), ("final_authority", .bool true), ("nonce_required", .bool true),
  ("seal_required", .bool true), ("ttl_seconds", .int 30)]

/-- A field that may be left out. -/
def optional (k : String) (v : Option PyVal) : List (String × PyVal) := (v.map fun w => (k, w)).toList

/-- The dictionary of a candidate packet. -/
def Candidate.value (c : Candidate) : PyVal := obj (
  optional "adi_5d_absolute_index" c.adi5dAbsoluteIndex ++ [
  ("ai_candidate_lane", obj [("candidate_generator_only", .bool true), ("final_authority", .bool false),
    ("formal_action_allowed", .bool false)]),
  ("authority_envelope_8d", authorityEnvelope),
  ("candidate_only", .bool true)] ++
  optional "channel_candidate_verifier" (c.channelDecision.map fun d => obj [("channel", lit "LINE"),
    ("decision", d), ("formal_line_send", .bool false), ("line_reply_allowed", .bool false)]) ++ [
  ("detour_context", c.detourContext.value),
  ("functional_state_7d", c.functionalState7d),
  ("lookup_reference_reconstruction_conditions", lookupConditions),
  ("natural_language_excerpt", .str c.naturalLanguageExcerpt),
  ("natural_language_hash", .str c.naturalLanguageHash),
  ("packet_type", lit "natural_language_candidate_request"),
  ("requested_flags", obj (c.requestedFlags.map fun p => (p.1, .bool p.2))),
  ("safety_boundary", obj [("db_write", .bool false), ("deploy", .bool false),
    ("external_api_call", .bool false), ("formal_submit", .bool false), ("line_reply_sent", .bool false),
    ("odoo_write", .bool false), ("restart", .bool false), ("router_write", .bool false)]),
  ("source_channel", .str c.sourceChannel),
  ("state_field_packet", obj [("contains_7d_functional_state", .bool true),
    ("contains_8d_authority_envelope", .bool true),
    ("contains_adi_5d_absolute_index", .bool c.adi5dAbsoluteIndex.isSome),
    ("packet_type", lit "8D_7D_STATE_FIELD_PACKET")])])

/-- `source` -/
def sourceOf : PyVal → Items
  | .str s => fields [("text", .str s)]
  | .dict items => items
  | _ => []

/-- `a or b` -/
def orElse (a b : PyVal) : PyVal := if a.truthy then a else b

/-- The ADI packet of a request: its own, or the one every request gets that does not decline it. -/
def adiPacketOf (source : Items) : Option PyVal :=
  let packet := match getItem source (cp "adi_5d_absolute_index") with
    | some packet => packet
    | none => if AbsoluteIndex.isFalse ((PyVal.dict source).get "include_adi_5d") then .none
        else basePassPacket
  if packet.isDict then some packet else none

/-- The decision of the LINE verifier a request names. -/
def channelDecisionOf (source : Items) : Option PyVal :=
  match (PyVal.dict source).get "line_candidate" with
  | .dict candidate =>
      match (PyVal.dict candidate).get "local_verifier" with
      | .dict verifier => some ((getItem verifier (cp "decision")).getD (lit ""))
      | _ => some (lit "")
  | _ => none

/-- `normalize_candidate_request` -/
def normalizeCandidateRequest (around : Surroundings) (request : PyVal) : Except Fault Candidate := do
  let source := sourceOf request
  let channel := orElse ((PyVal.dict source).get "source_channel")
    (orElse ((PyVal.dict source).get "channel") (lit "web"))
  let sourceChannel := around.upper (around.str channel)
  let text := extractText source
  let functionalState := match (PyVal.dict source).get "functional_state_7d" with
    | .dict state => .dict state
    | _ => default7dFunctionalState around sourceChannel
  let hash ← hashRef (orElse (.str text) (lit "empty-natural-language"))
  pure {
    sourceChannel := sourceChannel
    naturalLanguageHash := hash
    naturalLanguageExcerpt := text
    functionalState7d := functionalState
    detourContext := buildDetourContext around source text
    requestedFlags := hardRiskFlags.map fun k => (k, boolFlag around ((PyVal.dict source).get k))
    channelDecision := channelDecisionOf source
    adi5dAbsoluteIndex := adiPacketOf source }

/-! ### The checks -/

/-- A text contains one of some terms. -/
def hasAny (text : PyStr) (terms : List String) : Bool := terms.any (occursIn text)

/-- `check_gt_definition_drift`, of the excerpt. -/
def checkGtDefinitionDrift (around : Surroundings) (excerpt : PyStr) : List String :=
  let text := around.lower excerpt
  AbsoluteIndex.errorIf (hasAny text gtCoreMarkers && hasAny text gtForbiddenCoreTerms)
      "GT_CORE_DEFINITION_DRIFT_FILE_TRANSFER_OR_CLOUD_SYNC" ++
    AbsoluteIndex.errorIf (hasAny text adiDriftTerms) "ADI_5D_DEFINITION_DRIFT"

/-- `check_hard_risk`, of the excerpt and the flags; the gate sorts its errors. -/
def checkHardRisk (around : Surroundings) (excerpt : PyStr) (flags : List (String × Bool)) : List String :=
  let text := around.lower excerpt
  (hardRiskTerms.filter (occursIn text)).map (fun term => "HARD_RISK_TERM:" ++ term) ++
    (flags.filter fun p => p.2).map fun p => "HARD_RISK_FLAG:" ++ p.1

/-- `_detour_context_text` -/
def detourContextText (around : Surroundings) (d : DetourContext) (excerpt : PyStr) : PyStr :=
  let join := (cp " ").intercalate
  around.lower (join ([excerpt, d.taskSummary, d.taskLayer, d.requiredMode, d.actualMode,
    d.assistantRequest, d.runId, d.tests, d.gitStatus, d.diffSummary, join d.addedFeatures,
    join d.touchedPaths, join d.evidenceRefs].filter fun piece => piece ≠ []))

/-- `check_detour_alert_hard_gate` -/
def checkDetourAlertHardGate (around : Surroundings) (d : DetourContext) (excerpt : PyStr) : List String :=
  let flag := d.flag
  let label := normLabel around
  let has := occursIn (detourContextText around d excerpt)
  let raised (code : String) : Bool :=
    if code = "CONTEXT_WINDOW_FULL" then
      flag "context_window_full" || has "context_window_full" || has "context window full"
    else if code = "TARGET_PACKET_MISMATCH" then
      flag "target_packet_mismatch" || (label d.targetPacket ≠ [] && label d.actualPacket ≠ [] &&
        label d.targetPacket ≠ label d.actualPacket)
    else if code = "TOUCHED_OUT_OF_SCOPE_PATH" then
      d.outOfScopePaths ≠ [] || (d.allowedPaths ≠ [] && d.touchedPaths ≠ [] && d.touchedPaths.any fun path =>
        !d.allowedPaths.any fun allowed => pathMatchesPrefix path allowed)
    else if code = "BACKEND_TASK_TOUCHED_FRONTEND" then
      (flag "backend_task" || occursIn (label d.taskLayer) "backend") &&
        anyPathMatchesPrefix d.touchedPaths detourFrontendPathPrefixes
    else if code = "CAFE_ONBOARDING_TOUCHED_COCKPIT_UI" then
      (flag "cafe_onboarding" || (has "cafe" || has "咖啡") &&
        (has "onboarding" || has "導入" || has "入門")) &&
        anyPathMatchesPrefix d.touchedPaths [detourCockpitUiPrefix]
    else if code = "UNAUTHORIZED_FEATURE_EXPANSION" then
      flag "unauthorized_feature_expansion" ||
        (d.addedFeatures ≠ [] && !flag "feature_expansion_authorized") || unauthorizedFeatureTerms.any has
    else if code = "RESTORE_WITHOUT_DIFF_OWNERSHIP" then
      (flag "restore_requested" || flag "restore_suggested" || flag "restore_performed" || has "restore") &&
        !flag "diff_ownership_verified"
    else if code = "PASS_EXISTS_BUT_RERUN_REQUESTED" then
      flag "pass_exists" && flag "rerun_requested" || has "pass_exists_but_rerun_requested"
    else if code = "MIN_LANDING_BUT_REPORT_OR_ARCHITECTURE_EXPANSION" then
      (flag "min_landing_required" || has "min_landing" || has "minimum landing" || has "最小落地") &&
        (flag "report_expansion" || flag "architecture_expansion" || has "report expansion" ||
          has "architecture expansion" || has "白皮書")
    else if code = "USER_OPERATION_BURDEN_INCREASED" then
      flag "user_operation_burden_increased" || has "user_operation_burden_increased" || has "操作負擔"
    else if code = "NON_GENERATIVE_RECONSTRUCTION_PATH" then
      let modes := generativeReconstructionModes.map fun mode => label (cp mode)
      flag "non_generative_reconstruction_path" || has "non_generative_reconstruction_path" ||
        modes.contains (label d.requiredMode) && label d.actualMode ≠ [] &&
          !modes.contains (label d.actualMode)
    else
      (["assistant_requested_paste", "assistant_requested_repost", "assistant_requested_transfer",
          "assistant_requested_rerun", "paste_request"].any flag || pasteBurdenRequestTerms.any has) &&
        (["total_field_can_decide", "existing_evidence_available", "run_id_available", "tests_available",
          "git_status_available", "diff_reconstructable", "generative_reconstruction_available",
          "reconstructable"].any flag || d.runId ≠ [] || d.tests ≠ [] || d.gitStatus ≠ [] ||
          d.diffSummary ≠ [] || d.evidenceRefs ≠ [] || pasteBurdenReconstructableTerms.any has)
  detourAlertHardGateCodes.filter raised

/-- `check_7d_functional_state`; a list or a dictionary cannot be looked up among the types. -/
def check7dFunctionalState (state : PyVal) : Except Fault (List String) := do
  let allowed ← inTexts (state.get "functional_state_type") allowed7dFunctionalStates
  pure (AbsoluteIndex.errorIf (!pyEq (state.get "layer") (lit "7D_FUNCTIONAL_STATE_LAYER"))
      "7D_FUNCTIONAL_STATE_LAYER_INVALID" ++
    AbsoluteIndex.errorIf (!allowed) "7D_FUNCTIONAL_STATE_TYPE_INVALID" ++
    AbsoluteIndex.errorIf (!pyEq (state.get "state_generation_mode") (lit "EQUIVALENT_STATE_EFFECT"))
      "7D_FUNCTIONAL_STATE_GENERATION_MODE_INVALID" ++
    ["db_write", "odoo_write", "deploy", "restart", "formal_submit"].flatMap (fun k =>
      AbsoluteIndex.errorIf (!AbsoluteIndex.isFalse (state.get k))
        ("7D_FUNCTIONAL_STATE_FORBIDDEN_SIDE_EFFECT:" ++ k)) ++
    AbsoluteIndex.errorIf (!AbsoluteIndex.isTrue (state.get "candidate_only"))
      "7D_FUNCTIONAL_STATE_NOT_CANDIDATE_ONLY")

/-- `check_channel_candidate` -/
def checkChannelCandidate (c : Candidate) : List String :=
  if c.sourceChannel ≠ cp "LINE" then []
  else match c.channelDecision with
    | none => ["LINE_CANDIDATE_VERIFIER_MISSING"]
    | some decision => AbsoluteIndex.errorIf (!pyEq decision (lit "READY_FOR_LOCAL_INTENT_CANDIDATE"))
        "LINE_CANDIDATE_VERIFIER_HOLD"

/-- `verify_adi_5d_absolute_index_packet`, with the errors it reports; a packet that is missing is an
error. -/
def checkAdi (around : Surroundings) (packet : Option PyVal) : Except Fault (PyVal × List PyVal) :=
  match packet with
  | none => .ok (obj [("CHECKS", .dict []), ("DRY_RUN", lit "FAIL"),
      ("ERRORS", .list [lit "ADI_5D_ABSOLUTE_INDEX_MISSING"])], [lit "ADI_5D_ABSOLUTE_INDEX_MISSING"])
  | some packet => do
      let result ← AbsoluteIndex.verifyPacket around.index packet
      let errors ← getOr result "ERRORS" (.list [])
      let errors ← listOf errors
      pure (result, errors)

/-! ### The canonical verifier -/

/-- A secret of the verifier of one call. -/
def ephemeralSecret (seed : PyStr) (purpose : String) : Except Fault (List UInt8) := do
  let bytes ← encodeUtf8 (seed ++ cp purpose)
  pure (Sha256.digestBytes bytes)

/-- The secrets `_make_verifier` derives. -/
def verifierSecrets (runId : PyStr) : Except Fault VerifierSecrets := do
  let seed ← stableHash (obj [("purpose", lit "final_state_gate_ephemeral_verifier"), ("run_id", .str runId)])
  let d7 ← ephemeralSecret seed ":d7"
  let trajectory ← ephemeralSecret seed ":trajectory"
  let audit ← ephemeralSecret seed ":audit"
  pure ⟨d7, trajectory, audit, cp "ephemeral-final-state-gate-v1"⟩

/-- The configuration of `_make_verifier`. -/
def verifierConfig : VerifierConfig :=
  { ttlSeconds := 30, verifierVersion := cp "final-state-gate-canonical-8d-v1" }

/-- The definitions a payload locks. -/
def definitionLock : PyVal := obj [
  ("backup_core", .bool false), ("cloud_sync_core", .bool false),
  ("download_decrypt_restore_core", .bool false), ("equivalent_state_generation", .bool true),
  ("file_transfer_core", .bool false), ("lookup_reference_reconstruction_conditions", .bool true),
  ("state_field_packet", .bool true), ("total_field_verification", .bool true)]

/-- The payload, around its hashes. -/
def payloadOf (c : Candidate) (timestamp : PyVal) (nonce candidateRef : PyStr) (textRef : Option PyStr) :
    Payload := fields (
  optional "adi_5d_absolute_index" c.adi5dAbsoluteIndex ++ [
  ("authority_envelope_8d", authorityEnvelope),
  ("candidate_packet_ref", .str candidateRef),
  ("delta_D1", lit "user1"),
  ("delta_D4", lit "route_local"),
  ("env_D8", obj [("nonce", .str nonce), ("timestamp", timestamp)]),
  ("functional_state_7d", c.functionalState7d),
  ("generative_transmission_definition_lock", definitionLock),
  ("lookup_reference_reconstruction_conditions", lookupConditions)] ++
  optional "natural_language_candidate_excerpt" (textRef.map fun _ => .str c.naturalLanguageExcerpt) ++
  optional "natural_language_candidate_hash" (textRef.map .str) ++ [
  ("ref_D2", lit "intent_order_latte")])

/-- `build_canonical_payload` -/
def buildCanonicalPayload (around : Surroundings) (c : Candidate) (now : ℚ) (runId : PyStr) :
    Except Fault Payload := do
  let hash ← stableHash (obj [("candidate", c.value), ("run_id", .str runId)])
  let candidateRef ← hashRef c.value
  let textRef ← if c.naturalLanguageExcerpt = [] then pure none else do
    let ref ← hashRef (.str c.naturalLanguageExcerpt)
    pure (some ref)
  pure (payloadOf c (around.timeValue now) (cp "nonce:" ++ hash.take 32) candidateRef textRef)

/-- `_sign_canonical_payload` -/
def signCanonicalPayload (payload : Payload) (secrets : VerifierSecrets) : Except Fault Payload := do
  let proof ← signD7Packet payload secrets.d7Secret
  pure (setKey (cp "proof_D7") (.str proof) payload)

/-- The canonical verifier of one call, which has seen no nonce, and its answer. -/
def canonicalVerdict (around : Surroundings) (c : Candidate) (now : ℚ) (runId : PyStr) :
    Except Fault (Decision × AuditLog) := do
  let secrets ← verifierSecrets runId
  let payload ← buildCanonicalPayload around c now runId
  let payload ← signCanonicalPayload payload secrets
  (processTransmission around.library secrets verifierConfig
    ⟨payload, now, cp "run_" ++ around.callName, AbsoluteIndex.verifyPacket around.index⟩ (.opened [])).1

/-! ### The reply -/

/-- The categories of `_reply_intent_category`, each with its keywords, in the order they are asked. -/
def replyCategories : List (String × List String) := [
  ("menu", ["菜單", "menu", "飲品", "咖啡", "推薦"]),
  ("capability", ["你能", "能做什麼", "可以做", "有什麼功能", "有什麼用", "可以幫我", "我想了解", "回答", "回答任何問題",
    "我能做", "可以問"]),
  ("registration", ["註冊", "加入會員", "member", "register", "signup"]),
  ("booking", ["預約", "下單", "訂單", "booking", "order", "預定"]),
  ("complaint", ["抱怨", "問題", "錯誤", "幫忙", "support", "客服", "重現"])]

/-- `_reply_intent_category` -/
def replyIntentCategory (around : Surroundings) (text : PyStr) : String :=
  ((replyCategories.find? fun p => hasAny (around.lower text) p.2).map Prod.fst).getD "general"

/-- `_reply_preview` -/
def replyPreview (text : PyStr) : PyStr :=
  let normalized := collapse text
  if normalized.length ≤ 88 then normalized else normalized.take 88 ++ cp "…"

/-- `_reply_candidate`, but for the fields that are the same in every reply. -/
structure Reply where
  scenario : String
  text : PyStr

/-- `_reply_candidate` -/
def replyCandidate (around : Surroundings) (excerpt : PyStr) : Reply :=
  let text := strip excerpt
  if text = [] then ⟨"general", cp "我可以先整理成安全候選回覆。"⟩
  else
    let category := replyIntentCategory around (around.lower text)
    let preview := replyPreview text
    ⟨category,
      if category = "menu" then cp "可以，我先整理菜單或服務資訊的候選回覆，正式下單或付款仍需人工確認。"
      else if category = "capability" then
        cp "我可以先幫你做三件事：把需求轉成可核對的候選草稿、保全高風險邊界，並整理出下一步要補齊的條件，後續再讓人工決定是否正式送件。"
      else if category = "registration" then cp "收到，你的會員/註冊需求我先接住了：" ++ preview ++ cp "。"
      else if category = "booking" then
        cp "收到，我先整理預約與下單條件草稿：" ++ preview ++ cp "，先把風險保護放在前面。"
      else if category = "complaint" then
        cp "我先幫你把問題拆成可追蹤節點：" ++ preview ++ cp "，並保留可執行的下一步。"
      else cp "可以，我先幫你把這段需求「" ++ preview ++ cp "」轉成可落地候選，不會執行正式權威動作。"⟩

/-! ### The gate -/

/-- The errors of the checks, and what the canonical verifier answers. -/
structure Findings where
  detour : List String
  drift : List String
  adi : List PyVal
  functional : List String
  channel : List String
  risk : List String
  canonical : Decision

/-- `decision`, `gate_code` and `risk_level`. -/
def Findings.verdict (f : Findings) : Decision × String × String :=
  if "PASTE_BURDEN_WHEN_RECONSTRUCTABLE" ∈ f.detour then (.hold, "HOLD_DETOUR_ALERT", "CRITICAL")
  else if f.detour ≠ [] then (.block, "BLOCK_DETOUR_ALERT_HARD_GATE", "CRITICAL")
  else if f.drift ≠ [] then (.hold, "HOLD_GT_DEFINITION_DRIFT", "HIGH")
  else if f.risk ≠ [] then (.hold, "HOLD_HARD_RISK_SIDE_EFFECT", "HIGH")
  else if f.adi.length ≠ 0 then (.hold, "HOLD_ADI_5D_ABSOLUTE_INDEX", "MEDIUM")
  else if f.functional ≠ [] then (.hold, "HOLD_7D_FUNCTIONAL_STATE", "MEDIUM")
  else if f.channel ≠ [] then (.hold, "HOLD_CHANNEL_CANDIDATE_VERIFIER", "MEDIUM")
  else if f.canonical = .allow then (.pass, "PASS_TOTAL_FIELD_GATE", "LOW")
  else if f.canonical = .block then (.block, "BLOCK_CANONICAL_8D_VERIFIER", "HIGH")
  else (.hold, "HOLD_CANONICAL_8D_VERIFIER", "MEDIUM")

/-- What the gate returns, but for the fields that are the same in every answer. -/
structure Report where
  state : String
  runId : PyStr
  decision : Decision
  gateCode : String
  riskLevel : String
  sourceChannel : PyStr
  candidatePacketHash : PyStr
  replyCandidate : Option Reply
  scenario : String
  checks : List (String × String)
  detourAlerts : List String
  gateStage : String
  resultCode : String
  adiDryRun : PyVal
  adiChecks : PyVal
  functionalStateType : PyVal
  errors : List PyVal

/-- `"PASS" if not errors else "FAIL"` -/
def checkMark {α : Type} (errors : List α) : String := if errors.isEmpty then "PASS" else "FAIL"

/-- The order of `sorted`, for texts. -/
def textLe : PyVal → PyVal → Bool
  | .str s, .str t => decide (s ≤ t)
  | _, _ => true

/-- `sorted(set(errors))`, for texts. -/
def sortedErrors (errors : List PyVal) : List PyVal :=
  (errors.pwFilter fun a b => pyEq a b = false).mergeSort textLe

/-- `checks` -/
def Findings.checks (f : Findings) : List (String × String) := [
  ("candidate_normalized", "PASS"), ("adi_5d_absolute_index", checkMark f.adi),
  ("canonical_8d_verifier", if f.canonical = .allow then "PASS" else f.canonical.text),
  ("functional_state_7d", checkMark f.functional), ("channel_candidate", checkMark f.channel),
  ("hard_risk", checkMark f.risk), ("gt_definition_drift", checkMark f.drift),
  ("detour_alert_hard_gate", checkMark f.detour), ("lookup_reference_reconstruction_conditions", "PASS"),
  ("no_side_effects", "PASS")]

/-- The errors of the checks, in the order they are collected, and those of the canonical verifier. -/
def Findings.errors (f : Findings) (gate : Option GateResult) : List PyVal :=
  sortedErrors (f.detour.map lit ++ f.drift.map lit ++ f.adi ++ f.functional.map lit ++
    f.channel.map lit ++ f.risk.map lit ++ ((gate.map GateResult.errors).getD []))

/-- `run_total_field_gate`, at a time. -/
def runTotalFieldGate (around : Surroundings) (request : PyVal) (now : ℚ) : Except Fault Report := do
  let c ← normalizeCandidateRequest around request
  let reply := replyCandidate around c.naturalLanguageExcerpt
  let runHash ← stableHash (obj [("candidate", c.value), ("now", around.timeValue now)])
  let runId := cp "TOTAL_FIELD_GATE_" ++ runHash.take 16
  let adi ← checkAdi around c.adi5dAbsoluteIndex
  let functional ← check7dFunctionalState c.functionalState7d
  let canonical ← canonicalVerdict around c now runId
  let f : Findings := ⟨checkDetourAlertHardGate around c.detourContext c.naturalLanguageExcerpt,
    checkGtDefinitionDrift around c.naturalLanguageExcerpt, adi.2, functional, checkChannelCandidate c,
    checkHardRisk around c.naturalLanguageExcerpt c.requestedFlags, canonical.1⟩
  let packetHash ← hashRef c.value
  let gate := canonical.2.adi5dGateResult
  let passed : Bool := f.verdict.1 = .pass
  let burdened : Bool := "PASTE_BURDEN_WHEN_RECONSTRUCTABLE" ∈ f.detour
  pure {
    state := if burdened then "HOLD_DETOUR_ALERT" else "TOTAL_FIELD_FINAL_STATE_GATE_RESULT"
    runId := runId
    decision := f.verdict.1
    gateCode := f.verdict.2.1
    riskLevel := f.verdict.2.2
    sourceChannel := c.sourceChannel
    candidatePacketHash := packetHash
    replyCandidate := if passed then some reply else none
    scenario := if passed then reply.scenario else "unknown"
    checks := f.checks
    detourAlerts := f.detour
    gateStage := canonical.2.gateStage
    resultCode := (gate.map GateResult.resultCode).getD ""
    adiDryRun := adi.1.get "DRY_RUN"
    adiChecks := adi.1.get "CHECKS"
    functionalStateType := c.functionalState7d.get "functional_state_type"
    errors := f.errors gate }

/-! ### What a pass tells -/

/-- None of the terms a text must not have occurs in it. -/
structure Clean (around : Surroundings) (text : PyStr) : Prop where
  noRisk : ∀ term ∈ hardRiskTerms, occursIn (around.lower text) term = false
  noDrift : ∀ term ∈ adiDriftTerms, occursIn (around.lower text) term = false
  noPair : ∀ marker ∈ gtCoreMarkers, ∀ term ∈ gtForbiddenCoreTerms,
    ¬(occursIn (around.lower text) marker = true ∧ occursIn (around.lower text) term = true)

/-- No hard-risk flag of a request is set. -/
def Unflagged (around : Surroundings) (request : PyVal) : Prop :=
  ∀ k ∈ hardRiskFlags, boolFlag around ((PyVal.dict (sourceOf request)).get k) = false

/-- The checks beside the terms and the flags find nothing in a candidate, and the canonical verifier allows
it. -/
structure OthersPass (around : Surroundings) (c : Candidate) (now : ℚ) : Prop where
  detour : checkDetourAlertHardGate around c.detourContext c.naturalLanguageExcerpt = []
  adi : ∃ result, checkAdi around c.adi5dAbsoluteIndex = .ok (result, [])
  functional : check7dFunctionalState c.functionalState7d = .ok []
  channel : checkChannelCandidate c = []
  canonical : ∃ runHash log,
    stableHash (obj [("candidate", c.value), ("now", around.timeValue now)]) = .ok runHash ∧
      canonicalVerdict around c now (cp "TOTAL_FIELD_GATE_" ++ runHash.take 16) = .ok (.allow, log)

/-- A request whose other checks pass. -/
def Admissible (around : Surroundings) (request : PyVal) (now : ℚ) : Prop :=
  ∃ c, normalizeCandidateRequest around request = .ok c ∧ OthersPass around c now

/-- The text behind the excerpt adds none of the terms: if the excerpt is clean, the whole text is. -/
def Shown (around : Surroundings) (source : Items) : Prop :=
  Clean around (extractText source) → Clean around (wholeText source)

section Gate

variable {around : Surroundings} {request : PyVal} {now : ℚ} {c : Candidate}

theorem errorIf_eq_nil {b : Bool} {error : String} : AbsoluteIndex.errorIf b error = [] ↔ b = false := by
  cases b <;> simp [AbsoluteIndex.errorIf]

theorem hasAny_eq_false {text : PyStr} {terms : List String} :
    hasAny text terms = false ↔ ∀ term ∈ terms, occursIn text term = false := by
  simp [hasAny]

/-- The two scans of a text and the flags find nothing. -/
theorem scans_eq_nil {text : PyStr} {flags : List (String × Bool)} :
    checkGtDefinitionDrift around text = [] ∧ checkHardRisk around text flags = [] ↔
      Clean around text ∧ ∀ p ∈ flags, p.2 = false := by
  rw [checkGtDefinitionDrift, checkHardRisk, List.append_eq_nil_iff, List.append_eq_nil_iff, errorIf_eq_nil,
    errorIf_eq_nil, List.map_eq_nil_iff, List.map_eq_nil_iff, List.filter_eq_nil_iff,
    List.filter_eq_nil_iff, hasAny_eq_false, Bool.and_eq_false_iff, hasAny_eq_false, hasAny_eq_false]
  constructor
  · rintro ⟨⟨hpair, hdrift⟩, hrisk, hflags⟩
    refine ⟨⟨fun term hterm => by simpa using hrisk term hterm, hdrift, ?_⟩, fun p hp => by
      simpa using hflags p hp⟩
    rintro marker hmarker term hterm ⟨hm, ht⟩
    rcases hpair with hnone | hnone
    · exact absurd hm (by simp [hnone marker hmarker])
    · exact absurd ht (by simp [hnone term hterm])
  · rintro ⟨⟨hrisk, hdrift, hpair⟩, hflags⟩
    refine ⟨⟨?_, hdrift⟩, fun term hterm => by simpa using hrisk term hterm, fun p hp => by
      simpa using hflags p hp⟩
    by_contra hboth
    rw [not_or] at hboth
    simp only [not_forall, Bool.not_eq_false] at hboth
    obtain ⟨⟨marker, hmarker, hm⟩, term, hterm, ht⟩ := hboth
    exact hpair marker hmarker term hterm ⟨hm, ht⟩

/-- The candidate packet holds the beginning of the text, and the flags. -/
theorem of_normalize (h : normalizeCandidateRequest around request = .ok c) :
    c.naturalLanguageExcerpt = extractText (sourceOf request) ∧
      c.requestedFlags = hardRiskFlags.map fun k =>
        (k, boolFlag around ((PyVal.dict (sourceOf request)).get k)) := by
  obtain ⟨hash, -, h⟩ := bind_eq_ok_iff.1 h
  obtain rfl := pure_eq_ok_iff.1 h
  exact ⟨rfl, rfl⟩

/-- A verdict is a pass when nothing was found and the canonical verifier allows. -/
theorem verdict_pass_iff {f : Findings} : f.verdict.1 = .pass ↔
    f.detour = [] ∧ f.drift = [] ∧ f.risk = [] ∧ f.adi = [] ∧ f.functional = [] ∧ f.channel = [] ∧
      f.canonical = .allow := by
  constructor
  · intro h
    rw [Findings.verdict] at h
    split_ifs at h with hburden hdetour hdrift hrisk hadi hfunctional hchannel hallow hblock
    simp only [ne_eq, not_not, List.length_eq_zero_iff] at hdetour hdrift hrisk hadi hfunctional hchannel
    exact ⟨hdetour, hdrift, hrisk, hadi, hfunctional, hchannel, hallow⟩
  · rintro ⟨hdetour, hdrift, hrisk, hadi, hfunctional, hchannel, hallow⟩
    simp [Findings.verdict, hdetour, hdrift, hrisk, hadi, hfunctional, hchannel, hallow]

/-- A verdict of the canonical verifier is on a candidate that can be hashed. -/
theorem hashRef_of_canonicalVerdict {runId : PyStr} {answer : Decision × AuditLog}
    (h : canonicalVerdict around c now runId = .ok answer) : ∃ ref, hashRef c.value = .ok ref := by
  obtain ⟨secrets, -, h⟩ := bind_eq_ok_iff.1 h
  obtain ⟨payload, hpayload, -⟩ := bind_eq_ok_iff.1 h
  obtain ⟨hash, -, hpayload⟩ := bind_eq_ok_iff.1 hpayload
  obtain ⟨ref, href, -⟩ := bind_eq_ok_iff.1 hpayload
  exact ⟨ref, href⟩

/-- The gate passes a request when its other checks pass and the excerpt and the flags are clean. -/
theorem pass_iff : (∃ report, runTotalFieldGate around request now = .ok report ∧ report.decision = .pass) ↔
    Admissible around request now ∧ Clean around (extractText (sourceOf request)) ∧
      Unflagged around request := by
  have hflags : ∀ {c : Candidate}, normalizeCandidateRequest around request = .ok c →
      ((∀ p ∈ c.requestedFlags, p.2 = false) ↔ Unflagged around request) := by
    intro c hc
    rw [(of_normalize hc).2, List.forall_mem_map]
    rfl
  constructor
  · rintro ⟨report, hrun, hpass⟩
    obtain ⟨c, hc, hrun⟩ := bind_eq_ok_iff.1 hrun
    dsimp only at hrun
    obtain ⟨runHash, hhash, hrun⟩ := bind_eq_ok_iff.1 hrun
    obtain ⟨⟨result, errors⟩, hadi, hrun⟩ := bind_eq_ok_iff.1 hrun
    obtain ⟨functional, hfunctional, hrun⟩ := bind_eq_ok_iff.1 hrun
    obtain ⟨⟨decision, log⟩, hcanonical, hrun⟩ := bind_eq_ok_iff.1 hrun
    obtain ⟨packetHash, -, hrun⟩ := bind_eq_ok_iff.1 hrun
    obtain rfl := pure_eq_ok_iff.1 hrun
    obtain ⟨hdetour, hdrift, hrisk, rfl, rfl, hchannel, rfl⟩ := verdict_pass_iff.1 hpass
    have hscans := scans_eq_nil.1 ⟨hdrift, hrisk⟩
    rw [hflags hc, (of_normalize hc).1] at hscans
    exact ⟨⟨c, hc, hdetour, ⟨result, hadi⟩, hfunctional, hchannel, runHash, log, hhash, hcanonical⟩, hscans⟩
  · rintro ⟨⟨c, hc, hdetour, ⟨result, hadi⟩, hfunctional, hchannel, runHash, log, hhash, hcanonical⟩, hclean,
      hunflagged⟩
    obtain ⟨ref, href⟩ := hashRef_of_canonicalVerdict hcanonical
    rw [← (of_normalize hc).1] at hclean
    obtain ⟨hdrift, hrisk⟩ := scans_eq_nil.2 ⟨hclean, (hflags hc).2 hunflagged⟩
    rw [runTotalFieldGate, hc, ok_bind]
    dsimp only
    rw [hhash, ok_bind, hadi, ok_bind, hfunctional, ok_bind, hcanonical, ok_bind, href, ok_bind]
    refine ⟨_, rfl, ?_⟩
    exact verdict_pass_iff.2 ⟨hdetour, hdrift, hrisk, rfl, rfl, hchannel, rfl⟩

/-- **What a passing gate has seen.**  A pass tells that the whole text is clean if and only if the text
behind the first 700 characters adds nothing, a flag is set, or another check stops the request. -/
theorem gate_sees_iff (around : Surroundings) (request : PyVal) (now : ℚ) :
    (∀ report, runTotalFieldGate around request now = .ok report → report.decision = .pass →
      Clean around (wholeText (sourceOf request)) ∧ Unflagged around request) ↔
    Shown around (sourceOf request) ∨ ¬Unflagged around request ∨ ¬Admissible around request now := by
  constructor
  · intro h
    by_cases hadmissible : Admissible around request now ∧ Unflagged around request
    · refine .inl fun hclean => ?_
      obtain ⟨report, hrun, hpass⟩ := pass_iff.2 ⟨hadmissible.1, hclean, hadmissible.2⟩
      exact (h report hrun hpass).1
    · tauto
  · intro h report hrun hpass
    obtain ⟨hadmissible, hclean, hunflagged⟩ := pass_iff.1 ⟨report, hrun, hpass⟩
    rcases h with hshown | hflag | hstopped
    · exact ⟨hshown hclean, hunflagged⟩
    · exact absurd hunflagged hflag
    · exact absurd hadmissible hstopped

end Gate

/-! ### A long text -/

/-- ASCII surroundings, at second 0. -/
def sampleAround : Surroundings where
  lower := lowerAscii
  upper s := s.map fun c => if 97 ≤ c ∧ c ≤ 122 then c - 32 else c
  text _ := []
  keyText := []
  timeValue _ := .float ⟨false, 0, 0, PyFloat.expo_zero, PyFloat.frac_zero⟩
  callName := cp "0123456789abcdef"
  p10a := some (cp AbsoluteIndex.p10aSha256)

/-- A reference to a hash of one digit. -/
def sampleRef (digit : ℕ) : PyVal := .str (cp "hash:" ++ List.replicate 64 digit)

/-- A coordinate. -/
def sampleCoordinate (name : String) : String × PyVal := (name, obj [
  ("coordinate_hash", sampleRef 48), ("coordinate_ref", lit "ref"), ("coordinate_role", lit "role"),
  ("index_scope_ref", lit "scope")])

/-- An ADI packet with what its verifier asks for. -/
def samplePacket : PyVal := obj [
  ("adi_absolute_index", obj [
    ("absolute_index_ref", lit "ref"), ("absolute_position_code", lit "ref"),
    ("actual_index_rules_disclosed", .bool false), ("authority_anchor_ref", lit "ref"),
    ("conflict_resolution_ref", lit "ref"), ("h64_td_ref_only", .bool true),
    ("lookup_route_ref", lit "ref"), ("reconstruction_condition_ref", lit "ref"),
    ("route_weight_ref", lit "ref"), ("state_position_ref", lit "ref")]),
  ("architecture_order", .list (AbsoluteIndex.architectureOrder.map lit)),
  ("five_dimensions", obj (["authority_coordinate", "evidence_coordinate", "space_coordinate",
    "state_coordinate", "time_coordinate"].map sampleCoordinate)),
  ("generic_5d_schema_used", .bool false),
  ("hash_chain", obj [("current_record_hash", sampleRef 49), ("previous_record_hash", sampleRef 48)]),
  ("lookup_reference_reconstruction_conditions", obj [("lookup_refs", .list [lit "ref"]),
    ("reconstruction_condition_refs", .list [lit "ref"]), ("reference_refs", .list [lit "ref"])]),
  ("next_packet_name", lit AbsoluteIndex.nextPacket),
  ("p10a_addendum_ref", obj [
    ("path_ref", lit AbsoluteIndex.p10aPath), ("sha256", lit AbsoluteIndex.p10aSha256)]),
  ("packet_type", lit AbsoluteIndex.packetType),
  ("safety_boundary", obj [
    ("cloud_call_executed", .bool false), ("db_write", .bool false), ("deploy", .bool false),
    ("h64_td_ref_only", .bool true), ("legal_patent_exclusivity_claimed", .bool false),
    ("no_member_plaintext", .bool true), ("no_secret", .bool true), ("odoo_write", .bool false),
    ("restart", .bool false)]),
  ("sandbox_only", .bool true),
  ("verifier_contract", obj [
    ("allowed_decisions", .list [lit "PASS", lit "HOLD", lit "BLOCK"]),
    ("cloud_candidate_only", .bool true), ("final_decision_by_cloud", .bool false),
    ("hold_on_adi_rule_disclosure", .bool true), ("hold_on_definition_drift", .bool true),
    ("hold_on_generic_5d", .bool true), ("local_total_field_authority", .bool true),
    ("requires_total_field_verify", .bool true)]),
  ("within_8d_envelope", obj [
    ("adi_5d_inside_8d", .bool true),
    ("authority_envelope", obj [("content_hash", sampleRef 48), ("seal_required", .bool true),
      ("ttl_seconds", .int 300)]),
    ("five_dimensions_do_not_replace_8d", .bool true)])]

/-- 700 letters. -/
def letters : PyStr := List.replicate 700 97

/-- A request with the letters and a term behind them. -/
def sampleRequest : PyVal :=
  obj [("adi_5d_absolute_index", samplePacket), ("text", .str (letters ++ cp "deploy"))]

set_option maxRecDepth 8000 in
theorem whole_sample : wholeText (sourceOf sampleRequest) = letters ++ cp "deploy" := by
  simp only [sampleRequest, obj, fields, key, cp_eq_codes]
  decide

theorem extract_sample : extractText (sourceOf sampleRequest) = letters := by
  rw [extractText, whole_sample]
  exact List.take_left' List.length_replicate

/-- The context of a request that says nothing of its task. -/
def quiet (text : PyStr) : DetourContext :=
  ⟨text, [], [], [], [], [], [], [], [], [], [], [], [], [], [], [], []⟩

set_option maxRecDepth 8000 in
theorem context_sample : buildDetourContext sampleAround (sourceOf sampleRequest) letters = quiet letters := by
  simp only [buildDetourContext, sampleRequest, sourceOf, obj, fields, key, sourceFirstText,
    sourceTextList, PyVal.get, List.map_cons, List.map_nil, cp_eq_codes]
  decide

/-- A term with another character does not occur in a text of few characters. -/
theorem not_occursIn {text : PyStr} {term : String} {p : ℕ → Bool} (htext : ∀ c ∈ text, p c = true)
    (hterm : (codes term).any fun c => !p c) : occursIn text term = false := by
  rw [occursIn, decide_eq_false_iff_not]
  intro hin
  obtain ⟨c, hc, hnot⟩ := List.any_eq_true.1 hterm
  rw [← cp_eq_codes] at hc
  simp [htext c (hin.subset hc)] at hnot

set_option maxRecDepth 8000 in
theorem detour_sample : checkDetourAlertHardGate sampleAround
    (buildDetourContext sampleAround (sourceOf sampleRequest) letters) letters = [] := by
  rw [context_sample]
  have htext : ∀ c ∈ detourContextText sampleAround (quiet letters) letters, (c = 97 || c = 32) = true := by
    decide
  have hhas : ∀ term : String, ((codes term).any fun c => !(c = 97 || c = 32)) = true →
      occursIn (detourContextText sampleAround (quiet letters) letters) term = false :=
    fun term => not_occursIn htext
  have hflag : ∀ k, (quiet letters).flag k = false := fun _ => rfl
  rw [checkDetourAlertHardGate]
  generalize (quiet letters).flag = flag at hflag
  generalize occursIn (detourContextText sampleAround (quiet letters) letters) = has at hhas
  have hlabel : normLabel sampleAround [] = [] := rfl
  refine List.filter_eq_nil_iff.2 fun code hcode => ?_
  rw [detourAlertHardGateCodes] at hcode
  simp only [List.mem_cons, List.not_mem_nil, or_false] at hcode
  rcases hcode with rfl | rfl | rfl | rfl | rfl | rfl | rfl | rfl | rfl | rfl | rfl | rfl
  all_goals
    simp (disch := decide) [hhas, hflag, quiet, hlabel, anyPathMatchesPrefix, unauthorizedFeatureTerms,
      pasteBurdenRequestTerms]

/-! ### Payloads without the terms of the canonical verifier -/

/-- What a text must not contain for the canonical verifier. -/
def canonicalTerms : List String := coreMarkers ++ forbiddenAdiTerms

/-- A text has none of the terms of the canonical verifier. -/
def DriftFree (text : PyStr) : Prop := ∀ term ∈ canonicalTerms, occursIn (lowerAscii text) term = false

/-- A text is split where a character stands that a part of it does not have. -/
theorem infix_append_cons {α : Type} {needle a b : List α} {q : α} (hq : q ∉ needle)
    (h : needle <:+: a ++ q :: b) : needle <:+: a ∨ needle <:+: b := by
  obtain ⟨s, t, h⟩ := h
  rcases List.append_eq_append_iff.1 h with ⟨c, rfl, -⟩ | ⟨c, hc, ht⟩
  · exact .inl ⟨s, c, rfl⟩
  cases c with
  | nil => exact .inl ⟨s, [], by simpa using hc⟩
  | cons d c =>
      obtain ⟨rfl, rfl⟩ := List.cons.inj ht
      -- the character is not in the needle, so the needle is behind it
      rcases List.append_eq_append_iff.1 hc with ⟨e, -, rfl⟩ | ⟨e, -, he⟩
      · exact absurd (by simp) hq
      cases e with
      | nil =>
          rw [List.nil_append] at he
          exact absurd (he ▸ List.mem_cons_self) hq
      | cons d' e =>
          obtain ⟨-, rfl⟩ := List.cons.inj he
          exact .inr ⟨e, t, rfl⟩

theorem DriftFree.append_cons {a b : PyStr} {q : ℕ} (hq : q ∈ [34, 44, 58, 91, 93, 123, 125])
    (ha : DriftFree a) (hb : DriftFree b) : DriftFree (a ++ q :: b) := by
  intro term hterm
  have hlower : lowerAscii (a ++ q :: b) = lowerAscii a ++ q :: lowerAscii b := by
    have hsame : ∀ q ∈ [34, 44, 58, 91, 93, 123, 125], lowerAscii [q] = [q] := by decide
    have hone := hsame q hq
    simp only [lowerAscii, List.map_append, List.map_cons, List.map_nil] at hone ⊢
    rw [(List.cons.inj hone).1]
  have hnot : ∀ term ∈ canonicalTerms, ∀ q ∈ [34, 44, 58, 91, 93, 123, 125], q ∉ cp term := by
    simp only [canonicalTerms, coreMarkers, forbiddenAdiTerms, cp_eq_codes]
    decide
  rw [occursIn, decide_eq_false_iff_not, hlower]
  intro hin
  rcases infix_append_cons (hnot term hterm q hq) hin with h | h
  · exact absurd h (decide_eq_false_iff_not.1 (ha term hterm))
  · exact absurd h (decide_eq_false_iff_not.1 (hb term hterm))

theorem driftFree_nil : DriftFree [] := by
  unfold DriftFree
  simp only [canonicalTerms, coreMarkers, forbiddenAdiTerms, occursIn, cp_eq_codes]
  decide

/-- A text in quotes. -/
theorem driftFree_quote {s : PyStr} (h : DriftFree (s.flatMap escapeChar)) : DriftFree (quote s) := by
  have hend : DriftFree (s.flatMap escapeChar ++ 34 :: []) := h.append_cons (by decide) driftFree_nil
  have hquote : quote s = [] ++ 34 :: (s.flatMap escapeChar ++ 34 :: []) := by
    simp [quote, cp]
  rw [hquote]
  exact driftFree_nil.append_cons (by decide) hend

/-- The items of a dictionary, behind a text. -/
theorem driftFree_items {items : Items} (h : ∀ p ∈ items, (∃ s, p.1 = .str s ∧
      DriftFree (s.flatMap escapeChar)) ∧ DriftFree (PyJson.write PyJson.compact p.2)) {a : PyStr}
    (ha : DriftFree a) : DriftFree (a ++ (PyJson.writeItems PyJson.compact items ++ 125 :: [])) := by
  induction items generalizing a with
  | nil => exact ha.append_cons (by decide) driftFree_nil
  | cons p items ih =>
      rw [List.forall_mem_cons] at h
      obtain ⟨k, v⟩ := p
      obtain ⟨⟨⟨s, rfl, hs⟩, hv⟩, hitems⟩ := h
      have hrest := ih hitems hv
      have htext : PyJson.writeItems PyJson.compact ((.str s, v) :: items) ++ 125 :: [] =
          44 :: (quote s ++ 58 :: (PyJson.write PyJson.compact v ++
            (PyJson.writeItems PyJson.compact items ++ 125 :: []))) := by
        simp [PyJson.writeItems, PyJson.writeKey, PyJson.writeText, PyJson.compact, cp]
      rw [htext]
      exact ha.append_cons (by decide) ((driftFree_quote hs).append_cons (by decide) hrest)

/-- A dictionary has none of the terms when its keys and its values have none. -/
theorem driftFree_dict {items : Items} (h : ∀ p ∈ items, (∃ s, p.1 = .str s ∧
      DriftFree (s.flatMap escapeChar)) ∧ DriftFree (PyJson.write PyJson.compact p.2)) :
    DriftFree (PyJson.write PyJson.compact (.dict items)) := by
  cases items with
  | nil =>
      have htext : PyJson.write PyJson.compact (.dict []) = [] ++ 123 :: ([] ++ 125 :: []) := by
        simp [PyJson.write, cp]
      rw [htext]
      exact driftFree_nil.append_cons (by decide) (driftFree_nil.append_cons (by decide) driftFree_nil)
  | cons p items =>
      rw [List.forall_mem_cons] at h
      obtain ⟨k, v⟩ := p
      obtain ⟨⟨⟨s, rfl, hs⟩, hv⟩, hitems⟩ := h
      have hrest := driftFree_items hitems hv
      have htext : PyJson.write PyJson.compact (.dict ((.str s, v) :: items)) =
          [] ++ 123 :: (quote s ++ 58 :: (PyJson.write PyJson.compact v ++
            (PyJson.writeItems PyJson.compact items ++ 125 :: []))) := by
        simp [PyJson.write, PyJson.writeKey, PyJson.writeText, PyJson.compact, cp]
      rw [htext]
      exact driftFree_nil.append_cons (by decide) ((driftFree_quote hs).append_cons (by decide) hrest)

/-- A text of digits, colons and small letters has none of the terms. -/
theorem driftFree_of_chars {s : PyStr} (h : ∀ c ∈ s, (48 ≤ c ∧ c ≤ 58) ∨ (97 ≤ c ∧ c ≤ 122)) :
    DriftFree (s.flatMap escapeChar) := by
  have hplain : s.flatMap escapeChar = s := by
    induction s with
    | nil => rfl
    | cons c s ih =>
        rw [List.forall_mem_cons] at h
        rw [List.flatMap_cons, PyJson.escapeChar_plain (by omega) (by omega) (by omega), ih h.2]
        rfl
  have hlower : ∀ c ∈ lowerAscii s, ((48 ≤ c && c ≤ 58) || (97 ≤ c && c ≤ 122)) = true := by
    intro c hc
    obtain ⟨d, hd, rfl⟩ := List.mem_map.1 hc
    have hrange := h d hd
    simp only [Bool.or_eq_true, Bool.and_eq_true, decide_eq_true_eq]
    split_ifs <;> omega
  rw [hplain]
  have hterms : ∀ term ∈ canonicalTerms,
      ((codes term).any fun c => !((48 ≤ c && c ≤ 58) || (97 ≤ c && c ≤ 122))) = true := by decide
  exact fun term hterm => not_occursIn hlower (hterms term hterm)

theorem plain_bool {P : PyStr → Prop} (b : Bool) : PyJson.Plain P (.bool b) := .bool b
theorem plain_int {P : PyStr → Prop} (b : ℤ) : PyJson.Plain P (.int b) := .int b
theorem plain_sampleRef {digit : ℕ} (h : ¬IsSurrogate digit) : PyJson.Plain Encodable (sampleRef digit) := by
  refine .str _ (encodable_append.2 ⟨encodable_cp _, fun d hd => ?_⟩)
  rwa [List.eq_of_mem_replicate hd]

theorem encodable_letters : Encodable letters := fun d hd => by
  rw [List.eq_of_mem_replicate hd]
  decide

theorem plain_samplePacket : PyJson.Plain Encodable samplePacket := by
  have h0 := @plain_sampleRef 48 (by decide)
  have h1 := @plain_sampleRef 49 (by decide)
  simp [samplePacket, sampleCoordinate, PyJson.plain_obj_iff, PyJson.plain_list_iff, plain_bool, plain_int, PyJson.plain_lit, h0, h1]

/-- The hash of a value. -/
def hashOf (v : PyVal) : PyStr := Sha256.hexdigest ((PyJson.write PyJson.compact v).flatMap utf8Char)

/-- What can be written has a hash. -/
theorem stableHash_plain {v : PyVal} (h : PyJson.Plain Encodable v) : stableHash v = .ok (hashOf v) := by
  obtain ⟨htext, hencodable⟩ := canonicalJson_ok h
  rw [stableHash, htext, ok_bind, sha256Hex, encodeUtf8_ok hencodable, ok_bind]
  rfl

theorem hashRef_plain {v : PyVal} (h : PyJson.Plain Encodable v) : hashRef v = .ok (cp "hash:" ++ hashOf v) := by
  rw [hashRef, stableHash_plain h]
  rfl

theorem encodable_hashOf (v : PyVal) : Encodable (hashOf v) := Sha256.encodable_hexdigest _

/-- The candidate packet of the request. -/
def sampleCandidate : Candidate where
  sourceChannel := cp "WEB"
  naturalLanguageHash := cp "hash:" ++ hashOf (.str letters)
  naturalLanguageExcerpt := letters
  functionalState7d := default7dFunctionalState sampleAround (cp "WEB")
  detourContext := quiet letters
  requestedFlags := hardRiskFlags.map fun k => (k, false)
  channelDecision := none
  adi5dAbsoluteIndex := some samplePacket

/-- The same candidate packet, of a request that says something of its task. -/
def candidateOf (d : DetourContext) : Candidate := { sampleCandidate with detourContext := d }

theorem get_source {k : String} (hadi : k ≠ "adi_5d_absolute_index") (htext : k ≠ "text") :
    (PyVal.dict (sourceOf sampleRequest)).get k = .none := by
  change (obj _).get k = _
  simp [Ne.symm hadi, Ne.symm htext]

/-- A request with the letters and the packet, and nothing of a channel or a risk, has this candidate. -/
theorem normalize_candidateOf {request : PyVal} {d : DetourContext}
    (htext : extractText (sourceOf request) = letters)
    (hcontext : buildDetourContext sampleAround (sourceOf request) letters = d)
    (hpacket : getItem (sourceOf request) (cp "adi_5d_absolute_index") = some samplePacket)
    (hnone : ∀ k ∈ "channel" :: "functional_state_7d" :: "line_candidate" :: "source_channel" :: hardRiskFlags,
      (PyVal.dict (sourceOf request)).get k = .none) :
    normalizeCandidateRequest sampleAround request = .ok (candidateOf d) := by
  have hchannel : sampleAround.upper (sampleAround.str (lit "web")) = cp "WEB" := by decide
  have hflags : (hardRiskFlags.map fun k =>
      (k, boolFlag sampleAround ((PyVal.dict (sourceOf request)).get k))) =
        hardRiskFlags.map fun k => (k, false) := by
    refine List.map_congr_left fun k hk => ?_
    rw [hnone k (by simp [hk])]
    rfl
  have hadi : adiPacketOf (sourceOf request) = some samplePacket := by
    rw [adiPacketOf, hpacket]
    rfl
  have hline : channelDecisionOf (sourceOf request) = none := by
    rw [channelDecisionOf, hnone "line_candidate" (by simp)]
  rw [normalizeCandidateRequest]
  rw [htext, hcontext, hflags, hadi, hline, hnone "source_channel" (by simp), hnone "channel" (by simp),
    hnone "functional_state_7d" (by simp)]
  have hletters : orElse (.str letters) (lit "empty-natural-language") = .str letters := rfl
  have hweb : orElse .none (orElse .none (lit "web")) = lit "web" := rfl
  rw [hletters, hashRef_plain (.str _ encodable_letters), ok_bind, hweb, hchannel]
  rfl

theorem normalize_sample : normalizeCandidateRequest sampleAround sampleRequest = .ok sampleCandidate := by
  refine normalize_candidateOf extract_sample context_sample ?_ fun k hk => ?_
  · change getItem (fields _) _ = _
    simp
  · have hkeys : ∀ k ∈ "channel" :: "functional_state_7d" :: "line_candidate" :: "source_channel" ::
        hardRiskFlags, k ≠ "adi_5d_absolute_index" ∧ k ≠ "text" := by decide
    exact get_source (hkeys k hk).1 (hkeys k hk).2

theorem functional_sample :
    check7dFunctionalState (default7dFunctionalState sampleAround (cp "WEB")) = .ok [] := by
  have hchannel : sampleAround.upper (cp "WEB") = cp "WEB" := by decide
  rw [default7dFunctionalState, hchannel]
  simp only [check7dFunctionalState, allowed7dFunctionalStates, obj, fields, List.map_cons, List.map_nil, key,
    lit, PyVal.get, cp_eq_codes]
  decide

theorem digestBytes_ne_nil (msg : List UInt8) : Sha256.digestBytes msg ≠ [] := by
  unfold Sha256.digestBytes
  simp

/-- The secrets of a call are configured. -/
theorem verifierSecrets_ok {runId : PyStr} (h : Encodable runId) : ∃ secrets,
    verifierSecrets runId = .ok secrets ∧ secrets.configured = true ∧ Encodable secrets.keyVersion := by
  have hplain : PyJson.Plain Encodable (obj [("purpose", lit "final_state_gate_ephemeral_verifier"),
      ("run_id", .str runId)]) := by
    simp [PyJson.plain_obj_iff, PyJson.plain_str_iff, PyJson.plain_lit, h]
  have hsecret : ∀ (v : PyVal) (purpose : String), ephemeralSecret (hashOf v) purpose =
      .ok (Sha256.digestBytes ((hashOf v ++ cp purpose).flatMap utf8Char)) := by
    intro v purpose
    rw [ephemeralSecret, encodeUtf8_ok (encodable_append.2 ⟨encodable_hashOf v, encodable_cp _⟩), ok_bind]
    rfl
  rw [verifierSecrets, stableHash_plain hplain, ok_bind, hsecret, ok_bind, hsecret, ok_bind, hsecret, ok_bind]
  refine ⟨_, rfl, ?_, encodable_cp _⟩
  simp [VerifierSecrets.configured, digestBytes_ne_nil]

theorem plain_default7d : PyJson.Plain Encodable (default7dFunctionalState sampleAround (cp "WEB")) := by
  simp [default7dFunctionalState, PyJson.plain_obj_iff, PyJson.plain_lit, plain_bool]

theorem plain_quiet : PyJson.Plain Encodable (quiet letters).value := by
  have hempty : PyJson.Plain Encodable (.list []) := .list _ (by simp)
  simp [DetourContext.value, quiet, PyJson.plain_obj_iff, PyJson.plain_str_iff, hempty, encodable_letters]

theorem plain_candidate {d : DetourContext} (hd : PyJson.Plain Encodable d.value) :
    PyJson.Plain Encodable (candidateOf d).value := by
  simp [Candidate.value, candidateOf, sampleCandidate, optional, PyJson.plain_obj_iff, PyJson.plain_str_iff,
    PyJson.plain_list_iff, PyJson.plain_lit, plain_bool, plain_int, hardRiskFlags, authorityEnvelope,
    lookupConditions, plain_samplePacket, hd, plain_default7d, encodable_letters, encodable_hashOf]

/-- The payload of such a request, around the hash of its candidate packet and the nonce. -/
def samplePayload (packet : PyVal) (nonce : PyStr) : Payload :=
  payloadOf sampleCandidate (sampleAround.timeValue 0) (cp "nonce:" ++ nonce)
    (cp "hash:" ++ hashOf packet) (some (cp "hash:" ++ hashOf (.str letters)))

theorem plain_payload {packet : PyVal} {nonce : PyStr} (h : Encodable nonce) :
    PyJson.Plain Encodable (.dict (samplePayload packet nonce)) := by
  have htime : PyJson.Plain Encodable (sampleAround.timeValue 0) := .float _
  change PyJson.Plain Encodable (obj _)
  simp [sampleCandidate, optional, PyJson.plain_obj_iff, PyJson.plain_str_iff, PyJson.plain_list_iff, PyJson.plain_lit,
    plain_bool, plain_int, definitionLock, authorityEnvelope, lookupConditions, plain_samplePacket, plain_default7d,
    encodable_letters, encodable_hashOf, htime, h]

/-- The characters of a hash. -/
theorem chars_of_isHex64 {s : PyStr} (h : Sha256.isHex64 s = true) :
    ∀ c ∈ s, (48 ≤ c ∧ c ≤ 58) ∨ (97 ≤ c ∧ c ≤ 122) := by
  intro c hc
  have hrange := List.all_eq_true.1 (Bool.and_eq_true_iff.1 h).2 c hc
  simp only [Bool.or_eq_true, Bool.and_eq_true, decide_eq_true_eq] at hrange
  omega

theorem chars_hashOf (v : PyVal) : ∀ c ∈ hashOf v, (48 ≤ c ∧ c ≤ 58) ∨ (97 ≤ c ∧ c ≤ 122) :=
  chars_of_isHex64 (Sha256.isHex64_hexdigest _)

theorem payload_sample {d : DetourContext} (hd : PyJson.Plain Encodable d.value) {runId : PyStr}
    (h : Encodable runId) : ∃ v : PyVal, buildCanonicalPayload sampleAround (candidateOf d) 0 runId =
      .ok (samplePayload (candidateOf d).value ((hashOf v).take 32)) := by
  have hcandidate := plain_candidate hd
  have hplain : PyJson.Plain Encodable (obj [("candidate", (candidateOf d).value), ("run_id", .str runId)]) := by
    simp [PyJson.plain_obj_iff, PyJson.plain_str_iff, hcandidate, h]
  have hletters : (candidateOf d).naturalLanguageExcerpt = letters := rfl
  have hsome : letters ≠ [] := by decide
  rw [buildCanonicalPayload, stableHash_plain hplain, ok_bind, hashRef_plain hcandidate, ok_bind, hletters,
    if_neg hsome, hashRef_plain (.str _ encodable_letters), ok_bind, pure_bind]
  exact ⟨_, rfl⟩

/-- A reference has none of the terms. -/
theorem driftFree_ref {s : PyStr} (name : String)
    (hname : ∀ c ∈ cp name, (48 ≤ c ∧ c ≤ 58) ∨ (97 ≤ c ∧ c ≤ 122))
    (hs : ∀ c ∈ s, (48 ≤ c ∧ c ≤ 58) ∨ (97 ≤ c ∧ c ≤ 122)) :
    DriftFree (PyJson.write PyJson.compact (.str (cp name ++ s))) := by
  refine driftFree_quote (driftFree_of_chars ?_)
  rw [List.forall_mem_append]
  exact ⟨hname, hs⟩

/-- The terms that a text without white space and of ASCII characters may have. -/
def asciiTerms : List String := ["generative_transmission_core", "gt_core", "core_technology"]

/-- A text does not begin with white space, a character outside ASCII or one of the three terms. -/
def startsClean (t : PyStr) : Bool :=
  t.headD 33 ≠ 32 && t.headD 33 < 128 && asciiTerms.all fun term => !(cp term).isPrefixOf t

/-- A text has none of the terms when none of its tails begins with what a term begins with. -/
theorem driftFree_of_startsClean {text : PyStr} (h : (lowerAscii text).tails.all startsClean = true) :
    DriftFree text := by
  have hother : ∀ term ∈ canonicalTerms, term ∈ asciiTerms ∨
      ((codes term).any fun c => !(c ≠ 32 && c < 128)) = true := by decide
  have hclean : ∀ t, t <:+ lowerAscii text → startsClean t = true := fun t ht =>
    List.all_eq_true.1 h t ((List.mem_tails _ _).2 ht)
  intro term hterm
  rcases hother term hterm with hmem | hchar
  · rw [occursIn, decide_eq_false_iff_not]
    intro hin
    obtain ⟨t, ht, hsuffix⟩ := List.infix_iff_prefix_suffix.1 hin
    have hnone := (Bool.and_eq_true_iff.1 (hclean t hsuffix)).2
    rw [List.all_eq_true] at hnone
    simpa [List.isPrefixOf_iff_prefix.2 ht] using hnone term hmem
  · refine not_occursIn (fun c hc => ?_) hchar
    obtain ⟨a, b, hab⟩ := List.append_of_mem hc
    exact (Bool.and_eq_true_iff.1 (hclean (c :: b) ⟨a, hab.symm⟩)).1

set_option maxRecDepth 8000 in
theorem driftFree_packet : DriftFree (PyJson.write PyJson.compact samplePacket) := by
  refine driftFree_of_startsClean ?_
  unfold startsClean
  simp only [asciiTerms, samplePacket, sampleRef, sampleCoordinate, obj, fields, lit, key,
    AbsoluteIndex.architectureOrder, List.map_cons, List.map_nil, List.all_cons, List.all_nil, cp_eq_codes]
  decide +kernel

set_option maxRecDepth 8000 in
/-- The rest of the payload that is the same for every request has none of the terms. -/
theorem driftFree_constants : ∀ v ∈ [authorityEnvelope, definitionLock, lookupConditions,
    default7dFunctionalState sampleAround (cp "WEB"), sampleAround.timeValue 0, lit "user1",
    lit "route_local", lit "intent_order_latte"], DriftFree (PyJson.write PyJson.compact v) := by
  have hchannel : sampleAround.upper (cp "WEB") = cp "WEB" := by decide
  have hclean : ∀ v ∈ [authorityEnvelope, definitionLock, lookupConditions,
      default7dFunctionalState sampleAround (cp "WEB"), sampleAround.timeValue 0, lit "user1",
      lit "route_local", lit "intent_order_latte"],
      (lowerAscii (PyJson.write PyJson.compact v)).tails.all startsClean = true := by
    rw [default7dFunctionalState, hchannel]
    unfold startsClean
    simp only [asciiTerms, authorityEnvelope, definitionLock, lookupConditions, obj, fields, lit, key,
      List.map_cons, List.map_nil, List.all_cons, List.all_nil, cp_eq_codes]
    decide
  exact fun v hv => driftFree_of_startsClean (hclean v hv)

set_option maxRecDepth 8000 in
/-- The ADI verifier passes the packet. -/
theorem adi_sample : (AbsoluteIndex.verifyPacket sampleAround.index samplePacket : Except Fault PyVal).toOption.map
    (fun r => (r.get "DRY_RUN").eq (lit "PASS")) = some true := by
  simp only [samplePacket, sampleRef, sampleCoordinate, obj, fields, lit, key, AbsoluteIndex.verifyPacket,
    AbsoluteIndex.checkP10a, AbsoluteIndex.checkArchitecture, AbsoluteIndex.checkAdi,
    AbsoluteIndex.checkDimensions, AbsoluteIndex.checkDimension, AbsoluteIndex.checkLookupAndVerifier,
    AbsoluteIndex.checkSafety, AbsoluteIndex.checkHashChain, AbsoluteIndex.sectionOf, PyVal.get,
    AbsoluteIndex.isHashRef, AbsoluteIndex.hits, AbsoluteIndex.occursFolded, AbsoluteIndex.disclosesH64Td,
    AbsoluteIndex.disclosesAfter, AbsoluteIndex.namesDimensions, AbsoluteIndex.allowedDecisions,
    AbsoluteIndex.setIs, AbsoluteIndex.resultOf, AbsoluteIndex.mark, AbsoluteIndex.checksOf,
    AbsoluteIndex.requiredDimensions, AbsoluteIndex.architectureOrder, List.mapM_cons, List.mapM_nil,
    List.map_cons, List.map_nil, cp_eq_codes]
  decide +kernel

/-- A key of a literal without the terms. -/
theorem driftFree_keys : ∀ k ∈ ["adi_5d_absolute_index", "authority_envelope_8d", "candidate_packet_ref",
    "delta_D1", "delta_D4", "env_D8", "functional_state_7d", "generative_transmission_definition_lock",
    "lookup_reference_reconstruction_conditions", "natural_language_candidate_excerpt",
    "natural_language_candidate_hash", "nonce", "proof_D7", "ref_D2", "timestamp"],
    DriftFree ((cp k).flatMap escapeChar) := by
  have hclean : ∀ k ∈ ["adi_5d_absolute_index", "authority_envelope_8d", "candidate_packet_ref",
      "delta_D1", "delta_D4", "env_D8", "functional_state_7d", "generative_transmission_definition_lock",
      "lookup_reference_reconstruction_conditions", "natural_language_candidate_excerpt",
      "natural_language_candidate_hash", "nonce", "proof_D7", "ref_D2", "timestamp"],
      (lowerAscii ((cp k).flatMap escapeChar)).tails.all startsClean = true := by
    unfold startsClean
    simp only [asciiTerms, List.all_cons, List.all_nil, cp_eq_codes]
    decide
  exact fun k hk => driftFree_of_startsClean (hclean k hk)

/-- The signed payload has none of the terms. -/
theorem drift_sample {packet : PyVal} {nonce proof : PyStr} (hnonce : ∀ c ∈ nonce, (48 ≤ c ∧ c ≤ 58) ∨ (97 ≤ c ∧ c ≤ 122))
    (hproof : ∀ c ∈ proof, (48 ≤ c ∧ c ≤ 58) ∨ (97 ≤ c ∧ c ≤ 122)) :
    DriftFree (PyJson.write PyJson.compact
      (.dict (setKey (cp "proof_D7") (.str proof) (samplePayload packet nonce)))) := by
  have hkeys := driftFree_keys
  have hconstants := driftFree_constants
  simp only [List.forall_mem_cons, List.not_mem_nil, IsEmpty.forall_iff, implies_true, and_true] at hkeys hconstants
  obtain ⟨hk1, hk2, hk3, hk4, hk5, hk6, hk7, hk8, hk9, hk10, hk11, hk12, hk13, hk14, hk15⟩ := hkeys
  obtain ⟨hc1, hc2, hc3, hc4, hc5, hc6, hc7, hc8⟩ := hconstants
  have hletters : ∀ c ∈ letters, (48 ≤ c ∧ c ≤ 58) ∨ (97 ≤ c ∧ c ≤ 122) := by
    intro c hc
    rw [List.eq_of_mem_replicate hc]
    decide
  have henv : DriftFree (PyJson.write PyJson.compact
      (obj [("nonce", .str (cp "nonce:" ++ nonce)), ("timestamp", sampleAround.timeValue 0)])) := by
    refine driftFree_dict ?_
    simp only [fields, List.map_cons, List.map_nil, List.forall_mem_cons, List.not_mem_nil, IsEmpty.forall_iff,
      implies_true, and_true]
    exact ⟨⟨⟨_, rfl, hk12⟩, driftFree_ref "nonce:" (by decide) hnonce⟩, ⟨_, rfl, hk15⟩, hc5⟩
  have hitems : ∀ p ∈ samplePayload packet nonce, (∃ s, p.1 = .str s ∧ DriftFree (s.flatMap escapeChar)) ∧
      DriftFree (PyJson.write PyJson.compact p.2) := by
    simp only [samplePayload, payloadOf, sampleCandidate, optional, fields, List.map_cons, List.map_nil,
      Option.map_some, Option.toList_some, List.cons_append, List.nil_append, List.forall_mem_cons,
      List.not_mem_nil, IsEmpty.forall_iff, implies_true, and_true]
    exact ⟨⟨⟨_, rfl, hk1⟩, driftFree_packet⟩, ⟨⟨_, rfl, hk2⟩, hc1⟩,
      ⟨⟨_, rfl, hk3⟩, driftFree_ref "hash:" (by decide) (chars_hashOf _)⟩, ⟨⟨_, rfl, hk4⟩, hc6⟩,
      ⟨⟨_, rfl, hk5⟩, hc7⟩, ⟨⟨_, rfl, hk6⟩, henv⟩, ⟨⟨_, rfl, hk7⟩, hc4⟩, ⟨⟨_, rfl, hk8⟩, hc2⟩,
      ⟨⟨_, rfl, hk9⟩, hc3⟩, ⟨⟨_, rfl, hk10⟩, driftFree_quote (driftFree_of_chars hletters)⟩,
      ⟨⟨_, rfl, hk11⟩, driftFree_ref "hash:" (by decide) (chars_hashOf _)⟩, ⟨_, rfl, hk14⟩, hc8⟩
  refine driftFree_dict fun p hp => ?_
  rcases mem_setKey hp with rfl | hp
  · exact ⟨⟨_, rfl, hk13⟩, driftFree_quote (driftFree_of_chars hproof)⟩
  · exact hitems p hp

/-- The ADI verifier finds nothing in a packet it passes. -/
theorem checkAdi_of_passes {around : Surroundings} {packet : PyVal} (h : AdiPasses around.index packet) :
    ∃ result, checkAdi around (some packet) = .ok (result, []) := by
  obtain ⟨result, hresult, hpass⟩ := h
  obtain ⟨p10a, architecture, adi, dimensions, lookup, safety, hashChain, rfl⟩ :=
    AbsoluteIndex.of_verifyPacket hresult
  have hnone : p10a ++ architecture ++ adi ++ dimensions ++ lookup ++ safety ++ hashChain = [] := by
    by_contra hsome
    have hne : lit "FAIL" ≠ lit "PASS" := by simp [lit, cp_inj]
    rw [AbsoluteIndex.resultOf, AbsoluteIndex.mark, if_neg hsome] at hpass
    exact hne (by simpa using hpass)
  obtain ⟨-, errors, -, herrors, -⟩ := gate_of_result hresult
  have hfound : getOr (AbsoluteIndex.resultOf packet p10a architecture adi dimensions lookup safety hashChain)
      "ERRORS" (.list []) = .ok (.list ([].map lit)) := by
    rw [← hnone]
    simp [AbsoluteIndex.resultOf, getOr, obj]
  refine ⟨AbsoluteIndex.resultOf packet p10a architecture adi dimensions lookup safety hashChain, ?_⟩
  rw [checkAdi, hresult, ok_bind, hfound]
  rfl

theorem adiPasses_sample : AdiPasses sampleAround.index samplePacket := by
  have hsample := adi_sample
  cases hresult : (AbsoluteIndex.verifyPacket sampleAround.index samplePacket : Except Fault PyVal) with
  | error e =>
      rw [hresult] at hsample
      cases hsample
  | ok result =>
      rw [hresult] at hsample
      exact ⟨result, hresult, PyVal.eq_lit.1 (Option.some.inj hsample)⟩

section Verdict

variable {packet : PyVal} {nonce proof : PyStr} {k : String}

theorem env_sample : (samplePayload packet nonce).get "env_D8" =
    obj [("nonce", .str (cp "nonce:" ++ nonce)), ("timestamp", sampleAround.timeValue 0)] := by
  change (obj _).get _ = _
  simp [sampleCandidate, optional]

theorem required_sample :
    required.all (Payload.has (setKey (cp "proof_D7") (.str proof) (samplePayload packet nonce))) = true := by
  have hkept : ∀ k ∈ ["delta_D1", "ref_D2", "delta_D4", "env_D8"],
      ∃ v, getItem (samplePayload packet nonce) (cp k) = some v := by
    simp only [List.forall_mem_cons, List.not_mem_nil, IsEmpty.forall_iff, implies_true, and_true]
    change (∃ v, getItem (fields _) _ = _) ∧ (∃ v, getItem (fields _) _ = _) ∧ (∃ v, getItem (fields _) _ = _) ∧
      ∃ v, getItem (fields _) _ = _
    simp [sampleCandidate, optional]
  simp only [List.forall_mem_cons, List.not_mem_nil, IsEmpty.forall_iff, implies_true, and_true] at hkept
  obtain ⟨⟨v1, h1⟩, ⟨v2, h2⟩, ⟨v3, h3⟩, v4, h4⟩ := hkept
  simp [required, Payload.has, getItem_setKey, cp_inj, h1, h2, h3, h4]

/-- The signed payload of the request is cleared. -/
theorem cleared_sample {secrets : VerifierSecrets} (hconfigured : secrets.configured = true)
    (hproof : signD7Packet (samplePayload packet nonce) secrets.d7Secret = .ok proof) :
    Cleared secrets verifierConfig (setKey (cp "proof_D7") (.str proof) (samplePayload packet nonce)) 0
      (cp "nonce:" ++ nonce) (.finite 0) := by
  have henv : Payload.get (setKey (cp "proof_D7") (.str proof) (samplePayload packet nonce)) "env_D8" =
      obj [("nonce", .str (cp "nonce:" ++ nonce)), ("timestamp", sampleAround.timeValue 0)] := by
    rw [get_setKey_ne _ (by decide), env_sample]
  have htimestamp : floatOf (sampleAround.timeValue 0) = .ok (.finite 0) := by decide +kernel
  have hnamed : nonceOf (obj [("nonce", .str (cp "nonce:" ++ nonce)), ("timestamp", sampleAround.timeValue 0)]) =
      some (cp "nonce:" ++ nonce) := by
    have hget : (obj [("nonce", .str (cp "nonce:" ++ nonce)), ("timestamp", sampleAround.timeValue 0)]).get
        "nonce" = .str (cp "nonce:" ++ nonce) := by simp
    have hcons : cp "nonce:" ++ nonce = 110 :: (cp "once:" ++ nonce) := rfl
    have htime : (obj [("nonce", .str (cp "nonce:" ++ nonce)), ("timestamp", sampleAround.timeValue 0)]).get
        "timestamp" = sampleAround.timeValue 0 := by simp
    rw [nonceOf, hget, htime, hcons]
    rfl
  refine ⟨hconfigured, required_sample, ?_, ?_, ?_, ?_, verify_of_sign hproof⟩
  · rw [henv]
    rfl
  · rw [henv, hnamed]
  · rw [timestampOf, henv]
    simpa using htimestamp
  · simp [beyondTtl, verifierConfig]

/-- The canonical verifier allows the request. -/
theorem canonical_sample {d : DetourContext} (hd : PyJson.Plain Encodable d.value) {runId : PyStr}
    (h : Encodable runId) :
    ∃ log, canonicalVerdict sampleAround (candidateOf d) 0 runId = .ok (.allow, log) := by
  obtain ⟨secrets, hsecrets, hconfigured, hversion⟩ := verifierSecrets_ok h
  obtain ⟨v, hpayload⟩ := payload_sample hd h
  have hnonce : ∀ c ∈ (hashOf v).take 32, (48 ≤ c ∧ c ≤ 58) ∨ (97 ≤ c ∧ c ≤ 122) :=
    fun c hc => chars_hashOf v c (List.mem_of_mem_take hc)
  have hencodable : Encodable ((hashOf v).take 32) := fun c hc => encodable_hashOf v c (List.mem_of_mem_take hc)
  generalize (hashOf v).take 32 = nonce at hpayload hnonce hencodable
  generalize (candidateOf d).value = packet at hpayload
  have hplain := @plain_payload packet nonce hencodable
  have hdict : ((samplePayload packet nonce).get "env_D8").isDict = true := by
    rw [env_sample]
    rfl
  obtain ⟨proof, hproof, -⟩ := exists_signD7Packet hplain hdict secrets.d7Secret
  have hchars : ∀ c ∈ proof, (48 ≤ c ∧ c ≤ 58) ∨ (97 ≤ c ∧ c ≤ 122) := by
    obtain ⟨core, -, hhmac⟩ := bind_eq_ok_iff.1 hproof
    obtain ⟨bytes, -, hhmac⟩ := bind_eq_ok_iff.1 hhmac
    obtain rfl := pure_eq_ok_iff.1 hhmac
    exact chars_of_isHex64 (Sha256.isHex64_hmac _ _)
  have hsigned : PyJson.Plain Encodable (.dict (setKey (cp "proof_D7") (.str proof) (samplePayload packet nonce))) := by
    refine hplain.setKey (encodable_cp _) (.str _ fun c hc => ?_)
    have hrange := hchars c hc
    unfold IsSurrogate
    omega
  have hget : ∀ {k : String} {v : PyVal}, k ≠ "proof_D7" → (samplePayload packet nonce).get k = v →
      Payload.get (setKey (cp "proof_D7") (.str proof) (samplePayload packet nonce)) k = v := by
    intro k v hk hv
    rw [get_setKey_ne _ hk, hv]
  have hadi := hget (k := "adi_5d_absolute_index") (v := samplePacket) (by decide) (by
    change (obj _).get _ = _
    simp [sampleCandidate, optional])
  have hasked : Asked sampleAround.library (setKey (cp "proof_D7") (.str proof) (samplePayload packet nonce)) := by
    refine ⟨?_, ?_⟩
    · have hfree := @drift_sample packet nonce proof hnonce hchars
      have hany : ∀ terms : List String, (∀ term ∈ terms, term ∈ canonicalTerms) →
          terms.any (occursIn (lowerAscii (PyJson.write PyJson.compact (.dict
            (setKey (cp "proof_D7") (.str proof) (samplePayload packet nonce)))))) = false := by
        intro terms hterms
        rw [List.any_eq_false]
        intro term hterm
        simpa using hfree term (hterms term hterm)
      rw [Canonical8D.checkGtDefinitionDrift, (canonicalJson_ok hsigned).1, ok_bind]
      dsimp only [Surroundings.library, sampleAround]
      rw [hany coreMarkers fun term hterm => List.mem_append_left _ hterm,
        hany forbiddenAdiTerms fun term hterm => List.mem_append_right _ hterm]
      rfl
    · rw [hadi]
      rfl
  have hvector : map8dTo5elements sampleAround.library (setKey (cp "proof_D7") (.str proof) (samplePayload packet nonce)) =
      .ok (["metal_gov_strict::res_pos1", "wood_task_01", "water_route_local",
        "fire_state_draft::env_verified", "earth_id_user1::sig_verified"].map cp) := by
    have hid : ∀ s : String, sampleAround.library.format (lit s) = cp s := fun _ => rfl
    have hd2 := hget (k := "ref_D2") (v := lit "intent_order_latte") (by decide) (by
      change (obj _).get _ = _
      simp [sampleCandidate, optional])
    have hd4 := hget (k := "delta_D4") (v := lit "route_local") (by decide) (by
      change (obj _).get _ = _
      simp [sampleCandidate, optional])
    have hd1 := hget (k := "delta_D1") (v := lit "user1") (by decide) (by
      change (obj _).get _ = _
      simp [sampleCandidate, optional])
    have horacle : staticOracle (lit "intent_order_latte") = .ok (cp "wood_task_01") := by
      have heq : PyVal.eq (lit "intent_order_latte") (lit "intent_order_latte") = true := PyVal.eq_lit.2 rfl
      change (Except.ok (if _ then _ else _) : Except Fault PyStr) = _
      rw [if_pos heq]
    rw [map8dTo5elements, hd2, horacle, ok_bind, hd4, hd1, hid, hid]
    rfl
  obtain ⟨log, hlog⟩ := @allowed_of_cleared sampleAround.library secrets verifierConfig
    ⟨setKey (cp "proof_D7") (.str proof) (samplePayload packet nonce), 0, cp "run_" ++ sampleAround.callName,
      AbsoluteIndex.verifyPacket sampleAround.index⟩ sampleAround.index _ _ hsigned
    (cleared_sample hconfigured hproof) rfl hasked (by rw [hadi]; exact adiPasses_sample) _ hvector
    (by simp [evaluate]) (by simp) (.float _)
    (encodable_append.2 ⟨encodable_cp _, encodable_cp _⟩) ⟨hversion, encodable_cp _⟩
  refine ⟨log, ?_⟩
  rw [canonicalVerdict, hsecrets, ok_bind, hpayload, ok_bind, signCanonicalPayload, hproof, ok_bind, pure_bind]
  exact hlog

end Verdict

/-- The checks beside the terms pass such a candidate when its context is one they pass. -/
theorem othersPass_sample {d : DetourContext} (hd : PyJson.Plain Encodable d.value)
    (hdetour : checkDetourAlertHardGate sampleAround d letters = []) :
    OthersPass sampleAround (candidateOf d) 0 := by
  have hcandidate := plain_candidate hd
  have hplain : PyJson.Plain Encodable
      (obj [("candidate", (candidateOf d).value), ("now", sampleAround.timeValue 0)]) := by
    have htime : PyJson.Plain Encodable (sampleAround.timeValue 0) := .float _
    simp [PyJson.plain_obj_iff, hcandidate, htime]
  have hname : Encodable (cp "TOTAL_FIELD_GATE_" ++ (hashOf (obj [("candidate", (candidateOf d).value),
      ("now", sampleAround.timeValue 0)])).take 16) :=
    encodable_append.2 ⟨encodable_cp _, fun c hc => encodable_hashOf _ c (List.mem_of_mem_take hc)⟩
  obtain ⟨log, hlog⟩ := canonical_sample hd hname
  have hchannel : checkChannelCandidate (candidateOf d) = [] := by
    have hweb : (candidateOf d).sourceChannel ≠ cp "LINE" := by simp [candidateOf, sampleCandidate, cp_inj]
    rw [checkChannelCandidate, if_pos hweb]
  exact ⟨hdetour, checkAdi_of_passes adiPasses_sample, functional_sample, hchannel, _, log,
    stableHash_plain hplain, hlog⟩

/-- The request is admissible. -/
theorem admissible_sample : Admissible sampleAround sampleRequest 0 := by
  have hdetour := detour_sample
  rw [context_sample] at hdetour
  exact ⟨sampleCandidate, normalize_sample, othersPass_sample plain_quiet hdetour⟩

set_option maxRecDepth 8000 in
/-- The letters have none of the terms. -/
theorem clean_letters : Clean sampleAround letters := by
  have hchars : ∀ c ∈ sampleAround.lower letters, (c == 97) = true := by decide
  have hterms : ∀ term ∈ hardRiskTerms ++ adiDriftTerms ++ gtForbiddenCoreTerms,
      ((codes term).any fun c => !(c == 97)) = true := by decide
  have hnone : ∀ term ∈ hardRiskTerms ++ adiDriftTerms ++ gtForbiddenCoreTerms,
      occursIn (sampleAround.lower letters) term = false :=
    fun term hterm => not_occursIn hchars (hterms term hterm)
  exact ⟨fun term hterm => hnone term (by simp [hterm]), fun term hterm => hnone term (by simp [hterm]),
    fun marker hmarker term hterm hboth => by simpa [hnone term (by simp [hterm])] using hboth.2⟩

/-- The gate passes a request whose text asks for a deployment behind 700 letters. -/
theorem gate_passes_long_text :
    (∃ report, runTotalFieldGate sampleAround sampleRequest 0 = .ok report ∧ report.decision = .pass) ∧
      ¬Clean sampleAround (wholeText (sourceOf sampleRequest)) := by
  refine ⟨pass_iff.2 ⟨admissible_sample, ?_, ?_⟩, fun hclean => ?_⟩
  · rw [extract_sample]
    exact clean_letters
  · intro k hk
    have hkeys : ∀ k ∈ hardRiskFlags, k ≠ "adi_5d_absolute_index" ∧ k ≠ "text" := by decide
    rw [get_source (hkeys k hk).1 (hkeys k hk).2]
    rfl
  · have hrisk := hclean.noRisk "deploy" (by decide)
    have hlower : sampleAround.lower (letters ++ cp "deploy") = lowerAscii letters ++ cp "deploy" := by
      change lowerAscii _ = _
      rw [lowerAscii, List.map_append]
      rfl
    rw [whole_sample, hlower, occursIn, decide_eq_false_iff_not] at hrisk
    exact hrisk (List.suffix_append _ _).isInfix

end FinalStateGate
