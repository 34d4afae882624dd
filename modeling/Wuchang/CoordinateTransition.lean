/-
**D3 coordinate transitions, and the records of them.**

`d3_coordinate_transition_candidate.py` merges a rule's and a caller's changes into a coordinate, asks two
gates for a decision, and writes a record with a hash over it (`transition_coordinate`).  A second function
recomputes the proposal and the hash of a record (`verify_transition_record`).

The two are written separately.  What the engine returns is always verified; the verifier compares with
`==`, which does not tell `1`, `1.0` and `True` apart, and does not look at the reason of the decision.

Main definitions:

* `CoordinateTransition.deepMerge`, `CoordinateTransition.proposeCoordinate` — the proposal;
* `CoordinateTransition.transitionCoordinate`, `CoordinateTransition.verifyTransitionRecord` — the engine and
  the verifier;
* `CoordinateTransition.Passes` — what the verifier asks of a record;
* `CoordinateTransition.Literal` — the fields the verifier does not compare strictly are the engine's.

Main results:

* `CoordinateTransition.valid_iff_passes` — the verifier is its specification;
* `CoordinateTransition.produced_iff` — the engine returns the records that pass and are literal;
* `CoordinateTransition.valid_iff_produced_iff` — engine and verifier agree on all other records.
-/

import Wuchang.PyEq
import Wuchang.PyJson
import Wuchang.Sha256

set_option relaxedAutoImplicit false
set_option autoImplicit false

namespace CoordinateTransition

open Py

/-- An exception: a `D3TransitionValidationError` with its message, or one of the interpreter's. -/
abbrev Fault := Raise PyStr

/-- `SCHEMA_VERSION` -/
def schemaVersion : String := "w7tp.d3-coordinate-transition.v0.3-candidate"

/-- `DECISIONS` -/
def decisions : List String := ["ALLOW", "HOLD", "BLOCK", "QUARANTINE"]

/-- `D7_REFERENCE_KEYS` -/
def d7ReferenceKeys : List String :=
  ["rule_ref", "table_ref", "template_ref", "routing_ref", "reconstruction_condition"]

/-- `SENSITIVE_KEYS` -/
def sensitiveKeys : List String := ["api_key", "member_plaintext", "password", "raw_credentials", "raw_key",
  "raw_token", "resident_plaintext", "token"]

/-! ### Canonical texts -/

/-- `canonical_json` -/
def canonicalJson (v : PyVal) : Except Fault PyStr :=
  if PyJson.serialisable v ∧ PyJson.allFinite v then .ok (PyJson.write PyJson.compact v)
  else .error (.own (cp "輸入包含 NaN、Infinity 或不可序列化值"))

/-- `_deepcopy_json` -/
def deepcopyJson (v : PyVal) : Except Fault PyVal := do
  let _ ← canonicalJson v
  pure v

theorem deepcopyJson_eq_ok_iff {v w : PyVal} : deepcopyJson v = .ok w ↔
    (PyJson.serialisable v = true ∧ PyJson.allFinite v = true) ∧ w = v := by
  rw [deepcopyJson, canonicalJson]
  split_ifs with h
  · exact ⟨fun heq => ⟨h, (pure_eq_ok_iff.1 heq).symm⟩, fun heq => congrArg _ heq.2.symm⟩
  · exact iff_of_false (by simp) fun heq => h heq.1

/-- `v.get(k, default)` -/
def getOr (v : PyVal) (k : String) (default : PyVal) : Except Fault PyVal :=
  match v with
  | .dict items => .ok ((getItem items (cp k)).getD default)
  | _ => .error (.builtin .attributeError)

/-! ### The rules -/

/-- `load_candidate_rule_registry`, of what the file stands for. -/
def loadCandidateRuleRegistry (file : Except Fault PyVal) : Except Fault PyVal := do
  let registry ← file
  let status ← getOr registry "status" .none
  raiseIf (¬pyEq status (lit "CANDIDATE_NON_CANONICAL")) (cp "規則表未明確標記為 candidate")
  let events ← getOr registry "events" .none
  raiseIf (¬events.isDict) (cp "candidate 規則表缺少 events")
  deepcopyJson registry

/-- The rules a call uses: those it is given, or those of the file. -/
def registryOf (file : Except Fault PyVal) : Option PyVal → Except Fault PyVal
  | some registry => deepcopyJson registry
  | none => loadCandidateRuleRegistry file

/-- `code in events` -/
def contains (events : PyVal) (code : PyStr) : Except Fault Bool :=
  match events with
  | .dict items => .ok (getItem items code).isSome
  | .list xs => .ok (xs.any fun x => pyEq x (.str code))
  | .str s => .ok (s.tails.any fun rest => code.isPrefixOf rest)
  | _ => .error (.builtin .typeError)

/-- `events[code]` -/
def item (events : PyVal) (code : PyStr) : Except Fault PyVal :=
  match events with
  | .dict items =>
      match getItem items code with
      | some rule => .ok rule
      | none => .error (.builtin .keyError)
  | _ => .error (.builtin .typeError)

/-! ### The inputs -/

/-- A text that is not empty; anything else raises. -/
def nonEmptyText (v : PyVal) (message : String) : Except Fault PyStr :=
  match v with
  | .str (c :: s) => .ok (c :: s)
  | _ => .error (.own (cp message))

/-- `v is None or v == ""` -/
def isAbsent : PyVal → Bool
  | .none => true
  | .str [] => true
  | _ => false

/-- The keys of an object that are not in a list. -/
def unsupportedKeys (items : Items) (allowed : List String) : List PyStr :=
  items.filterMap fun p =>
    match p.1 with
    | .str k => if allowed.any fun a => cp a = k then none else some k
    | .other => none

/-- `_validate_d7_reference` -/
def validateD7Reference (eventCode : PyStr) (context rule : PyVal) : Except Fault Unit :=
  match context.get "d7_reference" with
  | .none => do
      let required ← getOr rule "d7_reference_required" .none
      raiseIf required.truthy (cp "此事件缺少 D7 生成式傳輸或路由 reference")
  | .dict d7Reference => do
      raiseIf (unsupportedKeys d7Reference d7ReferenceKeys ≠ [])
        (cp "D7 僅允許生成式傳輸或路由 reference: " ++
          (cp ",").intercalate (unsupportedKeys d7Reference d7ReferenceKeys))
      raiseIf (eventCode = cp "GENERATIVE_TRANSMISSION" ∧ d7Reference.length = 0)
        (cp "此事件缺少 D7 生成式傳輸或路由 reference")
  | _ => .error (.own (cp "context.d7_reference 必須是 object"))

/-- What `_validate_inputs` returns. -/
structure Inputs where
  previous : PyVal
  eventCode : PyStr
  eventId : PyStr
  logicalTime : PyVal
  ruleRef : PyStr
  context : PyVal
  rule : PyVal

/-- `_validate_inputs` -/
def validateInputs (previousCoord eventCode eventId logicalTime ruleRef context registry : PyVal) :
    Except Fault Inputs := do
  raiseIf (¬previousCoord.isDict) (cp "previous_coord 必須是 object")
  let code ← nonEmptyText eventCode "缺少必要輸入: event_code"
  let events ← registry.at "events"
  let known ← contains events code
  raiseIf (¬known) (cp "未登錄於目前規則表的事件碼")
  let id ← nonEmptyText eventId "缺少必要輸入: event_id"
  raiseIf (isAbsent logicalTime) (cp "缺少必要輸入: logical_time")
  let ref ← nonEmptyText ruleRef "缺少必要輸入: rule_ref"
  raiseIf (¬context.isDict) (cp "context 必須是 object")
  let previousCopy ← deepcopyJson previousCoord
  let contextCopy ← deepcopyJson context
  let logicalTimeCopy ← deepcopyJson logicalTime
  let found ← item events code
  let rule ← deepcopyJson found
  let delta ← getOr contextCopy "coordinate_delta" (.dict [])
  raiseIf (¬delta.isDict) (cp "context.coordinate_delta 必須是 object")
  validateD7Reference code contextCopy rule
  pure ⟨previousCopy, code, id, logicalTimeCopy, ref, contextCopy, rule⟩

/-! ### The proposal -/

mutual

/-- The value of a key, when a change is merged into what was there. -/
def mergeValue (old : Option PyVal) : PyVal → PyVal
  | .dict delta =>
      match old with
      | some (.dict base) => .dict (deepMerge base delta)
      | _ => .dict delta
  | v => v

/-- `_deep_merge` -/
def deepMerge (base : Items) : Items → Items
  | [] => base
  | (.str k, v) :: delta => deepMerge (setKey k (mergeValue (getItem base k) v) base) delta
  | (.other, _) :: delta => deepMerge base delta

end

/-- The items of an object. -/
def itemsOf : PyVal → Items
  | .dict items => items
  | _ => []

/-- `_propose_coordinate` -/
def proposeCoordinate (previous context rule : PyVal) : Except Fault PyVal := do
  let baseDelta ← getOr rule "base_delta" (.dict [])
  raiseIf (¬baseDelta.isDict) (cp "candidate rule base_delta 必須是 object")
  let delta ← getOr context "coordinate_delta" (.dict [])
  pure (.dict (deepMerge (deepMerge (itemsOf previous) (itemsOf baseDelta)) (itemsOf delta)))

/-! ### The gates -/

/-- A gate: what it returns for a payload, or raises. -/
abbrev Gate := PyVal → Except Fault PyVal

mutual

/-- A key of the value, or of a value inside it, is sensitive. -/
def hasSensitiveKey : PyVal → Bool
  | .dict items => hasSensitiveItem items
  | .list xs => hasSensitiveElement xs
  | _ => false

/-- One of the items has a sensitive key. -/
def hasSensitiveItem : Items → Bool
  | [] => false
  | (.str k, v) :: items =>
      (sensitiveKeys.any fun name => cp name = lowerAscii k) || hasSensitiveKey v || hasSensitiveItem items
  | (.other, v) :: items => hasSensitiveKey v || hasSensitiveItem items

/-- One of the elements has a sensitive key. -/
def hasSensitiveElement : List PyVal → Bool
  | [] => false
  | x :: xs => hasSensitiveKey x || hasSensitiveElement xs

end

/-- `{"decision": …, "reason_code": …}` -/
def decided (decision reasonCode : PyVal) : PyVal := obj [("decision", decision), ("reason_code", reasonCode)]

/-- `candidate_d6_sovereign_privacy_gate` -/
def candidateD6SovereignPrivacyGate : Gate := fun payload =>
  if hasSensitiveKey (payload.get "proposed") || hasSensitiveKey (payload.get "context") then
    .ok (decided (lit "HOLD") (lit "D6_SENSITIVE_KEY_PRESENT"))
  else .ok (decided (lit "ALLOW") (lit "D6_CANDIDATE_PRIVACY_ALLOW"))

/-- `candidate_d8_gate` -/
def candidateD8Gate : Gate := fun payload => do
  let d6Result ← payload.at "d6_result"
  let decision ← d6Result.at "decision"
  if ¬pyEq decision (lit "ALLOW") then do
    let reasonCode ← d6Result.at "reason_code"
    pure (decided decision reasonCode)
  else pure (decided (lit "ALLOW") (lit "D8_CANDIDATE_ALLOW"))

/-- `_validate_gate_result`: the decision and its reason. -/
def validateGateResult (name : String) (value : PyVal) : Except Fault (PyVal × PyStr) := do
  raiseIf (¬value.isDict) (cp (name ++ " gate 必須回傳 mapping"))
  let known ← inTexts (value.get "decision") decisions
  raiseIf (¬known) (cp (name ++ " gate 回傳未知 decision"))
  let reasonCode ← nonEmptyText (value.get "reason_code") (name ++ " gate 缺少穩定 reason_code")
  pure (value.get "decision", reasonCode)

/-! ### The engine -/

/-- The fields of a transition record but its hash. -/
structure Draft where
  commitApplied : PyVal
  committed : PyVal
  context : PyVal
  decisionReason : PyVal
  eventCode : PyVal
  eventId : PyVal
  finalDecision : PyVal
  logicalTime : PyVal
  previous : PyVal
  proposed : PyVal
  ruleRef : PyVal
  schemaVersion : PyVal

/-- The fields by their names, in the order of the names. -/
def Draft.fields (draft : Draft) : List (String × PyVal) := [
  ("commit_applied", draft.commitApplied), ("committed", draft.committed), ("context", draft.context),
  ("decision_reason", draft.decisionReason), ("event_code", draft.eventCode), ("event_id", draft.eventId),
  ("final_decision", draft.finalDecision), ("logical_time", draft.logicalTime),
  ("previous", draft.previous), ("proposed", draft.proposed), ("rule_ref", draft.ruleRef),
  ("schema_version", draft.schemaVersion)]

/-- A transition record. -/
structure Record extends Draft where
  transitionHash : PyVal

/-- The items of a record. -/
def Record.items (record : Record) : Items :=
  Py.fields (record.toDraft.fields ++ [("transition_hash", record.transitionHash)])

/-- A record as a dictionary. -/
def Record.value (record : Record) : PyVal := .dict record.items

/-- The fields that are hashed. -/
def hashedFields : List String := ["commit_applied", "committed", "context", "decision_reason", "event_code",
  "event_id", "final_decision", "logical_time", "previous", "proposed", "rule_ref", "schema_version"]

/-- `_hash_payload` -/
def hashPayload (record : PyVal) : Except Fault PyVal := do
  let values ← hashedFields.mapM fun k => do
    let v ← record.at k
    pure (k, v)
  pure (obj values)

/-- `calculate_transition_hash` -/
def calculateTransitionHash (record : PyVal) : Except Fault PyStr := do
  let payload ← hashPayload record
  let serialized ← canonicalJson payload
  let bytes ← encodeUtf8 serialized
  pure (Sha256.hexdigest bytes)

section Functions

variable (file : Except Fault PyVal) (ruleRegistry : Option PyVal)

/-- The payload of the gates. -/
def gatePayload (inputs : Inputs) (proposed : PyVal) : List (String × PyVal) := [
  ("context", inputs.context), ("event_code", .str inputs.eventCode), ("event_id", .str inputs.eventId),
  ("logical_time", inputs.logicalTime), ("previous", inputs.previous), ("proposed", proposed),
  ("rule_ref", .str inputs.ruleRef), ("schema_version", lit schemaVersion)]

/-- The decision of the two gates, and its reason. -/
def gateDecision (d6Gate d8Gate : Gate) (inputs : Inputs) (proposed : PyVal) : Except Fault (PyVal × PyStr) := do
  let d6Value ← d6Gate (obj (gatePayload inputs proposed))
  let (d6Decision, d6Reason) ← validateGateResult "D6" d6Value
  let d8Payload := setField "d6_result" (decided d6Decision (.str d6Reason)) (gatePayload inputs proposed)
  let d8Value ← d8Gate (obj d8Payload)
  let (d8Decision, d8Reason) ← validateGateResult "D8" d8Value
  if ¬pyEq d6Decision (lit "ALLOW") then pure (d6Decision, d6Reason) else pure (d8Decision, d8Reason)

/-- What a record says but for its hash, when the proposal and the decision are known. -/
def draftOf (inputs : Inputs) (proposed decision : PyVal) (reason : PyStr) : Draft where
  commitApplied := .bool (pyEq decision (lit "ALLOW"))
  committed := if pyEq decision (lit "ALLOW") then proposed else inputs.previous
  context := inputs.context
  decisionReason := .str reason
  eventCode := .str inputs.eventCode
  eventId := .str inputs.eventId
  finalDecision := decision
  logicalTime := inputs.logicalTime
  previous := inputs.previous
  proposed := proposed
  ruleRef := .str inputs.ruleRef
  schemaVersion := lit schemaVersion

/-- The rules are found, the inputs validated, and the coordinate proposed. -/
def propose (previousCoord eventCode eventId logicalTime ruleRef context : PyVal) :
    Except Fault (Inputs × PyVal) := do
  let registry ← registryOf file ruleRegistry
  let inputs ← validateInputs previousCoord eventCode eventId logicalTime ruleRef context registry
  let proposed ← proposeCoordinate inputs.previous inputs.context inputs.rule
  pure (inputs, proposed)

/-- `transition_coordinate` -/
def transitionCoordinate (previousCoord eventCode eventId logicalTime ruleRef context : PyVal)
    (d6Gate d8Gate : Gate) : Except Fault PyVal := do
  let _ ← deepcopyJson (obj [("context", context), ("event_code", eventCode), ("event_id", eventId),
    ("logical_time", logicalTime), ("previous_coord", previousCoord), ("rule_ref", ruleRef)])
  let (inputs, proposed) ← propose file ruleRegistry previousCoord eventCode eventId logicalTime ruleRef context
  let (decision, reason) ← gateDecision d6Gate d8Gate inputs proposed
  let draft := draftOf inputs proposed decision reason
  let transitionHash ← calculateTransitionHash (obj draft.fields)
  deepcopyJson (Record.value ⟨draft, .str transitionHash⟩)

/-! ### The verifier -/

/-- What `verify_transition_record` returns; of an exception it was told by, the exception. -/
structure Verification where
  valid : Bool
  reasonCode : String
  recomputedHash : Option PyStr := none
  detail : Option Fault := none

/-- `hmac.compare_digest(a, b)` -/
def compareDigest (a b : PyStr) : Except Fault Bool :=
  if (a ++ b).all fun c => c < 128 then .ok (a = b) else .error (.builtin .typeError)

/-- `v is b` for a Boolean. -/
def isBool (v : PyVal) (b : Bool) : Bool :=
  match v with
  | .bool c => c == b
  | _ => false

/-- The fields a record has to have. -/
def required : List String := hashedFields ++ ["transition_hash"]

variable (strOf : PyVal → PyStr)

/-- `str(v)`; of anything but a text it is a parameter. -/
def text : PyVal → PyStr
  | .str s => s
  | v => strOf v

/-- The body of `verify_transition_record`; the fields are there when they are read. -/
def verifyFields (record : Items) : Except Fault Verification := do
  let candidate ← deepcopyJson (.dict record)
  if ¬required.all (fun k => (getItem record (cp k)).isSome) then
    pure { valid := false, reasonCode := "TRANSITION_RECORD_FIELDS_MISSING" }
  else if ¬pyEq (candidate.get "schema_version") (lit schemaVersion) then
    pure { valid := false, reasonCode := "SCHEMA_VERSION_MISMATCH" }
  else do
    let (_, proposed) ← propose file ruleRegistry (candidate.get "previous") (candidate.get "event_code")
      (candidate.get "event_id") (candidate.get "logical_time") (candidate.get "rule_ref")
      (candidate.get "context")
    if ¬pyEq (candidate.get "proposed") proposed then
      pure { valid := false, reasonCode := "PROPOSED_COORDINATE_MISMATCH" }
    else do
      let known ← inTexts (candidate.get "final_decision") decisions
      if ¬known then pure { valid := false, reasonCode := "FINAL_DECISION_INVALID" }
      else
        let shouldCommit := pyEq (candidate.get "final_decision") (lit "ALLOW")
        if ¬isBool (candidate.get "commit_applied") shouldCommit then
          pure { valid := false, reasonCode := "COMMIT_APPLIED_MISMATCH" }
        else
          let expectedCommitted :=
            if shouldCommit then candidate.get "proposed" else candidate.get "previous"
          if ¬pyEq (candidate.get "committed") expectedCommitted then
            pure { valid := false, reasonCode := "ALLOW_ONLY_COMMIT_VIOLATION" }
          else do
            let recomputed ← calculateTransitionHash candidate
            let same ← compareDigest (text strOf (candidate.get "transition_hash")) recomputed
            if ¬same then
              pure { valid := false, reasonCode := "TRANSITION_HASH_MISMATCH",
                     recomputedHash := some recomputed }
            else
              pure { valid := true, reasonCode := "TRANSITION_RECORD_VALID",
                     recomputedHash := some recomputed }

/-- `except (D3TransitionValidationError, TypeError, ValueError)` -/
def caught : Fault → Bool
  | .own _ => true
  | .builtin .typeError => true
  | .builtin .valueError => true
  | .builtin .unicodeEncodeError => true
  | .builtin _ => false

/-- `verify_transition_record` -/
def verifyTransitionRecord (record : Items) : Except Fault Verification :=
  match verifyFields file ruleRegistry strOf record with
  | .ok verification => .ok verification
  | .error e =>
      if caught e then .ok { valid := false, reasonCode := "TRANSITION_RECORD_INVALID", detail := some e }
      else .error e

end Functions

/-! ### What the two functions compute -/

section Spec

variable {file : Except Fault PyVal} {ruleRegistry : Option PyVal} {strOf : PyVal → PyStr}

/-- A value that can be written as canonical JSON. -/
def Writable (v : PyVal) : Prop := PyJson.serialisable v = true ∧ PyJson.allFinite v = true

theorem writable_obj {l : List (String × PyVal)} : Writable (obj l) ↔ ∀ p ∈ l, Writable p.2 := by
  rw [Writable, PyJson.serialisable_obj, PyJson.allFinite_obj, ← forall₂_and]
  rfl

theorem nonEmptyText_eq_ok_iff {v : PyVal} {message : String} {s : PyStr} :
    nonEmptyText v message = .ok s ↔ v = .str s ∧ s ≠ [] := by
  cases v with
  | str t =>
      cases t with
      | nil => exact iff_of_false (by simp [nonEmptyText]) fun h => h.2 (PyVal.str.inj h.1).symm
      | cons c t =>
          rw [nonEmptyText, Except.ok.injEq, PyVal.str.injEq]
          exact ⟨fun h => ⟨h, h ▸ List.cons_ne_nil _ _⟩, fun h => h.1⟩
  | _ => exact iff_of_false (by simp [nonEmptyText]) fun h => nomatch h.1

/-- What was validated is what was given. -/
theorem of_validateInputs {previousCoord eventCode eventId logicalTime ruleRef context registry : PyVal}
    {inputs : Inputs}
    (h : validateInputs previousCoord eventCode eventId logicalTime ruleRef context registry = .ok inputs) :
    inputs.previous = previousCoord ∧ PyVal.str inputs.eventCode = eventCode ∧
      PyVal.str inputs.eventId = eventId ∧ inputs.logicalTime = logicalTime ∧
      PyVal.str inputs.ruleRef = ruleRef ∧ inputs.context = context := by
  obtain ⟨-, -, h⟩ := bind_eq_ok_iff.1 h
  obtain ⟨code, hcode, h⟩ := bind_eq_ok_iff.1 h
  obtain ⟨events, -, h⟩ := bind_eq_ok_iff.1 h
  obtain ⟨known, -, h⟩ := bind_eq_ok_iff.1 h
  obtain ⟨-, -, h⟩ := bind_eq_ok_iff.1 h
  obtain ⟨id, hid, h⟩ := bind_eq_ok_iff.1 h
  obtain ⟨-, -, h⟩ := bind_eq_ok_iff.1 h
  obtain ⟨ref, href, h⟩ := bind_eq_ok_iff.1 h
  obtain ⟨-, -, h⟩ := bind_eq_ok_iff.1 h
  obtain ⟨previousCopy, hprevious, h⟩ := bind_eq_ok_iff.1 h
  obtain ⟨contextCopy, hcontext, h⟩ := bind_eq_ok_iff.1 h
  obtain ⟨logicalTimeCopy, htime, h⟩ := bind_eq_ok_iff.1 h
  obtain ⟨found, -, h⟩ := bind_eq_ok_iff.1 h
  obtain ⟨rule, -, h⟩ := bind_eq_ok_iff.1 h
  obtain ⟨delta, -, h⟩ := bind_eq_ok_iff.1 h
  obtain ⟨-, -, h⟩ := bind_eq_ok_iff.1 h
  obtain ⟨-, -, h⟩ := bind_eq_ok_iff.1 h
  obtain rfl := pure_eq_ok_iff.1 h
  exact ⟨(deepcopyJson_eq_ok_iff.1 hprevious).2, (nonEmptyText_eq_ok_iff.1 hcode).1.symm,
    (nonEmptyText_eq_ok_iff.1 hid).1.symm, (deepcopyJson_eq_ok_iff.1 htime).2,
    (nonEmptyText_eq_ok_iff.1 href).1.symm, (deepcopyJson_eq_ok_iff.1 hcontext).2⟩

/-- The proposal is for the inputs that were given. -/
theorem of_propose {previousCoord eventCode eventId logicalTime ruleRef context proposed : PyVal}
    {inputs : Inputs}
    (h : propose file ruleRegistry previousCoord eventCode eventId logicalTime ruleRef context =
      .ok (inputs, proposed)) :
    inputs.previous = previousCoord ∧ PyVal.str inputs.eventCode = eventCode ∧
      PyVal.str inputs.eventId = eventId ∧ inputs.logicalTime = logicalTime ∧
      PyVal.str inputs.ruleRef = ruleRef ∧ inputs.context = context := by
  obtain ⟨registry, -, h⟩ := bind_eq_ok_iff.1 h
  obtain ⟨inputs', hinputs, h⟩ := bind_eq_ok_iff.1 h
  obtain ⟨proposed', -, h⟩ := bind_eq_ok_iff.1 h
  obtain ⟨rfl, rfl⟩ := Prod.mk.inj (pure_eq_ok_iff.1 h)
  exact of_validateInputs hinputs

/-- The hash is over the fields of a draft, whatever follows them. -/
theorem hashPayload_fields (draft : Draft) (rest : List (String × PyVal)) :
    hashPayload (obj (draft.fields ++ rest)) = .ok (obj draft.fields) := by
  simp [hashPayload, hashedFields, PyVal.at, obj, Draft.fields]

theorem calculateTransitionHash_value (record : Record) :
    calculateTransitionHash record.value = calculateTransitionHash (obj record.toDraft.fields) := by
  have hdraft := hashPayload_fields record.toDraft []
  rw [List.append_nil] at hdraft
  have hrecord := hashPayload_fields record.toDraft [("transition_hash", record.transitionHash)]
  rw [calculateTransitionHash, calculateTransitionHash, hdraft, ← hrecord]
  rfl

/-- A record is given by its dictionary. -/
theorem value_inj {record record' : Record} : record.value = record'.value ↔ record = record' := by
  refine ⟨fun h => ?_, congrArg _⟩
  obtain ⟨⟨_, _, _, _, _, _, _, _, _, _, _, _⟩, _⟩ := record
  obtain ⟨⟨_, _, _, _, _, _, _, _, _, _, _, _⟩, _⟩ := record'
  have hfields := obj_inj.1 h
  simpa [Draft.fields, and_assoc] using hfields

theorem compareDigest_eq_ok_true_iff {a : PyStr} (msg : List UInt8) :
    compareDigest a (Sha256.hexdigest msg) = .ok true ↔ a = Sha256.hexdigest msg := by
  have hascii := Sha256.isHex64_hexdigest msg
  rw [Sha256.isHex64, Bool.and_eq_true, List.all_eq_true] at hascii
  rw [compareDigest]
  split_ifs with hall
  · simp
  · refine iff_of_false (by simp) ?_
    rintro rfl
    refine hall (List.all_eq_true.2 fun c hc => decide_eq_true ?_)
    have hrange := hascii.2 c ((List.mem_append.1 hc).elim id id)
    simp only [Bool.or_eq_true, Bool.and_eq_true, decide_eq_true_eq] at hrange
    omega

/-- The verifier says that the record is valid. -/
def Validated (x : Except Fault Verification) : Prop := ∃ v, x = .ok v ∧ v.valid = true

theorem validated_bind {α : Type} {x : Except Fault α} {f : α → Except Fault Verification} :
    Validated (x >>= f) ↔ ∃ a, x = .ok a ∧ Validated (f a) := by
  constructor
  · rintro ⟨v, hv, hvalid⟩
    obtain ⟨a, ha, hv⟩ := bind_eq_ok_iff.1 hv
    exact ⟨a, ha, v, hv, hvalid⟩
  · rintro ⟨a, ha, v, hv, hvalid⟩
    exact ⟨v, bind_eq_ok_iff.2 ⟨a, ha, hv⟩, hvalid⟩

theorem validated_ite {c : Prop} [Decidable c] {v : Verification} {x : Except Fault Verification}
    (hv : v.valid = false) : Validated (if c then pure v else x) ↔ ¬c ∧ Validated x := by
  by_cases hc : c
  · rw [if_pos hc]
    refine iff_of_false ?_ fun h => h.1 hc
    rintro ⟨w, hw, hvalid⟩
    obtain rfl := pure_eq_ok_iff.1 hw
    rw [hv] at hvalid
    cases hvalid
  · rw [if_neg hc, and_iff_right hc]

theorem validated_pure {v : Verification} : Validated (pure v) ↔ v.valid = true :=
  ⟨fun ⟨_, hw, hvalid⟩ => pure_eq_ok_iff.1 hw ▸ hvalid, fun h => ⟨v, rfl, h⟩⟩

variable (file ruleRegistry strOf)

/-- What the verifier asks of a record that has all fields. -/
structure Passes (record : Record) : Prop where
  writable : Writable record.value
  schema : record.schemaVersion = lit schemaVersion
  proposed : ∃ inputs proposed, propose file ruleRegistry record.previous record.eventCode record.eventId
    record.logicalTime record.ruleRef record.context = .ok (inputs, proposed) ∧
      pyEq record.proposed proposed = true
  decision : ∃ d ∈ decisions, record.finalDecision = lit d
  commitApplied : record.commitApplied = .bool (pyEq record.finalDecision (lit "ALLOW"))
  committed : pyEq record.committed
    (if pyEq record.finalDecision (lit "ALLOW") then record.proposed else record.previous) = true
  hash : calculateTransitionHash record.value = .ok (text strOf record.transitionHash)

/-- The reason and the hash are texts, the reason is not empty, and what is compared by `==` is the same. -/
structure Literal (record : Record) : Prop where
  reason : ∃ s, record.decisionReason = .str s ∧ s ≠ []
  hash : ∃ s, record.transitionHash = .str s
  proposed : ∀ inputs proposed, propose file ruleRegistry record.previous record.eventCode record.eventId
    record.logicalTime record.ruleRef record.context = .ok (inputs, proposed) → record.proposed = proposed
  committed : record.committed =
    if pyEq record.finalDecision (lit "ALLOW") then record.proposed else record.previous

variable {file ruleRegistry strOf} {record : Record}

theorem isBool_iff {v : PyVal} {b : Bool} : isBool v b = true ↔ v = .bool b := by
  cases v <;> simp [isBool]

/-- A hash that was computed is compared with a text. -/
theorem compareDigest_hash_iff {v : PyVal} {recomputed supplied : PyStr}
    (h : calculateTransitionHash v = .ok recomputed) :
    compareDigest supplied recomputed = .ok true ↔ supplied = recomputed := by
  obtain ⟨payload, -, h⟩ := bind_eq_ok_iff.1 h
  obtain ⟨serialized, -, h⟩ := bind_eq_ok_iff.1 h
  obtain ⟨bytes, -, h⟩ := bind_eq_ok_iff.1 h
  obtain rfl := pure_eq_ok_iff.1 h
  exact compareDigest_eq_ok_true_iff bytes

/-- The verifier is its specification. -/
theorem valid_iff_passes :
    (∃ v, verifyTransitionRecord file ruleRegistry strOf record.items = .ok v ∧ v.valid = true) ↔
      Passes file ruleRegistry strOf record := by
  have hcaught : (∃ v, verifyTransitionRecord file ruleRegistry strOf record.items = .ok v ∧
      v.valid = true) ↔ Validated (verifyFields file ruleRegistry strOf record.items) := by
    rw [verifyTransitionRecord, Validated]
    cases verifyFields file ruleRegistry strOf record.items with
    | ok v => exact Iff.rfl
    | error e =>
        refine iff_of_false ?_ (by simp)
        rintro ⟨v, hv, hvalid⟩
        dsimp only at hv
        split_ifs at hv
        obtain rfl := Except.ok.inj hv
        cases hvalid
  have hhas : required.all (fun k => (getItem record.items (cp k)).isSome) = true := by
    simp only [required, hashedFields, Record.items, Draft.fields, List.cons_append, List.nil_append, List.all_cons,
      List.all_nil, getItem_fields_cons, String.reduceEq, if_true, if_false, Option.isSome_some, Bool.and_self]
  have hget : (PyVal.dict record.items).get "schema_version" = record.schemaVersion ∧
      (PyVal.dict record.items).get "previous" = record.previous ∧ (PyVal.dict record.items).get "event_code" = record.eventCode ∧
      (PyVal.dict record.items).get "event_id" = record.eventId ∧
      (PyVal.dict record.items).get "logical_time" = record.logicalTime ∧
      (PyVal.dict record.items).get "rule_ref" = record.ruleRef ∧ (PyVal.dict record.items).get "context" = record.context ∧
      (PyVal.dict record.items).get "proposed" = record.proposed ∧
      (PyVal.dict record.items).get "final_decision" = record.finalDecision ∧
      (PyVal.dict record.items).get "commit_applied" = record.commitApplied ∧
      (PyVal.dict record.items).get "committed" = record.committed ∧
      (PyVal.dict record.items).get "transition_hash" = record.transitionHash := by
    simp [Record.items, Draft.fields, PyVal.get]
  obtain ⟨hschema, hprevious, hcode, hid, htime, href, hcontext, hproposed, hdecision, happlied, hcommitted,
    htransition⟩ := hget
  rw [hcaught, verifyFields]
  simp only [validated_bind, validated_ite, validated_pure, Prod.exists, deepcopyJson_eq_ok_iff, not_not]
  constructor
  · rintro ⟨candidate, ⟨hwritable, rfl⟩, -, h⟩
    rw [hschema, hprevious, hcode, hid, htime, href, hcontext, hproposed, hdecision, happlied, hcommitted,
      htransition] at h
    obtain ⟨hsame, inputs, proposed, hpropose, hequal, known, hknown, hdecided, hflag, hcommit, recomputed,
      hhash, same, hdigest, hsupplied, -⟩ := h
    subst hdecided hsupplied
    refine ⟨hwritable, pyEq_lit.1 hsame, ⟨inputs, proposed, hpropose, hequal⟩, inTexts_eq_ok_iff.1 hknown,
      isBool_iff.1 hflag, hcommit, ?_⟩
    rw [(compareDigest_hash_iff hhash).1 hdigest]
    exact hhash
  · intro h
    obtain ⟨inputs, proposed, hpropose, hequal⟩ := h.proposed
    refine ⟨_, ⟨h.writable, rfl⟩, hhas, ?_⟩
    rw [hschema, hprevious, hcode, hid, htime, href, hcontext, hproposed, hdecision, happlied, hcommitted,
      htransition]
    exact ⟨pyEq_lit.2 h.schema, inputs, proposed, hpropose, hequal, true, inTexts_eq_ok_iff.2 h.decision, rfl,
      isBool_iff.2 h.commitApplied, h.committed, _, h.hash, true, (compareDigest_hash_iff h.hash).2 rfl, rfl,
      trivial⟩

/-- What a gate returned is a decision with a reason. -/
theorem of_validateGateResult {name : String} {value decision : PyVal} {reason : PyStr}
    (h : validateGateResult name value = .ok (decision, reason)) :
    (∃ d ∈ decisions, decision = lit d) ∧ reason ≠ [] := by
  obtain ⟨-, -, h⟩ := bind_eq_ok_iff.1 h
  obtain ⟨known, hknown, h⟩ := bind_eq_ok_iff.1 h
  obtain ⟨_, hguard, h⟩ := bind_eq_ok_iff.1 h
  obtain ⟨reasonCode, hreason, h⟩ := bind_eq_ok_iff.1 h
  obtain ⟨rfl, rfl⟩ := Prod.mk.inj (pure_eq_ok_iff.1 h)
  have htrue : known = true := not_not.1 (raiseIf_eq_ok_iff.1 hguard)
  exact ⟨inTexts_eq_ok_iff.1 (htrue ▸ hknown), (nonEmptyText_eq_ok_iff.1 hreason).2⟩

/-- The two gates decide for one of the decisions, with a reason. -/
theorem of_gateDecision {d6Gate d8Gate : Gate} {inputs : Inputs} {proposed decision : PyVal} {reason : PyStr}
    (h : gateDecision d6Gate d8Gate inputs proposed = .ok (decision, reason)) :
    (∃ d ∈ decisions, decision = lit d) ∧ reason ≠ [] := by
  obtain ⟨d6Value, -, h⟩ := bind_eq_ok_iff.1 h
  obtain ⟨⟨d6Decision, d6Reason⟩, hd6, h⟩ := bind_eq_ok_iff.1 h
  obtain ⟨d8Value, -, h⟩ := bind_eq_ok_iff.1 h
  obtain ⟨⟨d8Decision, d8Reason⟩, hd8, h⟩ := bind_eq_ok_iff.1 h
  dsimp only at h
  split_ifs at h
  · obtain ⟨rfl, rfl⟩ := Prod.mk.inj (pure_eq_ok_iff.1 h)
    exact of_validateGateResult hd8
  · obtain ⟨rfl, rfl⟩ := Prod.mk.inj (pure_eq_ok_iff.1 h)
    exact of_validateGateResult hd6

/-- What a gate of the right form says is taken as it is. -/
theorem validateGateResult_decided (name : String) {d : String} (hd : d ∈ decisions) {reason : PyStr}
    (hreason : reason ≠ []) :
    validateGateResult name (decided (lit d) (.str reason)) = .ok (lit d, reason) := by
  have hdecision : (decided (lit d) (.str reason)).get "decision" = lit d := by simp [decided]
  have hcode : (decided (lit d) (.str reason)).get "reason_code" = .str reason := by simp [decided]
  have hknown : (inTexts (lit d) decisions : Except Fault Bool) = .ok true :=
    inTexts_eq_ok_iff.2 ⟨d, hd, rfl⟩
  have hdict : ¬¬(decided (lit d) (.str reason)).isDict = true := not_not.2 rfl
  rw [validateGateResult, raiseIf_neg hdict, ok_bind, hdecision, hknown, ok_bind,
    raiseIf_neg (not_not.2 rfl), ok_bind, hcode, nonEmptyText_eq_ok_iff.2 ⟨rfl, hreason⟩]
  rfl

/-- Gates that are constant can decide anything that has a reason. -/
theorem exists_gateDecision {d : String} (hd : d ∈ decisions) {reason : PyStr} (hreason : reason ≠ [])
    (inputs : Inputs) (proposed : PyVal) :
    ∃ d6Gate d8Gate : Gate, gateDecision d6Gate d8Gate inputs proposed = .ok (lit d, reason) := by
  refine ⟨fun _ => .ok (decided (lit "ALLOW") (.str reason)),
    fun _ => .ok (decided (lit d) (.str reason)), ?_⟩
  rw [gateDecision, ok_bind, validateGateResult_decided "D6" (by simp [decisions]) hreason, ok_bind]
  dsimp only
  rw [ok_bind, validateGateResult_decided "D8" hd hreason, ok_bind]
  dsimp only
  rw [if_neg (not_not.2 (pyEq_lit.2 rfl))]
  rfl

/-- What the engine returns is the record of a proposal and of the decision on it. -/
theorem of_transitionCoordinate {previousCoord eventCode eventId logicalTime ruleRef context value : PyVal}
    {d6Gate d8Gate : Gate}
    (h : transitionCoordinate file ruleRegistry previousCoord eventCode eventId logicalTime ruleRef context
      d6Gate d8Gate = .ok value) :
    ∃ inputs proposed decision reason hash,
      propose file ruleRegistry previousCoord eventCode eventId logicalTime ruleRef context =
        .ok (inputs, proposed) ∧
      gateDecision d6Gate d8Gate inputs proposed = .ok (decision, reason) ∧
      calculateTransitionHash (obj (draftOf inputs proposed decision reason).fields) = .ok hash ∧
      Writable value ∧ value = Record.value ⟨draftOf inputs proposed decision reason, .str hash⟩ := by
  obtain ⟨-, -, h⟩ := bind_eq_ok_iff.1 h
  obtain ⟨⟨inputs, proposed⟩, hpropose, h⟩ := bind_eq_ok_iff.1 h
  obtain ⟨⟨decision, reason⟩, hdecide, h⟩ := bind_eq_ok_iff.1 h
  obtain ⟨hash, hhash, h⟩ := bind_eq_ok_iff.1 h
  obtain ⟨hwritable, hvalue⟩ := deepcopyJson_eq_ok_iff.1 h
  exact ⟨inputs, proposed, decision, reason, hash, hpropose, hdecide, hhash, hvalue ▸ hwritable, hvalue⟩

/-- The engine returns the records that pass and are literal. -/
theorem produced_iff :
    (∃ d6Gate d8Gate, transitionCoordinate file ruleRegistry record.previous record.eventCode record.eventId
      record.logicalTime record.ruleRef record.context d6Gate d8Gate = .ok record.value) ↔
      Passes file ruleRegistry strOf record ∧ Literal file ruleRegistry record := by
  constructor
  · rintro ⟨d6Gate, d8Gate, h⟩
    obtain ⟨inputs, proposed, decision, reason, hash, hpropose, hdecide, hhash, hwritable, hvalue⟩ :=
      of_transitionCoordinate h
    have hrecord : record = ⟨draftOf inputs proposed decision reason, .str hash⟩ := value_inj.1 hvalue
    obtain ⟨hdecision, hreason⟩ := of_gateDecision hdecide
    have hparts := writable_obj.1 hwritable
    simp only [Draft.fields, List.cons_append, List.nil_append, List.forall_mem_cons] at hparts
    obtain ⟨-, hcommitted, -, -, -, -, -, -, -, hproposed, -⟩ := hparts
    have hsame : record.committed =
        if pyEq record.finalDecision (lit "ALLOW") then record.proposed else record.previous := by
      rw [hrecord]
      rfl
    have hequal : record.proposed = proposed := by rw [hrecord, draftOf]
    refine ⟨⟨hwritable, by rw [hrecord, draftOf], ⟨inputs, proposed, hpropose, ?_⟩, by
      rw [hrecord]; exact hdecision, by rw [hrecord, draftOf], ?_, ?_⟩, ?_⟩
    · rw [← hequal]
      exact PyJson.pyEq_self hproposed.1 hproposed.2
    · rw [← hsame]
      exact PyJson.pyEq_self hcommitted.1 hcommitted.2
    · rw [calculateTransitionHash_value, hrecord]
      exact hhash
    · refine ⟨⟨reason, by rw [hrecord, draftOf], hreason⟩, ⟨hash, by rw [hrecord]⟩, ?_, hsame⟩
      intro inputs' proposed' hpropose'
      obtain ⟨-, rfl⟩ := Prod.mk.inj (Except.ok.inj (hpropose.symm.trans hpropose'))
      exact hequal
  · rintro ⟨hpasses, hliteral⟩
    obtain ⟨inputs, proposed, hpropose, -⟩ := hpasses.proposed
    obtain ⟨d, hd, hdecision⟩ := hpasses.decision
    obtain ⟨reason, hreason, hne⟩ := hliteral.reason
    obtain ⟨hash, hhash⟩ := hliteral.hash
    obtain ⟨d6Gate, d8Gate, hdecide⟩ := exists_gateDecision hd hne inputs proposed
    obtain ⟨hprevious, hcode, hid, htime, href, hcontext⟩ := of_propose hpropose
    have hparts := writable_obj.1 hpasses.writable
    simp only [Draft.fields, List.cons_append, List.nil_append, List.forall_mem_cons, List.not_mem_nil,
      false_imp_iff, implies_true, and_true] at hparts
    obtain ⟨-, -, hwcontext, -, hwcode, hwid, -, hwtime, hwprevious, -, hwref, -, -⟩ := hparts
    have hproposed := hliteral.proposed inputs proposed hpropose
    have hrecord : record = ⟨draftOf inputs proposed (lit d) reason, .str hash⟩ := by
      have hcommitted := hliteral.committed
      have hflag := hpasses.commitApplied
      rw [hdecision, hproposed, ← hprevious] at hcommitted
      rw [hdecision] at hflag
      obtain ⟨⟨_, _, _, _, _, _, _, _, _, _, _, _⟩, _⟩ := record
      rw [Record.mk.injEq, draftOf, Draft.mk.injEq]
      exact ⟨⟨hflag, hcommitted, hcontext.symm, hreason, hcode.symm, hid.symm, hdecision, htime.symm,
        hprevious.symm, hproposed, href.symm, hpasses.schema⟩, hhash⟩
    have hinputs : Writable (obj [("context", record.context), ("event_code", record.eventCode),
        ("event_id", record.eventId), ("logical_time", record.logicalTime),
        ("previous_coord", record.previous), ("rule_ref", record.ruleRef)]) := by
      rw [writable_obj]
      simp only [List.forall_mem_cons, List.not_mem_nil, false_imp_iff, implies_true, and_true]
      exact ⟨hwcontext, hwcode, hwid, hwtime, hwprevious, hwref⟩
    have hdraft : calculateTransitionHash (obj (draftOf inputs proposed (lit d) reason).fields) = .ok hash := by
      have hvalue := hpasses.hash
      rw [hhash, calculateTransitionHash_value, hrecord] at hvalue
      exact hvalue
    refine ⟨d6Gate, d8Gate, ?_⟩
    rw [transitionCoordinate, deepcopyJson_eq_ok_iff.2 ⟨hinputs, rfl⟩, ok_bind, hpropose, ok_bind]
    dsimp only
    rw [hdecide, ok_bind]
    dsimp only
    rw [hdraft, ok_bind, ← hrecord]
    exact deepcopyJson_eq_ok_iff.2 ⟨hpasses.writable, rfl⟩

/-- Engine and verifier agree on a record unless it passes without being literal: the verifier accepts
exactly what the engine produces but for the reason of the decision, the type of the hash, and what `==`
does not tell apart. -/
theorem valid_iff_produced_iff (file : Except Fault PyVal) (ruleRegistry : Option PyVal)
    (strOf : PyVal → PyStr) (record : Record) :
    ((∃ v, verifyTransitionRecord file ruleRegistry strOf record.items = .ok v ∧ v.valid = true) ↔
      ∃ d6Gate d8Gate, transitionCoordinate file ruleRegistry record.previous record.eventCode
        record.eventId record.logicalTime record.ruleRef record.context d6Gate d8Gate =
          .ok record.value) ↔
      (Passes file ruleRegistry strOf record → Literal file ruleRegistry record) := by
  rw [valid_iff_passes, @produced_iff file ruleRegistry strOf record]
  exact iff_self_and

/-! ### A decision without a reason -/

/-- Rules with one event, which changes nothing. -/
def sampleRegistry : PyVal := obj [("events", obj [("E", obj [])])]

/-- A draft that holds for no reason. -/
def unexplained : Draft where
  commitApplied := .bool false
  committed := .dict []
  context := .dict []
  decisionReason := .str []
  eventCode := lit "E"
  eventId := lit "e-1"
  finalDecision := lit "HOLD"
  logicalTime := .int 1
  previous := .dict []
  proposed := .dict []
  ruleRef := lit "r"
  schemaVersion := lit schemaVersion

/-- The draft with its hash. -/
def unexplainedRecord : Record :=
  ⟨unexplained, .str (Sha256.hexdigest
    ((PyJson.write PyJson.compact (obj unexplained.fields)).flatMap utf8Char))⟩

theorem plain_unexplained : PyJson.Plain Encodable (obj unexplained.fields) := by
  have hempty : PyJson.Plain Encodable (.dict []) := .dict [] (by simp) (by simp)
  refine PyJson.plain_obj ?_
  simp only [Draft.fields, unexplained, List.forall_mem_cons, List.not_mem_nil, false_imp_iff, implies_true,
    and_true]
  exact ⟨.bool _, hempty, hempty, .str _ encodable_nil, PyJson.plain_lit _, PyJson.plain_lit _,
    PyJson.plain_lit _, .int _, hempty, hempty, PyJson.plain_lit _, PyJson.plain_lit _⟩

/-- The hash of a draft of plain values. -/
theorem hash_of_plain {draft : Draft} (hplain : PyJson.Plain Encodable (obj draft.fields))
    (hfinite : PyJson.allFinite (obj draft.fields) = true) :
    calculateTransitionHash (obj draft.fields) = .ok (Sha256.hexdigest
      ((PyJson.write PyJson.compact (obj draft.fields)).flatMap utf8Char)) := by
  have hpayload := hashPayload_fields draft []
  rw [List.append_nil] at hpayload
  have hencodable : Encodable (PyJson.write PyJson.compact (obj draft.fields)) :=
    hplain.encodable_write (encodable_cp _) (encodable_cp _)
  rw [calculateTransitionHash, hpayload, ok_bind, canonicalJson, if_pos ⟨hplain.serialisable, hfinite⟩, ok_bind,
    encodeUtf8_ok hencodable, ok_bind]
  rfl

theorem passes_unexplained (file : Except Fault PyVal) (strOf : PyVal → PyStr) :
    Passes file (some sampleRegistry) strOf unexplainedRecord where
  writable := by
    refine writable_obj.2 ?_
    simp only [unexplainedRecord, unexplained, Draft.fields, List.cons_append, List.nil_append,
      List.forall_mem_cons, List.not_mem_nil, false_imp_iff, implies_true, and_true]
    refine ⟨?_, ?_, ?_, ?_, ?_, ?_, ?_, ?_, ?_, ?_, ?_, ?_, ?_⟩ <;> exact ⟨rfl, rfl⟩
  schema := rfl
  proposed := ⟨_, .dict [], rfl, rfl⟩
  decision := ⟨"HOLD", by simp [decisions], rfl⟩
  commitApplied := rfl
  committed := rfl
  hash := by
    rw [calculateTransitionHash_value]
    exact hash_of_plain plain_unexplained rfl

/-- A record whose decision has no reason is verified, and no gates produce it. -/
theorem unexplained_valid :
    ¬∀ (file : Except Fault PyVal) (ruleRegistry : Option PyVal) (strOf : PyVal → PyStr) (record : Record),
      (∃ v, verifyTransitionRecord file ruleRegistry strOf record.items = .ok v ∧ v.valid = true) ↔
        ∃ d6Gate d8Gate, transitionCoordinate file ruleRegistry record.previous record.eventCode
          record.eventId record.logicalTime record.ruleRef record.context d6Gate d8Gate =
            .ok record.value := by
  intro h
  have hpasses := passes_unexplained (.ok .none) fun _ => []
  obtain ⟨-, hliteral⟩ := (@produced_iff _ _ (fun _ => []) _).1
    ((h (.ok .none) (some sampleRegistry) (fun _ => []) unexplainedRecord).1 (valid_iff_passes.2 hpasses))
  obtain ⟨reason, hreason, hne⟩ := hliteral.reason
  exact hne (PyVal.str.inj hreason).symm

end Spec

end CoordinateTransition
