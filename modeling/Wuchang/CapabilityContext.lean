/-
**The capability context of a task.**

`capability_internalization.py` loads a registry of capabilities, checks it against a schema, and projects it
for a task: the whole catalogue, with the capabilities that the task requires, those whose sources it touches,
and what these depend on.  A validator of its own checks such a projection before it is used.

The registry is kept as a JSON value until it has been accepted, and as a structure from then on.  The schema
file is the one of the repository.  The files below the root do not change during a call.

Main definitions:

* `CapabilityContext.Root` — the files below the root;
* `CapabilityContext.loadInternalizationRegistry` — the registry that is accepted;
* `CapabilityContext.requiredIds` — what a task requires, by a worklist;
* `CapabilityContext.buildCapabilityContextProjection` — the projection of a task;
* `CapabilityContext.validateCapabilityContextProjection` — the check of a projection.
-/

import Wuchang.JsonSchema
import Wuchang.PyEq
import Wuchang.Worklist

set_option relaxedAutoImplicit false
set_option autoImplicit false

namespace CapabilityContext

open Py JsonSchema

/-- `CapabilityInternalizationError` -/
structure CapabilityInternalizationError where
  reasonCode : String
  path : PyStr
  deriving DecidableEq, Repr

/-- An exception. -/
abbrev Fault := Raise CapabilityInternalizationError

/-- `raise CapabilityInternalizationError(code, path)` -/
def rejectedAt {α : Type} (code : String) (path : PyStr) : Except Fault α := .error (.own ⟨code, path⟩)

/-- `raise CapabilityInternalizationError(code)` -/
def rejected {α : Type} (code : String) : Except Fault α := rejectedAt code (cp "$")

/-! ### The files -/

/-- What is at a path: the bytes of a file, its text if it is one, and the value of the text if it is JSON. -/
inductive Entry where
  | missing
  | directory
  | file (raw : List UInt8) (text : Option PyStr) (json : Option PyVal)

/-- The files below a root, by the texts of their paths. -/
structure Root where
  entry : PyStr → Entry
  /-- `target.resolve()` is not below the root. -/
  outside : PyStr → Bool
  /-- The path of the first error of the schema validator. -/
  schemaErrorPath : PyVal → PyStr

/-- `_load_json` -/
def loadJson (root : Root) (path : PyStr) (code : String) : Except Fault PyVal :=
  match root.entry path with
  | .file _ _ (some (.dict items)) => .ok (.dict items)
  | _ => rejected code

/-- `ref.split("#", 1)[0]` -/
def localOf (ref : PyStr) : PyStr := ref.takeWhile fun c => c ≠ 35

/-! ### The registry -/

/-- `[A-Z0-9_]` -/
def isIdChar (c : ℕ) : Bool := (65 ≤ c && c ≤ 90) || (48 ≤ c && c ≤ 57) || c = 95

/-- `_ID.fullmatch`: `^CAP_INTERNAL_[A-Z0-9_]+_V1$` -/
def isCapabilityId (s : PyStr) : Bool :=
  (cp "CAP_INTERNAL_").isPrefixOf s && (cp "_V1").isSuffixOf s && 17 ≤ s.length && s.all isIdChar

/-- `"pattern": "^CAP_INTERNAL_[A-Z0-9_]+_V1$"` -/
def capabilityId : Schema := text fun s => isCapabilityId (chomp s)

/-- `REQUIRED_CLASSES` -/
def requiredClasses : List String :=
  ["CLAW", "LLM", "STATIC_PULL", "DYNAMIC_CONTEXT", "NODE_COMPUTE", "ORIGIN_CELL", "GST", "NVR_READ"]

/-- `authority_boundary` -/
def authorityBoundary : Schema := record [("formal_effect_boundary", constant "TAIJI01_TOTAL_FIELD"),
  ("provider_authority", truth false), ("external_authority_inherited", truth false),
  ("total_field_verify_required", truth true)] []

/-- The required properties of a capability. -/
def capabilityProperties : List (String × Schema) := [
  ("capability_id", capabilityId), ("capability_class", enum requiredClasses),
  ("status", enum ["REGISTERED_CAPABILITY", "IMPLEMENTED", "ACTIVE_RUNTIME", "EVIDENCE_ONLY",
    "IMPLEMENTED_SOURCE_COMPATIBILITY_TRANSPORT"]),
  ("source_refs", listOf 1 nonEmpty), ("resource_refs", listOf 0 nonEmpty),
  ("selection_tags", array 1 none nonEmpty),
  ("d3_coordinate", record [("node_scope", listOf 1 nonEmpty), ("owner_ref", nonEmpty),
    ("coordinate_ref", nonEmpty)] []),
  ("d5_execution", record [("mode", enum ["READ_ONLY", "CANDIDATE_ONLY", "BOUNDED_EFFECT"]),
    ("direct_effect", boolean), ("side_effect_boundary", nonEmpty)] []),
  ("d7_risk", record [("fail_closed", truth true), ("risk_tags", array 0 none nonEmpty)] []),
  ("d8_authority", record [("provider_authority", truth false), ("final_decision", truth false),
    ("canonical", truth false), ("requires_total_field_verify", truth true)] [])]

/-- `capability`: a compatibility transport is one for reading from the recorder. -/
def capability : Schema := fun v =>
  record capabilityProperties [("requires_capability_ids", array 0 none capabilityId)] v &&
    (!constant "IMPLEMENTED_SOURCE_COMPATIBILITY_TRANSPORT" (v.get "status") ||
      constant "NVR_READ" (v.get "capability_class"))

/-- The properties of the registry. -/
def registryProperties : List (String × Schema) := [
  ("schema_version", constant "W7TP-CAPABILITY-INTERNALIZATION-REGISTRY/1.0"),
  ("state", constant "ACTIVE_INTERNALIZATION_INDEX"),
  ("registry_role", constant "OVERLAY_ONLY_DOES_NOT_REPLACE_EXISTING_OWNERS"),
  ("canonical", truth false), ("authority_boundary", authorityBoundary),
  ("source_registry_refs", listOf 1 nonEmpty), ("capabilities", listOf 8 capability)]

/-- `w7tp_capability_internalization_registry.schema.json` -/
def registrySchema : Schema := record registryProperties []

/-- A capability of an accepted registry, as far as it is projected. -/
structure Capability where
  capabilityId : PyStr
  capabilityClass : PyStr
  status : PyStr
  sourceRefs : List PyStr
  resourceRefs : List PyStr
  nodeScope : List PyStr
  ownerRef : PyStr
  coordinateRef : PyStr
  mode : PyStr
  riskTags : List PyStr
  /-- `row.get("requires_capability_ids", [])` -/
  requires : List PyStr

/-- An accepted registry. -/
structure Registry where
  sourceRegistryRefs : List PyStr
  capabilities : List Capability

/-- A text of a value that conforms to the schema. -/
def textOf : PyVal → PyStr
  | .str s => s
  | _ => []

/-- The elements of a list of a value that conforms to the schema. -/
def itemsOf : PyVal → List PyVal
  | .list xs => xs
  | _ => []

/-- The capability that a value stands for. -/
def readCapability (v : PyVal) : Capability where
  capabilityId := textOf (v.get "capability_id")
  capabilityClass := textOf (v.get "capability_class")
  status := textOf (v.get "status")
  sourceRefs := (itemsOf (v.get "source_refs")).map textOf
  resourceRefs := (itemsOf (v.get "resource_refs")).map textOf
  nodeScope := (itemsOf ((v.get "d3_coordinate").get "node_scope")).map textOf
  ownerRef := textOf ((v.get "d3_coordinate").get "owner_ref")
  coordinateRef := textOf ((v.get "d3_coordinate").get "coordinate_ref")
  mode := textOf ((v.get "d5_execution").get "mode")
  riskTags := (itemsOf ((v.get "d7_risk").get "risk_tags")).map textOf
  requires := (itemsOf (v.get "requires_capability_ids")).map textOf

/-- The registry that a value stands for. -/
def readRegistry (v : PyVal) : Registry where
  sourceRegistryRefs := (itemsOf (v.get "source_registry_refs")).map textOf
  capabilities := (itemsOf (v.get "capabilities")).map readCapability

/-- The identifiers of the capabilities. -/
def Registry.ids (registry : Registry) : List PyStr := registry.capabilities.map Capability.capabilityId

/-- The capabilities that one depends on; nothing is known of one that is not registered. -/
def Registry.requires (registry : Registry) (cid : PyStr) : List PyStr :=
  match registry.capabilities.find? fun c => c.capabilityId = cid with
  | some c => c.requires
  | none => []

/-- `_validate_dependency_graph`, one visit: the capabilities that are done after it.  With as many visits
inside one another as there are capabilities, all of them are active. -/
def visit (registry : Registry) : ℕ → List PyStr → List PyStr → PyStr → Except Fault (List PyStr)
  | n, active, done, cid =>
      if cid ∉ registry.ids then rejectedAt "CAPABILITY_DEPENDENCY_MISSING" cid
      else if cid ∈ active then rejectedAt "CAPABILITY_DEPENDENCY_CYCLE" cid
      else if cid ∈ done then .ok done
      else
        match n with
        | 0 => rejectedAt "CAPABILITY_DEPENDENCY_CYCLE" cid
        | n + 1 => do
            let done ← (registry.requires cid).foldlM (visit registry n (cid :: active)) done
            pure (cid :: done)

/-- `_validate_dependency_graph` -/
def validateDependencyGraph (registry : Registry) : Except Fault (List PyStr) :=
  registry.ids.foldlM (visit registry registry.ids.length []) []

/-- `f"$.capabilities[{i}]"` -/
def capabilityPath (i : ℕ) : PyStr := cp "$.capabilities[" ++ intText i ++ cp "]"

/-- `_validate_source_refs`, one reference. -/
def validateSourceRef (root : Root) (path ref : PyStr) : Except Fault Unit :=
  if localOf ref = [] ∨ 58 ∈ localOf ref then .ok ()
  else
    match root.entry (localOf ref) with
    | .missing => rejectedAt "CAPABILITY_SOURCE_REF_MISSING" path
    | _ => .ok ()

/-- `_validate_source_refs` -/
def validateSourceRefs (root : Root) (registry : Registry) : Except Fault Unit :=
  registry.capabilities.zipIdx.forM fun c => c.1.sourceRefs.zipIdx.forM fun ref =>
    validateSourceRef root (capabilityPath c.2 ++ cp ".source_refs[" ++ intText ref.2 ++ cp "]") ref.1

/-- The authority wall of the registry stands. -/
def wallStands (v : PyVal) : Bool :=
  let boundary := v.get "authority_boundary"
  truth false (v.get "canonical") && truth false (boundary.get "provider_authority") &&
    truth false (boundary.get "external_authority_inherited") &&
    truth true (boundary.get "total_field_verify_required") &&
    constant "TAIJI01_TOTAL_FIELD" (boundary.get "formal_effect_boundary")

/-- The checks of a capability: no authority of the provider, and failing closed. -/
def checkAuthority (path : PyStr) (v : PyVal) : Except Fault Unit :=
  let d8 := v.get "d8_authority"
  if ¬(truth false (d8.get "provider_authority") && truth false (d8.get "final_decision") &&
      truth false (d8.get "canonical") && truth true (d8.get "requires_total_field_verify")) then
    rejectedAt "CAPABILITY_PROVIDER_AUTHORITY_FORBIDDEN" (path ++ cp ".d8_authority")
  else if ¬truth true ((v.get "d7_risk").get "fail_closed") then
    rejectedAt "CAPABILITY_FAIL_CLOSED_REQUIRED" (path ++ cp ".d7_risk.fail_closed")
  else .ok ()

/-- `configs/total_field/…` -/
def registryRel : String := "configs/total_field/w7tp_capability_internalization_registry_v1.json"

/-- `schemas/field/…` -/
def schemaRel : String := "schemas/field/w7tp_capability_internalization_registry.schema.json"

/-- `load_internalization_registry` -/
def loadInternalizationRegistry (root : Root) : Except Fault Registry := do
  let _ ← loadJson root (cp schemaRel) "CAPABILITY_SCHEMA_READ_FAILED"
  let v ← loadJson root (cp registryRel) "CAPABILITY_REGISTRY_READ_FAILED"
  if ¬registrySchema v then rejectedAt "CAPABILITY_REGISTRY_SCHEMA_INVALID" (root.schemaErrorPath v)
  else do
    let registry := readRegistry v
    let classes := registry.capabilities.map Capability.capabilityClass
    if ¬registry.ids.Nodup then rejected "CAPABILITY_ID_DUPLICATE"
    else if ¬classes.Nodup then rejected "CAPABILITY_CLASS_DUPLICATE"
    else if ¬((∀ c ∈ classes, c ∈ requiredClasses.map cp) ∧ ∀ c ∈ requiredClasses.map cp, c ∈ classes) then
      rejected "CAPABILITY_CLASS_COVERAGE_INVALID"
    else if ¬wallStands v then rejected "CAPABILITY_REGISTRY_AUTHORITY_WALL_INVALID"
    else do
      (itemsOf (v.get "capabilities")).zipIdx.forM fun item => checkAuthority (capabilityPath item.2) item.1
      let _ ← validateDependencyGraph registry
      validateSourceRefs root registry
      pure registry

/-! ### Source bindings -/

/-- `".." in path.parts` -/
def climbs (path : PyStr) : Bool := (path.splitOn 47).any fun part => part = cp ".."

/-- What a binding says of a reference. -/
def bindingOf (ref : PyStr) (state : String) (sha256 : PyVal) : List (String × PyVal) :=
  [("ref", .str ref), ("sha256", sha256), ("state", lit state)]

/-- `_source_binding` -/
def sourceBinding (root : Root) (ref : PyStr) : Except Fault (List (String × PyVal)) :=
  let path := localOf ref
  if path.head? = some 47 ∨ climbs path then rejectedAt "CAPABILITY_SOURCE_PATH_ESCAPE" ref
  else if 58 ∈ path then .ok (bindingOf ref "EXTERNAL_REFERENCE_NOT_PROBED" .none)
  else if root.outside path then rejectedAt "CAPABILITY_SOURCE_PATH_ESCAPE" ref
  else
    match root.entry path with
    | .file raw _ _ => .ok (bindingOf ref "FILE_HASH_OBSERVED" (.str (Sha256.hexdigest raw)))
    | .directory => .ok (bindingOf ref "DIRECTORY_REFERENCE" .none)
    | .missing => .ok (bindingOf ref "LOCALIZED_UNKNOWN_SOURCE_NOT_PRESENT" .none)

/-- The hash in a binding. -/
def bindingSha256 (binding : List (String × PyVal)) : PyVal := (binding.lookup "sha256").getD .none

/-- The line boundaries of `str.splitlines`, other than the pair of a return and a feed. -/
def isLineBreak (c : ℕ) : Bool :=
  (10 ≤ c && c ≤ 13) || (28 ≤ c && c ≤ 30) || c = 0x85 || c = 0x2028 || c = 0x2029

/-- `str.splitlines`, from the part of a line that has been read on. -/
def splitlines (line : PyStr) : PyStr → List PyStr
  | [] => if line = [] then [] else [line]
  | 13 :: 10 :: rest => line :: splitlines [] rest
  | c :: rest => if isLineBreak c then line :: splitlines [] rest else splitlines (line ++ [c]) rest

/-- `s.strip(c)` for one character. -/
def stripChar (c : ℕ) (s : PyStr) : PyStr := (s.dropWhile fun d => d = c).rdropWhile fun d => d = c

/-- `[a-zA-Z0-9_.:-]` -/
def isRefChar (c : ℕ) : Bool := isIdChar c || (97 ≤ c && c ≤ 122) || c = 46 || c = 58 || c = 45

/-- What follows from a line of the matrix of rules. -/
def matrixEntry (line : PyStr) : Except Fault (Option PyVal) :=
  if (cp "| `").isPrefixOf line then do
    let cells := line.splitOn 124
    let cell ← index cells 1
    let identifier := stripChar 96 (strip cell)
    if identifier ≠ [] ∧ identifier.all isIdChar then do
      let status ← index cells 2
      pure (some (obj [("id", .str identifier), ("role", lit "RULE_SOURCE_NAVIGATION_NOT_CURRENT_AUTHORITY"),
        ("source_status", .str (strip status))]))
    else pure none
  else pure none

/-- `for item in v` -/
def iter : PyVal → Except Fault (List PyVal)
  | .list xs => .ok xs
  | .str s => .ok (s.map fun c => .str [c])
  | .dict items => .ok (items.map fun p => match p.1 with
      | .str s => .str s
      | .other => .other)
  | _ => .error (.builtin .typeError)

/-- `d.get(k, default)` -/
def getOr (items : Items) (k : String) (default : PyVal) : PyVal := (getItem items (cp k)).getD default

/-- The entry of a skill; one that is no reference has none. -/
def skillEntry : PyVal → Option PyVal
  | .str s =>
      if s ≠ [] ∧ s.all isRefChar then
        some (obj [("id", .str s), ("role", lit "REGISTERED_SKILL_NOT_RUNTIME_PROOF")])
      else none
  | _ => none

/-- The entry of a capability in an index. -/
def indexEntry (ref : PyStr) (item : PyVal) : Except Fault PyVal :=
  let identifier := if (item.get "capability_ref").truthy then item.get "capability_ref" else item.get "id"
  match item, identifier with
  | .dict _, .str s =>
      if s ≠ [] ∧ s.all isRefChar then
        .ok (obj [("id", .str s), ("role", lit "SOURCE_RECORDED_CAPABILITY_NOT_ACTIVE_CLAIM")])
      else rejectedAt "CAPABILITY_CONTEXT_SOURCE_INDEX_INVALID" ref
  | _, _ => rejectedAt "CAPABILITY_CONTEXT_SOURCE_INDEX_INVALID" ref

/-- `docs/adi_native/NATIVE_ADI_SOURCE_RULE_MATRIX.md` -/
def matrixRef : PyStr := cp "docs/adi_native/NATIVE_ADI_SOURCE_RULE_MATRIX.md"

/-- The indexes whose identifiers are listed. -/
def indexRefs : List PyStr := [cp "capabilities/W7TP_NATIVE_SKILLS_INDEX.json",
  cp "runtime/total_field/secondary_cloud/capability_registry.json",
  cp "packets/product_av_ordering_ai/merchant_invention_capability_map.json"]

/-- The entries of an index, if it is one of those whose entries are listed. -/
def indexEntries (root : Root) (ref : PyStr) : Except Fault (Option (List PyVal)) :=
  if ref = matrixRef then
    match root.entry (localOf ref) with
    | .file _ (some text) _ => do
        let entries ← (splitlines [] text).mapM matrixEntry
        pure (some (entries.filterMap id))
    | .file _ none _ => .error (.builtin .valueError)
    | _ => .error (.builtin .osError)
  else if ref ∈ indexRefs then do
    let data ← loadJson root (localOf ref) "CAPABILITY_CONTEXT_SOURCE_INDEX_INVALID"
    match data with
    | .dict items => do
        let skills ← iter (getOr items "skills" (.list []))
        let capabilities ← iter (getOr items "capabilities" (.list []))
        let entries ← capabilities.mapM (indexEntry ref)
        pure (some (skills.filterMap skillEntry ++ entries))
    | _ => .error (.builtin .attributeError)
  else pure none

/-- An index that stays a reference. -/
def referenceOnly (binding : List (String × PyVal)) : PyVal :=
  obj (("content_scope", lit "REFERENCE_ONLY") ::
    ("effect_authorization", lit "NOT_GRANTED_BY_CONTEXT") :: ("entries", .list []) :: binding)

/-- `_source_index_projection` -/
def sourceIndexProjection (root : Root) (ref : PyStr) : Except Fault PyVal := do
  let binding ← sourceBinding root ref
  if ¬(binding.lookup "state").any (fun state => pyEq state (lit "FILE_HASH_OBSERVED")) then
    pure (referenceOnly binding)
  else do
    let entries ← indexEntries root ref
    match entries with
    | none => pure (referenceOnly binding)
    | some entries => do
        let again ← sourceBinding root ref
        if ¬pyEq (bindingSha256 again) (bindingSha256 binding) then
          rejectedAt "CAPABILITY_CONTEXT_SOURCE_INDEX_DRIFT" ref
        else if 512 < entries.length then rejectedAt "CAPABILITY_CONTEXT_SOURCE_INDEX_BUDGET" ref
        else pure (obj (("content_scope", lit "ALL_DECLARED_IDENTIFIERS_IN_BOUND_SOURCE") ::
          ("effect_authorization", lit "NOT_GRANTED_BY_CONTEXT") :: ("entries", .list entries) ::
          ("entry_count", .int entries.length) ::
          (binding.take 1 ++ ("runtime_readiness", lit "NOT_REOBSERVED") :: binding.drop 1)))

/-! ### The projection -/

/-- `_projection_hash` -/
def projectionHash (v : PyVal) : Except Fault PyStr := do
  let text ← PyJson.dumps PyJson.compact v
  if ¬PyJson.allFinite v then .error (.builtin .valueError)
  else do
    let raw ← encodeUtf8 text
    pure (Sha256.hexdigest raw)

/-- `runtime/total_field/master_index/…` -/
def pointerRel : String := "runtime/total_field/master_index/ACTIVE_W7TP_CANONICAL_POINTER.json"

/-- The contract in force, with the binding of its file. -/
def currentContract (root : Root) : Except Fault (List (String × PyVal) × PyVal) := do
  let pointer ← loadJson root (cp pointerRel) "CAPABILITY_CONTEXT_POINTER_MISSING"
  match pointer.get "canonical_path" with
  | .str contractRef => do
      let binding ← sourceBinding root contractRef
      if ¬pyEq (bindingSha256 binding) (pointer.get "canonical_sha256") then
        rejected "CAPABILITY_CONTEXT_CONTRACT_HASH_MISMATCH"
      else do
        let contract ← loadJson root contractRef "CAPABILITY_CONTEXT_CONTRACT_MISSING"
        if ¬pyEq (pointer.get "state") (lit "ACTIVE_CANONICAL") ∨
            ¬pyEq (pointer.get "canonical_id") (contract.get "canonical_id") ∨
            ¬pyEq (pointer.get "version") (contract.get "version") ∨
            ¬pyEq (contract.get "semantics") (lit "8_IN_1_SINGLE_DYNAMIC_STATE_FIELD") then
          rejected "CAPABILITY_CONTEXT_CURRENT_CONTRACT_MISMATCH"
        else pure (binding, contract)
  | _ => rejected "CAPABILITY_CONTEXT_CONTRACT_REF_MISSING"

/-- `isinstance(cid, str) and _ID.fullmatch(cid)` -/
def isId : PyVal → Bool
  | .str s => isCapabilityId s
  | _ => false

/-- `isinstance(v, str)` -/
def isText : PyVal → Bool
  | .str _ => true
  | _ => false

/-- A list of different identifiers; anything else is rejected. -/
def idList : PyVal → Except Fault (List PyStr)
  | .list xs =>
      if xs.all isId ∧ (xs.map textOf).Nodup then .ok (xs.map textOf)
      else rejected "CAPABILITY_CONTEXT_REQUIREMENTS_INVALID"
  | _ => rejected "CAPABILITY_CONTEXT_REQUIREMENTS_INVALID"

/-- The texts among some values. -/
def textsAmong (vs : List PyVal) : List PyStr := vs.filterMap fun v => match v with
  | .str s => some s
  | _ => none

/-- `task_source_refs` -/
def taskSourceRefs (task : Items) : Except Fault (List PyStr) := do
  let affected := match getOr task "D3_COORDINATE" (.dict []) with
    | .dict coordinate => getOr coordinate "affected_closure" (.list [])
    | _ => .list []
  let deps ← iter (getOr task "DEPENDENCIES" (.list []))
  let affected ← iter affected
  pure (textsAmong (deps ++ affected))

/-- `CAP_INTERNAL_DYNAMIC_CONTEXT_V1` -/
def dynamicContext : PyStr := cp "CAP_INTERNAL_DYNAMIC_CONTEXT_V1"

/-- The capabilities a task requires by itself: those it requests, the one for its context, and those whose
sources it touches. -/
def seeds (registry : Registry) (requested refs : List PyStr) : List PyStr :=
  (requested ++ dynamicContext :: (registry.capabilities.filter fun c =>
    c.sourceRefs.any fun ref => ref ∈ refs).map Capability.capabilityId).dedup

/-- `required`: the loop ends after as many steps as there are seeds and dependencies.  The order in which
the set is listed at first does not matter. -/
def requiredIds (registry : Registry) (requested refs : List PyStr) : List PyStr :=
  Worklist.close registry.requires
    ((seeds registry requested refs).length + (registry.capabilities.flatMap Capability.requires).length)
    (seeds registry requested refs) (seeds registry requested refs)

/-- `sorted` -/
def sortTexts (ts : List PyStr) : List PyStr := ts.mergeSort fun a b => a ≤ b

/-- A list of texts. -/
def texts (ts : List PyStr) : PyVal := .list (ts.map .str)

/-- `CAPABILITY_REF_PREFIX + cid` -/
def capabilityRef (cid : PyStr) : PyStr := cp "capability:" ++ cid

/-- The row of a capability in the catalogue. -/
def catalogueRow (root : Root) (required : List PyStr) (c : Capability) : Except Fault PyVal := do
  let bindings ← c.sourceRefs.mapM (sourceBinding root)
  pure (obj [("capability_class", .str c.capabilityClass), ("capability_id", .str c.capabilityId),
    ("capability_ref", .str (capabilityRef c.capabilityId)), ("coordinate_ref", .str c.coordinateRef),
    ("effect_authorization", lit "NOT_GRANTED_BY_CONTEXT"), ("effect_policy", .str c.mode),
    ("node_scope", texts c.nodeScope), ("owner_ref", .str c.ownerRef), ("registered_status", .str c.status),
    ("requires_capability_ids", texts c.requires), ("resource_refs", texts c.resourceRefs),
    ("risk_tags", texts c.riskTags), ("runtime_readiness", lit "NOT_REOBSERVED"),
    ("selection_reason", lit (if c.capabilityId ∈ required then "REQUIRED_BY_TASK_OR_CONTEXT_DEPENDENCY"
      else "CATALOGUE_AWARENESS_ONLY_NOT_SELECTED_FOR_EFFECT")),
    ("source_bindings", .list (bindings.map obj))])

/-- The files whose hashes are bound, apart from the contract. -/
def boundRefs : List String := ["AGENTS.md", "core/capability_internalization.py",
  "tools/w7tp_task_state_local_rule.py", "tools/w7tp_task_state_minimum_packet.py",
  "tools/total_field_dynamic_context_pull.py", "runtime/total_field/ACTIVE_TOTAL_FIELD_AUTHORITY.json"]

/-- `system_frame` -/
def systemFrame (contract : PyVal) : Except Fault PyVal := do
  let canonicalId ← contract.at "canonical_id"
  let version ← contract.at "version"
  let semantics ← contract.at "semantics"
  let dimensions ← contract.at "dimensions"
  pure (obj [("adi_definition_ref", lit "AGENTS.md#2.2"), ("canonical_id", canonicalId),
    ("dimensions", dimensions),
    ("effect_authority_ref", lit "runtime/total_field/ACTIVE_TOTAL_FIELD_AUTHORITY.json"),
    ("founder_definition_authority", lit "FOUNDER_ONLY"), ("provider_authority", .bool false),
    ("semantics", semantics), ("version", version)])

/-- `coverage` -/
def coverageOf (indices : List PyVal) : PyVal := obj [("all_technologies_complete", .bool false),
  ("dependency_scope", lit "EXPLICIT_DECLARED_CAPABILITY_DEPENDENCIES_ONLY"),
  ("external_index_contents", lit "DECLARED_IDENTIFIERS_ONLY_NO_RULE_BODY_OR_AUTHORITY"),
  ("registry_entries_complete", .bool true), ("runtime_effect_scope", lit "NOT_TESTED_BY_INDEX"),
  ("scope", lit "EXACT_BOUND_INTERNALIZATION_REGISTRY"),
  ("task_evidence_scope", lit "SELECTED_RECORDS_NOT_ENTIRE_HISTORY"),
  ("unexpanded_index_refs", .list ((indices.filter fun v =>
    pyEq (v.get "content_scope") (lit "REFERENCE_ONLY")).map fun v => v.get "ref"))]

/-- The state of a projection. -/
def stateOf (missing : List PyStr) : PyVal :=
  lit (if missing = [] then "BOUND_REGISTERED_CAPABILITY_CONTEXT" else "HOLD_REQUIRED_CAPABILITY_UNRESOLVED")

/-- The projection without its hash. -/
def projectionFields (registry : Registry) (required : List PyStr) (taskId : PyStr)
    (catalogue bindings indices : List PyVal) (frame : PyVal) : List (String × PyVal) :=
  let missing := sortTexts (required.filter fun cid => cid ∉ registry.ids)
  [("catalogue", .list catalogue), ("catalogue_count", .int catalogue.length),
    ("coverage", coverageOf indices), ("effect_authorization", lit "NOT_GRANTED_BY_CONTEXT"),
    ("missing_required_capability_ids", texts missing),
    ("required_capability_ids", texts (sortTexts required)),
    ("schema_id", lit "W7TP_CAPABILITY_CONTEXT_PROJECTION/1.0"), ("source_bindings", .list bindings),
    ("source_index_refs", .list indices), ("state", stateOf missing), ("system_frame", frame),
    ("task_ref", .str (cp "task:" ++ taskId))]

/-- `build_capability_context_projection` -/
def buildCapabilityContextProjection (root : Root) (task : Items) : Except Fault PyVal :=
  match getItem task (cp "TASK_ID") with
  | some (.str taskId) => do
      if taskId = [] then rejected "CAPABILITY_CONTEXT_TASK_REQUIRED"
      else do
        let registry ← loadInternalizationRegistry root
        let (contractBinding, contract) ← currentContract root
        let requested ← idList (getOr task "REQUIRED_CAPABILITY_IDS" (.list []))
        let refs ← taskSourceRefs task
        let required := requiredIds registry requested refs
        let rows := registry.capabilities.mergeSort fun a b => a.capabilityId ≤ b.capabilityId
        let catalogue ← rows.mapM (catalogueRow root required)
        let indices ← registry.sourceRegistryRefs.mapM (sourceIndexProjection root)
        let frame ← systemFrame contract
        let first ← [registryRel, schemaRel, pointerRel].mapM fun ref => sourceBinding root (cp ref)
        let others ← boundRefs.mapM fun ref => sourceBinding root (cp ref)
        let bindings := (first ++ contractBinding :: others).map obj
        let value := fields (projectionFields registry required taskId catalogue bindings indices frame)
        let digest ← projectionHash (.dict value)
        pure (.dict (setKey (cp "projection_sha256") (.str digest) value))
  | _ => rejected "CAPABILITY_CONTEXT_TASK_REQUIRED"

/-! ### The validator -/

/-- The rows of the catalogue, with their identifiers and classes. -/
def checkCatalogue (out : Items) : Except Fault (List PyVal × List PyStr × List PyStr) :=
  match getOr out "catalogue" (.list []) with
  | .list rows =>
      if ¬pyEq ((PyVal.dict out).get "catalogue_count") (.int rows.length) then
        rejected "CAPABILITY_CONTEXT_CATALOGUE_INCOMPLETE"
      else if ¬rows.all fun row => row.isDict && isId (row.get "capability_id") &&
          isText (row.get "capability_class") then
        rejected "CAPABILITY_CONTEXT_CATALOGUE_INVALID"
      else
        let ids := rows.map fun row => textOf (row.get "capability_id")
        let classes := rows.map fun row => textOf (row.get "capability_class")
        if ¬ids.Nodup ∨ ¬((∀ c ∈ classes, c ∈ requiredClasses.map cp) ∧
            ∀ c ∈ requiredClasses.map cp, c ∈ classes) ∨ classes.length ≠ requiredClasses.length then
          rejected "CAPABILITY_CONTEXT_CATALOGUE_INCOMPLETE"
        else .ok (rows, ids, classes)
  | _ => rejected "CAPABILITY_CONTEXT_CATALOGUE_INCOMPLETE"

/-- The frame grants no authority. -/
def frameStands (frame : PyVal) : Bool :=
  frame.isDict && truth false (frame.get "provider_authority") &&
    constant "FOUNDER_ONLY" (frame.get "founder_definition_authority") &&
    constant "8_IN_1_SINGLE_DYNAMIC_STATE_FIELD" (frame.get "semantics")

/-- `set(v).issubset(required)` -/
def subsetOf (required : List PyStr) (v : PyVal) : Except Fault Bool := do
  let xs ← iter v
  if ¬xs.all isHashable then .error (.builtin .typeError)
  else pure (xs.all fun x => required.any fun cid => pyEq x (.str cid))

/-- The check of a row: its reference, its dependencies, and no authority. -/
def checkRow (required : List PyStr) (row : PyVal) : Except Fault Unit := do
  let cid := textOf (row.get "capability_id")
  if ¬pyEq (row.get "capability_ref") (.str (capabilityRef cid)) then
    rejected "CAPABILITY_CONTEXT_REFERENCE_MISMATCH"
  else do
    let covered ← match row with
      | .dict items =>
          if cid ∈ required then subsetOf required (getOr items "requires_capability_ids" (.list []))
          else pure true
      | _ => .error (.builtin .attributeError)
    if ¬covered then rejected "CAPABILITY_CONTEXT_DEPENDENCY_OMITTED"
    else if ¬pyEq (row.get "effect_authorization") (lit "NOT_GRANTED_BY_CONTEXT") ∨
        ¬pyEq (row.get "runtime_readiness") (lit "NOT_REOBSERVED") then
      rejected "CAPABILITY_CONTEXT_AUTHORITY_ESCALATION"
    else pure ()

/-- The coverage claims no more than the catalogue. -/
def checkCoverage (out : Items) (missing : List PyStr) : Except Fault Unit :=
  if ¬pyEq ((PyVal.dict out).get "state") (stateOf missing) then
    rejected "CAPABILITY_CONTEXT_COVERAGE_OVERCLAIM"
  else
    match getOr out "coverage" (.dict []) with
    | .dict coverage =>
        if ¬(truth true ((PyVal.dict coverage).get "registry_entries_complete") &&
            truth false ((PyVal.dict coverage).get "all_technologies_complete") &&
            pyEq ((PyVal.dict out).get "effect_authorization") (lit "NOT_GRANTED_BY_CONTEXT")) then
          rejected "CAPABILITY_CONTEXT_COVERAGE_OVERCLAIM"
        else .ok ()
    | _ => .error (.builtin .attributeError)

/-- `validate_capability_context_projection` -/
def validateCapabilityContextProjection (value : PyVal) (taskRef : PyStr)
    (capabilityRefs : Option (List PyStr)) : Except Fault PyVal :=
  match value with
  | .dict items =>
      if ¬pyEq (value.get "schema_id") (lit "W7TP_CAPABILITY_CONTEXT_PROJECTION/1.0") then
        rejected "CAPABILITY_CONTEXT_SCHEMA_INVALID"
      else
        match getItem items (cp "projection_sha256") with
        | some (.str claimed) => do
            let out := eraseKey (cp "projection_sha256") items
            let digest ← projectionHash (.dict out)
            if claimed ≠ digest then rejected "CAPABILITY_CONTEXT_HASH_MISMATCH"
            else if ¬pyEq ((PyVal.dict out).get "task_ref") (.str taskRef) then
              rejected "CAPABILITY_CONTEXT_TASK_MISMATCH"
            else do
              let (rows, ids, _) ← checkCatalogue out
              if capabilityRefs.any fun refs => ¬ids.all fun cid => capabilityRef cid ∈ refs then
                rejected "CAPABILITY_CONTEXT_REFERENCE_OMITTED"
              else do
                let required ← idList (getOr out "required_capability_ids" (.list []))
                if ¬frameStands (getOr out "system_frame" (.dict [])) then
                  rejected "CAPABILITY_CONTEXT_AUTHORITY_ESCALATION"
                else do
                  let missing := sortTexts (required.filter fun cid => cid ∉ ids)
                  if ¬pyEq (texts missing) ((PyVal.dict out).get "missing_required_capability_ids") then
                    rejected "CAPABILITY_CONTEXT_REQUIREMENT_COVERAGE_MISMATCH"
                  else do
                    rows.forM (checkRow required)
                    checkCoverage out missing
                    pure (.dict (setKey (cp "projection_sha256") (.str claimed) out))
        | _ => rejected "CAPABILITY_CONTEXT_HASH_MISMATCH"
  | _ => rejected "CAPABILITY_CONTEXT_SCHEMA_INVALID"

end CapabilityContext
