/-
**Codes of source coordinates.**

Products, questions and options of a menu have codes made of segments between colons.  A code is built from the
type of an entity, a menu and a coordinate, and explained by a second function that takes a code apart again.
Both bring texts into a normal form, and allow letters, digits and three other characters in a segment.

The texts are the coordinate's own normal form, not the coordinate: two menus that are written differently and
have one normal form share their codes.

Main definitions:

* `CoreEncoding.segment`, `CoreEncoding.buildSourceCoordinate` — a code is built;
* `CoreEncoding.explainCode` — a code is explained;
* `CoreEncoding.buildSurfaceBindingRef` — the reference of a code on a surface.

Main results:

* `CoreEncoding.buildSourceCoordinate_eq_ok_iff` — which codes are built;
* `CoreEncoding.explainSource_eq_ok_iff` — which of them are explained, and how;
* `CoreEncoding.codes_correspond` — a code is explained by what it was built from, and built from what explains
  it.
-/

import Wuchang.PyEq
import Wuchang.PyJson
import Wuchang.Sha256

set_option relaxedAutoImplicit false
set_option autoImplicit false

namespace CoreEncoding

open Py

/-- `FieldApplicationError(reason_code, path)` -/
structure Failure where
  reasonCode : String
  path : PyStr
  deriving DecidableEq, Repr

/-- An exception. -/
abbrev Fault := Raise Failure

/-- `raise FieldApplicationError(reason_code, path)` -/
def fail {α : Type} (reasonCode path : String) : Except Fault α := .error (.own ⟨reasonCode, cp path⟩)

/-- `unicodedata.normalize("NFC", s)` -/
abbrev Normal := PyStr → PyStr

/-! ### Segments -/

/-- A character of a segment. -/
def isSegmentChar (c : ℕ) : Bool :=
  (65 ≤ c && c ≤ 90) || (97 ≤ c && c ≤ 122) || (48 ≤ c && c ≤ 57) || c = 95 || c = 46 || c = 45

/-- `SEGMENT_PATTERN.fullmatch(s)` -/
def isSegment (s : PyStr) : Bool := s ≠ [] && s.all isSegmentChar

/-- `re.fullmatch(r"X[1-9][0-9]*", s)` for a letter `X`. -/
def isOrdinal (letter : ℕ) : PyStr → Bool
  | c :: d :: rest => c = letter && (49 ≤ d && d ≤ 57) && rest.all fun e => 48 ≤ e && e ≤ 57
  | _ => false

/-- `s.split(":")` -/
def split (s : PyStr) : List PyStr := s.splitOn 58

/-- `QUESTION_COORDINATE_PATTERN.fullmatch(s)`; no segment has a colon. -/
def isQuestionCoordinate (s : PyStr) : Bool :=
  match split s with
  | [group, question] => isSegment group && isOrdinal 81 question
  | _ => false

/-- `OPTION_COORDINATE_PATTERN.fullmatch(s)` -/
def isOptionCoordinate (s : PyStr) : Bool :=
  match split s with
  | [group, question, option] => isSegment group && isOrdinal 81 question && isOrdinal 79 option
  | _ => false

/-- `_segment` -/
def segment (nfc : Normal) (value : PyVal) (path : PyStr) : Except Fault PyStr :=
  match value with
  | .str s =>
      let normalized := nfc s
      if normalized = [] ∨ normalized ≠ strip normalized ∨ isSegment normalized = false then
        .error (.own ⟨"CORE_ENCODING_SEGMENT_INVALID", path⟩)
      else .ok normalized
  | _ => .error (.own ⟨"CORE_ENCODING_SEGMENT_INVALID", path⟩)

/-- `SUPPORTED_ENTITY_TYPES` -/
def supportedEntityTypes : List String := ["PRODUCT", "QUESTION", "OPTION"]

/-- `patterns[entity_type].fullmatch(s)` -/
def matchesPattern (entityType : String) (s : PyStr) : Bool :=
  if entityType = "PRODUCT" then isSegment s
  else if entityType = "QUESTION" then isQuestionCoordinate s
  else isOptionCoordinate s

/-- `build_source_coordinate` -/
def buildSourceCoordinate (nfc : Normal) (entityType menuId entityCoordinate : PyVal) : Except Fault PyStr :=
  match supportedEntityTypes.find? fun t => pyEq entityType (lit t) with
  | none => fail "CORE_ENCODING_ENTITY_TYPE_INVALID" "$.entity_type"
  | some entityType => do
      let menuId ← segment nfc menuId (cp "$.menu_id")
      match entityCoordinate with
      | .str s =>
          let coordinate := nfc s
          if matchesPattern entityType coordinate then
            pure (cp "QUICKCLICK" ++ 58 :: menuId ++ 58 :: coordinate)
          else fail "CORE_ENCODING_COORDINATE_INVALID" "$.entity_coordinate"
      | _ => fail "CORE_ENCODING_COORDINATE_INVALID" "$.entity_coordinate"

/-! ### Explanations -/

/-- A segment of a code, and what it means. -/
structure Position where
  position : ℕ
  segment : PyStr
  meaning : String
  deriving DecidableEq, Repr

/-- What `explain_code` returns. -/
structure Explanation where
  schemaVersion : String
  registryVersion : String
  codeClass : String
  surface : String
  entityType : PyStr
  positions : List Position
  identityStability : String
  deriving DecidableEq, Repr

/-- `ENCODING_REGISTRY_VERSION` -/
def encodingRegistryVersion : String := "W7TP-CORE-ENCODING/1.0"

/-- The positions of the segments, from one on. -/
def positionsOf (parts : List PyStr) (meanings : List String) : List Position :=
  ((parts.zip meanings).zipIdx 1).map fun p => ⟨p.2, p.1.1, p.1.2⟩

/-- An explanation with the versions. -/
def explained (codeClass surface : String) (entityType : PyStr) (parts : List PyStr) (meanings : List String)
    (identityStability : String) : Explanation where
  schemaVersion := "W7TP-CORE-CODE-EXPLANATION/1.0"
  registryVersion := encodingRegistryVersion
  codeClass := codeClass
  surface := surface
  entityType := entityType
  positions := positionsOf parts meanings
  identityStability := identityStability

/-- The type of a source code by its segments, and what they mean. -/
def sourceKind : List PyStr → Option (String × List String)
  | [_, _, _] =>
      some ("PRODUCT", ["SOURCE_AUTHORITY_NAMESPACE", "MENU_IDENTITY", "PRODUCT_IDENTITY_COORDINATE"])
  | [_, _, _, question] =>
      if isOrdinal 81 question then
        some ("QUESTION", ["SOURCE_AUTHORITY_NAMESPACE", "MENU_IDENTITY", "OPTION_GROUP_IDENTITY",
          "QUESTION_ORDINAL_WITHIN_GROUP"])
      else none
  | [_, _, _, question, option] =>
      if isOrdinal 81 question && isOrdinal 79 option then
        some ("OPTION", ["SOURCE_AUTHORITY_NAMESPACE", "MENU_IDENTITY", "OPTION_GROUP_IDENTITY",
          "QUESTION_ORDINAL_WITHIN_GROUP", "OPTION_ORDINAL_WITHIN_QUESTION"])
      else none
  | _ => none

/-- The loop over the segments; what `_segment` returns is not used. -/
def checkSegments (nfc : Normal) (i : ℕ) : List PyStr → Except Fault Unit
  | [] => .ok ()
  | part :: parts => do
      let _ ← segment nfc (.str part) (cp "$.code[" ++ intText i ++ cp "]")
      checkSegments nfc (i + 1) parts

/-- The code of a source. -/
def explainSource (nfc : Normal) (parts : List PyStr) : Except Fault Explanation :=
  match sourceKind parts with
  | none => fail "CORE_ENCODING_CODE_INVALID" "$.code"
  | some (entityType, meanings) => do
      checkSegments nfc 1 parts
      pure (explained "SOURCE_COORDINATE" "SOURCE" (cp entityType) parts meanings
        "UNCHANGED_WHILE_SOURCE_COORDINATE_IS_UNCHANGED")

/-- `re.fullmatch(r"^[A-Z][A-Z0-9_]{1,63}$", s)` -/
def isThingClass (s : PyStr) : Bool :=
  match s with
  | c :: rest => (65 ≤ c && c ≤ 90) && (1 ≤ rest.length && rest.length ≤ 63) &&
      rest.all fun d => (65 ≤ d && d ≤ 90) || (48 ≤ d && d ≤ 57) || d = 95
  | [] => false

/-- `FIELD_DIMENSIONS` -/
def fieldDimensions : List (String × String × String) := [
  ("D1", "INTENT", "HAS_INTENT"), ("D2", "STATE", "HAS_STATE"), ("D3", "COORDINATE", "LOCATED_AT"),
  ("D4", "EVIDENCE", "SUPPORTED_BY"), ("D5", "EXECUTION", "PROPOSES_EXECUTION"),
  ("D6", "GENERATIVE_TRANSMISSION", "RECONSTRUCTS_AS"), ("D7", "RISK", "EXPOSES_RISK"),
  ("D8", "ENVELOPE", "ENVELOPED_BY")]

/-- The code of a thing. -/
def explainThing : List PyStr → Option Explanation
  | [head, version, thing, algorithm, digest] =>
      if head = cp "W7TP_THING_REF" ∧ version = cp "v1" ∧ isThingClass thing = true ∧
          algorithm = cp "sha256" ∧ Sha256.isHex64 digest = true then
        some (explained "THING_REF" "TOTAL_FIELD" thing [head, version, thing, algorithm, digest]
          ["TOTAL_FIELD_THING_CLASS", "ENCODING_MAJOR_VERSION", "THING_SEMANTIC_CLASS", "DIGEST_ALGORITHM",
            "AUTHORITY_SCOPED_IDENTITY_DIGEST"]
          "UNCHANGED_WHILE_AUTHORITY_AND_STABLE_COORDINATE_ARE_UNCHANGED")
      else none
  | _ => none

/-- The code of an edge. -/
def explainEdge : List PyStr → Option Explanation
  | [head, version, dimension, relationship, algorithm, digest] =>
      if head = cp "W7TP_FIELD_EDGE_REF" ∧ version = cp "v1" ∧
          (fieldDimensions.any fun p => cp p.1 = dimension && cp p.2.2 = relationship) = true ∧
          algorithm = cp "sha256" ∧ Sha256.isHex64 digest = true then
        some (explained "FIELD_EDGE_REF" "TOTAL_FIELD" (cp "DIRECTED_RELATIONSHIP")
          [head, version, dimension, relationship, algorithm, digest]
          ["TOTAL_FIELD_EDGE_CLASS", "ENCODING_MAJOR_VERSION", "D1_TO_D8_DIMENSION", "DIRECTED_RELATIONSHIP",
            "DIGEST_ALGORITHM", "SOURCE_TARGET_EDGE_DIGEST"]
          "UNCHANGED_WHILE_SOURCE_TARGET_RELATIONSHIP_IS_UNCHANGED")
      else none
  | _ => none

/-- The heads of the references on a surface: the head, the surface and the type of the entity. -/
def surfaceHeads : List (String × String × String) := [
  ("ODOO_PRODUCT_PREVIEW_REF", "ODOO_HUMAN", "PRODUCT"), ("ODOO_PRODUCT_REF", "ODOO_HUMAN", "PRODUCT"),
  ("ODOO_QUESTION_PREVIEW_REF", "ODOO_HUMAN", "QUESTION"), ("ODOO_QUESTION_REF", "ODOO_HUMAN", "QUESTION"),
  ("ODOO_OPTION_PREVIEW_REF", "ODOO_HUMAN", "OPTION"), ("ODOO_OPTION_REF", "ODOO_HUMAN", "OPTION"),
  ("ADI_5D_PRODUCT_REF", "ADI_AI", "PRODUCT"), ("ADI_5D_QUESTION_REF", "ADI_AI", "QUESTION"),
  ("ADI_5D_OPTION_REF", "ADI_AI", "OPTION")]

/-- The reference of a code on a surface. -/
def explainSurface : List PyStr → Option Explanation
  | [head, version, algorithm, digest] =>
      match surfaceHeads.find? fun p => cp p.1 = head with
      | some (_, surface, entityType) =>
          if version = cp "v1" ∧ algorithm = cp "sha256" ∧ Sha256.isHex64 digest = true then
            some (explained "SURFACE_BINDING_REF" surface (cp entityType) [head, version, algorithm, digest]
              ["SURFACE_ENTITY_AND_CANDIDATE_CLASS", "ENCODING_MAJOR_VERSION", "DIGEST_ALGORITHM",
                "OPAQUE_SOURCE_BINDING_DIGEST"]
              "UNCHANGED_WHILE_SOURCE_COORDINATE_IS_UNCHANGED")
          else none
      | none => none
  | _ => none

/-- `explain_code` -/
def explainCode (nfc : Normal) (code : PyVal) : Except Fault Explanation :=
  match code with
  | .str s =>
      if s = [] ∨ s ≠ strip s then fail "CORE_ENCODING_CODE_INVALID" "$.code"
      else
        let parts := split s
        if parts.head? = some (cp "QUICKCLICK") then explainSource nfc parts
        else match (explainThing parts).or ((explainEdge parts).or (explainSurface parts)) with
          | some e => .ok e
          | none => fail "CORE_ENCODING_CODE_INVALID" "$.code"
  | _ => fail "CORE_ENCODING_CODE_INVALID" "$.code"

/-! ### References on a surface -/

mutual

/-- `normalize` in `_canonical_json` -/
def normalize (nfc : Normal) : PyVal → PyVal
  | .str s => .str (nfc s)
  | .list xs => .list (normalizeList nfc xs)
  | .dict items => .dict (normalizeItems nfc [] items)
  | v => v

/-- The elements of a list. -/
def normalizeList (nfc : Normal) : List PyVal → List PyVal
  | [] => []
  | x :: xs => normalize nfc x :: normalizeList nfc xs

/-- The items of a dictionary, added to those that are normalised already. -/
def normalizeItems (nfc : Normal) (done : Items) : Items → Items
  | [] => done
  | (.str k, v) :: items => normalizeItems nfc (setKey (nfc k) (normalize nfc v) done) items
  | (.other, v) :: items => normalizeItems nfc (done ++ [(.other, normalize nfc v)]) items

end

/-- `_canonical_sha256` -/
def canonicalSha256 (nfc : Normal) (v : PyVal) : Except Fault PyStr := do
  let normalized := normalize nfc v
  if PyJson.allFinite normalized then pure () else .error (.builtin .valueError)
  let text ← PyJson.dumps PyJson.compact normalized
  let bytes ← encodeUtf8 text
  pure (Sha256.hexdigest bytes)

/-- `SUPPORTED_SURFACES` -/
def supportedSurfaces : List String := ["ODOO_HUMAN", "ADI_AI"]

/-- What the reference of a code on a surface begins with. -/
def surfacePrefix (surface entityType : String) : PyStr :=
  if surface = "ODOO_HUMAN" then cp "ODOO_" ++ cp entityType ++ cp "_PREVIEW_REF"
  else cp "ADI_5D_" ++ cp entityType ++ cp "_REF"

/-- `build_surface_binding_ref` -/
def buildSurfaceBindingRef (nfc : Normal) (surface entityType sourceRef : PyVal) : Except Fault PyStr :=
  match supportedSurfaces.find? fun s => pyEq surface (lit s) with
  | none => fail "CORE_ENCODING_SURFACE_INVALID" "$.surface"
  | some surface =>
      match supportedEntityTypes.find? fun t => pyEq entityType (lit t) with
      | none => fail "CORE_ENCODING_ENTITY_TYPE_INVALID" "$.entity_type"
      | some entityType => do
          let explanation ← explainCode nfc sourceRef
          if explanation.entityType ≠ cp entityType then
            fail "CORE_ENCODING_ENTITY_TYPE_MISMATCH" "$.source_ref"
          else do
            let digest ← canonicalSha256 nfc (obj [("encoding_version", lit encodingRegistryVersion),
              ("entity_type", lit entityType), ("source_ref", sourceRef), ("surface", lit surface)])
            pure (surfacePrefix surface entityType ++ cp ":v1:sha256:" ++ digest)

/-! ### The registry of codes -/

/-- A format of the registry. -/
def formatOf (codeClass exampleShape : String) (positions : List String) : PyVal := obj [
  ("code_class", lit codeClass), ("example_shape", lit exampleShape), ("positions", .list (positions.map lit))]

/-- `build_encoding_registry`, without its hash. -/
def encodingRegistry : PyVal := obj [
  ("authority", lit "LOCAL_TOTAL_FIELD_ONLY"),
  ("field_dimensions", .list (fieldDimensions.map fun p => obj [
    ("dimension", lit p.1), ("relationship", lit p.2.2), ("semantic_role", lit p.2.1)])),
  ("formats", .list [
    formatOf "SOURCE_PRODUCT_COORDINATE" "QUICKCLICK:\x7bmenu_id\x7d:\x7bproduct_coordinate\x7d"
      ["SOURCE_AUTHORITY_NAMESPACE", "MENU_IDENTITY", "PRODUCT_IDENTITY_COORDINATE"],
    formatOf "SOURCE_QUESTION_COORDINATE"
      "QUICKCLICK:\x7bmenu_id\x7d:\x7boption_group_id\x7d:Q\x7bquestion_ordinal\x7d"
      ["SOURCE_AUTHORITY_NAMESPACE", "MENU_IDENTITY", "OPTION_GROUP_IDENTITY", "QUESTION_ORDINAL_WITHIN_GROUP"],
    formatOf "SOURCE_OPTION_COORDINATE"
      "QUICKCLICK:\x7bmenu_id\x7d:\x7boption_group_id\x7d:Q\x7bquestion_ordinal\x7d:O\x7boption_ordinal\x7d"
      ["SOURCE_AUTHORITY_NAMESPACE", "MENU_IDENTITY", "OPTION_GROUP_IDENTITY", "QUESTION_ORDINAL_WITHIN_GROUP",
        "OPTION_ORDINAL_WITHIN_QUESTION"],
    formatOf "SURFACE_BINDING_REF" "\x7bsurface_entity_class\x7d:v1:sha256:\x7bsource_binding_digest\x7d"
      ["SURFACE_ENTITY_AND_CANDIDATE_CLASS", "ENCODING_MAJOR_VERSION", "DIGEST_ALGORITHM",
        "OPAQUE_SOURCE_BINDING_DIGEST"],
    formatOf "THING_REF" "W7TP_THING_REF:v1:\x7bthing_class\x7d:sha256:\x7bauthority_scoped_identity_digest\x7d"
      ["TOTAL_FIELD_THING_CLASS", "ENCODING_MAJOR_VERSION", "THING_SEMANTIC_CLASS", "DIGEST_ALGORITHM",
        "AUTHORITY_SCOPED_IDENTITY_DIGEST"],
    formatOf "FIELD_EDGE_REF"
      "W7TP_FIELD_EDGE_REF:v1:\x7bdimension\x7d:\x7brelationship\x7d:sha256:\x7bsource_target_edge_digest\x7d"
      ["TOTAL_FIELD_EDGE_CLASS", "ENCODING_MAJOR_VERSION", "D1_TO_D8_DIMENSION", "DIRECTED_RELATIONSHIP",
        "DIGEST_ALGORITHM", "SOURCE_TARGET_EDGE_DIGEST"]]),
  ("invariants", .list (["BOTTOM_UP_SOURCE_COORDINATE_FIRST", "UNCHANGED_ENTITY_NEVER_REKEYED_BY_SNAPSHOT_CHANGE",
    "SNAPSHOT_HASH_SEALS_REGISTRY_NOT_ENTITY_IDENTITY", "RAW_OPTION_CODE_IS_NOT_A_UNIQUE_IDENTITY",
    "ODOO_AND_ADI_SURFACES_CONVERGE_TO_ONE_SEMANTIC_HASH",
    "EVERY_COMPLETE_8D_PACKET_HAS_EIGHT_POSITIONED_FIELD_EDGES", "FIELD_EDGE_CODES_NEVER_GRANT_D8_AUTHORITY",
    "NO_FORMAL_ORDER_OR_PAYMENT_AUTHORITY"].map lit)),
  ("mutation_rules", obj [
    ("add_entity", lit "ALLOCATE_ONLY_THE_NEW_SOURCE_COORDINATE_AND_BINDING"),
    ("change_display_or_price", lit "KEEP_IDENTITY_CODE_AND_RESEAL_REGISTRY_VERSION"),
    ("change_source_identity", lit "ISSUE_NEW_CODE_AND_RETAIN_OLD_CODE_AS_RETIRED_EVIDENCE"),
    ("delete_entity", lit "REMOVE_ONLY_THE_DELETED_ENTITY_FROM_ACTIVE_REGISTRY")]),
  ("registry_version", lit encodingRegistryVersion),
  ("schema_version", lit "W7TP-CORE-ENCODING-REGISTRY/1.0"),
  ("side_effects", obj [
    ("adi_write", .bool false), ("db_write", .bool false), ("formal_pos_order", .bool false),
    ("network_call", .bool false), ("odoo_write", .bool false)]),
  ("state", lit "CORE_INVARIANT_ACTIVE")]

/-- `build_encoding_registry()["content_sha256"]` -/
def encodingRegistrySha256 (nfc : Normal) : Except Fault PyStr := canonicalSha256 nfc encodingRegistry

/-! ### Segments and their characters -/

theorem char_of_isSegment {s : PyStr} (h : isSegment s = true) {c : ℕ} (hc : c ∈ s) :
    isSegmentChar c = true := List.all_eq_true.1 (Bool.and_eq_true_iff.1 h).2 c hc

theorem ne_nil_of_isSegment {s : PyStr} (h : isSegment s = true) : s ≠ [] := by
  simpa using (Bool.and_eq_true_iff.1 h).1

theorem bounds_of_isSegmentChar {c : ℕ} (h : isSegmentChar c = true) : 45 ≤ c ∧ c ≤ 122 ∧ c ≠ 58 := by
  simp only [isSegmentChar, Bool.or_eq_true, Bool.and_eq_true, decide_eq_true_eq] at h
  omega

theorem colon_not_mem {s : PyStr} (h : isSegment s = true) : 58 ∉ s :=
  fun hmem => (bounds_of_isSegmentChar (char_of_isSegment h hmem)).2.2 rfl

/-- Between the hyphen and the last letter there is no space. -/
theorem not_isSpace {c : ℕ} (h : 45 ≤ c ∧ c ≤ 122) : isSpace c = false :=
  (by decide : ∀ c : Fin 123, 45 ≤ c.1 → isSpace c.1 = false) ⟨c, by omega⟩ h.1

/-- A text without spaces is its own stripped form. -/
theorem strip_of_forall {s : PyStr} (h : ∀ c ∈ s, 45 ≤ c ∧ c ≤ 122) : strip s = s := by
  have hdrop : s.dropWhile isSpace = s := by
    cases s with
    | nil => rfl
    | cons c s => exact List.dropWhile_cons_of_neg (by simp [not_isSpace (h c (by simp))])
  rw [strip, hdrop, List.rdropWhile_eq_self_iff]
  intro hne
  simp [not_isSpace (h _ (List.getLast_mem hne))]

theorem strip_of_isSegment {s : PyStr} (h : isSegment s = true) : strip s = s :=
  strip_of_forall fun _ hc =>
    ⟨(bounds_of_isSegmentChar (char_of_isSegment h hc)).1, (bounds_of_isSegmentChar (char_of_isSegment h hc)).2.1⟩

theorem segment_eq_ok_iff {nfc : Normal} {v : PyVal} {path s : PyStr} :
    segment nfc v path = .ok s ↔ ∃ raw, v = .str raw ∧ nfc raw = s ∧ isSegment s = true := by
  cases v with
  | str raw =>
      rw [segment]
      simp only [PyVal.str.injEq, exists_eq_left']
      split_ifs with h
      · refine iff_of_false (by simp) ?_
        rintro ⟨rfl, hs⟩
        rcases h with h | h | h
        · exact ne_nil_of_isSegment hs h
        · exact h (strip_of_isSegment hs).symm
        · rw [hs] at h
          cases h
      · simp only [not_or, Bool.not_eq_false] at h
        rw [Except.ok.injEq]
        exact ⟨fun heq => ⟨heq, heq ▸ h.2.2⟩, fun heq => heq.1⟩
  | _ => exact iff_of_false (by simp [segment]) (by simp)

theorem isSegment_of_isOrdinal {letter : ℕ} {s : PyStr} (hletter : isSegmentChar letter = true)
    (h : isOrdinal letter s = true) : isSegment s = true := by
  match s, h with
  | c :: d :: rest, h =>
      simp only [isOrdinal, Bool.and_eq_true, decide_eq_true_eq, List.all_eq_true] at h
      obtain ⟨⟨rfl, hd⟩, hrest⟩ := h
      have hdigit : ∀ e, 48 ≤ e ∧ e ≤ 57 → isSegmentChar e = true := by
        intro e he
        simp [isSegmentChar, he]
      simp only [isSegment, List.all_cons, hletter, hdigit d ⟨by omega, hd.2⟩, Bool.true_and]
      simpa using fun e he => hdigit e (hrest e he)

/-! ### Building and explaining -/

/-- A text is its pieces between colons. -/
theorem intercalate_split (s : PyStr) : [58].intercalate (split s) = s := List.intercalate_splitOn 58

/-- The first piece of a text ends at the first colon. -/
theorem split_append_colon {s : PyStr} (h : 58 ∉ s) (t : PyStr) : split (s ++ 58 :: t) = s :: split t :=
  List.splitOn_append_cons_self_of_not_mem h t

theorem split_of_not_mem {s : PyStr} (h : 58 ∉ s) : split s = [s] := List.splitOn_eq_singleton h

theorem split_eq_singleton {s t : PyStr} (h : split s = [t]) : s = t := by
  have hself := intercalate_split s
  rw [h] at hself
  simpa using hself.symm

/-- The three grammars of coordinates are one: the pieces of a coordinate are segments, and behind a
namespace and a menu they are the pieces of a code of the type. -/
theorem matchesPattern_iff {entityType : String} (hsupported : entityType ∈ supportedEntityTypes)
    (a b s : PyStr) : matchesPattern entityType s = true ↔
      (sourceKind (a :: b :: split s)).map Prod.fst = some entityType ∧
        ∀ part ∈ split s, isSegment part = true := by
  simp only [supportedEntityTypes, List.mem_cons, List.not_mem_nil, or_false] at hsupported
  have hproduct : isSegment s = true ↔ ∃ t, split s = [t] ∧ isSegment t = true := by
    constructor
    · exact fun h => ⟨s, split_of_not_mem (colon_not_mem h), h⟩
    · rintro ⟨t, ht, hseg⟩
      rwa [split_eq_singleton ht]
  rcases hsupported with rfl | rfl | rfl
  · rw [matchesPattern, if_pos rfl, hproduct]
    rcases hsplit : split s with - | ⟨p, - | ⟨q, - | ⟨o, - | ⟨r, rest⟩⟩⟩⟩
    all_goals simp [sourceKind]
  · have hquestion : ∀ q, isOrdinal 81 q = true → isSegment q = true :=
      fun q => isSegment_of_isOrdinal (by decide)
    rw [matchesPattern, if_neg (by decide), if_pos rfl, isQuestionCoordinate]
    rcases split s with - | ⟨p, - | ⟨q, - | ⟨o, - | ⟨r, rest⟩⟩⟩⟩
    all_goals simp [sourceKind]
    by_cases hq : isOrdinal 81 q = true
    · simp [hq, hquestion q hq]
    · simp [hq]
  · have hquestion : ∀ q, isOrdinal 81 q = true → isSegment q = true :=
      fun q => isSegment_of_isOrdinal (by decide)
    have hoption : ∀ o, isOrdinal 79 o = true → isSegment o = true :=
      fun o => isSegment_of_isOrdinal (by decide)
    rw [matchesPattern, if_neg (by decide), if_neg (by decide), isOptionCoordinate]
    rcases split s with - | ⟨p, - | ⟨q, - | ⟨o, - | ⟨r, rest⟩⟩⟩⟩
    all_goals simp [sourceKind]
    by_cases hq : isOrdinal 81 q = true
    · by_cases ho : isOrdinal 79 o = true
      · simp [hq, ho, hquestion q hq, hoption o ho]
      · simp [hq, ho]
    · simp [hq]

/-- Which codes are built. -/
theorem buildSourceCoordinate_eq_ok_iff {nfc : Normal} {entityType menuId entityCoordinate : PyVal}
    {code : PyStr} : buildSourceCoordinate nfc entityType menuId entityCoordinate = .ok code ↔
      ∃ t ∈ supportedEntityTypes, ∃ menu coordinate, entityType = lit t ∧ menuId = .str menu ∧
        entityCoordinate = .str coordinate ∧ isSegment (nfc menu) = true ∧
        matchesPattern t (nfc coordinate) = true ∧
        code = cp "QUICKCLICK" ++ 58 :: nfc menu ++ 58 :: nfc coordinate := by
  have hpattern : ∀ (t : String) (menu : PyStr),
      (match entityCoordinate with
        | .str s =>
            if matchesPattern t (nfc s) then
              pure (cp "QUICKCLICK" ++ 58 :: menu ++ 58 :: nfc s)
            else fail "CORE_ENCODING_COORDINATE_INVALID" "$.entity_coordinate"
        | _ => fail "CORE_ENCODING_COORDINATE_INVALID" "$.entity_coordinate" : Except Fault PyStr) = .ok code ↔
      ∃ coordinate, entityCoordinate = .str coordinate ∧ matchesPattern t (nfc coordinate) = true ∧
        code = cp "QUICKCLICK" ++ 58 :: menu ++ 58 :: nfc coordinate := by
    intro t menu
    cases entityCoordinate with
    | str s =>
        simp only [PyVal.str.injEq, exists_eq_left']
        split_ifs with h
        · rw [pure_eq_ok_iff]
          exact ⟨fun heq => ⟨h, heq.symm⟩, fun heq => heq.2.symm⟩
        · exact iff_of_false (by simp [fail]) fun heq => h heq.1
    | _ => exact iff_of_false (by simp [fail]) (by simp)
  rw [buildSourceCoordinate]
  split
  · next hfind =>
      refine iff_of_false (by simp [fail]) ?_
      rintro ⟨t, ht, -, -, rfl, -⟩
      exact absurd (List.find?_eq_none.1 hfind t ht) (by simp)
  · next t hfind =>
      have ht := List.mem_of_find?_eq_some hfind
      have htype : pyEq entityType (lit t) = true := @List.find?_some _ _ t _ hfind
      obtain rfl := pyEq_lit.1 htype
      simp only [bind_eq_ok_iff, segment_eq_ok_iff, hpattern]
      constructor
      · rintro ⟨-, ⟨menu, rfl, rfl, hmenu⟩, coordinate, rfl, hcoordinate, rfl⟩
        exact ⟨t, ht, menu, coordinate, rfl, rfl, rfl, hmenu, hcoordinate, rfl⟩
      · rintro ⟨t', ht', menu, coordinate, heq, rfl, rfl, hmenu, hcoordinate, rfl⟩
        obtain rfl := cp_injective (PyVal.str.inj heq)
        exact ⟨_, ⟨menu, rfl, rfl, hmenu⟩, coordinate, rfl, hcoordinate, rfl⟩

/-- The segments of an explained code. -/
def Explanation.segments (e : Explanation) : List PyStr := e.positions.map Position.segment

theorem segments_positionsOf {parts : List PyStr} {meanings : List String} (h : parts.length = meanings.length) :
    (positionsOf parts meanings).map Position.segment = parts := by
  rw [positionsOf, List.map_map]
  have hfst : (Position.segment ∘ fun p : (PyStr × String) × ℕ => (⟨p.2, p.1.1, p.1.2⟩ : Position)) =
      Prod.fst ∘ Prod.fst := rfl
  rw [hfst, ← List.map_map, List.zipIdx_map_fst, List.map_fst_zip (le_of_eq h)]

theorem checkSegments_eq_ok_iff {nfc : Normal} {i : ℕ} {parts : List PyStr} {u : Unit} :
    checkSegments nfc i parts = .ok u ↔ ∀ part ∈ parts, isSegment (nfc part) = true := by
  induction parts generalizing i with
  | nil => simp [checkSegments]
  | cons part parts ih =>
      simp only [checkSegments, bind_eq_ok_iff, segment_eq_ok_iff, PyVal.str.injEq, exists_eq_left', ih,
        List.forall_mem_cons]
      exact ⟨fun ⟨_, ⟨hs, hpart⟩, hrest⟩ => ⟨hs ▸ hpart, hrest⟩, fun h => ⟨_, ⟨rfl, h.1⟩, h.2⟩⟩

/-- There is a meaning for every segment. -/
theorem length_of_sourceKind {parts : List PyStr} {t : String} {meanings : List String}
    (h : sourceKind parts = some (t, meanings)) : parts.length = meanings.length := by
  unfold sourceKind at h
  split at h
  · obtain ⟨-, rfl⟩ := Prod.mk.inj (Option.some.inj h)
    rfl
  · split at h
    · obtain ⟨-, rfl⟩ := Prod.mk.inj (Option.some.inj h)
      rfl
    · cases h
  · split at h
    · obtain ⟨-, rfl⟩ := Prod.mk.inj (Option.some.inj h)
      rfl
    · cases h
  · cases h

/-- Which source codes are explained, and how. -/
theorem explainSource_eq_ok_iff {nfc : Normal} {parts : List PyStr} {e : Explanation} :
    explainSource nfc parts = .ok e ↔ ∃ t meanings, sourceKind parts = some (t, meanings) ∧
      (∀ part ∈ parts, isSegment (nfc part) = true) ∧
      e = explained "SOURCE_COORDINATE" "SOURCE" (cp t) parts meanings
        "UNCHANGED_WHILE_SOURCE_COORDINATE_IS_UNCHANGED" := by
  rw [explainSource]
  cases hkind : sourceKind parts with
  | none => exact iff_of_false (by simp [fail]) (by simp)
  | some p =>
      simp only [bind_eq_ok_iff, checkSegments_eq_ok_iff, pure_eq_ok_iff, Option.some.injEq]
      constructor
      · rintro ⟨-, hparts, rfl⟩
        exact ⟨p.1, p.2, rfl, hparts, rfl⟩
      · rintro ⟨t, meanings, rfl, hparts, rfl⟩
        exact ⟨(), hparts, rfl⟩

/-! ### Codes and coordinates -/

/-- Segments are ASCII. -/
theorem ascii_of_isSegment {s : PyStr} (h : isSegment s = true) : ∀ c ∈ s, c < 128 := by
  intro c hc
  have := bounds_of_isSegmentChar (char_of_isSegment h hc)
  omega

/-- The pieces of a code that is built. -/
theorem split_code {menu coordinate : PyStr} (hmenu : isSegment menu = true) :
    split (cp "QUICKCLICK" ++ 58 :: menu ++ 58 :: coordinate) =
      cp "QUICKCLICK" :: menu :: split coordinate := by
  rw [List.append_assoc, List.cons_append, split_append_colon (by decide),
    split_append_colon (colon_not_mem hmenu)]

/-- Every character of a text is a colon or in one of its pieces. -/
theorem mem_split {s : PyStr} {c : ℕ} (hc : c ∈ s) : c = 58 ∨ ∃ part ∈ split s, c ∈ part := by
  induction s with
  | nil => cases hc
  | cons d s ih =>
      rw [split, List.splitOn_cons_eq_if_modifyHead]
      obtain ⟨first, rest, hsplit⟩ := List.exists_cons_of_ne_nil (List.splitOn_ne_nil 58 s)
      rw [split] at ih
      rw [hsplit] at ih ⊢
      rcases List.mem_cons.1 hc with rfl | hc
      · by_cases hd : c = 58
        · exact Or.inl hd
        · rw [if_neg (by simpa using hd)]
          exact Or.inr ⟨c :: first, by simp, by simp⟩
      · rcases ih hc with rfl | ⟨part, hpart, hin⟩
        · exact Or.inl rfl
        · split_ifs
          · exact Or.inr ⟨part, List.mem_cons_of_mem _ hpart, hin⟩
          · rcases List.mem_cons.1 hpart with rfl | hpart
            · exact Or.inr ⟨d :: part, by simp, by simp [hin]⟩
            · exact Or.inr ⟨part, by simp [hpart], hin⟩

/-- A text whose pieces are segments has characters from the hyphen to the last letter only. -/
theorem bounds_of_split {s : PyStr} (h : ∀ part ∈ split s, isSegment part = true) :
    ∀ c ∈ s, 45 ≤ c ∧ c ≤ 122 := by
  intro c hc
  rcases mem_split hc with rfl | ⟨part, hpart, hin⟩
  · omega
  · have := bounds_of_isSegmentChar (char_of_isSegment (h part hpart) hin)
    omega

/-- The segments of an explained source code are its pieces. -/
theorem segments_explained {parts : List PyStr} {t : String} {meanings : List String}
    (h : sourceKind parts = some (t, meanings)) (stability : String) :
    (explained "SOURCE_COORDINATE" "SOURCE" (cp t) parts meanings stability).segments = parts :=
  segments_positionsOf (length_of_sourceKind h)

/-- A code is explained by what it was built from. -/
theorem explainCode_of_built {nfc : Normal} (hascii : ∀ s : PyStr, (∀ c ∈ s, c < 128) → nfc s = s) {t : String}
    (hsupported : t ∈ supportedEntityTypes) {menu coordinate : PyStr} (hmenu : isSegment menu = true)
    (hcoordinate : matchesPattern t coordinate = true) :
    ∃ e, explainCode nfc (.str (cp "QUICKCLICK" ++ 58 :: menu ++ 58 :: coordinate)) = .ok e ∧
      e.entityType = cp t ∧ e.segments = cp "QUICKCLICK" :: menu :: split coordinate := by
  obtain ⟨hkind, hparts⟩ := (matchesPattern_iff hsupported (cp "QUICKCLICK") menu coordinate).1 hcoordinate
  obtain ⟨p, hp, rfl⟩ := Option.map_eq_some_iff.1 hkind
  have hsegments : ∀ part ∈ cp "QUICKCLICK" :: menu :: split coordinate, isSegment part = true :=
    List.forall_mem_cons.2 ⟨by decide, List.forall_mem_cons.2 ⟨hmenu, hparts⟩⟩
  have hsplit := @split_code menu coordinate hmenu
  have hstrip := strip_of_forall (bounds_of_split (hsplit ▸ hsegments))
  rw [explainCode]
  dsimp only
  rw [if_neg (by rw [hstrip]; simp), hsplit, List.head?_cons, if_pos rfl]
  refine ⟨_, explainSource_eq_ok_iff.2 ⟨p.1, p.2, hp, fun part hpart => ?_, rfl⟩, rfl,
    segments_explained hp _⟩
  rw [hascii part (ascii_of_isSegment (hsegments part hpart))]
  exact hsegments part hpart

/-- A source code has a namespace, a menu and a coordinate. -/
theorem shape_of_sourceKind {parts : List PyStr} {t : String} {meanings : List String}
    (h : sourceKind parts = some (t, meanings)) :
    t ∈ supportedEntityTypes ∧ ∃ a b c rest, parts = a :: b :: c :: rest := by
  unfold sourceKind at h
  split at h
  · obtain ⟨rfl, -⟩ := Prod.mk.inj (Option.some.inj h)
    exact ⟨by decide, _, _, _, _, rfl⟩
  · split at h
    · obtain ⟨rfl, -⟩ := Prod.mk.inj (Option.some.inj h)
      exact ⟨by decide, _, _, _, _, rfl⟩
    · cases h
  · split at h
    · obtain ⟨rfl, -⟩ := Prod.mk.inj (Option.some.inj h)
      exact ⟨by decide, _, _, _, _, rfl⟩
    · cases h
  · cases h

theorem split_injective : Function.Injective split := fun s t h => by
  rw [← intercalate_split s, ← intercalate_split t, h]

/-- A code that is explained as a source, and whose pieces are in normal form, is built from the triples in
whose normal form it is. -/
theorem built_of_explainCode {nfc : Normal} (hascii : ∀ s : PyStr, (∀ c ∈ s, c < 128) → nfc s = s)
    {code : PyStr} {e : Explanation} (he : explainCode nfc (.str code) = .ok e)
    (hhead : (split code).head? = some (cp "QUICKCLICK")) (hnormal : ∀ part ∈ split code, nfc part = part) :
    ∃ menu coordinate, nfc menu = menu ∧ nfc coordinate = coordinate ∧ ∀ entityType menuId entityCoordinate,
      buildSourceCoordinate nfc entityType menuId entityCoordinate = .ok code ↔ entityType = .str e.entityType ∧
        ∃ m c, menuId = .str m ∧ entityCoordinate = .str c ∧ nfc m = menu ∧ nfc c = coordinate := by
  have hsource : explainSource nfc (split code) = .ok e := by
    rw [explainCode] at he
    dsimp only at he
    split at he
    · cases he
    · exact he
  obtain ⟨t, meanings, hkind, hparts, rfl⟩ := explainSource_eq_ok_iff.1 hsource
  obtain ⟨hsupported, a, menu, first, rest, hshape⟩ := shape_of_sourceKind hkind
  have hsegment : ∀ part ∈ split code, isSegment part = true := fun part hpart =>
    hnormal part hpart ▸ hparts part hpart
  rw [hshape] at hhead hkind hsegment hnormal
  obtain rfl := Option.some.inj hhead
  obtain ⟨hmenu, hrest⟩ := List.forall_mem_cons.1 (List.forall_mem_cons.1 hsegment).2
  -- the coordinate is what stands behind the menu
  have hcoordinate : split ([58].intercalate (first :: rest)) = first :: rest :=
    List.splitOn_intercalate 58 (fun part hpart => colon_not_mem (hrest part hpart)) (List.cons_ne_nil _ _)
  have hnfc : nfc ([58].intercalate (first :: rest)) = [58].intercalate (first :: rest) := by
    refine hascii _ fun c hc => ?_
    have := @bounds_of_split ([58].intercalate (first :: rest)) (by rw [hcoordinate]; exact hrest) c hc
    omega
  refine ⟨menu, _, hnormal menu (by simp), hnfc, fun entityType menuId entityCoordinate => ?_⟩
  rw [buildSourceCoordinate_eq_ok_iff]
  constructor
  · rintro ⟨t', ht', m, c, rfl, rfl, rfl, hm, hc, hcode⟩
    have hsplit := hshape.symm.trans ((congrArg split hcode).trans (split_code hm))
    obtain ⟨rfl, hpieces⟩ := List.cons_eq_cons.1 (List.cons_eq_cons.1 hsplit).2
    obtain ⟨hkind', -⟩ := (matchesPattern_iff ht' (cp "QUICKCLICK") (nfc m) (nfc c)).1 hc
    rw [← hpieces, hkind] at hkind'
    obtain rfl := Option.some.inj hkind'
    exact ⟨rfl, m, c, rfl, rfl, rfl, split_injective (hpieces.symm.trans hcoordinate.symm)⟩
  · rintro ⟨rfl, m, c, rfl, rfl, rfl, hc⟩
    have hpieces : split (nfc c) = first :: rest := hc ▸ hcoordinate
    refine ⟨t, hsupported, m, c, rfl, rfl, rfl, hmenu, ?_, ?_⟩
    · refine (matchesPattern_iff hsupported (cp "QUICKCLICK") (nfc m) (nfc c)).2 ?_
      rw [hpieces, hkind]
      exact ⟨rfl, hrest⟩
    · refine split_injective ?_
      rw [hshape, split_code hmenu, hpieces]

/-- A code that was built is explained by the type and the segments it was built from; a code of the namespace
that is explained, and whose segments are in normal form, is built from one triple in normal form, and from the
triples that have this normal form. -/
theorem codes_correspond {nfc : Normal} (hascii : ∀ s : PyStr, (∀ c ∈ s, c < 128) → nfc s = s) :
    (∀ entityType menuId entityCoordinate code,
      buildSourceCoordinate nfc entityType menuId entityCoordinate = .ok code →
        ∃ m c e, menuId = .str m ∧ entityCoordinate = .str c ∧ explainCode nfc (.str code) = .ok e ∧
          entityType = .str e.entityType ∧ e.segments = cp "QUICKCLICK" :: nfc m :: split (nfc c)) ∧
    ∀ code e, explainCode nfc (.str code) = .ok e → (split code).head? = some (cp "QUICKCLICK") →
      (∀ part ∈ split code, nfc part = part) →
        ∃ menu coordinate, nfc menu = menu ∧ nfc coordinate = coordinate ∧ ∀ entityType menuId entityCoordinate,
          buildSourceCoordinate nfc entityType menuId entityCoordinate = .ok code ↔
            entityType = .str e.entityType ∧
              ∃ m c, menuId = .str m ∧ entityCoordinate = .str c ∧ nfc m = menu ∧ nfc c = coordinate := by
  refine ⟨fun entityType menuId entityCoordinate code h => ?_, fun code e => built_of_explainCode hascii⟩
  obtain ⟨t, ht, m, c, rfl, rfl, rfl, hmenu, hcoordinate, rfl⟩ := buildSourceCoordinate_eq_ok_iff.1 h
  obtain ⟨e, he, htype, hsegments⟩ := explainCode_of_built hascii ht hmenu hcoordinate
  exact ⟨m, c, e, rfl, rfl, he, by rw [htype]; rfl, hsegments⟩

/-- A normal form: the Kelvin sign is written as the letter. -/
def sampleNormal : Normal := fun s => s.map fun c => if c = 0x212A then 75 else c

theorem sampleNormal_ascii : ∀ s : PyStr, (∀ c ∈ s, c < 128) → sampleNormal s = s := by
  intro s h
  refine (List.map_congr_left fun c hc => ?_).trans (List.map_id s)
  have := h c hc
  rw [if_neg (by omega), id]

/-- The code of a menu and a product. -/
def sampleCode : PyStr := cp "QUICKCLICK" ++ 58 :: cp "K" ++ 58 :: cp "LATTE"

theorem built_sample (m : PyStr) (h : sampleNormal m = cp "K") :
    buildSourceCoordinate sampleNormal (lit "PRODUCT") (.str m) (lit "LATTE") = .ok sampleCode := by
  refine buildSourceCoordinate_eq_ok_iff.2
    ⟨"PRODUCT", by decide, m, cp "LATTE", rfl, rfl, rfl, by rw [h]; decide, by decide, ?_⟩
  rw [h]
  rfl

/-- The code is explained by what it was built from, and built from what explains it. -/
theorem codes_correspond_sample :
    (∃ m c e, lit "K" = PyVal.str m ∧ lit "LATTE" = PyVal.str c ∧
      explainCode sampleNormal (.str sampleCode) = .ok e ∧ lit "PRODUCT" = .str e.entityType ∧
      e.segments = cp "QUICKCLICK" :: sampleNormal m :: split (sampleNormal c)) :=
  (codes_correspond sampleNormal_ascii).1 _ _ _ _ (built_sample (cp "K") (by decide))

/-- Two menus whose names have one normal form share a code. -/
theorem not_unique_sample : (∃ e, explainCode sampleNormal (.str sampleCode) = .ok e) ∧
    ¬∃! p : PyVal × PyVal × PyVal, buildSourceCoordinate sampleNormal p.1 p.2.1 p.2.2 = .ok sampleCode := by
  constructor
  · obtain ⟨e, he, -⟩ := explainCode_of_built sampleNormal_ascii (t := "PRODUCT") (by decide)
      (by decide : isSegment (cp "K") = true) (by decide : matchesPattern "PRODUCT" (cp "LATTE") = true)
    exact ⟨e, he⟩
  · rintro ⟨p, -, hunique⟩
    have hletter := hunique (lit "PRODUCT", lit "K", lit "LATTE") (built_sample (cp "K") (by decide))
    have hsign := hunique (lit "PRODUCT", .str [0x212A], lit "LATTE") (built_sample [0x212A] (by decide))
    have hmenu := congrArg (fun p => p.2.1) (hletter.trans hsign.symm)
    exact absurd (PyVal.str.inj hmenu) (by decide)

end CoreEncoding
