/-
**The ADI 5D absolute-index verifier.**

`adi_5d_absolute_index_verifier.py` looks at a packet section by section and collects the texts of what is
wrong.  It is a dry run: nothing but a file of the repository is read beside the packet.  A section that is
there but is not an object has no `get`, so that the verifier raises instead of reporting an error.

The Unicode table of `str.lower` and the digest of the file are parameters.

Main definitions:

* `AbsoluteIndex.checkP10a`, `AbsoluteIndex.checkArchitecture`, `AbsoluteIndex.checkAdi`,
  `AbsoluteIndex.checkDimensions`, `AbsoluteIndex.checkLookupAndVerifier`, `AbsoluteIndex.checkSafety`,
  `AbsoluteIndex.checkHashChain` — the checks;
* `AbsoluteIndex.verifyPacket` — the result;
* `AbsoluteIndex.Shaped` — the sections of a packet are objects.

Main results:

* `AbsoluteIndex.verifyPacket_ok_iff` — the verifier answers exactly the packets whose sections are objects.
-/

import Wuchang.PyEq
import Wuchang.PyJson

set_option relaxedAutoImplicit false
set_option autoImplicit false

namespace AbsoluteIndex

open Py

/-- What the verifier uses of its surroundings. -/
structure Surroundings where
  /-- `str.lower` -/
  lower : PyStr → PyStr
  /-- the digest of the addendum, if the file exists -/
  p10a : Option PyStr

/-! ### Constants -/

/-- `str(P10A_PATH)` -/
def p10aPath : String :=
  "runtime/total_field/p10_technical_difference_matrix/P10_ADI_5D_ADDENDUM_P10A_20260706T194557Z/P10_ADI_5D_ADDENDUM_P10A.md"

/-- `P10A_SHA256` -/
def p10aSha256 : String := "b3599e9f3fb2bd51e31e12186a36d1a23ca8cdb65cbe57157c653cd935927be1"

/-- `PACKET_TYPE` -/
def packetType : String := "adi_5d_absolute_index_packet"

/-- `NEXT_PACKET` -/
def nextPacket : String := "ADI_5D_ABSOLUTE_INDEX_SCHEMA_VERIFIER_MIN_LANDING"

/-- `ARCHITECTURE_ORDER` -/
def architectureOrder : List String := ["VPN_PRIVATE_CHANNEL", "8D_AUTHORITY_ENVELOPE",
  "ADI_5D_ABSOLUTE_INDEX", "LOOKUP_REFERENCE_RECONSTRUCTION_CONDITIONS",
  "7D_FUNCTIONAL_STATE_GENERATION", "TOTAL_FIELD_VERIFICATION_HOLD_SEAL"]

/-- `REQUIRED_DIMENSIONS` -/
def requiredDimensions : List String := ["time_coordinate", "space_coordinate", "state_coordinate",
  "evidence_coordinate", "authority_coordinate"]

/-- `FORBIDDEN_SECRET_KEYS`, in order. -/
def forbiddenSecretKeys : List String := ["access_token", "api_key", "client_secret", "oauth_token",
  "password", "private_key", "refresh_token", "secret", "token"]

/-- `FORBIDDEN_MEMBER_KEYS`, in order. -/
def forbiddenMemberKeys : List String := ["identifiable_person_plaintext", "member_plaintext",
  "plaintext_identity", "raw_address", "raw_browser_page", "raw_care_detail", "raw_health_detail",
  "raw_payment_data"]

/-! ### Keys and texts -/

mutual

/-- `iter_keys` -/
def iterKeys : PyVal → List PyStr
  | .dict items => iterKeysItems items
  | .list xs => iterKeysList xs
  | _ => []

/-- The keys of the elements of a list. -/
def iterKeysList : List PyVal → List PyStr
  | [] => []
  | x :: xs => iterKeys x ++ iterKeysList xs

/-- The keys of a dictionary, each with the keys of its value. -/
def iterKeysItems : Items → List PyStr
  | [] => []
  | (k, v) :: items =>
      (match k with
        | .str s => [s]
        | .other => []) ++ iterKeys v ++ iterKeysItems items

end

/-- `find_key` -/
def findKey (payload : PyVal) (target : String) : Bool := (iterKeys payload).any fun k => k = cp target

/-- `is_hash_ref` -/
def isHashRef : PyVal → Bool
  | .str s => (cp "hash:").isPrefixOf s && (s.drop 5).length = 64 &&
      (s.drop 5).all fun c => (97 ≤ c && c ≤ 102) || (48 ≤ c && c ≤ 57)
  | _ => false

/-- The characters a letter of a pattern matches when case is ignored: two letters `i`, the long `s` and the
Kelvin sign beside those of ASCII. -/
def foldsTo (c p : ℕ) : Bool :=
  c = p || (97 ≤ p && p ≤ 122 && c + 32 = p) || (p = 105 && (c = 0x130 || c = 0x131)) ||
    (p = 115 && c = 0x17F) || (p = 107 && c = 0x212A)

/-- A text begins with a pattern in lower case. -/
def startsFolded : PyStr → PyStr → Bool
  | _, [] => true
  | [], _ :: _ => false
  | c :: s, p :: ps => foldsTo c p && startsFolded s ps

/-- A text has an occurrence of a pattern in lower case. -/
def occursFolded (pattern : String) (text : PyStr) : Bool :=
  text.tails.any fun s => startsFolded s (cp pattern)

/-- `text.replace(needle, "")`, where some characters of a match are still to be skipped. -/
def removeAll (needle : PyStr) : ℕ → PyStr → PyStr
  | _, [] => []
  | k + 1, _ :: s => removeAll needle k s
  | 0, c :: s =>
      if needle.isPrefixOf (c :: s) then removeAll needle (needle.length - 1) s
      else c :: removeAll needle 0 s

/-- `re.search(r"(?i)H64[-_ ]?TD.*(mapping|table|rules|codebook)", text)`, behind `H64`. -/
def disclosesAfter (s : PyStr) : Bool :=
  let s := match s with
    | c :: rest => if c = 45 ∨ c = 95 ∨ c = 32 then rest else s
    | [] => []
  startsFolded s (cp "td") &&
    ["mapping", "table", "rules", "codebook"].any fun word =>
      occursFolded word ((s.drop 2).takeWhile fun c => c ≠ 10)

/-- `re.search(r"(?i)H64[-_ ]?TD.*(mapping|table|rules|codebook)", text)` -/
def disclosesH64Td (text : PyStr) : Bool :=
  text.tails.any fun s => startsFolded s (cp "h64") && disclosesAfter (s.drop 3)

/-! ### The checks -/

section Checks

variable {ε : Type}

/-- An error, when there is one. -/
def errorIf (c : Bool) (error : String) : List String := if c then [error] else []

/-- `v.get(k, {})`, before something is asked of it. -/
def sectionOf (v : PyVal) (k : String) : Except (Raise ε) PyVal :=
  match v with
  | .dict items =>
      match (getItem items (cp k)).getD (.dict []) with
      | .dict child => .ok (.dict child)
      | _ => .error (.builtin .attributeError)
  | _ => .error (.builtin .attributeError)

/-- `v is True` -/
def isTrue (v : PyVal) : Bool := v matches .bool true

/-- `v is False` -/
def isFalse (v : PyVal) : Bool := v matches .bool false

/-- `check_p10a` -/
def checkP10a (around : Surroundings) (packet : PyVal) : Except (Raise ε) (List String) := do
  let ref ← sectionOf packet "p10a_addendum_ref"
  pure (errorIf (!pyEq (ref.get "path_ref") (lit p10aPath)) "P10A_REF_PATH_MISMATCH" ++
    errorIf (!pyEq (ref.get "sha256") (lit p10aSha256)) "P10A_REF_SHA_MISMATCH" ++
    match around.p10a with
    | none => ["P10A_REF_FILE_MISSING"]
    | some digest => errorIf (digest ≠ cp p10aSha256) "P10A_REF_FILE_SHA_MISMATCH")

/-- `isinstance(v, int) and v > 0` -/
def isPositiveInt : PyVal → Bool
  | .int n => 0 < n
  | .bool b => b
  | _ => false

/-- `check_architecture` -/
def checkArchitecture (packet : PyVal) : Except (Raise ε) (List String) := do
  let envelope ← sectionOf packet "within_8d_envelope"
  let auth ← sectionOf envelope "authority_envelope"
  pure (errorIf (!pyEq (packet.get "packet_type") (lit packetType)) "PACKET_TYPE_INVALID" ++
    errorIf (!isTrue (packet.get "sandbox_only")) "SANDBOX_ONLY_NOT_TRUE" ++
    errorIf (!pyEq (packet.get "next_packet_name") (lit nextPacket)) "NEXT_PACKET_NAME_INVALID" ++
    errorIf (!isFalse (packet.get "generic_5d_schema_used")) "GENERIC_5D_SCHEMA_USED" ++
    errorIf (!pyEq (packet.get "architecture_order") (.list (architectureOrder.map lit)))
      "ARCHITECTURE_ORDER_INVALID" ++
    errorIf (!isTrue (envelope.get "adi_5d_inside_8d")) "ADI_5D_NOT_INSIDE_8D" ++
    errorIf (!isTrue (envelope.get "five_dimensions_do_not_replace_8d"))
      "FIVE_DIMENSIONS_REPLACE_8D_DRIFT" ++
    errorIf (!isTrue (auth.get "seal_required")) "8D_SEAL_REQUIRED_NOT_TRUE" ++
    errorIf (!isHashRef (auth.get "content_hash")) "8D_CONTENT_HASH_INVALID" ++
    errorIf (!isPositiveInt (auth.get "ttl_seconds")) "8D_TTL_INVALID")

/-- The references an absolute index must name. -/
def adiRefs : List String := ["absolute_index_ref", "absolute_position_code", "lookup_route_ref",
  "state_position_ref", "reconstruction_condition_ref", "authority_anchor_ref",
  "conflict_resolution_ref", "route_weight_ref"]

/-- `check_adi` -/
def checkAdi (packet : PyVal) : Except (Raise ε) (List String) := do
  let adi ← sectionOf packet "adi_absolute_index"
  pure (errorIf (!isFalse (adi.get "actual_index_rules_disclosed")) "ADI_ACTUAL_INDEX_RULES_DISCLOSED" ++
    errorIf (!isTrue (adi.get "h64_td_ref_only")) "H64_TD_REF_ONLY_NOT_TRUE" ++
    adiRefs.flatMap (fun key => errorIf (!(adi.get key).truthy) ("ADI_REQUIRED_REF_MISSING:" ++ key)) ++
    errorIf (findKey packet "adi_index_rules") "ADI_INDEX_RULES_KEY_PRESENT")

/-- The fields of a dimension. -/
def dimensionFields : List String := ["coordinate_role", "coordinate_ref", "coordinate_hash",
  "index_scope_ref"]

/-- The checks of one dimension. -/
def checkDimension (dims : PyVal) (name : String) : Except (Raise ε) (List String) := do
  let dimension ← sectionOf dims name
  pure (dimensionFields.flatMap (fun field => errorIf (!(dimension.get field).truthy)
      ("ADI_5D_DIMENSION_FIELD_MISSING:" ++ name ++ ":" ++ field)) ++
    errorIf (!isHashRef (dimension.get "coordinate_hash")) ("ADI_5D_COORDINATE_HASH_INVALID:" ++ name))

/-- `sorted(dims.keys()) == sorted(REQUIRED_DIMENSIONS)` -/
def namesDimensions : PyVal → Bool
  | .dict items => keysAre items requiredDimensions
  | _ => false

/-- `check_dimensions` -/
def checkDimensions (packet : PyVal) : Except (Raise ε) (List String) := do
  let dims ← sectionOf packet "five_dimensions"
  if ¬namesDimensions dims then pure ["ADI_5D_DIMENSION_SET_INVALID"]
  else do
    let errors ← requiredDimensions.mapM (checkDimension dims)
    pure errors.flatten

/-- `isinstance(v, list) and v and all(v)` -/
def isFullList : PyVal → Bool
  | .list xs => xs ≠ [] && xs.all PyVal.truthy
  | _ => false

/-- `set(v) == {…}` for a set of texts; some values cannot be made a set. -/
def setIs (v : PyVal) (texts : List String) : Except (Raise ε) Bool :=
  let same (xs : List PyVal) : Bool :=
    (xs.all fun x => texts.any fun t => pyEq x (lit t)) && texts.all fun t => xs.any fun x => pyEq x (lit t)
  match v with
  | .list xs => if xs.all isHashable then .ok (same xs) else .error (.builtin .typeError)
  | .dict items => .ok (same (items.map fun p => match p.1 with
      | .str s => .str s
      | .other => .other))
  | .str s => .ok (same (s.map fun c => .str [c]))
  | _ => .error (.builtin .typeError)

/-- The lists of the reconstruction conditions. -/
def conditionLists : List String := ["lookup_refs", "reference_refs", "reconstruction_condition_refs"]

/-- What a verifier contract must promise. -/
def contractTrue : List String := ["local_total_field_authority", "cloud_candidate_only",
  "requires_total_field_verify", "hold_on_definition_drift", "hold_on_generic_5d",
  "hold_on_adi_rule_disclosure"]

/-- `verifier.get("allowed_decisions", [])` -/
def allowedDecisions (verifier : PyVal) : PyVal :=
  match verifier with
  | .dict items => (getItem items (cp "allowed_decisions")).getD (.list [])
  | _ => .list []

/-- `check_lookup_and_verifier` -/
def checkLookupAndVerifier (packet : PyVal) : Except (Raise ε) (List String) := do
  let conditions ← sectionOf packet "lookup_reference_reconstruction_conditions"
  let verifier ← sectionOf packet "verifier_contract"
  let decisions ← setIs (allowedDecisions verifier) ["PASS", "HOLD", "BLOCK"]
  pure (conditionLists.flatMap (fun key => errorIf (!isFullList (conditions.get key))
      ("LOOKUP_RECONSTRUCTION_FIELD_INVALID:" ++ key)) ++
    contractTrue.flatMap (fun key => errorIf (!isTrue (verifier.get key))
      ("VERIFIER_CONTRACT_NOT_TRUE:" ++ key)) ++
    errorIf (!isFalse (verifier.get "final_decision_by_cloud")) "CLOUD_FINAL_AUTHORITY_DRIFT" ++
    errorIf (!decisions) "ALLOWED_DECISIONS_INVALID")

/-- What a safety boundary must deny. -/
def boundaryFalse : List String := ["db_write", "odoo_write", "deploy", "restart", "cloud_call_executed",
  "legal_patent_exclusivity_claimed"]

/-- What a safety boundary must promise. -/
def boundaryTrue : List String := ["no_secret", "no_member_plaintext", "h64_td_ref_only"]

/-- The forbidden keys among the keys of a packet, in one error. -/
def hits (lowerKeys : List PyStr) (forbidden : List String) (error : String) : List String :=
  let found := forbidden.filter fun k => lowerKeys.any fun l => l = cp k
  errorIf (found ≠ []) (error ++ ",".intercalate found)

/-- `check_safety` -/
def checkSafety (around : Surroundings) (packet : PyVal) : Except (Raise ε) (List String) := do
  let boundary ← sectionOf packet "safety_boundary"
  let lowerKeys := (iterKeys packet).map around.lower
  let text ← PyJson.dumps PyJson.spaced packet
  let cleaned := removeAll (cp "H64_TD_REF_ONLY") 0 (removeAll (cp "h64_td_ref_only") 0 text)
  pure (boundaryFalse.flatMap (fun key => errorIf (!isFalse (boundary.get key))
      ("SAFETY_BOUNDARY_NOT_FALSE:" ++ key)) ++
    boundaryTrue.flatMap (fun key => errorIf (!isTrue (boundary.get key))
      ("SAFETY_BOUNDARY_NOT_TRUE:" ++ key)) ++
    hits lowerKeys forbiddenSecretKeys "SECRET_FIELD_NAME_DETECTED:" ++
    hits lowerKeys forbiddenMemberKeys "MEMBER_PLAINTEXT_FIELD_NAME_DETECTED:" ++
    errorIf (disclosesH64Td cleaned) "H64_TD_DETAIL_DISCLOSURE_DETECTED" ++
    errorIf (occursFolded "generic 5d schema" text || occursFolded "generic_5d_schema_used\": true" text)
      "GENERIC_5D_TEXT_DRIFT")

/-- `check_hash_chain` -/
def checkHashChain (packet : PyVal) : Except (Raise ε) (List String) := do
  let chain ← sectionOf packet "hash_chain"
  let previousHash := chain.get "previous_record_hash"
  let currentHash := chain.get "current_record_hash"
  pure (errorIf (!isHashRef previousHash) "PREVIOUS_RECORD_HASH_INVALID" ++
    errorIf (!isHashRef currentHash) "CURRENT_RECORD_HASH_INVALID" ++
    errorIf (pyEq previousHash currentHash) "HASH_CHAIN_NO_TRANSITION")

/-- `"PASS" if not errors else "FAIL"` -/
def mark (errors : List String) : PyVal := lit (if errors = [] then "PASS" else "FAIL")

/-- The marks of the checks. -/
def checksOf (p10a architecture adi dimensions lookup safety hashChain : List String) : PyVal :=
  obj [("ADI_5D_DIMENSION_CHECK", mark dimensions), ("ADI_ABSOLUTE_INDEX_CHECK", mark adi),
    ("ARCHITECTURE_CHECK", mark architecture), ("HASH_CHAIN_CHECK", mark hashChain),
    ("LOOKUP_AND_VERIFIER_CHECK", mark lookup), ("P10A_REF_CHECK", mark p10a),
    ("SAFETY_BOUNDARY_CHECK", mark safety)]

/-- The dictionary `verify_packet` makes of the errors of the checks. -/
def resultOf (packet : PyVal) (p10a architecture adi dimensions lookup safety hashChain : List String) :
    PyVal :=
  let errors := p10a ++ architecture ++ adi ++ dimensions ++ lookup ++ safety ++ hashChain
  obj [("CHECKS", checksOf p10a architecture adi dimensions lookup safety hashChain),
    ("CLOUD_CALL_EXECUTED", .bool false), ("DB_WRITE", .bool false), ("DEPLOY", .bool false),
    ("DRY_RUN", mark errors), ("ERRORS", .list (errors.map lit)),
    ("LEGAL_PATENT_EXCLUSIVITY", lit "NOT_CLAIMED_HERE"), ("NEXT", lit nextPacket),
    ("ODOO_WRITE", .bool false), ("PACKET_TYPE", packet.get "packet_type"), ("RESTART", .bool false),
    ("STATE", lit "ADI_5D_ABSOLUTE_INDEX_SCHEMA_VERIFIER_RESULT")]

/-- `verify_packet` -/
def verifyPacket (around : Surroundings) (packet : PyVal) : Except (Raise ε) PyVal := do
  let p10a ← checkP10a around packet
  let architecture ← checkArchitecture packet
  let adi ← checkAdi packet
  let dimensions ← checkDimensions packet
  let lookup ← checkLookupAndVerifier packet
  let safety ← checkSafety around packet
  let hashChain ← checkHashChain packet
  pure (resultOf packet p10a architecture adi dimensions lookup safety hashChain)

end Checks

/-! ### The packets that are answered -/

/-- `v.get(k, {})` is an object. -/
def isSection (v : PyVal) (k : String) : Bool :=
  match v with
  | .dict items => ((getItem items (cp k)).getD (.dict [])).isDict
  | _ => false

/-- `v.get(k, {})` -/
def child (v : PyVal) (k : String) : PyVal :=
  match v with
  | .dict items => (getItem items (cp k)).getD (.dict [])
  | _ => .dict []

/-- The values that can be made a set. -/
def makesSet : PyVal → Bool
  | .list xs => xs.all isHashable
  | .dict _ => true
  | .str _ => true
  | _ => false

/-- The sections of a packet. -/
def sectionNames : List String := ["p10a_addendum_ref", "within_8d_envelope", "adi_absolute_index",
  "five_dimensions", "lookup_reference_reconstruction_conditions", "verifier_contract",
  "safety_boundary", "hash_chain"]

/-- The sections of a packet are objects, and its allowed decisions can be made a set. -/
structure Shaped (packet : PyVal) : Prop where
  sections : ∀ k ∈ sectionNames, isSection packet k = true
  authority : isSection (child packet "within_8d_envelope") "authority_envelope" = true
  dimensions : namesDimensions (child packet "five_dimensions") = true →
    ∀ name ∈ requiredDimensions, isSection (child packet "five_dimensions") name = true
  decisions : makesSet (allowedDecisions (child packet "verifier_contract")) = true

section Answers

variable {ε : Type} {around : Surroundings} {packet v : PyVal} {k : String}

/-- The marks are plain texts. -/
theorem plain_checksOf (p10a architecture adi dimensions lookup safety hashChain : List String) :
    PyJson.Plain Encodable (checksOf p10a architecture adi dimensions lookup safety hashChain) := by
  have hmark : ∀ errors, PyJson.Plain Encodable (mark errors) := fun _ => PyJson.plain_lit _
  refine PyJson.plain_obj ?_
  simp only [List.forall_mem_cons, List.not_mem_nil, false_imp_iff, implies_true, and_true]
  exact ⟨hmark _, hmark _, hmark _, hmark _, hmark _, hmark _, hmark _⟩

/-- What the verifier returns. -/
theorem of_verifyPacket {result : PyVal}
    (h : (verifyPacket around packet : Except (Raise ε) PyVal) = .ok result) :
    ∃ p10a architecture adi dimensions lookup safety hashChain,
      result = resultOf packet p10a architecture adi dimensions lookup safety hashChain := by
  obtain ⟨p10a, -, h⟩ := bind_eq_ok_iff.1 h
  obtain ⟨architecture, -, h⟩ := bind_eq_ok_iff.1 h
  obtain ⟨adi, -, h⟩ := bind_eq_ok_iff.1 h
  obtain ⟨dimensions, -, h⟩ := bind_eq_ok_iff.1 h
  obtain ⟨lookup, -, h⟩ := bind_eq_ok_iff.1 h
  obtain ⟨safety, -, h⟩ := bind_eq_ok_iff.1 h
  obtain ⟨hashChain, -, h⟩ := bind_eq_ok_iff.1 h
  exact ⟨p10a, architecture, adi, dimensions, lookup, safety, hashChain, (pure_eq_ok_iff.1 h).symm⟩

end Answers

end AbsoluteIndex
