/-
**Governed promotion.**

`promote_accepted_candidate` of `w7tp_governed_promotion.py` checks a request against the files it names
and an authorization, consumes the nonce of the authorization, publishes a receipt in a directory of its
own, and switches the pointer file to a content that names the receipt.  Only the last steps are under a
lock, and the pointer is compared with the hash of the request before it is switched.

Several calls run on one repository.  What a call reads and writes is a step of its own; what comes from
outside — the other files a call reads, its clock, the verifier, the resolver of the authority, an error
of the database — is an input of the step, and a call may stop with an exception between any two steps.

Main definitions:

* `GovernedPromotion.Library` — `unicodedata` and `datetime`, with what the code relies on;
* `GovernedPromotion.canonicalBytes` — `canonical_bytes`;
* `GovernedPromotion.bind`, `GovernedPromotion.authorize`, `GovernedPromotion.prepare` — the checks of a
  call and what it is going to write;
* `GovernedPromotion.State`, `GovernedPromotion.Step` — the repository with its calls, and their steps.

Main results:

* `GovernedPromotion.getItem_cleanItems` — a key that no other key is cleaned to keeps its cleaned value;
* `GovernedPromotion.loads_canonicalBytes` — a canonical object is read back as it was cleaned.
-/

import Wuchang.NonceLedger
import Wuchang.PyBytes
import Wuchang.SingleUse

set_option relaxedAutoImplicit false
set_option autoImplicit false

namespace Py

/-- `x - y` for finite floats. -/
def PyFloat.sub (x y : PyFloat) : PyFloat := .ofRat (x.value < y.value) |x.value - y.value|

end Py

namespace GovernedPromotion

open Py

/-- The content of a file. -/
abbrev Bytes := List UInt8

/-- The parts of a path below the root of the repository. -/
abbrev Path := List PyStr

/-- An exception: `PromotionRejected` with its reason, or one of the interpreter's. -/
abbrev Fault := Raise PyStr

/-- `raise PromotionRejected(reason)` -/
def rejected {α : Type} (reason : String) : Except Fault α := .error (.own (cp reason))

/-- `REQUEST_SCHEMA` -/
def requestSchema : String := "W7TP_GOVERNED_PROMOTION_REQUEST_V1"

/-- `AUTH_SCHEMA` -/
def authSchema : String := "W7TP_SINGLE_USE_PROMOTION_AUTHORIZATION_V1"

/-- `DECISION_SCHEMA` -/
def decisionSchema : String := "W7TP_TOTAL_FIELD_FORMAL_CANDIDATE_DECISION_EVIDENCE_V1"

/-- `ACCEPTED_DECISION` -/
def acceptedDecision : String := "ALLOW_CANDIDATE_ACCEPTED"

/-- `REQUIRED_SCOPE` -/
def requiredScope : String := "PROMOTE_ACCEPTED_CANDIDATE"

/-! ### Canonical bytes -/

/-- A text of small letters and underscores. -/
def IsName (s : PyStr) : Prop := ∀ c ∈ s, c = 95 ∨ 97 ≤ c ∧ c ≤ 122

instance (s : PyStr) : Decidable (IsName s) := inferInstanceAs (Decidable (∀ c ∈ s, _))

/-- What the code takes from `unicodedata` and `datetime`. -/
structure Library where
  /-- `unicodedata.normalize("NFC", s)` -/
  nfc : PyStr → PyStr
  /-- ASCII is in normal form. -/
  nfc_ascii : ∀ s, (∀ c ∈ s, c < 128) → nfc s = s
  /-- A small letter is the normal form of itself only. -/
  nfc_name : ∀ s name, IsName name → nfc s = name → s = name
  nfc_text : ∀ s, IsText s → IsText (nfc s)
  /-- `datetime.fromisoformat(s)`: the timestamp, unless there is no time zone. -/
  fromisoformat : PyStr → Option (Option PyFloat)
  /-- `datetime.fromtimestamp(t, timezone.utc).isoformat().replace("+00:00", "Z")` -/
  utcText : PyFloat → Option PyStr
  utcText_text : ∀ t s, utcText t = some s → IsText s
  /-- `str(k)` of a key that is no text. -/
  foreignKey : PyStr
  foreignKey_text : IsText foreignKey

/-- `str(k)` -/
def keyText (lib : Library) : PyKey → PyStr
  | .str s => s
  | .other => lib.foreignKey

mutual

/-- `clean` of `canonical_bytes` -/
def clean (lib : Library) : PyVal → Except Fault PyVal
  | .str s => .ok (.str (lib.nfc s))
  | .list xs => do
      let ys ← cleanList lib xs
      pure (.list ys)
  | .dict items => do
      let cleaned ← cleanItems lib [] items
      pure (.dict cleaned)
  | .float _ => rejected "FLOAT_NOT_ALLOWED"
  | v => .ok v

/-- The elements of a list. -/
def cleanList (lib : Library) : List PyVal → Except Fault (List PyVal)
  | [] => .ok []
  | x :: xs => do
      let y ← clean lib x
      let ys ← cleanList lib xs
      pure (y :: ys)

/-- The items of a dictionary, behind those that are done. -/
def cleanItems (lib : Library) (cleaned : Items) : Items → Except Fault Items
  | [] => .ok cleaned
  | (k, v) :: items => do
      let w ← clean lib v
      cleanItems lib (setKey (lib.nfc (keyText lib k)) w cleaned) items

end

/-- `canonical_bytes` -/
def canonicalBytes (lib : Library) (v : PyVal) : Except Fault Bytes := do
  let w ← clean lib v
  let text ← PyJson.dumps PyJson.compact w
  encodeUtf8 text

/-! ### What canonical bytes tell -/

/-- What a `str` holds: every text inside a value has code points only. -/
inductive Typed : PyVal → Prop
  | none : Typed .none
  | bool (b : Bool) : Typed (.bool b)
  | int (n : ℤ) : Typed (.int n)
  | float (x : PyFloat) : Typed (.float x)
  | str (s : PyStr) (h : IsText s) : Typed (.str s)
  | list (xs : List PyVal) (h : ∀ x ∈ xs, Typed x) : Typed (.list xs)
  | dict (items : Items) (keys : ∀ p ∈ items, ∀ s, p.1 = .str s → IsText s)
      (h : ∀ p ∈ items, Typed p.2) : Typed (.dict items)
  | other : Typed .other

section Canonical

variable {lib : Library}

/-- What cleaned items keep: an order of the keys, and a condition on keys and values. -/
theorem cleanItems_forall {K : PyStr → Prop} {R : PyVal → Prop} {cleaned items result : Items}
    (hkeys : ∀ p ∈ items, K (lib.nfc (keyText lib p.1)))
    (hvals : ∀ p ∈ items, ∀ w, clean lib p.2 = .ok w → R w) (hsorted : Sorted cleaned)
    (hold : ∀ p ∈ cleaned, (∃ s, p.1 = .str s ∧ K s) ∧ R p.2)
    (h : cleanItems lib cleaned items = .ok result) :
    Sorted result ∧ ∀ p ∈ result, (∃ s, p.1 = .str s ∧ K s) ∧ R p.2 := by
  induction items generalizing cleaned with
  | nil =>
      cases h
      exact ⟨hsorted, hold⟩
  | cons p items ih =>
      rw [List.forall_mem_cons] at hkeys hvals
      obtain ⟨k, v⟩ := p
      rw [cleanItems, bind_eq_ok_iff] at h
      obtain ⟨w, hw, h⟩ := h
      have hstr : ∀ q ∈ cleaned, ∃ s, q.1 = .str s := by
        intro q hq
        obtain ⟨⟨s, hs, -⟩, -⟩ := hold q hq
        exact ⟨s, hs⟩
      refine ih hkeys.2 hvals.2 (sorted_setKey _ w hsorted hstr) (fun q hq => ?_) h
      rcases mem_setKey hq with rfl | hq
      · exact ⟨⟨_, rfl, hkeys.1⟩, hvals.1 w hw⟩
      · exact hold q hq

/-- A key that no other key is cleaned to has its cleaned value. -/
theorem getItem_cleanItems {k : PyStr} {cleaned items result : Items} (hsorted : Sorted items)
    (hkey : ∀ p ∈ items, lib.nfc (keyText lib p.1) = k ↔ p.1 = .str k)
    (h : cleanItems lib cleaned items = .ok result) :
    (getItem items k = none ∧ getItem result k = getItem cleaned k) ∨
      ∃ v w, getItem items k = some v ∧ clean lib v = .ok w ∧ getItem result k = some w := by
  induction items generalizing cleaned with
  | nil =>
      cases h
      exact .inl ⟨rfl, rfl⟩
  | cons p items ih =>
      rw [List.forall_mem_cons] at hkey
      obtain ⟨l, v⟩ := p
      rw [cleanItems, bind_eq_ok_iff] at h
      obtain ⟨w, hw, h⟩ := h
      obtain ⟨hlt, htail⟩ := sorted_cons.1 hsorted
      have hset := getItem_setKey (k := lib.nfc (keyText lib l)) (l := k) w cleaned
      rw [getItem]
      by_cases hl : l = .str k
      · rw [if_pos hl]
        rw [if_pos (hkey.1.2 hl).symm] at hset
        refine .inr ⟨v, w, rfl, hw, ?_⟩
        rcases ih htail hkey.2 h with ⟨-, hresult⟩ | ⟨v', w', hget, -, -⟩
        · rw [hresult, hset]
        · -- a key occurs once in sorted items
          obtain ⟨q, hq, hqk⟩ := exists_of_getItem hget
          have := hlt q hq
          rw [hl, hqk] at this
          exact absurd this (PyKey.lt_irrefl _)
      · rw [if_neg hl]
        rw [if_neg fun heq => hl (hkey.1.1 heq.symm)] at hset
        rw [← hset]
        exact ih htail hkey.2 h

/-- A cleaned value, if it can be written, is read back as it is. -/
theorem readable_clean {v : PyVal} (htyped : Typed v) : ∀ w, clean lib v = .ok w →
    PyJson.serialisable w = true → PyJson.Readable w ∧ PyJson.Plain IsText w := by
  induction v using PyVal.induct with
  | none =>
      rintro w h -
      cases h
      exact ⟨.none, .none⟩
  | bool b =>
      rintro w h -
      cases h
      exact ⟨.bool b, .bool b⟩
  | int n =>
      rintro w h -
      cases h
      exact ⟨.int n, .int n⟩
  | float x =>
      intro w h
      cases h
  | str s =>
      rintro w h -
      cases h
      cases htyped with
      | str _ hs => exact ⟨.str _, .str _ (lib.nfc_text s hs)⟩
  | list xs ih =>
      intro w h hw
      cases htyped with
      | list _ htyped =>
          rw [clean, bind_eq_ok_iff] at h
          obtain ⟨ys, hys, h⟩ := h
          cases h
          rw [PyJson.serialisable, PyJson.serialisableList_iff] at hw
          have hall : ∀ y ∈ ys, PyJson.Readable y ∧ PyJson.Plain IsText y := by
            induction xs generalizing ys with
            | nil =>
                cases hys
                simp
            | cons x xs ihxs =>
                rw [List.forall_mem_cons] at ih htyped
                rw [cleanList, bind_eq_ok_iff] at hys
                obtain ⟨y, hy, hys⟩ := hys
                obtain ⟨zs, hzs, hys⟩ := bind_eq_ok_iff.1 hys
                cases hys
                rw [List.forall_mem_cons] at hw ⊢
                exact ⟨ih.1 htyped.1 y hy hw.1, ihxs ih.2 htyped.2 zs hzs hw.2⟩
          exact ⟨.list ys fun y hy => (hall y hy).1, .list ys fun y hy => (hall y hy).2⟩
  | dict items ih =>
      intro w h hw
      cases htyped with
      | dict _ hkeys htyped =>
          rw [clean, bind_eq_ok_iff] at h
          obtain ⟨cleaned, hcleaned, h⟩ := h
          cases h
          have htext : ∀ p ∈ items, IsText (lib.nfc (keyText lib p.1)) := by
            intro p hp
            refine lib.nfc_text _ ?_
            cases hk : p.1 with
            | str s => exact hkeys p hp s hk
            | other => exact lib.foreignKey_text
          obtain ⟨hsorted, hall⟩ := cleanItems_forall
            (R := fun w => PyJson.serialisable w = true → PyJson.Readable w ∧ PyJson.Plain IsText w)
            htext (fun p hp => ih p hp (htyped p hp)) (show Sorted [] from List.Pairwise.nil) (by simp)
            hcleaned
          rw [PyJson.serialisable, PyJson.serialisableItems_iff] at hw
          have hval : ∀ p ∈ cleaned, PyJson.Readable p.2 ∧ PyJson.Plain IsText p.2 := fun p hp =>
            (hall p hp).2 (hw p hp).2
          refine ⟨.dict cleaned hsorted (fun p hp => ?_) fun p hp => (hval p hp).1,
            .dict cleaned (fun p hp => (hall p hp).1) fun p hp => (hval p hp).2⟩
          obtain ⟨s, hs, -⟩ := (hall p hp).1
          exact ⟨s, hs⟩
  | other =>
      intro w h hw
      cases h
      cases hw

/-- Canonical bytes are the encoded text of the cleaned value. -/
theorem canonicalBytes_eq_ok {v : PyVal} {b : Bytes} (h : canonicalBytes lib v = .ok b) :
    ∃ w, clean lib v = .ok w ∧ PyJson.serialisable w = true ∧
      b = (PyJson.write PyJson.compact w).flatMap utf8Char := by
  rw [canonicalBytes, bind_eq_ok_iff] at h
  obtain ⟨w, hw, h⟩ := h
  rw [bind_eq_ok_iff] at h
  obtain ⟨text, htext, h⟩ := h
  rw [PyJson.dumps] at htext
  split_ifs at htext with hser
  cases htext
  exact ⟨w, hw, hser, (encodeUtf8_isOk_iff.1 h).2⟩

/-- A canonical object, with or without a line break behind it, is read back as it was cleaned. -/
theorem loads_canonicalBytes {items : Items} {b space : Bytes} (hv : Typed (.dict items))
    (h : canonicalBytes lib (.dict items) = .ok b) (hspace : space = [] ∨ space = [10]) :
    ∃ cleaned, cleanItems lib [] items = .ok cleaned ∧
      PyJson.loadsBytes (b ++ space) = some (.dict cleaned) := by
  obtain ⟨w, hw, hser, rfl⟩ := canonicalBytes_eq_ok h
  obtain ⟨hread, hplain⟩ := readable_clean hv w hw hser
  rw [clean, bind_eq_ok_iff] at hw
  obtain ⟨cleaned, hcleaned, hw⟩ := hw
  cases hw
  refine ⟨cleaned, hcleaned, ?_⟩
  rcases hspace with rfl | rfl
  · rw [← List.flatMap_nil (f := utf8Char), ← List.flatMap_append]
    exact PyJson.loadsBytes_write PyJson.simple_compact hread hplain PyJson.ends_nil rfl (by decide)
  · have hbreak : ([10] : Bytes) = ([10] : PyStr).flatMap utf8Char := rfl
    have hends : PyJson.Ends [10] := by
      intro c hc
      obtain rfl : 10 = c := by simpa using hc
      decide
    rw [hbreak, ← List.flatMap_append]
    exact PyJson.loadsBytes_write PyJson.simple_compact hread hplain hends rfl (by decide)

end Canonical

/-! ### Times and paths -/

/-- `parse_time` -/
def parseTime (lib : Library) : PyVal → Except Fault PyFloat
  | .str s =>
      match lib.fromisoformat (s.flatMap fun c => if c = 90 then cp "+00:00" else [c]) with
      | none => rejected "INVALID_TIME"
      | some none => rejected "TIMEZONE_REQUIRED"
      | some (some t) => .ok t
  | _ => rejected "INVALID_TIME"

/-- `PurePosixPath(s).parts` of a relative path -/
def pathParts (s : PyStr) : Path := (s.splitOn 47).filter fun part => part ≠ [] ∧ part ≠ cp "."

/-- `runtime/total_field/promotions` -/
def promotions : Path := [cp "runtime", cp "total_field", cp "promotions"]

/-- `.promotion.lock` -/
def lockPath : Path := promotions ++ [cp ".promotion.lock"]

/-- `safe_path`; `links` are the paths that are symbolic links. -/
def safePath (links : Path → Bool) (value : PyVal) (promotionOutput : Bool) : Except Fault Path :=
  match value with
  | .str (c :: s) => do
      let parts := pathParts (c :: s)
      raiseIf (c = 47 ∨ cp ".." ∈ parts) (cp "PATH_ESCAPE")
      raiseIf (promotionOutput ∧ ¬(parts.length = 4 ∧ parts.take 3 = promotions))
        (cp "INVALID_PROMOTION_OUTPUT")
      raiseIf (parts.inits.tail.any links) (cp "SYMLINK_PATH_REJECTED")
      pure parts
  | _ => rejected "INVALID_PATH"

/-- `read_bound`, of the files as they are. -/
def readBound (links : Path → Bool) (files : Path → Option Bytes) (ref expected : PyVal) :
    Except Fault (Path × Bytes) :=
  match expected with
  | .str digest => do
      raiseIf (¬Sha256.isHex64 digest) (cp "INVALID_EXPECTED_SHA256")
      let path ← safePath links ref false
      match files path with
      | none => rejected "BOUND_OBJECT_MISSING"
      | some data => do
          raiseIf (Sha256.hexdigest data ≠ digest) (cp "BOUND_OBJECT_HASH_DRIFT")
          pure (path, data)
  | _ => rejected "INVALID_EXPECTED_SHA256"

/-- `read_json_bound`, with the bytes it has read. -/
def readJsonBound (links : Path → Bool) (files : Path → Option Bytes) (ref expected : PyVal) :
    Except Fault (Path × Bytes × PyVal) := do
  let (path, data) ← readBound links files ref expected
  match PyJson.loadsBytes data with
  | none => rejected "INVALID_JSON"
  | some v => do
      raiseIf (¬v.isDict) (cp "JSON_OBJECT_REQUIRED")
      pure (path, data, v)

/-! ### The request -/

/-- `v is False` -/
def isFalse : PyVal → Bool
  | .bool false => true
  | _ => false

/-- `v is True` -/
def isTrue : PyVal → Bool
  | .bool true => true
  | _ => false

/-- `formal_total_field_decision` -/
def formalTotalFieldDecision (evidence : PyVal) : Except Fault PyVal := do
  let result := evidence.get "total_field_result"
  raiseIf (¬result.isDict) (cp "INVALID_TOTAL_FIELD_DECISION_EVIDENCE")
  let decision := result.get "decision"
  raiseIf (¬pyEq decision (result.get "state") ∨
    ¬pyEq decision (result.get "owner_receive_candidate_state"))
    (cp "TOTAL_FIELD_DECISION_CONTRACT_MISMATCH")
  pure decision

/-- What a call finds in the files it reads before the pointer; each is read at a time of its own. -/
structure Observed where
  candidate : Path → Option Bytes
  decision : Path → Option Bytes
  current : Path → Option Bytes
  target : Path → Option Bytes

/-- The files a request is bound to, and the pointer as it was read. -/
structure Bound where
  candidatePath : Path
  decisionPath : Path
  currentPath : Path
  targetPath : Path
  pointerPath : Path
  content : Bytes
  pointer : PyVal

/-- `promote_accepted_candidate`, up to the reading of the pointer. -/
def bind (links : Path → Bool) (request : PyVal) (seen : Observed) (files : Path → Option Bytes) :
    Except Fault Bound := do
  raiseIf (¬request.isDict) (cp "INVALID_REQUEST")
  raiseIf (¬pyEq (request.get "schema_id") (lit requestSchema) ∨
    ¬pyEq (request.get "state") (lit "REQUEST_SINGLE_PROMOTION")) (cp "INVALID_REQUEST")
  raiseIf (¬isFalse (request.get "historical_receipt_reconstruction"))
    (cp "HISTORICAL_RECEIPT_RECONSTRUCTION_FORBIDDEN")
  let (candidatePath, _) ← readBound links seen.candidate (request.get "candidate_artifact_ref")
    (request.get "candidate_sha256")
  let (decisionPath, _, decision) ← readJsonBound links seen.decision
    (request.get "decision_evidence_ref") (request.get "decision_evidence_sha256")
  raiseIf (¬pyEq (decision.get "schema_id") (lit decisionSchema) ∨
    ¬pyEq (decision.get "state") (lit "TOTAL_FIELD_DECISION_OBTAINED"))
    (cp "INVALID_TOTAL_FIELD_DECISION_EVIDENCE")
  raiseIf (¬pyEq (decision.get "candidate_sha256") (request.get "candidate_sha256"))
    (cp "DECISION_CANDIDATE_BINDING_MISMATCH")
  let formal ← formalTotalFieldDecision decision
  raiseIf (¬pyEq formal (lit acceptedDecision) ∨
    ¬pyEq (request.get "total_field_decision") (lit acceptedDecision))
    (cp "TOTAL_FIELD_DECISION_NOT_ACCEPTED")
  let (currentPath, _) ← readBound links seen.current (request.get "current_canonical_ref")
    (request.get "current_canonical_sha256")
  let (targetPath, _) ← readBound links seen.target (request.get "target_canonical_ref")
    (request.get "target_canonical_sha256")
  let (pointerPath, content, pointer) ← readJsonBound links files (request.get "active_pointer_ref")
    (request.get "active_pointer_sha256")
  pure ⟨candidatePath, decisionPath, currentPath, targetPath, pointerPath, content, pointer⟩

/-! ### The authorization -/

/-- What comes from outside while an authorization is checked: the time, whether the verifier returns
`True` for a reference, a hash and a signature, and what the resolver returns. -/
structure Input where
  now : PyFloat
  verified : PyVal → PyStr → PyVal → Bool
  authority : Except Fault PyVal

/-- An authorization whose nonce is going to be consumed. -/
structure Authorization where
  nonce : PyStr
  payloadSha : PyStr
  now : PyFloat
  ttl : ℤ

/-- `resolve_authority`, of what the resolver returns. -/
def resolveAuthority (result : Except Fault PyVal) : Except Fault PyVal := do
  let result ← result
  raiseIf (¬result.isDict) (cp "AUTHORITY_RESOLVER_INVALID")
  raiseIf (¬pyEq (result.get "state") (lit "PASS_ACTIVE_TOTAL_FIELD_AUTHORITY_RESOLVED") ∨
    ¬isTrue (result.get "authority_verified")) (cp "ACTIVE_AUTHORITY_NOT_VERIFIED")
  match result.get "scope" with
  | .list scopes => do
      raiseIf (¬scopes.any fun scope => pyEq scope (lit requiredScope)) (cp "PROMOTION_SCOPE_NOT_GRANTED")
      pure result
  | _ => rejected "PROMOTION_SCOPE_NOT_GRANTED"

/-- The fields an authorization shares with its request. -/
def bindings (request : PyVal) : List (String × PyVal) := [
  ("scope", lit requiredScope),
  ("candidate_sha256", request.get "candidate_sha256"),
  ("decision_evidence_sha256", request.get "decision_evidence_sha256"),
  ("current_canonical_sha256", request.get "current_canonical_sha256"),
  ("target_canonical_sha256", request.get "target_canonical_sha256"),
  ("active_pointer_preimage_sha256", request.get "active_pointer_sha256")]

/-- The authorization without its hash and its signature. -/
def authorizationPayload (auth : PyVal) : PyVal :=
  match auth with
  | .dict items => .dict (eraseKey (cp "signature") (eraseKey (cp "payload_sha256") items))
  | v => v

/-- `promote_accepted_candidate`, from behind the reading of the pointer up to the nonce. -/
def authorize (lib : Library) (request : PyVal) (input : Input) : Except Fault Authorization := do
  let auth := request.get "promotion_authorization"
  raiseIf (¬auth.isDict ∨ ¬pyEq (auth.get "schema_id") (lit authSchema) ∨
    ¬pyEq (auth.get "state") (lit "AUTHORIZED_SINGLE_PROMOTION")) (cp "INVALID_PROMOTION_AUTHORIZATION")
  raiseIf ((bindings request).any fun p => ¬pyEq (auth.get p.1) p.2) (cp "AUTHORIZATION_BINDING_MISMATCH")
  match auth.get "nonce_ref" with
  | .str nonce => do
      raiseIf (¬NonceLedger.isNonceRef nonce) (cp "INVALID_AUTHORIZATION_NONCE")
      let issued ← parseTime lib (auth.get "issued_at")
      let expires ← parseTime lib (auth.get "expires_at")
      raiseIf (¬(input.now.isFinite ∧ issued.value ≤ input.now.value ∧ input.now.value < expires.value) ∨
        300 < (expires.sub issued).value) (cp "AUTHORIZATION_EXPIRED_OR_OVERSIZED")
      let payload ← canonicalBytes lib (authorizationPayload auth)
      let payloadSha := Sha256.hexdigest payload
      raiseIf (¬pyEq (auth.get "payload_sha256") (.str payloadSha))
        (cp "AUTHORIZATION_PAYLOAD_HASH_MISMATCH")
      raiseIf (¬input.verified (auth.get "verifier_ref") payloadSha (auth.get "signature"))
        (cp "AUTHORIZATION_SIGNATURE_INVALID")
      let authority ← resolveAuthority input.authority
      raiseIf (¬pyEq (authority.get "authority_id") (auth.get "authority_id"))
        (cp "AUTHORITY_ID_MISMATCH")
      pure ⟨nonce, payloadSha, input.now, max 1 ⌊(expires.sub input.now).value⌋⟩
  | _ => rejected "INVALID_AUTHORIZATION_NONCE"

/-! ### What is going to be written -/

/-- `datetime.fromtimestamp(now, timezone.utc).isoformat().replace("+00:00", "Z")` -/
def utcText (lib : Library) (now : PyFloat) : Except Fault PyStr :=
  match lib.utcText now with
  | some s => .ok s
  | none => .error (.builtin .valueError)

/-- `path.as_posix()` -/
def posix (path : Path) : PyStr := (cp "/").intercalate path

/-- `pointer_path.with_name(f".{pointer_path.name}.{os.getpid()}.tmp")` -/
def pointerTmp (pid : PyStr) (path : Path) : Path :=
  path.dropLast ++ [cp "." ++ path.getLastD [] ++ cp "." ++ pid ++ cp ".tmp"]

/-- The items of `receipt_body` -/
def receiptFields (request : PyVal) (a : Authorization) (authorityId : PyVal) (issuedAt : PyStr) :
    List (String × PyVal) := [
  ("activation", .bool false),
  ("active_pointer_preimage_sha256", request.get "active_pointer_sha256"),
  ("authority_id", authorityId),
  ("authorization_nonce_ref", .str a.nonce),
  ("authorization_payload_sha256", .str a.payloadSha),
  ("candidate_ref", request.get "candidate_artifact_ref"),
  ("candidate_sha256", request.get "candidate_sha256"),
  ("canonical_content_mutated", .bool false),
  ("current_canonical_sha256", request.get "current_canonical_sha256"),
  ("decision_evidence_ref", request.get "decision_evidence_ref"),
  ("decision_evidence_sha256", request.get "decision_evidence_sha256"),
  ("final_authority_granted", .bool false),
  ("historical_receipt_reconstructed", .bool false),
  ("issued_at", .str issuedAt),
  ("promotion", .bool true),
  ("schema_id", lit "W7TP_APPEND_ONLY_PROMOTION_RECEIPT_V1"),
  ("state", lit "PROMOTED_PENDING_ACTIVATION"),
  ("target_canonical_sha256", request.get "target_canonical_sha256"),
  ("total_field_decision", lit acceptedDecision)]

/-- `receipt` -/
def receipt (body : List (String × PyVal)) (receiptSha : PyStr) : PyVal :=
  .dict (setKey (cp "receipt_sha256") (.str receiptSha) (fields body))

/-- `next_pointer["pending_promotion"]` -/
def pendingPromotion (request : PyVal) (receiptSha : PyStr) : PyVal := obj [
  ("activation", .bool false),
  ("candidate_sha256", request.get "candidate_sha256"),
  ("final_authority_granted", .bool false),
  ("promotion_receipt_sha256", .str receiptSha),
  ("target_canonical_sha256", request.get "target_canonical_sha256")]

/-- The items of an object. -/
def itemsOf : PyVal → Items
  | .dict items => items
  | _ => []

/-- `next_pointer` -/
def nextPointer (request pointer : PyVal) (receiptSha : PyStr) : PyVal :=
  .dict (setKey (cp "pending_promotion") (pendingPromotion request receiptSha)
    (setKey (cp "promotion_state") (lit "PROMOTED_PENDING_ACTIVATION") (itemsOf pointer)))

/-- The content of `STATE_TRANSITION.json` -/
def stateTransition (receiptSha : PyStr) : PyVal := obj [
  ("activation", .bool false),
  ("final_authority_granted", .bool false),
  ("from", lit "CANDIDATE_ACCEPTED"),
  ("receipt_sha256", .str receiptSha),
  ("schema_id", lit "W7TP_PROMOTION_STATE_TRANSITION_V1"),
  ("to", lit "PROMOTED_PENDING_ACTIVATION")]

/-- What a call returns when it does not raise: the state, and the effects and hashes that go with it. -/
inductive Outcome where
  | hold (reason : PyStr)
  | dryRun (preview : List (String × PyVal))
  | pass (preview : List (String × PyVal)) (outputDir : Path)

/-- `preview` but for its state and its effects. -/
def preview (request : PyVal) (b : Bound) (receiptSha postimageSha : PyStr) : List (String × PyVal) := [
  ("candidate_verified", .str (posix b.candidatePath)),
  ("current_canonical_verified", .str (posix b.currentPath)),
  ("decision_verified", .str (posix b.decisionPath)),
  ("pointer_postimage_sha256", .str postimageSha),
  ("pointer_preimage_sha256", request.get "active_pointer_sha256"),
  ("receipt_sha256", .str receiptSha),
  ("target_canonical_verified", .str (posix b.targetPath))]

/-- What a call that has consumed its nonce is going to write, and where. -/
structure Plan where
  pointerPath : Path
  tmpPath : Path
  outputDir : Path
  receiptBytes : Bytes
  receiptSha : PyStr
  receiptFile : Bytes
  transitionFile : Bytes
  pointerFile : Bytes
  preview : List (String × PyVal)

/-- `PROMOTION_RECEIPT.json` of a directory -/
def receiptPath (dir : Path) : Path := dir ++ [cp "PROMOTION_RECEIPT.json"]

/-- `STATE_TRANSITION.json` of a directory -/
def transitionPath (dir : Path) : Path := dir ++ [cp "STATE_TRANSITION.json"]

/-- `.X.random` beside the output directory `X`, a name of `tempfile.mkdtemp` -/
def stagingDir (outputDir : Path) (random : PyStr) : Path :=
  outputDir.dropLast ++ [cp "." ++ outputDir.getLastD [] ++ cp "." ++ random]

/-- `promote_accepted_candidate`, from the receipt up to the preview, and with the bytes of the files that
are written later. -/
def prepare (lib : Library) (pid : PyStr) (request : PyVal) (b : Bound) (a : Authorization)
    (outputDir : Path) : Except Fault Plan := do
  let authorityId ← (request.get "promotion_authorization").at "authority_id"
  let issuedAt ← utcText lib a.now
  let body := receiptFields request a authorityId issuedAt
  let receiptBytes ← canonicalBytes lib (obj body)
  let receiptSha := Sha256.hexdigest receiptBytes
  let pointerFile ← canonicalBytes lib (nextPointer request b.pointer receiptSha)
  let receiptFile ← canonicalBytes lib (receipt body receiptSha)
  let transitionFile ← canonicalBytes lib (stateTransition receiptSha)
  pure {
    pointerPath := b.pointerPath
    tmpPath := pointerTmp pid b.pointerPath
    outputDir := outputDir
    receiptBytes := receiptBytes
    receiptSha := receiptSha
    receiptFile := receiptFile ++ [10]
    transitionFile := transitionFile ++ [10]
    pointerFile := pointerFile ++ [10]
    preview := preview request b receiptSha (Sha256.hexdigest (pointerFile ++ [10])) }

/-! ### The repository with its calls -/

/-- A call of `promote_accepted_candidate`. -/
structure Call where
  request : PyVal
  dryRun : Bool
  /-- `os.getpid()` as a text. -/
  pid : PyStr
  typed : Typed request

/-- The calls that run on one repository, and what they use. -/
structure Setting (ι : Type) where
  lib : Library
  /-- The paths that are symbolic links; no call makes one. -/
  links : Path → Bool
  calls : ι → Call

/-- Where a call is. -/
inductive Phase where
  | start
  | bound (b : Bound)
  | consumed (b : Bound) (a : Authorization)
  | prepared (p : Plan)
  | locked (p : Plan)
  | cleared (p : Plan)
  | staged (p : Plan) (dir : Path)
  | published (p : Plan)
  | written (p : Plan)
  | rechecked (p : Plan)
  | switched (p : Plan)
  | returned (o : Outcome)
  | raised

/-- The plan of a call that has taken the lock, or is about to. -/
def Phase.plan : Phase → Option Plan
  | .prepared p | .locked p | .cleared p | .staged p _ | .published p | .written p | .rechecked p
  | .switched p => some p
  | _ => none

/-- The call is between taking the lock and leaving it. -/
def Phase.holds : Phase → Bool
  | .locked _ | .cleared _ | .staged _ _ | .published _ | .written _ | .rechecked _ | .switched _ => true
  | _ => false

/-- A switch of a pointer: the call, the pointer, and the contents before and after it. -/
structure Switch (ι : Type) where
  call : ι
  path : Path
  before : Bytes
  after : Bytes

/-- The pointer as a call has read it, and the switches that were made before. -/
structure Reading (ι : Type) where
  path : Path
  content : Bytes
  seen : List (Switch ι)

/-- The repository, the ledger and the calls.  The last six fields are history: they say what was done,
and no step looks at them. -/
structure State (ι : Type) where
  files : Path → Option Bytes
  dirs : Path → Bool
  ledger : NonceLedger.Ledger
  lock : Option ι
  phase : ι → Phase
  /-- The nonce a call has consumed. -/
  held : ι → Option PyStr
  reading : ι → Option (Reading ι)
  plans : ι → Option Plan
  /-- The switches, the last one first. -/
  switches : List (Switch ι)
  /-- The contents of pointers that were hashed and compared. -/
  pointersHashed : List Bytes
  /-- The receipts that were hashed. -/
  receiptsHashed : List Bytes

variable {ι : Type} [DecidableEq ι]

namespace State

/-- A call goes on. -/
def go (s : State ι) (i : ι) (phase : Phase) : State ι :=
  { s with phase := Function.update s.phase i phase }

/-- A call gives the lock back, if it has it. -/
def unlock (s : State ι) (i : ι) : State ι :=
  { s with lock := if s.lock = some i then none else s.lock }

/-- A call ends with an exception: it is turned into a result, or it leaves the call. -/
def finish (s : State ι) (i : ι) : Fault → State ι
  | .own reason => (s.go i (.returned (.hold reason))).unlock i
  | .builtin _ => (s.go i .raised).unlock i

/-- A file is written, or it is taken away. -/
def setFile (s : State ι) (path : Path) (content : Option Bytes) : State ι :=
  { s with files := Function.update s.files path content }

/-- A directory is made, or it is taken away. -/
def setDir (s : State ι) (path : Path) (there : Bool) : State ι :=
  { s with dirs := Function.update s.dirs path there }

/-- `path.mkdir(parents=True, exist_ok=True)` -/
def makeDirs (s : State ι) (path : Path) : State ι :=
  { s with dirs := fun q => s.dirs q || q.isPrefixOf path }

/-- `path.exists()` -/
def pathExists (s : State ι) (path : Path) : Bool := s.dirs path || (s.files path).isSome

section Updates

variable (s : State ι) (path : Path)

omit [DecidableEq ι] in
@[simp] theorem setFile_self (content : Option Bytes) : (s.setFile path content).files path = content :=
  Function.update_self _ _ _

omit [DecidableEq ι] in
theorem setFile_of_ne {path' : Path} (h : path' ≠ path) (content : Option Bytes) :
    (s.setFile path content).files path' = s.files path' := Function.update_of_ne h _ _

omit [DecidableEq ι] in
@[simp] theorem setDir_self (there : Bool) : (s.setDir path there).dirs path = there :=
  Function.update_self _ _ _

omit [DecidableEq ι] in
theorem setDir_of_ne {path' : Path} (h : path' ≠ path) (there : Bool) :
    (s.setDir path there).dirs path' = s.dirs path' := Function.update_of_ne h _ _

@[simp] theorem go_self (i : ι) (phase : Phase) : (s.go i phase).phase i = phase :=
  Function.update_self _ _ _

theorem go_of_ne {i j : ι} (h : j ≠ i) (phase : Phase) : (s.go i phase).phase j = s.phase j :=
  Function.update_of_ne h _ _

omit [DecidableEq ι] in
theorem pathExists_eq_false : s.pathExists path = false ↔ s.dirs path = false ∧ s.files path = none := by
  rw [pathExists, Bool.or_eq_false_iff, Option.isSome_eq_false_iff, Option.isNone_iff_eq_none]

end Updates

end State

/-- One step of one call. -/
inductive Step (σ : Setting ι) : State ι → State ι → Prop
  /-- The request is checked, and the pointer is read. -/
  | bind {s : State ι} (i : ι) (seen : Observed) (b : Bound) (hphase : s.phase i = .start)
      (hbind : bind σ.links (σ.calls i).request seen s.files = .ok b) :
      Step σ s { s.go i (.bound b) with
        reading := Function.update s.reading i (some ⟨b.pointerPath, b.content, s.switches⟩)
        pointersHashed := b.content :: s.pointersHashed }
  | bindFails {s : State ι} (i : ι) (seen : Observed) (e : Fault) (hphase : s.phase i = .start)
      (hbind : GovernedPromotion.bind σ.links (σ.calls i).request seen s.files = .error e) :
      Step σ s (s.finish i e)
  | authorizeFails {s : State ι} (i : ι) (b : Bound) (input : Input) (e : Fault)
      (hphase : s.phase i = .bound b)
      (hauthorize : authorize σ.lib (σ.calls i).request input = .error e) :
      Step σ s (s.finish i e)
  /-- The nonce is entered in the ledger. -/
  | consume {s : State ι} (i : ι) (b : Bound) (input : Input) (a : Authorization) (fails : Bool)
      (hphase : s.phase i = .bound b) (hauthorize : authorize σ.lib (σ.calls i).request input = .ok a)
      (hmark : (s.ledger.markUsedOrReplay fails a.nonce a.payloadSha a.now a.ttl).1 = true) :
      Step σ s { s.go i (.consumed b a) with
        ledger := (s.ledger.markUsedOrReplay fails a.nonce a.payloadSha a.now a.ttl).2
        held := Function.update s.held i (some a.nonce) }
  | replay {s : State ι} (i : ι) (b : Bound) (input : Input) (a : Authorization) (fails : Bool)
      (hphase : s.phase i = .bound b) (hauthorize : authorize σ.lib (σ.calls i).request input = .ok a)
      (hmark : (s.ledger.markUsedOrReplay fails a.nonce a.payloadSha a.now a.ttl).1 ≠ true) :
      Step σ s (s.finish i (.own (cp "AUTHORIZATION_NONCE_REPLAY")))
  | outputFails {s : State ι} (i : ι) (b : Bound) (a : Authorization) (e : Fault)
      (hphase : s.phase i = .consumed b a)
      (houtput : safePath σ.links ((σ.calls i).request.get "promotion_output_ref") true = .error e) :
      Step σ s (s.finish i e)
  | collision {s : State ι} (i : ι) (b : Bound) (a : Authorization) (out : Path)
      (hphase : s.phase i = .consumed b a)
      (houtput : safePath σ.links ((σ.calls i).request.get "promotion_output_ref") true = .ok out)
      (hexists : s.pathExists out = true) :
      Step σ s (s.finish i (.own (cp "PROMOTION_OUTPUT_COLLISION")))
  | prepareFails {s : State ι} (i : ι) (b : Bound) (a : Authorization) (out : Path) (e : Fault)
      (hphase : s.phase i = .consumed b a)
      (houtput : safePath σ.links ((σ.calls i).request.get "promotion_output_ref") true = .ok out)
      (hprepare : prepare σ.lib (σ.calls i).pid (σ.calls i).request b a out = .error e) :
      Step σ s (s.finish i e)
  /-- The receipt and the next pointer are made; a dry run returns them. -/
  | prepare {s : State ι} (i : ι) (b : Bound) (a : Authorization) (out : Path) (p : Plan)
      (hphase : s.phase i = .consumed b a)
      (houtput : safePath σ.links ((σ.calls i).request.get "promotion_output_ref") true = .ok out)
      (hexists : s.pathExists out = false)
      (hprepare : prepare σ.lib (σ.calls i).pid (σ.calls i).request b a out = .ok p) :
      Step σ s { s.go i (if (σ.calls i).dryRun then .returned (.dryRun p.preview) else .prepared p) with
        plans := Function.update s.plans i (some p)
        receiptsHashed := p.receiptBytes :: s.receiptsHashed }
  /-- The lock is taken; the file of the lock is there then. -/
  | acquire {s : State ι} (i : ι) (p : Plan) (hphase : s.phase i = .prepared p) (hlock : s.lock = none) :
      Step σ s { ((s.makeDirs promotions).setFile lockPath (some ((s.files lockPath).getD []))).go i
          (.locked p) with
        lock := some i }
  /-- The output is not there, and the pointer is as the request says. -/
  | clear {s : State ι} (i : ι) (p : Plan) (content : Bytes) (hphase : s.phase i = .locked p)
      (hexists : s.pathExists p.outputDir = false) (hfile : s.files p.pointerPath = some content)
      (hhash : pyEq (.str (Sha256.hexdigest content)) ((σ.calls i).request.get "active_pointer_sha256")) :
      Step σ s { s.go i (.cleared p) with pointersHashed := content :: s.pointersHashed }
  | clearFails {s : State ι} (i : ι) (p : Plan) (hphase : s.phase i = .locked p)
      (hfails : s.pathExists p.outputDir = true ∨ ∃ content, s.files p.pointerPath = some content ∧
        ¬pyEq (.str (Sha256.hexdigest content)) ((σ.calls i).request.get "active_pointer_sha256")) :
      Step σ s (s.finish i (.own (cp "PROMOTION_CAS_PRECONDITION_FAILED")))
  /-- The receipt and the transition are written in a fresh directory. -/
  | stage {s : State ι} (i : ι) (p : Plan) (random : PyStr) (hphase : s.phase i = .cleared p)
      (hfresh : s.pathExists (stagingDir p.outputDir random) = false) :
      Step σ s ((((s.setDir (stagingDir p.outputDir random) true).setFile
        (receiptPath (stagingDir p.outputDir random)) (some p.receiptFile)).setFile
          (transitionPath (stagingDir p.outputDir random)) (some p.transitionFile)).go i
            (.staged p (stagingDir p.outputDir random)))
  /-- The directory gets its name. -/
  | publish {s : State ι} (i : ι) (p : Plan) (dir : Path) (hphase : s.phase i = .staged p dir) :
      Step σ s (((((((s.setDir p.outputDir true).setFile (receiptPath dir) none).setFile
        (transitionPath dir) none).setDir dir false).setFile (receiptPath p.outputDir)
          (some p.receiptFile)).setFile (transitionPath p.outputDir) (some p.transitionFile)).go i
            (.published p))
  /-- The next pointer is written in a fresh file. -/
  | write {s : State ι} (i : ι) (p : Plan) (hphase : s.phase i = .published p)
      (hfresh : s.pathExists p.tmpPath = false) :
      Step σ s (((s.makeDirs p.tmpPath.dropLast).setFile p.tmpPath (some p.pointerFile)).go i (.written p))
  | recheck {s : State ι} (i : ι) (p : Plan) (content : Bytes) (hphase : s.phase i = .written p)
      (hfile : s.files p.pointerPath = some content)
      (hhash : pyEq (.str (Sha256.hexdigest content)) ((σ.calls i).request.get "active_pointer_sha256")) :
      Step σ s { s.go i (.rechecked p) with pointersHashed := content :: s.pointersHashed }
  | recheckFails {s : State ι} (i : ι) (p : Plan) (content : Bytes) (hphase : s.phase i = .written p)
      (hfile : s.files p.pointerPath = some content)
      (hhash : ¬pyEq (.str (Sha256.hexdigest content))
        ((σ.calls i).request.get "active_pointer_sha256")) :
      Step σ s ((s.setFile p.tmpPath none).finish i (.own (cp "PROMOTION_CAS_PRECONDITION_FAILED")))
  /-- The fresh file becomes the pointer. -/
  | switch {s : State ι} (i : ι) (p : Plan) (content : Bytes) (hphase : s.phase i = .rechecked p)
      (hfile : s.files p.pointerPath = some content) :
      Step σ s { ((s.setFile p.tmpPath none).setFile p.pointerPath (some p.pointerFile)).go i
          (.switched p) with
        switches := ⟨i, p.pointerPath, content, p.pointerFile⟩ :: s.switches }
  | pass {s : State ι} (i : ι) (p : Plan) (hphase : s.phase i = .switched p) :
      Step σ s ((s.go i (.returned (.pass p.preview p.outputDir))).unlock i)
  /-- An exception leaves the call, or its process ends; the lock is given back. -/
  | stop {s : State ι} (i : ι) (hphase : ∀ o, s.phase i ≠ .returned o) :
      Step σ s ((s.go i .raised).unlock i)

end GovernedPromotion
