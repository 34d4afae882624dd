/-
**The nonce ledger.**

`SQLitePersistentNonceLedger`: a table whose primary key is the nonce.  A first valid use inserts a row
in one transaction; a replay, an argument that is not valid, a closed ledger and an error of the
database insert nothing, and the answer is `False`.

Main definitions:

* `NonceLedger.isNonceRef` — `NONCE_REF.fullmatch`;
* `NonceLedger.validInput` — `_valid_input`;
* `NonceLedger.Ledger.markUsedOrReplay` — `mark_used_or_replay`.

Main results:

* `NonceLedger.mark_eq_true_iff` — a use is accepted when it is valid, and the first of its nonce;
* `NonceLedger.used_of_mark`, `NonceLedger.mark_of_not` — an accepted use enters its nonce, and another
  one leaves the ledger as it was.
-/

import Wuchang.Sha256
import Wuchang.PyJsonRead

set_option relaxedAutoImplicit false
set_option autoImplicit false

namespace NonceLedger

open Py

/-- `MAX_TTL_SECONDS` -/
def maxTtlSeconds : ℤ := 300

/-- `NONCE_REF.fullmatch(s)` -/
def isNonceRef (s : PyStr) : Bool :=
  (cp "nonce_ref:sha256:").isPrefixOf s && Sha256.isHex64 (s.drop 17)

/-- A row of `authority_nonce_ledger`. -/
structure Row where
  nonce : PyStr
  packetHash : PyStr
  usedAt : PyFloat
  authorityExpiresAt : PyFloat

/-- `SQLitePersistentNonceLedger` -/
structure Ledger where
  rows : List Row
  closed : Bool

/-- The nonces that have been used. -/
def Ledger.used (l : Ledger) : List PyStr := l.rows.map Row.nonce

/-- `_valid_input`, for a nonce and a hash that are texts, a float and an integer. -/
def validInput (nonce packetHash : PyStr) (nowEpoch : PyFloat) (ttlSeconds : ℤ) : Bool :=
  isNonceRef nonce && Sha256.isHex64 packetHash && nowEpoch.isFinite && 0 ≤ nowEpoch.value &&
    1 ≤ ttlSeconds && ttlSeconds ≤ maxTtlSeconds

/-- `mark_used_or_replay`; `fails` tells whether the database raises an error, so that the transaction is
rolled back. -/
def Ledger.markUsedOrReplay (l : Ledger) (fails : Bool) (nonce packetHash : PyStr) (nowEpoch : PyFloat)
    (ttlSeconds : ℤ) : Bool × Ledger :=
  if ¬validInput nonce packetHash nowEpoch ttlSeconds then (false, l)
  else if l.closed then (false, l)
  else if fails then (false, l)
  else if nonce ∈ l.used then (false, l)
  else (true, { l with
    rows := l.rows ++ [⟨nonce, packetHash, nowEpoch, PyFloat.ofRat false (nowEpoch.value + ttlSeconds)⟩] })

variable {l : Ledger} {fails : Bool} {nonce packetHash : PyStr} {nowEpoch : PyFloat} {ttlSeconds : ℤ}

/-- A use is accepted when it is valid, and the first of its nonce. -/
theorem mark_eq_true_iff :
    (l.markUsedOrReplay fails nonce packetHash nowEpoch ttlSeconds).1 = true ↔
      validInput nonce packetHash nowEpoch ttlSeconds = true ∧ l.closed = false ∧ fails = false ∧
        nonce ∉ l.used := by
  unfold Ledger.markUsedOrReplay
  split_ifs with hvalid hclosed hfails hused <;> simp_all

/-- A use that is not accepted leaves the ledger as it was. -/
theorem mark_of_not (h : (l.markUsedOrReplay fails nonce packetHash nowEpoch ttlSeconds).1 ≠ true) :
    (l.markUsedOrReplay fails nonce packetHash nowEpoch ttlSeconds).2 = l := by
  unfold Ledger.markUsedOrReplay at h ⊢
  split_ifs at h ⊢
  · rfl
  · rfl
  · rfl
  · exact absurd rfl h
  · rfl

/-- A use that is accepted enters its nonce. -/
theorem used_of_mark (h : (l.markUsedOrReplay fails nonce packetHash nowEpoch ttlSeconds).1 = true) :
    (l.markUsedOrReplay fails nonce packetHash nowEpoch ttlSeconds).2.used = l.used ++ [nonce] ∧
      nonce ∉ l.used ∧
      (l.markUsedOrReplay fails nonce packetHash nowEpoch ttlSeconds).2.closed = l.closed := by
  have hiff := mark_eq_true_iff.1 h
  unfold Ledger.markUsedOrReplay at h ⊢
  split_ifs at h ⊢ with hvalid hclosed hfails hused
  exact ⟨List.map_append, hused, rfl⟩

end NonceLedger
