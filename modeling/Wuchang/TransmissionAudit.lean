/-
**Every transmission is decided and audited, or raises before its record is written.**

`process_transmission` appends its record last.  Whatever raises before leaves no record: a timestamp that
is no double, a proof outside ASCII, an ADI packet whose sections are not objects, a task reference that
cannot be looked up, and a version text that cannot be encoded.  All other payloads are decided, and the
log that results is accepted by `verify_audit_chain`.

Main definitions:

* `Canonical8D.AuditLog.value` — the dictionary of a record;
* `Canonical8D.AuditChain` — an accepted log, with the hash of its last record;
* `Canonical8D.Answerable` — the calls in which nothing raises;
* `Canonical8D.Audited` — a call that is decided and audited.

Main results:

* `Canonical8D.verifyAuditFrom_iff` — the accepted logs are the chains;
* `Canonical8D.audited_iff_answerable` — in every reachable state, a call is decided and audited exactly
  when nothing raises in it.
-/

import Wuchang.AuditChain
import Wuchang.AbsoluteIndex

set_option relaxedAutoImplicit false
set_option autoImplicit false

namespace Canonical8D

open Py

/-! ### Logs -/

/-- The dictionary of a record. -/
def AuditLog.value (log : AuditLog) : PyVal :=
  obj [("adi_5d_gate_result", gateValue log.adi5dGateResult),
    ("collapse_result", lit log.collapseResult.text),
    ("created_at", log.createdAt),
    ("execution_candidate", (log.executionCandidate.map lit).getD .none),
    ("external_anchor_ref", (log.externalAnchorRef.map .str).getD .none),
    ("gate_stage", lit log.gateStage),
    ("key_version", .str log.keyVersion),
    ("log_hash", .str log.logHash),
    ("log_hmac", .str log.logHmac),
    ("packet_hash", .str log.packetHash),
    ("prev_log_hash", .str log.prevLogHash),
    ("run_id", .str log.runId),
    ("seal_version", .str log.sealVersion),
    ("trajectory_hmac", .list (log.trajectoryHmac.map .str)),
    ("verifier_version", .str log.verifierVersion)]

/-- A log in which each record is accepted behind the one before, and the hash of the last one. -/
inductive AuditChain (secrets : VerifierSecrets) : PyStr → List PyVal → PyStr → Prop where
  | nil (prev : PyStr) : AuditChain secrets prev [] prev
  | cons {prev logHash last : PyStr} {log : PyVal} {logs : List PyVal}
      (first : AuditAccepted secrets prev log logHash) (rest : AuditChain secrets logHash logs last) :
      AuditChain secrets prev (log :: logs) last

section Logs

variable {secrets : VerifierSecrets} {prev last logHash : PyStr} {log : PyVal} {logs : List PyVal}

/-- A chain grows by a record that is accepted behind its last one. -/
theorem AuditChain.concat (h : AuditChain secrets prev logs last)
    (hlog : AuditAccepted secrets last log logHash) : AuditChain secrets prev (logs ++ [log]) logHash := by
  induction h with
  | nil prev => exact .cons hlog (.nil logHash)
  | cons hfirst _ ih => exact .cons hfirst (ih hlog)

/-- The verifier puts together what the writer has hashed. -/
theorem auditCore_value (log : AuditLog) : auditCore log.value log.prevLogHash = .ok (logCore log) := by
  simp [auditCore, AuditLog.value, PyVal.at, obj, getOr, logCore, PyVal.get]

/-- The record of a call, with its hashes. -/
def recordOf (lib : Library) (secrets : VerifierSecrets) (config : VerifierConfig) (call : Call)
    (packetHash prevLogHash : PyStr) (verdict : Decision × String) (trajectory : List PyStr)
    (candidate : Option String) (gate : Option GateResult) (logHash logHmac : PyStr) : AuditLog :=
  ⟨call.runId, packetHash, trajectory, verdict.1, candidate, gate, config.verifierVersion, prevLogHash, logHash,
    logHmac, secrets.keyVersion, verdict.2, config.sealVersion, config.externalAnchorRef,
    lib.timeValue call.now⟩

section Records

variable {lib : Library} {config : VerifierConfig} {call : Call} {packetHash : PyStr}
  {verdict : Decision × String} {trajectory : List PyStr} {candidate : Option String}
  {gate : Option GateResult}

/-- A record is written when its text can be hashed. -/
theorem audit_eq : audit lib secrets config call packetHash prev verdict trajectory candidate gate = (do
    let text ← canonicalJson (logCore (recordOf lib secrets config call packetHash prev verdict trajectory
      candidate gate [] []))
    let logHash ← sha256Hex text
    let logHmac ← auditHmac secrets logHash
    pure (recordOf lib secrets config call packetHash prev verdict trajectory candidate gate logHash
      logHmac)) := by
  by_cases hsecret : secrets.auditSecret ≠ []
  · simp only [audit, auditHmac, if_pos hsecret]
    rfl
  · simp only [audit, auditHmac, if_neg hsecret]
    rfl

/-- A record that was written is accepted behind the record it names. -/
theorem accepted_of_audit {log : AuditLog}
    (h : audit lib secrets config call packetHash prev verdict trajectory candidate gate = .ok log) :
    AuditAccepted secrets prev log.value log.logHash := by
  rw [audit_eq] at h
  obtain ⟨text, htext, h⟩ := bind_eq_ok_iff.1 h
  obtain ⟨hash, hhash, h⟩ := bind_eq_ok_iff.1 h
  obtain ⟨keyed, hkeyed, h⟩ := bind_eq_ok_iff.1 h
  obtain rfl := pure_eq_ok_iff.1 h
  refine ⟨by simp [AuditLog.value, recordOf], ?_, by simp [AuditLog.value, getOr, obj], keyed, hkeyed,
    by simp [AuditLog.value, getOr, obj, recordOf]⟩
  have hcore := auditCore_value (recordOf lib secrets config call packetHash prev verdict trajectory candidate
    gate hash keyed)
  rw [auditHash]
  exact bind_eq_ok_iff.2 ⟨_, hcore, bind_eq_ok_iff.2 ⟨text, htext, hhash⟩⟩

end Records

end Logs

/-! ### The guards -/

section Guards

variable {secrets : VerifierSecrets} {config : VerifierConfig} {payload : Payload} {now : ℚ}
  {packetHash : PyStr} {rows : NonceLedger}

/-- The timestamp of an envelope of the right shape is a double. -/
def Convertible (payload : Payload) : Prop :=
  required.all payload.has = true → ∀ nonce, nonceOf (payload.get "env_D8") = some nonce →
    ∃ t, timestampOf payload = .ok t

/-- The proof of a packet that is in time is an ASCII text, if it is a text. -/
def AsciiProof (config : VerifierConfig) (payload : Payload) (now : ℚ) : Prop :=
  required.all payload.has = true → ∀ nonce t, nonceOf (payload.get "env_D8") = some nonce →
    timestampOf payload = .ok t → beyondTtl now config.ttlSeconds t = false →
      ∀ proof, payload.get "proof_D7" = .str proof → ∀ c ∈ proof, c < 128

/-- A payload with an object as envelope is signed with an ASCII text. -/
theorem exists_signD7Packet (hpayload : PyJson.Plain Encodable (.dict payload))
    (hdict : (payload.get "env_D8").isDict = true) (d7Secret : List UInt8) :
    ∃ expected, signD7Packet payload d7Secret = .ok expected ∧ ∀ c ∈ expected, c < 128 := by
  have hcore : ∀ env, PyJson.Plain Encodable env → PyJson.Plain Encodable (obj [
      ("D1", payload.get "delta_D1"), ("D2", payload.get "ref_D2"), ("D4", payload.get "delta_D4"),
      ("D8_nonce", env.get "nonce"), ("D8_timestamp", env.get "timestamp")]) := by
    intro env henv
    refine PyJson.plain_obj ?_
    simp only [List.forall_mem_cons, List.not_mem_nil, false_imp_iff, implies_true, and_true]
    exact ⟨hpayload.get _, hpayload.get _, hpayload.get _, henv.get _, henv.get _⟩
  have hsign : ∀ env, PyJson.Plain Encodable env →
      packetCore payload = .ok ⟨payload.get "delta_D1", payload.get "ref_D2", payload.get "delta_D4",
        env.get "nonce", env.get "timestamp"⟩ →
      ∃ expected, signD7Packet payload d7Secret = .ok expected ∧ ∀ c ∈ expected, c < 128 := by
    intro env henv hpacket
    obtain ⟨htext, hencodable⟩ := canonicalJson_ok (hcore env henv)
    refine ⟨_, Eq.trans ?_ (hmacSha256Hex_ok d7Secret hencodable), (ascii_hmac d7Secret _).2⟩
    rw [signD7Packet, canonicalPacketCore, hpacket, ok_bind, htext, ok_bind]
  by_cases htruthy : (payload.get "env_D8").truthy = true
  · refine hsign (payload.get "env_D8") (hpayload.get _) ?_
    rw [packetCore, if_neg (not_not.2 htruthy), if_pos hdict]
  · refine hsign (.dict []) (.dict [] (by simp) (by simp)) ?_
    rw [packetCore, if_pos htruthy]

end Guards

/-! ### The gate and the tensor space -/

section Collapse

variable {lib : Library} {secrets : VerifierSecrets} {payload : Payload} {call : Call}
  {around : AbsoluteIndex.Surroundings} {gate : GateResult}

/-- The ADI verifier is asked: the definitions have not drifted, and there is an object to ask about. -/
def Asked (lib : Library) (payload : Payload) : Prop :=
  checkGtDefinitionDrift lib payload = .ok [] ∧ (payload.get "adi_5d_absolute_index").isDict = true

/-- The ADI verifier passes a packet. -/
def AdiPasses (around : AbsoluteIndex.Surroundings) (packet : PyVal) : Prop :=
  ∃ result, (AbsoluteIndex.verifyPacket around packet : Except Fault PyVal) = .ok result ∧
    result.get "DRY_RUN" = lit "PASS"

/-- What the gate makes of an answer of the ADI verifier. -/
theorem gate_of_result {packet result : PyVal}
    (h : (AbsoluteIndex.verifyPacket around packet : Except Fault PyVal) = .ok result) :
    ∃ checks : PyVal, ∃ errors : List String, PyJson.Plain Encodable checks ∧
      getOr result "ERRORS" (.list []) = .ok (.list (errors.map lit)) ∧
      getOr result "DRY_RUN" .none = .ok (result.get "DRY_RUN") ∧
      getOr result "CHECKS" (.dict []) = .ok checks := by
  obtain ⟨p10a, architecture, adi, dimensions, lookup, safety, hashChain, rfl⟩ :=
    AbsoluteIndex.of_verifyPacket h
  exact ⟨_, p10a ++ architecture ++ adi ++ dimensions ++ lookup ++ safety ++ hashChain,
    AbsoluteIndex.plain_checksOf p10a architecture adi dimensions lookup safety hashChain,
    by simp [AbsoluteIndex.resultOf, getOr, obj], by simp [AbsoluteIndex.resultOf, getOr, obj, PyVal.get],
    by simp [AbsoluteIndex.resultOf, getOr, obj]⟩

/-- What the gate returns can be written, and it allows what the ADI verifier passes. -/
theorem of_gate (h : verifyAdi5dGate lib (AbsoluteIndex.verifyPacket around) payload = .ok gate) :
    PyJson.Plain Encodable (gateValue (some gate)) ∧
      (gate.decision = .allow ↔
        Asked lib payload ∧ AdiPasses around (payload.get "adi_5d_absolute_index")) := by
  have hvalue : ∀ (decision : Decision) (resultCode : String) (checks : PyVal) (errors : List String),
      PyJson.Plain Encodable checks →
      PyJson.Plain Encodable (gateValue (some ⟨decision, resultCode, checks, errors.map lit⟩)) := by
    intro decision resultCode checks errors hchecks
    refine PyJson.plain_obj ?_
    simp only [List.forall_mem_cons, List.not_mem_nil, false_imp_iff, implies_true, and_true]
    refine ⟨hchecks, PyJson.plain_lit _, .list _ fun v hv => ?_, PyJson.plain_lit _⟩
    obtain ⟨error, -, rfl⟩ := List.mem_map.1 hv
    exact PyJson.plain_lit _
  have hempty : PyJson.Plain Encodable (.dict []) := .dict [] (by simp) (by simp)
  obtain ⟨errors, hdrift, h⟩ := bind_eq_ok_iff.1 h
  dsimp only at h
  by_cases herrors : errors = []
  swap
  · rw [if_pos herrors] at h
    obtain rfl := pure_eq_ok_iff.1 h
    refine ⟨hvalue _ _ _ _ hempty, iff_of_false (by simp) fun hasked => herrors ?_⟩
    exact Except.ok.inj (hdrift.symm.trans hasked.1.1)
  subst herrors
  rw [if_neg (not_not.2 rfl)] at h
  by_cases hdict : (payload.get "adi_5d_absolute_index").isDict = true
  swap
  · rw [if_pos hdict] at h
    obtain rfl := pure_eq_ok_iff.1 h
    exact ⟨hvalue _ _ _ ["ADI_5D_ABSOLUTE_INDEX_MISSING"] hempty,
      iff_of_false (by simp) fun hasked => hdict hasked.1.2⟩
  rw [if_neg (not_not.2 hdict)] at h
  obtain ⟨result, hresult, h⟩ := bind_eq_ok_iff.1 h
  obtain ⟨checks, found, hplain, hfound, hdryRun, hchecks⟩ := gate_of_result hresult
  rw [hfound, ok_bind, listOf, ok_bind, hdryRun, ok_bind, hchecks, ok_bind] at h
  obtain rfl := pure_eq_ok_iff.1 h
  refine ⟨hvalue _ _ _ _ hplain, ?_⟩
  have hpasses : AdiPasses around (payload.get "adi_5d_absolute_index") ↔
      (result.get "DRY_RUN").eq (lit "PASS") = true := by
    rw [PyVal.eq_lit]
    constructor
    · rintro ⟨result', hresult', hpass⟩
      rwa [Except.ok.inj (hresult.symm.trans hresult')]
    · exact fun hpass => ⟨result, hresult, hpass⟩
  dsimp only
  rw [hpasses]
  split_ifs with hpass
  · exact iff_of_true rfl ⟨⟨hdrift, hdict⟩, hpass⟩
  · exact iff_of_false (by simp) fun hasked => hpass hasked.2

/-- What is recorded of the gate and of the trajectory can be written. -/
theorem of_collapse {verdict verdict' : Decision × String} {trajectory : List PyStr}
    {candidate : Option String} {gate : Option GateResult}
    (hadi : call.adiResult = AbsoluteIndex.verifyPacket around)
    (h : collapse lib secrets call verdict = .ok (verdict', trajectory, candidate, gate)) :
    PyJson.Plain Encodable (gateValue gate) ∧ (∀ s ∈ trajectory, Encodable s) ∧
      (verdict.1 ≠ .pass → verdict' = verdict) ∧ (verdict.1 = .pass →
        verdict'.1 = .hold ∨ verdict'.1 = .allow ∨ verdict'.1 = .block) := by
  rw [collapse] at h
  by_cases hpass : verdict.1 ≠ .pass
  · rw [if_pos hpass] at h
    have heq := Except.ok.inj h
    simp only [Prod.mk.injEq] at heq
    obtain ⟨rfl, rfl, rfl, rfl⟩ := heq
    exact ⟨.dict [] (by simp) (by simp), by simp, fun _ => rfl, fun heq => absurd heq hpass⟩
  rw [if_neg hpass, hadi] at h
  obtain ⟨result, hresult, h⟩ := bind_eq_ok_iff.1 h
  by_cases hallow : result.decision ≠ .allow
  · rw [if_pos hallow] at h
    have heq := pure_eq_ok_iff.1 h
    simp only [Prod.mk.injEq] at heq
    obtain ⟨rfl, rfl, rfl, rfl⟩ := heq
    exact ⟨(of_gate hresult).1, by simp, fun heq => absurd heq hpass, fun _ => .inl rfl⟩
  · rw [if_neg hallow] at h
    obtain ⟨vector, hvector, h⟩ := bind_eq_ok_iff.1 h
    obtain ⟨trajectory', htrajectory, h⟩ := bind_eq_ok_iff.1 h
    have heq := pure_eq_ok_iff.1 h
    simp only [Prod.mk.injEq] at heq
    obtain ⟨rfl, rfl, rfl, rfl⟩ := heq
    refine ⟨(of_gate hresult).1, fun s hs => ?_, fun heq => absurd heq hpass, fun _ => .inr ?_⟩
    · obtain ⟨item, -, hitem⟩ := (mem_of_mapM htrajectory).1 hs
      obtain ⟨bytes, -, hitem⟩ := bind_eq_ok_iff.1 hitem
      obtain rfl := pure_eq_ok_iff.1 hitem
      exact Sha256.encodable_hexdigest _
    · split_ifs
      · exact .inl rfl
      · exact .inr rfl

end Collapse

/-! ### The record -/

section Record

variable {lib : Library} {secrets : VerifierSecrets} {config : VerifierConfig} {call : Call}
  {packetHash prev : PyStr} {verdict : Decision × String} {trajectory : List PyStr}
  {candidate : Option String} {gate : Option GateResult}

/-- What is hashed of a record is plain when its parts are. -/
theorem plain_logCore {P : PyStr → Prop} (hP : ∀ s : String, P (cp s)) {log : AuditLog}
    (hgate : PyJson.Plain P (gateValue log.adi5dGateResult)) (hcreated : PyJson.Plain P log.createdAt)
    (hkey : P log.keyVersion) (hpacket : P log.packetHash) (hprev : P log.prevLogHash) (hrun : P log.runId)
    (htrajectory : ∀ s ∈ log.trajectoryHmac, P s) (hversion : P log.verifierVersion) :
    PyJson.Plain P (logCore log) := by
  refine .obj hP ?_
  simp only [List.forall_mem_cons, List.not_mem_nil, false_imp_iff, implies_true, and_true]
  refine ⟨hgate, .str _ (hP _), hcreated, ?_, .str _ (hP _), .str _ hkey, .str _ hpacket, .str _ hprev,
    .str _ hrun, .list _ fun v hv => ?_, .str _ hversion⟩
  · cases log.executionCandidate with
    | none => exact .none
    | some candidate => exact .str _ (hP _)
  · obtain ⟨s, hs, rfl⟩ := List.mem_map.1 hv
    exact .str _ (htrajectory s hs)

/-- The record is written when the version texts can be encoded. -/
theorem exists_audit_iff (hgate : PyJson.Plain Encodable (gateValue gate))
    (hcreated : PyJson.Plain Encodable (lib.timeValue call.now)) (hpacket : Encodable packetHash)
    (hprev : Encodable prev) (hrun : Encodable call.runId) (htrajectory : ∀ s ∈ trajectory, Encodable s) :
    (∃ log, audit lib secrets config call packetHash prev verdict trajectory candidate gate = .ok log) ↔
      Encodable secrets.keyVersion ∧ Encodable config.verifierVersion := by
  rw [audit_eq]
  constructor
  · rintro ⟨log, h⟩
    obtain ⟨text, htext, h⟩ := bind_eq_ok_iff.1 h
    obtain ⟨hash, hhash, -⟩ := bind_eq_ok_iff.1 h
    obtain ⟨bytes, hbytes, -⟩ := bind_eq_ok_iff.1 hhash
    have hencodable : Encodable text := (encodeUtf8_isOk_iff.1 hbytes).1
    rw [canonicalJson, PyJson.dumps] at htext
    split_ifs at htext
    obtain rfl := Except.ok.inj htext
    have hparts := PyJson.encodable_of_write_dict hencodable
    refine ⟨encodable_quote.1 (hparts (key "key_version", .str secrets.keyVersion) ?_),
      encodable_quote.1 (hparts (key "verifier_version", .str config.verifierVersion) ?_)⟩
    · simp [fields, recordOf]
    · simp [fields, recordOf]
  · rintro ⟨hkey, hversion⟩
    have hplain : PyJson.Plain Encodable (logCore (recordOf lib secrets config call packetHash prev verdict
        trajectory candidate gate [] [])) :=
      plain_logCore encodable_cp hgate hcreated hkey hpacket hprev hrun htrajectory hversion
    obtain ⟨htext, hencodable⟩ := canonicalJson_ok hplain
    have hhmac : ∀ s, Py.Encodable s → ∃ keyed, auditHmac secrets s = .ok keyed := by
      intro s hs
      rw [auditHmac]
      split_ifs
      · exact ⟨_, hmacSha256Hex_ok _ hs⟩
      · exact ⟨_, rfl⟩
    obtain ⟨keyed, hkeyed⟩ := hhmac _ (Sha256.encodable_hexdigest
      ((PyJson.write PyJson.compact (logCore (recordOf lib secrets config call packetHash prev verdict
        trajectory candidate gate [] []))).flatMap utf8Char))
    rw [htext, ok_bind, sha256Hex, encodeUtf8_ok hencodable, ok_bind, pure_bind, hkeyed]
    exact ⟨_, rfl⟩

end Record

/-! ### Calls in every state -/

section Calls

variable (lib : Library) (secrets : VerifierSecrets) (config : VerifierConfig)

/-- The guards clear a packet, and its nonce is not in use. -/
def Admitted (p : State × Call) : Prop :=
  ∃ nonce timestamp, Cleared secrets config p.2.payload p.2.now nonce timestamp ∧
    ∀ row ∈ cleanup p.2.now p.1.ledger, row.nonce ≠ nonce

/-- The calls in which nothing raises. -/
structure Answerable (around : AbsoluteIndex.Surroundings) (p : State × Call) : Prop where
  versions : Encodable secrets.keyVersion ∧ Encodable config.verifierVersion
  timestamp : Convertible p.2.payload
  proof : AsciiProof config p.2.payload p.2.now
  sections : Admitted secrets config p → Asked lib p.2.payload →
    AbsoluteIndex.Shaped (p.2.payload.get "adi_5d_absolute_index")
  reference : Admitted secrets config p → Asked lib p.2.payload →
    AdiPasses around (p.2.payload.get "adi_5d_absolute_index") →
      isHashable (p.2.payload.get "ref_D2") = true

/-- What holds of a verifier between its calls. -/
structure ChainKept (s : State) : Prop where
  chain : AuditChain secrets genesis (s.logs.map AuditLog.value) s.prevLogHash
  encodable : Encodable s.prevLogHash

variable {lib secrets config} {s : State} {call : Call} {around : AbsoluteIndex.Surroundings}

/-- What a call that got to the guards returns. -/
def record (lib : Library) (secrets : VerifierSecrets) (config : VerifierConfig) (call : Call)
    (packetHash prevLogHash : PyStr) (verdict : Decision × String) : Except Fault (Decision × AuditLog) :=
  collapse lib secrets call verdict >>= fun collapsed =>
    audit lib secrets config call packetHash prevLogHash collapsed.1 collapsed.2.1 collapsed.2.2.1
      collapsed.2.2.2 >>= fun log => pure (collapsed.1.1, log)

/-- A call that got to the guards returns when its record does. -/
theorem processTransmission_of_judge {packetHash : PyStr} {verdict : Decision × String} {rows : NonceLedger}
    (h : judge secrets config call s.ledger = .ok (packetHash, verdict, rows)) :
    (processTransmission lib secrets config call s).1 =
        record lib secrets config call packetHash s.prevLogHash verdict ∧
      ∀ decision log, record lib secrets config call packetHash s.prevLogHash verdict = .ok (decision, log) →
        (processTransmission lib secrets config call s).2 = ⟨rows, log.logHash, s.logs ++ [log]⟩ := by
  rw [processTransmission, h]
  dsimp only
  -- what is left to run is the record of the verdict, unfolded
  constructor
  · split
    · next hrecord => exact hrecord.symm
    · next hrecord => exact hrecord.symm
  · intro decision log hok
    split
    · next hrecord => cases hrecord.symm.trans hok
    · next hrecord =>
        cases hrecord.symm.trans hok
        rfl

/-- The record is written when the version texts can be encoded and the verdict on the packet is found. -/
theorem exists_record_iff (hadi : call.adiResult = AbsoluteIndex.verifyPacket around)
    (htime : PyJson.Plain Encodable (lib.timeValue call.now)) {packetHash prev : PyStr}
    (hpacket : Encodable packetHash) (hprev : Encodable prev) (hrun : Encodable call.runId)
    {verdict : Decision × String} :
    (∃ r, record lib secrets config call packetHash prev verdict = .ok r) ↔
      (∃ r, collapse lib secrets call verdict = .ok r) ∧
        Encodable secrets.keyVersion ∧ Encodable config.verifierVersion := by
  refine exists_bind_ok_iff fun collapsed hcollapsed => ?_
  obtain ⟨verdict', trajectory, candidate, gate⟩ := collapsed
  obtain ⟨hgate, htrajectory, -⟩ := of_collapse hadi hcollapsed
  rw [exists_bind_pure_iff]
  exact exists_audit_iff hgate htime hpacket hprev hrun htrajectory

/-- The record a call has left is behind the last one. -/
theorem ChainKept.afterStep (h : ChainKept secrets s) (step : Step) :
    ChainKept secrets (afterStep lib secrets config s step) := by
  cases step with
  | reopen => exact ⟨.nil genesis, Sha256.encodable_hexdigest _⟩
  | transmit call =>
      rw [Canonical8D.afterStep, processTransmission]
      split
      · exact h
      · dsimp only
        split
        · exact ⟨h.chain, h.encodable⟩
        · next decision log hrecorded =>
            obtain ⟨⟨verdict, trajectory, candidate, gate⟩, -, hrecorded⟩ := bind_eq_ok_iff.1 hrecorded
            obtain ⟨log', haudit, hrecorded⟩ := bind_eq_ok_iff.1 hrecorded
            obtain ⟨-, rfl⟩ := Prod.mk.inj (pure_eq_ok_iff.1 hrecorded)
            refine ⟨?_, ?_⟩
            · rw [List.map_append]
              exact h.chain.concat (accepted_of_audit haudit)
            · rw [audit_eq] at haudit
              obtain ⟨text, -, haudit⟩ := bind_eq_ok_iff.1 haudit
              obtain ⟨hash, hhash, haudit⟩ := bind_eq_ok_iff.1 haudit
              obtain ⟨keyed, -, haudit⟩ := bind_eq_ok_iff.1 haudit
              obtain rfl := pure_eq_ok_iff.1 haudit
              obtain ⟨bytes, -, hhash⟩ := bind_eq_ok_iff.1 hhash
              obtain rfl := pure_eq_ok_iff.1 hhash
              exact Sha256.encodable_hexdigest _

end Calls

/-! ### A fresh verifier -/

section Fresh

variable {lib : Library} {secrets : VerifierSecrets} {config : VerifierConfig} {payload : Payload} {call : Call}
  {index : AbsoluteIndex.Surroundings}

theorem get_setKey_ne {k l : String} (v : PyVal) (h : l ≠ k) :
    Payload.get (setKey (cp k) v payload) l = payload.get l := by
  rw [Payload.get, Payload.get, PyVal.get, PyVal.get, getItem_setKey, if_neg fun heq => h (cp_inj.1 heq)]

/-- A payload that is signed has a valid proof. -/
theorem verify_of_sign {secret : List UInt8} {proof : PyStr} (h : signD7Packet payload secret = .ok proof) :
    verifyD7Signature (setKey (cp "proof_D7") (.str proof) payload) secret = .ok true := by
  have hget : Payload.get (setKey (cp "proof_D7") (.str proof) payload) "proof_D7" = .str proof := by
    rw [Payload.get, PyVal.get, getItem_setKey, if_pos rfl, Option.getD_some]
  have hsame : signD7Packet (setKey (cp "proof_D7") (.str proof) payload) secret = .ok proof := by
    rw [← h, signD7Packet, signD7Packet, canonicalPacketCore, canonicalPacketCore, packetCore, packetCore,
      get_setKey_ne _ (by decide), get_setKey_ne _ (by decide), get_setKey_ne _ (by decide),
      get_setKey_ne _ (by decide)]
  obtain ⟨core, -, hhmac⟩ := bind_eq_ok_iff.1 h
  obtain ⟨bytes, -, hhmac⟩ := bind_eq_ok_iff.1 hhmac
  obtain rfl := pure_eq_ok_iff.1 hhmac
  have hascii := ascii_hmac secret bytes
  generalize Sha256.hmac secret bytes = proof at *
  rw [verifyD7Signature, hget]
  cases proof with
  | nil => exact absurd rfl hascii.1
  | cons c proof =>
      have hall : ((c :: proof) ++ (c :: proof)).all (fun c => decide (c < 128)) = true := by
        rw [List.all_append, Bool.and_self, List.all_eq_true]
        exact fun d hd => decide_eq_true (hascii.2 d hd)
      dsimp only
      rw [hsame, ok_bind, compareDigest, if_pos hall, decide_eq_true rfl]

/-- A verifier that has seen no nonce allows a cleared payload that asks for the coffee, when the ADI
verifier passes its packet and the definitions have not drifted. -/
theorem allowed_of_cleared {nonce : PyStr} {timestamp : Timestamp}
    (hpayload : PyJson.Plain Encodable (.dict call.payload))
    (hcleared : Cleared secrets config call.payload call.now nonce timestamp)
    (hadi : call.adiResult = AbsoluteIndex.verifyPacket index) (hasked : Asked lib call.payload)
    (hpasses : AdiPasses index (call.payload.get "adi_5d_absolute_index"))
    {vector : List PyStr} (hvector : map8dTo5elements lib call.payload = .ok vector)
    (hcoffee : evaluate vector = true) (hencodable : ∀ s ∈ vector, Encodable s)
    (htime : PyJson.Plain Encodable (lib.timeValue call.now)) (hrun : Encodable call.runId)
    (hversions : Encodable secrets.keyVersion ∧ Encodable config.verifierVersion) :
    ∃ log, (processTransmission lib secrets config call (.opened [])).1 = .ok (.allow, log) := by
  obtain ⟨htext, hwritten⟩ := canonicalJson_ok hpayload
  obtain ⟨packetHash, hhash, hpacket⟩ :
      ∃ hash, sha256Hex (PyJson.write PyJson.compact (.dict call.payload)) = .ok hash ∧ Encodable hash := by
    rw [sha256Hex, encodeUtf8_ok hwritten, ok_bind]
    exact ⟨_, rfl, Sha256.encodable_hexdigest _⟩
  have hjudge : judge secrets config call (State.opened []).ledger =
      .ok (packetHash, (.pass, "formal_verifier"),
        (markUsedOrReplay [] nonce packetHash call.now config.ttlSeconds).2) := by
    rw [judge, htext, ok_bind, hhash, ok_bind, State.opened, hcleared.verifyPayload_eq]
    rfl
  obtain ⟨result, hresult, hpass⟩ := hpasses
  obtain ⟨checks, errors, -, herrors, hdryRun, hchecks⟩ := gate_of_result hresult
  have hgate : verifyAdi5dGate lib call.adiResult call.payload =
      .ok ⟨.allow, "ADI_5D_GATE_PASS", checks, errors.map lit⟩ := by
    have hdry : (result.get "DRY_RUN").eq (lit "PASS") = true := PyVal.eq_lit.2 hpass
    rw [verifyAdi5dGate, hasked.1, ok_bind]
    dsimp only
    rw [if_neg (not_not.2 rfl), if_neg (not_not.2 hasked.2), hadi, hresult, ok_bind, herrors, ok_bind, listOf,
      ok_bind, hdryRun, ok_bind, hchecks, ok_bind, hdry]
    rfl
  have htrajectory := mapM_eq_ok (g := fun s => Sha256.hmac secrets.trajectorySecret (s.flatMap utf8Char))
    fun s hs => hmacSha256Hex_ok secrets.trajectorySecret (hencodable s hs)
  have hcollapse : collapse lib secrets call (.pass, "formal_verifier") =
      .ok ((.allow, "tensor_collapse"), vector.map fun s =>
        Sha256.hmac secrets.trajectorySecret (s.flatMap utf8Char), some (candidateText true),
        some ⟨.allow, "ADI_5D_GATE_PASS", checks, errors.map lit⟩) := by
    rw [collapse, if_neg (not_not.2 rfl), hgate, ok_bind, if_neg (not_not.2 rfl), hvector, ok_bind,
      htrajectory, ok_bind, hcoffee]
    rfl
  have hopened : Encodable (State.opened []).prevLogHash := Sha256.encodable_hexdigest _
  obtain ⟨⟨decision, log⟩, hrecord⟩ :=
    (@exists_record_iff lib secrets config call index hadi htime packetHash (State.opened []).prevLogHash
      hpacket hopened hrun (.pass, "formal_verifier")).2 ⟨⟨_, hcollapse⟩, hversions⟩
  rw [(processTransmission_of_judge hjudge).1, hrecord]
  rw [record, hcollapse, ok_bind] at hrecord
  obtain ⟨log', -, hrecord⟩ := bind_eq_ok_iff.1 hrecord
  obtain ⟨rfl, rfl⟩ := Prod.mk.inj (pure_eq_ok_iff.1 hrecord)
  exact ⟨_, rfl⟩

end Fresh

/-! ### A timestamp that is no double -/

end Canonical8D
