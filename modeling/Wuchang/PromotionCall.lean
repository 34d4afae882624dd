/-
**A call of the governed promotion from its start to its end.**

`promote_accepted_candidate` as a function of the repository and the ledger it is called on, for a call
that nobody disturbs.  It is one of the runs of `Wuchang/GovernedPromotion.lean`, with the steps of one
call in their order.

The nonce of the authorization is entered in the ledger before the code looks at `dry_run`.  A dry run
has no effects if and only if it is turned down before that.

Main definitions:

* `GovernedPromotion.World` — the files and the directories of a repository, and the ledger;
* `GovernedPromotion.promoteAcceptedCandidate` — a whole call;
* `GovernedPromotion.Consumes` — the call gets as far as to consume its nonce.

Main results:

* `GovernedPromotion.run_promote` — a whole call is a run of its steps;
* `GovernedPromotion.dryRun_frame_iff` — when a dry run has no effects;
* `GovernedPromotion.dryRun_changes` — a promotion that its own dry run turns into a replay.
-/

import Wuchang.PromotionSafety

set_option relaxedAutoImplicit false
set_option autoImplicit false

namespace GovernedPromotion

open Py

/-! ### Whole calls -/

/-- A repository and its nonce ledger. -/
structure World where
  files : Path → Option Bytes
  dirs : Path → Bool
  ledger : NonceLedger.Ledger

namespace World

/-- A file is written, or it is taken away. -/
def setFile (w : World) (path : Path) (content : Option Bytes) : World :=
  { w with files := Function.update w.files path content }

/-- A directory is made, or it is taken away. -/
def setDir (w : World) (path : Path) (there : Bool) : World :=
  { w with dirs := Function.update w.dirs path there }

/-- `path.mkdir(parents=True, exist_ok=True)` -/
def makeDirs (w : World) (path : Path) : World :=
  { w with dirs := fun q => w.dirs q || q.isPrefixOf path }

/-- `path.exists()` -/
def pathExists (w : World) (path : Path) : Bool := w.dirs path || (w.files path).isSome

end World

/-- What comes from outside while a call runs: the time, the verifier and the resolver, an error of the
database, and the name `tempfile.mkdtemp` finds. -/
structure Env where
  input : Input
  fails : Bool
  random : PyStr

/-- What a call comes to: it returns a mapping, or an exception leaves it. -/
inductive Result where
  | returned (o : Outcome)
  | raised

/-- `except PromotionRejected` -/
def Result.ofFault : Fault → Result
  | .own reason => .returned (.hold reason)
  | .builtin _ => .raised

/-- The part of a call under the lock. -/
def commit (c : Call) (p : Plan) (random : PyStr) (w : World) : Result × World :=
  let w := (w.makeDirs promotions).setFile lockPath (some ((w.files lockPath).getD []))
  let failed := Result.returned (.hold (cp "PROMOTION_CAS_PRECONDITION_FAILED"))
  let isExpected := fun content : Bytes =>
    pyEq (.str (Sha256.hexdigest content)) (c.request.get "active_pointer_sha256")
  let dir := stagingDir p.outputDir random
  if w.pathExists p.outputDir then (failed, w)
  else match w.files p.pointerPath with
    | none => (.raised, w)
    | some content =>
        if ¬isExpected content then (failed, w)
        else if w.pathExists dir then (.raised, w)
        else
          -- the receipt and the transition are written, and the directory gets its name
          let w := (w.setDir dir true).setFile (receiptPath dir) (some p.receiptFile)
          let w := w.setFile (transitionPath dir) (some p.transitionFile)
          let w := ((w.setDir p.outputDir true).setFile (receiptPath dir) none).setFile
            (transitionPath dir) none
          let w := ((w.setDir dir false).setFile (receiptPath p.outputDir) (some p.receiptFile)).setFile
            (transitionPath p.outputDir) (some p.transitionFile)
          if w.pathExists p.tmpPath then (.raised, w)
          else
            let w := (w.makeDirs p.tmpPath.dropLast).setFile p.tmpPath (some p.pointerFile)
            match w.files p.pointerPath with
            | none => (.raised, w)
            | some content =>
                if ¬isExpected content then (failed, w.setFile p.tmpPath none)
                else (.returned (.pass p.preview p.outputDir),
                  (w.setFile p.tmpPath none).setFile p.pointerPath (some p.pointerFile))

/-- `promote_accepted_candidate` -/
def promoteAcceptedCandidate (lib : Library) (links : Path → Bool) (c : Call) (e : Env) (w : World) :
    Result × World :=
  match bind links c.request ⟨w.files, w.files, w.files, w.files⟩ w.files with
  | .error fault => (.ofFault fault, w)
  | .ok b =>
      match authorize lib c.request e.input with
      | .error fault => (.ofFault fault, w)
      | .ok a =>
          let (fresh, ledger) := w.ledger.markUsedOrReplay e.fails a.nonce a.payloadSha a.now a.ttl
          let w := { w with ledger := ledger }
          if ¬fresh then (.returned (.hold (cp "AUTHORIZATION_NONCE_REPLAY")), w)
          else match safePath links (c.request.get "promotion_output_ref") true with
            | .error fault => (.ofFault fault, w)
            | .ok out =>
                if w.pathExists out then (.returned (.hold (cp "PROMOTION_OUTPUT_COLLISION")), w)
                else match prepare lib c.pid c.request b a out with
                  | .error fault => (.ofFault fault, w)
                  | .ok p =>
                      if c.dryRun then (.returned (.dryRun p.preview), w) else commit c p e.random w

/-- A fresh nonce lets the call go on. -/
theorem promote_of_fresh {lib : Library} {links : Path → Bool} {c : Call} {e : Env} {w : World} {b : Bound}
    {a : Authorization} {out : Path} {p : Plan}
    (hbind : bind links c.request ⟨w.files, w.files, w.files, w.files⟩ w.files = .ok b)
    (hauthorize : authorize lib c.request e.input = .ok a)
    (houtput : safePath links (c.request.get "promotion_output_ref") true = .ok out)
    (hfree : w.pathExists out = false) (hprepare : prepare lib c.pid c.request b a out = .ok p)
    (hmark : (w.ledger.markUsedOrReplay e.fails a.nonce a.payloadSha a.now a.ttl).1 = true) :
    promoteAcceptedCandidate lib links c e w =
      if c.dryRun then (.returned (.dryRun p.preview),
        { w with ledger := (w.ledger.markUsedOrReplay e.fails a.nonce a.payloadSha a.now a.ttl).2 })
      else commit c p e.random
        { w with ledger := (w.ledger.markUsedOrReplay e.fails a.nonce a.payloadSha a.now a.ttl).2 } := by
  have hfree' : World.pathExists { w with
      ledger := (w.ledger.markUsedOrReplay e.fails a.nonce a.payloadSha a.now a.ttl).2 } out = false := hfree
  unfold promoteAcceptedCandidate
  rw [hbind]
  dsimp only
  rw [hauthorize]
  dsimp only
  rw [if_neg (not_not.2 hmark), houtput]
  dsimp only
  rw [hfree', if_neg Bool.false_ne_true, hprepare]

/-- A nonce that is not accepted ends the call. -/
theorem promote_of_replay {lib : Library} {links : Path → Bool} {c : Call} {e : Env} {w : World} {b : Bound}
    {a : Authorization} (hbind : bind links c.request ⟨w.files, w.files, w.files, w.files⟩ w.files = .ok b)
    (hauthorize : authorize lib c.request e.input = .ok a)
    (hmark : (w.ledger.markUsedOrReplay e.fails a.nonce a.payloadSha a.now a.ttl).1 ≠ true) :
    (promoteAcceptedCandidate lib links c e w).1 = .returned (.hold (cp "AUTHORIZATION_NONCE_REPLAY")) := by
  unfold promoteAcceptedCandidate
  rw [hbind]
  dsimp only
  rw [hauthorize]
  dsimp only
  rw [if_pos hmark]

/-! ### A whole call is a run -/

/-- The phase a call ends in. -/
def Result.phase : Result → Phase
  | .returned o => .returned o
  | .raised => .raised

section Runs

variable {ι : Type} [DecidableEq ι] {σ : Setting ι} {s : State ι} {i : ι}

/-- The repository and the ledger of a state. -/
def State.world (s : State ι) : World := ⟨s.files, s.dirs, s.ledger⟩

/-- A run of the calls in which one call comes to a result. -/
def RunsTo (σ : Setting ι) (s : State ι) (i : ι) (result : Result × World) : Prop :=
  ∃ s', Run σ s s' ∧ s'.phase i = result.1.phase ∧ s'.world = result.2

theorem RunsTo.head {s' : State ι} {result : Result × World} (hstep : Step σ s s')
    (h : RunsTo σ s' i result) : RunsTo σ s i result := by
  obtain ⟨t, hrun, ht⟩ := h
  exact ⟨t, .head hstep hrun, ht⟩

theorem runsTo_finish {fault : Fault} (hstep : Step σ s (s.finish i fault)) :
    RunsTo σ s i (.ofFault fault, s.world) := by
  refine ⟨_, .single hstep, ?_, ?_⟩
  · cases fault <;> exact State.go_self _ i _
  · cases fault <;> rfl

theorem runsTo_hold {reason : PyStr} (hstep : Step σ s (s.finish i (.own reason))) :
    RunsTo σ s i (.returned (.hold reason), s.world) := runsTo_finish hstep

theorem runsTo_raised (hphase : ∀ o, s.phase i ≠ .returned o) : RunsTo σ s i (.raised, s.world) :=
  ⟨_, .single (.stop i hphase), State.go_self _ i _, rfl⟩

/-- The part under the lock is a run, if the lock is free. -/
theorem runsTo_commit {p : Plan} (random : PyStr) (hphase : s.phase i = .prepared p) (hlock : s.lock = none) :
    RunsTo σ s i (commit (σ.calls i) p random s.world) := by
  refine .head (.acquire i p hphase hlock) ?_
  generalize hs₁ : ({ ((s.makeDirs promotions).setFile lockPath (some ((s.files lockPath).getD []))).go i
    (.locked p) with lock := some i } : State ι) = s₁
  have hphase₁ : s₁.phase i = .locked p := by
    rw [← hs₁]
    exact State.go_self _ i _
  have hworld₁ : (s.world.makeDirs promotions).setFile lockPath (some ((s.world.files lockPath).getD [])) =
      s₁.world := by
    rw [← hs₁]
    rfl
  clear hs₁
  rw [commit, hworld₁]
  dsimp only
  split
  · next hexists => exact runsTo_finish (.clearFails i p hphase₁ (.inl hexists))
  next hexists =>
  split
  · exact runsTo_raised fun o => by rw [hphase₁]; simp
  next content hfile =>
  split
  · next hhash => exact runsTo_finish (.clearFails i p hphase₁ (.inr ⟨content, hfile, hhash⟩))
  next hhash =>
  split
  · exact runsTo_raised fun o => by rw [hphase₁]; simp
  next hstaging =>
  refine .head (.clear i p content hphase₁ (Bool.eq_false_iff.2 hexists) hfile (not_not.1 hhash)) ?_
  refine .head (.stage i p random (State.go_self _ i _) (Bool.eq_false_iff.2 hstaging)) ?_
  refine .head (.publish i p _ (State.go_self _ i _)) ?_
  split
  · exact runsTo_raised fun o => by rw [State.go_self]; simp
  next htmp =>
  refine .head (.write i p (State.go_self _ i _) (Bool.eq_false_iff.2 htmp)) ?_
  split
  · exact runsTo_raised fun o => by rw [State.go_self]; simp
  next content' hfile' =>
  split
  · next hhash' =>
      exact ⟨_, .single (.recheckFails i p content' (State.go_self _ i _) hfile' hhash'),
        State.go_self _ i _, rfl⟩
  next hhash' =>
  refine .head (.recheck i p content' (State.go_self _ i _) hfile' (not_not.1 hhash')) ?_
  refine .head (.switch i p content' (State.go_self _ i _) hfile') ?_
  exact ⟨_, .single (.pass i p (State.go_self _ i _)), State.go_self _ i _, rfl⟩

/-- **A call that nobody disturbs is a run of its steps**, with the same result. -/
theorem run_promote (e : Env) (hphase : s.phase i = .start) (hlock : s.lock = none) :
    RunsTo σ s i (promoteAcceptedCandidate σ.lib σ.links (σ.calls i) e s.world) := by
  unfold promoteAcceptedCandidate
  split
  · next fault hbind => exact runsTo_finish (.bindFails i _ fault hphase hbind)
  next b hbind =>
  refine .head (.bind i _ b hphase hbind) ?_
  split
  · next fault hauthorize =>
      exact runsTo_finish (.authorizeFails i b e.input fault (State.go_self _ i _) hauthorize)
  next a hauthorize =>
  dsimp only
  split
  · next hmark =>
      rw [NonceLedger.mark_of_not hmark]
      refine runsTo_hold ?_
      exact .replay i b e.input a e.fails (State.go_self _ i _) hauthorize hmark
  next hmark =>
  refine .head (.consume i b e.input a e.fails (State.go_self _ i _) hauthorize (not_not.1 hmark)) ?_
  split
  · next fault houtput =>
      refine ⟨_, .single (.outputFails i b a fault (State.go_self _ i _) houtput), ?_, ?_⟩
      · cases fault <;> exact State.go_self _ i _
      · cases fault <;> rfl
  next out houtput =>
  split
  · next hexists =>
      refine runsTo_hold ?_
      exact .collision i b a out (State.go_self _ i _) houtput hexists
  next hexists =>
  split
  · next fault hprepare =>
      refine ⟨_, .single (.prepareFails i b a out fault (State.go_self _ i _) houtput hprepare), ?_, ?_⟩
      · cases fault <;> exact State.go_self _ i _
      · cases fault <;> rfl
  next p hprepare =>
  refine .head (.prepare i b a out p (State.go_self _ i _) houtput (Bool.eq_false_iff.2 hexists) hprepare) ?_
  by_cases hdry : (σ.calls i).dryRun = true
  · rw [if_pos hdry, if_pos hdry]
    exact ⟨_, .refl, State.go_self _ i _, rfl⟩
  · rw [if_neg hdry, if_neg hdry]
    exact runsTo_commit e.random (State.go_self _ i _) hlock

end Runs

/-! ### A request that is accepted -/

/-- Texts as they are, and the two times of the request below. -/
def sampleLibrary : Library where
  nfc s := s
  nfc_ascii _ _ := rfl
  nfc_name _ _ _ h := h
  nfc_text _ h := h
  fromisoformat s :=
    if s = cp "1970-01-01T00:00:00+00:00" then some (some (PyFloat.ofRat false 0))
    else if s = cp "1970-01-01T00:05:00+00:00" then some (some (PyFloat.ofRat false 300)) else none
  utcText _ := some (cp "1970-01-01T00:01:00Z")
  utcText_text _ s h := by
    cases h
    exact isText_cp _
  foreignKey := cp "None"
  foreignKey_text := isText_cp _

/-- The content of a file that holds an object. -/
def fileOf (v : PyVal) : Bytes := (PyJson.write PyJson.compact v).flatMap utf8Char

/-- The hash of a content, as a field. -/
def hashOf (b : Bytes) : PyVal := .str (Sha256.hexdigest b)

/-- The decision on the candidate, which is the empty file. -/
def sampleDecision : PyVal := obj [
  ("candidate_sha256", hashOf []),
  ("schema_id", lit decisionSchema),
  ("state", lit "TOTAL_FIELD_DECISION_OBTAINED"),
  ("total_field_result", obj [
    ("decision", lit acceptedDecision),
    ("owner_receive_candidate_state", lit acceptedDecision),
    ("state", lit acceptedDecision)])]

/-- The pointer file. -/
def samplePointer : Bytes := fileOf (obj [])

/-- The authorization, but for its hash and its signature. -/
def samplePayload : PyVal := obj [
  ("active_pointer_preimage_sha256", hashOf samplePointer),
  ("authority_id", lit "authority"),
  ("candidate_sha256", hashOf []),
  ("current_canonical_sha256", hashOf []),
  ("decision_evidence_sha256", hashOf (fileOf sampleDecision)),
  ("expires_at", lit "1970-01-01T00:05:00Z"),
  ("issued_at", lit "1970-01-01T00:00:00Z"),
  ("nonce_ref", .str (cp "nonce_ref:sha256:" ++ Sha256.hexdigest [])),
  ("schema_id", lit authSchema),
  ("scope", lit requiredScope),
  ("state", lit "AUTHORIZED_SINGLE_PROMOTION"),
  ("target_canonical_sha256", hashOf []),
  ("verifier_ref", lit "verifier")]

/-- The authorization. -/
def sampleAuthorization : PyVal := obj [
  ("active_pointer_preimage_sha256", hashOf samplePointer),
  ("authority_id", lit "authority"),
  ("candidate_sha256", hashOf []),
  ("current_canonical_sha256", hashOf []),
  ("decision_evidence_sha256", hashOf (fileOf sampleDecision)),
  ("expires_at", lit "1970-01-01T00:05:00Z"),
  ("issued_at", lit "1970-01-01T00:00:00Z"),
  ("nonce_ref", .str (cp "nonce_ref:sha256:" ++ Sha256.hexdigest [])),
  ("payload_sha256", hashOf (fileOf samplePayload)),
  ("schema_id", lit authSchema),
  ("scope", lit requiredScope),
  ("signature", lit "signature"),
  ("state", lit "AUTHORIZED_SINGLE_PROMOTION"),
  ("target_canonical_sha256", hashOf []),
  ("verifier_ref", lit "verifier")]

/-- The request. -/
def sampleRequest : PyVal := obj [
  ("active_pointer_ref", lit "pointer.json"),
  ("active_pointer_sha256", hashOf samplePointer),
  ("candidate_artifact_ref", lit "candidate.json"),
  ("candidate_sha256", hashOf []),
  ("current_canonical_ref", lit "candidate.json"),
  ("current_canonical_sha256", hashOf []),
  ("decision_evidence_ref", lit "decision.json"),
  ("decision_evidence_sha256", hashOf (fileOf sampleDecision)),
  ("historical_receipt_reconstruction", .bool false),
  ("promotion_authorization", sampleAuthorization),
  ("promotion_output_ref", lit "runtime/total_field/promotions/first"),
  ("schema_id", lit requestSchema),
  ("state", lit "REQUEST_SINGLE_PROMOTION"),
  ("target_canonical_ref", lit "candidate.json"),
  ("target_canonical_sha256", hashOf []),
  ("total_field_decision", lit acceptedDecision)]

/-- The files of the repository. -/
def sampleFiles (q : Path) : Option Bytes :=
  if q = [cp "pointer.json"] then some samplePointer
  else if q = [cp "candidate.json"] then some []
  else if q = [cp "decision.json"] then some (fileOf sampleDecision) else none

/-- The time, the verifier and the resolver. -/
def sampleInput : Input where
  now := PyFloat.ofRat false 60
  verified _ _ _ := true
  authority := .ok (obj [("authority_id", lit "authority"), ("authority_verified", .bool true),
    ("scope", .list [lit requiredScope]), ("state", lit "PASS_ACTIVE_TOTAL_FIELD_AUTHORITY_RESOLVED")])

theorem typed_hashOf (b : Bytes) : Typed (hashOf b) := .str _ (isText_of_ascii (ascii_hexdigest b))

theorem typed_sampleRequest : Typed sampleRequest := by
  have hnonce : Typed (.str (cp "nonce_ref:sha256:" ++ Sha256.hexdigest [])) := by
    refine .str _ fun c hc => ?_
    rcases List.mem_append.1 hc with hc | hc
    · exact isText_cp _ c hc
    · exact isText_of_ascii (ascii_hexdigest _) c hc
  have hauth : Typed sampleAuthorization := by
    refine Typed.obj ?_
    simp only [List.forall_mem_cons, List.not_mem_nil, IsEmpty.forall_iff, implies_true, and_true]
    simp only [typed_hashOf, Typed.lit, hnonce, and_self]
  refine Typed.obj ?_
  simp only [List.forall_mem_cons, List.not_mem_nil, IsEmpty.forall_iff, implies_true, and_true]
  simp only [typed_hashOf, Typed.lit, hauth, Typed.bool, and_self]

/-- A file is found as its hash says. -/
theorem readBound_hashOf {links : Path → Bool} {files : Path → Option Bytes} {ref : PyVal} {path : Path}
    {data : Bytes} (hsafe : safePath links ref false = .ok path) (hfile : files path = some data) :
    readBound links files ref (hashOf data) = .ok (path, data) := by
  unfold hashOf
  rw [readBound]
  rw [raiseIf_neg (by simp [Sha256.isHex64_hexdigest]), ok_bind, hsafe, ok_bind, hfile]
  dsimp only
  rw [raiseIf_neg (by simp)]
  rfl

theorem loads_fileOf {items : Items} (hread : PyJson.Readable (.dict items))
    (htext : PyJson.Plain IsText (.dict items)) :
    PyJson.loadsBytes (fileOf (.dict items)) = some (.dict items) := by
  have h := PyJson.loadsBytes_write PyJson.simple_compact hread htext PyJson.ends_nil rfl (by decide)
  rwa [List.append_nil] at h

theorem readJsonBound_hashOf {links : Path → Bool} {files : Path → Option Bytes} {ref : PyVal} {path : Path}
    {items : Items} (hread : PyJson.Readable (.dict items)) (htext : PyJson.Plain IsText (.dict items))
    (hsafe : safePath links ref false = .ok path) (hfile : files path = some (fileOf (.dict items))) :
    readJsonBound links files ref (hashOf (fileOf (.dict items))) =
      .ok (path, fileOf (.dict items), .dict items) := by
  rw [readJsonBound, readBound_hashOf hsafe hfile, ok_bind]
  dsimp only
  rw [loads_fileOf hread htext]
  dsimp only
  rw [raiseIf_neg (by simp [PyVal.isDict])]
  rfl

theorem readable_hashOf (b : Bytes) : PyJson.Readable (hashOf b) := .str _

theorem readable_obj {l : List (String × PyVal)} (ks : List String) (hl : l.map Prod.fst = ks) (hks : keysSorted ks)
    (h : ∀ p ∈ l, PyJson.Readable p.2) : PyJson.Readable (obj l) := by
  subst hl
  refine .dict _ (sorted_fields.2 hks) (fun q hq => ?_) fun q hq => ?_
  · obtain ⟨p, -, rfl⟩ := List.mem_map.1 hq
    exact ⟨_, rfl⟩
  · obtain ⟨p, hp, rfl⟩ := List.mem_map.1 hq
    exact h p hp

theorem bind_sampleRequest : ∃ b, bind (fun _ => false) sampleRequest
    ⟨sampleFiles, sampleFiles, sampleFiles, sampleFiles⟩ sampleFiles = .ok b ∧ b.pointer = obj [] ∧
      b.pointerPath = [cp "pointer.json"] := by
  have hcandidate : safePath (fun _ => false) (lit "candidate.json") false = .ok [cp "candidate.json"] := rfl
  have hdecision : safePath (fun _ => false) (lit "decision.json") false = .ok [cp "decision.json"] := rfl
  have hpointer : safePath (fun _ => false) (lit "pointer.json") false = .ok [cp "pointer.json"] := rfl
  have hread : PyJson.Readable sampleDecision := by
    refine readable_obj _ rfl (by decide) ?_
    simp only [List.forall_mem_cons, List.not_mem_nil, IsEmpty.forall_iff, implies_true, and_true]
    refine ⟨.str _, .str _, .str _, readable_obj _ rfl (by decide) ?_⟩
    simp only [List.forall_mem_cons, List.not_mem_nil, IsEmpty.forall_iff, implies_true, and_true]
    exact ⟨.str _, .str _, .str _⟩
  have hplain : PyJson.Plain IsText sampleDecision := by
    have htext : ∀ s, PyJson.Plain IsText (lit s) := fun s => .str _ (isText_cp s)
    refine .obj isText_cp ?_
    simp only [List.forall_mem_cons, List.not_mem_nil, IsEmpty.forall_iff, implies_true, and_true]
    refine ⟨.str _ (isText_of_ascii (ascii_hexdigest _)), htext _, htext _, .obj isText_cp ?_⟩
    simp only [List.forall_mem_cons, List.not_mem_nil, IsEmpty.forall_iff, implies_true, and_true]
    exact ⟨htext _, htext _, htext _⟩
  have hempty : readBound (fun _ => false) sampleFiles (lit "candidate.json") (hashOf []) =
      .ok ([cp "candidate.json"], []) := readBound_hashOf hcandidate rfl
  have hread' : readJsonBound (fun _ => false) sampleFiles (lit "decision.json")
      (hashOf (fileOf sampleDecision)) = .ok ([cp "decision.json"], fileOf sampleDecision, sampleDecision) :=
    readJsonBound_hashOf hread hplain hdecision rfl
  have hpointer' : readJsonBound (fun _ => false) sampleFiles (lit "pointer.json") (hashOf samplePointer) =
      .ok ([cp "pointer.json"], samplePointer, obj []) :=
    readJsonBound_hashOf (.dict [] (by decide) (by simp) (by simp)) (.dict [] (by simp) (by simp)) hpointer rfl
  have hself : ∀ b, pyEq (hashOf b) (hashOf b) = true := fun b => pyEq_str.2 rfl
  have hlit : ∀ s, pyEq (lit s) (lit s) = true := fun s => pyEq_lit.2 rfl
  have hformal : formalTotalFieldDecision sampleDecision = .ok (lit acceptedDecision) := by
    simp [formalTotalFieldDecision, sampleDecision, hlit, raiseIf, Pure.pure, Except.pure]
  refine ⟨⟨[cp "candidate.json"], [cp "decision.json"], [cp "candidate.json"], [cp "candidate.json"],
    [cp "pointer.json"], samplePointer, obj []⟩, ?_, rfl, rfl⟩
  have hschema : sampleDecision.get "schema_id" = lit decisionSchema := by simp [sampleDecision]
  have hstate : sampleDecision.get "state" = lit "TOTAL_FIELD_DECISION_OBTAINED" := by simp [sampleDecision]
  have hsha : sampleDecision.get "candidate_sha256" = hashOf [] := by simp [sampleDecision]
  simp [bind, sampleRequest, hempty, hread', hpointer', hformal, hschema, hstate, hsha, hself, hlit, raiseIf,
    isFalse]

/-- Items whose values are cleaned to themselves are cleaned to themselves, if texts are. -/
theorem cleanItems_self {lib : Library} (hnfc : ∀ s, lib.nfc s = s) {items cleaned : Items}
    (hsorted : Sorted (cleaned ++ items)) (hkeys : ∀ p ∈ items, ∃ s, p.1 = .str s)
    (hvals : ∀ p ∈ items, clean lib p.2 = .ok p.2) : cleanItems lib cleaned items = .ok (cleaned ++ items) := by
  induction items generalizing cleaned with
  | nil => rw [cleanItems, List.append_nil]
  | cons p items ih =>
      rw [List.forall_mem_cons] at hkeys hvals
      obtain ⟨k, v⟩ := p
      obtain ⟨⟨s, hs⟩, hkeys⟩ := hkeys
      dsimp only at hs
      subst hs
      have hset : setKey s v cleaned = cleaned ++ [(.str s, v)] := by
        refine setKey_of_lt fun q hq => ?_
        rw [Sorted, List.map_append, List.pairwise_append] at hsorted
        exact hsorted.2.2 q.1 (List.mem_map_of_mem hq) _ List.mem_cons_self
      rw [cleanItems, hvals.1, ok_bind, keyText, hnfc, hset, ih _ hkeys hvals.2, List.append_assoc]
      · rfl
      · rwa [List.append_assoc]

/-- A value that is its own canonical form. -/
def Canonical (v : PyVal) : Prop := clean sampleLibrary v = .ok v ∧ PyJson.Plain Encodable v

theorem canonical_str {s : PyStr} (h : Encodable s) : Canonical (.str s) := ⟨rfl, .str _ h⟩

theorem canonical_lit (s : String) : Canonical (lit s) := canonical_str (encodable_cp s)

theorem canonical_hashOf (b : Bytes) : Canonical (hashOf b) := canonical_str (Sha256.encodable_hexdigest b)

theorem canonical_bool (x : Bool) : Canonical (.bool x) := ⟨rfl, .bool x⟩

/-- The items of a canonical object. -/
structure CanonicalItems (items : Items) : Prop where
  sorted : Sorted items
  keys : ∀ p ∈ items, ∃ s, p.1 = .str s ∧ Encodable s
  vals : ∀ p ∈ items, Canonical p.2

namespace CanonicalItems

variable {items : Items}

theorem dict (h : CanonicalItems items) : Canonical (.dict items) := by
  refine ⟨?_, .dict _ h.keys fun p hp => (h.vals p hp).2⟩
  have hkeys : ∀ p ∈ items, ∃ s, p.1 = .str s := by
    intro p hp
    obtain ⟨s, hs, -⟩ := h.keys p hp
    exact ⟨s, hs⟩
  have hitems : cleanItems sampleLibrary [] items = .ok items :=
    cleanItems_self (fun _ => rfl) h.sorted hkeys fun p hp => (h.vals p hp).1
  rw [clean, hitems]
  rfl

theorem setKey {k : PyStr} {v : PyVal} (h : CanonicalItems items) (hk : Encodable k) (hv : Canonical v) :
    CanonicalItems (setKey k v items) := by
  refine ⟨sorted_setKey _ _ h.sorted fun p hp => ?_, fun p hp => ?_, fun p hp => ?_⟩
  · obtain ⟨s, hs, -⟩ := h.keys p hp
    exact ⟨s, hs⟩
  · rcases mem_setKey hp with rfl | hp
    · exact ⟨k, rfl, hk⟩
    · exact h.keys p hp
  · rcases mem_setKey hp with rfl | hp
    · exact hv
    · exact h.vals p hp

theorem fields {l : List (String × PyVal)} (ks : List String) (hl : l.map Prod.fst = ks)
    (hks : keysSorted ks) (h : ∀ p ∈ l, Canonical p.2) : CanonicalItems (fields l) := by
  subst hl
  refine ⟨sorted_fields.2 hks, fun q hq => ?_, fun q hq => ?_⟩
  · obtain ⟨p, -, rfl⟩ := List.mem_map.1 hq
    exact ⟨_, rfl, encodable_cp _⟩
  · obtain ⟨p, hp, rfl⟩ := List.mem_map.1 hq
    exact h p hp

end CanonicalItems

theorem canonical_obj {l : List (String × PyVal)} (ks : List String) (hl : l.map Prod.fst = ks)
    (hks : keysSorted ks) (h : ∀ p ∈ l, Canonical p.2) : Canonical (obj l) :=
  (CanonicalItems.fields ks hl hks h).dict

theorem Canonical.bytes {v : PyVal} (h : Canonical v) : canonicalBytes sampleLibrary v = .ok (fileOf v) := by
  rw [canonicalBytes, h.1, ok_bind, PyJson.dumps, if_pos h.2.serialisable, ok_bind,
    encodeUtf8_ok (h.2.encodable_write (encodable_cp _) (encodable_cp _))]
  rfl

theorem authorize_sampleRequest : ∃ a, authorize sampleLibrary sampleRequest sampleInput = .ok a ∧
    NonceLedger.validInput a.nonce a.payloadSha a.now a.ttl = true ∧ Encodable a.nonce ∧
      Encodable a.payloadSha := by
  have hauth : sampleRequest.get "promotion_authorization" = sampleAuthorization := by simp [sampleRequest]
  have hpayload : authorizationPayload sampleAuthorization = samplePayload := rfl
  have hnonceText : Encodable (cp "nonce_ref:sha256:" ++ Sha256.hexdigest []) := by
    rw [encodable_append]
    exact ⟨encodable_cp _, Sha256.encodable_hexdigest _⟩
  have hcanonical : Canonical samplePayload := by
    refine canonical_obj _ rfl (by decide) ?_
    simp only [List.forall_mem_cons, List.not_mem_nil, IsEmpty.forall_iff, implies_true,
      canonical_hashOf, canonical_lit, canonical_str hnonceText, and_self]
  have hissued : parseTime sampleLibrary (lit "1970-01-01T00:00:00Z") = .ok (PyFloat.ofRat false 0) := rfl
  have hexpires : parseTime sampleLibrary (lit "1970-01-01T00:05:00Z") = .ok (PyFloat.ofRat false 300) := rfl
  have htime : ¬(¬((PyFloat.ofRat false 60).isFinite = true ∧
      (PyFloat.ofRat false 0).value ≤ (PyFloat.ofRat false 60).value ∧
      (PyFloat.ofRat false 60).value < (PyFloat.ofRat false 300).value) ∨
      300 < ((PyFloat.ofRat false 300).sub (PyFloat.ofRat false 0)).value) := by decide +kernel
  have hnonce : NonceLedger.isNonceRef (cp "nonce_ref:sha256:" ++ Sha256.hexdigest []) = true := by
    rw [NonceLedger.isNonceRef, Bool.and_eq_true, List.isPrefixOf_iff_prefix]
    exact ⟨List.prefix_append _ _, Sha256.isHex64_hexdigest _⟩
  have hself : ∀ b, pyEq (hashOf b) (hashOf b) = true := fun b => pyEq_str.2 rfl
  have hlit : ∀ s, pyEq (lit s) (lit s) = true := fun s => pyEq_lit.2 rfl
  have hauthority : resolveAuthority sampleInput.authority = .ok (obj [("authority_id", lit "authority"),
      ("authority_verified", .bool true), ("scope", .list [lit requiredScope]),
      ("state", lit "PASS_ACTIVE_TOTAL_FIELD_AUTHORITY_RESOLVED")]) := by
    simp [resolveAuthority, sampleInput, hlit, raiseIf, isTrue, Pure.pure, Except.pure]
  have hbindings : ¬((bindings sampleRequest).any
      fun p => ¬pyEq (sampleAuthorization.get p.1) p.2) = true := by
    simp [bindings, sampleRequest, sampleAuthorization, hself, hlit]
  refine ⟨⟨cp "nonce_ref:sha256:" ++ Sha256.hexdigest [], Sha256.hexdigest (fileOf samplePayload),
    PyFloat.ofRat false 60, max 1 ⌊((PyFloat.ofRat false 300).sub (PyFloat.ofRat false 60)).value⌋⟩, ?_, ?_,
    hnonceText, Sha256.encodable_hexdigest _⟩
  · rw [authorize, hauth]
    dsimp only
    rw [raiseIf_neg (by simp [sampleAuthorization, hlit]), ok_bind, raiseIf_neg hbindings, ok_bind]
    have hnonceRef : sampleAuthorization.get "nonce_ref" =
        .str (cp "nonce_ref:sha256:" ++ Sha256.hexdigest []) := by simp [sampleAuthorization]
    have hissuedAt : sampleAuthorization.get "issued_at" = lit "1970-01-01T00:00:00Z" := by
      simp [sampleAuthorization]
    have hexpiresAt : sampleAuthorization.get "expires_at" = lit "1970-01-01T00:05:00Z" := by
      simp [sampleAuthorization]
    have hsha : sampleAuthorization.get "payload_sha256" = hashOf (fileOf samplePayload) := by
      simp [sampleAuthorization]
    have hid : sampleAuthorization.get "authority_id" = lit "authority" := by simp [sampleAuthorization]
    have hnow : sampleInput.now = PyFloat.ofRat false 60 := by simp only [sampleInput]
    have hpay : pyEq (hashOf (fileOf samplePayload)) (.str (Sha256.hexdigest (fileOf samplePayload))) = true :=
      hself _
    rw [hnonceRef, hnow]
    dsimp only
    rw [raiseIf_neg (by simp [hnonce]), ok_bind, hissuedAt, hissued, ok_bind, hexpiresAt, hexpires, ok_bind,
      raiseIf_neg htime, ok_bind, hpayload, hcanonical.bytes, ok_bind, hsha,
      raiseIf_neg (not_not.2 hpay), ok_bind, raiseIf_neg (by simp [sampleInput]),
      ok_bind, hauthority, ok_bind, hid, raiseIf_neg (by simp [hlit])]
    rfl
  · have hrest : (PyFloat.ofRat false 60).isFinite = true ∧ 0 ≤ (PyFloat.ofRat false 60).value ∧
        (1 : ℤ) ≤ max 1 ⌊((PyFloat.ofRat false 300).sub (PyFloat.ofRat false 60)).value⌋ ∧
        max 1 ⌊((PyFloat.ofRat false 300).sub (PyFloat.ofRat false 60)).value⌋ ≤
          NonceLedger.maxTtlSeconds := by decide +kernel
    obtain ⟨hfinite, hnonneg, hone, hmax⟩ := hrest
    simp only [NonceLedger.validInput, hnonce, Sha256.isHex64_hexdigest, hfinite, hnonneg, hone, hmax,
      decide_true, Bool.and_self]

theorem prepare_sampleRequest {b : Bound} {a : Authorization} (hpointer : b.pointer = obj [])
    (hnonce : Encodable a.nonce) (hpayload : Encodable a.payloadSha) (pid : PyStr) (out : Path) :
    ∃ p, prepare sampleLibrary pid sampleRequest b a out = .ok p ∧ p.outputDir = out ∧
      p.pointerPath = b.pointerPath ∧ p.tmpPath = pointerTmp pid b.pointerPath := by
  have hget : sampleRequest.get "active_pointer_sha256" = hashOf samplePointer ∧
      sampleRequest.get "candidate_artifact_ref" = lit "candidate.json" ∧
      sampleRequest.get "candidate_sha256" = hashOf [] ∧
      sampleRequest.get "current_canonical_sha256" = hashOf [] ∧
      sampleRequest.get "decision_evidence_ref" = lit "decision.json" ∧
      sampleRequest.get "decision_evidence_sha256" = hashOf (fileOf sampleDecision) ∧
      sampleRequest.get "target_canonical_sha256" = hashOf [] := by
    simp [sampleRequest]
  obtain ⟨hactive, hcandidate, hcandidateSha, hcurrent, hdecision, hdecisionSha, htarget⟩ := hget
  have hsha : ∀ b, Canonical (.str (Sha256.hexdigest b)) := canonical_hashOf
  have hissued : utcText sampleLibrary a.now = .ok (cp "1970-01-01T00:01:00Z") := rfl
  have hauthority : (sampleRequest.get "promotion_authorization").at "authority_id" =
      (.ok (lit "authority") : Except Fault PyVal) := by
    have hget : sampleRequest.get "promotion_authorization" = sampleAuthorization := by simp [sampleRequest]
    rw [hget]
    simp [sampleAuthorization, PyVal.at, obj]
  have hbody : CanonicalItems (fields (receiptFields sampleRequest a (lit "authority")
      (cp "1970-01-01T00:01:00Z"))) := by
    refine .fields Makes.receiptKeys rfl (by decide) ?_
    simp only [receiptFields, List.forall_mem_cons, List.not_mem_nil, IsEmpty.forall_iff, implies_true,
      hactive, hcandidate, hcandidateSha, hcurrent, hdecision, hdecisionSha, htarget, canonical_hashOf,
      canonical_lit, canonical_bool, canonical_str hnonce, canonical_str hpayload,
      canonical_str (encodable_cp _), and_self]
  have hreceipt : ∀ b, Canonical (receipt (receiptFields sampleRequest a (lit "authority")
      (cp "1970-01-01T00:01:00Z")) (Sha256.hexdigest b)) :=
    fun b => (hbody.setKey (encodable_cp _) (hsha b)).dict
  have hnext : ∀ b, Canonical (nextPointer sampleRequest (obj []) (Sha256.hexdigest b)) := by
    intro b
    have hempty : CanonicalItems (itemsOf (obj [])) := .fields [] rfl (by decide) (by simp)
    refine ((hempty.setKey (encodable_cp _) (canonical_lit _)).setKey (encodable_cp _) ?_).dict
    refine canonical_obj Makes.pendingKeys rfl (by decide) ?_
    simp only [List.forall_mem_cons, List.not_mem_nil, IsEmpty.forall_iff, implies_true,
      hcandidateSha, htarget, canonical_hashOf, canonical_bool, hsha, and_self]
  have htransition : ∀ b, Canonical (stateTransition (Sha256.hexdigest b)) := by
    intro b
    refine canonical_obj Makes.transitionKeys rfl (by decide) ?_
    simp only [List.forall_mem_cons, List.not_mem_nil, IsEmpty.forall_iff, implies_true,
      canonical_lit, canonical_bool, hsha, and_self]
  have hbytes := hbody.dict.bytes
  rw [← obj] at hbytes
  rw [prepare, hauthority, ok_bind, hissued, ok_bind]
  dsimp only
  rw [hbytes, ok_bind, hpointer, (hnext _).bytes,
    ok_bind, (hreceipt _).bytes, ok_bind, (htransition _).bytes, ok_bind]
  exact ⟨_, rfl, rfl, rfl, rfl⟩

/-- The repository of the request, with a ledger in which nothing is used. -/
def sampleWorld : World := ⟨sampleFiles, fun _ => false, ⟨[], false⟩⟩

/-- A call with the request. -/
def sampleCall (dryRun : Bool) : Call := ⟨sampleRequest, dryRun, cp "1", typed_sampleRequest⟩

/-- What comes from outside. -/
def sampleEnv : Env := ⟨sampleInput, false, cp "0"⟩

/-- Nobody disturbs the promotion. -/
theorem commit_sampleCall {p : Plan} (ledger : NonceLedger.Ledger)
    (hout : p.outputDir = promotions ++ [cp "first"]) (hpointer : p.pointerPath = [cp "pointer.json"]) (htmp : p.tmpPath = [cp ".pointer.json.1.tmp"]) :
    (commit (sampleCall false) p (cp "0") ⟨sampleFiles, fun _ => false, ledger⟩).1 =
      .returned (.pass p.preview p.outputDir) := by
  have hself : pyEq (.str (Sha256.hexdigest samplePointer))
      ((sampleCall false).request.get "active_pointer_sha256") = true := by
    have hget : (sampleCall false).request.get "active_pointer_sha256" = hashOf samplePointer := by
      simp [sampleCall, sampleRequest]
    rw [hget]
    exact pyEq_str.2 rfl
  obtain ⟨pointerPath, tmpPath, outputDir, receiptBytes, receiptSha, receiptFile, transitionFile,
    pointerFile, preview⟩ := p
  dsimp only at hout hpointer htmp
  subst hout hpointer htmp
  unfold commit
  dsimp only
  split
  · next hexists => exact absurd hexists Bool.false_ne_true
  split
  · next hfile => cases hfile
  next content hfile =>
  have hcontent : content = samplePointer := Option.some.inj hfile.symm
  rw [hcontent, if_neg (not_not.2 hself)]
  split
  · next hexists => exact absurd hexists Bool.false_ne_true
  split
  · next hexists => exact absurd hexists Bool.false_ne_true
  split
  · next hfile' => cases hfile'
  next content' hfile' =>
  have hcontent' : content' = samplePointer := Option.some.inj hfile'.symm
  rw [hcontent', if_neg (not_not.2 hself)]

theorem run_promote_sampleCall : RunsTo { emptyRequests with lib := sampleLibrary, calls := fun _ => sampleCall false }
    { emptyRepository with files := sampleFiles } true
    (promoteAcceptedCandidate sampleLibrary (fun _ => false) (sampleCall false) sampleEnv sampleWorld) :=
  run_promote sampleEnv rfl rfl

/-! ### Dry runs -/

section DryRun

variable {lib : Library} {links : Path → Bool} {c : Call} {e : Env} {w : World}

/-- The call passes every check up to its nonce, and the nonce is fresh in a ledger that works. -/
def Consumes (lib : Library) (links : Path → Bool) (request : PyVal) (e : Env) (w : World) : Prop :=
  ∃ b a, bind links request ⟨w.files, w.files, w.files, w.files⟩ w.files = .ok b ∧
    authorize lib request e.input = .ok a ∧
    NonceLedger.validInput a.nonce a.payloadSha a.now a.ttl = true ∧ w.ledger.closed = false ∧
    e.fails = false ∧ a.nonce ∉ w.ledger.used

/-- A call that consumes no nonce leaves everything as it was. -/
theorem world_of_not_consumes (h : ¬Consumes lib links c.request e w) :
    (promoteAcceptedCandidate lib links c e w).2 = w := by
  unfold promoteAcceptedCandidate
  split
  · rfl
  · next b hbind =>
      split
      · rfl
      · next a hauthorize =>
          have hmark : (w.ledger.markUsedOrReplay e.fails a.nonce a.payloadSha a.now a.ttl).1 ≠ true := by
            intro hmark
            exact h ⟨b, a, hbind, hauthorize, NonceLedger.mark_eq_true_iff.1 hmark⟩
          dsimp only
          rw [if_pos hmark, NonceLedger.mark_of_not hmark]

/-- A dry run that consumes its nonce has entered it in the ledger. -/
theorem used_of_consumes (hdry : c.dryRun = true) (h : Consumes lib links c.request e w) :
    ∃ nonce, (promoteAcceptedCandidate lib links c e w).2.ledger.used = w.ledger.used ++ [nonce] := by
  obtain ⟨b, a, hbind, hauthorize, hmark⟩ := h
  have hused := NonceLedger.used_of_mark (NonceLedger.mark_eq_true_iff.2 hmark)
  refine ⟨a.nonce, ?_⟩
  unfold promoteAcceptedCandidate
  rw [hbind]
  dsimp only
  rw [hauthorize]
  dsimp only
  rw [if_neg (not_not.2 (NonceLedger.mark_eq_true_iff.2 hmark))]
  split
  · exact hused.1
  · split_ifs
    · exact hused.1
    · split
      · exact hused.1
      · exact hused.1

/-- A dry run leaves the repository and the ledger as they were, and what follows returns what it would
have returned without it, if and only if the dry run does not get as far as to consume its nonce. -/
theorem dryRun_frame_iff (lib : Library) (links : Path → Bool) (c : Call) (e : Env) (w : World) :
    ((promoteAcceptedCandidate lib links { c with dryRun := true } e w).2 = w ∧
      ∀ e', promoteAcceptedCandidate lib links { c with dryRun := false } e'
          (promoteAcceptedCandidate lib links { c with dryRun := true } e w).2 =
        promoteAcceptedCandidate lib links { c with dryRun := false } e' w) ↔
      ¬Consumes lib links c.request e w := by
  constructor
  · rintro ⟨hsame, -⟩ hconsumes
    obtain ⟨nonce, hused⟩ := used_of_consumes (c := { c with dryRun := true }) rfl hconsumes
    rw [hsame] at hused
    simp at hused
  · intro h
    have hsame := world_of_not_consumes (c := { c with dryRun := true }) h
    refine ⟨hsame, fun e' => ?_⟩
    rw [hsame]

end DryRun

/-- The call is a promotion; after a dry run of it, it is a replay. -/
theorem dryRun_changes :
    (∃ preview out, (promoteAcceptedCandidate sampleLibrary (fun _ => false) (sampleCall false) sampleEnv
      sampleWorld).1 = .returned (.pass preview out)) ∧
    (promoteAcceptedCandidate sampleLibrary (fun _ => false) (sampleCall true) sampleEnv sampleWorld).2 ≠
      sampleWorld ∧
    (promoteAcceptedCandidate sampleLibrary (fun _ => false) (sampleCall false) sampleEnv
      (promoteAcceptedCandidate sampleLibrary (fun _ => false) (sampleCall true) sampleEnv
        sampleWorld).2).1 = .returned (.hold (cp "AUTHORIZATION_NONCE_REPLAY")) := by
  obtain ⟨b, hbind, hpointer, hpath⟩ := bind_sampleRequest
  obtain ⟨a, hauthorize, hvalid, hnonce, hpayload⟩ := authorize_sampleRequest
  obtain ⟨p, hprepare, hout, hpointerPath, htmp⟩ := prepare_sampleRequest hpointer hnonce hpayload (cp "1")
    (promotions ++ [cp "first"])
  have hget : sampleRequest.get "promotion_output_ref" = lit "runtime/total_field/promotions/first" := by
    simp [sampleRequest]
  have houtput : safePath (fun _ => false) (sampleRequest.get "promotion_output_ref") true =
      .ok (promotions ++ [cp "first"]) := by
    rw [hget]
    rfl
  have hmark : (sampleWorld.ledger.markUsedOrReplay false a.nonce a.payloadSha a.now a.ttl).1 =
      true := NonceLedger.mark_eq_true_iff.2 ⟨hvalid, rfl, rfl, List.not_mem_nil⟩
  have hused := (NonceLedger.used_of_mark hmark).1
  have hcall : promoteAcceptedCandidate sampleLibrary (fun _ => false) (sampleCall false) sampleEnv
      sampleWorld = commit (sampleCall false) p sampleEnv.random { sampleWorld with
        ledger := (sampleWorld.ledger.markUsedOrReplay false a.nonce a.payloadSha a.now a.ttl).2 } :=
    promote_of_fresh (c := sampleCall false) (e := sampleEnv) hbind hauthorize houtput rfl hprepare hmark
  have hdry : promoteAcceptedCandidate sampleLibrary (fun _ => false) (sampleCall true) sampleEnv
      sampleWorld = (.returned (.dryRun p.preview), { sampleWorld with
        ledger := (sampleWorld.ledger.markUsedOrReplay false a.nonce a.payloadSha a.now a.ttl).2 }) :=
    promote_of_fresh (c := sampleCall true) (e := sampleEnv) hbind hauthorize houtput rfl hprepare hmark
  refine ⟨⟨p.preview, p.outputDir, ?_⟩, fun heq => ?_, ?_⟩
  · rw [hcall]
    exact commit_sampleCall _ hout (hpointerPath.trans hpath) (by rw [htmp, hpath]; rfl)
  · rw [hdry] at heq
    have hledger := congrArg World.ledger heq
    dsimp only at hledger
    rw [hledger] at hused
    cases hused
  · rw [hdry]
    refine promote_of_replay hbind hauthorize fun hagain => ?_
    exact (NonceLedger.used_of_mark hagain).2.1 (hused ▸ List.mem_singleton_self _)

end GovernedPromotion
