/-
**Chains of progress projections.**

In a chain every projection is built on the one before it, and the first one on none.  Logical times count up,
the intent stays, every hash is the parent of the next projection, and no projection is created behind the expiry
of the one before it.  A projection may be created earlier than the one before it: the builder compares the
creation only with an expiry.

The contract that is derived from a projection agrees with it.  It cannot be derived when the hashes agree
although differences remain, or when an argument has no text in UTF-8.

Main definitions:

* `ProgressProjection.IsChain` — a sequence in which each projection is built on the one before it;
* `ProgressProjection.Lawful`, `ProgressProjection.Follows` — what holds of a projection, and of two neighbours;
* `ProgressProjection.Conflicts` — the projections from which no contract is derived.

Main results:

* `ProgressProjection.follow_ok` — a projection can be followed until it expires;
* `ProgressProjection.chain_lawful` — every chain is lawful;
* `ProgressProjection.contract_eq` — the contract of a projection;
* `ProgressProjection.correction_agrees` — a contract agrees with its projection.
-/

import Wuchang.ProgressProjection
import Wuchang.PyFloatRead

set_option relaxedAutoImplicit false
set_option autoImplicit false

namespace ProgressProjection

open Py TotalField
open PyJson (natText digitsValue digitsValue_natText isDigit_of_mem_natText)
open CapabilityContext (sortTexts texts)

variable {clock : Clock}

/-! ### Chains -/

/-- The first projection is built on none, and every other one on the one before it. -/
structure IsChain (clock : Clock) (vs : List PyVal) : Prop where
  first : ∀ v, vs[0]? = some v → ∃ args, buildProgress clock args none = .ok v
  next : ∀ i u v, vs[i]? = some u → vs[i + 1]? = some v → ∃ args, buildProgress clock args (some u) = .ok v

/-- What holds of the projection at a place of a chain. -/
structure Lawful (clock : Clock) (intent : PyStr) (place : ℕ) (v : PyVal) : Prop where
  logicalTime : v.get "logical_time" = .int place
  intent : (v.get "founder_intent").get "sha256" = .str intent
  sealed : v.get "packet_sha256" = .str (hashOf (unsigned v))
  /-- Every node was observed within the time to live before the creation. -/
  fresh : ∃ created ttlSeconds nodes, Reads clock (v.get "created_at") created ∧
    v.get "ttl_seconds" = .int ttlSeconds ∧ v.get "node_observations" = .list nodes ∧
    ∀ node ∈ nodes, ∃ observed, Reads clock (node.get "observed_at") observed ∧
      observed ≤ created ∧ created - observed ≤ ttlSeconds * 1000000
  closed : v.get "state" = lit "REOBSERVED_TARGET_FIELD_CLOSED" ↔
    v.get "remaining_difference_refs" = .list [] ∧
      (v.get "target_state").get "sha256" = (v.get "reobserved_state").get "sha256"

/-- What holds of a projection and the one behind it. -/
structure Follows (clock : Clock) (u v : PyVal) : Prop where
  parent : v.get "parent_progress_sha256" = u.get "packet_sha256"
  created : ∃ created expires, Reads clock (v.get "created_at") created ∧
    Reads clock (u.get "expires_at") expires ∧ created < expires

/-! ### One projection -/

theorem texts_eq_nil_iff {ts : List PyStr} : texts ts = .list [] ↔ ts = [] := by
  rw [texts, PyVal.list.injEq, List.map_eq_nil_iff]

theorem IsPacket.closed_iff {p : Projection} {v : PyVal} (hv : IsPacket clock p v) :
    v.get "state" = lit "REOBSERVED_TARGET_FIELD_CLOSED" ↔ p.Aligned := by
  rw [hv.state]
  split_ifs with h
  · exact iff_of_true rfl h
  · refine iff_of_false (fun heq => ?_) h
    exact absurd (cp_inj.1 (PyVal.str.inj heq)) (by decide)

/-- A projection that is built is lawful, apart from its place. -/
theorem IsPacket.lawful (hclock : clock.RoundTrips) {p : Projection} {v : PyVal} (hv : IsPacket clock p v)
    (hvalid : p.Valid) {place : ℕ} (hplace : p.logicalTime = place) : Lawful clock p.intentSha256 place v where
  logicalTime := by rw [hv.logicalTime, hplace]
  intent := by simp [hv.founderIntent]
  sealed := hv.sealed
  fresh := by
    refine ⟨p.created, p.ttlSeconds, _, ?_, hv.ttlSeconds, hv.nodes, ?_⟩
    · rw [hv.createdAt]
      exact hclock.reads hvalid.created
    · intro node hnode
      obtain ⟨n, hn, rfl⟩ := List.mem_map.1 hnode
      obtain ⟨htime, hfresh⟩ := hvalid.nodes n hn
      have hobserved : (n.value clock).get "observed_at" = .str (clock.isoformat n.observed) := by
        simp [Node.value]
      exact ⟨n.observed, hobserved ▸ hclock.reads htime, hfresh⟩
  closed := by
    rw [hv.closed_iff, hv.differences, texts_eq_nil_iff, hv.target, hv.reobserved, get_sha256_value, get_sha256_value,
      PyVal.str.injEq]
    rfl

/-- **A projection can be followed until it expires.** -/
theorem follow_ok (hclock : clock.RoundTrips) {p : Projection} {u : PyVal} (hu : IsPacket clock p u)
    (hvalid : p.Valid) {created : ℤ} (hcreated : created < p.expires) :
    follow clock created p.intentSha256 (some u) = .ok (p.logicalTime + 1, some (hashOf (unsigned u))) := by
  have hexpires : parsePacketTime clock (u.get "expires_at") "previous_progress.expires_at" = .ok p.expires := by
    rw [hu.expiresAt]
    exact hclock.reads hvalid.expires _
  have hschema : pyEq (u.get "schema_id") totalFieldProgressSchema = true := pyEq_lit.2 hu.schemaId
  have hintent : (u.get "founder_intent").isDict ∧
      pyEq ((u.get "founder_intent").get "sha256") (.str p.intentSha256) := by
    rw [hu.founderIntent]
    simp
  refine bind_eq_ok_iff.2 ⟨(), raiseIf_eq_ok_iff.2 (not_not.2 hschema), ?_⟩
  refine bind_eq_ok_iff.2 ⟨_, hu.written, ?_⟩
  refine bind_eq_ok_iff.2 ⟨(), raiseIf_eq_ok_iff.2 (not_not.2 (pyEq_str.2 hu.sealed)), ?_⟩
  refine bind_eq_ok_iff.2 ⟨(), raiseIf_eq_ok_iff.2 (not_not.2 hintent), ?_⟩
  refine bind_eq_ok_iff.2 ⟨_, hexpires, ?_⟩
  refine bind_eq_ok_iff.2 ⟨(), raiseIf_eq_ok_iff.2 (not_le.2 hcreated), ?_⟩
  rw [hu.logicalTime]
  rfl

/-- The projection before it only sets the logical time and the parent. -/
theorem project_following {args : Arguments} {p : Projection} (h : project clock args none = .ok p)
    {previous : Option PyVal} {logicalTime : ℤ} {parent : Option PyStr}
    (hfollow : follow clock p.created p.intentSha256 previous = .ok (logicalTime, parent)) :
    project clock args previous = .ok { p with logicalTime := logicalTime, parent := parent } := by
  obtain ⟨_, httl, h⟩ := bind_eq_ok_iff.1 h
  obtain ⟨created, hcreated, h⟩ := bind_eq_ok_iff.1 h
  obtain ⟨expires, hexpires, h⟩ := bind_eq_ok_iff.1 h
  obtain ⟨intentRef, hintentRef, h⟩ := bind_eq_ok_iff.1 h
  obtain ⟨intentSha256, hintent, h⟩ := bind_eq_ok_iff.1 h
  obtain ⟨target, htarget, h⟩ := bind_eq_ok_iff.1 h
  obtain ⟨current, hcurrent, h⟩ := bind_eq_ok_iff.1 h
  obtain ⟨reobserved, hreobserved, h⟩ := bind_eq_ok_iff.1 h
  obtain ⟨differences, hdifferences, h⟩ := bind_eq_ok_iff.1 h
  obtain ⟨receipts, hreceipts, h⟩ := bind_eq_ok_iff.1 h
  obtain ⟨nodes, hnodes, h⟩ := bind_eq_ok_iff.1 h
  obtain ⟨_, hcollision, h⟩ := bind_eq_ok_iff.1 h
  obtain ⟨_, -, h⟩ := bind_eq_ok_iff.1 h
  obtain rfl := pure_eq_ok_iff.1 h
  rw [project]
  simp only [httl, hcreated, hexpires, hintentRef, hintent, htarget, hcurrent, hreobserved, hdifferences,
    hreceipts, hnodes, hcollision, hfollow, ok_bind]
  rfl

/-! ### All of a chain -/

/-- **Every chain is lawful.** -/
theorem chain_lawful (hclock : clock.RoundTrips) {vs : List PyVal} (h : IsChain clock vs) :
    ∃ intent, (∀ i v, vs[i]? = some v → Lawful clock intent (i + 1) v) ∧
      (∀ v, vs[0]? = some v → v.get "parent_progress_sha256" = .none) ∧
      ∀ i u v, vs[i]? = some u → vs[i + 1]? = some v → Follows clock u v := by
  cases hfirst : vs[0]? with
  | none =>
      obtain rfl : vs = [] := by simpa using hfirst
      exact ⟨[], by simp, by simp, by simp⟩
  | some first =>
      obtain ⟨args, hargs⟩ := h.first first hfirst
      obtain ⟨p, -, hvalid, hpacket, hfollow⟩ := buildProgress_spec hargs
      obtain ⟨htime, hparent⟩ := Prod.mk.inj (Except.ok.inj hfollow)
      refine ⟨p.intentSha256, ?_, ?_, ?_⟩
      · intro i
        induction i with
        | zero =>
            intro v hv
            obtain rfl := Option.some.inj (hfirst.symm.trans hv)
            exact hpacket.lawful hclock hvalid htime.symm
        | succ i ih =>
            -- the projection before it fixes the logical time and the intent
            intro v hv
            have hi : i < vs.length := by
              obtain ⟨hlt, -⟩ := List.getElem?_eq_some_iff.1 hv
              omega
            have hu := List.getElem?_eq_getElem hi
            have hlawful := ih _ hu
            obtain ⟨args, hargs⟩ := h.next i _ v hu hv
            obtain ⟨q, -, hqvalid, hqpacket, hqfollow⟩ := buildProgress_spec hargs
            obtain ⟨⟨n, hn, hq⟩, hintent, -, -⟩ := follow_spec hqfollow
            rw [hlawful.intent] at hintent
            rw [hlawful.logicalTime] at hn
            have hplace : q.logicalTime = ((i + 1 + 1 : ℕ) : ℤ) := by
              rw [hq, ← PyVal.int.inj hn]
              push_cast
              rfl
            rw [PyVal.str.inj hintent]
            exact hqpacket.lawful hclock hqvalid hplace
      · intro v hv
        obtain rfl := Option.some.inj hv
        rw [hpacket.parent, ← hparent]
        rfl
      · intro i u v hu hv
        obtain ⟨args, hargs⟩ := h.next i u v hu hv
        obtain ⟨q, -, hqvalid, hqpacket, hqfollow⟩ := buildProgress_spec hargs
        obtain ⟨-, -, ⟨expires, hexpires, hlt⟩, hsealed⟩ := follow_spec hqfollow
        refine ⟨hqpacket.parent.trans hsealed.symm, q.created, expires, ?_, hexpires, hlt⟩
        rw [hqpacket.createdAt]
        exact hclock.reads hqvalid.created

/-! ### The contract of a projection -/

/-- The projections from which no contract is derived: the hashes agree, and differences remain. -/
def Conflicts (progress : PyVal) : Prop :=
  (progress.get "target_state").get "sha256" = (progress.get "reobserved_state").get "sha256" ∧
    progress.get "remaining_difference_refs" ≠ .list []

/-- Arguments of which every one passes its own check. -/
structure Fits (affected verification : List PyStr) (attempt maxAttempts : ℤ) (rollback : PyStr) : Prop where
  affected : ∀ t ∈ affected, strip t ≠ []
  verification : ∀ t ∈ verification, strip t ≠ []
  attempt : 1 ≤ attempt
  maxAttempts : 1 ≤ maxAttempts ∧ maxAttempts ≤ 10
  rollback : strip rollback ≠ []

/-- The arguments of the builder. -/
def correctionArguments (affected verification : List PyStr) (attempt maxAttempts : ℤ) (rollback : PyStr) :
    CorrectionArguments :=
  ⟨affected.map .str, .int attempt, .int maxAttempts, .str rollback, verification.map .str⟩

section Contract

variable {p : Projection} {progress : PyVal} (hprogress : IsPacket clock p progress) (hvalid : p.Valid)
  {affected verification : List PyStr} {attempt maxAttempts : ℤ} {rollback : PyStr}
  (hfits : Fits affected verification attempt maxAttempts rollback)

/-- The contract of a projection, unless it is refused. -/
def contractOf (p : Projection) (progress : PyVal) (affected verification : List PyStr) (attempt maxAttempts : ℤ)
    (rollback : PyStr) : Contract :=
  ⟨progress.get "packet_sha256", progress.get "founder_intent", p.target, p.reobserved,
    sortedSet (affected.map strip), p.differences, attempt, maxAttempts, strip rollback, verification.map strip⟩

include hprogress in
theorem conflicts_iff : Conflicts progress ↔ p.target.sha256 = p.reobserved.sha256 ∧ p.differences ≠ [] := by
  rw [Conflicts, hprogress.target, hprogress.reobserved, hprogress.differences, get_sha256_value, get_sha256_value,
    PyVal.str.injEq, ne_eq, texts_eq_nil_iff]

include hprogress hvalid hfits in
/-- **The contract of a projection**: it is refused only because of a conflict. -/
theorem contract_eq (hcovers : ∀ t ∈ p.differences, t ∈ affected.map strip) :
    contract progress (correctionArguments affected verification attempt maxAttempts rollback) =
      if p.target.sha256 = p.reobserved.sha256 ∧ p.differences ≠ [] then
        .error (.own (invalid "CORRECTION_RESIDUAL_CONFLICTS_WITH_REOBSERVED_MATCH"))
      else .ok (contractOf p progress affected verification attempt maxAttempts rollback) := by
  have hschema : ¬¬pyEq (progress.get "schema_id") totalFieldProgressSchema := not_not.2 (pyEq_lit.2 hprogress.schemaId)
  have hsealed : ¬¬pyEq (progress.get "packet_sha256") (.str (hashOf (unsigned progress))) :=
    not_not.2 (pyEq_str.2 hprogress.sealed)
  have hattempt : attemptOf (.int attempt) = .ok attempt := if_neg (not_lt.2 hfits.attempt)
  have hmax : maxAttemptsOf (.int maxAttempts) = .ok maxAttempts := if_neg (not_not.2 hfits.maxAttempts)
  have hlisted : elementsOr (progress.get "remaining_difference_refs") = .ok (p.differences.map .str) := by
    rw [hprogress.differences]
    rfl
  have hinside : ¬¬∀ t ∈ p.differences, t ∈ sortedSet (affected.map strip) :=
    not_not.2 fun t ht => mem_sortedSet.2 (hcovers t ht)
  have hrollback : requireNonEmptyString (.str rollback) "rollback_ref" = .ok (strip rollback) :=
    requireNonEmptyString_eq_ok_iff.2 ⟨_, rfl, hfits.rollback, rfl⟩
  rw [contract, correctionArguments, raiseIf_neg hschema, ok_bind, hprogress.written, ok_bind, raiseIf_neg hsealed,
    ok_bind]
  simp only [hattempt, hmax, hlisted, requireStringList_strip hfits.affected, requireStringList_strip hfits.verification,
    requireStringList_texts hvalid.trimmed, raiseIf_neg hinside, hrollback, hprogress.target, hprogress.reobserved,
    hvalid.target.normalize, hvalid.reobserved.normalize, hvalid.sorted, ok_bind]
  by_cases hconflict : p.target.sha256 = p.reobserved.sha256 ∧ p.differences ≠ []
  · rw [raiseIf_pos hconflict, if_pos hconflict]
    rfl
  · rw [raiseIf_neg hconflict, if_neg hconflict]
    rfl

include hprogress hvalid hfits in
/-- **When a contract is derived**, and what it is. -/
theorem buildCorrection_eq_ok_iff (hcovers : ∀ t ∈ p.differences, t ∈ affected.map strip) {v : PyVal} :
    buildCorrection progress (correctionArguments affected verification attempt maxAttempts rollback) = .ok v ↔
      ¬Conflicts progress ∧ ∃ key,
        canonicalSha256 (contractOf p progress affected verification attempt maxAttempts rollback).preimage =
          (.ok key : Except Fault PyStr) ∧
        finalizePacket ((contractOf p progress affected verification attempt maxAttempts rollback).packet key) =
          (.ok v : Except Fault PyVal) := by
  rw [buildCorrection, contract_eq hprogress hvalid hfits hcovers, conflicts_iff hprogress]
  split_ifs with hconflict
  · rw [error_bind]
    exact iff_of_false (by simp) (fun h => h.1 hconflict)
  · rw [ok_bind, bind_eq_ok_iff, and_iff_right hconflict]

theorem get_unsigned {v : PyVal} {k : String} (hk : k ≠ "packet_sha256") : (unsigned v).get k = v.get k := by
  cases v with
  | dict items => rw [unsigned, PyVal.get, PyVal.get, getItem_eraseKey items fun heq => hk (cp_inj.1 heq)]
  | _ => rfl

include hprogress in
/-- What a projection holds can be written. -/
theorem plain_get {k : String} (hk : k ≠ "packet_sha256") : PyJson.Plain Encodable (progress.get k) := by
  have h := canonicalSha256_isOk_iff.1 ⟨_, hprogress.written⟩
  exact get_unsigned hk ▸ h.get k

theorem plain_texts_iff {ts : List PyStr} : PyJson.Plain Encodable (texts ts) ↔ ∀ t ∈ ts, Encodable t := by
  rw [texts, PyJson.plain_list_iff]
  simp only [List.forall_mem_map, PyJson.plain_str_iff]

include hprogress in
/-- The texts that have to be written besides those of the projection. -/
theorem plain_preimage_iff :
    PyJson.Plain Encodable (contractOf p progress affected verification attempt maxAttempts rollback).preimage ↔
      (∀ t ∈ affected, Encodable (strip t)) ∧ Encodable (strip rollback) ∧
        ∀ t ∈ verification, Encodable (strip t) := by
  have hsha : PyJson.Plain Encodable (progress.get "packet_sha256") := by
    rw [hprogress.sealed]
    exact .str _ (encodable_hashOf _)
  have hremaining : ∀ t ∈ p.differences, Encodable t := by
    have h := plain_get hprogress (k := "remaining_difference_refs") (by decide)
    rwa [hprogress.differences, plain_texts_iff] at h
  rw [Contract.preimage, PyJson.plain_obj_iff]
  simp only [contractOf, List.forall_mem_cons, List.not_mem_nil, false_implies, implies_true, and_true,
    plain_texts_iff, PyJson.plain_str_iff, mem_sortedSet, List.forall_mem_map, hsha, true_and]
  exact ⟨fun h => ⟨h.1, h.2.2.2.1, h.2.2.2.2⟩, fun h => ⟨h.1, .int _, hremaining, h.2.1, h.2.2⟩⟩

include hprogress in
/-- When the preimage can be written, so can the contract. -/
theorem finalize_contract {key : PyStr} (hkey : Encodable key)
    (h : PyJson.Plain Encodable (contractOf p progress affected verification attempt maxAttempts rollback).preimage) :
    ∃ v, finalizePacket ((contractOf p progress affected verification attempt maxAttempts rollback).packet key) =
      (.ok v : Except Fault PyVal) := by
  obtain ⟨haffected, hrollback, hverification⟩ := (plain_preimage_iff hprogress).1 h
  have hsha : PyJson.Plain Encodable (progress.get "packet_sha256") := by
    rw [hprogress.sealed]
    exact .str _ (encodable_hashOf _)
  have hremaining := plain_get hprogress (k := "remaining_difference_refs") (by decide)
  have htarget := plain_get hprogress (k := "target_state") (by decide)
  have hreobserved := plain_get hprogress (k := "reobserved_state") (by decide)
  rw [hprogress.differences] at hremaining
  rw [hprogress.target] at htarget
  rw [hprogress.reobserved] at hreobserved
  have haffected : PyJson.Plain Encodable (texts (sortedSet (affected.map strip))) := by
    rw [plain_texts_iff]
    simpa only [mem_sortedSet, List.forall_mem_map] using haffected
  have hverification : PyJson.Plain Encodable (texts (verification.map strip)) := by
    rw [plain_texts_iff]
    simpa only [List.forall_mem_map] using hverification
  have hscope : ∀ {c : Prop} [Decidable c], PyJson.Plain Encodable (texts (if c then p.differences else [])) := by
    intro c _
    split_ifs
    · exact hremaining
    · exact plain_texts_iff.2 (by simp)
  refine finalizePacket_isOk_iff.2 ?_
  simp only [Contract.packet, List.forall_mem_cons, List.not_mem_nil, false_implies, implies_true, and_true]
  exact ⟨haffected, .int _, .bool _, .bool _, .bool _, PyJson.plain_lit _, .bool _, PyJson.plain_lit _, .bool _,
    plain_get hprogress (by decide), .str _ hkey, hscope, .int _, .bool _, .bool _, hsha, hremaining, hreobserved,
    .str _ hrollback, PyJson.plain_lit _, PyJson.plain_lit _, htarget, hverification⟩

end Contract

/-- White space is no half of a surrogate pair. -/
theorem encodable_strip_iff {s : PyStr} : Encodable (strip s) ↔ Encodable s := by
  have hspace : ∀ c, isSpace c = true → ¬IsSurrogate c := by
    intro c hc hs
    obtain ⟨hlo, hhi⟩ := hs
    simp only [isSpace, List.contains_eq_mem, List.mem_cons, List.not_mem_nil, or_false, Bool.or_eq_true,
      Bool.and_eq_true, decide_eq_true_eq] at hc
    omega
  have hdrop : ∀ t : PyStr, Encodable (t.dropWhile isSpace) → Encodable t := by
    intro t ht c hc
    rw [← List.takeWhile_append_dropWhile (p := isSpace) (l := t), List.mem_append] at hc
    exact hc.elim (fun h => hspace c (List.mem_takeWhile_imp h)) (ht c)
  constructor
  · intro h
    refine hdrop s fun c hc => ?_
    refine hdrop (s.dropWhile isSpace).reverse (fun d hd => h d ?_) c (List.mem_reverse.2 hc)
    rw [strip, List.rdropWhile]
    exact List.mem_reverse.2 hd
  · intro h c hc
    have hpre := List.rdropWhile_prefix isSpace (l := s.dropWhile isSpace)
    exact h c ((List.dropWhile_sublist isSpace).subset (hpre.subset hc))

/-- **A contract agrees with its projection.** -/
theorem correction_agrees {args : Arguments} {previous : Option PyVal} {progress : PyVal}
    (hprogress : buildProgress clock args previous = .ok progress) {affected verification : List PyStr}
    {attempt maxAttempts : ℤ} {rollback : PyStr} (hfits : Fits affected verification attempt maxAttempts rollback)
    (hcovers : ∀ ts, progress.get "remaining_difference_refs" = texts ts → ∀ t ∈ ts, t ∈ affected.map strip) :
    ((∃ v, buildCorrection progress (correctionArguments affected verification attempt maxAttempts rollback) = .ok v) ↔
      ¬Conflicts progress ∧ (∀ t ∈ affected, Encodable t) ∧ Encodable rollback ∧ ∀ t ∈ verification, Encodable t) ∧
    ∀ v, buildCorrection progress (correctionArguments affected verification attempt maxAttempts rollback) = .ok v →
      (v.get "state" = lit "NO_CORRECTION_REQUIRED" ↔
        progress.get "state" = lit "REOBSERVED_TARGET_FIELD_CLOSED") ∧
      (v.get "state" = lit "CORRECTION_CANDIDATE_READY" →
        v.get "materialization_scope" = progress.get "remaining_difference_refs") ∧
      (v.get "state" ≠ lit "CORRECTION_CANDIDATE_READY" → v.get "materialization_scope" = .list []) := by
  obtain ⟨p, -, hvalid, hpacket, -⟩ := buildProgress_spec hprogress
  have hcovers := hcovers _ hpacket.differences
  constructor
  · constructor
    · rintro ⟨v, hv⟩
      obtain ⟨hconflict, key, hkey, -⟩ := (buildCorrection_eq_ok_iff hpacket hvalid hfits hcovers).1 hv
      have htexts := (plain_preimage_iff hpacket).1 (canonicalSha256_isOk_iff.1 ⟨key, hkey⟩)
      simp only [encodable_strip_iff] at htexts
      exact ⟨hconflict, htexts⟩
    · rintro ⟨hconflict, htexts⟩
      have hplain := (@plain_preimage_iff _ _ _ hpacket affected verification attempt maxAttempts rollback).2
        (by simpa only [encodable_strip_iff] using htexts)
      obtain ⟨v, hv⟩ := finalize_contract hpacket (encodable_hashOf _) hplain
      exact ⟨v, (buildCorrection_eq_ok_iff hpacket hvalid hfits hcovers).2
        ⟨hconflict, _, canonicalSha256_ok hplain, hv⟩⟩
  · intro v hv
    obtain ⟨hconflict, key, -, hv⟩ := (buildCorrection_eq_ok_iff hpacket hvalid hfits hcovers).1 hv
    rw [conflicts_iff hpacket] at hconflict
    have hstate : v.get "state" =
        lit (contractOf p progress affected verification attempt maxAttempts rollback).state.name := by
      rw [get_finalizePacket hv (by decide)]
      simp [Contract.packet]
    have hscope : v.get "materialization_scope" = texts
        (if (contractOf p progress affected verification attempt maxAttempts rollback).state = .ready then
          p.differences else []) := by
      rw [get_finalizePacket hv (by decide)]
      simp [Contract.packet, contractOf]
    have hname : ∀ {a b : CorrectionState}, lit a.name = lit b.name ↔ a = b := by
      intro a b
      rw [lit, lit, PyVal.str.injEq, cp_inj]
      cases a <;> cases b <;> decide
    have hready : v.get "state" = lit "CORRECTION_CANDIDATE_READY" ↔
        (contractOf p progress affected verification attempt maxAttempts rollback).state = .ready := by
      rw [hstate]
      exact hname (b := .ready)
    refine ⟨?_, ?_, ?_⟩
    · rw [hpacket.closed_iff, hstate]
      refine (hname (b := .notRequired)).trans ?_
      simp only [Contract.state, contractOf, correctionState, Projection.Aligned]
      by_cases hsha : p.target.sha256 = p.reobserved.sha256
      · have hnone : p.differences = [] := not_not.1 fun h => hconflict ⟨hsha, h⟩
        simp [hsha, hnone]
      · by_cases hnone : p.differences = []
        · simp [hsha, hnone]
        · by_cases hattempts : attempt > maxAttempts <;> simp [hsha, hnone, hattempts]
    · intro h
      rw [hscope, if_pos (hready.1 h), hpacket.differences]
    · intro h
      rw [hscope, if_neg fun heq => h (hready.2 heq)]
      rfl

/-! ### A clock that runs backwards -/

/-- Some times as they are written, without the zone; the others are numbers. -/
def sampleTimes : List (ℤ × PyStr) := [(300000000, cp "1970-01-01T00:05:00"), (600000000, cp "1970-01-01T00:10:00"),
  (1200000000, cp "1970-01-01T00:20:00"), (1500000000, cp "1970-01-01T00:25:00")]

/-- A clock. -/
def sampleClock : Clock where
  fromisoformat s := match sampleTimes.find? (fun p => p.2 ++ cp "+00:00" = s) with
    | some p => some (some p.1)
    | none => some (some ((digitsValue s : ℤ) - 62135596800000000))
  isoformat t := match sampleTimes.lookup t with
    | some s => s ++ cp "Z"
    | none => natText (t + 62135596800000000).toNat

/-- The times that are written have a dash, are read again and are encoded. -/
theorem sampleTimes_written : (∀ p ∈ sampleTimes, 45 ∈ p.2 ∧
    sampleClock.fromisoformat (replaceZ (p.2 ++ cp "Z")) = some (some p.1)) ∧
    ∀ t ∈ sampleTimes.map Prod.fst, ∀ c ∈ sampleClock.isoformat t, ¬IsSurrogate c := by
  decide +kernel

/-- A number is none of the times that are written. -/
theorem find_natText (n : ℕ) : sampleTimes.find? (fun p => p.2 ++ cp "+00:00" = natText n) = none := by
  have hdash : 45 ∉ natText n := fun h => by
    have hdigit := isDigit_of_mem_natText h
    cases hdigit
  refine List.find?_eq_none.2 fun p hp heq => hdash ?_
  rw [← of_decide_eq_true heq]
  exact List.mem_append_left _ (sampleTimes_written.1 p hp).1

theorem replaceZ_natText (n : ℕ) : replaceZ (natText n) = natText n := by
  have hkeep : ∀ s : PyStr, (∀ c ∈ s, c ≠ 90) → replaceZ s = s := by
    intro s
    induction s with
    | nil => exact fun _ => rfl
    | cons c s ih =>
        intro h
        rw [List.forall_mem_cons] at h
        rw [replaceZ, List.flatMap_cons, if_neg h.1]
        exact congrArg _ (ih h.2)
  refine hkeep _ fun c hc => ?_
  rintro rfl
  have hdigit := isDigit_of_mem_natText hc
  cases hdigit

theorem roundTrips_sampleClock : sampleClock.RoundTrips := by
  intro t ht
  cases hlookup : sampleTimes.lookup t with
  | some s =>
      have hall := sampleTimes_written.1
      obtain ⟨before, after, hentries, -⟩ := List.lookup_eq_some_iff.1 hlookup
      have hmem : (t, s) ∈ sampleTimes := hentries ▸ List.mem_append_right before List.mem_cons_self
      simp only [sampleClock, hlookup] at hall ⊢
      exact (hall (t, s) hmem).2
  | none =>
      obtain ⟨hlo, -⟩ := ht
      simp only [sampleClock, hlookup, replaceZ_natText, find_natText, digitsValue_natText, Option.some.injEq]
      omega

/-- A hash. -/
def sampleSha256 : PyStr := List.replicate 64 48

/-- An observation. -/
def sampleObservation : Observation := ⟨cp "OBSERVED", cp "state_ref:1", sampleSha256⟩

/-- The arguments of a projection whose hashes agree. -/
def sampleArguments (createdAt : String) (differences : List String) : Arguments where
  founderIntentRef := lit "intent_ref:1"
  founderIntentSha256 := .str sampleSha256
  targetState := sampleObservation.value
  currentState := sampleObservation.value
  reobservedState := sampleObservation.value
  remainingDifferenceRefs := differences.map lit
  receiptRefs := []
  nodeObservations := []
  createdAt := lit createdAt
  ttlSeconds := 900

/-- The projection of these arguments. -/
def sampleProjection (created expires : ℤ) (differences : List String) : Projection where
  intentRef := cp "intent_ref:1"
  intentSha256 := sampleSha256
  target := sampleObservation
  current := sampleObservation
  reobserved := sampleObservation
  differences := differences.map cp
  receipts := []
  nodes := []
  logicalTime := 1
  parent := none
  created := created
  expires := expires
  ttlSeconds := 900

/-- A projection at ten minutes, one at five, and one that is open. -/
theorem project_samples :
    project sampleClock (sampleArguments "1970-01-01T00:10:00Z" []) none =
      .ok (sampleProjection 600000000 1500000000 []) ∧
    project sampleClock (sampleArguments "1970-01-01T00:05:00Z" []) none =
      .ok (sampleProjection 300000000 1200000000 []) ∧
    project sampleClock (sampleArguments "1970-01-01T00:10:00Z" ["difference_ref:1"]) none =
      .ok (sampleProjection 600000000 1500000000 ["difference_ref:1"]) := by
  decide +kernel

theorem encodable_sampleTimes {t : ℤ} (ht : t ∈ sampleTimes.map Prod.fst) : Encodable (sampleClock.isoformat t) :=
  sampleTimes_written.2 t ht

theorem plain_sampleObservation : PyJson.Plain Encodable sampleObservation.value := by
  have hhex : Encodable sampleSha256 := encodable_cp (String.ofList (List.replicate 64 '0'))
  refine PyJson.plain_obj fun q hq => ?_
  simp only [List.mem_cons, List.not_mem_nil, or_false] at hq
  obtain rfl | rfl | rfl := hq
  · exact .str _ (encodable_cp _)
  · exact .str _ hhex
  · exact .str _ (encodable_cp _)

/-- The projection can be finalized, wherever it stands. -/
theorem finalize_sample {created expires : ℤ} (hcreated : Encodable (sampleClock.isoformat created))
    (hexpires : Encodable (sampleClock.isoformat expires)) (differences : List String) (logicalTime : ℤ) {parent : Option PyStr}
    (hparent : ∀ s ∈ parent, Encodable s) :
    ∃ v, finalizePacket (({ sampleProjection created expires differences with
      logicalTime := logicalTime, parent := parent } : Projection).packet sampleClock) =
      (.ok v : Except Fault PyVal) := by
  have hhex : Encodable sampleSha256 := encodable_cp (String.ofList (List.replicate 64 '0'))
  have hparent : PyJson.Plain Encodable (parent.elim .none .str) := by
    cases parent with
    | none => exact .none
    | some s => exact .str _ (hparent s rfl)
  have hintent : PyJson.Plain Encodable (obj [("ref", lit "intent_ref:1"), ("sha256", .str sampleSha256)]) := by
    refine PyJson.plain_obj fun q hq => ?_
    simp only [List.mem_cons, List.not_mem_nil, or_false] at hq
    obtain rfl | rfl := hq
    · exact PyJson.plain_lit _
    · exact .str _ hhex
  have hdifferences : PyJson.Plain Encodable (texts (differences.map cp)) := by
    rw [plain_texts_iff, List.forall_mem_map]
    exact fun d _ => encodable_cp d
  refine finalizePacket_isOk_iff.2 ?_
  simp only [Projection.packet, List.forall_mem_cons, List.not_mem_nil, false_implies, implies_true, and_true]
  exact ⟨.bool _, .bool _, .bool _, .str _ hcreated, plain_sampleObservation, .str _ hexpires, PyJson.plain_lit _,
    .bool _, hintent, .int _, PyJson.plain_lit _, .bool _, .list _ (by simp [sampleProjection]), .bool _, hparent,
    .list _ (by simp [sampleProjection]), hdifferences, plain_sampleObservation,
    PyJson.plain_lit _, PyJson.plain_lit _, plain_sampleObservation, .int _⟩

/-- The second of two projections was created before the first one. -/
theorem exists_sampleChain : ∃ u v, IsChain sampleClock [u, v] ∧
    Reads sampleClock (u.get "created_at") 600000000 ∧ Reads sampleClock (v.get "created_at") 300000000 := by
  obtain ⟨u, hu⟩ := @finalize_sample 600000000 1500000000 (encodable_sampleTimes (by decide))
    (encodable_sampleTimes (by decide)) [] 1 none (by simp)
  have hfirst : buildProgress sampleClock (sampleArguments "1970-01-01T00:10:00Z" []) none = .ok u :=
    bind_eq_ok_iff.2 ⟨_, project_samples.1, hu⟩
  have hupacket := isPacket_of_finalize hu
  obtain ⟨huvalid, -⟩ := project_spec project_samples.1
  have hfollow := @follow_ok _ roundTrips_sampleClock _ _ hupacket huvalid 300000000 (by decide)
  have hproject := project_following project_samples.2.1 hfollow
  obtain ⟨v, hv⟩ := @finalize_sample 300000000 1200000000 (encodable_sampleTimes (by decide))
    (encodable_sampleTimes (by decide)) [] (1 + 1) (some (hashOf (unsigned u)))
    (by rintro s ⟨⟩; exact encodable_hashOf _)
  have hsecond : buildProgress sampleClock (sampleArguments "1970-01-01T00:05:00Z" []) (some u) = .ok v :=
    bind_eq_ok_iff.2 ⟨_, hproject, hv⟩
  refine ⟨u, v, ⟨?_, ?_⟩, ?_, ?_⟩
  · intro w hw
    obtain rfl : u = w := by simpa using hw
    exact ⟨_, hfirst⟩
  · intro i w x hw hx
    have hi : i = 0 := by
      obtain ⟨hlt, -⟩ := List.getElem?_eq_some_iff.1 hx
      simp only [List.length_cons, List.length_nil] at hlt
      omega
    subst hi
    obtain rfl : u = w := by simpa using hw
    obtain rfl : v = x := by simpa using hx
    exact ⟨_, hsecond⟩
  · rw [hupacket.createdAt]
    exact roundTrips_sampleClock.reads (by decide)
  · have htime : IsTime 300000000 := by decide
    rw [(isPacket_of_finalize hv).createdAt]
    exact roundTrips_sampleClock.reads htime

/-- A chain of two projections whose creation times decrease. -/
theorem chain_runs_backwards : sampleClock.RoundTrips ∧ ∃ u v, IsChain sampleClock [u, v] ∧
    ∃ s t, Reads sampleClock (u.get "created_at") s ∧ Reads sampleClock (v.get "created_at") t ∧ t < s := by
  obtain ⟨u, v, hchain, hu, hv⟩ := exists_sampleChain
  exact ⟨roundTrips_sampleClock, u, v, hchain, _, _, hu, hv, by norm_num⟩

/-- This chain is lawful. -/
theorem chain_lawful_sample : ∃ vs, vs.length = 2 ∧ IsChain sampleClock vs ∧
    ∃ intent, (∀ i v, vs[i]? = some v → Lawful sampleClock intent (i + 1) v) ∧
      (∀ v, vs[0]? = some v → v.get "parent_progress_sha256" = .none) ∧
      ∀ i u v, vs[i]? = some u → vs[i + 1]? = some v → Follows sampleClock u v := by
  obtain ⟨u, v, hchain, -, -⟩ := exists_sampleChain
  exact ⟨[u, v], rfl, hchain, chain_lawful roundTrips_sampleClock hchain⟩

/-! ### Contracts of the samples -/

theorem exists_sampleProgress (differences : List String) (hproject : project sampleClock
    (sampleArguments "1970-01-01T00:10:00Z" differences) none = .ok (sampleProjection 600000000 1500000000 differences)) :
    ∃ v, buildProgress sampleClock (sampleArguments "1970-01-01T00:10:00Z" differences) none = .ok v ∧
      v.get "remaining_difference_refs" = texts (differences.map cp) := by
  obtain ⟨v, hv⟩ := @finalize_sample 600000000 1500000000 (encodable_sampleTimes (by decide))
    (encodable_sampleTimes (by decide)) differences 1 none (by simp)
  exact ⟨v, bind_eq_ok_iff.2 ⟨_, hproject, hv⟩, (isPacket_of_finalize hv).differences⟩

theorem texts_inj {ts us : List PyStr} (h : texts ts = texts us) : ts = us :=
  List.map_injective_iff.2 (fun _ _ => PyVal.str.inj) (PyVal.list.inj h)

theorem fits_sample : Fits [cp "difference_ref:1"] [] 1 3 (cp "rollback_ref:1") :=
  ⟨by decide, by simp, by norm_num, by norm_num, by decide⟩

/-- A projection from which no contract is derived although all arguments are valid. -/
theorem correction_refused : ∃ progress,
    buildProgress sampleClock (sampleArguments "1970-01-01T00:10:00Z" ["difference_ref:1"]) none = .ok progress ∧
    (∀ ts, progress.get "remaining_difference_refs" = texts ts → ∀ t ∈ ts, t ∈ [cp "difference_ref:1"].map strip) ∧
    Fits [cp "difference_ref:1"] [] 1 3 (cp "rollback_ref:1") ∧
    buildCorrection progress (correctionArguments [cp "difference_ref:1"] [] 1 3 (cp "rollback_ref:1")) =
      .error (.own (invalid "CORRECTION_RESIDUAL_CONFLICTS_WITH_REOBSERVED_MATCH")) := by
  obtain ⟨progress, hprogress, hdifferences⟩ := exists_sampleProgress _ project_samples.2.2
  obtain ⟨p, hp, hvalid, hpacket, -⟩ := buildProgress_spec hprogress
  obtain rfl := Except.ok.inj (project_samples.2.2.symm.trans hp)
  have hcovers : ∀ t ∈ ["difference_ref:1"].map cp, t ∈ [cp "difference_ref:1"].map strip := by decide
  refine ⟨progress, hprogress, fun ts hts => texts_inj (hdifferences.symm.trans hts) ▸ hcovers, fits_sample, ?_⟩
  rw [buildCorrection, contract_eq hpacket hvalid fits_sample hcovers, if_pos ⟨rfl, by decide⟩]
  rfl

/-- The contract of a projection that is closed. -/
theorem correction_agrees_closed : ∃ progress,
    buildProgress sampleClock (sampleArguments "1970-01-01T00:10:00Z" []) none = .ok progress ∧
    ((∃ v, buildCorrection progress (correctionArguments [cp "difference_ref:1"] [] 1 3 (cp "rollback_ref:1")) =
      .ok v) ↔ ¬Conflicts progress ∧ (∀ t ∈ [cp "difference_ref:1"], Encodable t) ∧
        Encodable (cp "rollback_ref:1") ∧ ∀ t ∈ ([] : List PyStr), Encodable t) := by
  obtain ⟨progress, hprogress, hdifferences⟩ := exists_sampleProgress _ project_samples.1
  refine ⟨progress, hprogress, (correction_agrees hprogress fits_sample fun ts hts => ?_).1⟩
  rw [← texts_inj (hdifferences.symm.trans hts)]
  simp

end ProgressProjection
