/-
**Which hashes of a packet are bound to the reconstructed state.**

A packet writes the hash of its state down three times: in its source, in its verification and in its
reconstruction conditions; and so it does with the hash of its ids.  A reconstruction compares the hashes of
the source with those of what it has rebuilt.  The verification root covers the other copies as they are
written, and nothing compares them with anything: whoever seals a packet anew may put what they like there.

Main definitions:

* `Adi.BoundTo` — all copies are the hashes of a state and of its ids;
* `Adi.CopiesAgree` — the copies of a packet are those of its source;
* `Adi.resealed` — a packet with another verification, sealed anew.

Main results:

* `Adi.bound_iff_copiesAgree` — for every packet that is allowed, the copies are bound to the reconstructed
  state exactly when they agree with the source;
* `Adi.validatePacket_resealed` — a packet whose copy says something else passes all checks;
* `Adi.forged_allowed` — and it is allowed.
-/

import Wuchang.AdiAtomicity

set_option relaxedAutoImplicit false
set_option autoImplicit false

namespace Adi

open Py

/-! ### The copies -/

/-- The ids of the records of a state document, sorted. -/
def idsOf (state : PyVal) : PyVal :=
  .list ((sortTexts ((listOf (state.get "records")).map entryId)).map PyVal.str)

/-- All copies in a packet are these hashes. -/
structure BoundTo (packet : PyVal) (stateSha256 idSetSha256 : PyStr) : Prop where
  verificationState : (packet.get "verification").get "source_state_sha256" = .str stateSha256
  sourceState : (packet.get "source").get "state_sha256" = .str stateSha256
  targetState : (packet.get "reconstruction_conditions").get "target_state_sha256" = .str stateSha256
  verificationIdSet : (packet.get "verification").get "source_id_set_sha256" = .str idSetSha256
  sourceIdSet : (packet.get "source").get "id_set_sha256" = .str idSetSha256
  targetIdSet : (packet.get "reconstruction_conditions").get "target_id_set_sha256" = .str idSetSha256

/-- The copies in the verification and in the conditions of a packet are those of its source. -/
structure CopiesAgree (packet : PyVal) : Prop where
  verificationState : (packet.get "verification").get "source_state_sha256" =
    (packet.get "source").get "state_sha256"
  targetState : (packet.get "reconstruction_conditions").get "target_state_sha256" =
    (packet.get "source").get "state_sha256"
  verificationIdSet : (packet.get "verification").get "source_id_set_sha256" =
    (packet.get "source").get "id_set_sha256"
  targetIdSet : (packet.get "reconstruction_conditions").get "target_id_set_sha256" =
    (packet.get "source").get "id_set_sha256"

/-- Where the source is bound, the other copies are bound exactly when they agree with it. -/
theorem boundTo_iff {packet : PyVal} {state ids : PyStr}
    (hstate : (packet.get "source").get "state_sha256" = .str state)
    (hids : (packet.get "source").get "id_set_sha256" = .str ids) :
    BoundTo packet state ids ↔ CopiesAgree packet := by
  constructor
  · intro h
    exact ⟨h.verificationState.trans hstate.symm, h.targetState.trans hstate.symm,
      h.verificationIdSet.trans hids.symm, h.targetIdSet.trans hids.symm⟩
  · intro h
    exact ⟨h.verificationState.trans hstate, hstate, h.targetState.trans hstate,
      h.verificationIdSet.trans hids, hids, h.targetIdSet.trans hids⟩

/-- The ids that are hashed are those of the reconstructed state. -/
theorem idsOf_stateDoc (rs : List Rec) : idsOf (stateDoc rs) = idSet rs := by
  have hid : ∀ r : Rec, entryId r.toVal = r.id := by
    intro r
    rw [entryId, Rec.toVal, Rec.basis, setKey_fields]
    simp +decide [PyVal.get, setField, textOf]
  have hmap : (rs.map Rec.toVal).map entryId = rs.map Rec.id := by
    rw [List.map_map]
    exact List.map_congr_left fun r _ => hid r
  simp [idsOf, idSet, stateDoc, listOf, hmap]

/-- What is known of the source of a verified packet. -/
theorem verifyPacket_source {s : Store} (hs : s.WF) {packet : PyVal} {v : Verified}
    (h : verifyPacket s packet = .ok v) :
    normalize packet = .ok v.packet ∧ v.state = stateDoc v.ordered ∧
      (v.packet.get "source").get "state_sha256" = .str (Canonical.sha256 (stateDoc v.ordered)) ∧
      (v.packet.get "source").get "id_set_sha256" = .str (Canonical.sha256 (idSet v.ordered)) := by
  obtain ⟨hvalid, -, -⟩ := verifyPacket_ordered hs h
  simp only [verifyPacket, validatePacket, bind_eq_ok_iff, holdIf_eq_ok_iff, pure_eq_ok_iff, not_not] at h
  obtain ⟨_, ⟨_, -, w, hw, _, -, _, -, _, -, rfl⟩, atoms, -, p, -, _, -, state, hstate, bytes, hbytes, ids,
    hids, sourceState, hsourceState, sourceIds, hsourceIds, _, -, _, ⟨hstateEq, hidsEq, -⟩, rfl⟩ := h
  dsimp only at hvalid ⊢
  rw [stateDocument_of_valid hvalid, Except.ok.injEq] at hstate
  subst hstate
  rw [(canonical_stateDoc hvalid).canonicalBytes, Except.ok.injEq] at hbytes
  subst hbytes
  rw [← idSet, (canonical_idSet hvalid).canonicalSha256, Except.ok.injEq] at hids
  subst hids
  rw [PyVal.str_eq] at hstateEq hidsEq
  exact ⟨hw, rfl, (get_of_at hsourceState).trans hstateEq, (get_of_at hsourceIds).trans hidsEq⟩

/-- A reconstruction that returns has verified its packet, and replies with what it has rebuilt. -/
theorem verified_of_run {a b : SpacetimeADI} (ha : a.store.WF) {now : String} {packet reply : PyVal}
    (hrun : ((Call.reconstruct packet).run now).run a = .ok reply b) :
    ∃ v allowed, verifyPacket a.store packet = .ok v ∧ reply = reconstructed v allowed := by
  unfold Call.run SpacetimeADI.reconstruct at hrun
  rw [SpacetimeADI.counted_run] at hrun
  cases hv : verifyPacket a.store packet with
  | error e =>
      rw [reconstructPacket_of_error now hv] at hrun
      cases hrun
  | ok v =>
      rw [reconstructPacket_run ha now hv, EStateM.run_bind] at hrun
      cases haccept : (acceptAll (v.ordered.map Rec.toVal)).run (a.store.loggedNew now v) with
      | error e t =>
          rw [haccept] at hrun
          cases hrun
      | ok u t =>
          rw [haccept] at hrun
          dsimp only at hrun
          rw [EStateM.run_bind] at hrun
          cases hsave : persistSnapshot.run t with
          | error e t' =>
              rw [hsave] at hrun
              cases hrun
          | ok u' t' =>
              rw [hsave] at hrun
              dsimp only at hrun
              rw [allowedReply] at hrun
              cases hallowed : allowedPacket v.packet with
              | error e =>
                  rw [hallowed] at hrun
                  cases hrun
              | ok allowed =>
                  rw [hallowed] at hrun
                  obtain ⟨rfl, -⟩ := EStateM.Result.ok.inj hrun
                  exact ⟨v, allowed, rfl, rfl⟩

/-- **The copies.**  For every packet that is allowed, the copies are bound to the reconstructed state and to
its ids exactly when they agree with the source. -/
theorem bound_iff_copiesAgree (a b : SpacetimeADI) (ha : Reachable a) (now : String) (packet reply : PyVal)
    (hrun : ((Call.reconstruct packet).run now).run a = .ok reply b) :
    ∃ p state ids, normalize packet = .ok p ∧
      canonicalSha256 (reply.get "reconstructed_state") = .ok state ∧
      canonicalSha256 (idsOf (reply.get "reconstructed_state")) = .ok ids ∧
      (BoundTo p state ids ↔ CopiesAgree p) := by
  obtain ⟨v, allowed, hv, rfl⟩ := verified_of_run ha.wf hrun
  obtain ⟨hvalid, -, -⟩ := verifyPacket_ordered ha.wf hv
  obtain ⟨hnormal, hstate, hsourceState, hsourceIds⟩ := verifyPacket_source ha.wf hv
  have hget : (reconstructed v allowed).get "reconstructed_state" = stateDoc v.ordered := by
    rw [← hstate]
    simp [reconstructed]
  refine ⟨v.packet, _, _, hnormal, ?_, ?_, boundTo_iff hsourceState hsourceIds⟩
  · rw [hget]
    exact (canonical_stateDoc hvalid).canonicalSha256
  · rw [hget, idsOf_stateDoc]
    exact (canonical_idSet hvalid).canonicalSha256

/-! ### Sealing a packet anew -/

/-- A normal value that can be hashed. -/
theorem canonical_of_sha256 {v : PyVal} {h : PyStr} (hv : Normal v) (hsha : canonicalSha256 v = .ok h) :
    Canonical v ∧ h = Canonical.sha256 v := by
  obtain ⟨w, hw, hc, rfl⟩ := canonicalSha256_eq_ok_iff.1 hsha
  rw [normalize, normalize_of_normal hv, Except.ok.injEq] at hw
  subst hw
  exact ⟨hc, rfl⟩

/-- The parts of a normal value are normal. -/
theorem normal_get {v : PyVal} (hv : Normal v) (k : String) : Normal (v.get k) := by
  cases hv with
  | dict items _ _ hvals =>
      rw [PyVal.get]
      cases hget : getItem items (cp k) with
      | none => exact .none
      | some u =>
          obtain ⟨p, hp, rfl⟩ := mem_of_getItem hget
          exact hvals p hp
  | _ => exact .none

/-- A verification that says something else about the state and its ids, with the root that goes with it. -/
def forgedVerification (packet : PyVal) (state ids : PyStr) : PyVal :=
  let reference := PyVal.str (Canonical.sha256 (packet.get "reference_lookup"))
  let delta := PyVal.str (Canonical.sha256 (packet.get "delta"))
  let conditions := PyVal.str (Canonical.sha256 (packet.get "reconstruction_conditions"))
  obj [("delta_sha256", delta), ("reference_lookup_sha256", reference), ("source_id_set_sha256", .str ids),
    ("source_state_sha256", .str state),
    ("verification_root",
      .str (Canonical.sha256 (rootBasis (.str state) (.str ids) reference delta conditions)))]

/-- The items of a packet with another verification, without its hash. -/
def resealedBasis (items : Items) (verification : PyVal) : Items :=
  setKey (cp "verification") verification (eraseKey (cp "packet_sha256") items)

/-- A packet with another verification, sealed anew. -/
def resealed (items : Items) (verification : PyVal) : PyVal :=
  .dict (setKey (cp "packet_sha256") (.str (Canonical.sha256 (.dict (resealedBasis items verification))))
    (resealedBasis items verification))

section Resealed

variable {items : Items} {verification : PyVal}

/-- The other items of a packet stay as they are. -/
theorem getItem_resealed {k : String} (hsha : k ≠ "packet_sha256") (hver : k ≠ "verification") (sha : PyVal) :
    getItem (setKey (cp "packet_sha256") sha (resealedBasis items verification)) (cp k) =
      getItem items (cp k) := by
  rw [resealedBasis, getItem_setKey, if_neg (mt cp_inj.1 hsha), getItem_setKey, if_neg (mt cp_inj.1 hver),
    getItem_eraseKey _ (mt cp_inj.1 hsha)]

theorem resealed_get {k : String} (hsha : k ≠ "packet_sha256") (hver : k ≠ "verification") :
    (resealed items verification).get k = (PyVal.dict items).get k := by
  rw [resealed, PyVal.get, PyVal.get, getItem_resealed hsha hver]

theorem resealed_verification : (resealed items verification).get "verification" = verification := by
  rw [resealed, resealedBasis, PyVal.get, getItem_setKey, if_neg (mt cp_inj.1 (by decide)), getItem_setKey,
    if_pos rfl]
  rfl

theorem resealed_sha : (resealed items verification).get "packet_sha256" =
    .str (Canonical.sha256 (.dict (resealedBasis items verification))) := by
  rw [resealed, PyVal.get, getItem_setKey, if_pos rfl]
  rfl

/-- The keys of a packet that was sealed anew. -/
theorem hasKeys_resealed (h : hasKeys (.dict items) packetKeys = true) :
    hasKeys (resealed items verification) packetKeys = true := by
  simp only [hasKeys, keysAre, resealed, Bool.and_eq_true, List.all_eq_true, List.any_eq_true,
    decide_eq_true_eq] at h ⊢
  obtain ⟨hall, hany⟩ := h
  constructor
  · intro p hp
    rcases mem_setKey hp with rfl | hp
    · exact ⟨"packet_sha256", by decide, rfl⟩
    · rcases mem_setKey hp with rfl | hp
      · exact ⟨"verification", by decide, rfl⟩
      · exact hall p (List.mem_of_mem_filter hp)
  · intro k hk
    have hget : getItem (setKey (cp "packet_sha256")
        (.str (Canonical.sha256 (.dict (resealedBasis items verification))))
        (resealedBasis items verification)) (cp k) ≠ none := by
      rw [getItem_setKey, resealedBasis, getItem_setKey]
      split_ifs with hsha hver
      · simp
      · simp
      · rw [getItem_eraseKey _ hsha]
        intro hnone
        obtain ⟨p, hp, hkey⟩ := hany k hk
        exact ne_of_getItem_none hnone p hp hkey
    obtain ⟨v, hv⟩ := Option.ne_none_iff_exists'.1 hget
    exact exists_of_getItem hv

theorem normalize_of_validatePacket {packet p : PyVal} (h : validatePacket packet = .ok p) :
    normalize packet = .ok p := by
  simp only [validatePacket, bind_eq_ok_iff, pure_eq_ok_iff] at h
  obtain ⟨_, -, w, hw, _, -, _, -, _, -, rfl⟩ := h
  exact hw

/-- What the hash of a packet was taken of can be hashed. -/
theorem canonical_basis (h : validatePacket (.dict items) = .ok (.dict items)) :
    Canonical (.dict (eraseKey (cp "packet_sha256") items)) := by
  have hnormal : Normal (.dict items) := normal_of_normalize _ _ _ (normalize_of_validatePacket h)
  simp only [validatePacket, checkHeader, bind_eq_ok_iff, pure_eq_ok_iff] at h
  obtain ⟨_, -, w, -, _, ⟨_, -, _, -, _, -, _, -, _, -, basis, hbasis, sha, hsha, -⟩, _, -, _, -, rfl⟩ := h
  rw [packetHashBasis, normalize, normalize_of_normal hnormal.eraseKey, Except.ok.injEq] at hbasis
  subst hbasis
  exact (canonical_of_sha256 hnormal.eraseKey hsha).1

theorem canonical_resealedBasis (hbase : Canonical (.dict (eraseKey (cp "packet_sha256") items)))
    (hver : Canonical verification) : Canonical (.dict (resealedBasis items verification)) :=
  hbase.setKey ((@literalKeys ["verification"] (by decide)).2 _ (by simp)) (encodable_cp _) hver

theorem canonical_resealed (hbasis : Canonical (.dict (resealedBasis items verification))) :
    Canonical (resealed items verification) :=
  hbasis.setKey ((@literalKeys ["packet_sha256"] (by decide)).2 _ (by simp)) (encodable_cp _) (.hash _)

theorem canonical_forgedVerification (packet : PyVal) {state ids : PyStr} (hstate : Encodable state)
    (hids : Encodable ids) : Canonical (forgedVerification packet state ids) := by
  refine .obj ["delta_sha256", "reference_lookup_sha256", "source_id_set_sha256", "source_state_sha256",
    "verification_root"] rfl (literalKeys (by decide)) ?_
  simp [Canonical.hash, Canonical.str hstate, Canonical.str hids]

/-- The hash of a packet that was sealed anew is taken of the rest of it. -/
theorem packetHashBasis_resealed (hbasis : Canonical (.dict (resealedBasis items verification))) :
    packetHashBasis (resealed items verification) = .ok (.dict (resealedBasis items verification)) := by
  have hno : ∀ p ∈ resealedBasis items verification, p.1 ≠ .str (cp "packet_sha256") := by
    intro p hp
    rcases mem_setKey hp with rfl | hp
    · exact fun heq => absurd (cp_inj.1 (PyKey.str.inj heq)) (by decide)
    · simpa using (List.mem_filter.1 hp).2
  rw [resealed, packetHashBasis, eraseKey_setKey _ hno]
  exact hbasis.normalize

/-- The checks of the verification do not look at what it says about the state and its ids. -/
theorem checkVerification_forged {packet : PyVal} {state ids : PyStr}
    (hlookup : Canonical (packet.get "reference_lookup")) (hdelta : Canonical (packet.get "delta"))
    (hconditions : Canonical (packet.get "reconstruction_conditions")) (hstate : Encodable state)
    (hids : Encodable ids)
    (hmode : (packet.get "delta").isDict ∧
      ((packet.get "delta").get "mode").eq (lit "REQUIRED_STATE_ATOMS_ONLY") = true)
    (hatoms : isList ((packet.get "delta").get "state_atoms") ∧
      ((packet.get "delta").get "state_atom_count").eq
        (.int (listOf ((packet.get "delta").get "state_atoms")).length) = true)
    (hpresent : (packet.get "reconstruction_conditions").isDict ∧
      (packet.get "reconstruction_conditions").truthy = true)
    (hrisk : (packet.get "risk_assessment").isDict ∧
      isFalseValue ((packet.get "risk_assessment").get "hard_risk") = true ∧
      ((packet.get "risk_assessment").get "redlines").eq (.list []) = true) :
    checkVerification (packet.get "reference_lookup") (packet.get "delta")
      (packet.get "reconstruction_conditions") (forgedVerification packet state ids)
      (packet.get "risk_assessment") = .ok () := by
  have hroot : Canonical (rootBasis (.str state) (.str ids)
      (.str (Canonical.sha256 (packet.get "reference_lookup"))) (.str (Canonical.sha256 (packet.get "delta")))
      (.str (Canonical.sha256 (packet.get "reconstruction_conditions")))) := by
    refine .obj ["delta_sha256", "reconstruction_conditions_sha256", "reference_lookup_sha256",
      "source_id_set_sha256", "source_state_sha256"] rfl (literalKeys (by decide)) ?_
    simp [Canonical.hash, Canonical.str hstate, Canonical.str hids]
  have hexpected : rootBasis ((forgedVerification packet state ids).get "source_state_sha256")
      ((forgedVerification packet state ids).get "source_id_set_sha256")
      ((forgedVerification packet state ids).get "reference_lookup_sha256")
      ((forgedVerification packet state ids).get "delta_sha256")
      (.str (Canonical.sha256 (packet.get "reconstruction_conditions"))) = rootBasis (.str state) (.str ids)
        (.str (Canonical.sha256 (packet.get "reference_lookup")))
        (.str (Canonical.sha256 (packet.get "delta")))
        (.str (Canonical.sha256 (packet.get "reconstruction_conditions"))) := by
    simp [forgedVerification]
  rw [checkVerification, holdIf_neg (not_not.2 hmode), ok_bind]
  dsimp only
  rw [holdIf_neg (not_not.2 hatoms), ok_bind, holdIf_neg (not_not.2 hpresent), ok_bind,
    holdIf_neg (by simp [forgedVerification]), ok_bind, hlookup.canonicalSha256, ok_bind,
    holdIf_neg (by simp [forgedVerification]), ok_bind, hdelta.canonicalSha256, ok_bind,
    holdIf_neg (by simp [forgedVerification]), ok_bind, hconditions.canonicalSha256, ok_bind, hexpected,
    hroot.canonicalSha256, ok_bind, holdIf_neg (by simp [forgedVerification]), ok_bind,
    holdIf_neg (not_not.2 hrisk)]

/-- **A packet that was sealed anew passes all checks.**  Whatever it says about the state and its ids in its
verification, it is covered by the root and by the hash of the packet, and compared with nothing. -/
theorem validatePacket_resealed {state ids : PyStr} (hstate : Encodable state) (hids : Encodable ids)
    (h : validatePacket (.dict items) = .ok (.dict items)) :
    validatePacket (resealed items (forgedVerification (.dict items) state ids)) =
      .ok (resealed items (forgedVerification (.dict items) state ids)) := by
  have hnormal : Normal (.dict items) := normal_of_normalize _ _ _ (normalize_of_validatePacket h)
  have hbase := canonical_basis h
  simp only [validatePacket, checkHeader, checkVerification, bind_eq_ok_iff, holdIf_eq_ok_iff, pure_eq_ok_iff,
    not_not] at h
  obtain ⟨_, hkeys, w, -, _, ⟨_, hprotocol, _, hschema, _, htype, _, hdecision, _, hcontext, basis, -,
    sha, -, -⟩, _, hrefs, _, ⟨_, hdelta, _, hatoms, _, hconditions, _, -, lookupSha, hlookupSha, _, -,
    deltaSha, hdeltaSha, _, -, conditionsSha, hconditionsSha, _, -, _, -, hrisk⟩, rfl⟩ := h
  obtain ⟨hlookup, rfl⟩ := canonical_of_sha256 (normal_get hnormal _) hlookupSha
  obtain ⟨hdeltaC, rfl⟩ := canonical_of_sha256 (normal_get hnormal _) hdeltaSha
  obtain ⟨hconditionsC, rfl⟩ := canonical_of_sha256 (normal_get hnormal _) hconditionsSha
  have hbasis' := canonical_resealedBasis hbase (canonical_forgedVerification (.dict items) hstate hids)
  rw [validatePacket, holdIf_neg (not_not.2 (hasKeys_resealed hkeys)), ok_bind,
    (canonical_resealed hbasis').normalize, ok_bind, checkHeader, packetHashBasis_resealed hbasis', ok_bind,
    hbasis'.canonicalSha256, ok_bind, resealed_sha, resealed_verification]
  have hget : ∀ k : String, k ≠ "packet_sha256" → k ≠ "verification" →
      (resealed items (forgedVerification (.dict items) state ids)).get k = (PyVal.dict items).get k :=
    fun k => resealed_get
  rw [hget "protocol_version" (by decide) (by decide), hget "schema_version" (by decide) (by decide),
    hget "packet_type" (by decide) (by decide), hget "total_field_decision" (by decide) (by decide),
    hget "dynamic_context_8d" (by decide) (by decide), hget "source" (by decide) (by decide),
    hget "reference_lookup" (by decide) (by decide), hget "delta" (by decide) (by decide),
    hget "reconstruction_conditions" (by decide) (by decide), hget "risk_assessment" (by decide) (by decide),
    holdIf_neg (not_not.2 hprotocol), ok_bind, holdIf_neg (not_not.2 hschema), ok_bind,
    holdIf_neg (not_not.2 htype), ok_bind, holdIf_neg (not_not.2 hdecision), ok_bind,
    holdIf_neg (not_not.2 hcontext), ok_bind, holdIf_neg (not_not.2 (PyVal.eq_str.2 rfl)), ok_bind, hrefs,
    ok_bind, checkVerification_forged hlookup hdeltaC hconditionsC hstate hids hdelta hatoms hconditions hrisk]
  rfl

/-- What is verified of a packet that was sealed anew is what is verified of the packet. -/
theorem verifyPacket_resealed {s : Store} {v : Verified} {state ids : PyStr} (hstate : Encodable state)
    (hids : Encodable ids) (hvalid : validatePacket (.dict items) = .ok (.dict items))
    (h : verifyPacket s (.dict items) = .ok v) :
    verifyPacket s (resealed items (forgedVerification (.dict items) state ids)) =
      .ok { v with packet := resealed items (forgedVerification (.dict items) state ids) } := by
  have hget : ∀ k : String, k ≠ "packet_sha256" → k ≠ "verification" →
      (resealed items (forgedVerification (.dict items) state ids)).get k = (PyVal.dict items).get k :=
    fun k => resealed_get
  have hroot : ((forgedVerification (.dict items) state ids).get "verification_root").truthy = true := by
    simp [forgedVerification]
  simp only [verifyPacket, hvalid, ok_bind, bind_eq_ok_iff, holdIf_eq_ok_iff, pure_eq_ok_iff, not_not] at h
  obtain ⟨atoms, hatoms, p, hp, _, hused, doc, hdoc, bytes, hbytes, sha, hsha, sourceState, hsourceState,
    sourceIds, hsourceIds, sourceBytes, hsourceBytes, _, hchecks, rfl⟩ := h
  rw [verifyPacket, validatePacket_resealed hstate hids hvalid, ok_bind]
  dsimp only
  rw [resealed_verification, hget "source" (by decide) (by decide),
    hget "reference_lookup" (by decide) (by decide), hget "delta" (by decide) (by decide),
    hget "reconstruction_conditions" (by decide) (by decide), hatoms, ok_bind, hp, ok_bind,
    holdIf_neg hused, ok_bind, hdoc, ok_bind, hbytes, ok_bind, hsha, ok_bind, hsourceState, ok_bind,
    hsourceIds, ok_bind, hsourceBytes, ok_bind, holdIf_neg]
  · rfl
  · exact not_not.2 ⟨hchecks.1, hchecks.2.1, hchecks.2.2.1, hchecks.2.2.2.1, hchecks.2.2.2.2.1, hroot⟩

/-- The packet was marked as allowed, so it has a context with a decision. -/
theorem context_of_allowedPacket {w : PyVal} (hitems : Normal (.dict items))
    (h : allowedPacket (.dict items) = .ok w) : ∃ context d8 : Items,
      getItem items (cp "dynamic_context_8d") = some (.dict context) ∧
        getItem context (cp "D8") = some (.dict d8) := by
  have hat : ∀ {v u : PyVal} {k : String}, (v.at k : Except Fault PyVal) = .ok u →
      ∃ its, v = .dict its ∧ getItem its (cp k) = some u := by
    intro v u k hv
    cases v with
    | dict its =>
        rw [PyVal.at] at hv
        cases hg : getItem its (cp k) with
        | none => rw [hg] at hv; cases hv
        | some x =>
            rw [hg] at hv
            exact ⟨its, rfl, hg.trans (congrArg some (Except.ok.inj hv))⟩
    | _ => cases hv
  have hset : ∀ {v u : PyVal} {k : String} {x : PyVal}, setItem v k x = .ok u → ∃ its, v = .dict its := by
    intro v u k x hv
    cases v with
    | dict its => exact ⟨its, rfl⟩
    | _ => cases hv
  rw [allowedPacket, normalize, normalize_of_normal hitems, ok_bind, setItem, pure_bind] at h
  simp only [bind_eq_ok_iff] at h
  obtain ⟨context, hcontext, d8, hd8, d8', hd8', -⟩ := h
  obtain ⟨its, hits, hcontext⟩ := hat hcontext
  obtain rfl := PyVal.dict.inj hits
  rw [getItem_setKey, if_neg (mt cp_inj.1 (by decide))] at hcontext
  obtain ⟨contextItems, rfl, hitem⟩ := hat hd8
  obtain ⟨d8Items, rfl⟩ := hset hd8'
  exact ⟨contextItems, d8Items, hcontext, hitem⟩

/-- **A forged packet is allowed.**  Where a packet is allowed by a store in memory, so is the packet whose
verification says anything else about the state and its ids. -/
theorem forged_allowed {s t : Store} (hs : s.WF) (hdir : s.stateDir = none) {now : String} {reply : PyVal}
    {state ids : PyStr} (hstate : Encodable state) (hids : Encodable ids)
    (hvalid : validatePacket (.dict items) = .ok (.dict items))
    (hrun : (reconstructPacket now (.dict items)).run s = .ok reply t) :
    ∃ reply' t', (reconstructPacket now
      (resealed items (forgedVerification (.dict items) state ids))).run s = .ok reply' t' := by
  cases hv : verifyPacket s (.dict items) with
  | error e =>
      rw [reconstructPacket_of_error now hv] at hrun
      cases hrun
  | ok v =>
      have hpacket : v.packet = .dict items := by
        obtain ⟨hnormal, -⟩ := verifyPacket_source hs hv
        rw [normalize_of_validatePacket hvalid, Except.ok.injEq] at hnormal
        exact hnormal.symm
      have hv' := verifyPacket_resealed hstate hids hvalid hv
      rw [reconstructPacket_run hs now hv, Store.loggedNew_of_none now hdir] at hrun
      rw [reconstructPacket_run hs now hv', Store.loggedNew_of_none now hdir]
      dsimp only
      rw [EStateM.run_bind] at hrun ⊢
      cases haccept : (acceptAll (v.ordered.map Rec.toVal)).run s with
      | error e u =>
          rw [haccept] at hrun
          cases hrun
      | ok _ u =>
          rw [haccept] at hrun
          dsimp only at hrun ⊢
          rw [EStateM.run_bind] at hrun ⊢
          cases hsave : persistSnapshot.run u with
          | error e u' =>
              rw [hsave] at hrun
              cases hrun
          | ok _ u' =>
              rw [hsave] at hrun
              dsimp only at hrun ⊢
              rw [allowedReply, hpacket] at hrun
              cases hallowed : allowedPacket (.dict items) with
              | error e =>
                  rw [hallowed] at hrun
                  cases hrun
              | ok w =>
                  -- the context is as it was, so the forged packet can be marked as allowed
                  have hnormal : Normal (.dict items) :=
                    normal_of_normalize _ _ _ (normalize_of_validatePacket hvalid)
                  obtain ⟨context, d8, hcontext, hd8⟩ := context_of_allowedPacket hnormal hallowed
                  have hbasis := canonical_resealedBasis (canonical_basis hvalid)
                    (canonical_forgedVerification (.dict items) hstate hids)
                  obtain ⟨w', hw'⟩ := allowedPacket_of_context (canonical_resealed hbasis)
                    ((getItem_resealed (by decide) (by decide) _).trans hcontext) hd8
                  rw [allowedReply, resealed, hw']
                  exact ⟨_, _, rfl⟩

end Resealed

/-! ### A pair of records, delivered to an empty store -/

/-- The packet of the pair, as an empty store takes it. -/
theorem exists_honest_packet : ∃ (items : Items) (reply : PyVal) (t : Store),
    validatePacket (.dict items) = .ok (.dict items) ∧
      (reconstructPacket "" (.dict items)).run (.empty none) = .ok reply t := by
  obtain ⟨q, r, -, -, -, -, -, -, hvalues⟩ := pair_store
  have hpos : pair.store.values ≠ [] := by simp [hvalues]
  have hlen : pair.store.values.length ≤ maxPacketRecords := by
    rw [hvalues]
    simp [maxPacketRecords]
  have hA := reachable_pair.wf
  obtain ⟨hsel, hselected⟩ := selected_all hA hlen
  obtain ⟨slices, hslices, -⟩ := buildPacket_eq hA hsel hselected.held (lookupOf_falsy (v := .none) rfl)
  have hnone : (Store.empty none).held = ∅ :=
    Set.eq_empty_iff_forall_notMem.2 fun x hx => absurd ((AList.lookup_empty x.id).symm.trans hx) (by simp)
  obtain ⟨reply, t, hrun, -⟩ := deliver_all hA (Store.WF.empty none) hA (by rw [hnone, Set.empty_union]) hlen
    (sorted_ne_nil hpos) hslices
    (fun x _ hx => absurd ((deliveryOf_nil x).symm.trans hx) reference_ne_atom.symm) ""
  exact ⟨_, reply, t, validatePacket_packetDoc (hselected.valid hA) hselected.nodup (sorted_ne_nil hpos) hslices,
    hrun⟩

theorem bound_iff_copiesAgree_pair : ∃ packet reply b p state ids,
    ((Call.reconstruct packet).run "").run (.new (.empty none)) = .ok reply b ∧ normalize packet = .ok p ∧
      (BoundTo p state ids ↔ CopiesAgree p) := by
  obtain ⟨items, reply, t, -, hrun⟩ := exists_honest_packet
  obtain ⟨b, hb, -⟩ := call_reconstruct (b := .new (.empty none)) "" hrun
  obtain ⟨p, state, ids, hp, -, -, hiff⟩ := bound_iff_copiesAgree _ b reachable_empty "" _ reply hb
  exact ⟨_, reply, b, p, state, ids, hb, hp, hiff⟩

/-- The packet of the pair with an empty text for the state and the ids in its verification is allowed. -/
theorem copies_not_bound : ¬∀ (a b : SpacetimeADI), Reachable a → ∀ (now : String) (packet reply : PyVal),
    ((Call.reconstruct packet).run now).run a = .ok reply b → ∀ p state ids, normalize packet = .ok p →
      canonicalSha256 (reply.get "reconstructed_state") = .ok state →
      canonicalSha256 (idsOf (reply.get "reconstructed_state")) = .ok ids → BoundTo p state ids := by
  intro h
  obtain ⟨items, reply, t, hvalid, hrun⟩ := exists_honest_packet
  have hempty : Encodable [] := by simp
  obtain ⟨reply', t', hforged⟩ := forged_allowed (Store.WF.empty none) rfl hempty hempty hvalid hrun
  obtain ⟨b, hb, -⟩ := call_reconstruct (b := .new (.empty none)) "" hforged
  obtain ⟨p, state, ids, hp, hstate, hids, -⟩ := bound_iff_copiesAgree _ b reachable_empty "" _ reply' hb
  have hbound := h _ b reachable_empty "" _ reply' hb p state ids hp hstate hids
  rw [normalize_of_validatePacket (validatePacket_resealed hempty hempty hvalid), Except.ok.injEq] at hp
  subst hp
  have hcopy := hbound.verificationState
  rw [resealed_verification] at hcopy
  -- the copy is empty, and the hash is not
  have hnil : state = [] := by
    simpa [forgedVerification] using hcopy.symm
  obtain ⟨w, -, -, rfl⟩ := canonicalSha256_eq_ok_iff.1 hstate
  have htruthy := truthy_sha w
  rw [hnil] at htruthy
  exact absurd htruthy (by decide)

end Adi
