/-
**What a reconstruction does.**

A packet that passes verification yields a list of valid records with different ids, sorted by slot and
collision index.  From there on the reconstruction appends its event, when anything is new, accepts
the records and replaces the snapshot; nothing has been changed before.

Main results:

* `Adi.verifyPacket_ordered` — the records of a verified packet are valid and different;
* `Adi.reconstructPacket_run` — a reconstruction, as a function of what has been verified.
-/

import Wuchang.AdiAcceptance

set_option relaxedAutoImplicit false
set_option autoImplicit false

namespace Adi

open Py

/-! ### Entries and atoms -/

/-- The id of an entry. -/
def entryId (entry : PyVal) : PyStr := textOf (entry.get "id")

/-- The ids of entries that pass their checks are different. -/
theorem nodup_of_checkEntries (entries : List PyVal) :
    ∀ (i : ℕ) (seen : List PyStr) (u : Unit), checkEntries i seen entries = .ok u →
      (entries.map entryId).Nodup ∧ ∀ e ∈ entries, entryId e ∉ seen := by
  induction entries with
  | nil => simp
  | cons entry entries ih =>
      intro i seen u h
      simp only [checkEntries, bind_eq_ok_iff, holdIf_eq_ok_iff, requireId_eq_ok_iff] at h
      obtain ⟨_, -, recordId, ⟨hid, -⟩, _, -, known, -, _, -, _, hseen, hrest⟩ := h
      obtain ⟨hnodup, hnotin⟩ := ih _ _ _ hrest
      have hentry : entryId entry = recordId := by rw [entryId, hid]; rfl
      constructor
      · rw [List.map_cons, List.nodup_cons]
        refine ⟨fun hmem => ?_, hnodup⟩
        obtain ⟨e, he, heq⟩ := List.mem_map.1 hmem
        exact hnotin e he (by rw [heq, hentry]; simp)
      · rintro e he
        rcases List.mem_cons.1 he with rfl | he
        · rwa [hentry]
        · exact fun hmem => hnotin e he (by simp [hmem])

/-- The state atoms that are read are valid. -/
theorem valid_of_readAtoms (raws : List PyVal) :
    ∀ {atoms out : List Rec}, readAtoms atoms raws = .ok out → (∀ r ∈ atoms, r.Valid) →
      ∀ r ∈ out, r.Valid := by
  induction raws with
  | nil =>
      intro atoms out h hatoms
      obtain rfl := pure_eq_ok_iff.1 h
      exact hatoms
  | cons raw raws ih =>
      intro atoms out h hatoms
      simp only [readAtoms, bind_eq_ok_iff] at h
      obtain ⟨atom, hatom, _, -, hrest⟩ := h
      refine ih hrest fun r hr => ?_
      rcases List.mem_append.1 hr with hr | hr
      · exact hatoms r hr
      · rw [List.mem_singleton.1 hr]
        exact valid_of_validate hatom

/-- An entry is resolved to a record with its id, of the store or of the packet. -/
theorem resolveEntry_ok {s : Store} (hs : s.WF) {atoms : List Rec} {entry : PyVal}
    {p : Rec × List PyStr} (h : resolveEntry s atoms entry = .ok p) :
    p.1.id = entryId entry ∧ (s.Holds p.1 ∨ p.1 ∈ atoms) := by
  unfold resolveEntry at h
  dsimp only at h
  split at h
  · split at h
    · rename_i r hr
      split at h
      · obtain rfl := pure_eq_ok_iff.1 h
        obtain ⟨hid, -⟩ := hs.valid _ _ hr
        exact ⟨hid, .inl (by rwa [Store.Holds, hid])⟩
      · simp [hold] at h
    · simp [hold] at h
  · split at h
    · rename_i r hr
      split at h
      · obtain rfl := pure_eq_ok_iff.1 h
        exact ⟨by simpa [entryId] using List.find?_some hr, .inr (List.mem_of_find?_eq_some hr)⟩
      · simp [hold] at h
    · simp [hold] at h

theorem resolveEntries_ok {s : Store} (hs : s.WF) {atoms : List Rec} (entries : List PyVal) :
    ∀ {p : List Rec × List PyStr}, resolveEntries s atoms entries = .ok p →
      p.1.map Rec.id = entries.map entryId ∧ ∀ r ∈ p.1, s.Holds r ∨ r ∈ atoms := by
  induction entries with
  | nil =>
      intro p h
      obtain rfl := pure_eq_ok_iff.1 h
      simp
  | cons entry entries ih =>
      intro p h
      simp only [resolveEntries, bind_eq_ok_iff, pure_eq_ok_iff] at h
      obtain ⟨q, hq, qs, hqs, rfl⟩ := h
      obtain ⟨hid, hfrom⟩ := resolveEntry_ok hs hq
      obtain ⟨hids, hfroms⟩ := ih hqs
      exact ⟨by rw [List.map_cons, List.map_cons, hid, hids],
        List.forall_mem_cons.2 ⟨hfrom, hfroms⟩⟩

/-! ### Verified packets -/

/-- The hash of a packet that passes its checks is a text. -/
theorem validatePacket_sha {packet v : PyVal} (h : validatePacket packet = .ok v) :
    ∃ x, v.get "packet_sha256" = .str (Canonical.sha256 x) := by
  simp only [validatePacket, checkHeader, bind_eq_ok_iff, holdIf_eq_ok_iff, pure_eq_ok_iff,
    canonicalSha256_eq_ok_iff, not_not, PyVal.eq_str] at h
  obtain ⟨_, -, normalized, -, _, ⟨_, -, _, -, _, -, _, -, _, -, _, -, _, ⟨w, -, -, rfl⟩, hsha⟩, _, -,
    _, -, rfl⟩ := h
  exact ⟨w, hsha⟩

theorem validatePacket_entries {packet v : PyVal} (h : validatePacket packet = .ok v) :
    ((listOf ((v.get "reference_lookup").get "entries")).map entryId).Nodup := by
  simp only [validatePacket, checkReferences, bind_eq_ok_iff, pure_eq_ok_iff] at h
  obtain ⟨_, -, normalized, -, _, -, _, ⟨_, -, _, -, _, -, _, -, hentries⟩, _, -, rfl⟩ := h
  exact (nodup_of_checkEntries _ _ _ _ hentries).1

/-- The records of a verified packet are valid, and their ids are different. -/
theorem verifyPacket_ordered {s : Store} (hs : s.WF) {packet : PyVal} {v : Verified}
    (h : verifyPacket s packet = .ok v) :
    (∀ r ∈ v.ordered, r.Valid) ∧ (v.ordered.map Rec.id).Nodup ∧
      ∃ x, v.packet.get "packet_sha256" = .str (Canonical.sha256 x) := by
  simp only [verifyPacket, bind_eq_ok_iff, pure_eq_ok_iff] at h
  obtain ⟨packet', hpacket, atoms, hatoms, p, hp, _, -, state, -, bytes, -, ids, -, _, -, _, -, _, -, _,
    -, rfl⟩ := h
  obtain ⟨hids, hfrom⟩ := resolveEntries_ok hs _ hp
  have hvalid := valid_of_readAtoms _ hatoms (by simp)
  refine ⟨fun r hr => ?_, ?_, validatePacket_sha hpacket⟩
  · rcases hfrom r (mem_sortRecords.1 hr) with hheld | hatom
    · exact (hs.valid _ r hheld).2
    · exact hvalid r hatom
  · rw [((sortRecords_perm p.1).map Rec.id).nodup_iff, hids]
    exact validatePacket_entries hpacket

theorem normal_verifyPacket {s : Store} {packet : PyVal} {v : Verified}
    (h : verifyPacket s packet = .ok v) : Normal v.packet := by
  simp only [verifyPacket, validatePacket, bind_eq_ok_iff, pure_eq_ok_iff] at h
  obtain ⟨_, ⟨_, -, w, hw, _, -, _, -, _, -, rfl⟩, _, -, _, -, _, -, _, -, _, -, _, -, _, -, _, -, _, -,
    _, -, rfl⟩ := h
  exact normal_of_normalize _ _ _ hw

/-! ### Marking a packet as allowed -/

theorem foreign_at (v : PyVal) (k : String) : Foreign (v.at k : Except Fault PyVal) := by
  unfold PyVal.at
  split
  · split
    · exact .ok _
    · exact .builtin _
  · exact .builtin _

theorem normal_of_at {v w : PyVal} {k : String} (hv : Normal v)
    (h : (v.at k : Except Fault PyVal) = .ok w) : Normal w := by
  cases hv with
  | dict items _ _ hvals =>
      rw [PyVal.at] at h
      cases hget : getItem items (cp k) with
      | none => rw [hget] at h; simp at h
      | some u =>
          rw [hget] at h
          obtain rfl := Except.ok.inj h
          obtain ⟨p, hp, rfl⟩ := mem_of_getItem hget
          exact hvals p hp
  | _ => simp [PyVal.at] at h

theorem foreign_setItem (d : PyVal) (k : String) (v : PyVal) : Foreign (setItem d k v) := by
  unfold setItem
  split
  · exact .ok _
  · exact .builtin _

theorem normal_of_setItem {d v w : PyVal} {k : String} (hd : Normal d) (hk : CleanKey (cp k))
    (hv : Normal v) (h : setItem d k v = .ok w) : Normal w := by
  unfold setItem at h
  split at h
  · obtain rfl := Except.ok.inj h
    exact hd.setKey hk hv
  · simp at h

/-- A normal value is hashed, unless a text in it cannot be encoded. -/
theorem foreign_canonicalSha256 {v : PyVal} (hv : Normal v) : Foreign (canonicalSha256 v) := by
  rw [canonicalSha256, canonicalBytes, normalize, normalize_of_normal hv, ok_bind]
  refine .bind ?_ fun _ _ => .ok _
  unfold encodeUtf8
  split
  · exact .builtin _
  · exact .ok _

theorem foreign_packetHashBasis {packet : PyVal} (hp : Normal packet) :
    Foreign (packetHashBasis packet) := by
  unfold packetHashBasis
  split
  · rw [normalize, normalize_of_normal hp.eraseKey]
    exact .ok _
  · exact .builtin _

theorem normal_of_packetHashBasis {packet basis : PyVal} (h : packetHashBasis packet = .ok basis) :
    Normal basis := by
  unfold packetHashBasis at h
  split at h
  · exact normal_of_normalize _ _ _ h
  · simp at h

/-- After all checks, marking the packet as allowed is not refused any more. -/
theorem foreign_allowedPacket {packet : PyVal} (hp : Normal packet) :
    Foreign (allowedPacket packet) := by
  have hclean : ∀ k ∈ ["D8", "decision", "dynamic_context_8d", "total_field_decision"],
      CleanKey (cp k) := (literalKeys (by decide)).2
  have hallow : Normal (lit "ALLOW") := .str _
  rw [allowedPacket, normalize, normalize_of_normal hp, ok_bind]
  refine .bind (foreign_setItem _ _ _) fun decided h => ?_
  have hdecided := normal_of_setItem hp (hclean _ (by simp)) hallow h
  refine .bind (foreign_at _ _) fun context h => ?_
  have hcontext := normal_of_at hdecided h
  refine .bind (foreign_at _ _) fun d8 h => ?_
  have hd8 := normal_of_at hcontext h
  refine .bind (foreign_setItem _ _ _) fun d8' h => ?_
  have hd8' := normal_of_setItem hd8 (hclean _ (by simp)) hallow h
  refine .bind (foreign_setItem _ _ _) fun context' h => ?_
  have hcontext' := normal_of_setItem hcontext (hclean _ (by simp)) hd8' h
  refine .bind (foreign_setItem _ _ _) fun allowed h => ?_
  have hallowed := normal_of_setItem hdecided (hclean _ (by simp)) hcontext' h
  refine .bind (foreign_packetHashBasis hallowed) fun basis h => ?_
  refine .bind (foreign_canonicalSha256 (normal_of_packetHashBasis h)) fun sha _ => ?_
  exact foreign_setItem _ _ _

/-! ### The reconstruction -/

/-- The payload of the event of a reconstruction. -/
def reconstructPayload (s : Store) (v : Verified) : PyVal :=
  obj [("records", .list ((newlyAccepted s v.ordered).map Rec.toVal)),
    ("source_packet_sha256", v.packet.get "packet_sha256")]

/-- The store after the event of a reconstruction, if there is anything new. -/
def Store.loggedNew (s : Store) (now : String) (v : Verified) : Store :=
  if newlyAccepted s v.ordered = [] then s
  else s.logged now "RECONSTRUCT_ALLOW" (reconstructPayload s v)

theorem canonical_reconstructPayload {s : Store} {v : Verified} (hrs : ∀ r ∈ v.ordered, r.Valid)
    (hsha : ∃ x, v.packet.get "packet_sha256" = .str (Canonical.sha256 x)) :
    Canonical (reconstructPayload s v) := by
  obtain ⟨x, hx⟩ := hsha
  refine .obj ["records", "source_packet_sha256"] rfl (literalKeys (by decide)) ?_
  simp only [List.forall_mem_cons, List.not_mem_nil, false_implies, implies_true, and_true]
  exact ⟨canonical_records fun r hr => hrs r (List.mem_of_mem_filter hr), hx ▸ Canonical.hash x⟩

@[simp] theorem Store.loggedNew_records (s : Store) (now : String) (v : Verified) :
    (s.loggedNew now v).records = s.records := by
  unfold Store.loggedNew
  split_ifs
  · rfl
  · exact Store.logged_records s now _ _

@[simp] theorem Store.loggedNew_slots (s : Store) (now : String) (v : Verified) :
    (s.loggedNew now v).slots = s.slots := by
  unfold Store.loggedNew
  split_ifs
  · rfl
  · exact Store.logged_slots s now _ _

theorem appendReconstruction_run {s : Store} (hs : s.WF) (now : String) {v : Verified}
    (hrs : ∀ r ∈ v.ordered, r.Valid)
    (hsha : ∃ x, v.packet.get "packet_sha256" = .str (Canonical.sha256 x)) :
    (appendReconstruction now v).run s = .ok () (s.loggedNew now v) := by
  unfold appendReconstruction Store.loggedNew
  rw [EStateM.run_bind, EStateM.run_get]
  dsimp only
  split_ifs with h
  · rfl
  · exact appendEvent_run hs now _ (canonical_reconstructPayload hrs hsha)

theorem wf_loggedNew {s : Store} (hs : s.WF) (now : String) {v : Verified}
    (hrs : ∀ r ∈ v.ordered, r.Valid)
    (hsha : ∃ x, v.packet.get "packet_sha256" = .str (Canonical.sha256 x)) :
    (s.loggedNew now v).WF := by
  unfold Store.loggedNew
  split_ifs
  · exact hs
  · exact wf_logged hs now _ (canonical_reconstructPayload hrs hsha)

/-- What `reconstruct` returns for a verified packet, unless the packet cannot be marked as allowed. -/
def allowedReply (v : Verified) : Except Fault PyVal := do
  let allowed ← allowedPacket v.packet
  pure (reconstructed v allowed)

theorem foreign_allowedReply {s : Store} {packet : PyVal} {v : Verified}
    (h : verifyPacket s packet = .ok v) : Foreign (allowedReply v) :=
  .bind (foreign_allowedPacket (normal_verifyPacket h)) fun _ _ => .ok _

/-- A packet that is refused changes nothing. -/
theorem reconstructPacket_of_error {s : Store} (now : String) {packet : PyVal} {e : Fault}
    (h : verifyPacket s packet = .error e) :
    (reconstructPacket now packet).run s = .error e s := by
  unfold reconstructPacket
  rw [EStateM.run_bind, EStateM.run_get]
  dsimp only
  rw [h]
  rfl

/-- A verified packet: the event is appended, the records are accepted, the snapshot is replaced. -/
theorem reconstructPacket_run {s : Store} (hs : s.WF) (now : String) {packet : PyVal} {v : Verified}
    (h : verifyPacket s packet = .ok v) :
    (reconstructPacket now packet).run s =
      (do acceptAll (v.ordered.map Rec.toVal)
          persistSnapshot
          liftM (allowedReply v) : EStateM Fault Store PyVal).run (s.loggedNew now v) := by
  obtain ⟨hrs, -, hsha⟩ := verifyPacket_ordered hs h
  have hreply : (do let allowed ← (liftM (allowedPacket v.packet) : EStateM Fault Store PyVal)
                    pure (reconstructed v allowed)) = liftM (allowedReply v) := by
    unfold allowedReply
    cases allowedPacket v.packet <;> rfl
  unfold reconstructPacket
  rw [EStateM.run_bind, EStateM.run_get]
  dsimp only
  rw [h, EStateM.run_bind, run_lift_ok]
  dsimp only
  rw [EStateM.run_bind, appendReconstruction_run hs now hrs hsha]
  dsimp only
  rw [hreply]

end Adi
