/-
**What the methods of the store do.**

In a well-formed store the writes under the state directory always go through, but for the snapshot
of a store that holds too many records, and accepting a list of valid records goes through exactly
when every one of them is held already or is the next one of its slot.  So the effect of a method is
a function of the store, and this module says which.

Main definitions:

* `Adi.Store.logged`, `Adi.Store.saved` — the store after an event, and after a snapshot;
* `Adi.Store.addAll` — the store after a list of records was accepted;
* `Adi.SameContents` — two stores with the same records and buckets;
* `Adi.Fits` — the records of a list are held or next, one after another;
* `Adi.RefusedAtOnce` — the first record that is not held is refused and leaves no trace.

Main results:

* `Adi.appendEvent_run`, `Adi.persistSnapshot_of_room` — the writes;
* `Adi.acceptAll_of_fits`, `Adi.acceptAll_of_not_fits` — the loop over the records;
* `Adi.length_addAll` — how many records there are afterwards;
* `Adi.insertRecord_cases` — an insertion is refused, known, or new.
-/

import Wuchang.AdiInvariant

set_option relaxedAutoImplicit false
set_option autoImplicit false

namespace Adi

open Py

/-! ### Documents -/

/-- The state document of valid records. -/
def stateDoc (rs : List Rec) : PyVal :=
  obj [("protocol_version", protocolVersion), ("records", .list (rs.map Rec.toVal)),
    ("schema_version", stateSchemaVersion)]

theorem canonical_records {rs : List Rec} (h : ∀ r ∈ rs, r.Valid) :
    Canonical (.list (rs.map Rec.toVal)) := by
  refine .list fun v hv => ?_
  obtain ⟨r, hr, rfl⟩ := List.mem_map.1 hv
  exact (h r hr).canonical

theorem canonical_stateDoc {rs : List Rec} (h : ∀ r ∈ rs, r.Valid) : Canonical (stateDoc rs) := by
  refine .obj ["protocol_version", "records", "schema_version"] rfl (literalKeys (by decide)) ?_
  simp [canonical_records h, protocolVersion, stateSchemaVersion, Canonical.lit]

/-- The document of valid records lists them as they are. -/
theorem stateDocument_of_valid {rs : List Rec} (h : ∀ r ∈ rs, r.Valid) :
    stateDocument rs = .ok (stateDoc rs) := by
  have hmap : rs.mapM (fun r => normalize r.toVal) = .ok (rs.map Rec.toVal) := by
    induction rs with
    | nil => rfl
    | cons r rs ih =>
        rw [List.mapM_cons, (h r (by simp)).canonical.normalize, ok_bind,
          ih fun q hq => h q (by simp [hq])]
        rfl
  rw [stateDocument, hmap]
  rfl

theorem written_of_canonical {v : PyVal} (h : Canonical v) : written v = .ok v := by
  rw [written, h.normalize, ok_bind, encodeUtf8_ok h.encodable]
  rfl

theorem canonical_orNone {o : Option PyStr} (h : ∀ s, o = some s → Encodable s) :
    Canonical (orNone o) := by
  cases o with
  | none => exact .none
  | some s => exact .str (h s rfl)

/-! ### Events -/

/-- The event that is appended. -/
def eventDoc (s : Store) (now ty : String) (payload : PyVal) : PyVal :=
  .dict (setKey (cp "event_sha256")
    (.str (Canonical.sha256 (.dict (eventBasis s now ty payload)))) (eventBasis s now ty payload))

namespace Store

variable {s : Store}

theorem WF.canonical_eventBasis (h : s.WF) (now ty : String) {payload : PyVal}
    (hp : Canonical payload) : Canonical (.dict (eventBasis s now ty payload)) := by
  refine .obj ["event_type", "observed_at", "payload", "previous_event_sha256", "protocol_version",
    "schema_version", "sequence"] rfl (literalKeys (by decide)) ?_
  simp [Canonical.lit, Canonical.int, hp, canonical_orNone h.encodable_last, protocolVersion]

theorem WF.canonical_eventDoc (h : s.WF) (now ty : String) {payload : PyVal}
    (hp : Canonical payload) : Canonical (eventDoc s now ty payload) := by
  rw [eventDoc, eventBasis, setKey_fields]
  refine .obj ["event_sha256", "event_type", "observed_at", "payload", "previous_event_sha256",
    "protocol_version", "schema_version", "sequence"] ?_ (literalKeys (by decide)) ?_
  · simp +decide [setField]
  · simp +decide [setField, Canonical.lit, Canonical.int, hp, canonical_orNone h.encodable_last,
      protocolVersion, Canonical.hash]

/-- The store after an event was appended; a store without a state directory has no log. -/
def logged (s : Store) (now ty : String) (payload : PyVal) : Store :=
  match s.stateDir with
  | none => s
  | some ws => { s with
      stateDir := some (ws ++ [.event (eventDoc s now ty payload)])
      eventSequence := s.eventSequence + 1
      lastEventSha256 := some (Canonical.sha256 (.dict (eventBasis s now ty payload))) }

@[simp] theorem logged_records (s : Store) (now ty : String) (payload : PyVal) :
    (s.logged now ty payload).records = s.records := by
  unfold logged
  cases s.stateDir <;> rfl

@[simp] theorem logged_slots (s : Store) (now ty : String) (payload : PyVal) :
    (s.logged now ty payload).slots = s.slots := by
  unfold logged
  cases s.stateDir <;> rfl

end Store

/-- An event with a payload that can be hashed is appended. -/
theorem appendEvent_run {s : Store} (h : s.WF) (now ty : String) {payload : PyVal}
    (hp : Canonical payload) :
    (appendEvent now ty payload).run s = .ok () (s.logged now ty payload) := by
  unfold appendEvent Store.logged
  rw [EStateM.run_bind, EStateM.run_get]
  dsimp only
  cases s.stateDir with
  | none => rfl
  | some ws =>
      dsimp only
      have hdoc := written_of_canonical (h.canonical_eventDoc now ty hp)
      rw [hp.normalize, EStateM.run_bind, run_lift_ok]
      dsimp only
      rw [(h.canonical_eventBasis now ty hp).canonicalSha256, EStateM.run_bind, run_lift_ok]
      dsimp only
      rw [← eventDoc, hdoc, EStateM.run_bind, run_lift_ok]
      rfl

theorem wf_logged {s : Store} (h : s.WF) (now ty : String) {payload : PyVal}
    (hp : Canonical payload) : (s.logged now ty payload).WF := by
  have hrun := appendEvent_run h now ty hp
  have htame := (tame_appendEvent now ty payload s).wf h
  rwa [hrun] at htame

/-! ### Snapshots -/

namespace Store

variable {s : Store}

theorem mem_values (h : s.WF) {r : Rec} : r ∈ s.values ↔ s.Holds r := by
  simp only [values, List.mem_map, Sigma.exists, exists_eq_right]
  constructor
  · rintro ⟨id, hid⟩
    have hlookup : s.records.lookup id = some r := AList.mem_lookup_iff.2 hid
    obtain ⟨rfl, -⟩ := h.valid id r hlookup
    exact hlookup
  · intro hr
    exact ⟨r.id, AList.mem_lookup_iff.1 hr⟩

theorem valid_values (h : s.WF) : ∀ r ∈ s.values, r.Valid := by
  intro r hr
  exact (h.valid _ r ((mem_values h).1 hr)).2

/-- The records of a state document. -/
def sorted (s : Store) : List Rec := sortRecords s.values

theorem mem_sorted (h : s.WF) {r : Rec} : r ∈ s.sorted ↔ s.Holds r := by
  rw [sorted, mem_sortRecords, mem_values h]

theorem valid_sorted (h : s.WF) : ∀ r ∈ s.sorted, r.Valid := fun r hr =>
  valid_values h r (mem_sortRecords.1 hr)

/-- The snapshot that is written. -/
def snapshotDoc (s : Store) : PyVal :=
  .dict (setKey (cp "state_sha256") (.str (Canonical.sha256 (stateDoc s.sorted)))
    (snapshotBasis s (stateDoc s.sorted)))

theorem WF.canonical_snapshotDoc (h : s.WF) : Canonical s.snapshotDoc := by
  rw [snapshotDoc, snapshotBasis, setKey_fields]
  refine .obj ["event_sequence", "last_event_sha256", "protocol_version", "schema_version", "state",
    "state_sha256"] ?_ (literalKeys (by decide)) ?_
  · simp +decide [setField]
  · simp +decide [setField, Canonical.lit, Canonical.int, canonical_orNone h.encodable_last,
      protocolVersion, stateSchemaVersion, Canonical.hash, canonical_stateDoc (valid_sorted h)]

/-- The store after its snapshot was replaced. -/
def saved (s : Store) : Store :=
  match s.stateDir with
  | none => s
  | some ws => { s with stateDir := some (ws ++ [.snapshot s.snapshotDoc]) }

@[simp] theorem saved_records (s : Store) : s.saved.records = s.records := by
  unfold saved
  cases s.stateDir <;> rfl

@[simp] theorem saved_slots (s : Store) : s.saved.slots = s.slots := by
  unfold saved
  cases s.stateDir <;> rfl

/-- There is room for the records in a snapshot, if one is written. -/
def HasRoom (s : Store) : Prop := s.stateDir.isSome → s.values.length ≤ maxPacketRecords

end Store

/-- The error of a store with too many records for one document. -/
def limitExceeded : Fault := .own ⟨"PACKET_RECORD_LIMIT_EXCEEDED", root⟩

theorem selectedRecords_all {s : Store} :
    selectedRecords s .none = if s.values.length > maxPacketRecords then .error limitExceeded
      else .ok s.sorted := by
  unfold selectedRecords recordsFor
  dsimp only
  rw [pure_bind]
  by_cases h : s.values.length > maxPacketRecords
  · rw [holdIf_pos h, if_pos h]
    rfl
  · rw [holdIf_neg h, if_neg h]
    rfl

/-- A snapshot is written when there is room, and refused otherwise. -/
theorem persistSnapshot_of_room {s : Store} (h : s.WF) (hroom : s.HasRoom) :
    persistSnapshot.run s = .ok () s.saved := by
  unfold persistSnapshot Store.saved
  rw [EStateM.run_bind, EStateM.run_get]
  dsimp only
  cases hdir : s.stateDir with
  | none => rfl
  | some ws =>
      have hle : ¬s.values.length > maxPacketRecords := by
        have := hroom (by simp [hdir])
        omega
      have hvalid := Store.valid_sorted h
      dsimp only
      rw [exportState, selectedRecords_all, if_neg hle, ok_bind, stateDocument_of_valid hvalid,
        EStateM.run_bind, run_lift_ok]
      dsimp only
      rw [(canonical_stateDoc hvalid).canonicalSha256, EStateM.run_bind, run_lift_ok]
      dsimp only
      rw [← Store.snapshotDoc, written_of_canonical h.canonical_snapshotDoc, EStateM.run_bind,
        run_lift_ok]
      rfl

theorem persistSnapshot_of_no_room {s : Store} (hroom : ¬s.HasRoom) :
    persistSnapshot.run s = .error limitExceeded s := by
  simp only [Store.HasRoom, Classical.not_imp, not_le] at hroom
  obtain ⟨hdir, hgt⟩ := hroom
  obtain ⟨ws, hws⟩ := Option.isSome_iff_exists.1 hdir
  unfold persistSnapshot
  rw [EStateM.run_bind, EStateM.run_get]
  dsimp only
  rw [hws]
  dsimp only
  rw [exportState, selectedRecords_all, if_pos hgt, error_bind, EStateM.run_bind, run_lift_error]

theorem wf_saved {s : Store} (h : s.WF) : s.saved.WF := by
  unfold Store.saved
  cases s.stateDir with
  | none => exact h
  | some ws => exact h.of_eq rfl rfl h.encodable_last

/-! ### Accepting a list of records -/

/-- The records of the list are held already or the next ones of their slots, one after another. -/
def Fits (s : Store) : List Rec → Prop
  | [] => True
  | r :: rs =>
      match s.records.lookup r.id with
      | some e => e.toVal.eq r.toVal ∧ Fits s rs
      | none => r.collisionIndex = (s.bucket r.timeSlot).length ∧ Fits (s.add r) rs

/-- The first record of the list that is not held is refused, and without a trace: it contradicts a
record with the same id, or its slot has a bucket already. -/
def RefusedAtOnce (s : Store) : List Rec → Prop
  | [] => False
  | r :: rs =>
      match s.records.lookup r.id with
      | some e => e.toVal.eq r.toVal → RefusedAtOnce s rs
      | none => (s.slots.lookup r.timeSlot).isSome ∧
          r.collisionIndex ≠ (s.bucket r.timeSlot).length

namespace Store

/-- The store with a record, unless one with its id is there. -/
def addNew (s : Store) (r : Rec) : Store := if r.id ∈ s.records then s else s.add r

/-- The store with the records of a list. -/
def addAll (s : Store) (rs : List Rec) : Store := rs.foldl addNew s

theorem addNew_of_some {s : Store} {r e : Rec} (h : s.records.lookup r.id = some e) :
    s.addNew r = s := by
  rw [addNew, if_pos]
  rw [← AList.lookup_isSome, h]
  rfl

theorem addNew_of_none {s : Store} {r : Rec} (h : s.records.lookup r.id = none) :
    s.addNew r = s.add r := by
  rw [addNew, if_neg (AList.lookup_eq_none.1 h)]

end Store

/-- Records that fit are all accepted. -/
theorem acceptAll_of_fits {rs : List Rec} (hrs : ∀ r ∈ rs, r.Valid) :
    ∀ {s : Store}, Fits s rs → (acceptAll (rs.map Rec.toVal)).run s = .ok () (s.addAll rs) := by
  induction rs with
  | nil => exact fun _ => rfl
  | cons r rs ih =>
      intro s hfits
      have hvalid : ∀ q ∈ rs, q.Valid := fun q hq => hrs q (by simp [hq])
      rw [List.map_cons, acceptAll, EStateM.run_bind, acceptRecord_run (hrs r (by simp))]
      rw [Fits] at hfits
      cases hlookup : s.records.lookup r.id with
      | some e =>
          rw [hlookup] at hfits
          dsimp only at hfits ⊢
          rw [if_pos hfits.1]
          dsimp only
          rw [ih hvalid hfits.2, Store.addAll, Store.addAll, List.foldl_cons,
            Store.addNew_of_some hlookup]
      | none =>
          rw [hlookup] at hfits
          dsimp only at hfits ⊢
          rw [if_pos hfits.1]
          dsimp only
          rw [ih hvalid hfits.2, Store.addAll, Store.addAll, List.foldl_cons,
            Store.addNew_of_none hlookup]

/-- Records that do not fit are refused with an error of the core.  What was accepted before stays,
and so does the bucket that was made for the record that is refused: nothing has changed exactly when
the first record that is not held is refused at once. -/
theorem acceptAll_of_not_fits {rs : List Rec} (hrs : ∀ r ∈ rs, r.Valid) :
    ∀ {s : Store}, ¬Fits s rs → ∃ e t, (acceptAll (rs.map Rec.toVal)).run s = .error (.own e) t ∧
      (RefusedAtOnce s rs → t = s) ∧
      (¬RefusedAtOnce s rs → t.records ≠ s.records ∨ t.slots ≠ s.slots) := by
  induction rs with
  | nil => exact fun h => absurd trivial h
  | cons r rs ih =>
      intro s hfits
      have hvalid : ∀ q ∈ rs, q.Valid := fun q hq => hrs q (by simp [hq])
      have hr : r.Valid := hrs r (by simp)
      rw [List.map_cons, acceptAll, EStateM.run_bind, acceptRecord_run hr]
      rw [Fits] at hfits
      rw [RefusedAtOnce]
      cases hlookup : s.records.lookup r.id with
      | some e =>
          rw [hlookup] at hfits
          dsimp only at hfits ⊢
          by_cases heq : e.toVal.eq r.toVal
          · obtain ⟨err, t, hrun, hkeep, hchange⟩ := ih hvalid (s := s) fun h => hfits ⟨heq, h⟩
            rw [if_pos heq]
            exact ⟨err, t, hrun, fun h => hkeep (h heq), fun h => hchange fun h' => h fun _ => h'⟩
          · rw [if_neg heq]
            exact ⟨_, s, rfl, fun _ => rfl, fun h => absurd (fun h' => absurd h' heq) h⟩
      | none =>
          rw [hlookup] at hfits
          dsimp only at hfits ⊢
          by_cases hnext : r.collisionIndex = (s.bucket r.timeSlot).length
          · -- the record is accepted, so something has changed whatever comes after
            obtain ⟨err, t, hrun, -, -⟩ := ih hvalid (s := s.add r) fun h => hfits ⟨hnext, h⟩
            have hstays : t.records.lookup r.id = some r := by
              have hev := (tame_acceptAll (rs.map Rec.toVal) (s.add r)).keeps r.id r
                (s.add_lookup_self r)
              rwa [hrun] at hev
            rw [if_pos hnext]
            refine ⟨err, t, hrun, fun h => absurd hnext h.2, fun _ => .inl fun h => ?_⟩
            rw [h, hlookup] at hstays
            exact absurd hstays (by simp)
          · rw [if_neg hnext]
            refine ⟨_, s.touch r.timeSlot, rfl, fun h => ?_, fun h => .inr fun heq => ?_⟩
            · obtain ⟨b, hb⟩ := Option.isSome_iff_exists.1 h.1
              rw [Store.touch, hb]
            · have hnone : s.slots.lookup r.timeSlot = none := by
                rw [← Option.not_isSome_iff_eq_none]
                exact fun hsome => h ⟨hsome, hnext⟩
              have hsome : (s.touch r.timeSlot).slots.lookup r.timeSlot = some [] := by
                simp [Store.touch, hnone]
              rw [heq, hnone] at hsome
              exact absurd hsome (by simp)

/-- Accepting records that fit keeps the invariant and the records. -/
theorem evolves_addAll {rs : List Rec} (hrs : ∀ r ∈ rs, r.Valid) {s : Store} (hfits : Fits s rs) :
    Evolves s (s.addAll rs) := by
  have h := tame_acceptAll (rs.map Rec.toVal) s
  rwa [acceptAll_of_fits hrs hfits] at h

/-- The records and the buckets of two stores are the same. -/
structure SameContents (s t : Store) : Prop where
  records : ∀ id, t.records.lookup id = s.records.lookup id
  slots : ∀ slot, t.slots.lookup slot = s.slots.lookup slot

namespace SameContents

variable {s t : Store}

theorem refl (s : Store) : SameContents s s := ⟨fun _ => rfl, fun _ => rfl⟩

theorem of_eq (hrec : t.records = s.records) (hslots : t.slots = s.slots) : SameContents s t :=
  ⟨fun id => by rw [hrec], fun slot => by rw [hslots]⟩

theorem trans {u : Store} (hst : SameContents s t) (htu : SameContents t u) : SameContents s u :=
  ⟨fun id => (htu.records id).trans (hst.records id),
    fun slot => (htu.slots slot).trans (hst.slots slot)⟩

theorem bucket (h : SameContents s t) (slot : ℕ) : t.bucket slot = s.bucket slot := by
  rw [Store.bucket, Store.bucket, h.slots]

theorem add (h : SameContents s t) (r : Rec) : SameContents (s.add r) (t.add r) where
  records id := by
    by_cases hid : id = r.id
    · subst hid
      rw [Store.add_lookup_self, Store.add_lookup_self]
    · rw [Store.add_lookup_ne _ _ hid, Store.add_lookup_ne _ _ hid, h.records]
  slots slot := by
    rw [Store.add, Store.add, h.bucket]
    by_cases hslot : slot = r.timeSlot
    · subst hslot
      rw [AList.lookup_insert, AList.lookup_insert]
    · rw [AList.lookup_insert_ne hslot, AList.lookup_insert_ne hslot, h.slots]

theorem mem_iff (h : SameContents s t) (id : PyStr) : id ∈ t.records ↔ id ∈ s.records := by
  rw [← AList.lookup_isSome, ← AList.lookup_isSome, h.records]

theorem addNew (h : SameContents s t) (r : Rec) : SameContents (s.addNew r) (t.addNew r) := by
  rw [Store.addNew, Store.addNew]
  by_cases hmem : r.id ∈ s.records
  · rw [if_pos hmem, if_pos ((h.mem_iff r.id).2 hmem)]
    exact h
  · rw [if_neg hmem, if_neg fun h' => hmem ((h.mem_iff r.id).1 h')]
    exact h.add r

theorem addAll (rs : List Rec) : ∀ {s t : Store}, SameContents s t →
    SameContents (s.addAll rs) (t.addAll rs) := by
  induction rs with
  | nil => exact fun h => h
  | cons r rs ih => exact fun h => ih (h.addNew r)

end SameContents

/-- What is accepted depends on the records and the buckets only. -/
theorem fits_congr {rs : List Rec} : ∀ {s t : Store}, SameContents s t → (Fits t rs ↔ Fits s rs) := by
  induction rs with
  | nil => exact fun _ => Iff.rfl
  | cons r rs ih =>
      intro s t h
      rw [Fits, Fits, h.records, h.bucket]
      cases s.records.lookup r.id with
      | some e =>
          dsimp only
          rw [ih h]
      | none =>
          dsimp only
          rw [ih (h.add r)]

/-- What is refused at once does not fit. -/
theorem not_fits_of_refusedAtOnce {rs : List Rec} {s : Store} (h : RefusedAtOnce s rs) :
    ¬Fits s rs := by
  induction rs with
  | nil => exact h.elim
  | cons r rs ih =>
      rw [RefusedAtOnce] at h
      rw [Fits]
      cases hlookup : s.records.lookup r.id with
      | some e =>
          rw [hlookup] at h
          rintro ⟨heq, hfits⟩
          exact ih (h heq) hfits
      | none =>
          rw [hlookup] at h
          rintro ⟨hnext, -⟩
          exact h.2 hnext

/-- Nothing was written in between. -/
structure SameWrites (s t : Store) : Prop where
  stateDir : t.stateDir = s.stateDir
  eventSequence : t.eventSequence = s.eventSequence
  lastEventSha256 : t.lastEventSha256 = s.lastEventSha256

theorem SameWrites.refl (s : Store) : SameWrites s s := ⟨rfl, rfl, rfl⟩

theorem SameWrites.trans {s t u : Store} (hst : SameWrites s t) (htu : SameWrites t u) :
    SameWrites s u :=
  ⟨htu.stateDir.trans hst.stateDir, htu.eventSequence.trans hst.eventSequence,
    htu.lastEventSha256.trans hst.lastEventSha256⟩

theorem sameWrites_touch (s : Store) (slot : ℕ) : SameWrites s (s.touch slot) := by
  unfold Store.touch
  cases s.slots.lookup slot <;> exact ⟨rfl, rfl, rfl⟩

/-- Accepting records, whether it goes through or not, writes nothing. -/
theorem sameWrites_acceptRecord (v : PyVal) : Keeps SameWrites (acceptRecord v) := by
  intro s
  rcases acceptRecord_cases v s with ⟨e, h⟩ | ⟨r, hr, -, h⟩
  · rw [h]
    exact .refl s
  · rw [h, acceptRecord_run hr]
    cases s.records.lookup r.id with
    | some e =>
        dsimp only
        split_ifs
        · exact .refl s
        · exact .refl s
    | none =>
        dsimp only
        split_ifs
        · exact ⟨rfl, rfl, rfl⟩
        · exact sameWrites_touch s r.timeSlot

theorem sameWrites_acceptAll (vs : List PyVal) : Keeps SameWrites (acceptAll vs) := by
  induction vs with
  | nil => exact .pure .refl ()
  | cons v vs ih => exact .bind .trans (sameWrites_acceptRecord v) fun _ => ih

theorem sameWrites_addAll {rs : List Rec} (hrs : ∀ r ∈ rs, r.Valid) {s : Store} (hfits : Fits s rs) :
    SameWrites s (s.addAll rs) := by
  have h := sameWrites_acceptAll (rs.map Rec.toVal) s
  rwa [acceptAll_of_fits hrs hfits] at h

/-- How many records there are after a list of different ones was accepted. -/
theorem length_addAll {rs : List Rec} (hnodup : (rs.map Rec.id).Nodup) : ∀ s : Store,
    (s.addAll rs).values.length = s.values.length + (rs.filter fun r => r.id ∉ s.records).length := by
  induction rs with
  | nil => exact fun s => rfl
  | cons r rs ih =>
      intro s
      obtain ⟨hfirst, hrest⟩ := List.nodup_cons.1 hnodup
      rw [Store.addAll, List.foldl_cons, ← Store.addAll, ih hrest]
      by_cases hmem : r.id ∈ s.records
      · rw [Store.addNew, if_pos hmem, List.filter_cons_of_neg (by simpa using hmem)]
      · have hlength : (s.add r).values.length = s.values.length + 1 := by
          rw [Store.values, Store.add, AList.entries_insert_of_notMem hmem]
          simp [Store.values]
        have hothers : (rs.filter fun q => q.id ∉ (s.add r).records) =
            rs.filter fun q => q.id ∉ s.records := by
          refine List.filter_congr fun q hq => ?_
          have hne : q.id ≠ r.id := fun heq => hfirst (heq ▸ List.mem_map_of_mem hq)
          simp [Store.add, AList.mem_insert, hne]
        rw [Store.addNew, if_neg hmem, hlength, hothers,
          List.filter_cons_of_pos (by simpa using hmem), List.length_cons]
        omega

/-- Records that are all held leave the store as it is. -/
theorem addAll_of_held {rs : List Rec} {s : Store} (h : ∀ r ∈ rs, r.id ∈ s.records) :
    s.addAll rs = s := by
  induction rs with
  | nil => rfl
  | cons r rs ih =>
      rw [Store.addAll, List.foldl_cons, ← Store.addAll, Store.addNew, if_pos (h r (by simp))]
      exact ih fun q hq => h q (by simp [hq])

/-! ### An insertion -/

/-- The arguments make a record that is new to the store. -/
def NewRecord (s : Store) (recordId timeSlot payload : PyVal) (r : Rec) : Prop :=
  s.records.lookup r.id = none ∧
    buildRecord recordId timeSlot payload (s.bucket r.timeSlot).length = .ok r

/-- The payload of the event of an insertion. -/
def insertPayload (r : Rec) : PyVal := obj [("record", r.toVal)]

theorem canonical_insertPayload {r : Rec} (h : r.Valid) : Canonical (insertPayload r) :=
  .obj ["record"] rfl (literalKeys (by decide)) (by simp [h.canonical])

namespace NewRecord

variable {s : Store} {recordId timeSlot payload : PyVal} {r : Rec}

theorem valid (h : NewRecord s recordId timeSlot payload r) : r.Valid := valid_of_buildRecord h.2

theorem next (h : NewRecord s recordId timeSlot payload r) :
    r.collisionIndex = (s.bucket r.timeSlot).length := by
  obtain ⟨-, -, -, -, -, -, hindex, -, -⟩ := buildRecord_eq_ok_iff.1 h.2
  exact_mod_cast hindex.symm

end NewRecord

/-- An insertion is refused before anything is changed, or the record is there already, or it is new:
then the event is appended, the record is added, and the snapshot is replaced if there is room. -/
theorem insertRecord_cases {s : Store} (hs : s.WF) (now : String) (recordId timeSlot payload : PyVal) :
    ((∃ e, (insertRecord now recordId timeSlot payload).run s = .error e s) ∧
      ∀ r, ¬NewRecord s recordId timeSlot payload r) ∨
    (∃ r, (insertRecord now recordId timeSlot payload).run s = .ok r s ∧
      ∀ r, ¬NewRecord s recordId timeSlot payload r) ∨
    ∃ r, NewRecord s recordId timeSlot payload r ∧
      (insertRecord now recordId timeSlot payload).run s =
        (do persistSnapshot; pure r : EStateM Fault Store Rec).run
          ((s.logged now "INSERT" (insertPayload r)).add r) := by
  have hnew : ∀ r, NewRecord s recordId timeSlot payload r →
      recordId = .str r.id ∧ timeSlot = .int r.timeSlot := by
    intro r hr
    obtain ⟨hid, hslot, -⟩ := buildRecord_eq_ok_iff.1 hr.2
    exact ⟨hid.1, hslot.1⟩
  unfold insertRecord
  rw [EStateM.run_bind, EStateM.run_get]
  dsimp only
  rw [EStateM.run_bind]
  cases hid : requireId recordId (cp "$.id") with
  | error e =>
      refine .inl ⟨⟨e, rfl⟩, fun r hr => ?_⟩
      have hok : requireId recordId (cp "$.id") = .ok r.id :=
        requireId_eq_ok_iff.2 (buildRecord_eq_ok_iff.1 hr.2).1
      rw [hid] at hok
      exact absurd hok (by simp)
  | ok safeId =>
      obtain ⟨rfl, -⟩ := requireId_eq_ok_iff.1 hid
      rw [run_lift_ok]
      dsimp only
      rw [EStateM.run_bind]
      cases hslot : requireTimeSlot timeSlot (cp "$.time_slot") with
      | error e =>
          refine .inl ⟨⟨e, rfl⟩, fun r hr => ?_⟩
          have hok : requireTimeSlot timeSlot (cp "$.time_slot") = .ok r.timeSlot :=
            requireTimeSlot_eq_ok_iff.2 (buildRecord_eq_ok_iff.1 hr.2).2.1
          rw [hslot] at hok
          exact absurd hok (by simp)
      | ok safeSlot =>
          obtain ⟨rfl, -⟩ := requireTimeSlot_eq_ok_iff.1 hslot
          rw [run_lift_ok]
          dsimp only
          cases hlookup : s.records.lookup safeId with
          | some existing =>
              have hnone : ∀ r, ¬NewRecord s (.str safeId) (.int safeSlot) payload r := by
                intro r hr
                obtain ⟨hr', -⟩ := hnew r hr
                rw [PyVal.str.injEq] at hr'
                rw [hr', hr.1] at hlookup
                exact absurd hlookup (by simp)
              dsimp only
              cases hbuild : buildRecord (.str safeId) (.int safeSlot) payload
                  existing.collisionIndex with
              | error e => exact .inl ⟨⟨e, rfl⟩, hnone⟩
              | ok candidate =>
                  rw [EStateM.run_bind, run_lift_ok]
                  dsimp only
                  by_cases heq : candidate.toVal.eq existing.toVal
                  · rw [holdIf_neg (not_not.2 heq)]
                    exact .inr (.inl ⟨existing, rfl, hnone⟩)
                  · rw [holdIf_pos heq]
                    exact .inl ⟨⟨_, rfl⟩, hnone⟩
          | none =>
              dsimp only
              cases hbuild : buildRecord (.str safeId) (.int safeSlot) payload
                  (s.bucket safeSlot).length with
              | error e =>
                  refine .inl ⟨⟨e, rfl⟩, fun r hr => ?_⟩
                  obtain ⟨-, hr'⟩ := hnew r hr
                  rw [PyVal.int.injEq, Nat.cast_inj] at hr'
                  have hok := hr.2
                  rw [← hr', hbuild] at hok
                  exact absurd hok (by simp)
              | ok r =>
                  obtain ⟨⟨hrid, -⟩, ⟨hrslot, -⟩, -⟩ := buildRecord_eq_ok_iff.1 hbuild
                  rw [PyVal.str.injEq] at hrid
                  rw [PyVal.int.injEq, Nat.cast_inj] at hrslot
                  subst hrid hrslot
                  have hr : NewRecord s (.str r.id) (.int r.timeSlot) payload r := ⟨hlookup, hbuild⟩
                  refine .inr (.inr ⟨r, hr, ?_⟩)
                  have hnext : r.collisionIndex =
                      ((s.logged now "INSERT" (insertPayload r)).bucket r.timeSlot).length := by
                    rw [hr.next, Store.bucket, Store.bucket, Store.logged_slots]
                  rw [EStateM.run_bind, run_lift_ok]
                  dsimp only
                  rw [EStateM.run_bind, ← insertPayload,
                    appendEvent_run hs now "INSERT" (canonical_insertPayload hr.valid)]
                  dsimp only
                  rw [EStateM.run_bind, acceptRecord_run hr.valid, Store.logged_records, hlookup]
                  dsimp only
                  rw [if_pos hnext]

end Adi
