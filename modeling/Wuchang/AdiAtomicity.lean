/-
**What a refused call leaves behind.**

The service reports a call that raises an error of the core as one without side effects.  A call that
is refused by its checks has none, but an insertion can still fail when its snapshot is written, and a
reconstruction when its records are accepted one by one: then the event is in the log, records that
came before the one that is refused are in the store, and a slot can have got an empty bucket.  This
module says for which calls that cannot happen.

Main definitions:

* `Adi.Unchanged` — the records, the buckets, and the log are as they were;
* `Adi.Carries` — the records of a packet that passes its checks;
* `Adi.Harmless` — the calls whose failures leave nothing behind.

Main results:

* `Adi.insertRecord_leavesNothing_iff`, `Adi.reconstructPacket_leavesNothing_iff` — the two methods;
* `Adi.refused_unchanged_iff` — a refused call changes nothing exactly when it is harmless.
-/

import Wuchang.AdiReplication

set_option relaxedAutoImplicit false
set_option autoImplicit false

namespace Adi

open Py

variable {α : Type}

/-! ### Changes -/

/-- Everything but the request counters and the snapshot file is as it was. -/
structure Unchanged (s t : Store) : Prop where
  records : t.records = s.records
  slots : t.slots = s.slots
  log : t.stateDir.map eventsOf = s.stateDir.map eventsOf
  eventSequence : t.eventSequence = s.eventSequence
  lastEventSha256 : t.lastEventSha256 = s.lastEventSha256

theorem Unchanged.refl (s : Store) : Unchanged s s := ⟨rfl, rfl, rfl, rfl, rfl⟩

/-- Whenever the method raises an error of the core, everything is as it was. -/
def LeavesNothing (s : Store) (x : EStateM Fault Store α) : Prop :=
  ∀ e t, x.run s = .error (.own e) t → Unchanged s t

theorem leavesNothing_of_ok {s t : Store} {x : EStateM Fault Store α} {a : α}
    (h : x.run s = .ok a t) : LeavesNothing s x := by
  intro e t' ht
  rw [h] at ht
  exact absurd ht (by simp)

/-- A method that raises an error of the core leaves nothing when the store is as it was. -/
theorem leavesNothing_iff_of_error {s t : Store} {x : EStateM Fault Store α} {e : ADIError}
    (h : x.run s = .error (.own e) t) : LeavesNothing s x ↔ Unchanged s t := by
  constructor
  · exact fun hx => hx e t h
  · intro ht e' t' h'
    rw [h] at h'
    rwa [← (EStateM.Result.error.inj h').2]

theorem leavesNothing_of_error {s : Store} {x : EStateM Fault Store α} {e : Fault}
    (h : x.run s = .error e s) : LeavesNothing s x := by
  intro e' t h'
  rw [h] at h'
  rw [← (EStateM.Result.error.inj h').2]
  exact .refl s

/-! ### Harmless calls -/

/-- The packet passes all checks that are made before anything is changed, and these are its records,
in the order in which they are accepted. -/
def Carries (s : Store) (packet : PyVal) (rs : List Rec) : Prop :=
  ∃ v, verifyPacket s packet = .ok v ∧ v.ordered = rs

/-- A snapshot has room for that many more records, if one is written. -/
def RoomFor (s : Store) (n : ℕ) : Prop :=
  s.stateDir.isSome → s.values.length + n ≤ maxPacketRecords

/-- The call cannot fail after it has changed anything. -/
def Harmless (s : Store) : Call → Prop
  | .insert recordId timeSlot payload => ∀ r, NewRecord s recordId timeSlot payload r → RoomFor s 1
  | .reconstruct packet => ∀ rs, Carries s packet rs →
      (Fits s rs ∧ (newlyAccepted s rs ≠ [] → RoomFor s (newlyAccepted s rs).length)) ∨
        (RefusedAtOnce s rs ∧ (s.stateDir.isSome → newlyAccepted s rs = []))
  | _ => True

theorem not_unchanged_of_records {s t : Store} {r : Rec} (hr : t.Holds r)
    (hnew : s.records.lookup r.id = none) : ¬Unchanged s t := by
  intro h
  rw [Store.Holds, h.records, hnew] at hr
  exact absurd hr (by simp)

/-! ### Insertions -/

theorem length_values_add {s : Store} {r : Rec} (h : s.records.lookup r.id = none) :
    (s.add r).values.length = s.values.length + 1 := by
  rw [Store.values, Store.add, AList.entries_insert_of_notMem (AList.lookup_eq_none.1 h)]
  simp [Store.values]

@[simp] theorem Store.logged_isSome (s : Store) (now ty : String) (payload : PyVal) :
    (s.logged now ty payload).stateDir.isSome = s.stateDir.isSome := by
  unfold Store.logged
  cases h : s.stateDir <;> simp [h]

/-- After a new record there is room in the snapshot exactly when there was room for one more. -/
theorem hasRoom_insert_iff {s : Store} (now : String) {r : Rec} (h : s.records.lookup r.id = none) :
    ((s.logged now "INSERT" (insertPayload r)).add r).HasRoom ↔ RoomFor s 1 := by
  have hlength : ((s.logged now "INSERT" (insertPayload r)).add r).values.length =
      s.values.length + 1 := by
    rw [length_values_add (by rwa [Store.logged_records]), Store.values, Store.logged_records]
    rfl
  have hdir : ((s.logged now "INSERT" (insertPayload r)).add r).stateDir.isSome =
      s.stateDir.isSome := s.logged_isSome _ _ _
  rw [Store.HasRoom, hlength, hdir]
  rfl

theorem wf_insert {s : Store} (hs : s.WF) (now : String) {recordId timeSlot payload : PyVal} {r : Rec}
    (hr : NewRecord s recordId timeSlot payload r) :
    ((s.logged now "INSERT" (insertPayload r)).add r).WF := by
  refine (wf_logged hs now "INSERT" (canonical_insertPayload hr.valid)).add hr.valid ?_ ?_
  · rw [Store.logged_records]
    exact hr.1
  · rw [hr.next, Store.bucket, Store.bucket, Store.logged_slots]

/-- A new record is inserted when there is room for it. -/
theorem insertRecord_of_new {s : Store} (hs : s.WF) (now : String)
    {recordId timeSlot payload : PyVal} {r : Rec} (hr : NewRecord s recordId timeSlot payload r)
    (hroom : RoomFor s 1) : ∃ q t, (insertRecord now recordId timeSlot payload).run s = .ok q t := by
  rcases insertRecord_cases hs now recordId timeSlot payload with
    ⟨-, hno⟩ | ⟨_, -, hno⟩ | ⟨q, hq, hrun⟩
  · exact absurd hr (hno r)
  · exact absurd hr (hno r)
  · refine ⟨q, ((s.logged now "INSERT" (insertPayload q)).add q).saved, ?_⟩
    rw [hrun, EStateM.run_bind,
      persistSnapshot_of_room (wf_insert hs now hq) ((hasRoom_insert_iff now hq.1).2 hroom)]
    rfl

theorem insertRecord_leavesNothing_iff {s : Store} (hs : s.WF) (now : String)
    (recordId timeSlot payload : PyVal) :
    LeavesNothing s (insertRecord now recordId timeSlot payload) ↔
      ∀ r, NewRecord s recordId timeSlot payload r → RoomFor s 1 := by
  rcases insertRecord_cases hs now recordId timeSlot payload with
    ⟨⟨e, hrun⟩, hno⟩ | ⟨r, hrun, hno⟩ | ⟨r, hr, hrun⟩
  · exact iff_of_true (leavesNothing_of_error hrun) fun r hr => absurd hr (hno r)
  · exact iff_of_true (leavesNothing_of_ok hrun) fun r hr => absurd hr (hno r)
  · by_cases hroom : RoomFor s 1
    · obtain ⟨q, t, hok⟩ := insertRecord_of_new hs now hr hroom
      exact iff_of_true (leavesNothing_of_ok hok) fun _ _ => hroom
    · have herror : (insertRecord now recordId timeSlot payload).run s =
          .error limitExceeded ((s.logged now "INSERT" (insertPayload r)).add r) := by
        rw [hrun, EStateM.run_bind,
          persistSnapshot_of_no_room fun h => hroom ((hasRoom_insert_iff now hr.1).1 h)]
      rw [leavesNothing_iff_of_error herror]
      exact iff_of_false (not_unchanged_of_records (Store.add_lookup_self _ r) hr.1)
        fun h => hroom (h r hr)

/-! ### Reconstructions -/

section Reconstruct

variable {s : Store} {v : Verified}

theorem Store.loggedNew_of_nil (now : String) (h : newlyAccepted s v.ordered = []) :
    s.loggedNew now v = s := if_pos h

/-- A store in memory has no log. -/
theorem Store.loggedNew_of_none (now : String) (h : s.stateDir = none) : s.loggedNew now v = s := by
  unfold Store.loggedNew Store.logged
  rw [h]
  split_ifs <;> rfl

@[simp] theorem Store.loggedNew_isSome (now : String) :
    (s.loggedNew now v).stateDir.isSome = s.stateDir.isSome := by
  unfold Store.loggedNew
  split_ifs
  · rfl
  · exact s.logged_isSome _ _ _

/-- With a state directory, the event of anything new is counted. -/
theorem Store.eventSequence_loggedNew (now : String) (hdir : s.stateDir.isSome)
    (hnew : newlyAccepted s v.ordered ≠ []) :
    (s.loggedNew now v).eventSequence = s.eventSequence + 1 := by
  obtain ⟨ws, hws⟩ := Option.isSome_iff_exists.1 hdir
  rw [Store.loggedNew, if_neg hnew, Store.logged, hws]

/-- Nothing is logged unless something is new and there is a log. -/
theorem Store.loggedNew_eq_self (now : String)
    (h : s.stateDir.isSome → newlyAccepted s v.ordered = []) : s.loggedNew now v = s := by
  cases hdir : s.stateDir with
  | none => exact Store.loggedNew_of_none now hdir
  | some ws => exact Store.loggedNew_of_nil now (h (by simp [hdir]))

theorem mem_of_newlyAccepted_nil (h : newlyAccepted s v.ordered = []) :
    ∀ r ∈ v.ordered, r.id ∈ s.records := by
  intro r hr
  by_contra hnot
  have hmem : r ∈ newlyAccepted s v.ordered := List.mem_filter.2 ⟨hr, by simpa using hnot⟩
  rw [h] at hmem
  exact absurd hmem (by simp)

/-- After the records of a packet there is room in the snapshot exactly when there was room for those
that are new. -/
theorem hasRoom_addAll_iff (now : String) (hvalid : ∀ r ∈ v.ordered, r.Valid)
    (hnodup : (v.ordered.map Rec.id).Nodup) (hfits : Fits (s.loggedNew now v) v.ordered) :
    ((s.loggedNew now v).addAll v.ordered).HasRoom ↔
      RoomFor s (newlyAccepted s v.ordered).length := by
  rw [Store.HasRoom, (sameWrites_addAll hvalid hfits).stateDir, Store.loggedNew_isSome,
    length_addAll hnodup, Store.values, Store.loggedNew_records]
  rfl

/-- Records that fit: what is left of the reconstruction can be refused for want of room only. -/
theorem reconstruct_of_fits {packet : PyVal} (hs : s.WF) (now : String)
    (hv : verifyPacket s packet = .ok v) (hfits : Fits s v.ordered) :
    LeavesNothing s (reconstructPacket now packet) ↔
      (newlyAccepted s v.ordered ≠ [] → RoomFor s (newlyAccepted s v.ordered).length) := by
  obtain ⟨hvalid, hnodup, hsha⟩ := verifyPacket_ordered hs hv
  have hfits' : Fits (s.loggedNew now v) v.ordered := (fits_congr (.of_eq (by simp) (by simp))).2 hfits
  have hwf := (evolves_addAll hvalid hfits').wf (wf_loggedNew hs now hvalid hsha)
  by_cases hroom : RoomFor s (newlyAccepted s v.ordered).length
  · refine iff_of_true (fun e t hrun => ?_) fun _ => hroom
    rw [reconstructPacket_run hs now hv, EStateM.run_bind, acceptAll_of_fits hvalid hfits'] at hrun
    dsimp only at hrun
    rw [EStateM.run_bind,
      persistSnapshot_of_room hwf ((hasRoom_addAll_iff now hvalid hnodup hfits').2 hroom)] at hrun
    dsimp only at hrun
    cases hreply : allowedReply v with
    | ok reply => rw [hreply] at hrun; exact absurd hrun (by simp)
    | error f =>
        rw [hreply, run_lift_error, EStateM.Result.error.injEq] at hrun
        exact absurd (hrun.1 ▸ hreply) (foreign_allowedReply hv e)
  · have herror : (reconstructPacket now packet).run s =
        .error limitExceeded ((s.loggedNew now v).addAll v.ordered) := by
      rw [reconstructPacket_run hs now hv, EStateM.run_bind, acceptAll_of_fits hvalid hfits']
      dsimp only
      rw [EStateM.run_bind,
        persistSnapshot_of_no_room fun h => hroom ((hasRoom_addAll_iff now hvalid hnodup hfits').1 h)]
    rw [leavesNothing_iff_of_error herror]
    by_cases hnew : newlyAccepted s v.ordered = []
    · refine iff_of_true ?_ fun h => absurd hnew h
      rw [Store.loggedNew_of_nil now hnew, addAll_of_held (mem_of_newlyAccepted_nil hnew)]
      exact .refl s
    · have hdir : s.stateDir.isSome := by
        by_contra hnone
        exact hroom fun h => absurd h hnone
      refine iff_of_false (fun h => ?_) fun h => hroom (h hnew)
      have hsequence := h.eventSequence
      rw [(sameWrites_addAll hvalid hfits').eventSequence,
        Store.eventSequence_loggedNew now hdir hnew] at hsequence
      omega

/-- Records that do not fit: the reconstruction is refused. -/
theorem reconstruct_of_not_fits {packet : PyVal} (hs : s.WF) (now : String)
    (hv : verifyPacket s packet = .ok v) (hfits : ¬Fits s v.ordered) :
    LeavesNothing s (reconstructPacket now packet) ↔
      RefusedAtOnce s v.ordered ∧ (s.stateDir.isSome → newlyAccepted s v.ordered = []) := by
  obtain ⟨hvalid, -, -⟩ := verifyPacket_ordered hs hv
  have hfits' : ¬Fits (s.loggedNew now v) v.ordered :=
    fun h => hfits ((fits_congr (.of_eq (by simp) (by simp))).1 h)
  obtain ⟨e, t, haccept, hkeep, hchange⟩ := acceptAll_of_not_fits hvalid hfits'
  have herror : (reconstructPacket now packet).run s = .error (.own e) t := by
    rw [reconstructPacket_run hs now hv, EStateM.run_bind, haccept]
  rw [leavesNothing_iff_of_error herror]
  by_cases hlog : s.stateDir.isSome → newlyAccepted s v.ordered = []
  · rw [Store.loggedNew_eq_self now hlog] at hkeep hchange
    constructor
    · intro h
      refine ⟨?_, hlog⟩
      by_contra hnot
      exact (hchange hnot).elim (fun hne => hne h.records) fun hne => hne h.slots
    · rintro ⟨hrefused, -⟩
      rw [hkeep hrefused]
      exact .refl s
  · refine iff_of_false (fun h => ?_) fun h => hlog h.2
    obtain ⟨hdir, hnew⟩ := Classical.not_imp.1 hlog
    have hwrites := (sameWrites_acceptAll (v.ordered.map Rec.toVal) (s.loggedNew now v)).eventSequence
    rw [haccept, after_error, Store.eventSequence_loggedNew now hdir hnew, h.eventSequence] at hwrites
    omega

theorem reconstructPacket_leavesNothing_iff (hs : s.WF) (now : String) (packet : PyVal) :
    LeavesNothing s (reconstructPacket now packet) ↔ ∀ rs, Carries s packet rs →
      (Fits s rs ∧ (newlyAccepted s rs ≠ [] → RoomFor s (newlyAccepted s rs).length)) ∨
        (RefusedAtOnce s rs ∧ (s.stateDir.isSome → newlyAccepted s rs = [])) := by
  cases hv : verifyPacket s packet with
  | error e =>
      refine iff_of_true (leavesNothing_of_error (reconstructPacket_of_error now hv)) ?_
      rintro rs ⟨v, hv', -⟩
      rw [hv] at hv'
      exact absurd hv' (by simp)
  | ok v =>
      have hcarries : ∀ rs, Carries s packet rs ↔ v.ordered = rs := by
        intro rs
        rw [Carries, hv]
        simp
      simp only [hcarries, forall_eq']
      by_cases hfits : Fits s v.ordered
      · rw [reconstruct_of_fits hs now hv hfits]
        constructor
        · exact fun h => .inl ⟨hfits, h⟩
        · rintro (⟨-, h⟩ | ⟨hrefused, -⟩)
          · exact h
          · exact absurd hfits (not_fits_of_refusedAtOnce hrefused)
      · rw [reconstruct_of_not_fits hs now hv hfits]
        constructor
        · exact .inr
        · rintro (⟨h, -⟩ | h)
          · exact absurd h hfits
          · exact h

end Reconstruct

/-! ### Calls -/

/-- A call is refused with what its method leaves. -/
theorem counted_leavesNothing_iff {a : SpacetimeADI} {body : EStateM Fault Store α}
    (count : Metrics → Metrics) :
    (∀ e b, (SpacetimeADI.counted count body).run a = .error (.own e) b →
      Unchanged a.store b.store) ↔ LeavesNothing a.store body := by
  constructor
  · intro h e t hrun
    exact h e ⟨t, SpacetimeADI.countRejection (count a.metrics) (.own e)⟩
      (by rw [SpacetimeADI.counted_run, hrun])
  · intro h e b hrun
    rw [SpacetimeADI.counted_run] at hrun
    cases hbody : body.run a.store with
    | ok x t => rw [hbody] at hrun; exact absurd hrun (by simp)
    | error f t =>
        rw [hbody, EStateM.Result.error.injEq] at hrun
        obtain ⟨rfl, rfl⟩ := hrun
        exact h e t hbody

theorem bind_pure_error_iff {β γ ε σ : Type} {x : EStateM ε σ β} {f : β → γ} {s t : σ} {e : ε} :
    (x >>= fun v => pure (f v)).run s = .error e t ↔ x.run s = .error e t := by
  rw [EStateM.run_bind]
  cases x.run s <;> simp

theorem leavesNothing_reading (s : Store) (f : Store → Except Fault α) :
    LeavesNothing s (SpacetimeADI.reading f) := by
  have hrun : (SpacetimeADI.reading f).run s = (liftM (f s) : EStateM Fault Store α).run s := rfl
  cases h : f s with
  | ok v =>
      rw [h] at hrun
      exact leavesNothing_of_ok hrun
  | error e =>
      rw [h] at hrun
      exact leavesNothing_of_error hrun

/-- A refused call of a well-formed object changes nothing exactly when it is harmless. -/
theorem call_leavesNothing_iff {a : SpacetimeADI} (ha : a.store.WF) (now : String) (c : Call) :
    (∀ e b, (c.run now).run a = .error (.own e) b → Unchanged a.store b.store) ↔
      Harmless a.store c := by
  cases c with
  | insert recordId timeSlot payload =>
      simp only [Call.run, bind_pure_error_iff, SpacetimeADI.insert]
      rw [counted_leavesNothing_iff]
      exact insertRecord_leavesNothing_iff ha now recordId timeSlot payload
  | search startSlot endSlot limit =>
      simp only [Call.run, bind_pure_error_iff, SpacetimeADI.search]
      rw [counted_leavesNothing_iff]
      exact iff_of_true (leavesNothing_reading _ _) trivial
  | packet ids receiverLookup =>
      simp only [Call.run, SpacetimeADI.packet]
      rw [counted_leavesNothing_iff]
      exact iff_of_true (leavesNothing_reading _ _) trivial
  | exportState ids =>
      refine iff_of_true (fun e b hrun => ?_) trivial
      have hafter : after (((Call.exportState ids).run now).run a) = a := by
        unfold Call.run
        rw [EStateM.run_bind, EStateM.run_get]
        dsimp only
        cases exportState a.store ids <;> rfl
      rw [hrun, after_error] at hafter
      rw [hafter]
      exact .refl _
  | reconstruct packet =>
      simp only [Call.run, SpacetimeADI.reconstruct]
      rw [counted_leavesNothing_iff]
      exact reconstructPacket_leavesNothing_iff ha now packet

/-- **Refused calls.**  At every moment of a run, a call that is refused with an error of the core
leaves the records, the buckets, the log, and the chain of events as they were exactly when it is
harmless. -/
theorem refused_unchanged_iff (a : SpacetimeADI) (h : Reachable a) (now : String) (c : Call) :
    (∀ e b, (c.run now).run a = .error (.own e) b → Unchanged a.store b.store) ↔
      Harmless a.store c :=
  call_leavesNothing_iff h.wf now c

/-- An insertion that contradicts a record changes nothing. -/
theorem refused_unchanged_pair : Harmless pair.store (.insert (lit "b") (.int 1) (obj [])) ∧
    ∀ e b, ((Call.insert (lit "b") (.int 1) (obj [])).run "").run pair = .error (.own e) b →
      Unchanged pair.store b.store := by
  have hmemory : pair.store.stateDir = none := by
    obtain ⟨q, r, -, -, -, hdir, -⟩ := pair_store
    exact hdir
  have hharmless : Harmless pair.store (.insert (lit "b") (.int 1) (obj [])) := by
    intro r _ hdir
    rw [hmemory] at hdir
    exact absurd hdir (by simp)
  exact ⟨hharmless, (refused_unchanged_iff pair reachable_pair "" _).2 hharmless⟩

/-- The packet of the second record of a slot alone. -/
theorem exists_gap_packet : ∃ (p : PyVal) (r : Rec), r.collisionIndex ≠ 0 ∧
    (∃ a, ((Call.packet (.list [lit "b"]) .none).run "").run pair = .ok p a) ∧
    ∀ B : Store, B.WF → B.values = [] → Carries B p [r] := by
  obtain ⟨q, r, hqid, hrid, hlt, -, hq, hr, -⟩ := pair_store
  have hmem : ∀ id ∈ [cp "b"], id ∈ pair.store.records := by
    intro id hid
    rw [← AList.lookup_isSome, List.mem_singleton.1 hid, ← hrid, hr]
    rfl
  obtain ⟨rs, hselect, hsel, hrs⟩ := selected_ids reachable_pair.wf (by simp) hmem (by decide)
  have heq : ∀ x ∈ rs, x = r := fun x hx =>
    ((hrs x).1 hx).1.eq_of_id hr (by rw [hrid]; simpa using ((hrs x).1 hx).2)
  have hrrs : r ∈ rs := (hrs r).2 ⟨hr, by simp [hrid]⟩
  obtain rfl : rs = [r] := by
    have hlen : rs.length ≤ 1 := by
      have hnodup := hsel.nodup.of_map
      rw [List.eq_replicate_of_mem heq] at hnodup
      exact List.nodup_replicate.1 hnodup
    obtain ⟨x, rfl⟩ := List.length_eq_one_iff.1 (le_antisymm hlen (List.length_pos_of_mem hrrs))
    rw [heq x (by simp)]
  obtain ⟨slices, hslices, hbuild⟩ := buildPacket_eq reachable_pair.wf hselect hsel.held
    (lookupOf_falsy (v := .none) rfl)
  obtain ⟨a, ha, -⟩ := call_packet "" hbuild
  refine ⟨_, r, ?_, ⟨a, ha⟩, fun B hB _ => ⟨_, verifyPacket_packetDoc (hsel.valid reachable_pair.wf)
    hsel.nodup (by simp) hsel.sorted hslices
    fun x _ hx => absurd ((deliveryOf_nil x).symm.trans hx) reference_ne_atom.symm, rfl⟩⟩
  have hlt := hlt.2
  omega

/-- It is refused by an empty store, which has a bucket for the slot afterwards. -/
theorem refused_changed :
    ¬∀ (a : SpacetimeADI), Reachable a → ∀ (now : String) (c : Call) (e : ADIError) (b : SpacetimeADI),
      (c.run now).run a = .error (.own e) b → Unchanged a.store b.store := by
  intro h
  obtain ⟨p, r, hindex, -, hcarries⟩ := exists_gap_packet
  have hharmless := (call_leavesNothing_iff reachable_empty.wf "" (.reconstruct p)).1
    (h _ reachable_empty "" _)
  have hnone : (SpacetimeADI.new (.empty none)).store.records.lookup r.id = none :=
    AList.lookup_empty _
  rcases hharmless [r] (hcarries _ (.empty _) rfl) with ⟨hfits, -⟩ | ⟨hrefused, -⟩
  · rw [Fits, hnone] at hfits
    exact hindex hfits.1
  · rw [RefusedAtOnce, hnone] at hrefused
    exact absurd hrefused.1 (by simp [SpacetimeADI.new, Store.empty])

end Adi
