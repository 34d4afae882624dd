/-
**The log, and what is loaded from a state directory.**

The events of the log are chained: each has the next sequence number, the hash of the event before, and
its own hash.  A store knows the number of events and the hash of the last one, so the event it appends
continues the chain.  A constructed store has put a snapshot of its records there, with the number of
events, and behind that snapshot there is nothing to replay; after one more event there is that event.

Main definitions:

* `Adi.Chained` — the events are a chain that ends where the store continues it;
* `Adi.restore` — the part of loading before anything is written;
* `Adi.Durable` — the last snapshot and the log say what is in the store.

Main results:

* `Adi.chained_logged` — an event continues the chain;
* `Adi.durable_of_construct` — a constructed store is durable;
* `Adi.Durable.restored`, `Adi.Durable.restore_event` — what is loaded again, also with one more event.
-/

import Wuchang.AdiDelivery

set_option relaxedAutoImplicit false
set_option autoImplicit false

namespace Adi

open Py Delivery

/-! ### The chain of events -/

/-- The events are a chain, and the store continues it. -/
structure Chained (events : List PyVal) (s : Store) : Prop where
  length : events.length = s.eventSequence
  last : ∃ sequence replay, readLog sequence 0 .none events = .ok (replay, orNone s.lastEventSha256)

/-- One more line of the log. -/
theorem readLog_append {sequence : ℤ} {event : PyVal} (events : List PyVal) :
    ∀ (i : ℕ) (previous : PyVal) (p : List PyVal × PyVal), readLog sequence i previous events = .ok p →
      checkEvent (i + events.length) p.2 event = .ok () →
      readLog sequence i previous (events ++ [event]) =
        .ok (p.1 ++ (if (i + events.length + 1 : ℤ) > sequence then [event] else []),
          event.get "event_sha256") := by
  induction events with
  | nil =>
      intro i previous p h hcheck
      obtain rfl := pure_eq_ok_iff.1 h
      rw [List.length_nil, Nat.add_zero] at hcheck
      rw [List.nil_append, readLog, hcheck, ok_bind, readLog, pure_bind, List.length_nil,
        Nat.cast_zero, add_zero]
      dsimp only
      split_ifs <;> rfl
  | cons e events ih =>
      intro i previous p h hcheck
      simp only [readLog, bind_eq_ok_iff, pure_eq_ok_iff] at h
      obtain ⟨u, hfirst, q, hq, rfl⟩ := h
      have hindex : i + (e :: events).length = i + 1 + events.length := by
        rw [List.length_cons]
        omega
      have hcast : (i : ℤ) + ((e :: events).length : ℤ) + 1 =
          ((i + 1 : ℕ) : ℤ) + (events.length : ℤ) + 1 := by
        rw [List.length_cons]
        push_cast
        ring
      have hlast : (if (i + 1 : ℤ) > sequence then (e :: q.1, q.2) else (q.1, q.2)).2 = q.2 := by
        split_ifs <;> rfl
      rw [hindex, hlast] at hcheck
      rw [List.cons_append, readLog, hfirst, ok_bind, ih (i + 1) _ q hq hcheck, ok_bind, hcast]
      dsimp only
      split_ifs <;> rfl

/-- Behind the last line there is nothing to replay. -/
theorem readLog_of_le {sequence : ℤ} (events : List PyVal) :
    ∀ (i : ℕ) (previous : PyVal) (p : List PyVal × PyVal), readLog sequence i previous events = .ok p →
      ∀ n : ℤ, (i + events.length : ℤ) ≤ n → readLog n i previous events = .ok ([], p.2) := by
  induction events with
  | nil =>
      intro i previous p h n _
      obtain rfl := pure_eq_ok_iff.1 h
      rfl
  | cons e events ih =>
      intro i previous p h n hn
      simp only [readLog, bind_eq_ok_iff, pure_eq_ok_iff] at h
      obtain ⟨u, hcheck, q, hq, rfl⟩ := h
      have hle : ((i + 1 : ℕ) : ℤ) + (events.length : ℤ) ≤ n := by
        rw [List.length_cons] at hn
        push_cast at hn ⊢
        omega
      have hnot : ¬(i + 1 : ℤ) > n := by
        push_cast at hle
        omega
      rw [readLog, hcheck, ok_bind, ih (i + 1) _ q hq n hle, ok_bind]
      dsimp only
      rw [if_neg hnot]
      split_ifs <;> rfl

/-- The hash of the last line is a text. -/
theorem orNone_lastSha {sequence : ℤ} {events : List PyVal} : ∀ {i : ℕ} {previous : PyVal}
    {p : List PyVal × PyVal}, readLog sequence i previous events = .ok p →
      orNone (lastSha previous) = previous → orNone (lastSha p.2) = p.2 := by
  induction events with
  | nil =>
      intro i previous p h hprevious
      obtain rfl := pure_eq_ok_iff.1 h
      exact hprevious
  | cons e events ih =>
      intro i previous p h _
      simp only [readLog, checkEvent, bind_eq_ok_iff, holdIf_eq_ok_iff, pure_eq_ok_iff, not_not,
        PyVal.eq_str] at h
      obtain ⟨_, ⟨_, -, _, -, _, -, basis, -, sha, -, heq⟩, q, hq, rfl⟩ := h
      have hlast := ih hq (by rw [heq]; rfl)
      split_ifs
      · exact hlast
      · exact hlast

namespace Chained

variable {events : List PyVal} {s : Store}

theorem nothing_behind (h : Chained events s) :
    readLog s.eventSequence 0 .none events = .ok ([], orNone s.lastEventSha256) := by
  obtain ⟨sequence, replay, hread⟩ := h.last
  exact readLog_of_le events 0 .none _ hread _ (by rw [h.length]; simp)

end Chained

theorem eventDoc_eq (s : Store) (now ty : String) (payload : PyVal) :
    eventDoc s now ty payload = obj [
      ("event_sha256", .str (Canonical.sha256 (.dict (eventBasis s now ty payload)))),
      ("event_type", lit ty), ("observed_at", lit now), ("payload", payload),
      ("previous_event_sha256", orNone s.lastEventSha256), ("protocol_version", protocolVersion),
      ("schema_version", lit "W7TP_NATIVE_ADI_APPEND_ONLY_EVENT/1.0"),
      ("sequence", .int (s.eventSequence + 1))] := by
  rw [eventDoc]
  generalize Canonical.sha256 _ = sha
  rw [eventBasis, setKey_fields, ← obj]
  simp +decide [setField]

theorem eq_orNone_self (o : Option PyStr) : (orNone o).eq (orNone o) := by
  cases o with
  | none => rfl
  | some s => exact PyVal.eq_str.2 rfl

/-- The event that a store appends passes the checks of the next line of its log. -/
theorem checkEvent_eventDoc {s : Store} (hs : s.WF) (now ty : String) {payload : PyVal}
    (hp : Canonical payload) :
    checkEvent s.eventSequence (orNone s.lastEventSha256) (eventDoc s now ty payload) = .ok () := by
  have hbasis : eventHashBasis (eventDoc s now ty payload) =
      .ok (.dict (eventBasis s now ty payload)) := by
    rw [eventDoc, eventHashBasis, eraseKey_setKey]
    · exact (hs.canonical_eventBasis now ty hp).normalize
    · intro p hp heq
      obtain ⟨q, hq, rfl⟩ := List.mem_map.1 hp
      have hne : ∀ k ∈ ["event_type", "observed_at", "payload", "previous_event_sha256",
          "protocol_version", "schema_version", "sequence"], k ≠ "event_sha256" := by decide
      exact hne q.1 (List.mem_map_of_mem hq) (key_inj.1 heq)
  rw [checkEvent, hbasis, requireDict, if_pos (by rw [eventDoc_eq]; rfl), ok_bind,
    holdIf_neg (by simp [eventDoc_eq]), ok_bind,
    holdIf_neg (by simp [eventDoc_eq, eq_orNone_self]), ok_bind, ok_bind,
    (hs.canonical_eventBasis now ty hp).canonicalSha256, ok_bind,
    holdIf_neg (by simp [eventDoc_eq])]

/-- An event continues the chain. -/
theorem chained_logged {s : Store} (hs : s.WF) {ws : List Write} (hdir : s.stateDir = some ws)
    (h : Chained (eventsOf ws) s) (now ty : String) {payload : PyVal} (hp : Canonical payload) :
    readLog s.eventSequence 0 .none (eventsOf ws ++ [eventDoc s now ty payload]) =
        .ok ([eventDoc s now ty payload], orNone (s.logged now ty payload).lastEventSha256) ∧
      Chained (eventsOf ws ++ [eventDoc s now ty payload]) (s.logged now ty payload) := by
  have hlast : (eventDoc s now ty payload).get "event_sha256" =
      orNone (s.logged now ty payload).lastEventSha256 := by
    rw [eventDoc_eq, Store.logged, hdir]
    simp [orNone]
  have hread : readLog s.eventSequence 0 .none (eventsOf ws ++ [eventDoc s now ty payload]) =
      .ok ([eventDoc s now ty payload], orNone (s.logged now ty payload).lastEventSha256) := by
    have hcheck := checkEvent_eventDoc hs now ty hp
    rw [← h.length, ← Nat.zero_add (eventsOf ws).length] at hcheck
    rw [readLog_append _ 0 _ _ h.nothing_behind hcheck, hlast, h.length, if_pos (by push_cast; omega)]
    rfl
  refine ⟨hread, ?_, _, _, hread⟩
  rw [List.length_append, h.length, Store.logged, hdir]
  rfl

theorem eventsOf_append (ws : List Write) (v : List Write) :
    eventsOf (ws ++ v) = eventsOf ws ++ eventsOf v := by
  induction ws with
  | nil => rfl
  | cons w ws ih =>
      cases w with
      | event e => rw [List.cons_append, eventsOf, eventsOf, ih, List.cons_append]
      | snapshot v => rw [List.cons_append, eventsOf, eventsOf, ih]

theorem snapshotOf_append_event (ws : List Write) (e : PyVal) :
    snapshotOf (ws ++ [.event e]) = snapshotOf ws := by
  induction ws with
  | nil => rfl
  | cons w ws ih =>
      cases w with
      | event e => rw [List.cons_append, snapshotOf, snapshotOf, ih]
      | snapshot v => rw [List.cons_append, snapshotOf, snapshotOf, ih]

theorem snapshotOf_append_snapshot (ws : List Write) (v : PyVal) :
    snapshotOf (ws ++ [.snapshot v]) = some v := by
  induction ws with
  | nil => rfl
  | cons w ws ih =>
      cases w with
      | event e => rw [List.cons_append, snapshotOf, ih]
      | snapshot u => rw [List.cons_append, snapshotOf, ih, Option.some_or]

/-! ### Stores without empty buckets -/

/-- No bucket is empty. -/
def Store.Tidy (s : Store) : Prop := ∀ slot ids, s.slots.lookup slot = some ids → ids ≠ []

theorem tidy_empty (stateDir : Option (List Write)) : (Store.empty stateDir).Tidy := by
  intro slot ids h
  simp [Store.empty] at h

theorem Store.Tidy.of_same {s t : Store} (h : s.Tidy) (hst : SameContents s t) : t.Tidy :=
  fun slot ids hslot => h slot ids (by rwa [← hst.slots])

theorem Store.Tidy.add {s : Store} (h : s.Tidy) (r : Rec) : (s.add r).Tidy := by
  intro slot ids hslot
  by_cases heq : slot = r.timeSlot
  · subst heq
    rw [Store.add, AList.lookup_insert, Option.some.injEq] at hslot
    rw [← hslot]
    simp
  · rw [Store.add, AList.lookup_insert_ne heq] at hslot
    exact h slot ids hslot

theorem Store.Tidy.addAll (rs : List Rec) : ∀ {s : Store}, s.Tidy → (s.addAll rs).Tidy := by
  induction rs with
  | nil => exact fun h => h
  | cons r rs ih =>
      intro s h
      refine ih (s := s.addNew r) ?_
      rw [Store.addNew]
      split_ifs
      · exact h
      · exact h.add r

/-- Stores with the same records have the same contents. -/
theorem sameContents_of_held {s t : Store} (hs : s.WF) (ht : t.WF) (hs' : s.Tidy) (ht' : t.Tidy)
    (h : t.held = s.held) : SameContents s t where
  records id := by
    refine Option.ext fun r => ?_
    constructor
    · intro hr
      obtain ⟨rfl, -⟩ := ht.valid id r hr
      exact (h ▸ hr : r ∈ s.held)
    · intro hr
      obtain ⟨rfl, -⟩ := hs.valid id r hr
      exact (h ▸ hr : r ∈ t.held)
  slots slot := by
    have hbucket := bucket_eq_of_held ht hs h slot
    rw [Store.bucket, Store.bucket] at hbucket
    cases hslot : s.slots.lookup slot with
    | none =>
        cases htslot : t.slots.lookup slot with
        | none => rfl
        | some ids =>
            rw [hslot, htslot] at hbucket
            exact absurd hbucket (ht' slot ids htslot)
    | some ids =>
        cases htslot : t.slots.lookup slot with
        | none =>
            rw [hslot, htslot] at hbucket
            exact absurd hbucket.symm (hs' slot ids hslot)
        | some ids' =>
            rw [hslot, htslot] at hbucket
            exact congrArg some hbucket

namespace SameContents

variable {s t : Store}

theorem symm (h : SameContents s t) : SameContents t s :=
  ⟨fun id => (h.records id).symm, fun slot => (h.slots slot).symm⟩

theorem held_eq (h : SameContents s t) : t.held = s.held := by
  ext r
  rw [Store.mem_held, Store.mem_held, Store.Holds, Store.Holds, h.records]

theorem length_values (h : SameContents s t) (hs : s.WF) (ht : t.WF) :
    t.values.length = s.values.length := by
  have hmem : ∀ r, r ∈ t.values ↔ r ∈ s.values := by
    intro r
    rw [Store.mem_values hs, Store.mem_values ht, ← Store.mem_held, h.held_eq, Store.mem_held]
  exact ((List.perm_ext_iff_of_nodup (nodup_ids ht).of_map (nodup_ids hs).of_map).2 hmem).length_eq

end SameContents

/-! ### Restoring -/

/-- What loading does before it writes anything. -/
def restore (ws : List Write) : EStateM Fault Store Unit := do
  let sequence ← loadSnapshot (snapshotOf ws)
  loadLog (eventsOf ws) sequence

/-- The writes are read back, and this is the store. -/
def Restored (ws : List Write) (r : Store) : Prop := (restore ws).run (.empty (some ws)) = .ok () r

theorem load_run (now : String) (ws : List Write) :
    (load now).run (.empty (some ws)) =
      (do restore ws
          announce now (snapshotOf ws)
          persistSnapshot : EStateM Fault Store Unit).run (.empty (some ws)) := by
  unfold load restore
  rw [EStateM.run_bind, EStateM.run_get]
  dsimp only [Store.empty]
  rw [bind_assoc]

/-- Two stores with the same contents, and no empty bucket. -/
structure Alike (s t : Store) : Prop where
  same : SameContents s t
  tidy : s.Tidy

theorem Alike.refl {s : Store} (h : s.Tidy) : Alike s s := ⟨.refl s, h⟩

theorem respects_acceptRecord (v : PyVal) : Respects Alike (acceptRecord v) := by
  intro s s' b t h hrun
  cases hv : validateSuppliedRecord v with
  | error e =>
      unfold acceptRecord at hrun
      rw [hv] at hrun
      exact absurd hrun (by simp)
  | ok r =>
      have hr := valid_of_validate hv
      have hsame : acceptRecord v = acceptRecord r.toVal := by
        unfold acceptRecord
        rw [hv, hr.validate]
      rw [hsame, acceptRecord_run hr] at hrun
      rw [hsame, acceptRecord_run hr, h.same.records, h.same.bucket]
      cases hlookup : s.records.lookup r.id with
      | some e =>
          rw [hlookup] at hrun
          dsimp only at hrun ⊢
          split_ifs at hrun ⊢
          obtain ⟨rfl, rfl⟩ := EStateM.Result.ok.inj hrun
          exact ⟨s', rfl, h⟩
      | none =>
          rw [hlookup] at hrun
          dsimp only at hrun ⊢
          split_ifs at hrun ⊢
          obtain ⟨rfl, rfl⟩ := EStateM.Result.ok.inj hrun
          exact ⟨s'.add r, rfl, h.same.add r, h.tidy.add r⟩

theorem respects_acceptAll (vs : List PyVal) : Respects Alike (acceptAll vs) := by
  induction vs with
  | nil => exact .pure ()
  | cons v vs ih => exact .bind (respects_acceptRecord v) fun _ => ih

theorem respects_replayEvent (event : PyVal) : Respects Alike (replayEvent event) := by
  unfold replayEvent
  split_ifs
  · exact .bind (.lift _) fun _ => .bind (respects_acceptRecord _) fun _ => .pure ()
  · exact .bind (.lift _) fun _ => .bind (.lift _) fun _ => respects_acceptAll _
  · exact .lift _

theorem respects_replayAll (events : List PyVal) : Respects Alike (replayAll events) := by
  induction events with
  | nil => exact .pure ()
  | cons event events ih => exact .bind (respects_replayEvent event) fun _ => ih

theorem respects_loadSnapshot (snapshot : Option PyVal) : Respects Alike (loadSnapshot snapshot) := by
  cases snapshot with
  | none => exact .pure 0
  | some snapshot =>
      exact .bind (.lift _) fun p => .bind (respects_acceptAll _) fun _ => .lift _

theorem sameWrites_replayEvent (event : PyVal) : Keeps SameWrites (replayEvent event) := by
  unfold replayEvent
  split_ifs
  · exact .bind .trans (.lift .refl _) fun _ =>
      .bind .trans (sameWrites_acceptRecord _) fun _ => .pure .refl ()
  · exact .bind .trans (.lift .refl _) fun _ =>
      .bind .trans (.lift .refl _) fun _ => sameWrites_acceptAll _
  · exact .lift .refl _

theorem sameWrites_replayAll (events : List PyVal) : Keeps SameWrites (replayAll events) := by
  induction events with
  | nil => exact .pure .refl ()
  | cons event events ih => exact .bind .trans (sameWrites_replayEvent event) fun _ => ih

theorem sameWrites_loadSnapshot (snapshot : Option PyVal) :
    Keeps SameWrites (loadSnapshot snapshot) := by
  cases snapshot with
  | none => exact .pure .refl 0
  | some snapshot =>
      exact .bind .trans (.lift .refl _) fun p =>
        .bind .trans (sameWrites_acceptAll _) fun _ => .lift .refl _

/-- The store in the middle of loading: the snapshot is there, and the log was checked. -/
def checkedStore (s : Store) (events : List PyVal) (last : PyVal) : Store :=
  { s with eventSequence := events.length, lastEventSha256 := lastSha last }

/-- What restoring goes through. -/
theorem restored_iff {ws : List Write} {r : Store} :
    Restored ws r ↔ ∃ sequence s p, (loadSnapshot (snapshotOf ws)).run (.empty (some ws)) =
        .ok sequence s ∧ readLog sequence 0 .none (eventsOf ws) = .ok p ∧
      (replayAll p.1).run (checkedStore s (eventsOf ws) p.2) = .ok () r := by
  unfold Restored restore
  rw [run_bind_eq_ok_iff]
  constructor
  · rintro ⟨sequence, s, hsnapshot, hlog⟩
    unfold loadLog at hlog
    cases hread : readLog sequence 0 .none (eventsOf ws) with
    | error e => rw [hread] at hlog; exact absurd hlog (by simp)
    | ok p =>
        rw [hread] at hlog
        exact ⟨sequence, s, p, hsnapshot, hread, hlog⟩
  · rintro ⟨sequence, s, p, hsnapshot, hread, hlog⟩
    refine ⟨sequence, s, hsnapshot, ?_⟩
    unfold loadLog
    rw [hread]
    exact hlog

section Restored

variable {ws : List Write} {r : Store}

theorem wf_of_restored (h : Restored ws r) : r.WF := by
  have htame : Tame (restore ws) := .bind (tame_loadSnapshot _) fun _ => tame_loadLog _ _
  have hwf := (htame (.empty (some ws))).wf (.empty _)
  rwa [h] at hwf

theorem tidy_of_restored (h : Restored ws r) : r.Tidy := by
  obtain ⟨sequence, s, p, hsnapshot, -, hreplay⟩ := restored_iff.1 h
  obtain ⟨s', hs', hss'⟩ := respects_loadSnapshot _ _ _ _ _ (Alike.refl (tidy_empty _)) hsnapshot
  have htidy : (checkedStore s (eventsOf ws) p.2).Tidy := hss'.tidy
  obtain ⟨r', -, hrr'⟩ := respects_replayAll _ _ _ _ _ (Alike.refl htidy) hreplay
  exact hrr'.tidy

/-- Restoring writes nothing, and the store continues the log that was read. -/
theorem chained_of_restored (h : Restored ws r) : r.stateDir = some ws ∧ Chained (eventsOf ws) r := by
  obtain ⟨sequence, s, p, hsnapshot, hread, hreplay⟩ := restored_iff.1 h
  have hfirst := sameWrites_loadSnapshot (snapshotOf ws) (.empty (some ws))
  rw [hsnapshot] at hfirst
  have hsecond := sameWrites_replayAll p.1 (checkedStore s (eventsOf ws) p.2)
  rw [hreplay] at hsecond
  refine ⟨hsecond.stateDir.trans hfirst.stateDir, hsecond.eventSequence.symm, sequence, p.1, ?_⟩
  rw [show r.lastEventSha256 = lastSha p.2 from hsecond.lastEventSha256,
    orNone_lastSha hread rfl]
  exact hread

/-- The store after loading has said that it was empty, if it had no snapshot. -/
def Store.announced (r : Store) (now : String) (snapshot : Option PyVal) : Store :=
  match snapshot with
  | none => r.logged now "EMPTY_STATE_CREATED" (obj [("record_count", .int 0)])
  | some _ => r

theorem canonical_announcement : Canonical (obj [("record_count", .int 0)]) :=
  .obj ["record_count"] rfl (literalKeys (by decide)) (by simp [Canonical.int])

/-- The event that says so. -/
def announcement (r : Store) (now : String) : PyVal :=
  eventDoc r now "EMPTY_STATE_CREATED" (obj [("record_count", .int 0)])

theorem announce_run (hr : r.WF) (now : String) (snapshot : Option PyVal) :
    (announce now snapshot).run r = .ok () (r.announced now snapshot) := by
  cases snapshot with
  | none => exact appendEvent_run hr now _ canonical_announcement
  | some _ => rfl

theorem wf_announced (hr : r.WF) (now : String) (snapshot : Option PyVal) :
    (r.announced now snapshot).WF := by
  cases snapshot with
  | none => exact wf_logged hr now _ canonical_announcement
  | some _ => exact hr

@[simp] theorem Store.announced_records (r : Store) (now : String) (snapshot : Option PyVal) :
    (r.announced now snapshot).records = r.records := by
  cases snapshot with
  | none => exact r.logged_records now _ _
  | some _ => rfl

@[simp] theorem Store.announced_slots (r : Store) (now : String) (snapshot : Option PyVal) :
    (r.announced now snapshot).slots = r.slots := by
  cases snapshot with
  | none => exact r.logged_slots now _ _
  | some _ => rfl

theorem Store.announced_isSome (r : Store) (now : String) (snapshot : Option PyVal) :
    (r.announced now snapshot).stateDir.isSome = r.stateDir.isSome := by
  cases snapshot with
  | none =>
      unfold Store.announced Store.logged
      cases h : r.stateDir <;> simp [h]
  | some _ => rfl

/-- A store is constructed from what was written when it can be restored and its records have room in
a snapshot. -/
theorem construct_eq_ok_iff {now : String} {s : Store} :
    construct now (some ws) = .ok s ↔ ∃ r, Restored ws r ∧ r.values.length ≤ maxPacketRecords ∧
      s = (r.announced now (snapshotOf ws)).saved := by
  have hroom : ∀ r, Restored ws r → ((r.announced now (snapshotOf ws)).HasRoom ↔
      r.values.length ≤ maxPacketRecords) := by
    intro r hr
    rw [Store.HasRoom, Store.announced_isSome, (chained_of_restored hr).1, Store.values,
      Store.announced_records]
    exact ⟨fun h => h rfl, fun h _ => h⟩
  have hrun : ∀ r, Restored ws r → (load now).run (.empty (some ws)) =
      persistSnapshot.run (r.announced now (snapshotOf ws)) := by
    intro r hr
    rw [load_run, EStateM.run_bind, hr]
    dsimp only
    rw [EStateM.run_bind, announce_run (wf_of_restored hr)]
  constructor
  · intro h
    unfold construct at h
    cases hrestore : (restore ws).run (.empty (some ws)) with
    | error e t =>
        rw [load_run, EStateM.run_bind, hrestore] at h
        exact absurd h (by simp)
    | ok u r =>
        have hr : Restored ws r := hrestore
        have hwf := wf_announced (wf_of_restored hr) now (snapshotOf ws)
        rw [hrun r hr] at h
        by_cases hlen : r.values.length ≤ maxPacketRecords
        · rw [persistSnapshot_of_room hwf ((hroom r hr).2 hlen)] at h
          exact ⟨r, hr, hlen, (Except.ok.inj h).symm⟩
        · rw [persistSnapshot_of_no_room fun h' => hlen ((hroom r hr).1 h')] at h
          exact absurd h (by simp)
  · rintro ⟨r, hr, hlen, rfl⟩
    have hwf := wf_announced (wf_of_restored hr) now (snapshotOf ws)
    unfold construct
    rw [hrun r hr, persistSnapshot_of_room hwf ((hroom r hr).2 hlen)]

/-- The store that is constructed has the contents that were restored. -/
theorem construct_of_restored (h : Restored ws r) (hlen : r.values.length ≤ maxPacketRecords)
    (now : String) : ∃ t, construct now (some ws) = .ok t ∧ SameContents r t :=
  ⟨_, construct_eq_ok_iff.2 ⟨r, h, hlen, rfl⟩, .of_eq (by simp) (by simp)⟩

end Restored

/-! ### Durable stores -/

/-- The last snapshot and the log say what is in the store: the snapshot is one of this very store, and
the store continues the log. -/
structure Durable (s : Store) (ws : List Write) : Prop where
  wf : s.WF
  tidy : s.Tidy
  dir : s.stateDir = some ws
  snapshot : snapshotOf ws = some s.snapshotDoc
  chained : Chained (eventsOf ws) s
  room : s.values.length ≤ maxPacketRecords

/-- A store that continues its log is durable once its snapshot was replaced. -/
theorem durable_saved {s : Store} {ws : List Write} (hwf : s.WF) (htidy : s.Tidy)
    (hdir : s.stateDir = some ws) (hchained : Chained (eventsOf ws) s)
    (hroom : s.values.length ≤ maxPacketRecords) :
    Durable s.saved (ws ++ [.snapshot s.snapshotDoc]) := by
  have hsaved : s.saved = { s with stateDir := some (ws ++ [.snapshot s.snapshotDoc]) } := by
    rw [Store.saved, hdir]
  have hevents : eventsOf (ws ++ [.snapshot s.snapshotDoc]) = eventsOf ws := by
    rw [eventsOf_append, eventsOf, eventsOf, List.append_nil]
  refine ⟨wf_saved hwf, ?_, by rw [hsaved], ?_, ?_, ?_⟩
  · rw [hsaved]
    exact htidy
  · rw [snapshotOf_append_snapshot, hsaved]
    rfl
  · rw [hevents, hsaved]
    exact ⟨hchained.length, hchained.last⟩
  · rw [hsaved]
    exact hroom

/-- A constructed store is durable. -/
theorem durable_of_construct {now : String} {ws : List Write} {s : Store}
    (h : construct now (some ws) = .ok s) : ∃ more, Durable s (ws ++ more) := by
  obtain ⟨r, hr, hlen, rfl⟩ := construct_eq_ok_iff.1 h
  have hwf := wf_of_restored hr
  obtain ⟨hdir, hchained⟩ := chained_of_restored hr
  have htidy : (r.announced now (snapshotOf ws)).Tidy :=
    (tidy_of_restored hr).of_same (.of_eq (by simp) (by simp))
  have hlen' : (r.announced now (snapshotOf ws)).values.length ≤ maxPacketRecords := by
    rwa [Store.values, Store.announced_records]
  have hwf' := wf_announced hwf now (snapshotOf ws)
  cases hsnapshot : snapshotOf ws with
  | some v =>
      rw [hsnapshot] at htidy hlen' hwf'
      exact ⟨_, durable_saved hwf' htidy hdir hchained hlen'⟩
  | none =>
      rw [hsnapshot] at htidy hlen' hwf'
      obtain ⟨-, hnext⟩ := chained_logged hwf hdir hchained now "EMPTY_STATE_CREATED"
        canonical_announcement
      have hdir' : (r.announced now none).stateDir = some (ws ++ [.event (announcement r now)]) := by
        rw [Store.announced, Store.logged, hdir]
        rfl
      have hevents : eventsOf (ws ++ [.event (announcement r now)]) =
          eventsOf ws ++ [announcement r now] := by
        rw [eventsOf_append, eventsOf, eventsOf]
      have hdurable := durable_saved hwf' htidy hdir' (hevents ▸ hnext) hlen'
      rw [List.append_assoc] at hdurable
      exact ⟨_, hdurable⟩

/-! ### Reading back -/

theorem snapshotDoc_eq (s : Store) : s.snapshotDoc = obj [("event_sequence", .int s.eventSequence),
    ("last_event_sha256", orNone s.lastEventSha256), ("protocol_version", protocolVersion),
    ("schema_version", stateSchemaVersion), ("state", stateDoc s.sorted),
    ("state_sha256", .str (Canonical.sha256 (stateDoc s.sorted)))] := by
  rw [Store.snapshotDoc]
  generalize Canonical.sha256 _ = sha
  rw [snapshotBasis, setKey_fields, ← obj]
  simp +decide [setField]

/-- A snapshot passes its checks. -/
theorem readSnapshot_snapshotDoc {s : Store} (hs : s.WF) :
    readSnapshot s.snapshotDoc = .ok (s.sorted.map Rec.toVal, .int s.eventSequence) := by
  have hstate : s.snapshotDoc.get "state" = stateDoc s.sorted := by simp [snapshotDoc_eq]
  have hrecords : (stateDoc s.sorted).get "records" = .list (s.sorted.map Rec.toVal) := by
    simp [stateDoc]
  have hsequence : getOr s.snapshotDoc "event_sequence" (.int 0) = .int s.eventSequence := by
    simp [snapshotDoc_eq, getOr, obj]
  rw [readSnapshot, requireDict, if_pos (by rw [snapshotDoc_eq]; rfl), ok_bind,
    holdIf_neg (by simp [snapshotDoc_eq, protocolVersion]), ok_bind,
    holdIf_neg (by simp [snapshotDoc_eq, stateSchemaVersion]), ok_bind, hstate,
    (canonical_stateDoc (Store.valid_sorted hs)).canonicalSha256, ok_bind,
    holdIf_neg (by simp [snapshotDoc_eq]), ok_bind]
  dsimp only
  rw [hrecords, hsequence]
  rfl

/-- Accepting the records of a snapshot of a store yields its contents again. -/
theorem acceptAll_sorted {s : Store} (hs : s.WF) (htidy : s.Tidy) (ws : List Write) :
    ∃ b, (acceptAll (s.sorted.map Rec.toVal)).run (.empty (some ws)) = .ok () b ∧
      SameContents s b := by
  have hempty : (Store.empty (some ws)).held = ∅ := by
    ext r
    simp [Store.Holds, Store.empty]
  have hsub : (Store.empty (some ws)).held ⊆ s.held := hempty ▸ Set.empty_subset _
  have hheld : ∀ r ∈ s.sorted, s.Holds r := fun r => (Store.mem_sorted hs).1
  have hset : (Store.empty (some ws)).held ∪ {r | r ∈ s.sorted} = s.held := by
    rw [hempty, Set.empty_union]
    ext r
    exact Store.mem_sorted hs
  have hfits : Fits (.empty (some ws)) s.sorted :=
    (fits_iff_closed hs hheld (not_before_sortRecords _) (.empty _) hsub).2 (closed_self hset.ge)
  refine ⟨_, acceptAll_of_fits (Store.valid_sorted hs) hfits, ?_⟩
  refine sameContents_of_held hs ((evolves_addAll (Store.valid_sorted hs) hfits).wf (.empty _)) htidy
    ((tidy_empty _).addAll _) ?_
  rw [← hset]
  ext r
  exact holds_addAll_iff hs hheld (.empty _) hsub hfits r

/-- What is read back when the last snapshot is one of the store: its contents, and what is behind the
snapshot is replayed. -/
theorem restore_run {s : Store} (hs : s.WF) (htidy : s.Tidy) {ws : List Write}
    (hsnapshot : snapshotOf ws = some s.snapshotDoc) {p : List PyVal × PyVal}
    (hread : readLog s.eventSequence 0 .none (eventsOf ws) = .ok p) :
    ∃ b, SameContents s b ∧ (restore ws).run (.empty (some ws)) = (replayAll p.1).run b := by
  obtain ⟨b, haccept, hsame⟩ := acceptAll_sorted hs htidy ws
  have hload : (loadSnapshot (snapshotOf ws)).run (.empty (some ws)) = .ok (s.eventSequence : ℤ) b := by
    rw [hsnapshot, loadSnapshot, readSnapshot_snapshotDoc hs, EStateM.run_bind, run_lift_ok]
    dsimp only
    rw [EStateM.run_bind, haccept]
    rfl
  refine ⟨checkedStore b (eventsOf ws) p.2, ⟨hsame.records, hsame.slots⟩, ?_⟩
  unfold restore loadLog
  rw [EStateM.run_bind, hload]
  dsimp only
  rw [hread]
  rfl

namespace Durable

variable {s : Store} {ws : List Write}

/-- A durable store is read back as it is. -/
theorem restored (h : Durable s ws) : ∃ r, Restored ws r ∧ SameContents s r := by
  obtain ⟨b, hsame, hrun⟩ := restore_run h.wf h.tidy h.snapshot h.chained.nothing_behind
  exact ⟨b, hrun, hsame⟩

/-- With one more event, the event is replayed. -/
theorem restore_event (h : Durable s ws) (now ty : String) {payload : PyVal} (hp : Canonical payload) :
    ∃ b, SameContents s b ∧
      (restore (ws ++ [.event (eventDoc s now ty payload)])).run
          (.empty (some (ws ++ [.event (eventDoc s now ty payload)]))) =
        (replayEvent (eventDoc s now ty payload)).run b := by
  have hread := (chained_logged h.wf h.dir h.chained now ty hp).1
  have hsnapshot : snapshotOf (ws ++ [.event (eventDoc s now ty payload)]) = some s.snapshotDoc := by
    rw [snapshotOf_append_event, h.snapshot]
  have hevents : eventsOf (ws ++ [.event (eventDoc s now ty payload)]) =
      eventsOf ws ++ [eventDoc s now ty payload] := by
    rw [eventsOf_append, eventsOf, eventsOf]
  rw [← hevents] at hread
  obtain ⟨b, hsame, hrun⟩ := restore_run h.wf h.tidy hsnapshot hread
  refine ⟨b, hsame, ?_⟩
  rw [hrun, replayAll, EStateM.run_bind]
  cases (replayEvent (eventDoc s now ty payload)).run b <;> rfl

end Durable

/-! ### Replaying -/

@[simp] theorem eventDoc_type (s : Store) (now ty : String) (payload : PyVal) :
    (eventDoc s now ty payload).get "event_type" = lit ty := by
  simp [eventDoc_eq]

@[simp] theorem eventDoc_payload (s : Store) (now ty : String) (payload default : PyVal) :
    getOr (eventDoc s now ty payload) "payload" default = payload := by
  simp [eventDoc_eq, getOr, obj]

theorem lit_ne {a b : String} (h : a ≠ b) : ¬(lit a).eq (lit b) := by
  rw [PyVal.eq_lit, lit, lit, PyVal.str.injEq, cp_inj]
  exact h

theorem replay_insert (s b : Store) (now : String) {r : Rec} (hr : r.Valid)
    (hfresh : b.records.lookup r.id = none) (hnext : r.collisionIndex = (b.bucket r.timeSlot).length) :
    (replayEvent (eventDoc s now "INSERT" (insertPayload r))).run b = .ok () (b.add r) := by
  have hrecord : (insertPayload r).get "record" = r.toVal := by simp [insertPayload]
  unfold replayEvent
  dsimp only
  rw [eventDoc_type, eventDoc_payload, if_pos (PyVal.eq_lit.2 rfl), requireDict, if_pos (by rfl),
    EStateM.run_bind, run_lift_ok]
  dsimp only
  rw [hrecord, EStateM.run_bind, acceptRecord_run hr, hfresh]
  dsimp only
  rw [if_pos hnext]
  rfl

theorem replay_reconstruct (s b : Store) (now : String) (v : Verified) :
    (replayEvent (eventDoc s now "RECONSTRUCT_ALLOW" (reconstructPayload s v))).run b =
      (acceptAll ((newlyAccepted s v.ordered).map Rec.toVal)).run b := by
  have hrecords : getOr (reconstructPayload s v) "records" (.list []) =
      .list ((newlyAccepted s v.ordered).map Rec.toVal) := by
    simp [reconstructPayload, getOr, obj]
  unfold replayEvent
  dsimp only
  rw [eventDoc_type, eventDoc_payload, if_neg (lit_ne (by decide)), if_pos (PyVal.eq_lit.2 rfl),
    requireDict, if_pos (by rfl), EStateM.run_bind, run_lift_ok]
  dsimp only
  rw [hrecords, elements, EStateM.run_bind, run_lift_ok]

theorem replay_announcement (s b : Store) (now : String) :
    (replayEvent (announcement s now)).run b = .ok () b := by
  unfold replayEvent announcement
  dsimp only
  rw [eventDoc_type, if_neg (lit_ne (by decide)), if_neg (lit_ne (by decide)),
    holdIf_neg (not_not.2 (PyVal.eq_lit.2 rfl))]
  rfl

theorem replayAll_append (events : List PyVal) (event : PyVal) (s : Store) :
    (replayAll (events ++ [event])).run s =
      (do replayAll events; replayEvent event : EStateM Fault Store Unit).run s := by
  induction events generalizing s with
  | nil =>
      rw [List.nil_append, replayAll, replayAll, EStateM.run_bind]
      cases h : (replayEvent event).run s <;> simp [h, replayAll]
  | cons e events ih =>
      rw [List.cons_append, replayAll, replayAll, bind_assoc, EStateM.run_bind, EStateM.run_bind]
      cases (replayEvent e).run s with
      | error e t => rfl
      | ok u t => exact ih t

/-- A store without a snapshot that says so in its log is read back as it was. -/
theorem restored_announcement {ws : List Write} {r : Store} (h : Restored ws r)
    (hsnapshot : snapshotOf ws = none) (now : String) :
    ∃ r', Restored (ws ++ [.event (announcement r now)]) r' ∧ SameContents r r' := by
  obtain ⟨sequence, s, p, hload, hread, hreplay⟩ := restored_iff.1 h
  obtain ⟨-, hchained⟩ := chained_of_restored h
  rw [hsnapshot] at hload
  obtain ⟨rfl, rfl⟩ := EStateM.Result.ok.inj hload
  have hlast : r.lastEventSha256 = lastSha p.2 := by
    have hkeep := sameWrites_replayAll p.1 (checkedStore (.empty (some ws)) (eventsOf ws) p.2)
    rw [hreplay] at hkeep
    exact hkeep.lastEventSha256
  have hcheck := checkEvent_eventDoc (wf_of_restored h) now "EMPTY_STATE_CREATED"
    canonical_announcement
  rw [hlast, orNone_lastSha hread rfl, ← hchained.length,
    ← Nat.zero_add (eventsOf ws).length, ← announcement] at hcheck
  have hread' := readLog_append _ 0 _ _ hread hcheck
  rw [if_pos (by push_cast; omega)] at hread'
  have hevents : eventsOf (ws ++ [.event (announcement r now)]) =
      eventsOf ws ++ [announcement r now] := by
    rw [eventsOf_append, eventsOf, eventsOf]
  -- the same events are replayed, over a directory with one more write
  have halike : Alike (checkedStore (.empty (some ws)) (eventsOf ws) p.2)
      (checkedStore (.empty (some (ws ++ [.event (announcement r now)])))
        (eventsOf ws ++ [announcement r now]) ((announcement r now).get "event_sha256")) :=
    ⟨⟨fun _ => rfl, fun _ => rfl⟩, tidy_empty (some ws)⟩
  obtain ⟨r', hr', hsame⟩ := respects_replayAll p.1 _ _ _ _ halike hreplay
  refine ⟨r', restored_iff.2 ⟨0, .empty (some (ws ++ [.event (announcement r now)])),
    (p.1 ++ [announcement r now], (announcement r now).get "event_sha256"), ?_, ?_, ?_⟩, hsame.same⟩
  · rw [snapshotOf_append_event, hsnapshot]
    rfl
  · rw [hevents]
    exact hread'
  · rw [hevents, replayAll_append, EStateM.run_bind, hr']
    exact replay_announcement r r' now

end Adi
