/-
**Recovery after a crash.**

A store with a state directory appends the event of a call before it accepts the records, and replaces
its snapshot afterwards.  Whatever has been written when the process dies, the store that is
constructed from it holds what the acknowledged calls have put there, and what the call in progress puts
there when its event was appended.  That needs the calls to be harmless: the event of a call that is
refused afterwards is replayed when the store is constructed again, and is refused again.

Main definitions:

* `Adi.Survives` — a step of a store, and what can be read back in the middle of it;
* `Adi.play`, `Adi.acknowledged` — a run of calls, and those of them that returned;
* `Adi.Recovers` — a crash during a call loses nothing and adds nothing else.

Main results:

* `Adi.survives_insert`, `Adi.survives_reconstruct` — the steps;
* `Adi.recovery` — recovery over whole runs.
-/

import Wuchang.AdiAtomicity
import Wuchang.AdiLog

set_option relaxedAutoImplicit false
set_option autoImplicit false

namespace Adi

open Py

/-! ### Steps -/

/-- A durable store becomes another one by further writes, and whatever part of them was made, the
store before or, once an event was appended, the store afterwards is read back. -/
structure Survives (s t : Store) (ws more : List Write) : Prop where
  durable : Durable t (ws ++ more)
  middle : ∀ p, p <+: more → ∃ r, Restored (ws ++ p) r ∧
    (eventsOf p = [] → SameContents s r) ∧ (eventsOf p ≠ [] → SameContents t r)

theorem survives_refl {s : Store} {ws : List Write} (h : Durable s ws) : Survives s s ws [] where
  durable := by rwa [List.append_nil]
  middle := by
    intro p hp
    obtain rfl := List.prefix_nil.1 hp
    obtain ⟨r, hr, hsame⟩ := h.restored
    exact ⟨r, by rwa [List.append_nil], fun _ => hsame, fun _ => hsame⟩

theorem sameContents_saved (s : Store) : SameContents s s.saved := .of_eq (by simp) (by simp)

/-- The snapshot of a store that has not changed is replaced. -/
theorem survives_saved {s : Store} {ws : List Write} (h : Durable s ws) :
    Survives s s.saved ws [.snapshot s.snapshotDoc] where
  durable := durable_saved h.wf h.tidy h.dir h.chained h.room
  middle := by
    intro p hp
    rcases List.prefix_cons_iff.1 hp with rfl | ⟨q, rfl, hq⟩
    · obtain ⟨r, hr, hsame⟩ := h.restored
      exact ⟨r, by rwa [List.append_nil], fun _ => hsame, fun hne => absurd rfl hne⟩
    · obtain rfl := List.prefix_nil.1 hq
      obtain ⟨r, hr, hsame⟩ := (durable_saved h.wf h.tidy h.dir h.chained h.room).restored
      exact ⟨r, hr, fun _ => (sameContents_saved s).trans hsame, fun _ => hsame⟩

/-- An event is appended, the records come in that replaying the event brings, and the snapshot is
replaced. -/
theorem survives_event {s x : Store} {ws : List Write} (h : Durable s ws) (now ty : String)
    {payload : PyVal} (hp : Canonical payload) (hwrites : SameWrites (s.logged now ty payload) x)
    (hwf : x.WF) (htidy : x.Tidy) (hroom : x.values.length ≤ maxPacketRecords)
    (hreplay : ∀ b, SameContents s b → ∃ b', (replayEvent (eventDoc s now ty payload)).run b =
      .ok () b' ∧ SameContents x b') :
    Survives s x.saved ws [.event (eventDoc s now ty payload), .snapshot x.snapshotDoc] := by
  have hdir : x.stateDir = some (ws ++ [.event (eventDoc s now ty payload)]) := by
    rw [hwrites.stateDir, Store.logged, h.dir]
  have hevents : eventsOf (ws ++ [.event (eventDoc s now ty payload)]) =
      eventsOf ws ++ [eventDoc s now ty payload] := by
    rw [eventsOf_append, eventsOf, eventsOf]
  have hchained : Chained (eventsOf (ws ++ [.event (eventDoc s now ty payload)])) x := by
    obtain ⟨-, hnext⟩ := chained_logged h.wf h.dir h.chained now ty hp
    rw [hevents]
    exact ⟨hnext.length.trans hwrites.eventSequence.symm, by
      rw [hwrites.lastEventSha256]; exact hnext.last⟩
  have hdurable := durable_saved hwf htidy hdir hchained hroom
  rw [List.append_assoc] at hdurable
  refine ⟨hdurable, fun p hp' => ?_⟩
  rcases List.prefix_cons_iff.1 hp' with rfl | ⟨q, rfl, hq⟩
  · obtain ⟨r, hr, hsame⟩ := h.restored
    exact ⟨r, by rwa [List.append_nil], fun _ => hsame, fun hne => absurd rfl hne⟩
  · rcases List.prefix_cons_iff.1 hq with rfl | ⟨q', rfl, hq'⟩
    · obtain ⟨b, hsame, hrun⟩ := h.restore_event now ty hp
      obtain ⟨b', hb', hsame'⟩ := hreplay b hsame
      exact ⟨b', hrun.trans hb', fun hnil => absurd hnil (by simp [eventsOf]),
        fun _ => (sameContents_saved x).symm.trans hsame'⟩
    · obtain rfl := List.prefix_nil.1 hq'
      obtain ⟨r, hr, hsame⟩ := hdurable.restored
      exact ⟨r, hr, fun hnil => absurd hnil (by simp [eventsOf]), fun _ => hsame⟩

/-! ### Insertions -/

theorem survives_insert {s : Store} {ws : List Write} (h : Durable s ws) (now : String)
    {recordId timeSlot payload : PyVal}
    (hroom : ∀ r, NewRecord s recordId timeSlot payload r → RoomFor s 1) :
    match (insertRecord now recordId timeSlot payload).run s with
    | .ok _ t => ∃ more, Survives s t ws more
    | .error _ t => t = s := by
  rcases insertRecord_cases h.wf now recordId timeSlot payload with
    ⟨⟨e, hrun⟩, -⟩ | ⟨r, hrun, -⟩ | ⟨r, hr, hrun⟩
  · rw [hrun]
  · rw [hrun]
    exact ⟨[], survives_refl h⟩
  · have hp := canonical_insertPayload hr.valid
    have hwf := wf_insert h.wf now hr
    have hsame : SameContents s (s.logged now "INSERT" (insertPayload r)) :=
      .of_eq (by simp) (by simp)
    have hlen : ((s.logged now "INSERT" (insertPayload r)).add r).values.length ≤ maxPacketRecords :=
      (hasRoom_insert_iff now hr.1).2 (hroom r hr) (by
        rw [Store.add, Store.logged_isSome, h.dir]
        rfl)
    rw [hrun, EStateM.run_bind, persistSnapshot_of_room hwf fun _ => hlen]
    refine ⟨_, survives_event h now "INSERT" hp ⟨rfl, rfl, rfl⟩ hwf
      ((h.tidy.of_same hsame).add r) hlen fun b hb => ?_⟩
    refine ⟨b.add r, replay_insert s b now hr.valid ?_ ?_, (hsame.symm.trans hb).add r⟩
    · rw [hb.records]
      exact hr.1
    · rw [hb.bucket]
      exact hr.next

/-! ### Reconstructions -/

/-- The records that are new fit when all records do, and they make the same store. -/
theorem fits_newlyAccepted {rs : List Rec} (hnodup : (rs.map Rec.id).Nodup) : ∀ {s : Store},
    Fits s rs → Fits s (newlyAccepted s rs) ∧ s.addAll (newlyAccepted s rs) = s.addAll rs := by
  induction rs with
  | nil => exact fun h => ⟨h, rfl⟩
  | cons r rs ih =>
      intro s hfits
      obtain ⟨hfirst, hrest⟩ := List.nodup_cons.1 hnodup
      rw [Fits] at hfits
      cases hlookup : s.records.lookup r.id with
      | some e =>
          rw [hlookup] at hfits
          have hmem : r.id ∈ s.records := by
            rw [← AList.lookup_isSome, hlookup]
            rfl
          have hnew : newlyAccepted s (r :: rs) = newlyAccepted s rs :=
            List.filter_cons_of_neg (by simpa using hmem)
          obtain ⟨hfits', hsame⟩ := ih hrest hfits.2
          rw [hnew]
          refine ⟨hfits', hsame.trans ?_⟩
          rw [Store.addAll, Store.addAll, List.foldl_cons, Store.addNew_of_some hlookup]
      | none =>
          rw [hlookup] at hfits
          obtain ⟨hnext, hfits⟩ := hfits
          have hmem : r.id ∉ s.records := AList.lookup_eq_none.1 hlookup
          have hothers : newlyAccepted (s.add r) rs = newlyAccepted s rs := by
            refine List.filter_congr fun q hq => ?_
            have hne : q.id ≠ r.id := fun heq => hfirst (heq ▸ List.mem_map_of_mem hq)
            simp [Store.add, AList.mem_insert, hne]
          have hnew : newlyAccepted s (r :: rs) = r :: newlyAccepted s rs :=
            List.filter_cons_of_pos (by simpa using hmem)
          obtain ⟨hfits', hsame⟩ := ih hrest hfits
          rw [hothers] at hfits' hsame
          rw [hnew, Fits, hlookup]
          refine ⟨⟨hnext, hfits'⟩, ?_⟩
          rw [Store.addAll, Store.addAll, List.foldl_cons, List.foldl_cons,
            Store.addNew_of_none hlookup]
          exact hsame

theorem survives_reconstruct {s : Store} {ws : List Write} (h : Durable s ws) (now : String)
    {packet : PyVal} (hharmless : Harmless s (.reconstruct packet)) :
    match (reconstructPacket now packet).run s with
    | .ok _ t => ∃ more, Survives s t ws more
    | .error (.own _) t => t = s
    | .error (.builtin _) _ => True := by
  cases hv : verifyPacket s packet with
  | error e =>
      rw [reconstructPacket_of_error now hv]
      cases e with
      | own e => rfl
      | builtin b => trivial
  | ok v =>
      obtain ⟨hvalid, hnodup, hsha⟩ := verifyPacket_ordered h.wf hv
      have hdir : s.stateDir.isSome := by rw [h.dir]; rfl
      rw [reconstructPacket_run h.wf now hv, EStateM.run_bind]
      rcases hharmless v.ordered ⟨v, hv, rfl⟩ with ⟨hfits, hroom⟩ | ⟨hrefused, hnew⟩
      · have hsame : SameContents s (s.loggedNew now v) := .of_eq (by simp) (by simp)
        have hfits' : Fits (s.loggedNew now v) v.ordered := (fits_congr hsame).2 hfits
        have hwf := (evolves_addAll hvalid hfits').wf (wf_loggedNew h.wf now hvalid hsha)
        have hlen : ((s.loggedNew now v).addAll v.ordered).values.length ≤ maxPacketRecords := by
          by_cases hnil : newlyAccepted s v.ordered = []
          · rw [Store.loggedNew_of_nil now hnil, addAll_of_held (mem_of_newlyAccepted_nil hnil)]
            exact h.room
          · refine (hasRoom_addAll_iff now hvalid hnodup hfits').2 (hroom hnil) ?_
            rw [(sameWrites_addAll hvalid hfits').stateDir, Store.loggedNew_isSome]
            exact hdir
        rw [acceptAll_of_fits hvalid hfits']
        dsimp only
        rw [EStateM.run_bind, persistSnapshot_of_room hwf fun _ => hlen]
        dsimp only
        cases hreply : allowedReply v with
        | error f =>
            cases f with
            | own e => exact absurd hreply (foreign_allowedReply hv e)
            | builtin b => trivial
        | ok reply =>
            rw [run_lift_ok]
            dsimp only
            by_cases hnil : newlyAccepted s v.ordered = []
            · rw [Store.loggedNew_of_nil now hnil, addAll_of_held (mem_of_newlyAccepted_nil hnil)]
              exact ⟨_, survives_saved h⟩
            · have hlogged : s.loggedNew now v =
                  s.logged now "RECONSTRUCT_ALLOW" (reconstructPayload s v) := if_neg hnil
              have hwrites : SameWrites (s.logged now "RECONSTRUCT_ALLOW" (reconstructPayload s v))
                  ((s.loggedNew now v).addAll v.ordered) := by
                rw [← hlogged]
                exact sameWrites_addAll hvalid hfits'
              refine ⟨_, survives_event h now "RECONSTRUCT_ALLOW"
                (canonical_reconstructPayload hvalid hsha) hwrites hwf
                ((h.tidy.of_same hsame).addAll _) hlen fun b hb => ?_⟩
              -- only the new records are replayed, which comes to the same
              obtain ⟨hfitsNew, hadd⟩ := fits_newlyAccepted hnodup ((fits_congr hb).2 hfits)
              have hnewly : newlyAccepted b v.ordered = newlyAccepted s v.ordered := by
                refine List.filter_congr fun r _ => ?_
                rw [decide_eq_decide, not_iff_not]
                exact hb.mem_iff r.id
              rw [hnewly] at hfitsNew hadd
              have hvalidNew : ∀ r ∈ newlyAccepted s v.ordered, r.Valid :=
                fun r hr => hvalid r (List.mem_of_mem_filter hr)
              refine ⟨b.addAll v.ordered, ?_, (hsame.symm.trans hb).addAll v.ordered⟩
              rw [replay_reconstruct, acceptAll_of_fits hvalidNew hfitsNew, hadd]
      · rw [Store.loggedNew_eq_self now hnew]
        obtain ⟨e, t, haccept, hkeep, -⟩ :=
          acceptAll_of_not_fits hvalid (not_fits_of_refusedAtOnce hrefused)
        rw [haccept]
        exact hkeep hrefused

/-! ### Runs -/

/-- What has been written. -/
def Store.writes (s : Store) : List Write := s.stateDir.getD []

/-- The call is answered: it returns, or it raises an error of the core. -/
def Answered (a : SpacetimeADI) (now : String) (c : Call) : Prop :=
  ∀ f b, (c.run now).run a ≠ .error (.builtin f) b

/-- What a call does with a durable store: it returns and is survived, or it is refused and has changed
nothing. -/
theorem survives_call {a : SpacetimeADI} {ws : List Write} (h : Durable a.store ws) (now : String)
    (c : Call) (hharmless : Harmless a.store c) (hanswered : Answered a now c) :
    (∃ v b, (c.run now).run a = .ok v b ∧ ∃ more, Survives a.store b.store ws more) ∨
    ∃ e b, (c.run now).run a = .error e b ∧ b.store = a.store := by
  have hreading : ∀ {α : Type} (f : Store → Except Fault α),
      after ((SpacetimeADI.reading f).run a.store) = a.store := by
    intro α f
    have hrun : (SpacetimeADI.reading f).run a.store =
        (liftM (f a.store) : EStateM Fault Store α).run a.store := rfl
    rw [hrun]
    cases f a.store <;> rfl
  -- a call that leaves the store alone
  have hsame : (after ((c.run now).run a)).store = a.store →
      (∃ v b, (c.run now).run a = .ok v b ∧ ∃ more, Survives a.store b.store ws more) ∨
      ∃ e b, (c.run now).run a = .error e b ∧ b.store = a.store := by
    intro hstore
    cases hrun : (c.run now).run a with
    | ok v b =>
        rw [hrun, after_ok] at hstore
        refine .inl ⟨v, b, rfl, [], ?_⟩
        rw [hstore]
        exact survives_refl h
    | error e b =>
        rw [hrun, after_error] at hstore
        exact .inr ⟨e, b, rfl, hstore⟩
  cases c with
  | insert recordId timeSlot payload =>
      have hstep := survives_insert h now hharmless
      unfold Call.run SpacetimeADI.insert
      rw [EStateM.run_bind, SpacetimeADI.counted_run]
      cases hrun : (insertRecord now recordId timeSlot payload).run a.store with
      | ok r t =>
          rw [hrun] at hstep
          exact .inl ⟨_, _, rfl, hstep⟩
      | error e t =>
          rw [hrun] at hstep
          exact .inr ⟨_, _, rfl, hstep⟩
  | search startSlot endSlot limit =>
      refine hsame ?_
      unfold Call.run
      rw [after_bind_pure, SpacetimeADI.search, store_counted, hreading]
  | packet ids receiverLookup =>
      refine hsame ?_
      unfold Call.run SpacetimeADI.packet
      rw [store_counted, hreading]
  | exportState ids =>
      refine hsame ?_
      unfold Call.run
      rw [EStateM.run_bind, EStateM.run_get]
      dsimp only
      cases exportState a.store ids <;> rfl
  | reconstruct packet =>
      have hstep := survives_reconstruct h now hharmless
      unfold Answered Call.run SpacetimeADI.reconstruct at hanswered
      unfold Call.run SpacetimeADI.reconstruct
      rw [SpacetimeADI.counted_run] at hanswered ⊢
      cases hrun : (reconstructPacket now packet).run a.store with
      | ok v t =>
          rw [hrun] at hstep
          exact .inl ⟨_, _, rfl, hstep⟩
      | error e t =>
          rw [hrun] at hstep hanswered
          cases e with
          | own e => exact .inr ⟨_, _, rfl, hstep⟩
          | builtin f => exact absurd rfl (hanswered f _)

/-- The object after a list of calls. -/
def play (a : SpacetimeADI) (cs : List (String × Call)) : SpacetimeADI :=
  cs.foldl (fun a p => after ((p.2.run p.1).run a)) a

theorem play_cons (a : SpacetimeADI) (now : String) (c : Call) (cs : List (String × Call)) :
    play a ((now, c) :: cs) = play (after ((c.run now).run a)) cs := rfl

theorem play_append (a : SpacetimeADI) (cs ds : List (String × Call)) :
    play a (cs ++ ds) = play (play a cs) ds := List.foldl_append

/-- The calls that returned. -/
def acknowledged : SpacetimeADI → List (String × Call) → List (String × Call)
  | _, [] => []
  | a, (now, c) :: cs =>
      match (c.run now).run a with
      | .ok _ b => (now, c) :: acknowledged b cs
      | .error _ b => acknowledged b cs

/-- Every call of the list is answered. -/
def AllAnswered : SpacetimeADI → List (String × Call) → Prop
  | _, [] => True
  | a, (now, c) :: cs => Answered a now c ∧ AllAnswered (after ((c.run now).run a)) cs

/-- Every call of the list is harmless. -/
def AllHarmless : SpacetimeADI → List (String × Call) → Prop
  | _, [] => True
  | a, (now, c) :: cs => Harmless a.store c ∧ AllHarmless (after ((c.run now).run a)) cs

theorem allAnswered_append {cs ds : List (String × Call)} : ∀ {a : SpacetimeADI},
    AllAnswered a (cs ++ ds) ↔ AllAnswered a cs ∧ AllAnswered (play a cs) ds := by
  induction cs with
  | nil => exact fun {a} => by simp [AllAnswered, play]
  | cons p cs ih =>
      intro a
      rw [List.cons_append, AllAnswered, AllAnswered, ih, play_cons, and_assoc]

theorem allHarmless_append {cs ds : List (String × Call)} : ∀ {a : SpacetimeADI},
    AllHarmless a (cs ++ ds) ↔ AllHarmless a cs ∧ AllHarmless (play a cs) ds := by
  induction cs with
  | nil => exact fun {a} => by simp [AllHarmless, play]
  | cons p cs ih =>
      intro a
      rw [List.cons_append, AllHarmless, AllHarmless, ih, play_cons, and_assoc]

/-- What a call leaves in the store does not depend on the counters. -/
theorem call_store_congr {a a' : SpacetimeADI} (h : a'.store = a.store) (now : String) (c : Call) :
    (after ((c.run now).run a')).store = (after ((c.run now).run a)).store := by
  cases c with
  | insert recordId timeSlot payload =>
      unfold Call.run
      rw [after_bind_pure, after_bind_pure, SpacetimeADI.insert, store_counted, store_counted, h]
  | search startSlot endSlot limit =>
      unfold Call.run
      rw [after_bind_pure, after_bind_pure, SpacetimeADI.search, store_counted, store_counted, h]
  | packet ids receiverLookup =>
      unfold Call.run SpacetimeADI.packet
      rw [store_counted, store_counted, h]
  | exportState ids =>
      unfold Call.run
      rw [EStateM.run_bind, EStateM.run_get, EStateM.run_bind, EStateM.run_get]
      dsimp only
      rw [h]
      cases exportState a.store ids with
      | ok v => exact h
      | error e => exact h
  | reconstruct packet =>
      unfold Call.run SpacetimeADI.reconstruct
      rw [store_counted, store_counted, h]

/-- In a run of harmless calls the store stays durable, and it is the one that the calls that returned
make by themselves. -/
theorem durable_play {cs : List (String × Call)} : ∀ {a a' : SpacetimeADI} {ws : List Write},
    Durable a.store ws → a'.store = a.store → AllAnswered a cs → AllHarmless a cs →
      (play a' (acknowledged a cs)).store = (play a cs).store ∧ ∃ ws', Durable (play a cs).store ws' := by
  induction cs with
  | nil => exact fun h heq _ _ => ⟨heq, _, h⟩
  | cons p cs ih =>
      intro a a' ws h heq hanswered hharmless
      obtain ⟨now, c⟩ := p
      obtain ⟨hanswer, hanswered⟩ := hanswered
      obtain ⟨hcall, hharmless⟩ := hharmless
      rw [acknowledged, play_cons]
      rcases survives_call h now c hcall hanswer with ⟨v, b, hrun, more, hstep⟩ | ⟨e, b, hrun, hstore⟩
      · rw [hrun] at hanswered hharmless ⊢
        dsimp only
        rw [play_cons]
        refine ih hstep.durable ?_ hanswered hharmless
        rw [call_store_congr heq, hrun]
        rfl
      · rw [hrun] at hanswered hharmless ⊢
        dsimp only
        refine @ih _ _ ws ?_ ?_ hanswered hharmless
        · rw [hstore]
          exact h
        · rw [hstore]
          exact heq

/-- When the process dies during a call, after any complete write, a store can be constructed again, and
it holds what the acknowledged calls have put there, or that and what the call in progress puts there,
whose event was appended. -/
def Recovers (a : SpacetimeADI) (cs : List (String × Call)) (now : String) (c : Call) : Prop :=
  ∀ p, (play a cs).store.writes <+: p → p <+: (play a (cs ++ [(now, c)])).store.writes →
    ∀ restart, ∃ t, construct restart (some p) = .ok t ∧
      (SameContents (play a (acknowledged a cs)).store t ∨
        eventsOf p ≠ eventsOf (play a cs).store.writes ∧
          SameContents (play a (acknowledged a cs ++ [(now, c)])).store t)

theorem recovers_of_harmless {a : SpacetimeADI} {ws : List Write} (h : Durable a.store ws)
    {cs : List (String × Call)} {now : String} {c : Call} (hanswered : AllAnswered a cs)
    (hharmless : AllHarmless a cs) (hanswer : Answered (play a cs) now c)
    (hcall : Harmless (play a cs).store c) : Recovers a cs now c := by
  obtain ⟨hplay, ws', hdurable⟩ := durable_play h rfl hanswered hharmless
  have hwrites : (play a cs).store.writes = ws' := by rw [Store.writes, hdurable.dir]; rfl
  have hlast : play a (cs ++ [(now, c)]) = after ((c.run now).run (play a cs)) := play_append _ _ _
  have hlast' : (play a (acknowledged a cs ++ [(now, c)])).store =
      (after ((c.run now).run (play a cs))).store := by
    rw [play_append]
    exact call_store_congr hplay now c
  -- the step that the process dies in
  obtain ⟨more, hstep⟩ : ∃ more,
      Survives (play a cs).store (after ((c.run now).run (play a cs))).store ws' more := by
    rcases survives_call hdurable now c hcall hanswer with ⟨v, b, hrun, more, hstep⟩ |
      ⟨e, b, hrun, hstore⟩
    · rw [hrun]
      exact ⟨more, hstep⟩
    · rw [hrun, after_error, hstore]
      exact ⟨[], survives_refl hdurable⟩
  intro p hbefore hafter restart
  rw [hlast, Store.writes, hstep.durable.dir] at hafter
  rw [hwrites] at hbefore
  obtain ⟨q, rfl⟩ := hbefore
  have hq : q <+: more := (List.prefix_append_right_inj ws').1 hafter
  obtain ⟨r, hr, hbefore, hafter⟩ := hstep.middle q hq
  have hlen : r.values.length ≤ maxPacketRecords := by
    by_cases hnil : eventsOf q = []
    · rw [(hbefore hnil).length_values hdurable.wf (wf_of_restored hr)]
      exact hdurable.room
    · rw [(hafter hnil).length_values hstep.durable.wf (wf_of_restored hr)]
      exact hstep.durable.room
  obtain ⟨t, ht, hsame⟩ := construct_of_restored hr hlen restart
  refine ⟨t, ht, ?_⟩
  rw [hplay, hlast', hwrites, eventsOf_append]
  by_cases hnil : eventsOf q = []
  · exact .inl ((hbefore hnil).trans hsame)
  · exact .inr ⟨by simpa using hnil, (hafter hnil).trans hsame⟩

/-- A process that dies while a store is constructed loses nothing either. -/
theorem recovers_construct {start : String} {ws : List Write} {s₀ : Store}
    (h : construct start (some ws) = .ok s₀) (p : List Write) (hbefore : ws <+: p)
    (hafter : p <+: s₀.writes) (restart : String) :
    ∃ t, construct restart (some p) = .ok t ∧ SameContents s₀ t := by
  obtain ⟨more, hdurable⟩ := durable_of_construct h
  have hend : s₀.writes = ws ++ more := by
    rw [Store.writes, hdurable.dir]
    rfl
  -- it is enough that the contents are restored
  obtain ⟨t, ht, hsame⟩ : ∃ t, Restored p t ∧ SameContents s₀ t := by
    obtain ⟨r, hr, -, rfl⟩ := construct_eq_ok_iff.1 h
    obtain ⟨hdir, -⟩ := chained_of_restored hr
    have hsame : SameContents (r.announced start (snapshotOf ws)).saved r :=
      (SameContents.of_eq (by simp) (by simp)).symm
    obtain ⟨q, rfl⟩ := hbefore
    cases hsnapshot : snapshotOf ws with
    | some v =>
        rw [hsnapshot] at hafter hdurable hsame hend
        have hwrites : (r.announced start (some v)).saved.writes =
            ws ++ [.snapshot (r.announced start (some v)).snapshotDoc] := by
          rw [Store.writes, Store.saved, Store.announced, hdir]
          rfl
        rw [hwrites] at hafter hend
        rcases List.prefix_cons_iff.1 ((List.prefix_append_right_inj ws).1 hafter) with
          rfl | ⟨q', rfl, hq'⟩
        · exact ⟨r, by rwa [List.append_nil], hsame⟩
        · obtain rfl := List.prefix_nil.1 hq'
          rw [← hend] at hdurable
          exact hdurable.restored
    | none =>
        rw [hsnapshot] at hafter hdurable hsame hend
        have hwrites : (r.announced start none).saved.writes = ws ++ [.event (announcement r start),
            .snapshot (r.announced start none).snapshotDoc] := by
          rw [Store.writes, Store.saved, Store.announced, Store.logged, hdir]
          exact List.append_assoc _ _ _
        rw [hwrites] at hafter hend
        rcases List.prefix_cons_iff.1 ((List.prefix_append_right_inj ws).1 hafter) with
          rfl | ⟨q', rfl, hq'⟩
        · exact ⟨r, by rwa [List.append_nil], hsame⟩
        · rcases List.prefix_cons_iff.1 hq' with rfl | ⟨q'', rfl, hq''⟩
          · obtain ⟨r', hr', hsame'⟩ := restored_announcement hr hsnapshot start
            exact ⟨r', hr', hsame.trans hsame'⟩
          · obtain rfl := List.prefix_nil.1 hq''
            rw [← hend] at hdurable
            exact hdurable.restored
  have hlen : t.values.length ≤ maxPacketRecords := by
    rw [hsame.length_values hdurable.wf (wf_of_restored ht)]
    exact hdurable.room
  obtain ⟨u, hu, hsame'⟩ := construct_of_restored ht hlen restart
  exact ⟨u, hu, hsame.trans hsame'⟩

/-- **Recovery after a crash.**  A store is constructed with a state directory, whatever has been
written there before, and calls are made that are answered and harmless.  When the process dies while
the store is constructed or during a call, after any complete write, a store can be constructed again
from what has been written.  It has the records and the slots that result from the acknowledged calls,
or from these and the call in progress, once the event of that call was appended. -/
theorem recovery (start : String) (ws : List Write) (s₀ : Store)
    (h : construct start (some ws) = .ok s₀) :
    (∀ p, ws <+: p → p <+: s₀.writes → ∀ restart, ∃ t, construct restart (some p) = .ok t ∧
      SameContents s₀ t) ∧
    ∀ (cs : List (String × Call)) (now : String) (c : Call),
      AllAnswered (.new s₀) (cs ++ [(now, c)]) → AllHarmless (.new s₀) (cs ++ [(now, c)]) →
      Recovers (.new s₀) cs now c := by
  refine ⟨recovers_construct h, fun cs now c hanswered hharmless => ?_⟩
  obtain ⟨more, hdurable⟩ := durable_of_construct h
  have hanswer := allAnswered_append.1 hanswered
  have hharm := allHarmless_append.1 hharmless
  exact recovers_of_harmless (a := .new s₀) hdurable hanswer.1 hharm.1 hanswer.2.1 hharm.2.1

theorem lookup_of_values_nil {s : Store} (h : s.values = []) (id : PyStr) :
    s.records.lookup id = none := by
  have hentries : s.records.entries = [] := List.map_eq_nil_iff.1 h
  rw [AList.lookup_eq_none, AList.mem_keys, AList.keys, hentries]
  simp

theorem bucket_of_values_nil {s : Store} (hs : s.WF) (h : s.values = []) (slot : ℕ) :
    s.bucket slot = [] := by
  refine List.eq_nil_iff_forall_not_mem.2 fun id hid => ?_
  obtain ⟨r, hr, -⟩ := (hs.mem_bucket_iff slot id).1 hid
  rw [lookup_of_values_nil h] at hr
  exact absurd hr (by simp)

theorem exists_constructed : ∃ s₀, construct "" (some []) = .ok s₀ ∧ s₀.WF ∧ s₀.values = [] := by
  have hrestored : Restored [] (.empty (some [])) := rfl
  refine ⟨_, construct_eq_ok_iff.2 ⟨_, hrestored, Nat.zero_le _, rfl⟩,
    wf_saved (wf_announced (.empty _) _ _), ?_⟩
  rw [Store.values, Store.saved_records, Store.announced_records]
  rfl

theorem recovery_start : ∃ s₀, construct "" (some []) = .ok s₀ ∧
    Recovers (.new s₀) [] "" (.insert (lit "a") (.int 0) (obj [])) := by
  obtain ⟨s₀, h₀, hwf, hempty⟩ := exists_constructed
  have hroom : RoomFor s₀ 1 := by
    intro _
    rw [hempty]
    decide
  have hharmless : AllHarmless (.new s₀) [("", .insert (lit "a") (.int 0) (obj []))] :=
    ⟨fun _ _ => hroom, trivial⟩
  have hanswered : Answered (.new s₀) "" (.insert (lit "a") (.int 0) (obj [])) := by
    intro f b hrun
    rw [Call.run, bind_pure_error_iff, SpacetimeADI.insert, SpacetimeADI.counted_run] at hrun
    obtain ⟨r, hr, -⟩ := exists_newRecord s₀ (cp "a") 0 (by decide)
      (lookup_of_values_nil hempty _) (by decide)
    obtain ⟨q, t, hok⟩ := insertRecord_of_new hwf "" hr hroom
    rw [show (SpacetimeADI.new s₀).store = s₀ from rfl] at hrun
    erw [hok] at hrun
    exact absurd hrun (by simp)
  exact ⟨s₀, h₀, (recovery "" [] s₀ h₀).2 [] "" _ ⟨hanswered, trivial⟩ hharmless⟩

/-- A packet that is refused after its event was appended is refused again when the store is
constructed. -/
theorem lost_of_logged {a : SpacetimeADI} {ws : List Write} (h : Durable a.store ws) (now : String)
    {packet : PyVal} {v : Verified} (hv : verifyPacket a.store packet = .ok v)
    (hnot : ¬Fits a.store (newlyAccepted a.store v.ordered)) :
    Answered a now (.reconstruct packet) ∧ ∃ e,
      (after (((Call.reconstruct packet).run now).run a)).store.writes = ws ++ [.event e] ∧
      ∀ restart t, construct restart (some (ws ++ [.event e])) ≠ .ok t := by
  obtain ⟨hvalid, hnodup, hsha⟩ := verifyPacket_ordered h.wf hv
  have hnil : newlyAccepted a.store v.ordered ≠ [] := fun hnil => hnot (hnil ▸ trivial)
  have hlogged : a.store.loggedNew now v =
      a.store.logged now "RECONSTRUCT_ALLOW" (reconstructPayload a.store v) := if_neg hnil
  have hfits : ¬Fits (a.store.loggedNew now v) v.ordered := fun hfits =>
    hnot (fits_newlyAccepted hnodup ((fits_congr (.of_eq (by simp) (by simp))).1 hfits)).1
  obtain ⟨e, t, haccept, -⟩ := acceptAll_of_not_fits hvalid hfits
  have hrun : (reconstructPacket now packet).run a.store = .error (.own e) t := by
    rw [reconstructPacket_run h.wf now hv, EStateM.run_bind, haccept]
  obtain ⟨b, hcall, rfl⟩ := call_reconstruct_error now hrun
  refine ⟨fun f b' => by rw [hcall]; simp,
    eventDoc a.store now "RECONSTRUCT_ALLOW" (reconstructPayload a.store v), ?_, ?_⟩
  · have hwrites := (sameWrites_acceptAll (v.ordered.map Rec.toVal) (a.store.loggedNew now v)).stateDir
    rw [haccept, after_error, hlogged, Store.logged, h.dir] at hwrites
    rw [hcall, after_error, Store.writes, hwrites]
    rfl
  · intro restart u hconstruct
    obtain ⟨r, hr, -⟩ := construct_eq_ok_iff.1 hconstruct
    obtain ⟨b', hsame, hrestore⟩ := h.restore_event now "RECONSTRUCT_ALLOW"
      (canonical_reconstructPayload hvalid hsha)
    have hfits' : ¬Fits b' (newlyAccepted a.store v.ordered) := fun hf => hnot ((fits_congr hsame).1 hf)
    have hvalidNew : ∀ r ∈ newlyAccepted a.store v.ordered, r.Valid :=
      fun r hr => hvalid r (List.mem_of_mem_filter hr)
    obtain ⟨e', t', haccept', -⟩ := acceptAll_of_not_fits hvalidNew hfits'
    rw [replay_reconstruct, haccept', hr] at hrestore
    exact absurd hrestore (by simp)

/-- A store that got the packet of the second record of a slot alone cannot be constructed again. -/
theorem not_recovered :
    ¬∀ (start : String) (ws : List Write) (s₀ : Store), construct start (some ws) = .ok s₀ →
      ∀ (cs : List (String × Call)) (now : String) (c : Call),
        AllAnswered (.new s₀) (cs ++ [(now, c)]) → Recovers (.new s₀) cs now c := by
  intro h
  obtain ⟨s₀, h₀, hwf, hempty⟩ := exists_constructed
  obtain ⟨more, hdurable⟩ := durable_of_construct h₀
  obtain ⟨p, r, hindex, -, hcarries⟩ := exists_gap_packet
  obtain ⟨v, hv, hordered⟩ := hcarries s₀ hwf hempty
  have hnone := lookup_of_values_nil hempty r.id
  have hbucket := bucket_of_values_nil hwf hempty r.timeSlot
  have hnew : newlyAccepted s₀ v.ordered = [r] := by
    rw [hordered, newlyAccepted, List.filter_cons_of_pos]
    · rfl
    · simpa using AList.lookup_eq_none.1 hnone
  have hnot : ¬Fits s₀ (newlyAccepted s₀ v.ordered) := by
    rw [hnew, Fits, hnone]
    rintro ⟨hnext, -⟩
    rw [hbucket] at hnext
    exact hindex hnext
  obtain ⟨hanswered, e, hwrites, hlost⟩ := lost_of_logged (a := .new s₀) hdurable "" hv hnot
  have hstart : (play (.new s₀) []).store.writes = [] ++ more := by
    show s₀.stateDir.getD [] = [] ++ more
    rw [hdurable.dir]
    rfl
  obtain ⟨t, ht, -⟩ := h "" [] s₀ h₀ [] "" (.reconstruct p) ⟨hanswered, trivial⟩
    ([] ++ more ++ [.event e]) (hstart ▸ List.prefix_append _ _) (hwrites ▸ List.prefix_rfl) ""
  exact hlost "" t ht

end Adi
