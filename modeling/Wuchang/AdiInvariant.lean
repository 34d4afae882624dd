/-
**The invariant of the store.**

The bucket of a slot lists the ids of the slot's records by collision index: the `k`-th id is that of
the record with the collision index `k`.  This ties the buckets to the records completely, so the
records alone determine every bucket.  Every method keeps the invariant, whether it returns or raises,
and no method takes a record away or changes it.

Main definitions:

* `Adi.Store.WF` — the invariant;
* `Adi.Store.Holds` — a record is in the store;
* `Adi.Evolves` — the invariant is kept and the records stay;
* `Adi.Reachable` — the objects of the runs from a constructed store.

Main results:

* `Adi.acceptRecord_run` — what accepting a valid record does, in every case;
* `Adi.keeps_call` — every call keeps the invariant and the records;
* `Adi.store_invariant` — the invariant over whole runs.
-/

import Wuchang.AdiService
import Mathlib.Logic.Relation

set_option relaxedAutoImplicit false
set_option autoImplicit false

namespace Adi

open Py

variable {α β : Type}

/-! ### Well-formed stores -/

namespace Store

/-- The record is in the store. -/
def Holds (s : Store) (r : Rec) : Prop := s.records.lookup r.id = some r

/-- The invariant of a store. -/
structure WF (s : Store) : Prop where
  /-- Records are kept under their ids, and they are valid. -/
  valid : ∀ id r, s.records.lookup id = some r → r.id = id ∧ r.Valid
  /-- The `k`-th id of a bucket is that of the record of the slot with the collision index `k`. -/
  bucket_iff : ∀ slot k id, (s.bucket slot)[k]? = some id ↔
    ∃ r, s.records.lookup id = some r ∧ r.timeSlot = slot ∧ r.collisionIndex = k
  /-- The hash of the last event is a text that can be written. -/
  encodable_last : ∀ h, s.lastEventSha256 = some h → Encodable h

/-- The store with a bucket for the slot. -/
def touch (s : Store) (slot : ℕ) : Store :=
  match s.slots.lookup slot with
  | some _ => s
  | none => { s with slots := s.slots.insert slot [] }

/-- The store with one more record. -/
def add (s : Store) (r : Rec) : Store :=
  { s with
    slots := s.slots.insert r.timeSlot (s.bucket r.timeSlot ++ [r.id])
    records := s.records.insert r.id r }

variable {s : Store} {r : Rec}

@[simp] theorem touch_records (s : Store) (slot : ℕ) : (s.touch slot).records = s.records := by
  unfold touch
  cases s.slots.lookup slot <;> rfl

@[simp] theorem touch_bucket (s : Store) (slot slot' : ℕ) :
    (s.touch slot).bucket slot' = s.bucket slot' := by
  unfold touch
  cases h : s.slots.lookup slot with
  | some b => rfl
  | none =>
      by_cases heq : slot' = slot
      · subst heq
        simp [bucket, h]
      · simp [bucket, AList.lookup_insert_ne heq]

@[simp] theorem touch_lastEventSha256 (s : Store) (slot : ℕ) :
    (s.touch slot).lastEventSha256 = s.lastEventSha256 := by
  unfold touch
  cases s.slots.lookup slot <;> rfl

theorem add_bucket_self (s : Store) (r : Rec) :
    (s.add r).bucket r.timeSlot = s.bucket r.timeSlot ++ [r.id] := by
  simp [add, bucket]

theorem add_bucket_ne (s : Store) (r : Rec) {slot : ℕ} (h : slot ≠ r.timeSlot) :
    (s.add r).bucket slot = s.bucket slot := by
  simp [add, bucket, AList.lookup_insert_ne h]

theorem add_lookup_self (s : Store) (r : Rec) : (s.add r).records.lookup r.id = some r := by
  simp [add]

theorem add_lookup_ne (s : Store) (r : Rec) {id : PyStr} (h : id ≠ r.id) :
    (s.add r).records.lookup id = s.records.lookup id := by
  simp [add, AList.lookup_insert_ne h]

/-- A store without records is well-formed. -/
theorem WF.empty (stateDir : Option (List Write)) : (Store.empty stateDir).WF where
  valid := by simp [Store.empty]
  bucket_iff := by simp [Store.empty, bucket]
  encodable_last := by simp [Store.empty]

theorem WF.touch (h : s.WF) (slot : ℕ) : (s.touch slot).WF where
  valid := by simpa using h.valid
  bucket_iff := by simpa using h.bucket_iff
  encodable_last := by simpa using h.encodable_last

/-- The next record of its slot keeps the invariant. -/
theorem WF.add (h : s.WF) (hr : r.Valid) (hfresh : s.records.lookup r.id = none)
    (hnext : r.collisionIndex = (s.bucket r.timeSlot).length) : (s.add r).WF where
  valid := by
    intro id q hq
    by_cases hid : id = r.id
    · subst hid
      rw [add_lookup_self, Option.some.injEq] at hq
      exact ⟨congrArg Rec.id hq.symm, hq ▸ hr⟩
    · rw [add_lookup_ne s r hid] at hq
      exact h.valid id q hq
  bucket_iff := by
    intro slot k id
    by_cases hid : id = r.id
    · subst hid
      -- the new id is nowhere yet
      have hnew : ∀ slot k : ℕ, (s.bucket slot)[k]? ≠ some r.id := by
        intro slot k hk
        obtain ⟨q, hq, -, -⟩ := (h.bucket_iff slot k r.id).1 hk
        rw [hfresh] at hq
        exact absurd hq (by simp)
      rw [add_lookup_self]
      simp only [Option.some.injEq, exists_eq_left']
      by_cases hslot : slot = r.timeSlot
      · subst hslot
        rw [add_bucket_self, List.getElem?_append, hnext]
        split_ifs with hlt
        · exact iff_of_false (hnew _ _) (by omega)
        · rw [List.getElem?_singleton]
          split_ifs with hk
          · exact iff_of_true rfl ⟨rfl, by omega⟩
          · exact iff_of_false (by simp) (by omega)
      · rw [add_bucket_ne s r hslot]
        exact iff_of_false (hnew _ _) (fun ⟨heq, _⟩ => hslot heq.symm)
    · rw [add_lookup_ne s r hid, ← h.bucket_iff]
      by_cases hslot : slot = r.timeSlot
      · subst hslot
        rw [add_bucket_self, List.getElem?_append]
        split_ifs with hlt
        · rfl
        · rw [List.getElem?_singleton, List.getElem?_eq_none (by omega)]
          split_ifs with hk
          · simp [Ne.symm hid]
          · simp
      · rw [add_bucket_ne s r hslot]
  encodable_last := h.encodable_last

theorem WF.of_eq {t : Store} (h : s.WF) (hrec : t.records = s.records) (hslots : t.slots = s.slots)
    (hlast : ∀ x, t.lastEventSha256 = some x → Encodable x) : t.WF where
  valid := hrec ▸ h.valid
  bucket_iff := by
    have hb : ∀ slot, t.bucket slot = s.bucket slot := fun slot => by rw [bucket, bucket, hslots]
    simpa only [hb, hrec] using h.bucket_iff
  encodable_last := hlast

end Store

/-! ### What every method keeps -/

/-- The invariant is kept, and the records stay as they are. -/
structure Evolves (s t : Store) : Prop where
  wf : s.WF → t.WF
  keeps : ∀ id r, s.records.lookup id = some r → t.records.lookup id = some r

theorem Evolves.refl (s : Store) : Evolves s s := ⟨id, fun _ _ => id⟩

theorem Evolves.trans {s t u : Store} (hst : Evolves s t) (htu : Evolves t u) : Evolves s u :=
  ⟨htu.wf ∘ hst.wf, fun id r h => htu.keeps id r (hst.keeps id r h)⟩

/-- A method of the store that keeps the invariant and the records. -/
abbrev Tame (x : EStateM Fault Store α) : Prop := Keeps Evolves x

theorem tame_pure (a : α) : Tame (pure a : EStateM Fault Store α) := .pure .refl a

theorem tame_lift (x : Except Fault α) : Tame (liftM x : EStateM Fault Store α) := .lift .refl x

theorem Tame.bind {x : EStateM Fault Store α} {f : α → EStateM Fault Store β} (hx : Tame x)
    (hf : ∀ a, Tame (f a)) : Tame (x >>= f) := Keeps.bind .trans hx hf

/-! ### Accepting a record -/

theorem setDefaultBucket_run (slot : ℕ) (s : Store) :
    (setDefaultBucket slot).run s = .ok () (s.touch slot) := by
  unfold setDefaultBucket Store.touch
  rw [EStateM.run_bind, EStateM.run_get]
  dsimp only
  cases s.slots.lookup slot <;> rfl

theorem add_touch (s : Store) (r : Rec) :
    ({ s.touch r.timeSlot with
      slots := (s.touch r.timeSlot).slots.insert r.timeSlot (s.bucket r.timeSlot ++ [r.id])
      records := (s.touch r.timeSlot).records.insert r.id r } : Store) = s.add r := by
  unfold Store.touch Store.add
  cases s.slots.lookup r.timeSlot with
  | some b => rfl
  | none => simp

/-- The error of a record that contradicts one with the same id. -/
def conflict : Fault := .own ⟨"APPEND_ONLY_RECORD_CONFLICT", cp "$.id"⟩

/-- The error of a record that is not the next one of its slot. -/
def orderMismatch : Fault := .own ⟨"SPIRAL_COLLISION_ORDER_MISMATCH", cp "$.collision_index"⟩

/-- What accepting a valid record does: a record with its id is there and equal or not, or the record
is the next one of its slot or not. -/
theorem acceptRecord_run {r : Rec} (hr : r.Valid) (s : Store) :
    (acceptRecord r.toVal).run s = match s.records.lookup r.id with
      | some e => if e.toVal.eq r.toVal then .ok false s else .error conflict s
      | none =>
          if r.collisionIndex = (s.bucket r.timeSlot).length then .ok true (s.add r)
          else .error orderMismatch (s.touch r.timeSlot) := by
  unfold acceptRecord
  rw [hr.validate, EStateM.run_bind, run_lift_ok]
  dsimp only
  rw [EStateM.run_bind, EStateM.run_get]
  dsimp only
  cases s.records.lookup r.id with
  | some e =>
      dsimp only
      by_cases heq : e.toVal.eq r.toVal
      · rw [if_pos heq, holdIf_neg (not_not.2 heq)]
        rfl
      · rw [if_neg heq, holdIf_pos heq]
        rfl
  | none =>
      dsimp only
      rw [EStateM.run_bind, setDefaultBucket_run]
      dsimp only
      by_cases hnext : r.collisionIndex = (s.bucket r.timeSlot).length
      · rw [if_pos hnext, holdIf_neg (not_not.2 hnext), ← add_touch]
        rfl
      · rw [if_neg hnext, holdIf_pos hnext]
        rfl

/-- Accepting anything is refused at once, or it is accepting a valid record. -/
theorem acceptRecord_cases (v : PyVal) (s : Store) :
    (∃ e, (acceptRecord v).run s = .error e s) ∨
    ∃ r : Rec, r.Valid ∧ validateSuppliedRecord v = .ok r ∧
      (acceptRecord v).run s = (acceptRecord r.toVal).run s := by
  cases h : validateSuppliedRecord v with
  | error e =>
      refine .inl ⟨e, ?_⟩
      unfold acceptRecord
      rw [h]
      rfl
  | ok r =>
      have hr := valid_of_validate h
      refine .inr ⟨r, hr, rfl, ?_⟩
      unfold acceptRecord
      rw [h, hr.validate]

theorem evolves_touch (s : Store) (slot : ℕ) : Evolves s (s.touch slot) :=
  ⟨fun h => h.touch slot, fun id r h => by rwa [Store.touch_records]⟩

theorem evolves_add {s : Store} {r : Rec} (hr : r.Valid) (hfresh : s.records.lookup r.id = none)
    (hnext : r.collisionIndex = (s.bucket r.timeSlot).length) : Evolves s (s.add r) := by
  refine ⟨fun h => h.add hr hfresh hnext, fun id q hq => ?_⟩
  have hid : id ≠ r.id := by
    rintro rfl
    rw [hfresh] at hq
    exact absurd hq (by simp)
  rwa [Store.add_lookup_ne s r hid]

theorem tame_acceptRecord (v : PyVal) : Tame (acceptRecord v) := by
  intro s
  rcases acceptRecord_cases v s with ⟨e, h⟩ | ⟨r, hr, -, h⟩
  · rw [h]
    exact .refl s
  · rw [h, acceptRecord_run hr]
    cases hlookup : s.records.lookup r.id with
    | some e =>
        dsimp only
        split_ifs
        · exact .refl s
        · exact .refl s
    | none =>
        dsimp only
        split_ifs with hnext
        · exact evolves_add hr hlookup hnext
        · exact evolves_touch s r.timeSlot

theorem tame_acceptAll (vs : List PyVal) : Tame (acceptAll vs) := by
  induction vs with
  | nil => exact tame_pure ()
  | cons v vs ih => exact (tame_acceptRecord v).bind fun _ => ih

/-! ### The writes -/

/-- The two writes touch nothing but what is under the state directory, and the chain of events. -/
theorem tame_appendEvent (now ty : String) (payload : PyVal) : Tame (appendEvent now ty payload) := by
  intro s
  unfold appendEvent
  rw [EStateM.run_bind, EStateM.run_get]
  dsimp only
  cases s.stateDir with
  | none => exact .refl s
  | some ws =>
      dsimp only
      cases hp : normalize payload with
      | error e => exact .refl s
      | ok p =>
          rw [EStateM.run_bind, run_lift_ok]
          dsimp only
          cases hsha : canonicalSha256 (.dict (eventBasis s now ty p)) with
          | error e => exact .refl s
          | ok sha =>
              rw [EStateM.run_bind, run_lift_ok]
              dsimp only
              cases written (.dict (setKey (cp "event_sha256") (.str sha)
                  (eventBasis s now ty p))) with
              | error e => exact .refl s
              | ok event =>
                  obtain ⟨w, -, -, rfl⟩ := canonicalSha256_eq_ok_iff.1 hsha
                  refine ⟨fun h => h.of_eq rfl rfl ?_, fun _ _ h => h⟩
                  rintro _ ⟨⟩
                  exact Sha256.encodable_hexdigest _

theorem tame_persistSnapshot : Tame persistSnapshot := by
  intro s
  unfold persistSnapshot
  rw [EStateM.run_bind, EStateM.run_get]
  dsimp only
  cases s.stateDir with
  | none => exact .refl s
  | some ws =>
      dsimp only
      cases exportState s .none with
      | error e => exact .refl s
      | ok state =>
          rw [EStateM.run_bind, run_lift_ok]
          dsimp only
          cases canonicalSha256 state with
          | error e => exact .refl s
          | ok sha =>
              rw [EStateM.run_bind, run_lift_ok]
              dsimp only
              cases written (.dict (setKey (cp "state_sha256") (.str sha) (snapshotBasis s state))) with
              | error e => exact .refl s
              | ok v => exact ⟨fun h => h.of_eq rfl rfl h.encodable_last, fun _ _ h => h⟩

/-! ### The methods -/

theorem tame_insertRecord (now : String) (recordId timeSlot payload : PyVal) :
    Tame (insertRecord now recordId timeSlot payload) := by
  refine Keeps.get_bind fun s => ?_
  refine Tame.bind (tame_lift _) (fun safeId => .bind (tame_lift _) fun safeSlot => ?_) s
  cases s.records.lookup safeId with
  | some existing =>
      exact .bind (tame_lift _) fun _ => .bind (tame_lift _) fun _ => tame_pure _
  | none =>
      exact .bind (tame_lift _) fun record => .bind (tame_appendEvent _ _ _) fun _ =>
        .bind (tame_acceptRecord _) fun _ => .bind tame_persistSnapshot fun _ => tame_pure _

theorem tame_appendReconstruction (now : String) (v : Verified) :
    Tame (appendReconstruction now v) := by
  refine Keeps.get_bind fun s => ?_
  by_cases h : newlyAccepted s v.ordered = []
  · rw [if_pos h]
    exact tame_pure () s
  · rw [if_neg h]
    exact tame_appendEvent _ _ _ s

theorem tame_reconstructPacket (now : String) (packet : PyVal) :
    Tame (reconstructPacket now packet) := by
  refine Keeps.get_bind fun s => ?_
  refine Tame.bind (tame_lift _) (fun v => ?_) s
  exact .bind (tame_appendReconstruction now v) fun _ => .bind (tame_acceptAll _) fun _ =>
    .bind tame_persistSnapshot fun _ => .bind (tame_lift _) fun _ => tame_pure _

theorem tame_replayEvent (event : PyVal) : Tame (replayEvent event) := by
  unfold replayEvent
  split_ifs
  · exact .bind (tame_lift _) fun _ => .bind (tame_acceptRecord _) fun _ => tame_pure ()
  · exact .bind (tame_lift _) fun _ => .bind (tame_lift _) fun _ => tame_acceptAll _
  · exact tame_lift _

theorem tame_replayAll (events : List PyVal) : Tame (replayAll events) := by
  induction events with
  | nil => exact tame_pure ()
  | cons event events ih => exact (tame_replayEvent event).bind fun _ => ih

theorem tame_loadSnapshot (snapshot : Option PyVal) : Tame (loadSnapshot snapshot) := by
  cases snapshot with
  | none => exact tame_pure 0
  | some snapshot =>
      exact .bind (tame_lift _) fun p => .bind (tame_acceptAll _) fun _ => tame_lift _

/-- The hash that a line of the log leaves behind is a digest. -/
theorem readLog_last (sequence : ℤ) (events : List PyVal) :
    ∀ (i : ℕ) (previous : PyVal) (p : List PyVal × PyVal),
      readLog sequence i previous events = .ok p → (∀ h, lastSha previous = some h → Encodable h) →
      ∀ h, lastSha p.2 = some h → Encodable h := by
  induction events with
  | nil =>
      intro i previous p hp hprev
      obtain rfl := pure_eq_ok_iff.1 hp
      exact hprev
  | cons event events ih =>
      intro i previous p hp _
      simp only [readLog, checkEvent, bind_eq_ok_iff, holdIf_eq_ok_iff, pure_eq_ok_iff, not_not,
        PyVal.eq_str] at hp
      obtain ⟨_, ⟨_, -, _, -, _, -, basis, -, sha, hsha, heq⟩, q, hq, rfl⟩ := hp
      obtain ⟨w, -, -, rfl⟩ := canonicalSha256_eq_ok_iff.1 hsha
      have hlast := ih (i + 1) _ q hq (by
        rw [heq]
        rintro _ ⟨⟩
        exact Sha256.encodable_hexdigest _)
      split_ifs
      · exact hlast
      · exact hlast

theorem tame_loadLog (events : List PyVal) (sequence : ℤ) : Tame (loadLog events sequence) := by
  intro s
  unfold loadLog
  cases h : readLog sequence 0 .none events with
  | error e => exact .refl s
  | ok p =>
      have hlast := readLog_last sequence events 0 .none p h (by simp [lastSha])
      have hstep : Evolves s
          { s with eventSequence := events.length, lastEventSha256 := lastSha p.2 } :=
        ⟨fun hs => hs.of_eq rfl rfl hlast, fun _ _ h => h⟩
      exact hstep.trans (tame_replayAll p.1 _)

theorem tame_announce (now : String) (snapshot : Option PyVal) : Tame (announce now snapshot) := by
  cases snapshot with
  | none => exact tame_appendEvent _ _ _
  | some _ => exact tame_pure ()

theorem tame_load (now : String) : Tame (load now) := by
  refine Keeps.get_bind fun s => ?_
  cases s.stateDir with
  | none => exact tame_pure () s
  | some ws =>
      exact Tame.bind (tame_loadSnapshot _) (fun _ => .bind (tame_loadLog _ _) fun _ =>
        .bind (tame_announce _ _) fun _ => tame_persistSnapshot) s

/-- A store that was constructed is well-formed, whatever was under its state directory. -/
theorem wf_construct {now : String} {stateDir : Option (List Write)} {s : Store}
    (h : construct now stateDir = .ok s) : s.WF := by
  have htame := tame_load now (.empty stateDir)
  unfold construct at h
  cases hrun : (load now).run (.empty stateDir) with
  | ok u t =>
      rw [hrun] at h htame
      obtain rfl := Except.ok.inj h
      exact htame.wf (.empty stateDir)
  | error e t => rw [hrun] at h; simp at h

/-! ### Runs -/

/-- The objects of the runs: one around a store that was just constructed, and whatever a call leaves
behind. -/
inductive Reachable : SpacetimeADI → Prop
  | new {now : String} {stateDir : Option (List Write)} {s : Store} (h : construct now stateDir = .ok s) :
      Reachable (.new s)
  | call {a : SpacetimeADI} (h : Reachable a) (now : String) (c : Call) :
      Reachable (after ((c.run now).run a))

/-- A later moment of a run. -/
def Later : SpacetimeADI → SpacetimeADI → Prop :=
  Relation.ReflTransGen fun a b => ∃ now c, b = after ((Call.run now c).run a)

theorem store_counted (count : Metrics → Metrics) (body : EStateM Fault Store α) (a : SpacetimeADI) :
    (after ((SpacetimeADI.counted count body).run a)).store = after (body.run a.store) := by
  rw [SpacetimeADI.counted_run]
  cases body.run a.store with
  | ok v s => rfl
  | error e s => rfl

/-- A counted request keeps what its body keeps. -/
theorem evolves_counted (count : Metrics → Metrics) {body : EStateM Fault Store α} (h : Tame body)
    (a : SpacetimeADI) :
    Evolves a.store (after ((SpacetimeADI.counted count body).run a)).store := by
  rw [store_counted]
  exact h a.store

theorem tame_reading (f : Store → Except Fault α) : Tame (SpacetimeADI.reading f) :=
  Keeps.get_bind fun s => tame_lift (f s) s

/-- What a call leaves behind is what its method leaves behind. -/
theorem after_bind_pure {γ : Type} {x : EStateM Fault SpacetimeADI α} {f : α → γ} (a : SpacetimeADI) :
    after ((x >>= fun v => pure (f v)).run a) = after (x.run a) := by
  rw [EStateM.run_bind]
  cases x.run a <;> rfl

/-- Every call keeps the invariant and the records. -/
theorem keeps_call (now : String) (c : Call) (a : SpacetimeADI) :
    Evolves a.store (after ((c.run now).run a)).store := by
  cases c with
  | insert recordId timeSlot payload =>
      unfold Call.run
      rw [after_bind_pure]
      exact evolves_counted _ (tame_insertRecord now recordId timeSlot payload) a
  | search startSlot endSlot limit =>
      unfold Call.run
      rw [after_bind_pure]
      exact evolves_counted _ (tame_reading _) a
  | packet ids receiverLookup =>
      show Evolves a.store (after ((SpacetimeADI.packet ids receiverLookup).run a)).store
      exact evolves_counted _ (tame_reading _) a
  | exportState ids =>
      unfold Call.run
      rw [EStateM.run_bind, EStateM.run_get]
      dsimp only
      cases exportState a.store ids <;> exact .refl _
  | reconstruct packet =>
      show Evolves a.store (after ((SpacetimeADI.reconstruct now packet).run a)).store
      exact evolves_counted _ (tame_reconstructPacket now packet) a

theorem Reachable.wf {a : SpacetimeADI} (h : Reachable a) : a.store.WF := by
  induction h with
  | new h => exact wf_construct h
  | call _ now c ih => exact (keeps_call now c _).wf ih

theorem Later.keeps {a b : SpacetimeADI} (h : Later a b) :
    ∀ id r, a.store.records.lookup id = some r → b.store.records.lookup id = some r := by
  induction h with
  | refl => exact fun _ _ h => h
  | tail _ hstep ih =>
      obtain ⟨now, c, rfl⟩ := hstep
      exact fun id r h => (keeps_call now c _).keeps id r (ih id r h)

namespace Store

variable {s : Store}

/-- The ids of a bucket are those of the records of the slot. -/
theorem WF.mem_bucket_iff (h : s.WF) (slot : ℕ) (id : PyStr) :
    id ∈ s.bucket slot ↔ ∃ r, s.records.lookup id = some r ∧ r.timeSlot = slot := by
  rw [List.mem_iff_getElem?]
  constructor
  · rintro ⟨k, hk⟩
    obtain ⟨r, hr, hslot, -⟩ := (h.bucket_iff slot k id).1 hk
    exact ⟨r, hr, hslot⟩
  · rintro ⟨r, hr, hslot⟩
    exact ⟨r.collisionIndex, (h.bucket_iff slot _ id).2 ⟨r, hr, hslot, rfl⟩⟩

/-- A bucket has no duplicates. -/
theorem WF.nodup_bucket (h : s.WF) (slot : ℕ) : (s.bucket slot).Nodup := by
  refine List.nodup_iff_getElem?_ne_getElem?.2 fun i j hij hj heq => ?_
  obtain ⟨id, hid⟩ : ∃ id, (s.bucket slot)[j]? = some id := ⟨_, List.getElem?_eq_getElem hj⟩
  obtain ⟨r, hr, -, hrj⟩ := (h.bucket_iff slot j id).1 hid
  obtain ⟨q, hq, -, hqi⟩ := (h.bucket_iff slot i id).1 (heq.trans hid)
  rw [hr, Option.some.injEq] at hq
  subst hq
  omega

/-- Two records of a slot with the same collision index are the same. -/
theorem WF.eq_of_index (h : s.WF) {q r : Rec} (hq : s.Holds q) (hr : s.Holds r)
    (hslot : q.timeSlot = r.timeSlot) (hindex : q.collisionIndex = r.collisionIndex) : q = r := by
  have hqk := (h.bucket_iff r.timeSlot r.collisionIndex q.id).2 ⟨q, hq, hslot, hindex⟩
  have hrk := (h.bucket_iff r.timeSlot r.collisionIndex r.id).2 ⟨r, hr, rfl, rfl⟩
  have hid : q.id = r.id := Option.some.inj (hqk.symm.trans hrk)
  rw [Holds, hid] at hq
  exact Option.some.inj (hq.symm.trans hr)

end Store

/-- **The invariant over whole runs.**  At every moment of a run the bucket of every slot lists
exactly the ids of the slot's records, without duplicates; the `k`-th of them has the collision index
`k` and the `k`-th position of the spiral, so that positions within a slot are different; every record
passes the check of supplied records unchanged; and it is still there, unchanged, at every later
moment. -/
theorem store_invariant (a : SpacetimeADI) (h : Reachable a) :
    (∀ slot, (a.store.bucket slot).Nodup ∧
      ∀ id, id ∈ a.store.bucket slot ↔ ∃ r, a.store.records.lookup id = some r ∧ r.timeSlot = slot) ∧
    (∀ slot (k : ℕ) id, (a.store.bucket slot)[k]? = some id → ∃ r, a.store.records.lookup id = some r ∧
      r.collisionIndex = k ∧ r.position = spiral k) ∧
    (∀ q r, a.store.Holds q → a.store.Holds r → q.timeSlot = r.timeSlot →
      q.position = r.position → q = r) ∧
    (∀ id r, a.store.records.lookup id = some r →
      r.id = id ∧ validateSuppliedRecord r.toVal = .ok r) ∧
    ∀ b, Later a b → ∀ id r, a.store.records.lookup id = some r →
      b.store.records.lookup id = some r := by
  have hwf := h.wf
  refine ⟨fun slot => ⟨hwf.nodup_bucket slot, hwf.mem_bucket_iff slot⟩, ?_, ?_, ?_, fun b hb => hb.keeps⟩
  · intro slot k id hk
    obtain ⟨r, hr, -, hindex⟩ := (hwf.bucket_iff slot k id).1 hk
    exact ⟨r, hr, hindex, hindex ▸ (hwf.valid id r hr).2.position⟩
  · intro q r hq hr hslot hpos
    rw [(hwf.valid _ q hq).2.position, (hwf.valid _ r hr).2.position] at hpos
    exact hwf.eq_of_index hq hr hslot (spiral_injective hpos)
  · intro id r hr
    obtain ⟨hid, hvalid⟩ := hwf.valid id r hr
    exact ⟨hid, hvalid.validate⟩

/-- An object after one insertion. -/
def inserted : SpacetimeADI :=
  after (((Call.insert (lit "a") (.int 7) (obj [])).run "2026-01-01T00:00:00Z").run
    (.new (.empty none)))

theorem store_invariant_inserted :
    (∀ id, id ∈ inserted.store.bucket 7 ↔
      ∃ r, inserted.store.records.lookup id = some r ∧ r.timeSlot = 7) ∧
    ∀ id r, inserted.store.records.lookup id = some r →
      r.id = id ∧ validateSuppliedRecord r.toVal = .ok r := by
  have hstart : construct "2026-01-01T00:00:00Z" none = .ok (.empty none) := rfl
  obtain ⟨hbucket, -, -, hvalid, -⟩ := store_invariant inserted ((Reachable.new hstart).call _ _)
  exact ⟨(hbucket 7).2, hvalid⟩

end Adi
