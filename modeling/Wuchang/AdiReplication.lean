/-
**Replication by packets.**

A packet delivers a selection of the records of one store to another.  A receiver that holds only
records of the sender accepts the packet exactly when no predecessor of a record of the selection is
missing, and then it holds the selection as well.  So a packet of all records always goes through,
and a subset goes through at an empty receiver exactly when it leaves out no predecessor.

Main definitions:

* `Adi.Selected` — the records a packet is built from;
* `Adi.Run` — a run of a sender, and its moments;
* `Adi.Delivers` — packets are delivered one after another.

Main results:

* `Adi.deliver_of_closed`, `Adi.deliver_of_not_closed` — the delivery of a selection;
* `Adi.replication` — a receiver catches up with the sender, and deliveries commute;
* `Adi.subset_packet` — which subsets an empty receiver accepts.
-/

import Wuchang.AdiRoundTrip

set_option relaxedAutoImplicit false
set_option autoImplicit false

namespace Adi

open Py Delivery

/-! ### Selections -/

/-- The records a packet of the store is built from. -/
structure Selected (A : Store) (rs : List Rec) : Prop where
  held : ∀ r ∈ rs, A.Holds r
  nodup : (rs.map Rec.id).Nodup
  sorted : sortRecords rs = rs
  length_le : rs.length ≤ maxPacketRecords

namespace Selected

variable {A : Store} {rs : List Rec}

theorem valid (h : Selected A rs) (hA : A.WF) : ∀ r ∈ rs, r.Valid :=
  fun r hr => (hA.valid _ r (h.held r hr)).2

theorem pairwise (h : Selected A rs) : rs.Pairwise fun a b => ¬Before b a := by
  rw [← h.sorted]
  exact not_before_sortRecords rs

end Selected

/-- All records, when there are not too many. -/
theorem selected_all {A : Store} (hA : A.WF) (hlen : A.values.length ≤ maxPacketRecords) :
    selectedRecords A .none = .ok A.sorted ∧ Selected A A.sorted := by
  refine ⟨by rw [selectedRecords_all, if_neg (by omega)], ?_, ?_, ?_, ?_⟩
  · exact fun r hr => (Store.mem_sorted hA).1 hr
  · exact ((sortRecords_perm A.values).map Rec.id).nodup_iff.2 (nodup_ids hA)
  · exact sortRecords_sortRecords _
  · rwa [Store.sorted, (sortRecords_perm _).length_eq]

theorem requireIds_ok {ids : List PyStr} (h : ∀ id ∈ ids, isId id = true) :
    ∀ i, requireIds i (ids.map PyVal.str) = .ok ids := by
  induction ids with
  | nil => exact fun _ => rfl
  | cons id ids ih =>
      intro i
      have hid : requireId (.str id) (cp "$.ids[" ++ intText i ++ cp "]") = .ok id :=
        requireId_eq_ok_iff.2 ⟨rfl, h id (by simp)⟩
      rw [List.map_cons, requireIds, hid, ok_bind, ih fun x hx => h x (by simp [hx])]
      rfl

/-- The records with the given ids, when they are all there. -/
theorem selected_ids {A : Store} (hA : A.WF) {ids : List PyStr} (hnodup : ids.Nodup)
    (hmem : ∀ id ∈ ids, id ∈ A.records) (hlen : ids.length ≤ maxPacketRecords) :
    ∃ rs, selectedRecords A (.list (ids.map PyVal.str)) = .ok rs ∧ Selected A rs ∧
      ∀ r, r ∈ rs ↔ A.Holds r ∧ r.id ∈ ids := by
  have hlookup : ∀ id ∈ ids, ∃ r, A.records.lookup id = some r := fun id hid =>
    Option.isSome_iff_exists.1 (AList.lookup_isSome.2 (hmem id hid))
  have hvalidIds : ∀ id ∈ ids, isId id = true := by
    intro id hid
    obtain ⟨r, hr⟩ := hlookup id hid
    obtain ⟨rfl, hvalid⟩ := hA.valid id r hr
    exact hvalid.isId
  have hids : (ids.filterMap fun id => A.records.lookup id).map Rec.id = ids := by
    clear hnodup hlen hmem hvalidIds
    induction ids with
    | nil => rfl
    | cons id ids ih =>
        obtain ⟨r, hr⟩ := hlookup id (by simp)
        obtain ⟨hid, -⟩ := hA.valid id r hr
        rw [List.filterMap_cons, hr]
        dsimp only
        rw [List.map_cons, hid, ih fun x hx => hlookup x (by simp [hx])]
  have hlength : (ids.filterMap fun id => A.records.lookup id).length = ids.length := by
    rw [← List.length_map Rec.id, hids]
  refine ⟨sortRecords (ids.filterMap fun id => A.records.lookup id), ?_, ⟨?_, ?_, ?_, ?_⟩, ?_⟩
  · rw [selectedRecords, recordsFor, normalizedIds, elements, ok_bind]
    · rw [holdIf_neg (by simpa using hlen), ok_bind, requireIds_ok hvalidIds, ok_bind,
        holdIf_neg (not_not.2 hnodup), ok_bind, pure_bind,
        holdIf_neg (fun ⟨id, hid, hnot⟩ => hnot (hmem id hid)), ok_bind, pure_bind,
        holdIf_neg (by omega), ok_bind]
      rfl
    · exact fun _ h => by simp at h
    · exact fun h => by simp at h
  · intro r hr
    obtain ⟨id, -, hr⟩ := List.mem_filterMap.1 (mem_sortRecords.1 hr)
    obtain ⟨rfl, -⟩ := hA.valid id r hr
    exact hr
  · rw [((sortRecords_perm _).map Rec.id).nodup_iff, hids]
    exact hnodup
  · exact sortRecords_sortRecords _
  · rw [(sortRecords_perm _).length_eq, hlength]
    exact hlen
  · intro r
    rw [mem_sortRecords, List.mem_filterMap]
    constructor
    · rintro ⟨id, hid, hr⟩
      obtain ⟨rfl, -⟩ := hA.valid id r hr
      exact ⟨hr, hid⟩
    · rintro ⟨hr, hid⟩
      exact ⟨r.id, hid, hr⟩

/-! ### The delivery of a selection -/

/-- A store that holds no more than another one has no more records. -/
theorem length_values_le {s t : Store} (hs : s.WF) (ht : t.WF) (h : s.held ⊆ t.held) :
    s.values.length ≤ t.values.length := by
  have hsub : s.values ⊆ t.values := fun r hr =>
    (Store.mem_values ht).2 (h ((Store.mem_values hs).1 hr))
  exact (List.subperm_of_subset (nodup_ids hs).of_map hsub).length_le

section Deliver

variable {A B : Store} {rs : List Rec} {lookup : Items} {slices : List PyVal}

/-- What a receiver does with the packet of a selection of the sender. -/
theorem deliver_run (hA : A.WF) (hB : B.WF) (hsel : Selected A rs) (hne : rs ≠ [])
    (hslices : ∀ v ∈ slices, Canonical v)
    (href : ∀ r ∈ rs, deliveryOf lookup r = lit "REFERENCE" → B.Holds r) (now : String) :
    ∃ C : Store, C.WF ∧ C.held = B.held ∧ ∃ reply, reply.get "total_field_decision" = lit "ALLOW" ∧
      (reconstructPacket now (packetDoc lookup rs slices)).run B =
        (do acceptAll (rs.map Rec.toVal)
            persistSnapshot
            pure reply : EStateM Fault Store PyVal).run C := by
  have hvalid := hsel.valid hA
  have hverify := verifyPacket_packetDoc hvalid hsel.nodup hne hsel.sorted hslices href
  obtain ⟨hrs, -, hsha⟩ := verifyPacket_ordered hB hverify
  obtain ⟨reply, hreply, hallow⟩ := @allowedReply_packetDoc lookup rs slices hvalid hslices
  refine ⟨B.loggedNew now (verifiedDoc lookup rs slices), wf_loggedNew hB now hrs hsha, ?_, reply, hallow,
    ?_⟩
  · ext r
    rw [Store.mem_held, Store.mem_held, Store.Holds, Store.Holds, Store.loggedNew_records]
  · rw [reconstructPacket_run hB now hverify, hreply]
    rfl

/-- A selection without a gap is accepted, and the receiver holds it as well. -/
theorem deliver_of_closed (hA : A.WF) (hB : B.WF) (hsub : B.held ⊆ A.held) (hsel : Selected A rs)
    (hne : rs ≠ []) (hslices : ∀ v ∈ slices, Canonical v)
    (href : ∀ r ∈ rs, deliveryOf lookup r = lit "REFERENCE" → B.Holds r)
    (hclosed : Closed Before A.held (B.held ∪ {r | r ∈ rs}))
    (hroom : ∀ t : Store, t.WF → t.held = B.held ∪ {r | r ∈ rs} →
      t.values.length ≤ maxPacketRecords) (now : String) :
    ∃ reply B', (reconstructPacket now (packetDoc lookup rs slices)).run B = .ok reply B' ∧
      reply.get "total_field_decision" = lit "ALLOW" ∧ B'.WF ∧ B'.held = B.held ∪ {r | r ∈ rs} := by
  obtain ⟨C, hC, hheld, reply, hallow, hrun⟩ := deliver_run hA hB hsel hne hslices href now
  have hCsub : C.held ⊆ A.held := hheld ▸ hsub
  have hfits : Fits C rs :=
    (fits_iff_closed hA hsel.held hsel.pairwise hC hCsub).2 (hheld ▸ hclosed)
  have hwf : (C.addAll rs).WF := (evolves_addAll (hsel.valid hA) hfits).wf hC
  have hafter : (C.addAll rs).held = B.held ∪ {r | r ∈ rs} := by
    ext r
    rw [← hheld]
    exact holds_addAll_iff hA hsel.held hC hCsub hfits r
  refine ⟨reply, (C.addAll rs).saved, ?_, hallow, wf_saved hwf, ?_⟩
  · rw [hrun, EStateM.run_bind, acceptAll_of_fits (hsel.valid hA) hfits]
    dsimp only
    rw [EStateM.run_bind, persistSnapshot_of_room hwf fun _ => hroom _ hwf hafter]
    rfl
  · rw [← hafter]
    ext r
    rw [Store.mem_held, Store.mem_held, Store.Holds, Store.Holds, Store.saved_records]

/-- Records of the sender never contradict the receiver: what is refused is out of order. -/
theorem acceptAll_mismatch (hA : A.WF) {rs : List Rec} (hrs : ∀ r ∈ rs, A.Holds r) :
    ∀ {B : Store}, B.WF → B.held ⊆ A.held → ¬Fits B rs →
      ∃ t, (acceptAll (rs.map Rec.toVal)).run B = .error orderMismatch t := by
  induction rs with
  | nil => exact fun _ _ h => absurd trivial h
  | cons r rs ih =>
      intro B hB hsub hfits
      have hr : A.Holds r := hrs r (by simp)
      have hvalid : r.Valid := (hA.valid _ r hr).2
      have hrest : ∀ q ∈ rs, A.Holds q := fun q hq => hrs q (by simp [hq])
      rw [List.map_cons, acceptAll, EStateM.run_bind, acceptRecord_run hvalid]
      rw [Fits] at hfits
      cases hlookup : B.records.lookup r.id with
      | some e =>
          rw [hlookup] at hfits
          obtain rfl := Store.eq_of_lookup hB hsub hr hlookup
          have heq : e.toVal.eq e.toVal := hvalid.canonical.normal.eq_refl
          obtain ⟨t, ht⟩ := ih hrest hB hsub fun h => hfits ⟨heq, h⟩
          dsimp only
          rw [if_pos heq]
          exact ⟨t, ht⟩
      | none =>
          rw [hlookup] at hfits
          dsimp only at hfits ⊢
          by_cases hnext : r.collisionIndex = (B.bucket r.timeSlot).length
          · have hsub' : (B.add r).held ⊆ A.held := by
              intro q hq
              rcases (Store.holds_add_iff hlookup).1 hq with rfl | hq
              · exact hr
              · exact hsub hq
            obtain ⟨t, ht⟩ := ih hrest (hB.add hvalid hlookup hnext) hsub' fun h => hfits ⟨hnext, h⟩
            rw [if_pos hnext]
            exact ⟨t, ht⟩
          · rw [if_neg hnext]
            exact ⟨_, rfl⟩

/-- A selection with a gap is refused. -/
theorem deliver_of_not_closed (hA : A.WF) (hB : B.WF) (hsub : B.held ⊆ A.held)
    (hsel : Selected A rs) (hne : rs ≠ []) (hslices : ∀ v ∈ slices, Canonical v)
    (href : ∀ r ∈ rs, deliveryOf lookup r = lit "REFERENCE" → B.Holds r)
    (hclosed : ¬Closed Before A.held (B.held ∪ {r | r ∈ rs})) (now : String) :
    ∃ B', (reconstructPacket now (packetDoc lookup rs slices)).run B = .error orderMismatch B' := by
  obtain ⟨C, hC, hheld, reply, -, hrun⟩ := deliver_run hA hB hsel hne hslices href now
  have hfits : ¬Fits C rs := by
    rw [fits_iff_closed hA hsel.held hsel.pairwise hC (hheld ▸ hsub), hheld]
    exact hclosed
  obtain ⟨t, herr⟩ := acceptAll_mismatch hA hsel.held hC (hheld ▸ hsub) hfits
  refine ⟨t, ?_⟩
  rw [hrun, EStateM.run_bind, herr]

end Deliver

/-! ### Calls -/

theorem call_packet {a : SpacetimeADI} {ids receiverLookup p : PyVal} (now : String)
    (h : buildPacket a.store ids receiverLookup = .ok p) :
    ∃ a', ((Call.packet ids receiverLookup).run now).run a = .ok p a' ∧ a'.store = a.store := by
  have hread : (SpacetimeADI.reading fun s => buildPacket s ids receiverLookup).run a.store =
      .ok p a.store := by
    unfold SpacetimeADI.reading
    rw [EStateM.run_bind, EStateM.run_get]
    dsimp only
    rw [h]
    rfl
  unfold Call.run SpacetimeADI.packet
  rw [SpacetimeADI.counted_run, hread]
  exact ⟨_, rfl, rfl⟩

theorem call_reconstruct {b : SpacetimeADI} {p reply : PyVal} {s : Store} (now : String)
    (h : (reconstructPacket now p).run b.store = .ok reply s) :
    ∃ b', ((Call.reconstruct p).run now).run b = .ok reply b' ∧ b'.store = s := by
  unfold Call.run SpacetimeADI.reconstruct
  rw [SpacetimeADI.counted_run, h]
  exact ⟨_, rfl, rfl⟩

theorem call_reconstruct_error {b : SpacetimeADI} {p : PyVal} {e : Fault} {s : Store} (now : String)
    (h : (reconstructPacket now p).run b.store = .error e s) :
    ∃ b', ((Call.reconstruct p).run now).run b = .error e b' ∧ b'.store = s := by
  unfold Call.run SpacetimeADI.reconstruct
  rw [SpacetimeADI.counted_run, h]
  exact ⟨_, rfl, rfl⟩

/-! ### A pair of records -/

/-- The object after two insertions into the slot 0 of a store in memory. -/
def pair : SpacetimeADI :=
  after (((Call.insert (lit "b") (.int 0) (obj [])).run "2026-01-01T00:00:01Z").run
    (after (((Call.insert (lit "a") (.int 0) (obj [])).run "2026-01-01T00:00:00Z").run
      (.new (.empty none)))))

theorem reachable_empty : Reachable (.new (.empty none)) :=
  Reachable.new (show construct "2026-01-01T00:00:00Z" none = .ok (.empty none) from rfl)

theorem reachable_pair : Reachable pair := (reachable_empty.call _ _).call _ _

/-- A fresh id, a slot and the empty payload make a new record. -/
theorem exists_newRecord (s : Store) (id : PyStr) (slot : ℕ) (hid : isId id = true)
    (hfresh : s.records.lookup id = none) (hslot : (slot : ℤ) ≤ maxTimeSlot) :
    ∃ r, NewRecord s (.str id) (.int slot) (obj []) r ∧ r.id = id ∧ r.timeSlot = slot := by
  have hpayload : Canonical (obj []) := .obj [] rfl (by decide) (by simp)
  have hsize : (Canonical.bytes (obj [])).length ≤ maxPayloadBytes := by decide
  let basis : Rec :=
    ⟨id, slot, (s.bucket slot).length, spiral (s.bucket slot).length, obj [], []⟩
  refine ⟨{ basis with recordSha256 := Canonical.sha256 (.dict basis.basis) }, ⟨hfresh, ?_⟩, rfl, rfl⟩
  exact buildRecord_eq_ok_iff.2 ⟨⟨rfl, hid⟩, ⟨rfl, hslot⟩, hpayload.normalize, rfl, hpayload,
    hsize, rfl, rfl, rfl⟩

/-- A new record is added to a store in memory. -/
theorem call_insert_new {a : SpacetimeADI} (hA : a.store.WF) (hdir : a.store.stateDir = none)
    {recordId timeSlot payload : PyVal} {r : Rec}
    (hr : NewRecord a.store recordId timeSlot payload r) (now : String) :
    (after (((Call.insert recordId timeSlot payload).run now).run a)).store = a.store.add r := by
  unfold Call.run
  rw [after_bind_pure, SpacetimeADI.insert, store_counted]
  rcases insertRecord_cases hA now recordId timeSlot payload with
    ⟨-, hno⟩ | ⟨_, -, hno⟩ | ⟨q, hq, hrun⟩
  · exact absurd hr (hno r)
  · exact absurd hr (hno r)
  · have hlogged : ∀ ty payload, a.store.logged now ty payload = a.store := by
      intro ty payload
      rw [Store.logged, hdir]
    have hsaved : persistSnapshot.run (a.store.add q) = .ok () (a.store.add q) := by
      unfold persistSnapshot
      rw [EStateM.run_bind, EStateM.run_get]
      dsimp only
      rw [Store.add, hdir]
      rfl
    have hqr : q = r := by
      have hid : q.timeSlot = r.timeSlot := by
        obtain ⟨-, ⟨hslot, -⟩, -⟩ := buildRecord_eq_ok_iff.1 hq.2
        obtain ⟨-, ⟨hslot', -⟩, -⟩ := buildRecord_eq_ok_iff.1 hr.2
        rw [hslot, PyVal.int.injEq, Nat.cast_inj] at hslot'
        exact hslot'
      have hboth := hq.2
      rw [hid, hr.2] at hboth
      exact (Except.ok.inj hboth).symm
    rw [hrun, hlogged, EStateM.run_bind, hsaved, hqr]
    rfl

/-- What the pair is: a record, and the next one of its slot. -/
theorem pair_store : ∃ q r : Rec, q.id = cp "a" ∧ r.id = cp "b" ∧ Before q r ∧
    pair.store.stateDir = none ∧ pair.store.Holds q ∧ pair.store.Holds r ∧
    pair.store.values = [r, q] := by
  have hlookup : ∀ id, (Store.empty none).records.lookup id = none := fun id => AList.lookup_empty id
  have hab : cp "b" ≠ cp "a" := by
    rw [Ne, cp_inj]
    decide
  obtain ⟨q, hq, hqid, hqslot⟩ := exists_newRecord (.empty none) (cp "a") 0 (by decide) (hlookup _)
    (by decide)
  have hfirst : (after (((Call.insert (lit "a") (.int 0) (obj [])).run "2026-01-01T00:00:00Z").run
      (.new (.empty none)))).store = (Store.empty none).add q :=
    call_insert_new (.empty none) rfl hq _
  have hwf : ((Store.empty none).add q).WF := hfirst ▸ (reachable_empty.call _ _).wf
  have hfresh : ((Store.empty none).add q).records.lookup (cp "b") = none := by
    rw [Store.add_lookup_ne _ _ (hqid ▸ hab)]
    exact hlookup _
  obtain ⟨r, hr, hrid, hrslot⟩ := exists_newRecord ((Store.empty none).add q) (cp "b") 0 (by decide)
    hfresh (by decide)
  have hpair : pair.store = ((Store.empty none).add q).add r := by
    rw [← hfirst]
    exact call_insert_new (hfirst ▸ hwf) (by rw [hfirst]; rfl) (hfirst ▸ hr) _
  have hlast : ((Store.empty none).add q).records.lookup r.id = none := hrid ▸ hfresh
  have hqindex : q.collisionIndex = 0 := hq.next
  have hrindex : r.collisionIndex = 1 := by
    rw [hr.next, hrslot, ← hqslot, Store.add_bucket_self]
    rfl
  refine ⟨q, r, hqid, hrid, ⟨hqslot.trans hrslot.symm, by omega⟩, by rw [hpair]; rfl, ?_, ?_, ?_⟩
  · rw [hpair]
    exact (Store.holds_add_iff hlast).2 (.inr (Store.add_lookup_self _ _))
  · rw [hpair]
    exact Store.add_lookup_self _ _
  · rw [hpair, Store.values, Store.add, AList.entries_insert_of_notMem (AList.lookup_eq_none.1 hlast),
      Store.add, AList.entries_insert_of_notMem (AList.lookup_eq_none.1 (hlookup q.id))]
    rfl

/-! ### Lookups of a receiver -/

theorem lookupOf_falsy {v : PyVal} (h : v.truthy = false) : lookupOf v = .ok [] := by
  unfold lookupOf
  rw [if_neg (by simp [h])]
  rfl

theorem deliveryOf_nil (r : Rec) : deliveryOf [] r = lit "STATE_ATOM" := by
  rw [deliveryOf, if_neg]
  simp [getItem]

/-- The hashes of a receiver, as a lookup. -/
def hashItems (s : Store) : Items := s.values.map fun r => (.str r.id, .str r.recordSha256)

theorem lookupOf_recordHashes (s : Store) : lookupOf (recordHashes s) = .ok (hashItems s) := by
  unfold lookupOf recordHashes hashItems
  cases s.values <;> rfl

theorem getItem_hashItems {s : Store} (hs : s.WF) (id : PyStr) :
    getItem (hashItems s) id = (s.records.lookup id).map fun r => .str r.recordSha256 := by
  have hfind : ∀ rs : List Rec, (rs.map Rec.id).Nodup → ∀ r ∈ rs, r.id = id →
      getItem (rs.map fun r => (PyKey.str r.id, PyVal.str r.recordSha256)) id =
        some (.str r.recordSha256) := by
    intro rs hnodup
    induction rs with
    | nil => simp
    | cons q rs ih =>
        obtain ⟨hfirst, hrest⟩ := List.nodup_cons.1 hnodup
        rintro r hr rfl
        rw [List.map_cons, getItem]
        rcases List.mem_cons.1 hr with rfl | hr
        · rw [if_pos rfl]
        · rw [if_neg, ih hrest r hr rfl]
          simp only [PyKey.str.injEq]
          exact fun heq => hfirst (heq ▸ List.mem_map_of_mem hr)
  have hnone : ∀ rs : List Rec, id ∉ rs.map Rec.id →
      getItem (rs.map fun r => (PyKey.str r.id, PyVal.str r.recordSha256)) id = none := by
    intro rs hrs
    induction rs with
    | nil => rfl
    | cons q rs ih =>
        rw [List.map_cons, List.mem_cons, not_or] at hrs
        rw [List.map_cons, getItem, if_neg, ih hrs.2]
        simpa using Ne.symm hrs.1
  cases hlookup : s.records.lookup id with
  | some r =>
      obtain ⟨rfl, -⟩ := hs.valid id r hlookup
      exact hfind s.values (nodup_ids hs) r ((Store.mem_values hs).2 hlookup) rfl
  | none =>
      refine hnone s.values fun hmem => ?_
      obtain ⟨r, hr, rfl⟩ := List.mem_map.1 hmem
      have hheld : s.Holds r := (Store.mem_values hs).1 hr
      rw [Store.Holds, hlookup] at hheld
      exact absurd hheld (by simp)

theorem reference_ne_atom : lit "REFERENCE" ≠ lit "STATE_ATOM" := by
  rw [lit, lit, Ne, PyVal.str.injEq, cp_inj]
  decide

/-- With the receiver's hashes, the records it holds are referred to and the others are carried. -/
theorem deliveryOf_hashItems {A B : Store} (hB : B.WF) (hsub : B.held ⊆ A.held) {r : Rec}
    (hr : A.Holds r) : deliveryOf (hashItems B) r = lit "REFERENCE" ↔ B.Holds r := by
  rw [deliveryOf, getItem_hashItems hB]
  cases hlookup : B.records.lookup r.id with
  | some e =>
      obtain rfl := Store.eq_of_lookup hB hsub hr hlookup
      rw [if_pos (by simp)]
      exact iff_of_true rfl hlookup
  | none =>
      rw [if_neg (by simp)]
      exact iff_of_false reference_ne_atom.symm (by simp [Store.Holds, hlookup])

/-! ### Catching up -/

/-- A packet of all records of a sender goes through at a receiver when both hold records of one
store only, and that store holds no others. -/
theorem deliver_all {A B M : Store} (hA : A.WF) (hB : B.WF) (hM : M.WF)
    (hunion : B.held ∪ A.held = M.held) (hlen : M.values.length ≤ maxPacketRecords)
    (hne : A.sorted ≠ []) {lookup : Items} {slices : List PyVal}
    (hslices : ∀ v ∈ slices, Canonical v)
    (href : ∀ r ∈ A.sorted, deliveryOf lookup r = lit "REFERENCE" → B.Holds r) (now : String) :
    ∃ reply B', (reconstructPacket now (packetDoc lookup A.sorted slices)).run B = .ok reply B' ∧
      reply.get "total_field_decision" = lit "ALLOW" ∧ B'.WF ∧ B'.held = M.held := by
  have hAM : A.held ⊆ M.held := hunion ▸ Set.subset_union_right
  have hBM : B.held ⊆ M.held := hunion ▸ Set.subset_union_left
  obtain ⟨-, hsel⟩ := selected_all hA ((length_values_le hA hM hAM).trans hlen)
  have hselM : Selected M A.sorted :=
    ⟨fun r hr => hAM (hsel.held r hr), hsel.nodup, hsel.sorted, hsel.length_le⟩
  have hset : B.held ∪ {r | r ∈ A.sorted} = M.held := by
    rw [← hunion]
    ext r
    simp only [Set.mem_union, Set.mem_ofPred_eq, Store.mem_held, Store.mem_sorted hA]
  have hclosed : Closed Before M.held (B.held ∪ {r | r ∈ A.sorted}) := closed_self hset.ge
  obtain ⟨reply, B', hrun, hallow, hwf, hheld⟩ := deliver_of_closed hM hB hBM hselM hne hslices href
    hclosed (fun t ht hheld => (length_values_le ht hM (hheld.trans hset).le).trans hlen) now
  exact ⟨reply, B', hrun, hallow, hwf, hheld.trans hset⟩

theorem sorted_ne_nil {s : Store} (h : s.values ≠ []) : s.sorted ≠ [] := by
  intro hnil
  have hlen := (sortRecords_perm s.values).length_eq
  rw [← Store.sorted, hnil] at hlen
  exact h (List.eq_nil_of_length_eq_zero hlen.symm)

/-- A receiver that holds no record the sender lacks is brought up to date by the packet built for
its own hashes. -/
theorem catch_up {a b : SpacetimeADI} (hA : a.store.WF) (hB : b.store.WF)
    (hpos : a.store.values ≠ []) (hlen : a.store.values.length ≤ maxPacketRecords)
    (hsub : b.store.held ⊆ a.store.held) (now now' : String) :
    ∃ p a' reply b',
      ((Call.packet .none (recordHashes b.store)).run now).run a = .ok p a' ∧
      ((Call.reconstruct p).run now').run b = .ok reply b' ∧
      reply.get "total_field_decision" = lit "ALLOW" ∧
      listOf ((p.get "delta").get "state_atoms") =
        (a.store.sorted.filter fun r => r.id ∉ b.store.records).map Rec.toVal ∧
      exportState b'.store .none = exportState a.store .none ∧
      (∀ slot, b'.store.bucket slot = a.store.bucket slot) := by
  obtain ⟨hsel, hselected⟩ := selected_all hA hlen
  obtain ⟨slices, hslices, hbuild⟩ := buildPacket_eq hA hsel hselected.held
    (lookupOf_recordHashes b.store)
  have hdelivery := fun r (hr : r ∈ a.store.sorted) =>
    deliveryOf_hashItems hB hsub (hselected.held r hr)
  obtain ⟨reply, B', hrun, hallow, hwf, hheld⟩ := deliver_all hA hB hA
    (Set.union_eq_right.2 hsub) hlen (sorted_ne_nil hpos) hslices (fun r hr => (hdelivery r hr).1) now'
  obtain ⟨a', ha', -⟩ := call_packet now hbuild
  obtain ⟨b', hb', rfl⟩ := call_reconstruct now' hrun
  refine ⟨_, a', reply, b', ha', hb', hallow, ?_, ?_, bucket_eq_of_held hwf hA hheld⟩
  · -- what is carried is what the receiver does not hold
    rw [packetDoc_delta, atoms_deltaDoc, stateAtoms]
    refine congrArg (List.map Rec.toVal) (List.filter_congr fun r hr => ?_)
    have hmem := Store.mem_records_iff hB hsub (hselected.held r hr)
    rw [Bool.eq_iff_iff, PyVal.eq_lit, decide_eq_true_eq, hmem, ← hdelivery r hr]
    rcases deliveryOf_cases (hashItems b.store) r with h | h
    · exact iff_of_false (fun h' => reference_ne_atom (h.symm.trans h')) (not_not.2 h)
    · exact iff_of_true h fun h' => reference_ne_atom (h'.symm.trans h)
  · have hlen' : b'.store.values.length ≤ maxPacketRecords :=
      (length_values_le hwf hA hheld.le).trans hlen
    rw [exportState, exportState, selectedRecords_all, selectedRecords_all, if_neg (by omega),
      if_neg (by omega), sorted_eq_of_held hwf hA hheld]

/-! ### Deliveries -/

/-- A run of an object: its moments, each left behind by a call at the moment before. -/
structure Run where
  moment : ℕ → SpacetimeADI
  start : Reachable (moment 0)
  step : ∀ t, ∃ now c, moment (t + 1) = after ((Call.run now c).run (moment t))

namespace Run

theorem reachable (run : Run) : ∀ t, Reachable (run.moment t)
  | 0 => run.start
  | t + 1 => by
      obtain ⟨now, c, h⟩ := run.step t
      rw [h]
      exact (run.reachable t).call now c

/-- The records of a moment are there at every later moment. -/
theorem held_mono (run : Run) {t u : ℕ} (h : t ≤ u) :
    (run.moment t).store.held ⊆ (run.moment u).store.held := by
  have hlater : Later (run.moment t) (run.moment u) := by
    induction h with
    | refl => exact .refl
    | step _ ih =>
        obtain ⟨now, c, hstep⟩ := run.step _
        exact ih.tail ⟨now, c, hstep⟩
  exact fun r hr => hlater.keeps r.id r hr

end Run

/-- The packet is one that the sender built of all its records at a moment of its run, without a
lookup of the receiver. -/
def BuiltAt (run : Run) (t : ℕ) (p : PyVal) : Prop :=
  ∃ (now : String) (receiverLookup : PyVal) (a' : SpacetimeADI), receiverLookup.truthy = false ∧
    ((Call.packet .none receiverLookup).run now).run (run.moment t) = .ok p a'

/-- The packets are delivered one after another, at the given times, and each of them is allowed. -/
def Delivers : SpacetimeADI → List (String × PyVal) → SpacetimeADI → Prop
  | b, [], b' => b' = b
  | b, (now, p) :: ps, b' => ∃ reply m, ((Call.reconstruct p).run now).run b = .ok reply m ∧
      reply.get "total_field_decision" = lit "ALLOW" ∧ Delivers m ps b'

theorem buildPacket_of_call {a a' : SpacetimeADI} {ids receiverLookup p : PyVal} {now : String}
    (h : ((Call.packet ids receiverLookup).run now).run a = .ok p a') :
    buildPacket a.store ids receiverLookup = .ok p := by
  unfold Call.run SpacetimeADI.packet SpacetimeADI.reading at h
  rw [SpacetimeADI.counted_run, EStateM.run_bind, EStateM.run_get] at h
  dsimp only at h
  cases hbuild : buildPacket a.store ids receiverLookup with
  | error e => rw [hbuild] at h; simp at h
  | ok q =>
      rw [hbuild, run_lift_ok] at h
      rw [(EStateM.Result.ok.inj h).1]

/-- A packet of all records, and how many there can be. -/
theorem BuiltAt.eq {run : Run} {t : ℕ} {p : PyVal} (h : BuiltAt run t p) :
    (run.moment t).store.values.length ≤ maxPacketRecords ∧
      ∃ slices, (∀ v ∈ slices, Canonical v) ∧ p = packetDoc [] (run.moment t).store.sorted slices := by
  obtain ⟨now, receiverLookup, a', hfalsy, hcall⟩ := h
  have hbuild := buildPacket_of_call hcall
  have hwf := (run.reachable t).wf
  have hlen : (run.moment t).store.values.length ≤ maxPacketRecords := by
    by_contra hgt
    rw [buildPacket, selectedRecords_all, if_pos (by omega)] at hbuild
    simp at hbuild
  obtain ⟨hsel, hselected⟩ := selected_all hwf hlen
  obtain ⟨slices, hslices, heq⟩ := buildPacket_eq hwf hsel hselected.held (lookupOf_falsy hfalsy)
  rw [heq] at hbuild
  exact ⟨hlen, slices, hslices, (Except.ok.inj hbuild).symm⟩

/-- One delivery: what the receiver holds and the packet brings are records of the same moment. -/
theorem deliver_moment {run : Run} {t m : ℕ} {p : PyVal} (hp : BuiltAt run t p)
    (hpos : (run.moment t).store.values ≠ []) {b : SpacetimeADI} (hB : b.store.WF)
    (hunion : b.store.held ∪ (run.moment t).store.held = (run.moment m).store.held)
    (hlen : (run.moment m).store.values.length ≤ maxPacketRecords) (now : String) :
    ∃ reply b', ((Call.reconstruct p).run now).run b = .ok reply b' ∧
      reply.get "total_field_decision" = lit "ALLOW" ∧ b'.store.WF ∧
      b'.store.held = (run.moment m).store.held := by
  obtain ⟨-, slices, hslices, rfl⟩ := hp.eq
  obtain ⟨reply, B', hrun, hallow, hwf, hheld⟩ := deliver_all (run.reachable t).wf hB
    (run.reachable m).wf hunion hlen (sorted_ne_nil hpos) hslices
    (fun r _ h => absurd ((deliveryOf_nil r).symm.trans h) reference_ne_atom.symm) now
  obtain ⟨b', hb', rfl⟩ := call_reconstruct now hrun
  exact ⟨reply, b', hb', hallow, hwf, hheld⟩

/-- A receiver that is at a moment of the sender goes through any deliveries, and ends at the latest
of all these moments. -/
theorem delivers_from {run : Run} (ds : List (ℕ × String × PyVal))
    (hds : ∀ d ∈ ds, BuiltAt run d.1 d.2.2 ∧ (run.moment d.1).store.values ≠ []) :
    ∀ (u : ℕ) (b : SpacetimeADI), b.store.WF → b.store.held = (run.moment u).store.held →
      (run.moment u).store.values.length ≤ maxPacketRecords →
      ∃ b' m, Delivers b (ds.map Prod.snd) b' ∧ m ∈ u :: ds.map Prod.fst ∧
        (∀ w ∈ u :: ds.map Prod.fst, w ≤ m) ∧ b'.store.held = (run.moment m).store.held := by
  induction ds with
  | nil =>
      intro u b _ hheld _
      exact ⟨b, u, rfl, by simp, by simp, hheld⟩
  | cons d ds ih =>
      intro u b hB hheld hlen
      obtain ⟨t, now, p⟩ := d
      obtain ⟨hp, hpos⟩ := hds (t, now, p) (by simp)
      have hrest := ih fun d hd => hds d (by simp [hd])
      rcases Nat.le_total t u with htu | hut
      · -- the packet is of an earlier moment: nothing new comes
        have hunion : b.store.held ∪ (run.moment t).store.held = (run.moment u).store.held := by
          rw [hheld]
          exact Set.union_eq_left.2 (run.held_mono htu)
        obtain ⟨reply, c, hcall, hallow, hC, hheldC⟩ := deliver_moment hp hpos hB hunion hlen now
        obtain ⟨b', m, hdel, hmem, hmax, hb'⟩ := hrest u c hC hheldC hlen
        refine ⟨b', m, ⟨reply, c, hcall, hallow, hdel⟩, ?_, ?_, hb'⟩
        · rcases List.mem_cons.1 hmem with rfl | hmem
          · simp
          · exact List.mem_cons_of_mem _ (List.mem_cons_of_mem _ hmem)
        · intro w hw
          rcases List.mem_cons.1 hw with rfl | hw
          · exact hmax _ (by simp)
          · rcases List.mem_cons.1 hw with rfl | hw
            · exact htu.trans (hmax u (by simp))
            · exact hmax w (List.mem_cons_of_mem _ hw)
      · have hunion : b.store.held ∪ (run.moment t).store.held = (run.moment t).store.held := by
          rw [hheld]
          exact Set.union_eq_right.2 (run.held_mono hut)
        obtain ⟨reply, c, hcall, hallow, hC, hheldC⟩ := deliver_moment hp hpos hB hunion hp.eq.1 now
        obtain ⟨b', m, hdel, hmem, hmax, hb'⟩ := hrest t c hC hheldC hp.eq.1
        refine ⟨b', m, ⟨reply, c, hcall, hallow, hdel⟩, List.mem_cons_of_mem _ hmem, ?_, hb'⟩
        intro w hw
        rcases List.mem_cons.1 hw with rfl | hw
        · exact hut.trans (hmax t (by simp))
        · exact hmax w hw

/-- **Replication by packets.**  A receiver whose records are all records of a sender with between
one and `MAX_PACKET_RECORDS` records is brought up to date by the packet built for its hashes: the
packet is allowed, it carries the records the receiver lacks, and afterwards the exported states and
the order of the ids in every slot are the same.  A receiver without records goes through the packets
of all records that the sender built at moments of its run, in any order and with repetitions, as long
as there was a record to send, and ends with the records of the latest of these moments. -/
theorem replication :
    (∀ a b : SpacetimeADI, Reachable a → Reachable b → a.store.values ≠ [] →
      a.store.values.length ≤ maxPacketRecords → (∀ r, b.store.Holds r → a.store.Holds r) →
      ∀ now now' : String, ∃ p a' reply b',
        ((Call.packet .none (recordHashes b.store)).run now).run a = .ok p a' ∧
        ((Call.reconstruct p).run now').run b = .ok reply b' ∧
        reply.get "total_field_decision" = lit "ALLOW" ∧
        listOf ((p.get "delta").get "state_atoms") =
          (a.store.sorted.filter fun r => r.id ∉ b.store.records).map Rec.toVal ∧
        exportState b'.store .none = exportState a.store .none ∧
        ∀ slot, b'.store.bucket slot = a.store.bucket slot) ∧
    ∀ (run : Run) (b : SpacetimeADI) (ds : List (ℕ × String × PyVal)), Reachable b →
      b.store.values = [] → ds ≠ [] →
      (∀ d ∈ ds, BuiltAt run d.1 d.2.2 ∧ (run.moment d.1).store.values ≠ []) →
      ∃ b' m, Delivers b (ds.map Prod.snd) b' ∧ m ∈ ds.map Prod.fst ∧
        (∀ w ∈ ds.map Prod.fst, w ≤ m) ∧
        ∀ r, b'.store.Holds r ↔ (run.moment m).store.Holds r := by
  refine ⟨fun a b ha hb hpos hlen hsub now now' => catch_up ha.wf hb.wf hpos hlen hsub now now', ?_⟩
  rintro run b ds hb hempty hne hds
  obtain ⟨⟨t, now, p⟩, ds, rfl⟩ := List.exists_cons_of_ne_nil hne
  obtain ⟨hp, hpos⟩ := hds (t, now, p) (by simp)
  -- the first delivery brings the receiver to a moment of the sender
  have hnone : b.store.held = ∅ := by
    ext r
    rw [Store.mem_held, ← Store.mem_values hb.wf, hempty]
    simp
  have hunion : b.store.held ∪ (run.moment t).store.held = (run.moment t).store.held := by
    rw [hnone, Set.empty_union]
  obtain ⟨reply, c, hcall, hallow, hC, hheldC⟩ := deliver_moment hp hpos hb.wf hunion hp.eq.1 now
  obtain ⟨b', m, hdel, hmem, hmax, hb'⟩ := delivers_from ds (fun d hd => hds d (by simp [hd])) t c hC
    hheldC hp.eq.1
  refine ⟨b', m, ⟨reply, c, hcall, hallow, hdel⟩, hmem, hmax, fun r => ?_⟩
  rw [← Store.mem_held, hb', Store.mem_held]

/-- The run in which nothing happens. -/
def Run.still (a : SpacetimeADI) (h : Reachable a) : Run where
  moment _ := a
  start := h
  step _ := by
    refine ⟨"", .exportState .none, ?_⟩
    unfold Call.run
    rw [EStateM.run_bind, EStateM.run_get]
    dsimp only
    cases exportState a.store .none <;> rfl

theorem pair_values_ne_nil : pair.store.values ≠ [] := by
  obtain ⟨q, r, -, -, -, -, -, -, hvalues⟩ := pair_store
  rw [hvalues]
  exact List.cons_ne_nil _ _

theorem pair_length_le : pair.store.values.length ≤ maxPacketRecords := by
  obtain ⟨q, r, -, -, -, -, -, -, hvalues⟩ := pair_store
  rw [hvalues, maxPacketRecords]
  exact Nat.le_of_ble_eq_true rfl

theorem replication_pair :
    (∃ p a' reply b',
      ((Call.packet .none (recordHashes (.empty none))).run "").run pair = .ok p a' ∧
      ((Call.reconstruct p).run "").run (.new (.empty none)) = .ok reply b' ∧
      exportState b'.store .none = exportState pair.store .none) ∧
    ∃ p b', BuiltAt (.still pair reachable_pair) 0 p ∧
      Delivers (.new (.empty none)) [("", p), ("", p)] b' ∧
      ∀ r, b'.store.Holds r ↔ pair.store.Holds r := by
  constructor
  · obtain ⟨p, a', reply, b', hp, hb, -, -, hexport, -⟩ := replication.1 pair (.new (.empty none))
      reachable_pair reachable_empty pair_values_ne_nil pair_length_le
      (fun r hr => absurd hr (by simp [Store.Holds, SpacetimeADI.new, Store.empty])) "" ""
    exact ⟨p, a', reply, b', hp, hb, hexport⟩
  · obtain ⟨hsel, hselected⟩ := selected_all reachable_pair.wf pair_length_le
    obtain ⟨slices, -, hbuild⟩ := buildPacket_eq reachable_pair.wf hsel hselected.held
      (lookupOf_falsy (v := .none) rfl)
    obtain ⟨a', ha', -⟩ := call_packet "" hbuild
    have hbuilt : BuiltAt (.still pair reachable_pair) 0 (packetDoc [] pair.store.sorted slices) :=
      ⟨"", .none, a', rfl, ha'⟩
    obtain ⟨b', m, hdel, -, -, hheld⟩ := replication.2 (.still pair reachable_pair)
      (.new (.empty none)) [(0, "", packetDoc [] pair.store.sorted slices),
        (0, "", packetDoc [] pair.store.sorted slices)] reachable_empty rfl (by simp)
      (by
        simp only [List.forall_mem_cons, List.not_mem_nil, false_implies, implies_true, and_true]
        exact ⟨⟨hbuilt, pair_values_ne_nil⟩, hbuilt, pair_values_ne_nil⟩)
    exact ⟨_, b', hbuilt, hdel, hheld⟩

/-- The packet of a moment without records is refused, although the sender builds it. -/
theorem not_delivered_of_empty :
    ¬∀ (run : Run) (b : SpacetimeADI) (ds : List (ℕ × String × PyVal)), Reachable b →
      b.store.values = [] → ds ≠ [] → (∀ d ∈ ds, BuiltAt run d.1 d.2.2) →
      ∃ b' m, Delivers b (ds.map Prod.snd) b' ∧ m ∈ ds.map Prod.fst ∧
        (∀ w ∈ ds.map Prod.fst, w ≤ m) ∧
        ∀ r, b'.store.Holds r ↔ (run.moment m).store.Holds r := by
  intro h
  obtain ⟨hsel, hselected⟩ := selected_all reachable_empty.wf (by decide)
  obtain ⟨slices, hslices, hbuild⟩ := buildPacket_eq reachable_empty.wf hsel hselected.held
    (lookupOf_falsy (v := .none) rfl)
  obtain ⟨a', ha', -⟩ := call_packet "" hbuild
  obtain ⟨b', m, ⟨reply, c, hcall, -⟩, -⟩ := h (.still _ reachable_empty) _ [(0, "", _)] reachable_empty
    rfl (by simp) (by
      simp only [List.mem_singleton, forall_eq]
      exact ⟨"", .none, a', rfl, ha'⟩)
  obtain ⟨c', hc', -⟩ := @call_reconstruct_error (.new (.empty none)) _ _ _ ""
    (reconstructPacket_of_error "" (verifyPacket_packetDoc_nil (.empty none) hslices))
  have hnil : (SpacetimeADI.new (Store.empty none)).store.sorted = [] :=
    List.mergeSort_nil
  rw [hnil, hc'] at hcall
  exact absurd hcall (by simp)

/-! ### Subsets -/

/-- The ids leave out no predecessor: with a record of the store, all records that come before it in
its slot are named. -/
def PredecessorClosed (s : Store) (ids : List PyStr) : Prop :=
  ∀ q r, s.Holds q → s.Holds r → Before q r → r.id ∈ ids → q.id ∈ ids

/-- The packet of some ids of a store, and when a receiver without records accepts it. -/
theorem deliver_ids {a b : SpacetimeADI} (hA : a.store.WF) (hB : b.store.WF) {ids : List PyStr}
    (hne : ids ≠ []) (hnodup : ids.Nodup) (hlen : ids.length ≤ maxPacketRecords)
    (hmem : ∀ id ∈ ids, id ∈ a.store.records) (hempty : b.store.values = []) (now now' : String) :
    ∃ p a', ((Call.packet (.list (ids.map PyVal.str)) .none).run now).run a = .ok p a' ∧
      (PredecessorClosed a.store ids → ∃ reply b',
        ((Call.reconstruct p).run now').run b = .ok reply b' ∧
        reply.get "total_field_decision" = lit "ALLOW" ∧
        ∀ r, b'.store.Holds r ↔ a.store.Holds r ∧ r.id ∈ ids) ∧
      (¬PredecessorClosed a.store ids → ∃ b',
        ((Call.reconstruct p).run now').run b = .error orderMismatch b') := by
  obtain ⟨rs, hselect, hsel, hrs⟩ := selected_ids hA hnodup hmem hlen
  obtain ⟨slices, hslices, hbuild⟩ := buildPacket_eq hA hselect hsel.held
    (lookupOf_falsy (v := .none) rfl)
  obtain ⟨a', ha', -⟩ := call_packet now hbuild
  have hnone : b.store.held = ∅ := by
    ext r
    rw [Store.mem_held, ← Store.mem_values hB, hempty]
    simp
  have hsub : b.store.held ⊆ a.store.held := hnone ▸ Set.empty_subset _
  have hset : ∀ r, r ∈ b.store.held ∪ {r | r ∈ rs} ↔ a.store.Holds r ∧ r.id ∈ ids := by
    intro r
    rw [hnone, Set.empty_union]
    exact hrs r
  have hnerec : rs ≠ [] := by
    obtain ⟨id, hid⟩ := List.exists_mem_of_ne_nil ids hne
    obtain ⟨r, hr⟩ := Option.isSome_iff_exists.1 (AList.lookup_isSome.2 (hmem id hid))
    obtain ⟨rfl, -⟩ := hA.valid id r hr
    exact List.ne_nil_of_mem ((hrs r).2 ⟨hr, hid⟩)
  have hclosed : Closed Before a.store.held (b.store.held ∪ {r | r ∈ rs}) ↔
      PredecessorClosed a.store ids := by
    constructor
    · intro h q r hq hr hlt hid
      exact ((hset q).1 (h r ((hset r).2 ⟨hr, hid⟩) q hq hlt)).2
    · intro h r hr q hq hlt
      obtain ⟨hheld, hid⟩ := (hset r).1 hr
      exact (hset q).2 ⟨hq, h q r hq hheld hlt hid⟩
  have hatom : ∀ r ∈ rs, deliveryOf [] r = lit "REFERENCE" → b.store.Holds r :=
    fun r _ h => absurd ((deliveryOf_nil r).symm.trans h) reference_ne_atom.symm
  refine ⟨_, a', ha', fun h => ?_, fun h => ?_⟩
  · have hroom : ∀ t : Store, t.WF → t.held = b.store.held ∪ {r | r ∈ rs} →
        t.values.length ≤ maxPacketRecords := by
      intro t ht hheld
      have hsubset : t.values ⊆ rs := by
        intro r hr
        have hr' : r ∈ b.store.held ∪ {r | r ∈ rs} := hheld ▸ (Store.mem_values ht).1 hr
        rw [hnone, Set.empty_union] at hr'
        exact hr'
      exact (List.subperm_of_subset (nodup_ids ht).of_map hsubset).length_le.trans hsel.length_le
    obtain ⟨reply, B', hrun, hallow, -, hheld⟩ := deliver_of_closed hA hB hsub hsel hnerec hslices
      hatom (hclosed.2 h) hroom now'
    obtain ⟨b', hb', rfl⟩ := call_reconstruct now' hrun
    refine ⟨reply, b', hb', hallow, fun r => ?_⟩
    rw [← hset, ← hheld]
    rfl
  · obtain ⟨B', hrun⟩ := deliver_of_not_closed hA hB hsub hsel hnerec hslices hatom
      (fun hc => h (hclosed.1 hc)) now'
    obtain ⟨b', hb', -⟩ := call_reconstruct_error now' hrun
    exact ⟨b', hb'⟩

/-- **Subset packets.**  A receiver without records accepts the packet of some ids exactly when the ids
leave out no predecessor within a slot, and then it ends with exactly the records of these ids;
otherwise it refuses the packet because a record is out of order. -/
theorem subset_packet (a b : SpacetimeADI) (ha : Reachable a) (hb : Reachable b)
    (hempty : b.store.values = []) (ids : List PyStr) (hne : ids ≠ []) (hnodup : ids.Nodup)
    (hlen : ids.length ≤ maxPacketRecords) (hmem : ∀ id ∈ ids, id ∈ a.store.records)
    (now now' : String) :
    ∃ p a', ((Call.packet (.list (ids.map PyVal.str)) .none).run now).run a = .ok p a' ∧
      (PredecessorClosed a.store ids → ∃ reply b',
        ((Call.reconstruct p).run now').run b = .ok reply b' ∧
        reply.get "total_field_decision" = lit "ALLOW" ∧
        ∀ r, b'.store.Holds r ↔ a.store.Holds r ∧ r.id ∈ ids) ∧
      (¬PredecessorClosed a.store ids → ∃ b',
        ((Call.reconstruct p).run now').run b = .error orderMismatch b') :=
  deliver_ids ha.wf hb.wf hne hnodup hlen hmem hempty now now'

theorem subset_packet_pair : ∃ p a' reply b',
    ((Call.packet (.list [lit "a"]) .none).run "").run pair = .ok p a' ∧
    ((Call.reconstruct p).run "").run (.new (.empty none)) = .ok reply b' ∧
    ∀ r, b'.store.Holds r ↔ pair.store.Holds r ∧ r.id = cp "a" := by
  obtain ⟨q, r, hqid, hrid, hlt, -, hq, hr, hvalues⟩ := pair_store
  have hmem : cp "a" ∈ pair.store.records := by
    rw [← AList.lookup_isSome, ← hqid, hq]
    rfl
  obtain ⟨p, a', hp, haccept, -⟩ := subset_packet pair (.new (.empty none)) reachable_pair
    reachable_empty rfl [cp "a"] (by simp) (by simp) (by decide) (by simp [hmem]) "" ""
  have hclosed : PredecessorClosed pair.store [cp "a"] := by
    intro x y hx hy hxy hid
    -- nothing comes before the first record of a slot
    obtain rfl : y = q := hy.eq_of_id hq (by simpa [hqid] using hid)
    rcases List.mem_cons.1 (hvalues ▸ (Store.mem_values reachable_pair.wf).2 hx) with rfl | hmem'
    · exact absurd (hxy.2.trans hlt.2) (Nat.lt_irrefl _)
    · rw [List.mem_singleton.1 hmem', hqid]
      simp
  obtain ⟨reply, b', hb', -, hheld⟩ := haccept hclosed
  exact ⟨p, a', reply, b', hp, hb', by simpa using hheld⟩

/-- The packet of the second record of a slot alone is refused. -/
theorem not_accepted_of_gap :
    ¬∀ a b : SpacetimeADI, Reachable a → Reachable b → b.store.values = [] →
      ∀ ids : List PyStr, ids ≠ [] → ids.Nodup → ids.length ≤ maxPacketRecords →
        (∀ id ∈ ids, id ∈ a.store.records) → ∀ now now' : String, ∃ p a' reply b',
          ((Call.packet (.list (ids.map PyVal.str)) .none).run now).run a = .ok p a' ∧
          ((Call.reconstruct p).run now').run b = .ok reply b' ∧
          ∀ r, b'.store.Holds r ↔ a.store.Holds r ∧ r.id ∈ ids := by
  intro h
  obtain ⟨q, r, hqid, hrid, hlt, -, hq, hr, -⟩ := pair_store
  have hmem : ∀ id ∈ [cp "b"], id ∈ pair.store.records := by
    intro id hid
    rw [← AList.lookup_isSome, List.mem_singleton.1 hid, ← hrid, hr]
    rfl
  obtain ⟨p, a', reply, b', hp, hb', -⟩ := h pair (.new (.empty none)) reachable_pair reachable_empty
    rfl [cp "b"] (by simp) (by simp) (by decide) hmem "" ""
  obtain ⟨p', a'', hp', -, hrefuse⟩ := deliver_ids reachable_pair.wf reachable_empty.wf
    (by simp) (by simp) (by decide) hmem rfl "" ""
  obtain rfl : p' = p := (EStateM.Result.ok.inj (hp'.symm.trans hp)).1
  have hgap : ¬PredecessorClosed pair.store [cp "b"] := by
    intro hclosed
    have hid := hclosed q r hq hr hlt (by simp [hrid])
    rw [hqid, List.mem_singleton, cp_inj] at hid
    exact absurd hid (by decide)
  obtain ⟨c, hc⟩ := hrefuse hgap
  rw [hc] at hb'
  exact absurd hb' (by simp)

end Adi
