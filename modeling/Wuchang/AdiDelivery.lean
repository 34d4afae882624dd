/-
**Records are delivered in the order of their predecessors.**

Within a slot a record comes after the records with smaller collision indices.  A store that holds
only records of another store holds them without gaps, so accepting records of that other store is a
delivery in the sense of `Wuchang.Delivery`: a record is taken when it is held or when all its
predecessors are.

Main definitions:

* `Adi.Before` — a record comes before another one of its slot;
* `Adi.Store.held` — the records of a store.

Main results:

* `Adi.fits_iff_goesThrough` — accepting records is a delivery;
* `Adi.fits_iff_closed` — sorted records are accepted exactly when no predecessor is left out;
* `Adi.holds_addAll_iff` — the store then holds what it held and what was delivered.
-/

import Wuchang.AdiReconstruction
import Wuchang.Delivery

set_option relaxedAutoImplicit false
set_option autoImplicit false

namespace Adi

open Py Delivery

/-- The record comes before another one of its slot. -/
def Before (q r : Rec) : Prop := q.timeSlot = r.timeSlot ∧ q.collisionIndex < r.collisionIndex

theorem not_before_self (r : Rec) : ¬Before r r := fun h => Nat.lt_irrefl _ h.2

namespace Store

/-- The records of a store. -/
def held (s : Store) : Set Rec := {r | s.Holds r}

@[simp] theorem mem_held {s : Store} {r : Rec} : r ∈ s.held ↔ s.Holds r := Iff.rfl

variable {A B : Store} {r : Rec}

/-- Records with the same id are the same. -/
theorem Holds.eq_of_id {q : Rec} (hq : A.Holds q) (hr : A.Holds r) (h : q.id = r.id) : q = r := by
  rw [Holds, h] at hq
  exact Option.some.inj (hq.symm.trans hr)

/-- A receiver that holds a record with the id of one of the sender's holds that very record. -/
theorem eq_of_lookup {e : Rec} (hB : B.WF) (hsub : B.held ⊆ A.held) (hr : A.Holds r)
    (h : B.records.lookup r.id = some e) : e = r := by
  obtain ⟨hid, -⟩ := hB.valid _ e h
  have he : B.Holds e := by rwa [Holds, hid]
  exact (hsub he).eq_of_id hr hid

theorem mem_records_iff (hB : B.WF) (hsub : B.held ⊆ A.held) (hr : A.Holds r) :
    r.id ∈ B.records ↔ B.Holds r := by
  rw [← AList.lookup_isSome, Option.isSome_iff_exists]
  constructor
  · rintro ⟨e, he⟩
    obtain rfl := eq_of_lookup hB hsub hr he
    exact he
  · exact fun h => ⟨r, h⟩

/-- A record is at the place its collision index names. -/
theorem WF.getElem?_bucket (h : A.WF) (hr : A.Holds r) :
    (A.bucket r.timeSlot)[r.collisionIndex]? = some r.id :=
  (h.bucket_iff _ _ _).2 ⟨r, hr, rfl, rfl⟩

/-- A place of a bucket is that of a record. -/
theorem WF.exists_of_lt (h : A.WF) {slot k : ℕ} (hk : k < (A.bucket slot).length) :
    ∃ q, A.Holds q ∧ q.timeSlot = slot ∧ q.collisionIndex = k := by
  obtain ⟨q, hq, hslot, hindex⟩ := (h.bucket_iff slot k _).1 (List.getElem?_eq_getElem hk)
  obtain ⟨hid, -⟩ := h.valid _ q hq
  exact ⟨q, by rwa [Holds, hid], hslot, hindex⟩

theorem WF.index_lt (h : A.WF) (hr : A.Holds r) :
    r.collisionIndex < (A.bucket r.timeSlot).length :=
  (List.getElem?_eq_some_iff.1 (h.getElem?_bucket hr)).1

/-- A store holds its records without gaps. -/
theorem closed_held (hA : A.WF) (hB : B.WF) (hsub : B.held ⊆ A.held) :
    Closed Before A.held B.held := by
  rintro r hr q hq ⟨hslot, hlt⟩
  have hplace : q.collisionIndex < (B.bucket r.timeSlot).length := hlt.trans (hB.index_lt hr)
  obtain ⟨p, hp, hpslot, hpindex⟩ := hB.exists_of_lt hplace
  obtain rfl : p = q := hA.eq_of_index (hsub hp) hq (hpslot.trans hslot.symm) hpindex
  exact hp

/-- A record that is not held is the next one of its slot when all its predecessors are held. -/
theorem ready_iff (hA : A.WF) (hB : B.WF) (hsub : B.held ⊆ A.held) (hr : A.Holds r)
    (hnew : ¬B.Holds r) :
    Ready Before A.held B.held r ↔ r.collisionIndex = (B.bucket r.timeSlot).length := by
  constructor
  · intro hready
    rcases Nat.lt_trichotomy r.collisionIndex (B.bucket r.timeSlot).length with hlt | heq | hgt
    · -- the place of the record is taken, by the record itself
      obtain ⟨q, hq, hslot, hindex⟩ := hB.exists_of_lt hlt
      obtain rfl := hA.eq_of_index (hsub hq) hr hslot hindex
      exact absurd hq hnew
    · exact heq
    · -- the record that is missing at the end of the bucket is a predecessor
      obtain ⟨q, hq, hslot, hindex⟩ := hA.exists_of_lt (hgt.trans (hA.index_lt hr))
      have hqB : B.Holds q := hready q hq ⟨hslot, by omega⟩
      have hlt := hB.index_lt hqB
      rw [hslot] at hlt
      omega
  · rintro heq q hq ⟨hslot, hlt⟩
    obtain ⟨p, hp, hpslot, hpindex⟩ := hB.exists_of_lt (heq ▸ hlt)
    obtain rfl := hA.eq_of_index (hsub hp) hq (hpslot.trans hslot.symm) hpindex
    exact hp

/-- What a store holds after one more record. -/
theorem holds_add_iff (hfresh : B.records.lookup r.id = none) {q : Rec} :
    (B.add r).Holds q ↔ q = r ∨ B.Holds q := by
  by_cases hid : q.id = r.id
  · rw [Holds, hid, add_lookup_self, Option.some.injEq]
    constructor
    · exact fun h => .inl h.symm
    · rintro (rfl | h)
      · rfl
      · rw [Holds, hid, hfresh] at h
        exact absurd h (by simp)
  · rw [Holds, add_lookup_ne B r hid]
    constructor
    · exact .inr
    · rintro (rfl | h)
      · exact absurd rfl hid
      · exact h

end Store

section Delivery

variable {A : Store} (hA : A.WF)
include hA

/-- Accepting records of another store is a delivery. -/
theorem fits_iff_goesThrough {rs : List Rec} (hrs : ∀ r ∈ rs, A.Holds r) :
    ∀ {B : Store}, B.WF → B.held ⊆ A.held →
      (Fits B rs ↔ GoesThrough Before A.held B.held rs) := by
  induction rs with
  | nil => exact fun _ _ => Iff.rfl
  | cons r rs ih =>
      intro B hB hsub
      have hr : A.Holds r := hrs r (by simp)
      have hrest : ∀ q ∈ rs, A.Holds q := fun q hq => hrs q (by simp [hq])
      rw [Fits, GoesThrough]
      cases hlookup : B.records.lookup r.id with
      | some e =>
          dsimp only
          -- the record that is held is the one that is delivered
          obtain rfl := Store.eq_of_lookup hB hsub hr hlookup
          have heq : e.toVal.eq e.toVal := (hA.valid _ e hr).2.canonical.normal.eq_refl
          rw [Set.insert_eq_of_mem (Store.mem_held.2 hlookup), ih hrest hB hsub]
          exact ⟨fun h => ⟨.inl hlookup, h.2⟩, fun h => ⟨heq, h.2⟩⟩
      | none =>
          dsimp only
          have hnew : ¬B.Holds r := by simp [Store.Holds, hlookup]
          have hready := Store.ready_iff hA hB hsub hr hnew
          have hset : (B.add r).held = insert r B.held := by
            ext q
            exact Store.holds_add_iff hlookup
          have hstep : ∀ hnext : r.collisionIndex = (B.bucket r.timeSlot).length,
              (Fits (B.add r) rs ↔ GoesThrough Before A.held (insert r B.held) rs) := by
            intro hnext
            rw [← hset]
            refine ih hrest (hB.add (hA.valid _ r hr).2 hlookup hnext) ?_
            rw [hset]
            exact Set.insert_subset hr hsub
          constructor
          · rintro ⟨hnext, hfits⟩
            exact ⟨.inr (hready.2 hnext), (hstep hnext).1 hfits⟩
          · rintro ⟨hmem | h, hgoes⟩
            · exact absurd hmem hnew
            · exact ⟨hready.1 h, (hstep (hready.1 h)).2 hgoes⟩

/-- The store holds what it held and what was delivered. -/
theorem holds_addAll_iff {rs : List Rec} (hrs : ∀ r ∈ rs, A.Holds r) :
    ∀ {B : Store}, B.WF → B.held ⊆ A.held → Fits B rs →
      ∀ q, (B.addAll rs).Holds q ↔ B.Holds q ∨ q ∈ rs := by
  induction rs with
  | nil => simp [Store.addAll]
  | cons r rs ih =>
      intro B hB hsub hfits q
      have hr : A.Holds r := hrs r (by simp)
      have hrest : ∀ q ∈ rs, A.Holds q := fun q hq => hrs q (by simp [hq])
      rw [Fits] at hfits
      rw [Store.addAll, List.foldl_cons, ← Store.addAll]
      cases hlookup : B.records.lookup r.id with
      | some e =>
          rw [hlookup] at hfits
          obtain rfl := Store.eq_of_lookup hB hsub hr hlookup
          rw [Store.addNew_of_some hlookup, ih hrest hB hsub hfits.2, List.mem_cons]
          constructor
          · exact Or.imp_right .inr
          · rintro (h | rfl | h)
            · exact .inl h
            · exact .inl hlookup
            · exact .inr h
      | none =>
          rw [hlookup] at hfits
          obtain ⟨hnext, hfits⟩ := hfits
          have hsub' : (B.add r).held ⊆ A.held := by
            intro p hp
            rcases (Store.holds_add_iff hlookup).1 hp with rfl | hp
            · exact hr
            · exact hsub hp
          rw [Store.addNew_of_none hlookup,
            ih hrest (hB.add (hA.valid _ r hr).2 hlookup hnext) hsub' hfits,
            Store.holds_add_iff hlookup, List.mem_cons, or_comm (a := q = r), or_assoc]

/-- Sorted records are accepted exactly when no predecessor is left out. -/
theorem fits_iff_closed {rs : List Rec} (hrs : ∀ r ∈ rs, A.Holds r)
    (sorted : rs.Pairwise fun a b => ¬Before b a) {B : Store} (hB : B.WF)
    (hsub : B.held ⊆ A.held) : Fits B rs ↔ Closed Before A.held (B.held ∪ {r | r ∈ rs}) := by
  rw [fits_iff_goesThrough hA hrs hB hsub]
  exact goesThrough_iff not_before_self sorted (Store.closed_held hA hB hsub)

end Delivery

/-! ### Sorted records -/

/-- A record that comes before another one is sorted before it. -/
theorem sortKey_lt_of_before {q r : Rec} (h : Before q r) : q.sortKey < r.sortKey := by
  rw [Rec.sortKey, Rec.sortKey, Prod.Lex.toLex_lt_toLex]
  exact .inr ⟨h.1, Prod.Lex.toLex_lt_toLex.2 (.inl h.2)⟩

theorem pairwise_sortRecords (rs : List Rec) :
    (sortRecords rs).Pairwise fun a b => a.sortKey ≤ b.sortKey := by
  have h := @List.pairwise_mergeSort _ (fun a b : Rec => decide (a.sortKey ≤ b.sortKey))
    (fun a b c hab hbc => by simpa using le_trans (by simpa using hab) (by simpa using hbc))
    (fun a b => by simpa using le_total a.sortKey b.sortKey) rs
  exact h.imp fun hab => by simpa using hab

/-- Sorted records come in the order of their predecessors. -/
theorem not_before_sortRecords (rs : List Rec) :
    (sortRecords rs).Pairwise fun a b => ¬Before b a :=
  (pairwise_sortRecords rs).imp fun hle hlt => (sortKey_lt_of_before hlt).not_ge hle

/-- Sorting sorted records changes nothing. -/
theorem sortRecords_sortRecords (rs : List Rec) : sortRecords (sortRecords rs) = sortRecords rs :=
  List.mergeSort_of_pairwise ((pairwise_sortRecords rs).imp fun h => by simpa using h)

/-! ### Stores with the same records -/

/-- Records determine the buckets. -/
theorem bucket_eq_of_held {s t : Store} (hs : s.WF) (ht : t.WF) (h : s.held = t.held) (slot : ℕ) :
    s.bucket slot = t.bucket slot := by
  have hlookup : ∀ id r, s.records.lookup id = some r ↔ t.records.lookup id = some r := by
    intro id r
    constructor
    · intro hr
      obtain ⟨rfl, -⟩ := hs.valid id r hr
      exact (h ▸ hr : r ∈ t.held)
    · intro hr
      obtain ⟨rfl, -⟩ := ht.valid id r hr
      exact (h ▸ hr : r ∈ s.held)
  refine List.ext_getElem? fun k => Option.ext fun id => ?_
  rw [hs.bucket_iff, ht.bucket_iff]
  simp only [hlookup]

theorem nodup_ids {s : Store} (hs : s.WF) : (s.values.map Rec.id).Nodup := by
  have hkeys : s.values.map Rec.id = s.records.keys := by
    rw [Store.values, List.map_map]
    refine List.map_congr_left fun e he => ?_
    exact (hs.valid e.1 e.2 (AList.mem_lookup_iff.2 he)).1
  rw [hkeys]
  exact s.records.keys_nodup

/-- Records determine the sorted list of them. -/
theorem sorted_eq_of_held {s t : Store} (hs : s.WF) (ht : t.WF) (h : s.held = t.held) :
    s.sorted = t.sorted := by
  have hmem : ∀ r, r ∈ s.values ↔ r ∈ t.values := by
    intro r
    rw [Store.mem_values hs, Store.mem_values ht, ← Store.mem_held, h, Store.mem_held]
  have hperm : s.values.Perm t.values :=
    (List.perm_ext_iff_of_nodup (nodup_ids hs).of_map (nodup_ids ht).of_map).2 hmem
  have hsorted : s.sorted.Perm t.sorted :=
    (sortRecords_perm _).trans (hperm.trans (sortRecords_perm _).symm)
  refine hsorted.eq_of_pairwise ?_ (pairwise_sortRecords _) (pairwise_sortRecords _)
  -- the id is part of the key, and it determines the record
  intro q r hq hr hle hge
  have hkey : q.sortKey = r.sortKey := le_antisymm hle hge
  have hid : q.id = r.id := by
    simp only [Rec.sortKey, EmbeddingLike.apply_eq_iff_eq, Prod.mk.injEq] at hkey
    exact hkey.2.2
  have hrs : s.Holds r := (h ▸ (Store.mem_sorted ht).1 hr : r ∈ s.held)
  exact ((Store.mem_sorted hs).1 hq).eq_of_id hrs hid

end Adi
