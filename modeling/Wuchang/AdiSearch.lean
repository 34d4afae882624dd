/-
**A search finds what the exported state shows.**

A search walks through the buckets of the slots between two bounds and stops when it has enough records;
an export sorts all records by slot, collision index and id.  The bucket of a slot lists its records by
collision index, so the walk meets the records in the order of the export, and a search is a prefix of the
part of the export that lies between the bounds.

Main definitions:

* `Adi.Store.between` — the records of the slots between two bounds, in the order of the walk;
* `Adi.SearchAccepts` — the arguments a search accepts;
* `Adi.slotIn` — a record of an exported state is between the bounds.

Main results:

* `Adi.gather_eq` — the two loops of a search, with their early return;
* `Adi.Store.between_eq` — the walk meets the sorted records between the bounds;
* `Adi.search_agrees` — search and export, at every moment of a run.
-/

import Wuchang.AdiDelivery
import Mathlib.Data.List.Sort

set_option relaxedAutoImplicit false
set_option autoImplicit false

namespace Adi

open Py

/-! ### The loops -/

/-- The loops add the records of the ids, as long as there are fewer than the limit. -/
theorem gather_eq {s : Store} {limit : ℕ} (ids : List PyStr) : ∀ (result : List Rec),
    (∀ id ∈ ids, ∃ r, s.records.lookup id = some r) → result.length < limit →
    gather s limit ids result =
      .ok ((result ++ ids.filterMap fun id => s.records.lookup id).take limit) := by
  induction ids with
  | nil =>
      intro result _ hlen
      rw [gather, List.filterMap_nil, List.append_nil, List.take_of_length_le hlen.le]
      rfl
  | cons id ids ih =>
      intro result hids hlen
      obtain ⟨r, hr⟩ := hids id (by simp)
      have happ : result ++ (id :: ids).filterMap (fun id => s.records.lookup id) =
          (result ++ [r]) ++ ids.filterMap fun id => s.records.lookup id := by
        rw [List.filterMap_cons, hr, List.append_assoc, List.singleton_append]
      rw [gather, hr, happ]
      dsimp only
      by_cases hfull : (result ++ [r]).length = limit
      · -- the early return inside the inner loop
        rw [if_pos (by exact_mod_cast hfull), List.take_append_of_le_length hfull.ge,
          List.take_of_length_le hfull.le]
        rfl
      · rw [if_neg (by exact_mod_cast hfull)]
        refine ih _ (fun i hi => hids i (by simp [hi])) ?_
        rw [List.length_append, List.length_singleton] at hfull ⊢
        omega

/-! ### The walk -/

namespace Store

variable {s : Store}

/-- The records of the slots between two bounds, in the order in which a search meets them. -/
def between (s : Store) (start stop : ℕ) : List Rec :=
  ((slotsBetween s start stop).flatMap s.bucket).filterMap fun id => s.records.lookup id

theorem mem_slotsBetween {start stop slot : ℕ} :
    slot ∈ slotsBetween s start stop ↔ slot ∈ s.slots.keys ∧ start ≤ slot ∧ slot ≤ stop := by
  rw [slotsBetween, List.mem_mergeSort, List.mem_filter, decide_eq_true_iff]

/-- The slots come in order, each once. -/
theorem pairwise_slotsBetween (s : Store) (start stop : ℕ) :
    (slotsBetween s start stop).Pairwise (· < ·) := by
  have hle : (slotsBetween s start stop).Pairwise (· ≤ ·) := List.pairwise_mergeSort' (· ≤ ·) _
  have hnodup : (slotsBetween s start stop).Nodup :=
    (List.mergeSort_perm _ _).nodup_iff.2 (s.slots.keys_nodup.filter _)
  exact hle.imp₂ (fun _ _ hle hne => lt_of_le_of_ne hle hne) hnodup

/-- A slot with records has a bucket. -/
theorem WF.mem_slots (h : s.WF) {r : Rec} (hr : s.Holds r) : r.timeSlot ∈ s.slots.keys := by
  have hmem := (h.mem_bucket_iff r.timeSlot r.id).2 ⟨r, hr, rfl⟩
  by_contra hslot
  rw [bucket, AList.lookup_eq_none.2 hslot] at hmem
  exact absurd hmem (by simp)

/-- The walk meets the records between the bounds. -/
theorem mem_between (h : s.WF) {start stop : ℕ} {r : Rec} :
    r ∈ s.between start stop ↔ s.Holds r ∧ start ≤ r.timeSlot ∧ r.timeSlot ≤ stop := by
  simp only [between, List.mem_filterMap, List.mem_flatMap, mem_slotsBetween]
  constructor
  · rintro ⟨id, ⟨slot, ⟨-, hstart, hstop⟩, hid⟩, hlookup⟩
    obtain ⟨q, hq, rfl⟩ := (h.mem_bucket_iff slot id).1 hid
    obtain rfl : q = r := Option.some.inj (hq.symm.trans hlookup)
    obtain ⟨rfl, -⟩ := h.valid id q hq
    exact ⟨hq, hstart, hstop⟩
  · rintro ⟨hr, hstart, hstop⟩
    exact ⟨r.id, ⟨r.timeSlot, ⟨h.mem_slots hr, hstart, hstop⟩,
      (h.mem_bucket_iff _ _).2 ⟨r, hr, rfl⟩⟩, hr⟩

/-- A bucket lists its records by collision index. -/
theorem pairwise_bucket (h : s.WF) (slot : ℕ) : (s.bucket slot).Pairwise fun id id' =>
    ∀ q, s.records.lookup id = some q → ∀ r, s.records.lookup id' = some r → Before q r := by
  refine List.pairwise_iff_getElem.2 fun i j hi hj hij q hq r hr => ?_
  obtain ⟨q', hq', hqslot, hqi⟩ := (h.bucket_iff slot i _).1 (List.getElem?_eq_getElem hi)
  obtain ⟨r', hr', hrslot, hrj⟩ := (h.bucket_iff slot j _).1 (List.getElem?_eq_getElem hj)
  obtain rfl : q' = q := Option.some.inj (hq'.symm.trans hq)
  obtain rfl : r' = r := Option.some.inj (hr'.symm.trans hr)
  exact ⟨hqslot.trans hrslot.symm, by omega⟩

/-- A record of an earlier slot is sorted before one of a later slot. -/
theorem sortKey_lt_of_slot {q r : Rec} (h : q.timeSlot < r.timeSlot) : q.sortKey < r.sortKey := by
  rw [Rec.sortKey, Rec.sortKey, Prod.Lex.toLex_lt_toLex]
  exact .inl h

/-- The walk meets the records in the order of an export. -/
theorem pairwise_between (h : s.WF) (start stop : ℕ) :
    (s.between start stop).Pairwise fun q r => q.sortKey < r.sortKey := by
  rw [between, List.pairwise_filterMap, List.pairwise_flatMap]
  constructor
  · intro slot _
    exact (pairwise_bucket h slot).imp fun hbefore q hq r hr => sortKey_lt_of_before (hbefore q hq r hr)
  · refine (pairwise_slotsBetween s start stop).imp fun {slot slot'} hlt id hid id' hid' q hq r hr => ?_
    obtain ⟨q', hq', rfl⟩ := (h.mem_bucket_iff slot id).1 hid
    obtain ⟨r', hr', rfl⟩ := (h.mem_bucket_iff slot' id').1 hid'
    obtain rfl : q' = q := Option.some.inj (hq'.symm.trans hq)
    obtain rfl : r' = r := Option.some.inj (hr'.symm.trans hr)
    exact sortKey_lt_of_slot hlt

/-- The sorted records have different keys. -/
theorem pairwise_sorted (h : s.WF) : s.sorted.Pairwise fun q r => q.sortKey < r.sortKey := by
  have hids : (s.sorted.map Rec.id).Nodup :=
    ((sortRecords_perm s.values).map Rec.id).nodup_iff.2 (nodup_ids h)
  have hne := List.pairwise_map.1 hids
  refine (pairwise_sortRecords s.values).imp₂ (fun q r hle hid => lt_of_le_of_ne hle fun heq => hid ?_) hne
  simp only [Rec.sortKey, EmbeddingLike.apply_eq_iff_eq, Prod.mk.injEq] at heq
  exact heq.2.2

/-- **The walk.**  It meets the sorted records that lie between the bounds. -/
theorem between_eq (h : s.WF) (start stop : ℕ) : s.between start stop =
    s.sorted.filter fun r => start ≤ r.timeSlot ∧ r.timeSlot ≤ stop := by
  have : Std.Irrefl fun q r : Rec => q.sortKey < r.sortKey := ⟨fun _ => lt_irrefl _⟩
  have : Std.Antisymm fun q r : Rec => q.sortKey < r.sortKey := ⟨fun _ _ hlt hgt => absurd hgt hlt.not_gt⟩
  refine (pairwise_between h start stop).eq_of_mem_iff ((pairwise_sorted h).filter _) fun r => ?_
  rw [mem_between h, List.mem_filter, mem_sorted h, decide_eq_true_iff]

end Store

/-! ### Search and export -/

/-- The arguments a search accepts. -/
structure SearchAccepts (startSlot endSlot limit : PyVal) (start stop n : ℕ) : Prop where
  start_eq : startSlot = .int start
  stop_eq : endSlot = .int stop
  limit_eq : limit = .int n
  start_le_stop : start ≤ stop
  stop_le : (stop : ℤ) ≤ maxTimeSlot
  limit_pos : 1 ≤ n
  limit_le : (n : ℤ) ≤ maxResults

/-- The slot of a record of an exported state is between the bounds. -/
def slotIn (start stop : ℕ) (record : PyVal) : Bool :=
  match record.get "time_slot" with
  | .int slot => start ≤ slot && slot ≤ stop
  | _ => false

theorem slotIn_toVal (start stop : ℕ) (r : Rec) :
    slotIn start stop r.toVal = decide (start ≤ r.timeSlot ∧ r.timeSlot ≤ stop) := by
  have hslot : r.toVal.get "time_slot" = .int r.timeSlot := by
    rw [Rec.toVal, Rec.basis, setKey_fields]
    simp +decide [PyVal.get, setField]
  rw [slotIn, hslot]
  simp

/-- A search that is accepted returns records of the walk. -/
theorem searchRecords_of_accepts {s : Store} (h : s.WF) {startSlot endSlot limit : PyVal} {start stop n : ℕ}
    (hargs : SearchAccepts startSlot endSlot limit start stop n) :
    searchRecords s startSlot endSlot limit = .ok ((s.between start stop).take n) := by
  have hstart : requireTimeSlot startSlot (cp "$.start_slot") = .ok start :=
    requireTimeSlot_eq_ok_iff.2 ⟨hargs.start_eq, by have := hargs.start_le_stop; have := hargs.stop_le; omega⟩
  have hstop : requireTimeSlot endSlot (cp "$.end_slot") = .ok stop :=
    requireTimeSlot_eq_ok_iff.2 ⟨hargs.stop_eq, hargs.stop_le⟩
  have hpos := hargs.limit_pos
  have hle := hargs.limit_le
  rw [searchRecords, hstart, ok_bind, hstop, ok_bind, holdIf_neg hargs.start_le_stop.not_gt, ok_bind,
    hargs.limit_eq]
  dsimp only
  rw [holdIf_neg (by omega), ok_bind, gather_eq _ [] ?_ hpos]
  · rfl
  · intro id hid
    obtain ⟨slot, -, hid⟩ := List.mem_flatMap.1 hid
    obtain ⟨r, hr, -⟩ := (h.mem_bucket_iff slot id).1 hid
    exact ⟨r, hr⟩

/-- What is no time slot is refused with an error of the core. -/
theorem requireTimeSlot_cases (v : PyVal) (path : PyStr) :
    (∃ n : ℕ, v = .int n ∧ (n : ℤ) ≤ maxTimeSlot ∧ requireTimeSlot v path = .ok n) ∨
      ∃ e, requireTimeSlot v path = .error (.own e) := by
  cases h : requireTimeSlot v path with
  | ok n =>
      obtain ⟨rfl, hle⟩ := requireTimeSlot_eq_ok_iff.1 h
      exact .inl ⟨n, rfl, hle, rfl⟩
  | error e =>
      refine .inr ?_
      cases v with
      | int m =>
          rw [requireTimeSlot] at h
          by_cases hm : m < 0 ∨ m > maxTimeSlot
          · rw [holdIf_pos hm] at h
            exact ⟨_, h.symm.trans rfl⟩
          · rw [holdIf_neg hm] at h
            cases h
      | _ => exact ⟨_, h.symm.trans rfl⟩

/-- A search with other arguments is refused with an error of the core. -/
theorem searchRecords_refused (s : Store) {startSlot endSlot limit : PyVal}
    (hargs : ∀ start stop n, ¬SearchAccepts startSlot endSlot limit start stop n) :
    ∃ e, searchRecords s startSlot endSlot limit = .error (.own e) := by
  rw [searchRecords]
  rcases requireTimeSlot_cases startSlot (cp "$.start_slot") with ⟨start, hstart, -, hok⟩ | ⟨e, herr⟩
  · rw [hok, ok_bind]
    rcases requireTimeSlot_cases endSlot (cp "$.end_slot") with ⟨stop, hstop, hle, hok⟩ | ⟨e, herr⟩
    · rw [hok, ok_bind]
      by_cases hrange : stop < start
      · rw [holdIf_pos hrange]
        exact ⟨_, rfl⟩
      · rw [holdIf_neg hrange, ok_bind]
        cases limit with
        | int l =>
            dsimp only
            by_cases hlimit : l < 1 ∨ l > maxResults
            · rw [holdIf_pos hlimit]
              exact ⟨_, rfl⟩
            · -- these arguments are accepted
              exact absurd ⟨hstart, hstop, by rw [Int.toNat_of_nonneg (by omega)], by omega, hle,
                by omega, by omega⟩ (hargs start stop l.toNat)
        | _ => exact ⟨_, rfl⟩
    · rw [herr]
      exact ⟨e, rfl⟩
  · rw [herr]
    exact ⟨e, rfl⟩

/-- What a search returns is what its body returns. -/
theorem search_run (a : SpacetimeADI) (now : String) (startSlot endSlot limit : PyVal) :
    ∃ m, ((Call.search startSlot endSlot limit).run now).run a =
      match searchRecords a.store startSlot endSlot limit with
      | .ok rs => .ok (.list (rs.map Rec.toVal)) ⟨a.store, m⟩
      | .error e => .error e ⟨a.store, m⟩ := by
  unfold Call.run
  rw [EStateM.run_bind, SpacetimeADI.search, SpacetimeADI.counted_run, SpacetimeADI.reading, EStateM.run_bind,
    EStateM.run_get]
  dsimp only
  cases searchRecords a.store startSlot endSlot limit with
  | ok rs => exact ⟨_, rfl⟩
  | error e => exact ⟨_, rfl⟩

/-- **Search and export agree.**  At every moment of a run at which all records fit into one document, the
arguments of a search are accepted, and it returns the first records of the exported state whose slot lies
between the bounds, as many as the limit allows; or it is refused with an error of the core. -/
theorem search_agrees (a : SpacetimeADI) (h : Reachable a) (hroom : a.store.values.length ≤ maxPacketRecords) :
    ∃ state records, (∀ now, ((Call.exportState .none).run now).run a = .ok state a) ∧
      state.get "records" = .list records ∧ ∀ now startSlot endSlot limit,
        (∀ start stop n, SearchAccepts startSlot endSlot limit start stop n → ∃ b, b.store = a.store ∧
          ((Call.search startSlot endSlot limit).run now).run a =
            .ok (.list ((records.filter (slotIn start stop)).take n)) b) ∧
        ((∀ start stop n, ¬SearchAccepts startSlot endSlot limit start stop n) → ∃ e b, b.store = a.store ∧
          ((Call.search startSlot endSlot limit).run now).run a = .error (.own e) b) := by
  have hwf := h.wf
  have hexport : exportState a.store .none = .ok (stateDoc a.store.sorted) := by
    rw [exportState, selectedRecords_all, if_neg hroom.not_gt, ok_bind,
      stateDocument_of_valid (Store.valid_sorted hwf)]
  refine ⟨stateDoc a.store.sorted, a.store.sorted.map Rec.toVal, fun now => ?_, by simp [stateDoc],
    fun now startSlot endSlot limit => ⟨fun start stop n hargs => ?_, fun hargs => ?_⟩⟩
  · unfold Call.run
    rw [EStateM.run_bind, EStateM.run_get]
    dsimp only
    rw [hexport]
    rfl
  · obtain ⟨m, hrun⟩ := search_run a now startSlot endSlot limit
    have hfilter : (a.store.sorted.map Rec.toVal).filter (slotIn start stop) =
        (a.store.between start stop).map Rec.toVal := by
      rw [Store.between_eq hwf, List.filter_map]
      congr 2
      funext r
      exact slotIn_toVal start stop r
    rw [searchRecords_of_accepts hwf hargs] at hrun
    rw [hfilter, ← List.map_take]
    exact ⟨⟨a.store, m⟩, rfl, hrun⟩
  · obtain ⟨m, hrun⟩ := search_run a now startSlot endSlot limit
    obtain ⟨e, herr⟩ := searchRecords_refused a.store hargs
    rw [herr] at hrun
    exact ⟨e, ⟨a.store, m⟩, rfl, hrun⟩

theorem search_agrees_inserted : ∃ state records,
    ((Call.exportState .none).run "2026-01-01T00:00:01Z").run inserted = .ok state inserted ∧
      state.get "records" = .list records ∧ ∃ b,
        ((Call.search (.int 0) (.int 9) (.int 5)).run "2026-01-01T00:00:02Z").run inserted =
          .ok (.list ((records.filter (slotIn 0 9)).take 5)) b := by
  have hstart : construct "2026-01-01T00:00:00Z" none = .ok (.empty none) := rfl
  obtain ⟨state, records, hexport, hrecords, hsearch⟩ :=
    search_agrees inserted ((Reachable.new hstart).call _ _) (by decide +kernel)
  obtain ⟨b, -, hrun⟩ := (hsearch "2026-01-01T00:00:02Z" (.int 0) (.int 9) (.int 5)).1 0 9 5
    ⟨rfl, rfl, rfl, by decide, by decide, by decide, by decide⟩
  exact ⟨state, records, hexport _, hrecords, b, hrun⟩

end Adi
