/-
**The native ADI store.**

The store keeps records by id and, for every time slot, the bucket of its ids in the order in which
they came in.  A store with a state directory appends an event to its log before it accepts records
and replaces its snapshot afterwards; constructing a store reads both files back.

What is under the state directory is modelled by the writes that were completed, in order: a write
is the append of one event or the replacement of the snapshot.  The log is the list of the events
appended, the snapshot is the one that was put there last, and both are read back as they were
written; files that cannot be read or parsed are not modelled.

Main definitions:

* `Adi.Store` — the object, without its request counters;
* `Adi.acceptRecord` — `_accept_record`;
* `Adi.appendEvent`, `Adi.persistSnapshot` — the two writes;
* `Adi.insertRecord`, `Adi.searchRecords`, `Adi.selectedRecords` — the bodies of the methods;
* `Adi.load` — `_load_persistent_state`.
-/

import Wuchang.AdiRecord
import Mathlib.Data.List.AList
import Mathlib.Data.Prod.Lex

set_option relaxedAutoImplicit false
set_option autoImplicit false

namespace Adi

open Py

/-! ### The object -/

/-- A dictionary whose order is not observed. -/
abbrev Dict (κ α : Type) := AList fun _ : κ => α

/-- A completed write under the state directory. -/
inductive Write where
  /-- A line is appended to `events.jsonl`. -/
  | event (e : PyVal)
  /-- `snapshot.json` is replaced. -/
  | snapshot (v : PyVal)

/-- `SpacetimeADI`, without its request counters. -/
structure Store where
  records : Dict PyStr Rec
  slots : Dict ℕ (List PyStr)
  /-- The writes under `_state_dir`, if there is one. -/
  stateDir : Option (List Write)
  eventSequence : ℕ
  lastEventSha256 : Option PyStr

namespace Store

/-- A store without records. -/
def empty (stateDir : Option (List Write)) : Store := ⟨∅, ∅, stateDir, 0, none⟩

/-- `self._slots.get(slot, [])` -/
def bucket (s : Store) (slot : ℕ) : List PyStr := (s.slots.lookup slot).getD []

/-- `self._records.values()` -/
def values (s : Store) : List Rec := s.records.entries.map Sigma.snd

end Store

/-- The log: the events that were appended. -/
def eventsOf : List Write → List PyVal
  | [] => []
  | .event e :: ws => e :: eventsOf ws
  | .snapshot _ :: ws => eventsOf ws

/-- The snapshot that was put there last. -/
def snapshotOf : List Write → Option PyVal
  | [] => none
  | .event _ :: ws => snapshotOf ws
  | .snapshot v :: ws => (snapshotOf ws).or (some v)

/-- A document as it is read back: its normal form, when that can be encoded. -/
def written (v : PyVal) : Except Fault PyVal := do
  let w ← normalize v
  let _ ← (encodeUtf8 w.dumps : Except Fault (List UInt8))
  pure w

/-! ### Accepting a record -/

/-- `self._slots.setdefault(slot, [])` -/
def setDefaultBucket (slot : ℕ) : EStateM Fault Store Unit := do
  let s ← get
  match s.slots.lookup slot with
  | some _ => pure ()
  | none => set { s with slots := s.slots.insert slot [] }

/-- `_accept_record` -/
def acceptRecord (record : PyVal) : EStateM Fault Store Bool := do
  let validated ← validateSuppliedRecord record
  let s ← get
  match s.records.lookup validated.id with
  | some existing => do
      holdIf (¬existing.toVal.eq validated.toVal) "APPEND_ONLY_RECORD_CONFLICT" (cp "$.id")
      pure false
  | none => do
      setDefaultBucket validated.timeSlot
      holdIf (validated.collisionIndex ≠ (s.bucket validated.timeSlot).length)
        "SPIRAL_COLLISION_ORDER_MISMATCH" (cp "$.collision_index")
      modify fun t => { t with
        slots := t.slots.insert validated.timeSlot (s.bucket validated.timeSlot ++ [validated.id])
        records := t.records.insert validated.id validated }
      pure true

/-- The loop `for record in records: self._accept_record(record)` -/
def acceptAll : List PyVal → EStateM Fault Store Unit
  | [] => pure ()
  | record :: records => do
      let _ ← acceptRecord record
      acceptAll records

/-! ### Selecting records -/

/-- The key records are sorted by. -/
def Rec.sortKey (r : Rec) : ℕ ×ₗ ℕ ×ₗ PyStr := toLex (r.timeSlot, toLex (r.collisionIndex, r.id))

/-- `sorted(records, key=self._record_sort_key)` -/
def sortRecords (rs : List Rec) : List Rec := rs.mergeSort fun a b => a.sortKey ≤ b.sortKey

theorem sortRecords_perm (rs : List Rec) : (sortRecords rs).Perm rs := List.mergeSort_perm _ _

theorem mem_sortRecords {rs : List Rec} {r : Rec} : r ∈ sortRecords rs ↔ r ∈ rs :=
  (sortRecords_perm rs).mem_iff

/-- `sorted(texts)` -/
def sortTexts (ts : List PyStr) : List PyStr := ts.mergeSort fun a b => a ≤ b

/-- What a loop over a value runs through. -/
def elements : PyVal → Except Fault (List PyVal)
  | .list xs => .ok xs
  | .dict items => .ok (items.map fun p => match p.1 with | .str s => .str s | .other => .other)
  | .str s => .ok (s.map fun c => .str [c])
  | _ => .error (.builtin .typeError)

/-- `[_require_id(item, f"$.ids[{index}]") for index, item in enumerate(ids)]`, from `i` on. -/
def requireIds (i : ℕ) : List PyVal → Except Fault (List PyStr)
  | [] => pure []
  | v :: vs => do
      let id ← requireId v (cp "$.ids[" ++ intText i ++ cp "]")
      let ids ← requireIds (i + 1) vs
      pure (id :: ids)

/-- The ids a caller names. -/
def normalizedIds (ids : PyVal) : Except Fault (List PyStr) :=
  match ids with
  | .str _ => hold "PACKET_ID_SET_INVALID" (cp "$.ids")
  | _ => do
      let items ← elements ids
      holdIf (items.length > maxPacketRecords) "PACKET_ID_SET_INVALID" (cp "$.ids")
      let normalized ← requireIds 0 items
      holdIf (¬normalized.Nodup) "PACKET_ID_SET_DUPLICATE" (cp "$.ids")
      pure normalized

/-- The records that are asked for: those with the given ids, or all of them. -/
def recordsFor (s : Store) (ids : PyVal) : Except Fault (List Rec) :=
  match ids with
  | .none => pure s.values
  | _ => do
      let normalized ← normalizedIds ids
      holdIf (∃ id ∈ normalized, id ∉ s.records) "PACKET_RECORD_NOT_FOUND" (cp "$.ids")
      pure (normalized.filterMap fun id => s.records.lookup id)

/-- `_selected_records` -/
def selectedRecords (s : Store) (ids : PyVal) : Except Fault (List Rec) := do
  let records ← recordsFor s ids
  holdIf (records.length > maxPacketRecords) "PACKET_RECORD_LIMIT_EXCEEDED" root
  pure (sortRecords records)

/-- `_state_document` -/
def stateDocument (records : List Rec) : Except Fault PyVal := do
  let documents ← records.mapM fun r => normalize r.toVal
  pure (obj [("protocol_version", protocolVersion), ("records", .list documents),
    ("schema_version", stateSchemaVersion)])

/-- `export_state` -/
def exportState (s : Store) (ids : PyVal) : Except Fault PyVal := do
  let records ← selectedRecords s ids
  stateDocument records

/-- `state_sha256` -/
def stateSha256 (s : Store) (ids : PyVal) : Except Fault PyStr := do
  let state ← exportState s ids
  canonicalSha256 state

/-- `record_hashes` -/
def recordHashes (s : Store) : PyVal :=
  .dict (s.values.map fun r => (.str r.id, .str r.recordSha256))

/-- `evidence_root` -/
def evidenceRoot (s : Store) : Except Fault PyStr :=
  match s.lastEventSha256 with
  | some (c :: cs) => pure (c :: cs)
  | _ => stateSha256 s .none

/-! ### Persistence -/

/-- A text, or `None`. -/
def orNone : Option PyStr → PyVal
  | some s => .str s
  | none => .none

/-- An event without its hash. -/
def eventBasis (s : Store) (observedAt eventType : String) (payload : PyVal) : Items :=
  fields [("event_type", lit eventType), ("observed_at", lit observedAt), ("payload", payload),
    ("previous_event_sha256", orNone s.lastEventSha256), ("protocol_version", protocolVersion),
    ("schema_version", lit "W7TP_NATIVE_ADI_APPEND_ONLY_EVENT/1.0"),
    ("sequence", .int (s.eventSequence + 1))]

/-- `_append_event` at the time `observed_at` -/
def appendEvent (observedAt eventType : String) (payload : PyVal) : EStateM Fault Store Unit := do
  let s ← get
  match s.stateDir with
  | none => pure ()
  | some writes => do
      let payload ← normalize payload
      let basis := eventBasis s observedAt eventType payload
      let sha ← canonicalSha256 (.dict basis)
      let event ← written (.dict (setKey (cp "event_sha256") (.str sha) basis))
      set { s with
        stateDir := some (writes ++ [Write.event event])
        eventSequence := s.eventSequence + 1
        lastEventSha256 := some sha }

/-- A snapshot without its hash. -/
def snapshotBasis (s : Store) (state : PyVal) : Items :=
  fields [("event_sequence", .int s.eventSequence),
    ("last_event_sha256", orNone s.lastEventSha256), ("protocol_version", protocolVersion),
    ("schema_version", stateSchemaVersion), ("state", state)]

/-- `_persist_snapshot` -/
def persistSnapshot : EStateM Fault Store Unit := do
  let s ← get
  match s.stateDir with
  | none => pure ()
  | some writes => do
      let state ← exportState s .none
      let sha ← canonicalSha256 state
      let snapshot ← written (.dict (setKey (cp "state_sha256") (.str sha) (snapshotBasis s state)))
      set { s with stateDir := some (writes ++ [Write.snapshot snapshot]) }

/-! ### Insertion and search -/

/-- `insert`, without the counters -/
def insertRecord (now : String) (recordId timeSlot payload : PyVal) : EStateM Fault Store Rec := do
  let s ← get
  let safeId ← requireId recordId (cp "$.id")
  let safeSlot ← requireTimeSlot timeSlot (cp "$.time_slot")
  match s.records.lookup safeId with
  | some existing => do
      let candidate ← buildRecord (.str safeId) (.int safeSlot) payload existing.collisionIndex
      holdIf (¬candidate.toVal.eq existing.toVal) "APPEND_ONLY_RECORD_CONFLICT" (cp "$.id")
      pure existing
  | none => do
      let record ← buildRecord (.str safeId) (.int safeSlot) payload (s.bucket safeSlot).length
      appendEvent now "INSERT" (obj [("record", record.toVal)])
      let _ ← acceptRecord record.toVal
      persistSnapshot
      pure record

/-- The two loops of `search`: records are added to the result until there are enough of them. -/
def gather (s : Store) (limit : ℤ) : List PyStr → List Rec → Except Fault (List Rec)
  | [], result => pure result
  | id :: ids, result =>
      match s.records.lookup id with
      | none => .error (.builtin .keyError)
      | some r =>
          if (result ++ [r]).length = limit then pure (result ++ [r]) else gather s limit ids (result ++ [r])

/-- `sorted(key for key in self._slots if start <= key <= end)` -/
def slotsBetween (s : Store) (start stop : ℕ) : List ℕ :=
  (s.slots.keys.filter fun k => start ≤ k ∧ k ≤ stop).mergeSort fun a b => a ≤ b

/-- `search`, without the counters -/
def searchRecords (s : Store) (startSlot endSlot limit : PyVal) : Except Fault (List Rec) := do
  let start ← requireTimeSlot startSlot (cp "$.start_slot")
  let stop ← requireTimeSlot endSlot (cp "$.end_slot")
  holdIf (stop < start) "TIME_RANGE_INVALID" root
  match limit with
  | .int n => do
      holdIf (n < 1 ∨ n > maxResults) "RESULT_LIMIT_INVALID" (cp "$.limit")
      gather s n ((slotsBetween s start stop).flatMap s.bucket) []
  | _ => hold "RESULT_LIMIT_INVALID" (cp "$.limit")

/-! ### Loading -/

/-- `v.get`, which only a dictionary has. -/
def requireDict (v : PyVal) : Except Fault Unit :=
  if v.isDict then .ok () else .error (.builtin .attributeError)

/-- `int(v)`; a number is cut off.  A snapshot that was written has an integer here, so the parsing
of texts is left out. -/
def toInteger : PyVal → Except Fault ℤ
  | .int n => .ok n
  | .bool b => .ok (if b then 1 else 0)
  | .float x => .ok (x.value.num.tdiv x.value.den)
  | .str _ => .error (.builtin .valueError)
  | _ => .error (.builtin .typeError)

/-- `v.get(k, default)` -/
def getOr (v : PyVal) (k : String) (default : PyVal) : PyVal :=
  match v with
  | .dict items => (getItem items (cp k)).getD default
  | _ => default

/-- The checks of a snapshot; the result is its records and its sequence number. -/
def readSnapshot (snapshot : PyVal) : Except Fault (List PyVal × PyVal) := do
  requireDict snapshot
  holdIf (¬(snapshot.get "protocol_version").eq protocolVersion) "SNAPSHOT_INTEGRITY_MISMATCH" root
  holdIf (¬(snapshot.get "schema_version").eq stateSchemaVersion) "SNAPSHOT_INTEGRITY_MISMATCH" root
  let sha ← canonicalSha256 (snapshot.get "state")
  holdIf (¬(snapshot.get "state_sha256").eq (.str sha)) "SNAPSHOT_INTEGRITY_MISMATCH" root
  let state := snapshot.get "state"
  match state.get "records" with
  | .list records => pure (records, getOr snapshot "event_sequence" (.int 0))
  | _ => hold "SNAPSHOT_STATE_INVALID" root

/-- `_event_hash_basis` -/
def eventHashBasis (event : PyVal) : Except Fault PyVal :=
  match event with
  | .dict items => normalize (.dict (eraseKey (cp "event_sha256") items))
  | _ => .error (.builtin .typeError)

/-- The path of a line of the log. -/
def eventPath (i : ℕ) : PyStr := cp "$.events[" ++ intText i ++ cp "]"

/-- The checks of one line of the log. -/
def checkEvent (i : ℕ) (previous : PyVal) (event : PyVal) : Except Fault Unit := do
  requireDict event
  holdIf (¬(event.get "sequence").eq (.int (i + 1))) "EVENT_LOG_CHAIN_INVALID" (eventPath i)
  holdIf (¬(event.get "previous_event_sha256").eq previous) "EVENT_LOG_CHAIN_INVALID" (eventPath i)
  let basis ← eventHashBasis event
  let sha ← canonicalSha256 basis
  holdIf (¬(event.get "event_sha256").eq (.str sha)) "EVENT_LOG_CHAIN_INVALID" (eventPath i)

/-- The loop over the lines of the log, from the line `i` on: the events behind the snapshot, and the
hash of the last event.  A line that passes its check has the sequence number `i + 1`. -/
def readLog (snapshotSequence : ℤ) (i : ℕ) (previous : PyVal) :
    List PyVal → Except Fault (List PyVal × PyVal)
  | [] => pure ([], previous)
  | event :: events => do
      checkEvent i previous event
      let (replay, last) ← readLog snapshotSequence (i + 1) (event.get "event_sha256") events
      pure (if (i + 1 : ℤ) > snapshotSequence then (event :: replay, last) else (replay, last))

/-- One event of the log is replayed. -/
def replayEvent (event : PyVal) : EStateM Fault Store Unit := do
  let payload := getOr event "payload" (obj [])
  if (event.get "event_type").eq (lit "INSERT") then do
    requireDict payload
    let _ ← acceptRecord (payload.get "record")
    pure ()
  else if (event.get "event_type").eq (lit "RECONSTRUCT_ALLOW") then do
    requireDict payload
    let records ← elements (getOr payload "records" (.list []))
    acceptAll records
  else
    holdIf (¬(event.get "event_type").eq (lit "EMPTY_STATE_CREATED")) "EVENT_TYPE_INVALID" root

/-- The loop over the events that are replayed. -/
def replayAll : List PyVal → EStateM Fault Store Unit
  | [] => pure ()
  | event :: events => do
      replayEvent event
      replayAll events

/-- The first part of loading: the records of the snapshot are accepted; the result is its sequence
number. -/
def loadSnapshot (snapshot : Option PyVal) : EStateM Fault Store ℤ :=
  match snapshot with
  | none => pure 0
  | some snapshot => do
      let (records, sequence) ← readSnapshot snapshot
      acceptAll records
      toInteger sequence

/-- The hash a store remembers of the last event. -/
def lastSha : PyVal → Option PyStr
  | .str s => some s
  | _ => none

/-- The second part of loading: the log is checked, and what is behind the snapshot is replayed. -/
def loadLog (events : List PyVal) (snapshotSequence : ℤ) : EStateM Fault Store Unit := do
  let (replay, last) ← readLog snapshotSequence 0 .none events
  modify fun s => { s with eventSequence := events.length, lastEventSha256 := lastSha last }
  replayAll replay

/-- A store that had no snapshot before says so in its log. -/
def announce (now : String) (snapshot : Option PyVal) : EStateM Fault Store Unit :=
  match snapshot with
  | none => appendEvent now "EMPTY_STATE_CREATED" (obj [("record_count", .int 0)])
  | some _ => pure ()

/-- `_load_persistent_state` -/
def load (now : String) : EStateM Fault Store Unit := do
  let s ← get
  match s.stateDir with
  | none => pure ()
  | some writes => do
      let snapshotSequence ← loadSnapshot (snapshotOf writes)
      loadLog (eventsOf writes) snapshotSequence
      announce now (snapshotOf writes)
      persistSnapshot

/-- `SpacetimeADI(state_dir)`, on what is under the state directory; nothing is constructed when
loading raises. -/
def construct (now : String) (stateDir : Option (List Write)) : Except Fault Store :=
  match (load now).run (.empty stateDir) with
  | .ok _ s => .ok s
  | .error e _ => .error e

end Adi
