/-
**The native ADI object.**

The object is the store with its request counters.  Every request is counted, and counted again when
it is refused with an error of the core.

Main definitions:

* `Adi.SpacetimeADI` — the object;
* `Adi.Call`, `Adi.Call.run` — the calls of its methods.
-/

import Wuchang.AdiPacket

set_option relaxedAutoImplicit false
set_option autoImplicit false

namespace Adi

open Py

variable {α : Type}

/-! ### The object -/

/-- `_metrics` -/
structure Metrics where
  insertRequests : ℕ
  searchRequests : ℕ
  packetRequests : ℕ
  reconstructRequests : ℕ
  rejectedRequests : ℕ
  deriving DecidableEq, Repr

/-- `SpacetimeADI` -/
structure SpacetimeADI where
  store : Store
  metrics : Metrics

namespace SpacetimeADI

/-- An object around a store that was just constructed. -/
def new (s : Store) : SpacetimeADI := ⟨s, ⟨0, 0, 0, 0, 0⟩⟩

/-- `except ADIError: self._metrics["rejected_requests"] += 1` -/
def countRejection (m : Metrics) : Fault → Metrics
  | .own _ => { m with rejectedRequests := m.rejectedRequests + 1 }
  | .builtin _ => m

/-- A counted request: the counter goes up before, and that of the rejected requests when an
`ADIError` leaves the body. -/
def counted (count : Metrics → Metrics) (body : EStateM Fault Store α) :
    EStateM Fault SpacetimeADI α := fun a =>
  match body.run a.store with
  | .ok v s => .ok v ⟨s, count a.metrics⟩
  | .error e s => .error e ⟨s, countRejection (count a.metrics) e⟩

/-- What a counted request returns and leaves is what its body returns and leaves. -/
theorem counted_run (count : Metrics → Metrics) (body : EStateM Fault Store α) (a : SpacetimeADI) :
    (counted count body).run a = match body.run a.store with
      | .ok v s => .ok v ⟨s, count a.metrics⟩
      | .error e s => .error e ⟨s, countRejection (count a.metrics) e⟩ := rfl

/-- A body that only reads the store. -/
def reading (f : Store → Except Fault α) : EStateM Fault Store α := do
  let s ← get
  f s

/-- `insert` -/
def insert (now : String) (recordId timeSlot payload : PyVal) : EStateM Fault SpacetimeADI Rec :=
  counted (fun m => { m with insertRequests := m.insertRequests + 1 })
    (insertRecord now recordId timeSlot payload)

/-- `search` -/
def search (startSlot endSlot limit : PyVal) : EStateM Fault SpacetimeADI (List Rec) :=
  counted (fun m => { m with searchRequests := m.searchRequests + 1 })
    (reading fun s => searchRecords s startSlot endSlot limit)

/-- `packet` -/
def packet (ids receiverLookup : PyVal) : EStateM Fault SpacetimeADI PyVal :=
  counted (fun m => { m with packetRequests := m.packetRequests + 1 })
    (reading fun s => buildPacket s ids receiverLookup)

/-- `reconstruct` -/
def reconstruct (now : String) (packet : PyVal) : EStateM Fault SpacetimeADI PyVal :=
  counted (fun m => { m with reconstructRequests := m.reconstructRequests + 1 })
    (reconstructPacket now packet)

end SpacetimeADI

/-! ### Calls -/

/-- A call of one of the methods. -/
inductive Call where
  | insert (recordId timeSlot payload : PyVal)
  | search (startSlot endSlot limit : PyVal)
  | packet (ids receiverLookup : PyVal)
  | exportState (ids : PyVal)
  | reconstruct (packet : PyVal)

/-- The call, made at the given time; records are returned as dictionaries. -/
def Call.run (now : String) : Call → EStateM Fault SpacetimeADI PyVal
  | .insert recordId timeSlot payload => do
      let r ← SpacetimeADI.insert now recordId timeSlot payload
      pure r.toVal
  | .search startSlot endSlot limit => do
      let rs ← SpacetimeADI.search startSlot endSlot limit
      pure (.list (rs.map Rec.toVal))
  | .packet ids receiverLookup => SpacetimeADI.packet ids receiverLookup
  | .exportState ids => do
      let a ← get
      Adi.exportState a.store ids
  | .reconstruct p => SpacetimeADI.reconstruct now p

end Adi
