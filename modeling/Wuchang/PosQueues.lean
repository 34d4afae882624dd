/-
**The order queues of the point of sale.**

Three calls work on four append-only queues: an order becomes a candidate, a candidate is confirmed, and the
confirmed orders are shown to the kitchen.  Each call appends an event, and the first two append a row of
their own before it.  A queue holds 200 rows.  A row for a full queue is reported to the dead-letter queue,
through the same bounded function, and the call ends there.

Every call is a plan, which looks at the queues and changes nothing, and the execution of the plan.  The
report of a full queue may call itself; the number of calls in one another is given, as Python gives it.  A
queue is the list of the values in its lines.

The menu, the output of the resolver of routes, the times, the arithmetic of prices and the module that writes
dead letters are parameters.

Main definitions:

* `PosMvp.Queues`, `PosMvp.Stop` — the queues, and how a call ends that does not return;
* `PosMvp.appendJsonl`, `PosMvp.appendDeadLetter`, `PosMvp.appendEvent` — what appends;
* `PosMvp.createOrderCandidate`, `PosMvp.confirmOrder`, `PosMvp.kitchenDisplay` — the calls;
* `PosMvp.Plan` — what a call does with the queues;
* `PosMvp.Ends`, `PosMvp.FailsClean` — a call comes to an end, and leaves nothing when a queue was full;
* `PosMvp.Fits` — the queues have room for what a call appends.

Main results:

* `PosMvp.run_eq` — a call is its plan and the execution of it;
* `PosMvp.ends_appendDeadLetter_iff` — when a dead letter comes to an end;
* `PosMvp.full_queues_iff` — when a call ends and fails clean.
-/

import Wuchang.CapabilityContext
import Wuchang.PyFloatRead
import Mathlib.Logic.Function.Basic

set_option relaxedAutoImplicit false
set_option autoImplicit false

namespace PosMvp

open Py

/-! ### Queues and faults -/

/-- The files of rows. -/
inductive Queue where
  | orderCandidates
  | confirmedOrders
  | events
  | deadLetter
  deriving DecidableEq

/-- The rows of the queues. -/
abbrev Queues := Queue → List PyVal

/-- The path of a queue below the directory of the run. -/
def Queue.path : Queue → String
  | .orderCandidates => "/orders/order_candidates.jsonl"
  | .confirmedOrders => "/orders/confirmed_orders.jsonl"
  | .events => "/events/spacetime_events.jsonl"
  | .deadLetter => "/dead_letter/dead_letter_queue.jsonl"

/-- The exceptions that are not the interpreter's own. -/
inductive Failure where
  | systemExit (message : PyStr)
  /-- an exception of what is called outside: the import, the resolver, a file -/
  | outside (name : String)

abbrev Fault := Raise Failure

/-- How a call ends that does not return: an exception, and whether it is raised because a queue was full, or
too many calls in one another. -/
inductive Stop where
  | raised (e : Fault) (full : Bool)
  | tooDeep

/-- A function that works on the queues. -/
abbrev Method := EStateM Stop Queues

/-- Code that does not look at the queues. -/
def checked {α : Type} (x : Except Fault α) : Method α := fun q => match x with
  | .ok a => .ok a q
  | .error e => .error (.raised e false) q

/-- What is raised behind a full queue is raised because of it. -/
def becauseFull {α : Type} (x : Method α) : Method α := fun q => match x q with
  | .error (.raised e _) q' => .error (.raised e true) q'
  | r => r

/-- `MAX_QUEUE_ITEMS` -/
def maxQueueItems : ℕ := 200

/-- `MAX_RETRY_COUNT`, as the rows of the dead-letter queue write it. -/
def maxRetryCount : ℤ := 2

/-- What a call uses of its surroundings. -/
structure Surroundings where
  /-- `RUN_DIR` -/
  runDir : String
  /-- the menu, as it is loaded -/
  menu : Except Fault PyVal
  /-- what the resolver of routes prints -/
  routeOutput : Except Fault PyStr
  /-- `utc_now()`, for the row of the call -/
  rowTime : PyStr
  /-- `utc_now()`, for the event -/
  eventTime : PyStr
  /-- `str(v)` -/
  str : PyVal → PyStr
  /-- `int(v)` -/
  toInt : PyVal → Except Fault ℤ
  /-- `price * qty` -/
  times : PyVal → ℤ → Except Fault PyVal
  /-- `total + subtotal` -/
  plus : PyVal → PyVal → Except Fault PyVal
  /-- `append_24h_hash_dead_letter`, of a reason, a payload and a source, if it can be imported -/
  writer : Except Fault (PyStr → PyVal → PyVal → Except Fault PyVal)

/-! ### Texts and hashes -/

/-- `canonical_hash` -/
def canonicalHash (v : PyVal) : Except Fault PyStr := do
  let text ← PyJson.dumps PyJson.compact v
  let bytes ← encodeUtf8 text
  pure (Sha256.hexdigest bytes)

/-- The line of a row, or what is raised where it cannot be written. -/
def line (row : PyVal) : Except Fault (List UInt8) := do
  let text ← PyJson.dumps PyJson.spaced row
  encodeUtf8 text

/-- `d[k] = canonical_hash(d)` -/
def sealed (k : String) (doc : List (String × PyVal)) : Except Fault PyVal := do
  let hash ← canonicalHash (obj doc)
  pure (.dict (setKey (cp k) (.str hash) (fields doc)))

/-- `f"{name}{n:06d}"` -/
def numbered (name : String) (n : ℕ) : PyStr :=
  cp name ++ PyFloat.zeros (6 - (PyJson.natText n).length) ++ PyJson.natText n

/-- `a or b` -/
def orElse (a b : PyVal) : PyVal := if a.truthy then a else b

/-- `d.get(k)`, which only a dictionary has. -/
def getField (d : PyVal) (k : String) : Except Fault PyVal :=
  if d.isDict then .ok (d.get k) else .error (.builtin .attributeError)

/-- What a loop over a value goes through. -/
def elementsOf : PyVal → Except Fault (List PyVal)
  | .list xs => .ok xs
  | .str s => .ok (s.map fun c => .str [c])
  | .dict items => .ok (items.map fun p => match p.1 with
      | .str s => .str s
      | .other => .other)
  | _ => .error (.builtin .typeError)

/-- `{row[k]: row for row in rows}`, under the keys that are texts. -/
def indexBy (k : String) : List PyVal → Except Fault (List (PyStr × PyVal))
  | [] => .ok []
  | row :: rows => do
      let name ← row.at k
      match name with
      | .str s => do
          let rest ← indexBy k rows
          -- a row behind replaces this one
          pure (if (rest.map Prod.fst).contains s then rest else (s, row) :: rest)
      | .list _ => .error (.builtin .typeError)
      | .dict _ => .error (.builtin .typeError)
      | _ => indexBy k rows

/-! ### What appends -/

/-- `append_jsonl`, around `append_dead_letter`. -/
def appendWith (around : Surroundings) (deadLetter : PyStr → PyVal → PyVal → Method PyVal) (queue : Queue)
    (row : PyVal) : Method Unit := do
  let queues ← get
  let path := cp around.runDir ++ cp queue.path
  if maxQueueItems ≤ (queues queue).length then do
    let _ ← becauseFull (deadLetter (cp "queue_full")
      (obj [("max_queue_items", .int maxQueueItems), ("target", .str path)]) .none)
    throw (.raised (.own (.systemExit (cp "queue full: " ++ path))) true)
  else do
    let _ ← checked (line row)
    set (Function.update queues queue (queues queue ++ [row]))

/-- The row of a dead letter. -/
def deadLetterRow (reason payloadRef : PyStr) (source : PyVal) : PyVal := obj [
  ("max_retry_count", .int maxRetryCount), ("payload_ref", .str payloadRef), ("reason", .str reason),
  ("retry_count", .int 0), ("silent_drop", .bool false), ("source", source)]

/-- `append_dead_letter`, in at most some calls in one another. -/
def appendDeadLetter (around : Surroundings) : ℕ → PyStr → PyVal → PyVal → Method PyVal
  | 0, _, _, _ => throw .tooDeep
  | depth + 1, reason, payload, source => do
      let write ← checked around.writer
      let payloadRef ← checked (canonicalHash (orElse payload (obj [])))
      appendWith around (appendDeadLetter around depth) .deadLetter (deadLetterRow reason payloadRef source)
      checked (write reason payload source)

/-- `append_jsonl` -/
def appendJsonl (around : Surroundings) (depth : ℕ) : Queue → PyVal → Method Unit :=
  appendWith around (appendDeadLetter around depth)

/-- `rows[-1]["event_hash"] if rows else "GENESIS"` -/
def parentHashOf (events : List PyVal) : Except Fault PyVal :=
  match events.getLast? with
  | none => .ok (lit "GENESIS")
  | some last => last.at "event_hash"

/-- The event that is appended, behind the events there are. -/
def eventOf (around : Surroundings) (events : List PyVal) (actionRef nodeRef : String) (payloadRef : PyVal) :
    Except Fault PyVal := do
  let parentHash ← parentHashOf events
  sealed "event_hash" [("action_ref", lit actionRef), ("actor_ref", lit "sandbox_pos_mvp_autodev"),
    ("claim_label", lit "FACT"), ("event_id", .str (numbered "evt_" (events.length + 1))),
    ("event_time", .str around.eventTime), ("node_ref", lit nodeRef), ("parent_hash", parentHash),
    ("payload_ref", payloadRef)]

/-- `append_event` -/
def appendEvent (around : Surroundings) (depth : ℕ) (actionRef nodeRef : String) (payloadRef : PyVal) :
    Method PyVal := do
  let queues ← get
  let event ← checked (eventOf around (queues .events) actionRef nodeRef payloadRef)
  appendJsonl around depth .events event
  pure event

/-! ### The calls -/

/-- The lines of an order with their total, or the line that is rejected. -/
def normalizeLines (around : Surroundings) (byCode : List (PyStr × PyVal)) (normalized : List PyVal)
    (total : PyVal) : List PyVal → Except Fault (PyVal ⊕ List PyVal × PyVal)
  | [] => .ok (.inr (normalized, total))
  | line :: lines => do
      let code ← getField line "code"
      let code := around.str (orElse code (lit ""))
      let qty ← getField line "qty"
      let qty ← around.toInt (orElse qty (.int 0))
      match byCode.lookup code with
      | none => pure (.inl line)
      | some item =>
          if qty ≤ 0 then pure (.inl line)
          else do
            let price ← item.at "price"
            let subtotal ← around.times price qty
            let total ← around.plus total subtotal
            let name ← item.at "name"
            let category ← item.at "category"
            let sourceModel ← item.at "source_model"
            normalizeLines around byCode (normalized ++ [obj [("category", category), ("code", .str code),
              ("name", name), ("qty", .int qty), ("source_model", sourceModel), ("subtotal", subtotal),
              ("unit_price", price)]]) total lines

/-- The lines of an order against the menu. -/
def orderLines (around : Surroundings) (lines : List PyVal) : Except Fault (PyVal ⊕ List PyVal × PyVal) := do
  let menu ← around.menu
  let items ← menu.at "items"
  let items ← elementsOf items
  let byCode ← indexBy "code" items
  normalizeLines around byCode [] (.float ⟨false, 0, 0, PyFloat.expo_zero, PyFloat.frac_zero⟩) lines

/-- `line.split("=", 1)`, of a line with an equals sign. -/
def splitPair (line : PyStr) : Option (PyStr × PyStr) :=
  if 61 ∈ line then some (line.takeWhile (· ≠ 61), (line.dropWhile (· ≠ 61)).drop 1) else none

/-- `route.get(k)` -/
def routeField (route : List (PyStr × PyStr)) (k : String) : Option PyStr := route.reverse.lookup (cp k)

/-- `route_order_candidate`: the pairs that the resolver prints, in their order. -/
def routeOrderCandidate (around : Surroundings) : Except Fault (List (PyStr × PyStr)) := do
  let output ← around.routeOutput
  let route := (CapabilityContext.splitlines [] output).filterMap splitPair
  let missing (k : String) : Bool := (routeField route k).getD [] = []
  if missing "ROUTE_CODE" || missing "LOOKUP_KEY" then
    .error (.own (.systemExit (cp "route resolver did not return route code and lookup key")))
  else pure route

/-- The row of a candidate, behind so many candidates. -/
def candidateOf (around : Surroundings) (number : ℕ) (source : PyVal) (route : List (PyStr × PyStr))
    (lines : List PyVal) (total : PyVal) : Except Fault PyVal :=
  let text (k : String) : PyVal := ((routeField route k).map .str).getD .none
  sealed "candidate_hash" [("candidate_id", .str (numbered "cand_" (number + 1))), ("candidate_only", .bool true),
    ("cashier_confirm_required", .bool true), ("cloud_return_expected", text "CLOUD_RETURN_EXPECTED"),
    ("created_at", .str around.rowTime), ("currency", lit "TWD"), ("db_write", .bool false),
    ("land_allowed", .bool false), ("lines", .list lines),
    ("local_reconstruction_required", .bool (routeField route "LOCAL_RECONSTRUCTION_REQUIRED" = some (cp "TRUE"))),
    ("lookup_key", text "LOOKUP_KEY"), ("odoo_write", .bool false), ("route_code", text "ROUTE_CODE"),
    ("schema", lit "w7tp_pos_order_candidate.v1"), ("source", source), ("total", total)]

/-- `create_order_candidate` -/
def createOrderCandidate (around : Surroundings) (depth : ℕ) (lines : List PyVal) (source : PyVal) :
    Method PyVal := do
  match ← checked (orderLines around lines) with
  | .inl rejected =>
      appendDeadLetter around depth (cp "invalid_order_candidate_line")
        (obj [("line", rejected), ("source", source)]) .none
  | .inr order => do
      let route ← checked (routeOrderCandidate around)
      let queues ← get
      let candidate ← checked (candidateOf around (queues .orderCandidates).length source route order.1 order.2)
      appendJsonl around depth .orderCandidates candidate
      let _ ← appendEvent around depth "order_candidate.create" "NODE_POS_MAINT" (candidate.get "candidate_id")
      pure candidate

/-- The row of a confirmed order, behind so many of them. -/
def orderOf (around : Surroundings) (number : ℕ) (candidateId : PyStr) (cashierRef candidate : PyVal) :
    Except Fault PyVal := do
  let candidateHash ← candidate.at "candidate_hash"
  let lines ← candidate.at "lines"
  let total ← candidate.at "total"
  let currency ← candidate.at "currency"
  sealed "order_hash" [("candidate_hash", candidateHash), ("candidate_id", .str candidateId),
    ("cashier_ref", cashierRef), ("confirmed_at", .str around.rowTime), ("currency", currency),
    ("db_write", .bool false), ("kitchen_status", lit "preparing"), ("lines", lines),
    ("odoo_core_write", .bool false), ("odoo_sidecar_candidate", .bool true),
    ("order_id", .str (numbered "order_" (number + 1))), ("schema", lit "w7tp_pos_confirmed_local_order.v1"),
    ("status", lit "confirmed"), ("total", total)]

/-- `confirm_order` -/
def confirmOrder (around : Surroundings) (depth : ℕ) (candidateId : PyStr) (cashierRef : PyVal) :
    Method PyVal := do
  let queues ← get
  let candidates ← checked (indexBy "candidate_id" (queues .orderCandidates))
  match candidates.lookup candidateId with
  | none =>
      appendDeadLetter around depth (cp "candidate_not_found") (obj [("candidate_id", .str candidateId)]) .none
  | some candidate =>
      if !(candidate.get "cashier_confirm_required").truthy then
        appendDeadLetter around depth (cp "candidate_missing_cashier_gate") candidate .none
      else do
        let order ← checked (orderOf around (queues .confirmedOrders).length candidateId cashierRef candidate)
        appendJsonl around depth .confirmedOrders order
        let _ ← appendEvent around depth "cashier_confirm.local_order" "NODE_POS_MAINT" (order.get "order_id")
        pure order

/-- An order, as the kitchen sees it. -/
def kitchenOrder (order : PyVal) : Except Fault PyVal := do
  let orderId ← order.at "order_id"
  let status ← order.at "kitchen_status"
  let lines ← order.at "lines"
  let total ← order.at "total"
  pure (obj [("lines", lines), ("order_id", orderId), ("status", status), ("total", total)])

/-- What the kitchen is shown. -/
def snapshotOf (around : Surroundings) (orders : List PyVal) : Except Fault PyVal := do
  let shown ← orders.mapM kitchenOrder
  pure (obj [("display_only", .bool true), ("generated_at", .str around.rowTime),
    ("node_ref", lit "NODE_XIAOJ_DISPLAY_COMPUTE"), ("orders", .list shown),
    ("schema", lit "w7tp_kitchen_display_snapshot.v1")])

/-- `kitchen_display` -/
def kitchenDisplay (around : Surroundings) (depth : ℕ) : Method PyVal := do
  let queues ← get
  let payload ← checked (snapshotOf around (queues .confirmedOrders))
  let _ ← appendEvent around depth "kitchen_display.snapshot" "NODE_XIAOJ_DISPLAY_COMPUTE"
    (.str (cp "orders:" ++ PyJson.natText (queues .confirmedOrders).length))
  pure payload

/-- A call. -/
inductive Call where
  | createOrderCandidate (lines : List PyVal) (source : PyVal)
  | confirmOrder (candidateId : PyStr) (cashierRef : PyVal)
  | kitchenDisplay

/-- A call is made. -/
def run (around : Surroundings) (depth : ℕ) : Call → Method PyVal
  | .createOrderCandidate lines source => createOrderCandidate around depth lines source
  | .confirmOrder candidateId cashierRef => confirmOrder around depth candidateId cashierRef
  | .kitchenDisplay => kitchenDisplay around depth

/-! ### Plans -/

/-- The event a call appends. -/
structure Announcement where
  actionRef : String
  nodeRef : String
  payloadRef : PyVal

/-- What a call does with the queues: it rejects its argument, records a row and announces it, or announces
what it shows. -/
inductive Plan where
  | reject (reason : String) (payload : PyVal)
  | record (queue : Queue) (row : PyVal) (event : Announcement)
  | present (event : Announcement) (answer : PyVal)

/-- The plan of a call; the queues are only looked at. -/
def planOf (around : Surroundings) (queues : Queues) : Call → Except Fault Plan
  | .createOrderCandidate lines source => do
      match ← orderLines around lines with
      | .inl rejected =>
          pure (.reject "invalid_order_candidate_line" (obj [("line", rejected), ("source", source)]))
      | .inr order => do
          let route ← routeOrderCandidate around
          let candidate ← candidateOf around (queues .orderCandidates).length source route order.1 order.2
          pure (.record .orderCandidates candidate
            ⟨"order_candidate.create", "NODE_POS_MAINT", candidate.get "candidate_id"⟩)
  | .confirmOrder candidateId cashierRef => do
      let candidates ← indexBy "candidate_id" (queues .orderCandidates)
      match candidates.lookup candidateId with
      | none => pure (.reject "candidate_not_found" (obj [("candidate_id", .str candidateId)]))
      | some candidate =>
          if !(candidate.get "cashier_confirm_required").truthy then
            pure (.reject "candidate_missing_cashier_gate" candidate)
          else do
            let order ← orderOf around (queues .confirmedOrders).length candidateId cashierRef candidate
            pure (.record .confirmedOrders order
              ⟨"cashier_confirm.local_order", "NODE_POS_MAINT", order.get "order_id"⟩)
  | .kitchenDisplay => do
      let payload ← snapshotOf around (queues .confirmedOrders)
      pure (.present ⟨"kitchen_display.snapshot", "NODE_XIAOJ_DISPLAY_COMPUTE",
        .str (cp "orders:" ++ PyJson.natText (queues .confirmedOrders).length)⟩ payload)

/-- A plan is executed. -/
def execute (around : Surroundings) (depth : ℕ) : Plan → Method PyVal
  | .reject reason payload => appendDeadLetter around depth (cp reason) payload .none
  | .record queue row event => do
      appendJsonl around depth queue row
      let _ ← appendEvent around depth event.actionRef event.nodeRef event.payloadRef
      pure row
  | .present event answer => do
      let _ ← appendEvent around depth event.actionRef event.nodeRef event.payloadRef
      pure answer

section Runs

variable {α β : Type} {around : Surroundings} {depth : ℕ} {q : Queues}

theorem run_checked_ok {x : Except Fault α} {a : α} (h : x = .ok a) (f : α → Method β) :
    (checked x >>= f).run q = (f a).run q := by
  subst h
  rfl

theorem run_checked_error {x : Except Fault α} {e : Fault} (h : x = .error e) (f : α → Method β) :
    (checked x >>= f).run q = .error (.raised e false) q := by
  subst h
  rfl

/-- **A call is its plan and the execution of it.** -/
theorem run_eq (call : Call) :
    (run around depth call).run q = (checked (planOf around q call) >>= execute around depth).run q := by
  cases call with
  | createOrderCandidate lines source =>
      rw [run, createOrderCandidate, planOf]
      cases orderLines around lines with
      | error e => rfl
      | ok order =>
          rw [ok_bind, run_checked_ok rfl]
          cases order with
          | inl rejected => rfl
          | inr order =>
              dsimp only
              cases routeOrderCandidate around with
              | error e => rfl
              | ok route =>
                  rw [ok_bind, run_checked_ok rfl, run_get_bind]
                  cases candidateOf around (q .orderCandidates).length source route order.1 order.2 with
                  | error e => rfl
                  | ok candidate => rfl
  | confirmOrder candidateId cashierRef =>
      rw [run, confirmOrder, planOf, run_get_bind]
      cases indexBy "candidate_id" (q .orderCandidates) with
      | error e => rfl
      | ok candidates =>
          rw [ok_bind, run_checked_ok rfl]
          cases candidates.lookup candidateId with
          | none => rfl
          | some candidate =>
              dsimp only
              cases (candidate.get "cashier_confirm_required").truthy with
              | false => rfl
              | true =>
                  cases orderOf around (q .confirmedOrders).length candidateId cashierRef candidate with
                  | error e => rfl
                  | ok order => rfl
  | kitchenDisplay =>
      rw [run, kitchenDisplay, planOf, run_get_bind]
      cases snapshotOf around (q .confirmedOrders) with
      | error e => rfl
      | ok payload => rfl

/-! ### Appending -/

/-- A queue has room for a row. -/
def HasRoom (q : Queues) (queue : Queue) : Prop := (q queue).length < maxQueueItems

/-- Nothing is changed but the dead-letter queue. -/
def Beside (q q' : Queues) : Prop := ∀ queue, queue ≠ .deadLetter → q' queue = q queue

theorem Beside.refl (q : Queues) : Beside q q := fun _ _ => rfl

theorem Beside.trans {q q' q'' : Queues} (h : Beside q q') (h' : Beside q' q'') : Beside q q'' :=
  fun queue hqueue => (h' queue hqueue).trans (h queue hqueue)

theorem keeps_checked (x : Except Fault α) : Keeps Beside (checked x) := by
  intro q
  cases x with
  | ok a => exact Beside.refl q
  | error e => exact Beside.refl q

/-- What is left and returned is the same, and what is raised is raised because a queue was full. -/
theorem run_becauseFull (x : Method α) (q : Queues) : (becauseFull x).run q = match x.run q with
    | .ok a s => .ok a s
    | .error (.raised e _) s => .error (.raised e true) s
    | .error .tooDeep s => .error .tooDeep s := by
  change (match x.run q with
    | EStateM.Result.error (.raised e _) q' => EStateM.Result.error (Stop.raised e true) q'
    | r => r) = _
  cases x.run q with
  | ok a s => rfl
  | error e s =>
      cases e with
      | raised e full => rfl
      | tooDeep => rfl

theorem keeps_becauseFull {x : Method α} (h : Keeps Beside x) : Keeps Beside (becauseFull x) := by
  intro q
  have hq := h q
  rw [run_becauseFull]
  cases hrun : x.run q with
  | ok a q' =>
      rw [hrun] at hq
      exact hq
  | error e q' =>
      rw [hrun] at hq
      cases e with
      | raised e full => exact hq
      | tooDeep => exact hq

/-- A row for a queue that has room. -/
theorem run_appendWith_room {deadLetter : PyStr → PyVal → PyVal → Method PyVal} {queue : Queue} {row : PyVal}
    (hroom : HasRoom q queue) {bytes : List UInt8} (hline : line row = .ok bytes) :
    (appendWith around deadLetter queue row).run q =
      .ok () (Function.update q queue (q queue ++ [row])) := by
  rw [appendWith, run_get_bind, if_neg (Nat.not_le_of_lt hroom), run_checked_ok hline]
  rfl

/-- A row that cannot be written, for a queue that has room. -/
theorem run_appendWith_unwritten {deadLetter : PyStr → PyVal → PyVal → Method PyVal} {queue : Queue} {row : PyVal}
    (hroom : HasRoom q queue) {e : Fault} (hline : line row = .error e) :
    (appendWith around deadLetter queue row).run q = .error (.raised e false) q := by
  rw [appendWith, run_get_bind, if_neg (Nat.not_le_of_lt hroom), run_checked_error hline]

/-- What is reported of a full queue. -/
def notice (around : Surroundings) (queue : Queue) : PyVal :=
  obj [("max_queue_items", .int maxQueueItems), ("target", .str (cp around.runDir ++ cp queue.path))]

/-- A row for a full queue: the call does not return, and what is raised is raised because of it. -/
theorem run_appendWith_full (around : Surroundings) (deadLetter : PyStr → PyVal → PyVal → Method PyVal)
    (row : PyVal) {queue : Queue} (hfull : ¬HasRoom q queue) : ∃ stop q', (appendWith around deadLetter queue row).run q = .error stop q' ∧
      q' = after ((deadLetter (cp "queue_full") (notice around queue) .none).run q) ∧
      (stop = .tooDeep ↔ ∃ s, (deadLetter (cp "queue_full") (notice around queue) .none).run q =
        .error .tooDeep s) ∧ ∀ e, stop ≠ .raised e false := by
  rw [appendWith, run_get_bind, if_pos (Nat.le_of_not_lt hfull), EStateM.run_bind, ← notice, run_becauseFull]
  cases (deadLetter (cp "queue_full") (notice around queue) .none).run q with
  | ok a q' => exact ⟨_, _, rfl, rfl, by simp, by simp⟩
  | error e q' =>
      cases e with
      | raised e full => exact ⟨_, _, rfl, rfl, by simp, by simp⟩
      | tooDeep => exact ⟨_, _, rfl, rfl, by simp, by simp⟩

theorem keeps_appendDeadLetter (around : Surroundings) (depth : ℕ) (reason : PyStr) (payload source : PyVal) :
    Keeps Beside (appendDeadLetter around depth reason payload source) := by
  induction depth generalizing reason payload source with
  | zero => exact Beside.refl
  | succ depth ih =>
      rw [appendDeadLetter]
      refine .bind (R := Beside) Beside.trans (keeps_checked _) fun write => ?_
      refine .bind (R := Beside) Beside.trans (keeps_checked _) fun payloadRef => ?_
      refine .bind (R := Beside) Beside.trans ?_ fun _ => keeps_checked _
      refine .get_bind fun q => ?_
      split_ifs
      · have hkeeps : Keeps Beside (becauseFull (appendDeadLetter around depth (cp "queue_full")
            (obj [("max_queue_items", .int maxQueueItems),
              ("target", .str (cp around.runDir ++ cp Queue.deadLetter.path))]) .none) >>= fun _ =>
            (throw (.raised (.own (.systemExit (cp "queue full: " ++
              (cp around.runDir ++ cp Queue.deadLetter.path)))) true) : Method Unit)) :=
          .bind (R := Beside) Beside.trans (keeps_becauseFull (ih _ _ _)) fun _ => Beside.refl
        exact hkeeps q
      · cases line (deadLetterRow reason payloadRef source) with
        | error e => exact Beside.refl q
        | ok bytes => exact fun queue hqueue => Function.update_of_ne hqueue _ _

/-! ### Dead letters -/

/-- A call does not come to an end in this depth. -/
def Deep (r : EStateM.Result Stop Queues α) : Prop := ∃ s, r = .error .tooDeep s

/-- A call comes to an end, if calls in one another may be deep enough. -/
def Ends (x : ℕ → Method α) (q : Queues) : Prop := ∃ depth, ¬Deep ((x depth).run q)

/-- A dead letter comes to an end: its writer cannot be imported, its payload cannot be hashed, or the
dead-letter queue has room. -/
def Lettered (around : Surroundings) (q : Queues) (payload : PyVal) : Prop :=
  (∃ e, around.writer = .error e) ∨ (∃ e, canonicalHash (orElse payload (obj [])) = .error e) ∨
    HasRoom q .deadLetter

theorem canonicalHash_ok {v : PyVal} (h : PyJson.Plain Encodable v) : ∃ hash, canonicalHash v = .ok hash := by
  obtain ⟨bytes, hbytes⟩ := @PyJson.dumps_plain Failure PyJson.compact (encodable_cp _) (encodable_cp _) v h
  obtain ⟨text, htext, hbytes⟩ := bind_eq_ok_iff.1 hbytes
  exact ⟨_, bind_eq_ok_iff.2 ⟨text, htext, bind_eq_ok_iff.2 ⟨bytes, hbytes, rfl⟩⟩⟩

theorem line_ok {v : PyVal} (h : PyJson.Plain Encodable v) : ∃ bytes, line v = .ok bytes :=
  PyJson.dumps_plain (encodable_cp _) (encodable_cp _) h

theorem notice_hash (around : Surroundings) (queue : Queue) :
    ∃ hash, canonicalHash (orElse (notice around queue) (obj [])) = .ok hash := by
  have htruthy : orElse (notice around queue) (obj []) = notice around queue := rfl
  rw [htruthy]
  refine canonicalHash_ok (PyJson.plain_obj ?_)
  simp only [List.forall_mem_cons, List.not_mem_nil, IsEmpty.forall_iff, implies_true, and_true]
  exact ⟨.int _, .str _ (encodable_append.2 ⟨encodable_cp _, encodable_cp _⟩)⟩

/-- **A dead letter for a full dead-letter queue is a dead letter for a full dead-letter queue.** -/
theorem deep_appendDeadLetter {write : PyStr → PyVal → PyVal → Except Fault PyVal}
    (hwriter : around.writer = .ok write) (hfull : ¬HasRoom q .deadLetter) (depth : ℕ) {reason : PyStr}
    {payload source : PyVal} {hash : PyStr} (hhash : canonicalHash (orElse payload (obj [])) = .ok hash) :
    Deep ((appendDeadLetter around depth reason payload source).run q) := by
  induction depth generalizing reason payload source hash with
  | zero => exact ⟨q, rfl⟩
  | succ depth ih =>
      rw [appendDeadLetter, run_checked_ok hwriter, run_checked_ok hhash, EStateM.run_bind]
      obtain ⟨stop, q', hrun, -, hdeep, -⟩ := run_appendWith_full around
        (appendDeadLetter around depth) (deadLetterRow reason hash source) hfull
      obtain ⟨hash', hnotice⟩ := notice_hash around .deadLetter
      obtain rfl : stop = .tooDeep := hdeep.2 (ih hnotice)
      rw [hrun]
      exact ⟨q', rfl⟩

theorem not_deep_checked (x : Except Fault α) : ¬Deep ((checked x).run q) := by
  rintro ⟨s, h⟩
  cases x
  · cases h
  · cases h

theorem appendDeadLetter_one (reason : PyStr) (payload source : PyVal) :
    appendDeadLetter around 1 reason payload source = (do
      let write ← checked around.writer
      let payloadRef ← checked (canonicalHash (orElse payload (obj [])))
      appendWith around (appendDeadLetter around 0) .deadLetter (deadLetterRow reason payloadRef source)
      checked (write reason payload source)) := rfl

/-- **When a dead letter comes to an end.** -/
theorem ends_appendDeadLetter_iff (reason : PyStr) {payload : PyVal} :
    Ends (fun depth => appendDeadLetter around depth reason payload .none) q ↔ Lettered around q payload := by
  cases hwriter : around.writer with
  | error e =>
      refine iff_of_true ⟨1, ?_⟩ (.inl ⟨e, hwriter⟩)
      dsimp only
      rw [appendDeadLetter_one, run_checked_error hwriter]
      rintro ⟨s, h⟩
      cases h
  | ok write =>
      cases hhash : canonicalHash (orElse payload (obj [])) with
      | error e =>
          refine iff_of_true ⟨1, ?_⟩ (.inr (.inl ⟨e, hhash⟩))
          dsimp only
          rw [appendDeadLetter_one, run_checked_ok hwriter, run_checked_error hhash]
          rintro ⟨s, h⟩
          cases h
      | ok hash =>
          by_cases hroom : HasRoom q .deadLetter
          · refine iff_of_true ⟨1, ?_⟩ (.inr (.inr hroom))
            dsimp only
            rw [appendDeadLetter_one, run_checked_ok hwriter, run_checked_ok hhash, EStateM.run_bind]
            cases hline : line (deadLetterRow reason hash .none) with
            | error e =>
                rw [run_appendWith_unwritten hroom hline]
                rintro ⟨s, h⟩
                cases h
            | ok bytes =>
                rw [run_appendWith_room hroom hline]
                exact not_deep_checked _
          · refine iff_of_false ?_ ?_
            · rintro ⟨depth, hends⟩
              exact hends (deep_appendDeadLetter hwriter hroom depth hhash)
            · rintro (⟨e, he⟩ | ⟨e, he⟩ | h)
              · rw [hwriter] at he
                cases he
              · rw [hhash] at he
                cases he
              · exact hroom h

/-- A row for a queue comes to an end when the queue has room or the report comes to an end. -/
theorem ends_appendJsonl_iff {queue : Queue} (row : PyVal) (hfull : ¬HasRoom q queue) :
    Ends (fun depth => appendJsonl around depth queue row) q ↔ Lettered around q (notice around queue) := by
  rw [← ends_appendDeadLetter_iff (cp "queue_full")]
  refine exists_congr fun depth => not_congr ?_
  obtain ⟨stop, q', hrun, -, hdeep, -⟩ := run_appendWith_full around
        (appendDeadLetter around depth) row hfull
  change Deep ((appendWith around (appendDeadLetter around depth) queue row).run q) ↔ _
  rw [hrun]
  constructor
  · rintro ⟨s, h⟩
    obtain ⟨rfl, -⟩ := EStateM.Result.error.inj h
    exact hdeep.1 rfl
  · intro h
    exact ⟨q', by rw [hdeep.2 h]⟩

/-! ### Events -/

theorem plain_of_canonicalHash {v : PyVal} {hash : PyStr} (h : canonicalHash v = .ok hash) :
    PyJson.Plain Encodable v ∧ Encodable hash := by
  obtain ⟨text, htext, h⟩ := bind_eq_ok_iff.1 h
  obtain ⟨bytes, hbytes, h⟩ := bind_eq_ok_iff.1 h
  obtain rfl := pure_eq_ok_iff.1 h
  refine ⟨?_, Sha256.encodable_hexdigest _⟩
  rw [PyJson.dumps] at htext
  split_ifs at htext with hwritten
  obtain rfl := Except.ok.inj htext
  exact PyJson.plain_of_encodable_write rfl hwritten (encodeUtf8_isOk_iff.1 hbytes).1

/-- What was sealed can be written in a line. -/
theorem line_of_sealed {k : String} {doc : List (String × PyVal)} {row : PyVal} (h : sealed k doc = .ok row) :
    ∃ bytes, line row = .ok bytes := by
  obtain ⟨hash, hhash, h⟩ := bind_eq_ok_iff.1 h
  obtain rfl := pure_eq_ok_iff.1 h
  obtain ⟨hplain, hencodable⟩ := plain_of_canonicalHash hhash
  exact line_ok (hplain.setKey (encodable_cp _) (.str _ hencodable))

theorem line_of_eventOf {events : List PyVal} {event : Announcement} {row : PyVal}
    (h : eventOf around events event.actionRef event.nodeRef event.payloadRef = .ok row) :
    ∃ bytes, line row = .ok bytes := by
  obtain ⟨parentHash, -, h⟩ := bind_eq_ok_iff.1 h
  exact line_of_sealed h

/-- An event is announced. -/
def announce (around : Surroundings) (depth : ℕ) (event : Announcement) : Method PyVal :=
  appendEvent around depth event.actionRef event.nodeRef event.payloadRef

/-- The event that is announced. -/
def Announcement.row (event : Announcement) (around : Surroundings) (q : Queues) : Except Fault PyVal :=
  eventOf around (q .events) event.actionRef event.nodeRef event.payloadRef

theorem run_announce_error {event : Announcement} {e : Fault} (h : event.row around q = .error e) :
    (announce around depth event).run q = .error (.raised e false) q := by
  rw [announce, appendEvent, run_get_bind]
  exact run_checked_error h _

theorem run_announce_room {event : Announcement} {row : PyVal} (h : event.row around q = .ok row)
    (hroom : HasRoom q .events) : (announce around depth event).run q =
      .ok row (Function.update q .events (q .events ++ [row])) := by
  obtain ⟨bytes, hline⟩ := line_of_eventOf h
  rw [Announcement.row] at h
  rw [announce, appendEvent, run_get_bind, run_checked_ok h, EStateM.run_bind, appendJsonl,
    run_appendWith_room hroom hline]
  rfl

/-- An event for a full queue of events. -/
theorem run_announce_full {event : Announcement} {row : PyVal} (h : event.row around q = .ok row)
    (hfull : ¬HasRoom q .events) : ∃ stop q', (announce around depth event).run q = .error stop q' ∧
      Beside q q' ∧ (Deep ((appendJsonl around depth .events row).run q) ↔ stop = .tooDeep) ∧
      ∀ e, stop ≠ .raised e false := by
  obtain ⟨stop, q', hrun, hq', -, hnot⟩ := run_appendWith_full around
        (appendDeadLetter around depth) row hfull
  rw [Announcement.row] at h
  refine ⟨stop, q', ?_, ?_, ?_, hnot⟩
  · rw [announce, appendEvent, run_get_bind, run_checked_ok h, EStateM.run_bind, appendJsonl, hrun]
  · rw [hq']
    exact keeps_appendDeadLetter around depth _ _ _ q
  · rw [appendJsonl, hrun]
    constructor
    · rintro ⟨s, hs⟩
      exact (EStateM.Result.error.inj hs).1
    · rintro rfl
      exact ⟨q', rfl⟩

/-! ### Full queues -/

/-- A call that raises because a queue is full leaves the other queues as they were. -/
def FailsClean (x : ℕ → Method α) (q : Queues) : Prop :=
  ∀ depth e s, (x depth).run q = .error (.raised e true) s → Beside q s

/-- The queues have room for what a plan appends: a rejection can be reported; a row can be announced if it
has room itself, and can be reported if it has none; an announcement alone has room or can be reported. -/
def Fits (around : Surroundings) (q : Queues) : Plan → Prop
  | .reject _ payload => Lettered around q payload
  | .record queue _ event =>
      (HasRoom q queue → (∃ row, event.row around q = .ok row) → HasRoom q .events) ∧
        (¬HasRoom q queue → Lettered around q (notice around queue))
  | .present event _ => (∃ row, event.row around q = .ok row) → ¬HasRoom q .events →
      Lettered around q (notice around .events)

/-- A plan records in the queue of the candidates or of the confirmed orders, a row that can be written. -/
theorem of_planOf_record {call : Call} {queue : Queue} {row : PyVal} {event : Announcement}
    (h : planOf around q call = .ok (.record queue row event)) :
    queue ≠ .events ∧ queue ≠ .deadLetter ∧ ∃ bytes, line row = .ok bytes := by
  cases call with
  | createOrderCandidate lines source =>
      obtain ⟨order, -, h⟩ := bind_eq_ok_iff.1 h
      cases order with
      | inl rejected => cases h
      | inr order =>
          obtain ⟨route, -, h⟩ := bind_eq_ok_iff.1 h
          obtain ⟨candidate, hcandidate, h⟩ := bind_eq_ok_iff.1 h
          obtain ⟨rfl, rfl, -⟩ := Plan.record.inj (pure_eq_ok_iff.1 h)
          exact ⟨by decide, by decide, line_of_sealed hcandidate⟩
  | confirmOrder candidateId cashierRef =>
      obtain ⟨candidates, -, h⟩ := bind_eq_ok_iff.1 h
      cases hlookup : candidates.lookup candidateId with
      | none =>
          rw [hlookup] at h
          cases h
      | some candidate =>
          rw [hlookup] at h
          dsimp only at h
          split_ifs at h with hgate
          · cases h
          · obtain ⟨order, horder, h⟩ := bind_eq_ok_iff.1 h
            obtain ⟨rfl, rfl, -⟩ := Plan.record.inj (pure_eq_ok_iff.1 h)
            obtain ⟨_, -, horder⟩ := bind_eq_ok_iff.1 horder
            obtain ⟨_, -, horder⟩ := bind_eq_ok_iff.1 horder
            obtain ⟨_, -, horder⟩ := bind_eq_ok_iff.1 horder
            obtain ⟨_, -, horder⟩ := bind_eq_ok_iff.1 horder
            exact ⟨by decide, by decide, line_of_sealed horder⟩
  | kitchenDisplay =>
      obtain ⟨payload, -, h⟩ := bind_eq_ok_iff.1 h
      cases h

/-- When the execution of a rejection ends and fails clean. -/
theorem clean_reject_iff {reason : String} {payload : PyVal} :
    Ends (fun depth => execute around depth (.reject reason payload)) q ∧
        FailsClean (fun depth => execute around depth (.reject reason payload)) q ↔
      Lettered around q payload := by
  rw [← ends_appendDeadLetter_iff (cp reason)]
  refine ⟨fun h => h.1, fun h => ⟨h, fun depth e s hrun => ?_⟩⟩
  have hkeeps := keeps_appendDeadLetter around depth (cp reason) payload .none q
  change (appendDeadLetter around depth (cp reason) payload .none).run q = _ at hrun
  rwa [hrun] at hkeeps

/-- When the execution of an announcement ends and fails clean. -/
theorem clean_present_iff {event : Announcement} {answer : PyVal} :
    Ends (fun depth => execute around depth (.present event answer)) q ∧
        FailsClean (fun depth => execute around depth (.present event answer)) q ↔
      Fits around q (.present event answer) := by
  have hexecute : ∀ depth, (execute around depth (.present event answer)).run q =
      (announce around depth event >>= fun _ => pure answer).run q := fun _ => rfl
  simp only [Ends, FailsClean, hexecute, EStateM.run_bind]
  cases hrow : event.row around q with
  | error e =>
      refine iff_of_true ⟨⟨0, ?_⟩, ?_⟩ ?_
      · rw [run_announce_error hrow]
        rintro ⟨s, h⟩
        cases h
      · intro depth e' s h
        rw [run_announce_error hrow] at h
        cases h
      · rintro ⟨row, h⟩
        rw [hrow] at h
        cases h
  | ok row =>
      by_cases hroom : HasRoom q .events
      · refine iff_of_true ⟨⟨0, ?_⟩, ?_⟩ fun _ hfull => absurd hroom hfull
        · rw [run_announce_room hrow hroom]
          rintro ⟨s, h⟩
          cases h
        · intro depth e' s h
          rw [run_announce_room hrow hroom] at h
          cases h
      · have hends : Fits around q (.present event answer) ↔ Lettered around q (notice around .events) :=
          ⟨fun h => h ⟨row, hrow⟩ hroom, fun h _ _ => h⟩
        rw [hends, ← ends_appendJsonl_iff row hroom]
        constructor
        · rintro ⟨⟨depth, hdepth⟩, -⟩
          refine ⟨depth, fun hdeep => hdepth ?_⟩
          obtain ⟨stop, q', hrun, -, hstop, -⟩ := @run_announce_full around depth q event row hrow hroom
          obtain rfl := hstop.1 hdeep
          rw [hrun]
          exact ⟨q', rfl⟩
        · rintro ⟨depth, hdepth⟩
          refine ⟨⟨depth, fun hdeep => hdepth ?_⟩, fun depth e s h => ?_⟩
          · obtain ⟨stop, q', hrun, -, hstop, -⟩ := @run_announce_full around depth q event row hrow hroom
            rw [hrun] at hdeep
            obtain ⟨s, hs⟩ := hdeep
            exact hstop.2 (EStateM.Result.error.inj hs).1
          · obtain ⟨stop, q', hrun, hbeside, -, -⟩ := @run_announce_full around depth q event row hrow hroom
            rw [hrun] at h
            obtain ⟨-, rfl⟩ := EStateM.Result.error.inj h
            exact hbeside

/-- A row for a full queue of its own ends the call there. -/
theorem clean_record_full_iff {queue : Queue} {row : PyVal} {event : Announcement} (hfull : ¬HasRoom q queue) :
    Ends (fun depth => execute around depth (.record queue row event)) q ∧
        FailsClean (fun depth => execute around depth (.record queue row event)) q ↔
      Lettered around q (notice around queue) := by
  rw [← ends_appendJsonl_iff row hfull]
  have hrun : ∀ depth, ∃ stop q', (appendJsonl around depth queue row).run q = .error stop q' ∧
      (execute around depth (.record queue row event)).run q = .error stop q' ∧ Beside q q' := by
    intro depth
    obtain ⟨stop, q', hrun, hq', -⟩ := run_appendWith_full around
        (appendDeadLetter around depth) row hfull
    refine ⟨stop, q', hrun, ?_, ?_⟩
    · rw [execute, EStateM.run_bind, appendJsonl, hrun]
    · rw [hq']
      exact keeps_appendDeadLetter around depth _ _ _ q
  have hdeep : ∀ depth, Deep ((execute around depth (.record queue row event)).run q) ↔
      Deep ((appendJsonl around depth queue row).run q) := by
    intro depth
    obtain ⟨stop, q', happend, hexecute, -⟩ := hrun depth
    have hiff : Deep (EStateM.Result.error stop q' : EStateM.Result Stop Queues PyVal) ↔
        Deep (EStateM.Result.error stop q' : EStateM.Result Stop Queues Unit) := by
      constructor
      · rintro ⟨s, hs⟩
        obtain ⟨rfl, rfl⟩ := EStateM.Result.error.inj hs
        exact ⟨q', rfl⟩
      · rintro ⟨s, hs⟩
        obtain ⟨rfl, rfl⟩ := EStateM.Result.error.inj hs
        exact ⟨q', rfl⟩
    rw [happend, hexecute]
    exact hiff
  constructor
  · rintro ⟨⟨depth, hdepth⟩, -⟩
    exact ⟨depth, fun h => hdepth ((hdeep depth).2 h)⟩
  · rintro ⟨depth, hdepth⟩
    refine ⟨⟨depth, fun h => hdepth ((hdeep depth).1 h)⟩, fun depth e s h => ?_⟩
    obtain ⟨stop, q', -, hexecute, hbeside⟩ := hrun depth
    rw [hexecute] at h
    obtain ⟨-, rfl⟩ := EStateM.Result.error.inj h
    exact hbeside

/-- A row that has room is there when the event is announced. -/
theorem clean_record_room_iff {queue : Queue} {row : PyVal} {event : Announcement} (hroom : HasRoom q queue)
    (hevents : queue ≠ .events) (hletter : queue ≠ .deadLetter) {bytes : List UInt8}
    (hline : line row = .ok bytes) :
    Ends (fun depth => execute around depth (.record queue row event)) q ∧
        FailsClean (fun depth => execute around depth (.record queue row event)) q ↔
      ((∃ row, event.row around q = .ok row) → HasRoom q .events) := by
  have hexecute : ∀ depth, (execute around depth (.record queue row event)).run q =
      (announce around depth event >>= fun _ => pure row).run
        (Function.update q queue (q queue ++ [row])) := by
    intro depth
    rw [execute, EStateM.run_bind, appendJsonl, run_appendWith_room hroom hline]
    rfl
  have hsame : (Function.update q queue (q queue ++ [row])) .events = q .events :=
    Function.update_of_ne hevents.symm _ _
  have hrow : event.row around (Function.update q queue (q queue ++ [row])) = event.row around q := by
    rw [Announcement.row, hsame, Announcement.row]
  have hfits : HasRoom (Function.update q queue (q queue ++ [row])) .events ↔ HasRoom q .events := by
    rw [HasRoom, hsame, HasRoom]
  -- the row is there, so a call that fails behind it does not fail clean
  have hchanged : ∀ s, Beside (Function.update q queue (q queue ++ [row])) s → ¬Beside q s := by
    intro s hs hbeside
    have hqueue := (hs queue hletter).symm.trans (hbeside queue hletter)
    rw [Function.update_self] at hqueue
    have hlen := congrArg List.length hqueue
    rw [List.length_append, List.length_singleton] at hlen
    omega
  rw [← hrow, ← hfits]
  simp only [Ends, FailsClean, hexecute, EStateM.run_bind]
  generalize Function.update q queue (q queue ++ [row]) = q₁ at hchanged
  cases hevent : event.row around q₁ with
  | error e =>
      refine iff_of_true ⟨⟨0, ?_⟩, ?_⟩ ?_
      · rw [run_announce_error hevent]
        rintro ⟨s, h⟩
        cases h
      · intro depth e' s h
        rw [run_announce_error hevent] at h
        cases h
      · rintro ⟨row, h⟩
        cases h
  | ok announced =>
      by_cases hroom₁ : HasRoom q₁ .events
      · refine iff_of_true ⟨⟨0, ?_⟩, ?_⟩ fun _ => hroom₁
        · rw [run_announce_room hevent hroom₁]
          rintro ⟨s, h⟩
          cases h
        · intro depth e' s h
          rw [run_announce_room hevent hroom₁] at h
          cases h
      · refine iff_of_false ?_ fun h => hroom₁ (h ⟨announced, rfl⟩)
        rintro ⟨⟨depth, hdepth⟩, hclean⟩
        obtain ⟨stop, q', hrun, hbeside, -, hnot⟩ := @run_announce_full around depth q₁ event announced hevent hroom₁
        cases stop with
        | tooDeep =>
            rw [hrun] at hdepth
            exact hdepth ⟨q', rfl⟩
        | raised e full =>
            cases full with
            | false => exact hnot e rfl
            | true => exact hchanged q' hbeside (hclean depth e q' (by rw [hrun]))

/-- A call with a plan ends and fails clean when the execution of the plan does. -/
theorem clean_iff_of_plan {call : Call} {plan : Plan} (hplan : planOf around q call = .ok plan) :
    Ends (fun depth => run around depth call) q ∧ FailsClean (fun depth => run around depth call) q ↔
      Ends (fun depth => execute around depth plan) q ∧ FailsClean (fun depth => execute around depth plan) q := by
  have hrun : ∀ depth, (run around depth call).run q = (execute around depth plan).run q := by
    intro depth
    rw [run_eq, run_checked_ok hplan]
  simp only [Ends, FailsClean, hrun]

/-- **When a call ends and fails clean.**  A call comes to an end and, when it raises because a queue is full,
has appended nothing to the queues of candidates, confirmed orders and events, if and only if the queues have
room for what its plan appends. -/
theorem full_queues_iff (around : Surroundings) (q : Queues) (call : Call) :
    Ends (fun depth => run around depth call) q ∧ FailsClean (fun depth => run around depth call) q ↔
      ∀ plan, planOf around q call = .ok plan → Fits around q plan := by
  cases hplan : planOf around q call with
  | error e =>
      have hrun : ∀ depth, (run around depth call).run q = .error (.raised e false) q := by
        intro depth
        rw [run_eq, hplan]
        rfl
      refine iff_of_true ⟨⟨0, ?_⟩, fun depth e' s h => ?_⟩ fun plan h => ?_
      · dsimp only
        rw [hrun]
        rintro ⟨s, h⟩
        cases h
      · rw [hrun] at h
        cases h
      · cases h
  | ok plan =>
      have hfits : (∀ plan', (Except.ok plan : Except Fault Plan) = .ok plan' → Fits around q plan') ↔
          Fits around q plan := by
        simp
      rw [clean_iff_of_plan hplan, hfits]
      cases plan with
      | reject reason payload => exact clean_reject_iff
      | record queue row event =>
          obtain ⟨hevents, hletter, bytes, hline⟩ := of_planOf_record hplan
          by_cases hroom : HasRoom q queue
          · rw [clean_record_room_iff hroom hevents hletter hline, Fits]
            exact ⟨fun h => ⟨fun _ => h, fun hfull => absurd hroom hfull⟩, fun h => h.1 hroom⟩
          · rw [clean_record_full_iff hroom, Fits]
            exact ⟨fun h => ⟨fun hr => absurd hr hroom, fun _ => h⟩, fun h => h.2 hroom⟩
      | present event answer => exact clean_present_iff

/-! ### A row without its event -/

theorem sealed_ok {k : String} {doc : List (String × PyVal)} (h : ∀ p ∈ doc, PyJson.Plain Encodable p.2) :
    ∃ hash, canonicalHash (obj doc) = .ok hash ∧ PyJson.Plain Encodable (.dict (setKey (cp k) (.str hash)
      (fields doc))) ∧ sealed k doc = .ok (.dict (setKey (cp k) (.str hash) (fields doc))) := by
  obtain ⟨hash, hhash⟩ := canonicalHash_ok (PyJson.plain_obj h)
  exact ⟨hash, hhash, (PyJson.plain_obj h).setKey (encodable_cp _) (.str _ (plain_of_canonicalHash hhash).2),
    bind_eq_ok_iff.2 ⟨hash, hhash, rfl⟩⟩

theorem encodable_numbered (name : String) (n : ℕ) : Encodable (numbered name n) := by
  have hdigit : ∀ c, PyJson.isDigit c = true → ¬IsSurrogate c := by
    intro c hc
    rw [PyJson.isDigit_iff] at hc
    unfold IsSurrogate
    omega
  rw [numbered, encodable_append, encodable_append]
  exact ⟨⟨encodable_cp _, fun c hc => hdigit c (PyJson.isDigit_zeros hc)⟩,
    fun c hc => hdigit c (PyJson.isDigit_of_mem_natText hc)⟩

/-- An event can be built from what can be encoded. -/
theorem eventOf_ok {events : List PyVal} {actionRef nodeRef : String} {payloadRef parentHash : PyVal}
    (htime : Encodable around.eventTime) (hparent : parentHashOf events = .ok parentHash)
    (hplain : PyJson.Plain Encodable parentHash) (hpayload : PyJson.Plain Encodable payloadRef) :
    ∃ row, eventOf around events actionRef nodeRef payloadRef = .ok row := by
  have hfields : ∀ p ∈ [("action_ref", lit actionRef), ("actor_ref", lit "sandbox_pos_mvp_autodev"),
      ("claim_label", lit "FACT"), ("event_id", .str (numbered "evt_" (events.length + 1))),
      ("event_time", .str around.eventTime), ("node_ref", lit nodeRef), ("parent_hash", parentHash),
      ("payload_ref", payloadRef)], PyJson.Plain Encodable p.2 := by
    simp [PyJson.plain_lit, PyJson.plain_str_iff, encodable_numbered, htime, hplain, hpayload]
  obtain ⟨hash, -, -, hsealed⟩ := @sealed_ok "event_hash" _ hfields
  exact ⟨_, bind_eq_ok_iff.2 ⟨parentHash, hparent, hsealed⟩⟩

end Runs

/-- Surroundings without a menu, a resolver and a writer of dead letters. -/
def sampleAround : Surroundings where
  runDir := "/run"
  menu := .error (.own (.outside "baseline menu missing"))
  routeOutput := .error (.own (.outside "CalledProcessError"))
  rowTime := cp "2026-07-01T00:00:00+00:00"
  eventTime := cp "2026-07-01T00:00:00+00:00"
  str _ := []
  toInt _ := .error (.builtin .valueError)
  times _ _ := .error (.builtin .typeError)
  plus _ _ := .error (.builtin .typeError)
  writer := .error (.own (.outside "ModuleNotFoundError"))

/-- A candidate. -/
def sampleCandidate : PyVal := obj [("candidate_hash", lit "c0ffee"), ("candidate_id", lit "cand_000001"),
  ("cashier_confirm_required", .bool true), ("currency", lit "TWD"), ("lines", .list []), ("total", .int 0)]

/-- One candidate, no confirmed order, and a full queue of events. -/
def crowdedQueues : Queues
  | .orderCandidates => [sampleCandidate]
  | .confirmedOrders => []
  | .events => List.replicate 200 (obj [("event_hash", lit "e")])
  | .deadLetter => []

theorem index_sample : indexBy "candidate_id" [sampleCandidate] =
    .ok [(cp "cand_000001", sampleCandidate)] := by
  have hat : (sampleCandidate.at "candidate_id" : Except Fault PyVal) = .ok (lit "cand_000001") := by
    simp [sampleCandidate, at_obj]
  rw [indexBy, hat]
  rfl

/-- An order can be made of the candidate. -/
theorem orderOf_sample (number : ℕ) : ∃ row, orderOf sampleAround number (cp "cand_000001") (lit "c")
    sampleCandidate = .ok row ∧ PyJson.Plain Encodable row := by
  have hhash : (sampleCandidate.at "candidate_hash" : Except Fault PyVal) = .ok (lit "c0ffee") := by
    simp [sampleCandidate, at_obj]
  have hlines : (sampleCandidate.at "lines" : Except Fault PyVal) = .ok (.list []) := by
    simp [sampleCandidate, at_obj]
  have htotal : (sampleCandidate.at "total" : Except Fault PyVal) = .ok (.int 0) := by
    simp [sampleCandidate, at_obj]
  have hcurrency : (sampleCandidate.at "currency" : Except Fault PyVal) = .ok (lit "TWD") := by
    simp [sampleCandidate, at_obj]
  have hplain : ∀ p ∈ [("candidate_hash", lit "c0ffee"), ("candidate_id", .str (cp "cand_000001")),
      ("cashier_ref", lit "c"), ("confirmed_at", .str sampleAround.rowTime), ("currency", lit "TWD"),
      ("db_write", .bool false), ("kitchen_status", lit "preparing"), ("lines", .list []),
      ("odoo_core_write", .bool false), ("odoo_sidecar_candidate", .bool true),
      ("order_id", .str (numbered "order_" (number + 1))), ("schema", lit "w7tp_pos_confirmed_local_order.v1"),
      ("status", lit "confirmed"), ("total", .int 0)], PyJson.Plain Encodable p.2 := by
    have htime : Encodable sampleAround.rowTime := encodable_cp _
    simp [PyJson.plain_lit, PyJson.plain_str_iff, PyJson.plain_list_iff, PyJson.Plain.bool, PyJson.Plain.int,
      encodable_cp, encodable_numbered, htime]
  obtain ⟨hash, -, hrow, hsealed⟩ := @sealed_ok "order_hash" _ hplain
  refine ⟨_, ?_, hrow⟩
  rw [orderOf, hhash, ok_bind, hlines, ok_bind, htotal, ok_bind, hcurrency, ok_bind]
  exact hsealed

/-- The candidate is found, and its order can be sealed and announced. -/
theorem plan_crowded : ∃ row event, planOf sampleAround crowdedQueues (.confirmOrder (cp "cand_000001") (lit "c")) =
    .ok (.record .confirmedOrders row event) ∧ ∃ announced, event.row sampleAround crowdedQueues = .ok announced := by
  obtain ⟨row, hrow, hplain⟩ := orderOf_sample 0
  have hparent : parentHashOf (crowdedQueues .events) = .ok (lit "e") := by
    have hlast : (crowdedQueues .events).getLast? = some (obj [("event_hash", lit "e")]) := rfl
    rw [parentHashOf, hlast]
    simp [at_obj]
  have hgate : (sampleCandidate.get "cashier_confirm_required").truthy = true := by
    have hget : sampleCandidate.get "cashier_confirm_required" = .bool true := by simp [sampleCandidate]
    rw [hget]
    rfl
  refine ⟨row, ⟨"cashier_confirm.local_order", "NODE_POS_MAINT", row.get "order_id"⟩, ?_, ?_⟩
  · have hlookup : [(cp "cand_000001", sampleCandidate)].lookup (cp "cand_000001") = some sampleCandidate := by
      simp
    rw [planOf]
    change (indexBy "candidate_id" [sampleCandidate] >>= _) = _
    rw [index_sample, ok_bind, hlookup]
    dsimp only
    rw [hgate]
    change (orderOf sampleAround 0 (cp "cand_000001") (lit "c") sampleCandidate >>= _) = _
    rw [hrow, ok_bind]
    rfl
  · exact eventOf_ok (encodable_cp _) hparent (PyJson.plain_lit _) (hplain.get _)

/-- An order whose event finds no room stays confirmed. -/
theorem confirmed_without_event : ¬∀ (around : Surroundings) (q : Queues) (call : Call),
    Ends (fun depth => run around depth call) q ∧ FailsClean (fun depth => run around depth call) q := by
  intro h
  obtain ⟨row, event, hplan, hevent⟩ := plan_crowded
  obtain ⟨hevents, hletter, bytes, hline⟩ := of_planOf_record hplan
  have hroom : HasRoom crowdedQueues .confirmedOrders := by
    rw [HasRoom, maxQueueItems]
    exact Nat.zero_lt_succ _
  have hclean := (clean_iff_of_plan hplan).1
    (h sampleAround crowdedQueues (.confirmOrder (cp "cand_000001") (lit "c")))
  have hfull := (clean_record_room_iff hroom hevents hletter hline).1 hclean hevent
  have hlen : (crowdedQueues .events).length = 200 := List.length_replicate
  rw [HasRoom, maxQueueItems] at hfull
  omega

end PosMvp
