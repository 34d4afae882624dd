/-
**The action ledger.**

`execution_continuity.py` keeps the actions of a conversation in a JSON file.  Every mutation takes a lock,
loads the file again, checks it, changes one action or appends one, and saves; what the instance had in
memory before only matters to a check `resume_action` makes before it takes the lock.  So a mutation is one
step on the file, whatever other processes do in between.

The file is kept as the value its text stands for, and the arguments are JSON values.

Main definitions:

* `ActionLedger.Ledger`, `ActionLedger.loadOrInit` — the memory of an instance, and how it is loaded;
* `ActionLedger.beginAction`, `ActionLedger.updateAction` — the two mutations, up to the call of `_save`;
* `ActionLedger.Operation`, `ActionLedger.perform` — a call of one of the methods, as a step on the file;
* `ActionLedger.Sound` — identifiers are unique, and a key has one action that has not failed;
* `ActionLedger.Continues` — what a step may do to the actions.

Main results:

* `ActionLedger.sound_run` — every file of a run is sound, every call continues its actions, and every later
  file keeps what must be kept.
-/

import Wuchang.PyEq
import Wuchang.PyJson

set_option relaxedAutoImplicit false
set_option autoImplicit false

namespace ActionLedger

open Py

/-- The exceptions of the module, by the fixed part of their messages. -/
inductive Failure where
  | valueError (message : String)
  deriving DecidableEq, Repr

/-- An exception. -/
abbrev Fault := Raise Failure

/-- `raise ValueError(message)` -/
def refuse {α : Type} (message : String) : Except Fault α := .error (.own (.valueError message))

/-! ### Actions -/

/-- `ACTION_STATES` -/
def actionStates : List String :=
  ["RUNNING", "WAITING", "INTERRUPTED", "RESUMED", "DONE", "FAILED", "HOLD"]

/-- `TERMINAL_ACTION_STATES` -/
def terminalActionStates : List String := ["DONE", "FAILED"]

/-- `RESUMABLE_ACTION_STATES` -/
def resumableActionStates : List String := ["INTERRUPTED", "HOLD"]

/-- `REQUIRED_ACTION_FIELDS` -/
def requiredActionFields : List String := ["ACTION_ID", "TASK_ID", "TURN_ID", "PROCESS_ID", "STATE",
  "TARGET_COORDINATE", "TOOL", "IDEMPOTENCY_KEY", "STARTED_AT", "LAST_UPDATE", "LAST_CONFIRMED_EFFECT",
  "LAST_TOOL_EFFECT", "RESUME_FROM", "ERROR"]

/-- `IMMUTABLE_ACTION_FIELDS` -/
def immutableActionFields : List String := ["ACTION_ID", "TASK_ID", "TURN_ID", "TARGET_COORDINATE", "TOOL",
  "IDEMPOTENCY_KEY", "STARTED_AT"]

/-- The items of an action. -/
abbrev Action := Items

/-- `action.get(k)` -/
def Action.get (action : Action) (k : String) : PyVal := (getItem action (cp k)).getD .none

/-- `action["STATE"]` is one of some states. -/
def Action.stateIn (action : Action) (states : List String) : Bool :=
  states.any fun state => pyEq (action.get "STATE") (lit state)

/-- `_validate_action` -/
def validateAction (action : PyVal) : Except Fault Unit := do
  let has ← setOf action
  if ¬requiredActionFields.all has then refuse "action missing fields"
  else do
    let state ← action.at "STATE"
    let known ← inTexts state actionStates
    if ¬known then refuse "invalid action STATE"
    else do
      let idempotencyKey ← action.at "IDEMPOTENCY_KEY"
      if ¬idempotencyKey.truthy then refuse "IDEMPOTENCY_KEY required"
      else do
        let terminal ← inTexts state terminalActionStates
        if terminal && ¬(action.get "RESUME_FROM" matches .none) then
          refuse "terminal action cannot retain RESUME_FROM"
        else pure ()

/-! ### The memory of an instance -/

/-- `self.data`: the items of the dictionary, and the actions in it. -/
structure Ledger where
  items : Items
  actions : List Action

/-- The readings of `_now()` in a call. -/
structure Times where
  /-- `UPDATED_AT` of a ledger without file -/
  loaded : PyStr
  /-- `STARTED_AT` and `LAST_UPDATE` -/
  action : PyStr
  /-- `UPDATED_AT` -/
  updatedAt : PyStr

/-- The actions are checked one after the other; their identifiers differ from those seen before. -/
def loadActions (seen : List PyVal) : List PyVal → Except Fault (List Action)
  | [] => .ok []
  | v :: vs => do
      validateAction v
      match v with
      | .dict action =>
          let actionId := Action.get action "ACTION_ID"
          if ¬isHashable actionId then .error (.builtin .typeError)
          else if seen.any (pyEq actionId) then refuse "duplicate ACTION_ID"
          else do
            let actions ← loadActions (actionId :: seen) vs
            pure (action :: actions)
      | _ => .error (.builtin .typeError)

/-- `_load_or_init` -/
def loadOrInit (times : Times) (file : Option PyVal) : Except Fault Ledger :=
  match file with
  | none => .ok ⟨fields [("ACTIONS", .list []), ("LEDGER_VERSION", lit "1.0"),
      ("UPDATED_AT", .str times.loaded)], []⟩
  | some (.dict items) =>
      match getItem items (cp "ACTIONS") with
      | some (.list actions) => do
          let actions ← loadActions [] actions
          pure ⟨items, actions⟩
      | _ => refuse "ACTION_LEDGER ACTIONS must be a list"
  | some _ => .error (.builtin .attributeError)

/-- The dictionary an instance saves. -/
def Ledger.value (ledger : Ledger) (updatedAt : PyStr) : PyVal :=
  .dict (setKey (cp "UPDATED_AT") (.str updatedAt)
    (setKey (cp "ACTIONS") (.list (ledger.actions.map .dict)) ledger.items))

/-- `_save`: what is not JSON, or cannot be encoded, is not written. -/
def save (times : Times) (ledger : Ledger) : Except Fault PyVal := do
  let data := ledger.value times.updatedAt
  let text ← PyJson.dumps PyJson.spaced data
  let _ ← encodeUtf8 text
  pure data

/-- `_action`: the position of the first action with an identifier. -/
def findAction (actionId : PyVal) (actions : List Action) : Except Fault ℕ :=
  match actions.findIdx? fun action => pyEq (action.get "ACTION_ID") actionId with
  | some i => .ok i
  | none => .error (.builtin .keyError)

/-! ### The mutations -/

/-- What a mutation has done when it calls `_save`, or returns without: the action it returns. -/
structure Edit where
  saves : Bool
  action : Action

/-- A mutation of an instance that has loaded the file, up to the call of `_save`. -/
abbrev Method := EStateM Fault Ledger

/-- The arguments of `begin_action`. -/
structure BeginArgs where
  actionId : PyVal
  taskId : PyVal
  turnId : PyVal
  processId : PyVal
  targetCoordinate : PyVal
  tool : PyVal
  idempotencyKey : PyVal

/-- The action that begins. -/
def newAction (times : Times) (args : BeginArgs) : Action := fields [("ACTION_ID", args.actionId),
  ("ERROR", .none), ("IDEMPOTENCY_KEY", args.idempotencyKey), ("LAST_CONFIRMED_EFFECT", .none),
  ("LAST_TOOL_EFFECT", .none), ("LAST_UPDATE", .str times.action), ("PROCESS_ID", args.processId),
  ("RESUME_FROM", .none), ("STARTED_AT", .str times.action), ("STATE", lit "RUNNING"),
  ("TARGET_COORDINATE", args.targetCoordinate), ("TASK_ID", args.taskId), ("TOOL", args.tool),
  ("TURN_ID", args.turnId)]

/-- `begin_action`.  The sort that picks the action named in a message can raise as well; the call raises
either way. -/
def beginAction (times : Times) (args : BeginArgs) : Method Edit := do
  let ledger ← get
  let sameKey := ledger.actions.filter fun a => pyEq (a.get "IDEMPOTENCY_KEY") args.idempotencyKey
  if ledger.actions.any fun a => pyEq (a.get "ACTION_ID") args.actionId then
    refuse "ACTION_ID already exists"
  else if sameKey.any fun a => pyEq (a.get "STATE") (lit "DONE") then
    refuse "completed action with same IDEMPOTENCY_KEY"
  else if sameKey.any fun a => ¬a.stateIn terminalActionStates then
    refuse "active action with same IDEMPOTENCY_KEY"
  else do
    let action := newAction times args
    validateAction (.dict action)
    set { ledger with actions := ledger.actions ++ [action] }
    pure ⟨true, action⟩

/-- The checks of `update_action` before it takes the lock. -/
def checkChanges (actionId : PyVal) (changes : Kwargs) : Except Fault Unit :=
  if (changes.lookup (cp "ACTION_ID")).any fun v => ¬pyEq v actionId then refuse "ACTION_ID is immutable"
  else
    match changes.lookup (cp "STATE") with
    | none => .ok ()
    | some state => do
        let known ← inTexts state actionStates
        if ¬known then refuse "invalid action STATE" else pure ()

/-- A change would change an immutable field. -/
def changesImmutable (action : Action) (changes : Kwargs) : Bool :=
  immutableActionFields.any fun field =>
    (changes.lookup (cp field)).any fun v => ¬pyEq v (action.get field)

/-- Some change is not what the action already has. -/
def effective (action : Action) (changes : Kwargs) : Bool :=
  changes.any fun change => ¬pyEq ((getItem action change.1).getD .none) change.2

/-- The action after an update. -/
def updated (times : Times) (action : Action) (changes : Kwargs) : Action :=
  setKey (cp "LAST_UPDATE") (.str times.action) (updateItems action changes)

/-- `update_action` after it has loaded the file. -/
def updateAction (times : Times) (actionId : PyVal) (changes : Kwargs) : Method Edit := do
  let ledger ← get
  let i ← findAction actionId ledger.actions
  let action := ledger.actions.getD i []
  if changesImmutable action changes then refuse "field is immutable"
  else if action.stateIn terminalActionStates then
    if effective action changes then refuse "terminal action is immutable" else pure ⟨false, action⟩
  else if (changes.lookup (cp "STATE")).any (fun v => pyEq v (lit "RESUMED")) &&
      ¬action.stateIn resumableActionStates then refuse "action not resumable"
  else do
    let action := updated times action changes
    set { ledger with actions := ledger.actions.set i action }
    validateAction (.dict action)
    pure ⟨true, action⟩

/-! ### Calls -/

/-- A call of a method that mutates the ledger. -/
inductive Operation where
  | beginAction (args : BeginArgs)
  | updateAction (actionId : PyVal) (changes : Kwargs)
  | resumeAction (memory : List Action) (actionId newProcessId resumeFrom : PyVal)

/-- `mark_waiting` -/
def markWaiting (actionId lastToolEffect : PyVal) : Operation :=
  .updateAction actionId [(cp "STATE", lit "WAITING"), (cp "LAST_TOOL_EFFECT", lastToolEffect)]

/-- `mark_interrupted` -/
def markInterrupted (actionId error lastConfirmedEffect lastToolEffect resumeFrom : PyVal) : Operation :=
  .updateAction actionId [(cp "STATE", lit "INTERRUPTED"), (cp "ERROR", error),
    (cp "LAST_CONFIRMED_EFFECT", lastConfirmedEffect), (cp "LAST_TOOL_EFFECT", lastToolEffect),
    (cp "RESUME_FROM", resumeFrom)]

/-- `complete_action` -/
def completeAction (actionId confirmedEffect : PyVal) : Operation :=
  .updateAction actionId [(cp "STATE", lit "DONE"), (cp "LAST_CONFIRMED_EFFECT", confirmedEffect),
    (cp "RESUME_FROM", .none), (cp "ERROR", .none)]

/-- `fail_action` -/
def failAction (actionId error lastToolEffect : PyVal) : Operation :=
  .updateAction actionId [(cp "STATE", lit "FAILED"), (cp "ERROR", error),
    (cp "LAST_TOOL_EFFECT", lastToolEffect), (cp "RESUME_FROM", .none)]

/-- The changes `resume_action` asks for. -/
def resumeChanges (newProcessId resumeFrom : PyVal) : Kwargs := [(cp "STATE", lit "RESUMED"),
  (cp "PROCESS_ID", newProcessId), (cp "RESUME_FROM", resumeFrom), (cp "ERROR", .none)]

/-- What a call checks before it takes the lock; `resume_action` looks at the memory of the instance, which
may be of any age. -/
def Operation.check : Operation → Except Fault Unit
  | .beginAction _ => .ok ()
  | .updateAction actionId changes => checkChanges actionId changes
  | .resumeAction memory actionId newProcessId resumeFrom => do
      let i ← findAction actionId memory
      if ¬(memory.getD i []).stateIn resumableActionStates then refuse "action not resumable"
      else checkChanges actionId (resumeChanges newProcessId resumeFrom)

/-- The mutation of a call. -/
def Operation.method (times : Times) : Operation → Method Edit
  | .beginAction args => ActionLedger.beginAction times args
  | .updateAction actionId changes => ActionLedger.updateAction times actionId changes
  | .resumeAction _ actionId newProcessId resumeFrom =>
      ActionLedger.updateAction times actionId (resumeChanges newProcessId resumeFrom)

/-- A call on a file: the action it returns, and the file it leaves. -/
def perform (times : Times) (operation : Operation) (file : Option PyVal) :
    Except Fault (Action × Option PyVal) := do
  operation.check
  let ledger ← loadOrInit times file
  let (edit, ledger) ← callOn (operation.method times) ledger
  if edit.saves then do
    let data ← save times ledger
    pure (edit.action, some data)
  else pure (edit.action, file)

/-- The file after a call; a call that raises leaves it as it was. -/
def afterCall (times : Times) (operation : Operation) (file : Option PyVal) : Option PyVal :=
  match perform times operation file with
  | .ok (_, file) => file
  | .error _ => file

/-- The file after some calls. -/
def runCalls (file : Option PyVal) (calls : List (Times × Operation)) : Option PyVal :=
  calls.foldl (fun file call => afterCall call.1 call.2 file) file

/-! ### What a run keeps -/

/-- The items of an element of the list of actions. -/
def dictItems : PyVal → Action
  | .dict action => action
  | _ => []

/-- The actions of a file. -/
def actionsOf (file : Option PyVal) : List Action :=
  match file.map fun data : PyVal => data.get "ACTIONS" with
  | some (.list actions) => actions.map dictItems
  | _ => []

/-- The value stays, or is replaced by an equal one. -/
def Same (v w : PyVal) : Prop := v = w ∨ pyEq v w = true

/-- Identifiers are unique, and of two actions with one key one has failed. -/
structure Sound (actions : List Action) : Prop where
  unique : ∀ (i j : ℕ) (a b : Action), i ≠ j → actions[i]? = some a → actions[j]? = some b →
    pyEq (a.get "ACTION_ID") (b.get "ACTION_ID") = false
  live : ∀ (i j : ℕ) (a b : Action), i ≠ j → actions[i]? = some a → actions[j]? = some b →
    pyEq (a.get "IDEMPOTENCY_KEY") (b.get "IDEMPOTENCY_KEY") = true →
      a.get "STATE" = lit "FAILED" ∨ b.get "STATE" = lit "FAILED"

/-- The immutable fields are the same, and an action that was done or had failed is the same. -/
structure Kept (a b : Action) : Prop where
  immutable : ∀ field ∈ immutableActionFields, Same (a.get field) (b.get field)
  terminal : a.stateIn terminalActionStates = true → b = a

/-- One step: every action is kept, and resumed only when it can be; a new one is running. -/
structure Continues (before after : List Action) : Prop where
  each : ∀ (i : ℕ) (a : Action), before[i]? = some a → ∃ b, after[i]? = some b ∧ Kept a b ∧
    (b.get "STATE" = lit "RESUMED" →
      a.get "STATE" = lit "RESUMED" ∨ a.stateIn resumableActionStates = true)
  fresh : ∀ (i : ℕ) (b : Action), before[i]? = none → after[i]? = some b → b.get "STATE" = lit "RUNNING"

/-- What a mutation that saves does to the actions. -/
inductive Edited (times : Times) (actions : List Action) : List Action → Prop
  | begun (args : BeginArgs)
      (hid : ∀ a ∈ actions, pyEq (a.get "ACTION_ID") args.actionId = false)
      (hkey : ∀ a ∈ actions, pyEq (a.get "IDEMPOTENCY_KEY") args.idempotencyKey = true →
        a.get "STATE" = lit "FAILED") : Edited times actions (actions ++ [newAction times args])
  | updated (i : ℕ) (action : Action) (changes : Kwargs) (hi : actions[i]? = some action)
      (hkept : changesImmutable action changes = false)
      (hlive : action.stateIn terminalActionStates = false)
      (hresume : changes.lookup (cp "STATE") = some (lit "RESUMED") →
        action.stateIn resumableActionStates = true) :
      Edited times actions (actions.set i (updated times action changes))

variable {times : Times} {ledger ledger' : Ledger} {edit : Edit} {file : Option PyVal}

/-! ### What a mutation does -/

theorem of_findAction {actionId : PyVal} {actions : List Action} {i : ℕ}
    (h : findAction actionId actions = .ok i) : ∃ action, actions[i]? = some action := by
  rw [findAction] at h
  split at h
  · next j hfind =>
      obtain rfl := Except.ok.inj h
      obtain ⟨hlt, -⟩ := List.findIdx?_eq_some_iff_getElem.1 hfind
      exact ⟨_, List.getElem?_eq_getElem hlt⟩
  · cases h

/-- A state is in a set of states when it is one of its texts. -/
theorem stateIn_iff {action : Action} {states : List String} :
    action.stateIn states = true ↔ ∃ state ∈ states, action.get "STATE" = lit state := by
  simp [Action.stateIn]

/-- A new action has another identifier than all others, and those with its key have failed. -/
theorem of_beginAction {args : BeginArgs}
    (h : callOn (beginAction times args) ledger = .ok (edit, ledger')) :
    Edited times ledger.actions ledger'.actions := by
  have hrun := callOn_eq_ok.1 h
  rw [beginAction, run_get_bind] at hrun
  dsimp only at hrun
  split_ifs at hrun with hid hdone hactive
  · cases hrun
  · cases hrun
  · cases hrun
  · obtain ⟨-, -, hrun⟩ := run_lift_bind_eq_ok_iff.1 hrun
    rw [run_set_bind] at hrun
    obtain ⟨-, rfl⟩ := EStateM.Result.ok.inj hrun
    refine .begun args ?_ ?_
    · intro a ha
      by_contra hsame
      exact hid (List.any_eq_true.2 ⟨a, ha, by simpa using hsame⟩)
    · intro a ha hsame
      have hmem : a ∈ ledger.actions.filter fun a =>
          pyEq (a.get "IDEMPOTENCY_KEY") args.idempotencyKey := List.mem_filter.2 ⟨ha, hsame⟩
      have hterminal : a.stateIn terminalActionStates = true := by
        by_contra hlive
        exact hactive (List.any_eq_true.2 ⟨a, hmem, by simpa using hlive⟩)
      obtain ⟨state, hstate, hget⟩ := stateIn_iff.1 hterminal
      rcases List.mem_pair.1 hstate with rfl | rfl
      · exact absurd (List.any_eq_true.2 ⟨a, hmem, pyEq_lit.2 hget⟩) hdone
      · exact hget

/-- An update replaces an action that is neither done nor failed, or it does nothing. -/
theorem of_updateAction {actionId : PyVal} {changes : Kwargs}
    (h : callOn (updateAction times actionId changes) ledger = .ok (edit, ledger')) :
    edit.saves = false ∨ Edited times ledger.actions ledger'.actions := by
  have hrun := callOn_eq_ok.1 h
  rw [updateAction, run_get_bind] at hrun
  obtain ⟨i, hi, hrun⟩ := run_lift_bind_eq_ok_iff.1 hrun
  obtain ⟨action, hget⟩ := of_findAction hi
  have haction : ledger.actions.getD i [] = action := by simp [hget]
  rw [haction] at hrun
  dsimp only at hrun
  split_ifs at hrun with hkept hterminal heffective hresume
  · cases hrun
  · cases hrun
  · obtain ⟨rfl, -⟩ := EStateM.Result.ok.inj hrun
    exact .inl rfl
  · cases hrun
  · rw [run_set_bind] at hrun
    obtain ⟨-, -, hrun⟩ := run_lift_bind_eq_ok_iff.1 hrun
    obtain ⟨-, rfl⟩ := EStateM.Result.ok.inj hrun
    refine .inr (.updated i action changes hget (by simpa using hkept) (by simpa using hterminal) ?_)
    intro hrequested
    by_contra hstate
    exact hresume (by simp [hrequested, hstate])

/-! ### What a call does -/

theorem of_loadActions {seen vs : List PyVal} {actions : List Action}
    (h : loadActions seen vs = .ok actions) : vs.map dictItems = actions := by
  induction vs generalizing seen actions with
  | nil => exact Except.ok.inj h
  | cons v vs ih =>
      obtain ⟨-, -, h⟩ := bind_eq_ok_iff.1 h
      cases v with
      | dict action =>
          dsimp only at h
          split_ifs at h
          · cases h
          · obtain ⟨rest, hrest, h⟩ := bind_eq_ok_iff.1 h
            obtain rfl := pure_eq_ok_iff.1 h
            rw [List.map_cons, ih hrest]
            rfl
      | _ => cases h

/-- What is loaded are the actions of the file. -/
theorem of_loadOrInit (h : loadOrInit times file = .ok ledger) : ledger.actions = actionsOf file := by
  cases file with
  | none =>
      obtain rfl := Except.ok.inj h
      rfl
  | some data =>
      cases data with
      | dict items =>
          rw [loadOrInit] at h
          split at h
          · next vs hactions =>
              obtain ⟨actions, hload, h⟩ := bind_eq_ok_iff.1 h
              obtain rfl := pure_eq_ok_iff.1 h
              rw [actionsOf, Option.map_some, PyVal.get, hactions]
              exact (of_loadActions hload).symm
          · cases h
      | _ => cases h

/-- What is saved holds the actions of the memory. -/
theorem actionsOf_value (ledger : Ledger) (updatedAt : PyStr) :
    actionsOf (some (ledger.value updatedAt)) = ledger.actions := by
  have hget : (ledger.value updatedAt).get "ACTIONS" = .list (ledger.actions.map .dict) := by
    rw [Ledger.value, PyVal.get, getItem_setKey, if_neg (by decide), getItem_setKey, if_pos rfl]
    rfl
  rw [actionsOf, Option.map_some, hget]
  dsimp only
  rw [List.map_map]
  exact List.map_id _

/-- A call leaves the actions as they are, or makes one edit. -/
theorem of_perform {operation : Operation} {action : Action} {file' : Option PyVal}
    (h : perform times operation file = .ok (action, file')) :
    file' = file ∨ Edited times (actionsOf file) (actionsOf file') := by
  obtain ⟨-, -, h⟩ := bind_eq_ok_iff.1 h
  obtain ⟨ledger, hload, h⟩ := bind_eq_ok_iff.1 h
  obtain ⟨⟨edit, ledger'⟩, hmethod, h⟩ := bind_eq_ok_iff.1 h
  have hedited : edit.saves = false ∨ Edited times ledger.actions ledger'.actions := by
    cases operation with
    | beginAction args => exact .inr (of_beginAction hmethod)
    | updateAction actionId changes => exact of_updateAction hmethod
    | resumeAction memory actionId newProcessId resumeFrom => exact of_updateAction hmethod
  dsimp only at h
  split_ifs at h with hsaves
  · obtain ⟨data, hdata, h⟩ := bind_eq_ok_iff.1 h
    obtain ⟨-, rfl⟩ := Prod.mk.inj (pure_eq_ok_iff.1 h)
    obtain ⟨text, -, hdata⟩ := bind_eq_ok_iff.1 hdata
    obtain ⟨bytes, -, hdata⟩ := bind_eq_ok_iff.1 hdata
    obtain rfl := pure_eq_ok_iff.1 hdata
    rw [actionsOf_value, ← of_loadOrInit hload]
    exact .inr (hedited.resolve_left (by simp [hsaves]))
  · exact .inl (Prod.mk.inj (pure_eq_ok_iff.1 h)).2.symm

/-- So does a call that may raise. -/
theorem of_afterCall (times : Times) (operation : Operation) (file : Option PyVal) :
    afterCall times operation file = file ∨
      Edited times (actionsOf file) (actionsOf (afterCall times operation file)) := by
  rw [afterCall]
  cases h : perform times operation file with
  | error e => exact .inl rfl
  | ok result => exact of_perform h

/-! ### What an edit keeps -/

theorem Same.trans {u v w : PyVal} (huv : Same u v) (hvw : Same v w) : Same u w := by
  rcases huv with rfl | huv
  · exact hvw
  · rcases hvw with rfl | hvw
    · exact .inr huv
    · exact .inr (pyEq_trans huv hvw)

theorem Kept.refl (a : Action) : Kept a a := ⟨fun _ _ => .inl rfl, fun _ => rfl⟩

theorem Kept.trans {a b c : Action} (hab : Kept a b) (hbc : Kept b c) : Kept a c where
  immutable field hfield := (hab.immutable field hfield).trans (hbc.immutable field hfield)
  terminal ha := by
    obtain rfl := hab.terminal ha
    exact hbc.terminal ha

/-- A field other than `LAST_UPDATE` is the requested one, or the old one. -/
theorem updated_get {action : Action} {changes : Kwargs} {field : String} (h : field ≠ "LAST_UPDATE") :
    (updated times action changes).get field =
      ((changes.lookup (cp field)).or (getItem action (cp field))).getD .none := by
  rw [Action.get, updated, getItem_setKey, if_neg fun heq => h (cp_inj.1 heq), getItem_updateItems]

/-- An update keeps the immutable fields. -/
theorem updated_same {action : Action} {changes : Kwargs} (hkept : changesImmutable action changes = false)
    {field : String} (hfield : field ∈ immutableActionFields) :
    Same (action.get field) ((updated times action changes).get field) := by
  have hne : field ≠ "LAST_UPDATE" := by
    rintro rfl
    exact absurd hfield (by decide)
  rw [updated_get hne]
  cases hlookup : changes.lookup (cp field) with
  | none => exact .inl rfl
  | some v =>
      have hfree := List.any_eq_false.1 hkept field hfield
      rw [hlookup] at hfree
      exact .inr (pyEq_symm (by simpa using hfree))

/-- An edit continues the actions. -/
theorem Edited.continues {actions actions' : List Action} (h : Edited times actions actions') :
    Continues actions actions' := by
  cases h with
  | begun args hid hkey =>
      refine ⟨fun i a ha => ⟨a, ?_, .refl a, fun hresumed => .inl hresumed⟩, fun i b hi hb => ?_⟩
      · rw [List.getElem?_append_left (List.getElem?_eq_some_iff.1 ha).1, ha]
      · have hlen := List.getElem?_eq_none_iff.1 hi
        rw [List.getElem?_append_right hlen] at hb
        obtain rfl := List.mem_singleton.1 (List.mem_of_getElem? hb)
        simp [newAction, Action.get]
  | updated i action changes hi hkept hlive hresume =>
      refine ⟨fun j a ha => ?_, fun j b hj hb => ?_⟩
      · by_cases hij : i = j
        · subst hij
          obtain rfl := Option.some.inj (hi.symm.trans ha)
          refine ⟨_, List.getElem?_set_self (List.getElem?_eq_some_iff.1 hi).1,
            ⟨fun field hfield => updated_same hkept hfield, fun hterminal => ?_⟩, fun hresumed => ?_⟩
          · rw [hlive] at hterminal
            cases hterminal
          · rw [updated_get (by decide)] at hresumed
            cases hlookup : changes.lookup (cp "STATE") with
            | none =>
                rw [hlookup] at hresumed
                exact .inl hresumed
            | some state =>
                rw [hlookup] at hresumed
                obtain rfl : state = lit "RESUMED" := hresumed
                exact .inr (hresume hlookup)
        · exact ⟨a, by rw [List.getElem?_set_ne hij, ha], .refl a, fun hresumed => .inl hresumed⟩
      · rw [List.getElem?_eq_none_iff] at hj
        rw [List.getElem?_eq_none_iff.2 (by simpa using hj)] at hb
        cases hb

/-- The positions of a list that grows by one element. -/
theorem of_getElem?_append {actions : List Action} {new a : Action} {i : ℕ}
    (h : (actions ++ [new])[i]? = some a) : actions[i]? = some a ∨ (i = actions.length ∧ a = new) := by
  rcases lt_trichotomy i actions.length with hlt | heq | hgt
  · rw [List.getElem?_append_left hlt] at h
    exact .inl h
  · subst heq
    rw [List.getElem?_concat_length] at h
    exact .inr ⟨rfl, (Option.some.inj h).symm⟩
  · rw [List.getElem?_eq_none_iff.2 (by simpa using Nat.succ_le_of_lt hgt)] at h
    cases h

/-- Equal values were equal before they were replaced. -/
theorem Same.eq_of_eq {v v' w w' : PyVal} (hv : Same v v') (hw : Same w w') (h : pyEq v' w' = true) :
    pyEq v w = true := by
  have hleft : pyEq v w' = true := by
    rcases hv with rfl | hv
    · exact h
    · exact pyEq_trans hv h
  rcases hw with rfl | hw
  · exact hleft
  · exact pyEq_trans hleft (pyEq_symm hw)

/-- An edit keeps a ledger sound. -/
theorem Sound.edited {actions actions' : List Action} (hsound : Sound actions)
    (h : Edited times actions actions') : Sound actions' := by
  cases h with
  | begun args hid hkey =>
      have hnewId : (newAction times args).get "ACTION_ID" = args.actionId := by
        simp [newAction, Action.get]
      have hnewKey : (newAction times args).get "IDEMPOTENCY_KEY" = args.idempotencyKey := by
        simp [newAction, Action.get]
      refine ⟨fun i j a b hij ha hb => ?_, fun i j a b hij ha hb hkeys => ?_⟩
      · rcases of_getElem?_append ha with ha | ⟨hi, rfl⟩
        · rcases of_getElem?_append hb with hb | ⟨hj, rfl⟩
          · exact hsound.unique i j a b hij ha hb
          · rw [hnewId]
            exact hid a (List.mem_of_getElem? ha)
        · rcases of_getElem?_append hb with hb | ⟨hj, rfl⟩
          · by_contra hsame
            have hold := hid b (List.mem_of_getElem? hb)
            rw [← hnewId, pyEq_symm (by simpa using hsame)] at hold
            cases hold
          · exact absurd (hi.trans hj.symm) hij
      · rcases of_getElem?_append ha with ha | ⟨hi, rfl⟩
        · rcases of_getElem?_append hb with hb | ⟨hj, rfl⟩
          · exact hsound.live i j a b hij ha hb hkeys
          · rw [hnewKey] at hkeys
            exact .inl (hkey a (List.mem_of_getElem? ha) hkeys)
        · rcases of_getElem?_append hb with hb | ⟨hj, rfl⟩
          · rw [hnewKey] at hkeys
            exact .inr (hkey b (List.mem_of_getElem? hb) (pyEq_symm hkeys))
          · exact absurd (hi.trans hj.symm) hij
  | updated k action changes hk hkept hlive hresume =>
      have hold : ∀ (i : ℕ) (b : Action), (actions.set k (updated times action changes))[i]? = some b →
          ∃ a, actions[i]? = some a ∧ Kept a b := by
        intro i b hb
        have hlt : i < actions.length := by simpa using (List.getElem?_eq_some_iff.1 hb).1
        obtain ⟨c, hc, hkept', -⟩ := (Edited.updated k action changes hk hkept hlive hresume).continues.each
          i _ (List.getElem?_eq_getElem hlt)
        obtain rfl := Option.some.inj (hc.symm.trans hb)
        exact ⟨_, List.getElem?_eq_getElem hlt, hkept'⟩
      have hfailed : ∀ {a b : Action}, Kept a b → a.get "STATE" = lit "FAILED" →
          b.get "STATE" = lit "FAILED" := by
        intro a b hab ha
        rw [hab.terminal (stateIn_iff.2 ⟨"FAILED", by decide, ha⟩)]
        exact ha
      refine ⟨fun i j a' b' hij ha' hb' => ?_, fun i j a' b' hij ha' hb' hkeys => ?_⟩
      · obtain ⟨a, ha, haa'⟩ := hold i a' ha'
        obtain ⟨b, hb, hbb'⟩ := hold j b' hb'
        by_contra hsame
        have hids := hsound.unique i j a b hij ha hb
        rw [(haa'.immutable "ACTION_ID" (by decide)).eq_of_eq (hbb'.immutable "ACTION_ID" (by decide))
          (by simpa using hsame)] at hids
        cases hids
      · obtain ⟨a, ha, haa'⟩ := hold i a' ha'
        obtain ⟨b, hb, hbb'⟩ := hold j b' hb'
        have hold := (haa'.immutable "IDEMPOTENCY_KEY" (by decide)).eq_of_eq
          (hbb'.immutable "IDEMPOTENCY_KEY" (by decide)) hkeys
        exact (hsound.live i j a b hij ha hb hold).imp (hfailed haa') (hfailed hbb')

/-! ### Runs -/

theorem Continues.refl (actions : List Action) : Continues actions actions where
  each _ a ha := ⟨a, ha, .refl a, fun h => .inl h⟩
  fresh _ b hi hb := by
    rw [hi] at hb
    cases hb

/-- Every call continues the actions of the file. -/
theorem continues_afterCall (times : Times) (operation : Operation) (file : Option PyVal) :
    Continues (actionsOf file) (actionsOf (afterCall times operation file)) := by
  rcases of_afterCall times operation file with hsame | hedited
  · rw [hsame]
    exact .refl _
  · exact hedited.continues

/-- A run keeps every action. -/
theorem kept_runCalls (file : Option PyVal) (calls : List (Times × Operation)) {i : ℕ} {a : Action}
    (ha : (actionsOf file)[i]? = some a) :
    ∃ b, (actionsOf (runCalls file calls))[i]? = some b ∧ Kept a b := by
  induction calls generalizing file a with
  | nil => exact ⟨a, ha, .refl a⟩
  | cons call calls ih =>
      obtain ⟨b, hb, hab, -⟩ := (continues_afterCall call.1 call.2 file).each i a ha
      obtain ⟨c, hc, hbc⟩ := ih (afterCall call.1 call.2 file) hb
      exact ⟨c, hc, hab.trans hbc⟩

/-- A run keeps a ledger sound. -/
theorem sound_runCalls (file : Option PyVal) (calls : List (Times × Operation))
    (h : Sound (actionsOf file)) : Sound (actionsOf (runCalls file calls)) := by
  induction calls generalizing file with
  | nil => exact h
  | cons call calls ih =>
      refine ih (afterCall call.1 call.2 file) ?_
      rcases of_afterCall call.1 call.2 file with hsame | hedited
      · rw [hsame]
        exact h
      · exact h.edited hedited

/-- **The action ledger under interleaving.**  Whatever calls several processes make on a ledger that has no
file at first, in every file the identifiers are unique and a key has one action that has not failed; every
call continues the actions, so that one is resumed only when it was interrupted or on hold; and later
files keep the immutable fields, and the actions that are done or have failed. -/
theorem sound_run (calls : List (Times × Operation)) : Sound (actionsOf (runCalls none calls)) ∧
    (∀ times operation, Continues (actionsOf (runCalls none calls))
      (actionsOf (afterCall times operation (runCalls none calls)))) ∧
    ∀ (more : List (Times × Operation)) (i : ℕ) (a : Action),
      (actionsOf (runCalls none calls))[i]? = some a →
        ∃ b, (actionsOf (runCalls none (calls ++ more)))[i]? = some b ∧ Kept a b := by
  refine ⟨sound_runCalls none calls ⟨?_, ?_⟩, fun times operation => continues_afterCall _ _ _, ?_⟩
  · rintro i j a b - ha
    cases ha
  · rintro i j a b - ha
    cases ha
  · intro more i a ha
    rw [runCalls, List.foldl_append]
    exact kept_runCalls _ more ha

set_option maxRecDepth 4000 in
example : (actionsOf (runCalls none [
    (⟨[], [], []⟩, .beginAction ⟨lit "A-1", .none, .none, .none, .none, .none, lit "key"⟩),
    (⟨[], [], []⟩, failAction (lit "A-1") (lit "lost") .none)])).map (Action.get · "STATE") =
      [lit "FAILED"] := by rfl

end ActionLedger
