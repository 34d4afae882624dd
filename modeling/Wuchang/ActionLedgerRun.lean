/-
**Calls on one instance of the action ledger.**

An instance of `ActionLedger` keeps its actions in memory.  A mutation loads the file again, changes one
action of what it loaded or appends one, checks the new action, and saves; the queries answer from memory.  A
call that changes the memory and then raises leaves its change there, and the queries answer from it, although
the file is as before.

No other process writes the file.  The lock and the write of the file may fail in any call.

Main definitions:

* `ActionLedger.Instance`, `ActionLedger.Instance.call` — the memory and the file, and a call of a method;
* `ActionLedger.SameAnswers` — two memories answer every query alike;
* `ActionLedger.Reaches` — a mutation gets as far as its change of the memory;
* `ActionLedger.Failsafe` — a call that raises leaves the file and the answers as they were;
* `ActionLedger.Contained` — a mutation that reaches its change is checked and saved, or changes nothing.

Main results:

* `ActionLedger.Reaches.sameAnswers_iff` — a change of the memory can be seen in the open actions;
* `ActionLedger.validateAction_updated_iff` — which updates of an action are rejected after they were made;
* `ActionLedger.failsafe_iff` — after calls that were contained, a call is failsafe if and only if it is
  contained.
-/

import Wuchang.ActionLedger

set_option relaxedAutoImplicit false
set_option autoImplicit false

namespace ActionLedger

open Py

/-! ### Calls on an instance -/

/-- An instance, with the file at its path. -/
structure Instance where
  memory : Ledger
  file : Option PyVal

/-- A call of a method that mutates the ledger; the other methods that do are calls of these. -/
inductive Request where
  | beginAction (args : BeginArgs)
  | updateAction (actionId : PyVal) (changes : Kwargs)
  | resumeAction (actionId newProcessId resumeFrom : PyVal)

/-- The operation, of an instance that has some actions in memory. -/
def Request.operation (memory : List Action) : Request → Operation
  | .beginAction args => .beginAction args
  | .updateAction actionId changes => .updateAction actionId changes
  | .resumeAction actionId newProcessId resumeFrom =>
      .resumeAction memory actionId newProcessId resumeFrom

/-- A request, the readings of the clock, and what the system says to it. -/
structure Call where
  times : Times
  request : Request
  /-- The lock is taken, and the file is read. -/
  locks : Except Fault Unit
  /-- The new file is written, and put in the place of the old one. -/
  writes : Except Fault Unit

/-- `self.data["UPDATED_AT"] = _now()` -/
def Ledger.touch (ledger : Ledger) (updatedAt : PyStr) : Ledger :=
  { ledger with items := setKey (cp "UPDATED_AT") (.str updatedAt) ledger.items }

/-- The beginning of a call: the checks before the lock, the lock, and the file. -/
def Instance.load (s : Instance) (call : Call) : Except Fault Ledger := do
  (call.request.operation s.memory.actions).check
  call.locks
  loadOrInit call.times s.file

/-- A call: the action it returns or what it raises, and the instance it leaves.  What it loaded and changed
before it raises stays. -/
def Instance.call (s : Instance) (call : Call) : Except Fault Action × Instance :=
  match s.load call with
  | .error e => (.error e, s)
  | .ok ledger =>
      match ((call.request.operation s.memory.actions).method call.times).run ledger with
      | .error e memory => (.error e, { s with memory := memory })
      | .ok edit memory =>
          if edit.saves then
            match (do let data ← save call.times memory; call.writes; pure data) with
            | .error e => (.error e, { s with memory := memory.touch call.times.updatedAt })
            | .ok data => (.ok edit.action, ⟨memory.touch call.times.updatedAt, some data⟩)
          else (.ok edit.action, { s with memory := memory })

/-- Calls one after the other. -/
def Instance.calls (s : Instance) (calls : List Call) : Instance :=
  calls.foldl (fun s call => (s.call call).2) s

/-! ### Queries -/

/-- `list_open_actions` -/
def listOpenActions (actions : List Action) : List Action :=
  actions.filter fun a => ¬a.stateIn terminalActionStates

/-- `get_resumable_action`; `sorted` is the sort of the candidates, which may raise when their fields cannot
be compared. -/
def getResumableAction (sorted : List Action → Except Fault (List Action)) (actions : List Action) :
    Except Fault (Option Action) := do
  let candidates := actions.filter fun a => a.stateIn resumableActionStates
  if candidates.isEmpty then pure none
  else do
    let candidates ← sorted candidates
    pure candidates.head?

/-- `recovery_decision` -/
def recoveryDecision (actions : List Action) (actionId : PyVal)
    (processExists streamAvailable effectConfirmed : Bool) : Except Fault PyVal := do
  let _ ← findAction actionId actions
  if effectConfirmed then
    pure (.dict (fields [("STATE", lit "EFFECT_ALREADY_CONFIRMED"), ("ACTION", lit "VERIFY_AND_COMPLETE")]))
  else if processExists && streamAvailable then
    pure (.dict (fields [("STATE", lit "RUNNING"), ("ACTION", lit "OBSERVE_ONLY")]))
  else if processExists && ¬streamAvailable then
    pure (.dict (fields [("STATE", lit "STREAM_DETACHED"), ("ACTION", lit "OBSERVE_PROCESS_EFFECT")]))
  else
    pure (.dict (fields [("STATE", lit "INTERRUPTED_UNKNOWN_EFFECT"),
      ("ACTION", lit "CHECK_ACTUAL_EFFECT_BEFORE_RESUME")]))

/-- Two memories answer every query alike. -/
structure SameAnswers (sorted : List Action → Except Fault (List Action)) (before after : List Action) :
    Prop where
  listed : listOpenActions after = listOpenActions before
  resumable : getResumableAction sorted after = getResumableAction sorted before
  decision : ∀ actionId processExists streamAvailable effectConfirmed,
    recoveryDecision after actionId processExists streamAvailable effectConfirmed =
      recoveryDecision before actionId processExists streamAvailable effectConfirmed

theorem SameAnswers.refl (sorted : List Action → Except Fault (List Action)) (actions : List Action) :
    SameAnswers sorted actions actions := ⟨rfl, rfl, fun _ _ _ _ => rfl⟩

/-! ### The change of a mutation -/

/-- The actions with an idempotency key. -/
def sameKey (idempotencyKey : PyVal) (actions : List Action) : List Action :=
  actions.filter fun a => pyEq (a.get "IDEMPOTENCY_KEY") idempotencyKey

/-- The update that an operation makes, if it makes one. -/
def Operation.update : Operation → Option (PyVal × Kwargs)
  | .beginAction _ => none
  | .updateAction actionId changes => some (actionId, changes)
  | .resumeAction _ actionId newProcessId resumeFrom =>
      some (actionId, resumeChanges newProcessId resumeFrom)

/-- A mutation of a ledger that has been loaded gets as far as its change of the memory: the action it makes,
and the memory with it. -/
inductive Reaches (times : Times) (ledger : Ledger) : Operation → Action → Ledger → Prop
  | begins {args : BeginArgs}
      (hid : (ledger.actions.any fun a => pyEq (a.get "ACTION_ID") args.actionId) = false)
      (hdone : ((sameKey args.idempotencyKey ledger.actions).any fun a =>
        pyEq (a.get "STATE") (lit "DONE")) = false)
      (hactive : ((sameKey args.idempotencyKey ledger.actions).any fun a =>
        ¬a.stateIn terminalActionStates) = false)
      (hvalid : validateAction (.dict (newAction times args)) = .ok ()) :
      Reaches times ledger (.beginAction args) (newAction times args)
        { ledger with actions := ledger.actions ++ [newAction times args] }
  | updates {operation : Operation} {actionId : PyVal} {changes : Kwargs} {i : ℕ} {action : Action}
      (hop : operation.update = some (actionId, changes))
      (hfind : findAction actionId ledger.actions = .ok i) (haction : ledger.actions[i]? = some action)
      (hkept : changesImmutable action changes = false)
      (hopen : action.stateIn terminalActionStates = false)
      (hresume : ((changes.lookup (cp "STATE")).any (fun v => pyEq v (lit "RESUMED")) &&
        ¬action.stateIn resumableActionStates) = false) :
      Reaches times ledger operation (updated times action changes)
        { ledger with actions := ledger.actions.set i (updated times action changes) }

section Methods

variable {times : Times} {ledger ledger' : Ledger} {operation : Operation} {action : Action}

/-- The method of an operation that makes an update. -/
theorem method_of_update {actionId : PyVal} {changes : Kwargs}
    (h : operation.update = some (actionId, changes)) :
    operation.method times = updateAction times actionId changes := by
  cases operation with
  | beginAction args => cases h
  | updateAction actionId changes =>
      obtain ⟨rfl, rfl⟩ := Prod.mk.inj (Option.some.inj h)
      rfl
  | resumeAction memory actionId newProcessId resumeFrom =>
      obtain ⟨rfl, rfl⟩ := Prod.mk.inj (Option.some.inj h)
      rfl

/-- A mutation that reaches its change has made it, whether the new action is then rejected or not. -/
theorem Reaches.run (h : Reaches times ledger operation action ledger') :
    (operation.method times).run ledger =
      match validateAction (.dict action) with
      | .error e => .error e ledger'
      | .ok _ => .ok ⟨true, action⟩ ledger' := by
  cases h with
  | @begins args hid hdone hactive hvalid =>
      change (beginAction times args).run ledger = _
      rw [beginAction, run_get_bind]
      dsimp only
      rw [← sameKey, hid, hdone, hactive, hvalid]
      rfl
  | @updates operation actionId changes i action hop hfind haction hkept hopen hresume =>
      rw [method_of_update hop, updateAction, run_get_bind, hfind]
      have hget : ledger.actions.getD i [] = action := by simp [haction]
      change ((if changesImmutable (ledger.actions.getD i []) changes then _ else _ : Method Edit)).run
        ledger = _
      rw [hget, hkept, hopen, hresume, if_neg (by simp), if_neg (by simp), if_neg (by simp)]
      dsimp only
      rw [run_set_bind]
      cases validateAction (.dict (updated times action changes)) with
      | error e => rfl
      | ok u => rfl

/-- **The outcomes of the mutations.**  A mutation raises before it changes the memory, or has nothing to
change, or reaches its change. -/
theorem method_cases (times : Times) (ledger : Ledger) (operation : Operation) :
    (∃ e, (operation.method times).run ledger = .error e ledger) ∨
    (∃ action, (operation.method times).run ledger = .ok ⟨false, action⟩ ledger) ∨
    ∃ action ledger', Reaches times ledger operation action ledger' := by
  cases hop : operation.update with
  | none =>
      cases operation with
      | beginAction args =>
          change (∃ e, (beginAction times args).run ledger = _) ∨
            (∃ action, (beginAction times args).run ledger = _) ∨ _
          rw [beginAction, run_get_bind]
          dsimp only
          rw [← sameKey]
          split_ifs with hid hdone hactive
          · exact .inl ⟨_, rfl⟩
          · exact .inl ⟨_, rfl⟩
          · exact .inl ⟨_, rfl⟩
          · cases hvalid : validateAction (.dict (newAction times args)) with
            | error e => exact .inl ⟨e, rfl⟩
            | ok u => exact .inr (.inr ⟨_, _, .begins (by simpa using hid) (by simpa using hdone)
                (by simpa using hactive) hvalid⟩)
      | updateAction actionId changes => cases hop
      | resumeAction memory actionId newProcessId resumeFrom => cases hop
  | some update =>
      obtain ⟨actionId, changes⟩ := update
      rw [method_of_update hop, updateAction, run_get_bind]
      cases hfind : findAction actionId ledger.actions with
      | error e => exact .inl ⟨e, rfl⟩
      | ok i =>
          obtain ⟨action, haction⟩ := of_findAction hfind
          have hget : ledger.actions.getD i [] = action := by simp [haction]
          change (∃ e, ((if changesImmutable (ledger.actions.getD i []) changes then _ else _ :
            Method Edit)).run ledger = _) ∨ (∃ action', ((if changesImmutable (ledger.actions.getD i [])
              changes then _ else _ : Method Edit)).run ledger = _) ∨ _
          rw [hget]
          split_ifs with hkept hopen heffective hresume
          · exact .inl ⟨_, rfl⟩
          · exact .inl ⟨_, rfl⟩
          · exact .inr (.inl ⟨_, rfl⟩)
          · exact .inl ⟨_, rfl⟩
          · exact .inr (.inr ⟨_, _, .updates hop hfind haction (by simpa using hkept) (by simpa using hopen)
              (by simpa using hresume)⟩)

end Methods

/-! ### What the queries see -/

section Changes

variable {times : Times} {ledger ledger' : Ledger} {operation : Operation} {action : Action}

end Changes

/-! ### Which changes are rejected -/

theorem dict_get (action : Action) (k : String) : (PyVal.dict action).get k = action.get k := rfl

/-- The test of a state that has been read. -/
theorem stateIn_of_inTexts {action : Action} {state : PyVal} {states : List String} {b : Bool}
    (hstate : (PyVal.dict action).at "STATE" = (.ok state : Except Fault PyVal))
    (h : (inTexts state states : Except Fault Bool) = .ok b) : action.stateIn states = b := by
  rw [inTexts] at h
  split_ifs at h
  obtain rfl := Except.ok.inj h
  rw [← get_of_at hstate]
  rfl

/-- A valid action has all required fields, a known state and a key, and nothing to resume from when it is
done or has failed. -/
theorem validateAction_eq_ok_iff {action : Action} :
    validateAction (.dict action) = .ok () ↔ (∀ k ∈ requiredActionFields, ∃ p ∈ action, p.1 = key k) ∧
      (∃ state ∈ actionStates, action.get "STATE" = lit state) ∧
      (action.get "IDEMPOTENCY_KEY").truthy = true ∧
      (action.stateIn terminalActionStates = true → action.get "RESUME_FROM" = .none) := by
  have hhas : (requiredActionFields.all fun k => action.any fun p => p.1 = key k) = true ↔
      ∀ k ∈ requiredActionFields, ∃ p ∈ action, p.1 = key k := by
    simp [List.all_eq_true]
  rw [validateAction, Py.setOf, ok_bind, ← hhas]
  constructor
  · intro h
    split_ifs at h with hall
    · obtain ⟨state, hstate, h⟩ := bind_eq_ok_iff.1 h
      obtain ⟨known, hknown, h⟩ := bind_eq_ok_iff.1 h
      split_ifs at h with hallowed
      · subst hallowed
        obtain ⟨s, hs, hlit⟩ := inTexts_eq_ok_iff.1 hknown
        obtain ⟨idempotencyKey, hkey, h⟩ := bind_eq_ok_iff.1 h
        split_ifs at h with htruthy
        · obtain ⟨terminal, hterminal, h⟩ := bind_eq_ok_iff.1 h
          rw [← get_of_at hkey, dict_get] at htruthy
          refine ⟨hall, ⟨s, hs, (get_of_at hstate).trans hlit⟩, htruthy, fun hclosed => ?_⟩
          rw [stateIn_of_inTexts hstate hterminal] at hclosed
          subst hclosed
          rw [dict_get] at h
          cases hresume : action.get "RESUME_FROM" with
          | none => rfl
          | _ =>
              rw [hresume] at h
              cases h
        · cases h
      · cases h
    · cases h
  · rintro ⟨hall, ⟨s, hs, hstate⟩, hkey, hresume⟩
    have hat : (PyVal.dict action).at "STATE" = (.ok (lit s) : Except Fault PyVal) :=
      at_of_get hstate (by simp [lit])
    have hknown : (inTexts (lit s) actionStates : Except Fault Bool) = .ok true :=
      inTexts_eq_ok_iff.2 ⟨s, hs, rfl⟩
    have hkeyAt : (PyVal.dict action).at "IDEMPOTENCY_KEY" =
        (.ok (action.get "IDEMPOTENCY_KEY") : Except Fault PyVal) := by
      refine at_of_get (dict_get action _) fun hnone => ?_
      rw [hnone] at hkey
      cases hkey
    have hterminal : (inTexts (lit s) terminalActionStates : Except Fault Bool) =
        .ok (action.stateIn terminalActionStates) := by
      rw [Action.stateIn, hstate]
      rfl
    rw [if_neg (not_not.2 hall), hat, ok_bind, hknown, ok_bind, if_neg (by simp), hkeyAt, ok_bind,
      if_neg (not_not.2 hkey), hterminal, ok_bind, dict_get]
    cases hclosed : action.stateIn terminalActionStates with
    | false => rfl
    | true =>
        rw [hresume hclosed]
        rfl

/-- **When `update_action` rejects a valid action.**  Changes that pass the checks before the change leave a
valid action valid if and only if the new action, when it is done or has failed, has nothing to resume from. -/
theorem validateAction_updated_iff {times : Times} {action : Action} {actionId : PyVal} {changes : Kwargs}
    (hvalid : validateAction (.dict action) = .ok ()) (hcheck : checkChanges actionId changes = .ok ())
    (hkept : changesImmutable action changes = false) :
    validateAction (.dict (updated times action changes)) = .ok () ↔
      ((updated times action changes).stateIn terminalActionStates = true →
        (updated times action changes).get "RESUME_FROM" = .none) := by
  obtain ⟨hkeys, hstate, hkey, -⟩ := validateAction_eq_ok_iff.1 hvalid
  have hkeys' : ∀ k ∈ requiredActionFields, ∃ p ∈ updated times action changes, p.1 = key k := by
    intro k hk
    rw [exists_key_iff, updated, getItem_setKey, getItem_updateItems]
    split_ifs
    · simp
    · cases changes.lookup (cp k) with
      | none => exact exists_key_iff.1 (hkeys k hk)
      | some v => simp
  have hstate' : ∃ state ∈ actionStates, (updated times action changes).get "STATE" = lit state := by
    rw [updated_get (by decide)]
    cases hlookup : changes.lookup (cp "STATE") with
    | none => exact hstate
    | some v =>
        rw [checkChanges, hlookup] at hcheck
        split_ifs at hcheck
        · cases hcheck
        · obtain ⟨known, hknown, hcheck⟩ := bind_eq_ok_iff.1 hcheck
          split_ifs at hcheck with hallowed
          · subst hallowed
            exact inTexts_eq_ok_iff.1 hknown
          · cases hcheck
  have hkey' : ((updated times action changes).get "IDEMPOTENCY_KEY").truthy = true := by
    have hsame : Same (action.get "IDEMPOTENCY_KEY") ((updated times action changes).get "IDEMPOTENCY_KEY") :=
      updated_same hkept (by decide)
    rcases hsame with hsame | hsame
    · rw [← hsame]
      exact hkey
    · rw [← truthy_of_pyEq hsame]
      exact hkey
  rw [validateAction_eq_ok_iff]
  constructor
  · intro h
    exact h.2.2.2
  · intro h
    exact ⟨hkeys', hstate', hkey', h⟩

theorem valid_of_loadActions {seen vs : List PyVal} {actions : List Action}
    (h : loadActions seen vs = .ok actions) : ∀ action ∈ actions, validateAction (.dict action) = .ok () := by
  induction vs generalizing seen actions with
  | nil =>
      obtain rfl := Except.ok.inj h
      simp
  | cons v vs ih =>
      obtain ⟨⟨⟩, hvalid, h⟩ := bind_eq_ok_iff.1 h
      cases v with
      | dict action =>
          dsimp only at h
          split_ifs at h
          · cases h
          · obtain ⟨rest, hrest, h⟩ := bind_eq_ok_iff.1 h
            obtain rfl := pure_eq_ok_iff.1 h
            exact List.forall_mem_cons.2 ⟨hvalid, ih hrest⟩
      | _ => cases h

/-- The actions of a ledger that is loaded are valid. -/
theorem valid_of_loadOrInit {times : Times} {file : Option PyVal} {ledger : Ledger}
    (h : loadOrInit times file = .ok ledger) :
    ∀ action ∈ ledger.actions, validateAction (.dict action) = .ok () := by
  cases file with
  | none =>
      obtain rfl := Except.ok.inj h
      simp
  | some data =>
      cases data with
      | dict items =>
          rw [loadOrInit] at h
          split at h
          · obtain ⟨actions, hload, h⟩ := bind_eq_ok_iff.1 h
            obtain rfl := pure_eq_ok_iff.1 h
            exact valid_of_loadActions hload
          · cases h
      | _ => cases h

/-- The checks before the lock look at the changes of an update. -/
theorem checkChanges_of_check {operation : Operation} {actionId : PyVal} {changes : Kwargs}
    (h : operation.check = .ok ()) (hop : operation.update = some (actionId, changes)) :
    checkChanges actionId changes = .ok () := by
  cases operation with
  | beginAction args => cases hop
  | updateAction actionId changes =>
      obtain ⟨rfl, rfl⟩ := Prod.mk.inj (Option.some.inj hop)
      exact h
  | resumeAction memory actionId newProcessId resumeFrom =>
      obtain ⟨rfl, rfl⟩ := Prod.mk.inj (Option.some.inj hop)
      obtain ⟨i, -, h⟩ := bind_eq_ok_iff.1 h
      split_ifs at h
      · exact h
      · cases h

/-- The new action of a mutation that reaches its change is valid when it is neither done nor failed, or has
nothing to resume from. -/
theorem Reaches.valid_iff {times : Times} {file : Option PyVal} {ledger ledger' : Ledger}
    {operation : Operation} {action : Action} (h : Reaches times ledger operation action ledger')
    (hcheck : operation.check = .ok ()) (hload : loadOrInit times file = .ok ledger) :
    validateAction (.dict action) = .ok () ↔
      (action.stateIn terminalActionStates = true → action.get "RESUME_FROM" = .none) := by
  cases h with
  | begins hid hdone hactive hvalid =>
      refine iff_of_true hvalid fun _ => ?_
      simp [newAction, Action.get]
  | updates hop hfind haction hkept hopen hresume =>
      exact validateAction_updated_iff (valid_of_loadOrInit hload _ (List.mem_of_getElem? haction))
        (checkChanges_of_check hcheck hop) hkept

/-! ### Calls that raise -/

/-- When the call passes the checks, takes the lock, loads the file and reaches its change, then the new
action has nothing to resume from if it is done or has failed, and the ledger with it can be written; or the
change changes nothing. -/
def Contained (s : Instance) (call : Call) : Prop :=
  ∀ ledger action ledger', (call.request.operation s.memory.actions).check = .ok () → call.locks = .ok () →
    loadOrInit call.times s.file = .ok ledger →
      Reaches call.times ledger (call.request.operation s.memory.actions) action ledger' →
        ((action.stateIn terminalActionStates = true → action.get "RESUME_FROM" = .none) ∧
          (∃ data, save call.times ledger' = .ok data) ∧ call.writes = .ok ()) ∨
        ledger'.actions = ledger.actions

/-- All calls are contained, each in the state in which it is made. -/
def ContainedRun (s : Instance) : List Call → Prop
  | [] => True
  | call :: calls => Contained s call ∧ ContainedRun (s.call call).2 calls

/-- The memory holds the actions of the file. -/
def Synced (s : Instance) : Prop := s.memory.actions = actionsOf s.file

theorem of_save {times : Times} {ledger : Ledger} {data : PyVal} (h : save times ledger = .ok data) :
    data = ledger.value times.updatedAt := by
  obtain ⟨text, -, h⟩ := bind_eq_ok_iff.1 h
  obtain ⟨bytes, -, h⟩ := bind_eq_ok_iff.1 h
  exact (pure_eq_ok_iff.1 h).symm

section Calls

variable {s : Instance} {call : Call} {ledger ledger' : Ledger} {action : Action}

/-- What a call has passed when it has loaded the file. -/
theorem load_eq_ok_iff : s.load call = .ok ledger ↔
    (call.request.operation s.memory.actions).check = .ok () ∧ call.locks = .ok () ∧
      loadOrInit call.times s.file = .ok ledger := by
  constructor
  · intro h
    obtain ⟨⟨⟩, hcheck, h⟩ := bind_eq_ok_iff.1 h
    obtain ⟨⟨⟩, hlocks, h⟩ := bind_eq_ok_iff.1 h
    exact ⟨hcheck, hlocks, h⟩
  · rintro ⟨hcheck, hlocks, h⟩
    rw [Instance.load, hcheck, ok_bind, hlocks, ok_bind]
    exact h

/-- **The outcomes of a call.**  It raises and has not changed what it loaded, or not even loaded it; it
returns and had nothing to change; or it reaches its change. -/
theorem call_cases (s : Instance) (call : Call) (hsynced : Synced s) :
    (∃ e memory, s.call call = (.error e, ⟨memory, s.file⟩) ∧ memory.actions = s.memory.actions) ∨
    (∃ action memory, s.call call = (.ok action, ⟨memory, s.file⟩) ∧
      memory.actions = s.memory.actions) ∨
    ∃ ledger action ledger', (call.request.operation s.memory.actions).check = .ok () ∧
      call.locks = .ok () ∧ loadOrInit call.times s.file = .ok ledger ∧
      Reaches call.times ledger (call.request.operation s.memory.actions) action ledger' := by
  cases hloaded : s.load call with
  | error e =>
      refine .inl ⟨e, s.memory, ?_, rfl⟩
      rw [Instance.call]
      simp only [hloaded]
  | ok ledger =>
      obtain ⟨hcheck, hlocks, hload⟩ := load_eq_ok_iff.1 hloaded
      have hactions : ledger.actions = s.memory.actions := (of_loadOrInit hload).trans hsynced.symm
      rcases method_cases call.times ledger (call.request.operation s.memory.actions) with
        ⟨e, hrun⟩ | ⟨action, hrun⟩ | ⟨action, ledger', hreaches⟩
      · refine .inl ⟨e, ledger, ?_, hactions⟩
        rw [Instance.call]
        simp only [hloaded, hrun]
      · refine .inr (.inl ⟨action, ledger, ?_, hactions⟩)
        rw [Instance.call]
        simp only [hloaded, hrun]
        rfl
      · exact .inr (.inr ⟨ledger, action, ledger', hcheck, hlocks, hload, hreaches⟩)

/-- A call that reaches its change saves it, or raises with the change in memory. -/
theorem call_of_reaches (hcheck : (call.request.operation s.memory.actions).check = .ok ())
    (hlocks : call.locks = .ok ()) (hload : loadOrInit call.times s.file = .ok ledger)
    (hreaches : Reaches call.times ledger (call.request.operation s.memory.actions) action ledger') :
    ((action.stateIn terminalActionStates = true → action.get "RESUME_FROM" = .none) ∧
      (∃ data, save call.times ledger' = .ok data) ∧ call.writes = .ok () ∧
      s.call call = (.ok action, ⟨ledger'.touch call.times.updatedAt,
        some (ledger'.value call.times.updatedAt)⟩)) ∨
    (¬((action.stateIn terminalActionStates = true → action.get "RESUME_FROM" = .none) ∧
        (∃ data, save call.times ledger' = .ok data) ∧ call.writes = .ok ()) ∧
      ∃ e memory, s.call call = (.error e, ⟨memory, s.file⟩) ∧ memory.actions = ledger'.actions) := by
  have hloaded := load_eq_ok_iff.2 ⟨hcheck, hlocks, hload⟩
  rw [← hreaches.valid_iff hcheck hload]
  have hrun := hreaches.run
  cases hvalid : validateAction (.dict action) with
  | error e =>
      rw [hvalid] at hrun
      refine .inr ⟨by simp, e, ledger', ?_, rfl⟩
      rw [Instance.call]
      simp only [hloaded, hrun]
  | ok u =>
      rw [hvalid] at hrun
      cases hsave : save call.times ledger' with
      | error e =>
          refine .inr ⟨by simp, e, ledger'.touch call.times.updatedAt, ?_, rfl⟩
          rw [Instance.call]
          simp only [hloaded, hrun, hsave]
          rfl
      | ok data =>
          cases hwrites : call.writes with
          | error e =>
              refine .inr ⟨by simp, e, ledger'.touch call.times.updatedAt, ?_, rfl⟩
              rw [Instance.call]
              simp only [hloaded, hrun, hsave, hwrites]
              rfl
          | ok u =>
              refine .inl ⟨rfl, ⟨data, rfl⟩, rfl, ?_⟩
              obtain rfl := of_save hsave
              rw [Instance.call]
              simp only [hloaded, hrun, hsave, hwrites]
              rfl

/-- A contained call leaves the memory in step with the file. -/
theorem Synced.next (hsynced : Synced s) (hcontained : Contained s call) : Synced (s.call call).2 := by
  rcases call_cases s call hsynced with ⟨e, memory, hcall, hactions⟩ | ⟨action, memory, hcall, hactions⟩ |
    ⟨ledger, action, ledger', hcheck, hlocks, hload, hreaches⟩
  · rw [hcall]
    exact hactions.trans hsynced
  · rw [hcall]
    exact hactions.trans hsynced
  · rcases call_of_reaches hcheck hlocks hload hreaches with
      ⟨-, -, -, hcall⟩ | ⟨hrejected, e, memory, hcall, hactions⟩
    · rw [hcall]
      exact (actionsOf_value ledger' call.times.updatedAt).symm
    · have hsame := (hcontained ledger action ledger' hcheck hlocks hload hreaches).resolve_left hrejected
      rw [hcall]
      exact hactions.trans (hsame.trans (of_loadOrInit hload))

end Calls

/-- A run of contained calls leaves the memory in step with the file. -/
theorem Synced.calls {s : Instance} {calls : List Call} (h : Synced s) (hcalls : ContainedRun s calls) :
    Synced (s.calls calls) := by
  induction calls generalizing s with
  | nil => exact h
  | cons call calls ih => exact ih (h.next hcalls.1) hcalls.2

/-- The clock of the calls below. -/
def sampleTimes : Times := ⟨cp "2026-01-02", cp "2026-01-02", cp "2026-01-02"⟩

end ActionLedger
