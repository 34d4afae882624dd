/-
**Route selection: the verified authorization of a path for one intent.**

`route_selector.py` takes the path the policy selected, looks up the verification that was made for its
identifier, and authorizes it when all nine gates hold.  What it reports, the type, the interface and
the target, are those of the first row that has this identifier.  Two rows can share an identifier, and
the first of them need not be the one that was selected.

Main definitions:

* `AdaptiveNetwork.normalizeGates`, `AdaptiveNetwork.verificationForPath` — the gates of a path;
* `AdaptiveNetwork.selectRoute` — the selection;
* `AdaptiveNetwork.Backed` — a fit row with verified gates has the reported type, interface and target;
* `AdaptiveNetwork.Shadowed` — a row that is not fit stands in front of the preferred one.

Main results:

* `AdaptiveNetwork.backed_iff_not_shadowed` — an authorized route is backed unless it is shadowed.
-/

import Wuchang.RoutePolicy
import Wuchang.PyJson
import Wuchang.Sha256

set_option relaxedAutoImplicit false
set_option autoImplicit false

namespace AdaptiveNetwork

open Py

/-! ### Times -/

/-- `raise ValueError` -/
def valueError {α : Type} : Except Fault α := .error (.builtin .valueError)

/-- `_coerce_time`, which lets the `ValueError` of `fromisoformat` through. -/
def coerceTime (lib : Library) : TimeValue → Except Fault (Option Time)
  | .datetime t => .ok (some t)
  | .value (.str s) =>
      match lib.fromIsoFormat (replaceZ s) with
      | none => valueError
      | some t => t.map some
  | .value _ => .ok none

/-- `_format_time` -/
def formatTime (lib : Library) (t : Time) : PyStr := lib.isoFormat t ++ cp "Z"

/-- `t + timedelta(seconds=seconds)`, between the years 1 and 9999. -/
def addSeconds (t : Time) (seconds : ℤ) : Except Fault Time :=
  let sum := t + seconds * 1000000
  if -62135596800000000 ≤ sum ∧ sum < 253402300800000000 then .ok sum
  else .error (.own .overflowError)

/-- `observed_at or _format_time(_coerce_time(now) or datetime.now(timezone.utc))` -/
def timestampOf (lib : Library) (observedAt : Option PyStr) (now : TimeValue) (clock : Time) :
    Except Fault PyStr :=
  match observedAt with
  | some (c :: cs) => .ok (c :: cs)
  | _ => do
      let current ← coerceTime lib now
      pure (formatTime lib (current.getD clock))

/-- The time of a timestamp. -/
def observedTimeOf (lib : Library) (timestamp : PyStr) : Except Fault Time := do
  let observedTime ← coerceTime lib (.value (.str timestamp))
  match observedTime with
  | none => .error (.own (.refused "invalid_observed_at"))
  | some t => pure t

/-! ### Gates -/

/-- `D8_TWO_PHASE_GATES` -/
def d8TwoPhaseGates : List String := ["SOURCE_BOUND", "SOURCE_ZONE_BOUND", "INTERFACE_BOUND",
  "ROUTE_BOUND", "TARGET_BOUND", "TARGET_ZONE_BOUND", "SERVICE_PASS", "APPLICATION_PASS",
  "RESPONSE_VERIFIED"]

/-- `_LEGACY_GATE_NAMES` -/
def legacyGateNames : List (String × String) := [("SOURCE_BOUND", "source"),
  ("INTERFACE_BOUND", "interface"), ("ROUTE_BOUND", "route"), ("TARGET_BOUND", "target"),
  ("SERVICE_PASS", "service"), ("APPLICATION_PASS", "application"), ("RESPONSE_VERIFIED", "response")]

/-- `gate.lower()` -/
def lower (gate : String) : PyStr := (cp gate).map fun c => if 65 ≤ c ∧ c ≤ 90 then c + 32 else c

/-- The value `_normalize_gates` finds for a gate: under its name, in lower case, or under its old
name. -/
def gateValue (verification : Items) (gate : String) : PyVal :=
  let old := (legacyGateNames.lookup gate).bind fun legacy => getItem verification (cp legacy)
  (((getItem verification (cp gate)).or (getItem verification (lower gate))).or old).getD (.bool false)

/-- `_normalize_gates` -/
def normalizeGates (verification : Items) : List (String × Bool) :=
  d8TwoPhaseGates.map fun gate => (gate, (gateValue verification gate).truthy)

/-- `_verification_for_path` -/
def verificationForPath (verification : Items) (pathId : Option PyStr) : Items :=
  match pathId with
  | some (c :: cs) =>
      match getItem verification (c :: cs) with
      | some (.dict items) => items
      | _ => verification
  | _ => verification

/-- `all(gates.values())`, for the verification of a path -/
def GatesHold (verification : Items) (pathId : Option PyStr) : Prop :=
  ∀ gate ∈ normalizeGates (verificationForPath verification pathId), gate.2 = true

instance decidableGatesHold (verification : Items) (pathId : Option PyStr) :
    Decidable (GatesHold verification pathId) := inferInstanceAs (Decidable (∀ gate ∈ _, _))

/-! ### The decision -/

/-- A dictionary, its items in any order. -/
def document (l : List (PyStr × PyVal)) : PyVal :=
  .dict (l.foldl (fun items p => setKey p.1 p.2 items) [])

/-- The keys of the intent that go into the identifier of the decision. -/
def intentKeys (intent : Intent) : PyVal :=
  document [(cp "intent_id", orNone intent.intentId), (cp "source_node", orNone intent.sourceNode),
    (cp "source_zone", orNone intent.sourceZone), (cp "target_node", orNone intent.targetNode),
    (cp "target_zone", orNone intent.targetZone),
    (cp "service_identity", orNone intent.serviceIdentity),
    (cp "service_class", orNone intent.serviceClass),
    (cp "published_gateway_bound", orNone intent.publishedGatewayBound)]

/-- `_decision_id` -/
def decisionId (intent : Intent) (policy : Policy) (gates : List (String × Bool))
    (policyVersion : PyStr) : Except Fault PyStr :=
  let payload := document [(cp "intent", intentKeys intent),
    (cp "selected_path", (policy.selectedPath.map PyVal.str).getD .none),
    (cp "alternate_paths", .list (policy.alternatePaths.map PyVal.str)),
    (cp "concurrent_paths", .list (policy.concurrentPaths.map PyVal.str)),
    (cp "gates", document (gates.map fun gate => (cp gate.1, .bool gate.2))),
    (cp "policy_version", .str policyVersion)]
  PyJson.dumps PyJson.compact payload >>= encodeUtf8 >>= fun encoded =>
    pure (cp "sha256:" ++ Sha256.hexdigest encoded)

/-- `_selected_path_expiry` -/
def selectedPathExpiry (lib : Library) (selectedId : Option PyStr) :
    List PathRow → Except Fault (Option Time)
  | [] => .ok none
  | path :: paths =>
      let pathType := lib.str path.type
      let target := orElse path.target path.interface
      let identifiers := [lib.str (orElse path.pathId (.str pathType)), pathType] ++
        if target.truthy then [pathType ++ cp "@" ++ lib.str target] else []
      match selectedId with
      | some (c :: cs) =>
          if (c :: cs) ∈ identifiers then coerceTime lib path.expiresAt
          else selectedPathExpiry lib selectedId paths
      | _ => .ok none

/-- The dictionary `select_route` returns; `policy` are the keys it takes over. -/
structure RouteDecision where
  policy : Policy
  decision : String
  authorized : Bool
  d8TwoPhaseGates : List (String × Bool)
  intentId : PyVal
  sourceNode : PyVal
  sourceZone : PyVal
  targetNode : PyVal
  targetZone : PyVal
  serviceIdentity : PyVal
  serviceClass : PyVal
  publishedGatewayBound : Bool
  intent : Intent
  activePathSet : List PyStr
  decisionState : String
  bindingState : String
  decisionId : PyStr
  observedAt : PyStr
  expiresAt : PyStr
  ttlSeconds : ℤ
  policyVersion : PyStr

/-- `intent.get(k, "LOCALIZED_UNKNOWN")` -/
def orUnknown (v : Option PyVal) : PyVal := v.getD (lit "LOCALIZED_UNKNOWN")

/-- The earlier of the expiry of the decision and that of the path. -/
def earlier (decisionExpiry : Time) (selectedExpiry : Option Time) : Time :=
  match selectedExpiry with
  | some expiry => if expiry < decisionExpiry then expiry else decisionExpiry
  | none => decisionExpiry

/-- The paths that are active: the selected one when it is authorized, and those that may be used at
the same time and whose gates hold. -/
def activePaths (verification : Items) (policy : Policy) (authorized : Bool) : List PyStr :=
  (match policy.selectedPath with
    | some (c :: cs) => if authorized then [c :: cs] else []
    | _ => []) ++
  policy.concurrentPaths.filter fun pathId =>
    some pathId ≠ policy.selectedPath ∧ GatesHold verification (some pathId)

/-- `select_route`; after the rows, the clock is read for the timestamp. -/
def selectRoute (lib : Library) (intent : Intent) (paths : List PathRow) (verification : Items)
    (observedAt : Option PyStr) (ttlSeconds : ℤ) (policyVersion : PyStr) (now : TimeValue)
    (clock : ℕ → Time) : Except Fault RouteDecision := do
  let policy ← evaluatePolicy lib intent paths now clock
  let gates := normalizeGates (verificationForPath verification policy.selectedPath)
  let candidateSelected := policy.candidateDecision = "CANDIDATE_PATH_SELECTED"
  let authorized : Bool := candidateSelected ∧ gates.all Prod.snd
  let timestamp ← timestampOf lib observedAt now (clock paths.length)
  let observedTime ← observedTimeOf lib timestamp
  let decisionExpiry ← addSeconds observedTime (max 1 ttlSeconds)
  let selectedExpiry ← selectedPathExpiry lib policy.selectedPath paths
  let identifier ← decisionId intent policy gates policyVersion
  pure {
    policy := policy
    decision := if authorized then "D8_ALLOW_FOR_THIS_INTENT" else "HOLD"
    authorized := authorized
    d8TwoPhaseGates := gates
    intentId := orUnknown intent.intentId
    sourceNode := orUnknown intent.sourceNode
    sourceZone := orUnknown intent.sourceZone
    targetNode := orUnknown intent.targetNode
    targetZone := orUnknown intent.targetZone
    serviceIdentity := orUnknown intent.serviceIdentity
    serviceClass := orUnknown intent.serviceClass
    publishedGatewayBound := (orNone intent.publishedGatewayBound).truthy
    intent := intent
    activePathSet := sortedSet (activePaths verification policy authorized)
    decisionState :=
      if authorized then "VERIFIED_CANDIDATE"
      else if candidateSelected then "CANDIDATE_PATH_SELECTED_AWAITING_D8_CLOSURE"
      else policy.candidateDecision
    bindingState := if authorized then "HEALTHY" else "HOLD"
    decisionId := identifier
    observedAt := timestamp
    expiresAt := formatTime lib (earlier decisionExpiry selectedExpiry)
    ttlSeconds := max 1 ttlSeconds
    policyVersion := policyVersion }

/-! ### What an authorization is about -/

section Authorization

variable (lib : Library) (intent : Intent) (paths : List PathRow) (verification : Items)
  (now : TimeValue) (clock : ℕ → Time)

variable {lib intent paths verification now clock}

/-- A dictionary of plain values is plain. -/
theorem plain_document {P : PyStr → Prop} {l : List (PyStr × PyVal)}
    (h : ∀ p ∈ l, P p.1 ∧ PyJson.Plain P p.2) : PyJson.Plain P (document l) := by
  have hfold : ∀ items, PyJson.Plain P (.dict items) →
      PyJson.Plain P (.dict (l.foldl (fun items p => setKey p.1 p.2 items) items)) := by
    induction l with
    | nil => exact fun items hitems => hitems
    | cons p l ih =>
        intro items hitems
        obtain ⟨hkey, hvalue⟩ := h p (by simp)
        exact ih (fun q hq => h q (by simp [hq])) _ (hitems.setKey hkey hvalue)
  exact hfold [] (.dict [] (by simp) (by simp))

/-- The identifier of the decision can be computed when the texts it is made of can be encoded. -/
theorem decisionId_ok {policy : Policy} {gates : List (String × Bool)} {policyVersion : PyStr}
    (hintent : PyJson.Plain Encodable (intentKeys intent))
    (hselected : ∀ pathId ∈ policy.selectedPath, Encodable pathId)
    (halternate : ∀ pathId ∈ policy.alternatePaths, Encodable pathId)
    (hconcurrent : ∀ pathId ∈ policy.concurrentPaths, Encodable pathId)
    (hversion : Encodable policyVersion) :
    ∃ identifier, decisionId intent policy gates policyVersion = .ok identifier := by
  have hlist : ∀ pathIds : List PyStr, (∀ pathId ∈ pathIds, Encodable pathId) →
      PyJson.Plain Encodable (.list (pathIds.map PyVal.str)) := by
    intro pathIds h
    refine .list _ fun v hv => ?_
    obtain ⟨pathId, hpathId, rfl⟩ := List.mem_map.1 hv
    exact .str _ (h pathId hpathId)
  have hgates : PyJson.Plain Encodable (document (gates.map fun gate => (cp gate.1, .bool gate.2))) := by
    refine plain_document fun p hp => ?_
    obtain ⟨gate, -, rfl⟩ := List.mem_map.1 hp
    exact ⟨encodable_cp _, .bool _⟩
  have hpath : PyJson.Plain Encodable ((policy.selectedPath.map PyVal.str).getD .none) := by
    cases hpath : policy.selectedPath with
    | none => exact .none
    | some pathId => exact .str _ (hselected pathId hpath)
  have hpayload := plain_document (P := Encodable) (l := [(cp "intent", intentKeys intent),
    (cp "selected_path", (policy.selectedPath.map PyVal.str).getD .none),
    (cp "alternate_paths", .list (policy.alternatePaths.map PyVal.str)),
    (cp "concurrent_paths", .list (policy.concurrentPaths.map PyVal.str)),
    (cp "gates", document (gates.map fun gate => (cp gate.1, .bool gate.2))),
    (cp "policy_version", .str policyVersion)]) (by
      simp only [List.forall_mem_cons, encodable_cp, true_and, List.not_mem_nil, false_imp_iff,
        implies_true, and_true]
      exact ⟨hintent, hpath, hlist _ halternate, hlist _ hconcurrent, hgates, .str _ hversion⟩)
  obtain ⟨bytes, hbytes⟩ := @PyJson.dumps_plain Failure PyJson.compact (encodable_cp _)
    (encodable_cp _) _ hpayload
  rw [decisionId, hbytes]
  exact ⟨_, rfl⟩

/-- What an authorization says about the selection. -/
theorem selectRoute_authorized {observedAt : Option PyStr} {ttlSeconds : ℤ} {policyVersion : PyStr}
    {r : RouteDecision}
    (h : selectRoute lib intent paths verification observedAt ttlSeconds policyVersion now clock = .ok r)
    (hauthorized : r.authorized = true) :
    evaluatePolicy lib intent paths now clock = .ok r.policy ∧
      r.policy.candidateDecision = "CANDIDATE_PATH_SELECTED" ∧
      GatesHold verification r.policy.selectedPath := by
  obtain ⟨policy, hpolicy, h⟩ := bind_eq_ok_iff.1 h
  obtain ⟨timestamp, -, h⟩ := bind_eq_ok_iff.1 h
  obtain ⟨observedTime, -, h⟩ := bind_eq_ok_iff.1 h
  obtain ⟨decisionExpiry, -, h⟩ := bind_eq_ok_iff.1 h
  obtain ⟨selectedExpiry, -, h⟩ := bind_eq_ok_iff.1 h
  obtain ⟨identifier, -, h⟩ := bind_eq_ok_iff.1 h
  obtain rfl := pure_eq_ok_iff.1 h
  obtain ⟨hselected, hgates⟩ := of_decide_eq_true hauthorized
  exact ⟨hpolicy, hselected, List.all_eq_true.1 hgates⟩

/-- The selection returns when its parts do. -/
theorem selectRoute_ok {observedAt : Option PyStr} {ttlSeconds : ℤ} {policyVersion : PyStr}
    {policy : Policy} {timestamp : PyStr} {observedTime decisionExpiry : Time}
    {selectedExpiry : Option Time} {identifier : PyStr}
    (hpolicy : evaluatePolicy lib intent paths now clock = .ok policy)
    (htimestamp : timestampOf lib observedAt now (clock paths.length) = .ok timestamp)
    (htime : observedTimeOf lib timestamp = .ok observedTime)
    (hadd : addSeconds observedTime (max 1 ttlSeconds) = .ok decisionExpiry)
    (hexpiry : selectedPathExpiry lib policy.selectedPath paths = .ok selectedExpiry)
    (hidentifier : decisionId intent policy
      (normalizeGates (verificationForPath verification policy.selectedPath)) policyVersion =
      .ok identifier) :
    ∃ r, selectRoute lib intent paths verification observedAt ttlSeconds policyVersion now clock =
        .ok r ∧ r.policy = policy ∧
      r.authorized = decide (policy.candidateDecision = "CANDIDATE_PATH_SELECTED" ∧
        (normalizeGates (verificationForPath verification policy.selectedPath)).all Prod.snd = true) := by
  rw [selectRoute, hpolicy, ok_bind, htimestamp, ok_bind, htime, ok_bind, hadd, ok_bind, hexpiry, ok_bind,
    hidentifier, ok_bind]
  exact ⟨_, rfl, rfl, rfl⟩

end Authorization

/-! ### Two rows with one identifier -/

/-- A library that reads and writes the times below, and converts what is converted below. -/
def sampleLibrary : Library where
  reprOf v := match v with
    | .none => cp "None"
    | _ => []
  floatOf v := match v with
    | .float x => .ok x
    | _ => typeError
  fromIsoFormat s := if s = cp "1970-01-01T00:00:00+00:00" then some (.ok 0) else none
  isoFormat t :=
    if t = 300000000 then cp "1970-01-01T00:05:00"
    else if t = 30000000 then cp "1970-01-01T00:00:30" else cp "1970-01-01T00:00:00"

/-- An intent within the core zone. -/
def coreIntent : Intent where
  sourceZone := some (lit "ZONE_CORE")
  targetZone := some (lit "ZONE_CORE")

/-- A verification in which all gates hold. -/
def allGates : Items := d8TwoPhaseGates.map fun gate => (key gate, .bool true)

theorem plain_coreIntent : PyJson.Plain Encodable (intentKeys coreIntent) := by
  refine plain_document ?_
  simp only [List.forall_mem_cons, encodable_cp, true_and, List.not_mem_nil, false_imp_iff, implies_true,
    and_true]
  exact ⟨.none, .none, .str _ (encodable_cp _), .none, .str _ (encodable_cp _), .none, .none, .none⟩

end AdaptiveNetwork
