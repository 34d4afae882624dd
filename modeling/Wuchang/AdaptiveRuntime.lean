/-
**The adaptive runtime: a status that must fail closed.**

`runtime_adapter.py` observes the local network and the packet a remote node left, selects a route for
each of two intents, and keeps what it found as a snapshot.  A status is computed from the snapshot and
two clocks: the snapshot is fresh while `clock()` is before its bound, the remote packet while
`time.time()` is before another one.  The sets of paths are read from the snapshot when the *remote*
packet is fresh, whether or not the snapshot is.

What the clocks show is not assumed to be related in any way, and what the operations on their numbers
give is a parameter.

Main definitions:

* `AdaptiveNetwork.resolveService`, `AdaptiveNetwork.evaluateBindingFailover` — routes for an intent;
* `AdaptiveNetwork.Host` — the numbers of the clocks, and the addresses of networks;
* `AdaptiveNetwork.refresh`, `AdaptiveNetwork.status` — the two methods;
* `AdaptiveNetwork.Reachable` — the states a run can be in, a refresh in progress included;
* `AdaptiveNetwork.FailsClosed` — the status does not raise, and shows nothing when it is on hold.

Main results:

* `AdaptiveNetwork.status_failsClosed_iff` — when the status of a reachable state fails closed.
-/

import Wuchang.RouteSelector
import Mathlib.Data.List.Dedup

set_option relaxedAutoImplicit false
set_option autoImplicit false

namespace AdaptiveNetwork

open Py

/-! ### Routes for an intent -/

/-- The intent `resolve_service` makes, with the arguments the runtime leaves at their defaults. -/
def serviceIntent (intentId sourceNode targetNode serviceIdentity sourceZone targetZone : String)
    (permittedPaths pathPreference : List String) : Intent where
  intentId := some (lit intentId)
  sourceNode := some (lit sourceNode)
  sourceZone := some (lit sourceZone)
  targetNode := some (lit targetNode)
  targetZone := some (lit targetZone)
  serviceIdentity := some (lit serviceIdentity)
  serviceClass := some (lit "INTERNAL_APPLICATION")
  publishedGatewayBound := some (.bool false)
  permittedPaths := .list (permittedPaths.map lit)
  concurrentPaths := .list []
  allowConcurrentPaths := .bool false
  pathPreference := if pathPreference = [] then .none else .list (pathPreference.map lit)
  targetIdentityState := lit "OBSERVED_PARTIAL"

/-- `resolve_service` -/
def resolveService (lib : Library) (intent : Intent) (paths : List PathRow) (verification : Items)
    (observedAt : PyStr) (ttlSeconds : ℤ) (clock : ℕ → Time) : Except Fault RouteDecision :=
  selectRoute lib intent paths verification (some observedAt) ttlSeconds (cp "PER_INTENT_MULTIPATH_V1")
    (.value .none) clock

/-- The state of a binding after its route was selected again. -/
def failoverState (previousPath nextPath : Option PyStr) (authorized : Bool) : String :=
  let given (path : Option PyStr) : Bool := path.any (· ≠ [])
  if nextPath = previousPath ∧ authorized then "HEALTHY"
  else if given nextPath ∧ nextPath ≠ previousPath ∧ authorized then "ALTERNATE_ACTIVE"
  else if given nextPath ∧ nextPath ≠ previousPath then "ALTERNATE_VERIFYING"
  else if given previousPath then "PRIMARY_PATH_FAILED"
  else "HOLD"

/-- `evaluate_binding_failover` for a binding of the runtime: the route, and its state. -/
def evaluateBindingFailover (lib : Library) (binding : RouteDecision) (paths : List PathRow)
    (verification : Items) (clock : ℕ → Time) : Except Fault (RouteDecision × String) := do
  let preference := (binding.policy.selectedPath.toList ++ binding.policy.alternatePaths).filter (· ≠ [])
  let intent := if preference = [] then binding.intent
    else { binding.intent with pathPreference := .list (preference.map PyVal.str) }
  let reevaluated ← selectRoute lib intent paths verification (some binding.observedAt)
    binding.ttlSeconds binding.policyVersion (.value .none) clock
  pure (reevaluated, failoverState binding.policy.selectedPath reevaluated.policy.selectedPath
    reevaluated.authorized)

/-! ### What the runtime reads -/

/-- `raise ValueError(reason)` -/
def refuse {α : Type} (reason : String) : Except Fault α := .error (.own (.refused reason))

/-- `v.get(k, default)` on what should be a dictionary. -/
def getOr (v : PyVal) (k : String) (default : PyVal) : Except Fault PyVal :=
  match v with
  | .dict items => .ok ((getItem items (cp k)).getD default)
  | _ => .error (.builtin .attributeError)

/-- `needle in haystack` for a text. -/
def contains (haystack : PyVal) (needle : PyStr) : Except Fault Bool :=
  match haystack with
  | .list xs => .ok (xs.any (·.eq (.str needle)))
  | .str s => .ok (decide (needle <:+: s))
  | .dict items => .ok (getItem items needle).isSome
  | _ => typeError

/-- The clocks and the networks of the host.  `Num` are the numbers of the clocks and of JSON. -/
structure Host (Num : Type) where
  lib : Library
  /-- `0.0` -/
  zero : Num
  /-- `x < y` -/
  lt : Num → Num → Bool
  /-- `x + TTL` -/
  addTtl : Num → Except Fault Num
  /-- `v + TTL`, for a value -/
  expiry : PyVal → Except Fault Num
  /-- `abs(x - v) > TTL`, for a value -/
  apart : Num → PyVal → Except Fault Bool
  /-- `ipaddress.ip_address(v) in ipaddress.ip_network(network)`, where the address comes first -/
  addressIn : PyVal → String → Except Fault Bool

/-- What one refresh reads. -/
structure Readings (Num : Type) where
  /-- `self.observer()` -/
  observer : Except Fault PyVal
  /-- `self.application_probe()` -/
  applicationProbe : Except Fault Bool
  /-- `datetime.now(timezone.utc).isoformat()` -/
  observed : PyStr
  /-- `self.clock()` -/
  clock : Num
  /-- `json.loads(REMOTE_EVIDENCE.read_text())` -/
  remoteEvidence : Except Fault PyVal
  /-- `time.time()` -/
  epoch : Num
  /-- the clock of the three selections, row by row -/
  localClock : ℕ → Time
  remoteClock : ℕ → Time
  failoverClock : ℕ → Time

/-! ### The local observation -/

/-- `INTENT` -/
def localIntent : String := "READ_ONLY_NATIVE_ADI_HEALTH"

/-- `REMOTE_INTENT` -/
def remoteIntent : String := "MSI_READ_ONLY_NATIVE_ADI_HEALTH"

/-- `SERVICE` -/
def service : String := "NATIVE_ADI_LOCAL_HEALTH"

/-- `TTL` -/
def ttl : ℤ := 30

/-- Some of the commands did not return zero. -/
def incomplete (command : PyVal) : List String → Except Fault Bool
  | [] => .ok false
  | key :: keys => do
      let entry ← getOr command key (.dict [])
      let returncode ← getOr entry "returncode" .none
      if ¬returncode.eq (.int 0) then pure true else incomplete command keys

/-- Some of the links is the loopback, and up. -/
def loopbackUp : List PyVal → Except Fault Bool
  | [] => .ok false
  | row :: rows => do
      let name ← getOr row "ifname" .none
      if ¬name.eq (lit "lo") then loopbackUp rows
      else do
        let flags ← getOr row "flags" (.list [])
        let up ← contains flags (cp "UP")
        if up then pure true else loopbackUp rows

/-- The row of the loopback path. -/
def loopbackRow : PathRow where
  pathId := lit "LOCAL_ADI_LOOPBACK"
  pathType := some (lit "LOOPBACK_SERVICE_PATH")
  available := .bool true
  hostReachable := .bool true
  serviceReachable := .bool true
  qualified := .bool true
  identityState := lit "OBSERVED_PARTIAL"
  target := lit "127.0.0.1:9110"
  interface := lit "lo"
  serviceIdentity := lit service

/-- `{gate: value for gate in GATES}` -/
def gatesDict (value : Bool) : PyVal :=
  document (d8TwoPhaseGates.map fun gate => (cp gate, .bool value))

mutual

/-- `normalize` of `stable_route_state`: the lists are sorted by their texts, and `expires` is taken
away. -/
def normalize : PyVal → Except Fault PyVal
  | .list xs => do
      let items ← normalizeList xs
      let keyed ← items.mapM fun item => do
        let text ← PyJson.dumps ⟨cp ",", cp ":", true⟩ item
        pure (text, item)
      pure (.list ((keyed.mergeSort fun a b => a.1 ≤ b.1).map Prod.snd))
  | .dict items => do
      let items ← normalizeItems items
      pure (.dict items)
  | v => .ok v

/-- The elements of a list. -/
def normalizeList : List PyVal → Except Fault (List PyVal)
  | [] => .ok []
  | x :: xs => do
      let y ← normalize x
      let ys ← normalizeList xs
      pure (y :: ys)

/-- The items of a dictionary. -/
def normalizeItems : Items → Except Fault Items
  | [] => .ok []
  | (k, v) :: items =>
      if k = key "expires" then normalizeItems items
      else do
        let w ← normalize v
        let rest ← normalizeItems items
        pure ((k, w) :: rest)

end

/-- `hashlib.sha256(json.dumps(v, sort_keys=True).encode()).hexdigest()` -/
def evidenceSha256 (v : PyVal) : Except Fault PyStr := do
  let text ← PyJson.dumps PyJson.ascii v
  let bytes ← encodeUtf8 text
  pure (Sha256.hexdigest bytes)

/-- The hash of the routes. -/
def routeHash (observation : PyVal) : Except Fault PyStr := do
  let v4 ← getOr observation "routes_v4" (.list [])
  let v6 ← getOr observation "routes_v6" (.list [])
  let v4 ← normalize v4
  let v6 ← normalize v6
  evidenceSha256 (.list [v4, v6])

/-- The hash of the name servers. -/
def dnsHash (observation : PyVal) : Except Fault PyStr := do
  let summary ← getOr observation "dns_summary" (.str [])
  match summary with
  | .str s => do
      let bytes ← encodeUtf8 s
      pure (Sha256.hexdigest bytes)
  | _ => .error (.builtin .attributeError)

/-- The checks of the local observation. -/
def checkLocal (observation : PyVal) (probe : Except Fault Bool) : Except Fault Unit := do
  let command ← getOr observation "command_evidence" (.dict [])
  let bad ← if ¬command.isDict then pure true else incomplete command ["links", "addresses", "routes_v4"]
  if bad then refuse "LOCAL_NETWORK_EVIDENCE_INCOMPLETE"
  else do
    let links ← getOr observation "links" (.list [])
    let rows ← iterate links
    let up ← loopbackUp rows
    if ¬up then refuse "LOOPBACK_NOT_UP"
    else do
      let healthy ← probe
      if ¬healthy then refuse "APPLICATION_HEALTH_FAILED" else pure ()

/-- The service intent of the local health. -/
def localService : Intent := serviceIntent localIntent "taiji01" "taiji01" service "ZONE_CORE" "ZONE_CORE"
  ["LOOPBACK_SERVICE_PATH"] []

/-- The binding of the local intent. -/
def localBinding (lib : Library) (observed : PyStr) (clock : ℕ → Time) : Except Fault RouteDecision := do
  let decision ← resolveService lib localService [loopbackRow]
    [(key "LOCAL_ADI_LOOPBACK", gatesDict true)] observed ttl clock
  if ¬decision.authorized then refuse "BINDING_NOT_VERIFIED" else pure decision

/-! ### The remote packet -/

/-- An entry of `failover_bindings`; that no other binding is modified is always said. -/
structure Failover where
  previousPath : Option PyStr
  selectedPath : Option PyStr
  bindingState : String
  observedAt : PyStr

/-- `re.fullmatch(r"eth[0-9]+", s)` -/
def isEth (s : PyStr) : Bool :=
  (cp "eth").isPrefixOf s && s.length > 3 && (s.drop 3).all fun c => 48 ≤ c && c ≤ 57

/-- `interface_bound`, where a `ValueError` is caught. -/
def interfaceBound {Num : Type} (host : Host Num) (kind : String) (iface source : PyVal) :
    Except Fault Bool :=
  let bound : Except Fault Bool := do
    let network := if kind = "LAN_IPV4" then "192.168.50.0/24" else "100.64.0.0/10"
    let inside ← host.addressIn source network
    if kind = "LAN_IPV4" then
      match orElse iface (.str []) with
      | .str s => pure (isEth s && inside)
      | _ => typeError
    else pure (iface.eq (lit "tailscale0") && inside)
  match bound with
  | .error (.builtin .valueError) => .ok false
  | bound => bound

/-- The row the packet gives for a kind of path, and whether it is qualified. -/
def remoteRow {Num : Type} (host : Host Num) (packet : PyVal) (kind pathId : String) :
    Except Fault (PathRow × Bool) := do
  let paths ← packet.at "paths"
  let row ← paths.at kind
  let iface ← getOr row "interface" .none
  let source ← getOr row "source_ipv4" (.str [])
  let bound ← interfaceBound host kind iface source
  let routeBound ← getOr row "route_bound" .none
  let applicationPass ← getOr row "application_pass" .none
  let qualified := bound && (routeBound matches .bool true) && (applicationPass matches .bool true)
  pure ({
    pathId := lit pathId
    pathType := some (lit kind)
    available := .bool qualified
    hostReachable := .bool qualified
    serviceReachable := .bool qualified
    qualified := .bool qualified
    identityState := lit "OBSERVED_PARTIAL"
    interface := iface
    serviceIdentity := lit service
    target := lit "taiji01:9110-over-existing-ssh" }, qualified)

/-- The failover entry after the remote route was selected again. -/
def remoteTransition (lib : Library) (previous : Option RouteDecision) (remote : RouteDecision)
    (paths : List PathRow) (verification : Items) (observed : PyStr) (clock : ℕ → Time)
    (failover : Option Failover) : Except Fault (Option Failover) :=
  match previous with
  | none => .ok failover
  | some previous =>
      if ¬previous.authorized ∨ previous.policy.selectedPath = remote.policy.selectedPath then
        .ok failover
      else do
        let (outcome, state) ← evaluateBindingFailover lib { previous with observedAt := observed } paths
          verification clock
        let entry (state : String) : Failover :=
          ⟨previous.policy.selectedPath, remote.policy.selectedPath, state, observed⟩
        if outcome.policy.selectedPath = remote.policy.selectedPath then pure (some (entry state))
        else if remote.policy.selectedPath = some (cp "MSI_ADI_LAN") ∧
            cp "MSI_ADI_LAN" ∈ remote.policy.qualifiedPathSet then
          pure (some (entry "ORIGINAL_REQUALIFIED_ACTIVE"))
        else refuse "FAILOVER_EVALUATOR_MISMATCH"

/-- The service intent of the remote health. -/
def remoteService : Intent := serviceIntent remoteIntent "MSI" "taiji01" service "ZONE_CORE" "ZONE_CORE"
  ["LAN_IPV4", "TAILSCALE_IPV4"] ["LAN_IPV4", "TAILSCALE_IPV4"]

/-- What the remote packet gives. -/
structure Remote (Num : Type) where
  binding : Option RouteDecision
  expiry : Num
  failover : Option Failover

/-- The remote part of a refresh, without its `except`. -/
def readRemote {Num : Type} (host : Host Num) (readings : Readings Num)
    (previous : Option RouteDecision) (failover : Option Failover) : Except Fault (Remote Num) := do
  let packet ← readings.remoteEvidence
  let schema ← getOr packet "schema" .none
  let source ← getOr packet "source_node" .none
  if ¬schema.eq (lit "MSI_TWO_PATH_HEALTH_OBSERVATION/1") ∨ ¬source.eq (lit "MSI") then
    refuse "REMOTE_EVIDENCE_STALE_OR_INVALID"
  else do
    let observedAt ← getOr packet "observed_at_epoch" (.int 0)
    let stale ← host.apart readings.epoch observedAt
    if stale then refuse "REMOTE_EVIDENCE_STALE_OR_INVALID"
    else do
      let observedAt ← packet.at "observed_at_epoch"
      let expiry ← host.expiry observedAt
      let lan ← remoteRow host packet "LAN_IPV4" "MSI_ADI_LAN"
      let tailscale ← remoteRow host packet "TAILSCALE_IPV4" "MSI_ADI_TAILSCALE"
      let paths := [lan.1, tailscale.1]
      let verification : Items :=
        [(key "MSI_ADI_LAN", gatesDict lan.2), (key "MSI_ADI_TAILSCALE", gatesDict tailscale.2)]
      let remote ← resolveService host.lib remoteService paths verification readings.observed ttl
        readings.remoteClock
      let failover ← remoteTransition host.lib previous remote paths verification readings.observed
        readings.failoverClock failover
      pure ⟨some remote, expiry, failover⟩

/-- `except (OSError, ValueError, TypeError, KeyError, AttributeError)` -/
def isCaught : Fault → Bool
  | .builtin .osError => true
  | .builtin .valueError => true
  | .builtin .unicodeEncodeError => true
  | .builtin .typeError => true
  | .builtin .keyError => true
  | .builtin .attributeError => true
  | .own (.refused _) => true
  | _ => false

/-- The remote part of a refresh. -/
def remotePart {Num : Type} (host : Host Num) (readings : Readings Num)
    (previous : Option RouteDecision) (failover : Option Failover) : Except Fault (Remote Num) :=
  match readRemote host readings previous failover with
  | .error e => if isCaught e then .ok ⟨none, host.zero, none⟩ else .error e
  | .ok remote => .ok remote

/-! ### The state of the runtime -/

/-- `self.current` -/
structure Snapshot (Num : Type) where
  observedAt : PyStr
  validUntilMonotonic : Num
  networkEvidenceSha256 : PyStr
  availablePathSet : List PyStr
  qualifiedPathSet : List PyStr
  dnsSummarySha256 : PyStr
  routeSummarySha256 : PyStr
  zoneState : List (String × String)

/-- `self.last_error` -/
inductive LastError where
  | noFreshEvidence
  | refreshInProgress
  | raised (e : Fault)
  | nothing

/-- The fields of an `AdaptiveRuntime` that change. -/
structure Runtime (Num : Type) where
  current : Option (Snapshot Num)
  bindings : List (String × RouteDecision)
  failoverBindings : List (String × Failover)
  remoteValidUntilEpoch : Num
  lastError : LastError
  observationCount : ℕ
  routeDrift : String
  dnsDrift : String
  priorHashes : Option (PyStr × PyStr)

/-- A new runtime. -/
def Runtime.new {Num : Type} (host : Host Num) : Runtime Num where
  current := none
  bindings := []
  failoverBindings := []
  remoteValidUntilEpoch := host.zero
  lastError := .noFreshEvidence
  observationCount := 0
  routeDrift := "FIRST_OBSERVATION"
  dnsDrift := "FIRST_OBSERVATION"
  priorHashes := none

/-- The zones of a snapshot. -/
def observedZones : List (String × String) := [("ZONE_CORE", "OBSERVED_LOCAL_ONLY"),
  ("ZONE_GUEST_SERVICE", "UNOBSERVED"), ("ZONE_IOT", "UNOBSERVED"), ("ZONE_MANAGEMENT", "UNOBSERVED"),
  ("ZONE_TAILSCALE", "UNOBSERVED"), ("ZONE_WAN", "UNOBSERVED"),
  ("ZONE_FUTURE_PUBLIC_SERVICE", "UNOBSERVED")]

/-! ### A refresh -/

/-- What a refresh has found before it takes the lock again. -/
structure Found (Num : Type) where
  observation : PyVal
  binding : RouteDecision
  routeHash : PyStr
  dnsHash : PyStr
  now : Num
  remote : Remote Num

/-- The part of a refresh without the lock. -/
def observe {Num : Type} (host : Host Num) (readings : Readings Num) (s : Runtime Num) :
    Except Fault (Found Num) := do
  let observation ← readings.observer
  checkLocal observation readings.applicationProbe
  let binding ← localBinding host.lib readings.observed readings.localClock
  let routes ← routeHash observation
  let dns ← dnsHash observation
  let remote ← remotePart host readings (s.bindings.lookup remoteIntent)
    (s.failoverBindings.lookup remoteIntent)
  pure ⟨observation, binding, routes, dns, readings.clock, remote⟩

/-- The drift of a hash. -/
def drift (prior : Option PyStr) (hash : PyStr) : String :=
  match prior with
  | none => "FIRST_OBSERVATION"
  | some prior => if hash = prior then "UNCHANGED" else "CHANGED"

/-- The drifts are noted before the snapshot is made. -/
def noteDrift {Num : Type} (s : Runtime Num) (found : Found Num) : Runtime Num :=
  { s with
    routeDrift := drift (s.priorHashes.map Prod.fst) found.routeHash
    dnsDrift := drift (s.priorHashes.map Prod.snd) found.dnsHash
    priorHashes := some (found.routeHash, found.dnsHash) }

/-- The snapshot and the bindings are replaced. -/
def store {Num : Type} (s : Runtime Num) (found : Found Num) (observed evidence : PyStr)
    (validUntil : Num) : Runtime Num :=
  let pathSet := sortedSet (cp "LOCAL_ADI_LOOPBACK" ::
    (found.remote.binding.map fun remote => remote.policy.availablePathSet).getD [])
  { s with
    current := some {
      observedAt := observed
      validUntilMonotonic := validUntil
      networkEvidenceSha256 := evidence
      availablePathSet := pathSet
      qualifiedPathSet := pathSet
      dnsSummarySha256 := found.dnsHash
      routeSummarySha256 := found.routeHash
      zoneState := observedZones }
    bindings := (localIntent, found.binding) ::
      (found.remote.binding.map fun remote => (remoteIntent, remote)).toList
    remoteValidUntilEpoch := found.remote.expiry
    failoverBindings := (found.remote.failover.map fun entry => (remoteIntent, entry)).toList
    lastError := .nothing
    observationCount := s.observationCount + 1 }

/-- The `except` of a refresh. -/
def clear {Num : Type} (host : Host Num) (s : Runtime Num) (e : Fault) : Runtime Num :=
  { s with
    current := none
    bindings := []
    failoverBindings := []
    remoteValidUntilEpoch := host.zero
    lastError := .raised e }

/-- A refresh has begun: the snapshot stays. -/
def beginRefresh {Num : Type} (s : Runtime Num) : Runtime Num :=
  { s with lastError := .refreshInProgress }

/-- A refresh that has begun ends. -/
def endRefresh {Num : Type} (host : Host Num) (readings : Readings Num) (s : Runtime Num) :
    Runtime Num :=
  match observe host readings s with
  | .error e => clear host s e
  | .ok found =>
      let s := noteDrift s found
      match host.addTtl found.now, evidenceSha256 found.observation with
      | .error e, _ => clear host s e
      | _, .error e => clear host s e
      | .ok validUntil, .ok evidence => store s found readings.observed evidence validUntil

/-- `refresh` -/
def refresh {Num : Type} (host : Host Num) (readings : Readings Num) (s : Runtime Num) : Runtime Num :=
  endRefresh host readings (beginRefresh s)

/-- The states of a run: after any number of refreshes, and while another one is in progress. -/
inductive Reachable {Num : Type} (host : Host Num) : Runtime Num → Prop
  | new : Reachable host (Runtime.new host)
  | refreshed (s : Runtime Num) (readings : Readings Num) (h : Reachable host s) :
      Reachable host (refresh host readings s)
  | begun (s : Runtime Num) (h : Reachable host s) : Reachable host (beginRefresh s)

/-! ### The status -/

/-- The dictionary `verify_total_field_runtime_decision` returns. -/
structure FieldDecision where
  decision : String
  reason : String
  decisionId : PyVal
  decisionSha256 : Option PyStr

/-- What one status reads: the two clocks, and the files with the gates and the decision. -/
structure Moment (Num : Type) where
  clock : Num
  epoch : Num
  activationGatesPass : Except Fault Bool
  totalFieldDecision : Except Fault FieldDecision

/-- The dictionary `status` returns, without its constants. -/
structure Status where
  totalFieldDecision : FieldDecision
  runtimeState : String
  health : String
  observedAt : Option PyStr
  observationCount : ℕ
  availablePathSet : List PyStr
  qualifiedPathSet : List PyStr
  activePathSet : List PyStr
  intentPathBindings : List (String × RouteDecision × FieldDecision)
  failoverBindings : List (String × Failover)
  zoneState : List (String × String)
  networkEvidenceSha256 : Option PyStr
  dnsSummarySha256 : Option PyStr
  routeSummarySha256 : Option PyStr
  routeDrift : String
  dnsDrift : String
  bindingHealth : List (String × String)
  lastError : LastError

section Status

variable {Num : Type} (host : Host Num) (s : Runtime Num) (m : Moment Num)

/-- `fresh` -/
def fresh : Bool := s.current.any fun current => host.lt m.clock current.validUntilMonotonic

/-- `remote_fresh` -/
def remoteFresh : Bool := host.lt m.epoch s.remoteValidUntilEpoch

/-- The bindings that are shown. -/
def shownBindings : List (String × RouteDecision) :=
  (if fresh host s m then s.bindings else []).filter fun b =>
    remoteFresh host s m ∨ b.1 ≠ remoteIntent

/-- The gates are only asked for a verified remote binding. -/
def gatesAsked : Bool :=
  fresh host s m && ((shownBindings host s m).lookup remoteIntent).any RouteDecision.authorized

/-- `candidate_operational_ready` -/
def operationalReady : Except Fault Bool :=
  if gatesAsked host s m then m.activationGatesPass else .ok false

/-- `self.current[k] if remote_fresh else [...] if fresh else []` -/
def shownPaths (paths : Snapshot Num → List PyStr) : Except Fault (List PyStr) :=
  if remoteFresh host s m then
    match s.current with
    | some current => .ok (paths current)
    | none => typeError
  else .ok (if fresh host s m then [cp "LOCAL_ADI_LOOPBACK"] else [])

/-- A value of the snapshot, when it is fresh. -/
def shown {α : Type} (value : Snapshot Num → α) : Option α :=
  if fresh host s m then s.current.map value else none

/-- `health` -/
def health : String :=
  if fresh host s m ∧ ((shownBindings host s m).lookup remoteIntent).isSome then "PASS_LOCAL_AND_MSI"
  else if fresh host s m then "PASS_LOCAL_ONLY" else "HOLD"

/-- `status` -/
def status : Except Fault Status := do
  let bindings := shownBindings host s m
  let ready ← operationalReady host s m
  let decision ← m.totalFieldDecision
  let active := ready && decision.decision = "PASS"
  let available ← shownPaths host s m Snapshot.availablePathSet
  let qualified ← shownPaths host s m Snapshot.qualifiedPathSet
  pure {
    totalFieldDecision := decision
    runtimeState :=
      if active then "ACTIVE" else if fresh host s m then "OBSERVER_RUNNING_LIMITED" else "HOLD"
    health := health host s m
    observedAt := shown host s m Snapshot.observedAt
    observationCount := s.observationCount
    availablePathSet := available
    qualifiedPathSet := qualified
    activePathSet := sortedSet (bindings.flatMap fun b => b.2.activePathSet)
    intentPathBindings := bindings.map fun b => (b.1, b.2, decision)
    failoverBindings := if fresh host s m && remoteFresh host s m then s.failoverBindings else []
    zoneState := (shown host s m Snapshot.zoneState).getD []
    networkEvidenceSha256 := shown host s m Snapshot.networkEvidenceSha256
    dnsSummarySha256 := shown host s m Snapshot.dnsSummarySha256
    routeSummarySha256 := shown host s m Snapshot.routeSummarySha256
    routeDrift := if fresh host s m then s.routeDrift else "UNKNOWN"
    dnsDrift := if fresh host s m then s.dnsDrift else "UNKNOWN"
    bindingHealth := bindings.map fun b => (b.1, if b.2.authorized then "PASS" else "HOLD")
    lastError := s.lastError }

/-! ### When the status fails closed -/

/-- The status is returned, and shows nothing when it is on hold. -/
def FailsClosed (r : Except Fault Status) : Prop :=
  ∃ st, r = .ok st ∧ (st.health = "HOLD" → st.availablePathSet = [] ∧ st.qualifiedPathSet = [] ∧
    st.activePathSet = [] ∧ st.intentPathBindings = [] ∧ st.failoverBindings = [] ∧ st.zoneState = [])

/-- The checks of the files return when they are made. -/
def FilesAnswer : Prop :=
  (gatesAsked host s m → ∃ b, m.activationGatesPass = .ok b) ∧ ∃ decision, m.totalFieldDecision = .ok decision

variable {host s m}

theorem sortedSet_cons_ne_nil (text : PyStr) (texts : List PyStr) : sortedSet (text :: texts) ≠ [] := by
  intro h
  have hmem : text ∈ sortedSet (text :: texts) := List.mem_mergeSort.2 (List.mem_dedup.2 (by simp))
  rw [h] at hmem
  exact List.not_mem_nil hmem

/-- A snapshot names the local path at least. -/
theorem paths_ne_nil (h : Reachable host s) {current : Snapshot Num} (hcurrent : s.current = some current) :
    current.availablePathSet ≠ [] := by
  induction h with
  | new => cases hcurrent
  | refreshed s readings _ _ =>
      rw [refresh, endRefresh] at hcurrent
      split at hcurrent
      · cases hcurrent
      · dsimp only at hcurrent
        split at hcurrent
        · cases hcurrent
        · cases hcurrent
        · obtain rfl := Option.some.inj hcurrent
          exact sortedSet_cons_ne_nil _ _
  | begun s _ ih => exact ih hcurrent

theorem fresh_isSome (h : fresh host s m = true) : ∃ current, s.current = some current := by
  obtain ⟨current, hcurrent, -⟩ := (Option.any_eq_true _ _).1 h
  exact ⟨current, hcurrent⟩

/-- A fresh snapshot can always be shown. -/
theorem shownPaths_fresh (h : fresh host s m = true) (paths : Snapshot Num → List PyStr) :
    ∃ shown, shownPaths host s m paths = .ok shown := by
  obtain ⟨current, hcurrent⟩ := fresh_isSome h
  rw [shownPaths, hcurrent]
  split_ifs
  · exact ⟨_, rfl⟩
  · exact ⟨_, rfl⟩

/-- The health is on hold when the snapshot is not fresh. -/
theorem health_eq_hold_iff : health host s m = "HOLD" ↔ fresh host s m = false := by
  unfold health
  split_ifs with hboth hfresh
  · exact iff_of_false (by decide) (by simp [hboth.1])
  · exact iff_of_false (by decide) (by simp [hfresh])
  · exact iff_of_true rfl (by simpa using hfresh)

/-- A status is made of what the files answer and of the paths that are shown. -/
theorem of_status_ok {st : Status} (h : status host s m = .ok st) :
    (∃ ready, operationalReady host s m = .ok ready) ∧ m.totalFieldDecision = .ok st.totalFieldDecision ∧
      shownPaths host s m Snapshot.availablePathSet = .ok st.availablePathSet ∧
      shownPaths host s m Snapshot.qualifiedPathSet = .ok st.qualifiedPathSet ∧
      st.health = health host s m := by
  obtain ⟨ready, hready, h⟩ := bind_eq_ok_iff.1 h
  obtain ⟨decision, hdecision, h⟩ := bind_eq_ok_iff.1 h
  obtain ⟨available, havailable, h⟩ := bind_eq_ok_iff.1 h
  obtain ⟨qualified, hqualified, h⟩ := bind_eq_ok_iff.1 h
  obtain rfl := pure_eq_ok_iff.1 h
  exact ⟨⟨ready, hready⟩, hdecision, havailable, hqualified, rfl⟩

/-- The files answer when a status is returned. -/
theorem filesAnswer_of_status {st : Status} (h : status host s m = .ok st) : FilesAnswer host s m := by
  obtain ⟨⟨ready, hready⟩, hdecision, -⟩ := of_status_ok h
  refine ⟨fun hasked => ?_, _, hdecision⟩
  rw [operationalReady, if_pos hasked] at hready
  exact ⟨ready, hready⟩

/-- When the files answer and the paths can be shown, a status is returned. -/
theorem status_of_files (hfiles : FilesAnswer host s m)
    (hpaths : ∀ paths, ∃ shown, shownPaths host s m paths = .ok shown) :
    ∃ st, status host s m = .ok st := by
  obtain ⟨hgates, decision, hdecision⟩ := hfiles
  obtain ⟨ready, hready⟩ : ∃ ready, operationalReady host s m = .ok ready := by
    rw [operationalReady]
    split_ifs with hasked
    · exact hgates hasked
    · exact ⟨false, rfl⟩
  obtain ⟨available, havailable⟩ := hpaths Snapshot.availablePathSet
  obtain ⟨qualified, hqualified⟩ := hpaths Snapshot.qualifiedPathSet
  rw [status, hready, ok_bind, hdecision, ok_bind, havailable, ok_bind, hqualified, ok_bind]
  exact ⟨_, rfl⟩

/-- Nothing is shown when neither the snapshot nor the remote packet is fresh. -/
theorem status_nothing {st : Status} (h : status host s m = .ok st) (hfresh : fresh host s m = false)
    (hremote : remoteFresh host s m = false) :
    st.availablePathSet = [] ∧ st.qualifiedPathSet = [] ∧ st.activePathSet = [] ∧
      st.intentPathBindings = [] ∧ st.failoverBindings = [] ∧ st.zoneState = [] := by
  have hshown : shownBindings host s m = [] := by
    rw [shownBindings, hfresh]
    rfl
  have hpaths : ∀ paths, shownPaths host s m paths = .ok [] := by
    intro paths
    rw [shownPaths, hremote, hfresh]
    rfl
  obtain ⟨-, -, havailable, hqualified, -⟩ := of_status_ok h
  rw [hpaths] at havailable hqualified
  obtain ⟨ready, -, h⟩ := bind_eq_ok_iff.1 h
  obtain ⟨decision, -, h⟩ := bind_eq_ok_iff.1 h
  obtain ⟨available, -, h⟩ := bind_eq_ok_iff.1 h
  obtain ⟨qualified, -, h⟩ := bind_eq_ok_iff.1 h
  obtain rfl := pure_eq_ok_iff.1 h
  refine ⟨(Except.ok.inj havailable).symm, (Except.ok.inj hqualified).symm, ?_, ?_, ?_, ?_⟩
  · dsimp only
    rw [hshown, List.flatMap_nil, sortedSet, List.dedup_nil, List.mergeSort_nil]
  · dsimp only
    rw [hshown, List.map_nil]
  · dsimp only
    rw [hfresh]
    rfl
  · dsimp only
    rw [shown, hfresh]
    rfl

/-- **When the status fails closed.**  In every state of a run, the status is returned, and shows nothing
when it is on hold, exactly if the files answer, and the snapshot is fresh or the bound of the remote
packet has passed. -/
theorem status_failsClosed_iff (h : Reachable host s) (m : Moment Num) :
    FailsClosed (status host s m) ↔
      FilesAnswer host s m ∧ (fresh host s m = true ∨ remoteFresh host s m = false) := by
  constructor
  · rintro ⟨st, hst, hclosed⟩
    refine ⟨filesAnswer_of_status hst, ?_⟩
    by_contra hneither
    rw [not_or, Bool.not_eq_true, Bool.not_eq_false] at hneither
    obtain ⟨hfresh, hremote⟩ := hneither
    obtain ⟨-, -, havailable, -, hhealth⟩ := of_status_ok hst
    have hnothing := (hclosed (hhealth.trans (health_eq_hold_iff.2 hfresh))).1
    rw [shownPaths, if_pos hremote] at havailable
    cases hcurrent : s.current with
    | none =>
        rw [hcurrent] at havailable
        cases havailable
    | some current =>
        rw [hcurrent] at havailable
        exact paths_ne_nil h hcurrent ((Except.ok.inj havailable).trans hnothing)
  · rintro ⟨hfiles, hfresh | hremote⟩
    · obtain ⟨st, hst⟩ := status_of_files hfiles (shownPaths_fresh hfresh)
      refine ⟨st, hst, fun hhold => ?_⟩
      rw [(of_status_ok hst).2.2.2.2, health_eq_hold_iff, hfresh] at hhold
      cases hhold
    · have hpaths : ∀ paths, ∃ shown, shownPaths host s m paths = .ok shown := by
        intro paths
        rw [shownPaths, hremote]
        exact ⟨_, rfl⟩
      obtain ⟨st, hst⟩ := status_of_files hfiles hpaths
      refine ⟨st, hst, fun hhold => ?_⟩
      rw [(of_status_ok hst).2.2.2.2, health_eq_hold_iff] at hhold
      exact status_nothing hst hhold hremote

end Status

/-! ### A remote clock that is ahead -/

/-- A host whose clocks show whole seconds, and which has no address. -/
def sampleHost : Host ℤ where
  lib := sampleLibrary
  zero := 0
  lt x y := x < y
  addTtl x := .ok (x + 30)
  expiry v := match v with
    | .int n => .ok (n + 30)
    | _ => typeError
  apart x v := match v with
    | .int n => .ok (30 < |x - n|)
    | _ => typeError
  addressIn _ _ := .error (.builtin .valueError)

/-- An observation in which the commands succeeded and the loopback is up. -/
def loopbackObservation : PyVal :=
  obj [("command_evidence", obj [("addresses", obj [("returncode", .int 0)]),
      ("links", obj [("returncode", .int 0)]), ("routes_v4", obj [("returncode", .int 0)])]),
    ("links", .list [obj [("flags", .list [lit "UP"]), ("ifname", lit "lo")]])]

/-- A packet of the remote node, whose clock shows second 1020; its paths are not qualified. -/
def remotePacket : PyVal :=
  obj [("observed_at_epoch", .int 1020),
    ("paths", obj [("LAN_IPV4", obj []), ("TAILSCALE_IPV4", obj [])]),
    ("schema", lit "MSI_TWO_PATH_HEALTH_OBSERVATION/1"), ("source_node", lit "MSI")]

/-- A refresh at second 1000 that finds this packet. -/
def sampleReadings : Readings ℤ where
  observer := .ok loopbackObservation
  applicationProbe := .ok true
  observed := cp "1970-01-01T00:00:00+00:00"
  clock := 1000
  remoteEvidence := .ok remotePacket
  epoch := 1000
  localClock _ := 0
  remoteClock _ := 0
  failoverClock _ := 0

theorem plain_serviceIntent (intentId sourceNode targetNode serviceIdentity sourceZone targetZone : String)
    (permittedPaths pathPreference : List String) : PyJson.Plain Encodable (intentKeys (serviceIntent
      intentId sourceNode targetNode serviceIdentity sourceZone targetZone permittedPaths
      pathPreference)) := by
  refine plain_document ?_
  simp only [List.forall_mem_cons, encodable_cp, true_and, List.not_mem_nil, false_imp_iff, implies_true,
    and_true]
  have hlit := PyJson.plain_lit
  exact ⟨hlit _, hlit _, hlit _, hlit _, hlit _, hlit _, hlit _, .bool _⟩

/-- A route of the sample library is selected when the policy is evaluated, to a path or to none. -/
theorem resolveService_sample {intent : Intent} {paths : List PathRow} {policy : Policy}
    (verification : Items) (hplain : PyJson.Plain Encodable (intentKeys intent))
    (hpolicy : evaluatePolicy sampleLibrary intent paths (.value .none) (fun _ => 0) = .ok policy)
    (hselected : ∀ pathId ∈ policy.selectedPath, Encodable pathId)
    (halternate : policy.alternatePaths = []) (hconcurrent : policy.concurrentPaths = [])
    (hexpiry : selectedPathExpiry sampleLibrary policy.selectedPath paths = .ok none) :
    ∃ r, resolveService sampleLibrary intent paths verification (cp "1970-01-01T00:00:00+00:00") ttl
        (fun _ => 0) = .ok r ∧
      r.authorized = decide (policy.candidateDecision = "CANDIDATE_PATH_SELECTED" ∧
        (normalizeGates (verificationForPath verification policy.selectedPath)).all Prod.snd = true) := by
  have htimestamp : timestampOf sampleLibrary (some (cp "1970-01-01T00:00:00+00:00")) (.value .none) 0 =
      .ok (cp "1970-01-01T00:00:00+00:00") := rfl
  have htime : observedTimeOf sampleLibrary (cp "1970-01-01T00:00:00+00:00") = .ok 0 := by decide
  have hadd : addSeconds 0 (max 1 ttl) = .ok 30000000 := by decide
  obtain ⟨identifier, hidentifier⟩ : ∃ identifier, decisionId intent policy
      (normalizeGates (verificationForPath verification policy.selectedPath))
      (cp "PER_INTENT_MULTIPATH_V1") = .ok identifier :=
    decisionId_ok hplain hselected (by simp [halternate]) (by simp [hconcurrent]) (encodable_cp _)
  obtain ⟨r, hr, -, hauthorized⟩ := selectRoute_ok hpolicy htimestamp htime hadd hexpiry hidentifier
  exact ⟨r, hr, hauthorized⟩

theorem checkLocal_sample : checkLocal loopbackObservation (.ok true) = .ok () := rfl

/-- The local route is authorized. -/
theorem localBinding_sample :
    ∃ r, localBinding sampleLibrary (cp "1970-01-01T00:00:00+00:00") (fun _ => 0) = .ok r := by
  obtain ⟨types, htypes⟩ : ∃ types, permittedTypes sampleLibrary localService = .ok types := ⟨_, rfl⟩
  obtain ⟨preference, hpreference⟩ : ∃ preference, intentPathOrder sampleLibrary localService =
    .ok preference := ⟨_, rfl⟩
  obtain ⟨judged, hjudged, hqualified⟩ : ∃ judged, judgeRows sampleLibrary localService types
      (.value .none) (fun _ => 0) (withPathIds sampleLibrary [loopbackRow]) = .ok judged ∧
      qualifiedIds judged = [cp "LOCAL_ADI_LOOPBACK"] := by
    obtain rfl := Except.ok.inj htypes
    exact ⟨_, rfl, rfl⟩
  have hsorted : sortPathIds sampleLibrary (qualifiedIds judged)
      (withPathIds sampleLibrary [loopbackRow]) preference = .ok [cp "LOCAL_ADI_LOOPBACK"] := by
    rw [hqualified]
    exact sortPathIds_singleton ⟨_, rfl⟩
  obtain ⟨policy, hpolicy, hdecision, hpath, hconcurrent, halternate, -⟩ :=
    evaluatePolicy_ok htypes hpreference hjudged hsorted rfl rfl rfl
  rw [List.head?_cons] at hpath
  have hplain : PyJson.Plain Encodable (intentKeys localService) := plain_serviceIntent _ _ _ _ _ _ _ _
  have hencodable : ∀ pathId ∈ policy.selectedPath, Encodable pathId := by
    rintro pathId hpathId
    rw [hpath] at hpathId
    obtain rfl := Option.some.inj hpathId
    exact encodable_cp _
  obtain ⟨r, hr, hauthorized⟩ := resolveService_sample [(key "LOCAL_ADI_LOOPBACK", gatesDict true)]
    hplain hpolicy hencodable halternate hconcurrent (by rw [hpath]; rfl)
  have hverified : r.authorized = true := by
    rw [hauthorized, hdecision, hpath]
    decide
  refine ⟨r, ?_⟩
  rw [localBinding, hr, ok_bind, if_neg (not_not.2 hverified)]
  rfl

/-- A row of the remote packet without address is not qualified. -/
def unqualifiedRow (kind pathId : String) : PathRow where
  pathId := lit pathId
  pathType := some (lit kind)
  available := .bool false
  hostReachable := .bool false
  serviceReachable := .bool false
  qualified := .bool false
  identityState := lit "OBSERVED_PARTIAL"
  interface := .none
  serviceIdentity := lit service
  target := lit "taiji01:9110-over-existing-ssh"

/-- The remote intent has no route, but a binding. -/
theorem resolveRemote_sample : ∃ r, resolveService sampleLibrary remoteService
    [unqualifiedRow "LAN_IPV4" "MSI_ADI_LAN", unqualifiedRow "TAILSCALE_IPV4" "MSI_ADI_TAILSCALE"]
    [(key "MSI_ADI_LAN", gatesDict false), (key "MSI_ADI_TAILSCALE", gatesDict false)]
    (cp "1970-01-01T00:00:00+00:00") ttl (fun _ => 0) = .ok r := by
  obtain ⟨types, htypes⟩ : ∃ types, permittedTypes sampleLibrary remoteService = .ok types := ⟨_, rfl⟩
  obtain ⟨preference, hpreference⟩ : ∃ preference, intentPathOrder sampleLibrary remoteService =
    .ok preference := ⟨_, rfl⟩
  obtain ⟨judged, hjudged, hqualified⟩ : ∃ judged, judgeRows sampleLibrary remoteService types
      (.value .none) (fun _ => 0) (withPathIds sampleLibrary [unqualifiedRow "LAN_IPV4" "MSI_ADI_LAN",
        unqualifiedRow "TAILSCALE_IPV4" "MSI_ADI_TAILSCALE"]) = .ok judged ∧
      qualifiedIds judged = [] := by
    obtain rfl := Except.ok.inj htypes
    exact ⟨_, rfl, rfl⟩
  have hsorted : sortPathIds sampleLibrary (qualifiedIds judged) (withPathIds sampleLibrary
      [unqualifiedRow "LAN_IPV4" "MSI_ADI_LAN", unqualifiedRow "TAILSCALE_IPV4" "MSI_ADI_TAILSCALE"])
      preference = .ok [] := by
    rw [hqualified]
    exact sortPathIds_nil _ _ _
  obtain ⟨policy, hpolicy, -, hpath, hconcurrent, halternate, -⟩ :=
    evaluatePolicy_ok htypes hpreference hjudged hsorted rfl rfl rfl
  have hplain : PyJson.Plain Encodable (intentKeys remoteService) := plain_serviceIntent _ _ _ _ _ _ _ _
  rw [List.head?_nil] at hpath
  obtain ⟨r, hr, -⟩ := resolveService_sample
    [(key "MSI_ADI_LAN", gatesDict false), (key "MSI_ADI_TAILSCALE", gatesDict false)] hplain hpolicy
    (by simp [hpath]) halternate hconcurrent (by rw [hpath]; rfl)
  exact ⟨r, hr⟩

/-- The packet is read, and its own clock bounds it. -/
theorem remotePart_sample :
    ∃ remote, remotePart sampleHost sampleReadings none none = .ok remote ∧ remote.expiry = 1050 := by
  obtain ⟨r, hr⟩ := resolveRemote_sample
  have hlan : remoteRow sampleHost remotePacket "LAN_IPV4" "MSI_ADI_LAN" =
      .ok (unqualifiedRow "LAN_IPV4" "MSI_ADI_LAN", false) := rfl
  have htailscale : remoteRow sampleHost remotePacket "TAILSCALE_IPV4" "MSI_ADI_TAILSCALE" =
      .ok (unqualifiedRow "TAILSCALE_IPV4" "MSI_ADI_TAILSCALE", false) := rfl
  have hschema : getOr remotePacket "schema" .none = .ok (lit "MSI_TWO_PATH_HEALTH_OBSERVATION/1") := rfl
  have hsource : getOr remotePacket "source_node" .none = .ok (lit "MSI") := rfl
  have hobserved : getOr remotePacket "observed_at_epoch" (.int 0) = .ok (.int 1020) := rfl
  have hat : remotePacket.at (ε := Failure) "observed_at_epoch" = .ok (.int 1020) := rfl
  have hknown : ¬(¬(lit "MSI_TWO_PATH_HEALTH_OBSERVATION/1").eq (lit "MSI_TWO_PATH_HEALTH_OBSERVATION/1") ∨
      ¬(lit "MSI").eq (lit "MSI")) := by decide
  have hnear : sampleHost.apart 1000 (.int 1020) = .ok false := by decide
  have hexpiry : sampleHost.expiry (.int 1020) = .ok 1050 := rfl
  have hread : readRemote sampleHost sampleReadings none none = .ok ⟨some r, 1050, none⟩ := by
    rw [readRemote]
    dsimp only [sampleReadings]
    rw [ok_bind, hschema, ok_bind, hsource, ok_bind, if_neg hknown, hobserved, ok_bind, hnear, ok_bind,
      if_neg Bool.false_ne_true, hat, ok_bind, hexpiry, ok_bind, hlan, ok_bind, htailscale, ok_bind]
    dsimp only
    rw [show sampleHost.lib = sampleLibrary from rfl, hr, ok_bind]
    rfl
  exact ⟨_, by rw [remotePart, hread], rfl⟩

/-- A plain value has a hash. -/
theorem evidenceSha256_ok {v : PyVal} (h : PyJson.Plain Encodable v) :
    ∃ hash, evidenceSha256 v = .ok hash := by
  obtain ⟨bytes, hbytes⟩ := @PyJson.dumps_plain Failure PyJson.ascii (encodable_cp _) (encodable_cp _) v h
  obtain ⟨text, htext, hbytes⟩ := bind_eq_ok_iff.1 hbytes
  rw [evidenceSha256, htext, ok_bind, hbytes]
  exact ⟨_, rfl⟩

theorem plain_loopbackObservation : PyJson.Plain Encodable loopbackObservation := by
  have hreturned : PyJson.Plain Encodable (obj [("returncode", .int 0)]) :=
    PyJson.plain_obj (by simpa using PyJson.Plain.int 0)
  have hflags : PyJson.Plain Encodable (.list [lit "UP"]) :=
    .list _ (List.forall_mem_singleton.2 (PyJson.plain_lit _))
  have hlink : PyJson.Plain Encodable (obj [("flags", .list [lit "UP"]), ("ifname", lit "lo")]) :=
    PyJson.plain_obj (by simpa using ⟨hflags, PyJson.plain_lit "lo"⟩)
  refine PyJson.plain_obj ?_
  simp only [List.forall_mem_cons, List.not_mem_nil, false_imp_iff, implies_true, and_true]
  refine ⟨PyJson.plain_obj ?_, .list _ ?_⟩
  · simpa using hreturned
  · simpa using hlink

/-- The refresh finds everything it looks for. -/
theorem observe_sample : ∃ found,
    observe sampleHost sampleReadings (beginRefresh (Runtime.new sampleHost)) = .ok found ∧
      found.observation = loopbackObservation ∧ found.now = 1000 ∧ found.remote.expiry = 1050 := by
  obtain ⟨binding, hbinding⟩ := localBinding_sample
  obtain ⟨remote, hremote, hexpiry⟩ := remotePart_sample
  obtain ⟨routes, hroutes⟩ : ∃ routes, routeHash loopbackObservation = .ok routes := by
    have hv4 : getOr loopbackObservation "routes_v4" (.list []) = .ok (.list []) := rfl
    have hv6 : getOr loopbackObservation "routes_v6" (.list []) = .ok (.list []) := rfl
    have hnormalize : normalize (.list []) = .ok (.list []) := by
      rw [normalize, normalizeList, ok_bind]
      simp
      rfl
    rw [routeHash, hv4, ok_bind, hv6, ok_bind, hnormalize, ok_bind, ok_bind]
    have hnone : PyJson.Plain Encodable (.list []) := .list [] (by simp)
    exact evidenceSha256_ok (.list _ (by simpa using hnone))
  obtain ⟨dns, hdns⟩ : ∃ dns, dnsHash loopbackObservation = .ok dns := ⟨_, rfl⟩
  refine ⟨⟨loopbackObservation, binding, routes, dns, 1000, remote⟩, ?_, rfl, rfl, hexpiry⟩
  rw [observe]
  dsimp only [sampleReadings]
  rw [ok_bind, checkLocal_sample, ok_bind, show sampleHost.lib = sampleLibrary from rfl, hbinding, ok_bind,
    hroutes, ok_bind, hdns, ok_bind]
  exact congrArg (· >>= _) hremote

/-- The state after this refresh: the snapshot ends at second 1030, the remote packet at second 1050. -/
theorem refresh_sample : ∃ current,
    (refresh sampleHost sampleReadings (Runtime.new sampleHost)).current = some current ∧
      current.validUntilMonotonic = 1030 ∧
      (refresh sampleHost sampleReadings (Runtime.new sampleHost)).remoteValidUntilEpoch = 1050 := by
  obtain ⟨found, hfound, hobservation, hnow, hexpiry⟩ := observe_sample
  obtain ⟨evidence, hevidence⟩ := evidenceSha256_ok plain_loopbackObservation
  have hadd : sampleHost.addTtl found.now = .ok 1030 := by rw [hnow]; rfl
  rw [refresh, endRefresh, hfound]
  dsimp only
  rw [hadd, hobservation, hevidence]
  exact ⟨_, rfl, rfl, hexpiry⟩

/-- The clocks show second 1040, and the files answer. -/
def laterMoment : Moment ℤ where
  clock := 1040
  epoch := 1040
  activationGatesPass := .ok true
  totalFieldDecision := .ok ⟨"HOLD", "", .none, none⟩

/-- At second 1040 the snapshot is not fresh and the remote packet is: the status is on hold, and it shows
the paths of the snapshot. -/
theorem not_failsClosed_ahead :
    Reachable sampleHost (refresh sampleHost sampleReadings (Runtime.new sampleHost)) ∧
      ¬FailsClosed (status sampleHost (refresh sampleHost sampleReadings (Runtime.new sampleHost))
        laterMoment) := by
  have hreach : Reachable sampleHost (refresh sampleHost sampleReadings (Runtime.new sampleHost)) :=
    .refreshed _ _ .new
  refine ⟨hreach, ?_⟩
  obtain ⟨current, hcurrent, hvalid, hremote⟩ := refresh_sample
  generalize refresh sampleHost sampleReadings (Runtime.new sampleHost) = s at *
  have hfresh : fresh sampleHost s laterMoment = false := by
    rw [fresh, hcurrent, Option.any_some, hvalid]
    decide
  have hahead : remoteFresh sampleHost s laterMoment = true := by
    rw [remoteFresh, hremote]
    decide
  rintro ⟨st, hst, hclosed⟩
  obtain ⟨-, -, havailable, -, hhealth⟩ := of_status_ok hst
  have hnothing := (hclosed (hhealth.trans (health_eq_hold_iff.2 hfresh))).1
  rw [shownPaths, if_pos hahead, hcurrent] at havailable
  exact paths_ne_nil hreach hcurrent ((Except.ok.inj havailable).trans hnothing)

/-- The status of a new runtime fails closed. -/
theorem failsClosed_new : FailsClosed (status sampleHost (Runtime.new sampleHost) laterMoment) :=
  (status_failsClosed_iff .new laterMoment).2
    ⟨⟨fun _ => ⟨true, rfl⟩, _, rfl⟩, .inr (by decide)⟩

end AdaptiveNetwork
