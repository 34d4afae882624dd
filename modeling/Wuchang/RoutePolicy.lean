/-
**The policy of the adaptive network: which path may serve an intent.**

`policy_engine.py` and `zone_policy.py` judge the path rows that were observed for an intent.  Each row
is given an identifier, its own or one made from its type and its target; a row with no denial reason is
qualified; the qualified identifiers are sorted by the preference of the intent, and the first of them
is selected.  The row that is reported is then looked up again by its identifier.

What the dictionaries hold is arbitrary.  A row and an intent are modelled by the values under the keys
that are read, a missing key by the default it is read with.

Main definitions:

* `AdaptiveNetwork.PathRow`, `AdaptiveNetwork.Intent` — the dictionaries that are judged;
* `AdaptiveNetwork.evaluateZonePolicy` — the types of paths between two zones;
* `AdaptiveNetwork.withPathIds`, `AdaptiveNetwork.sortPathIds` — identifiers, and their order;
* `AdaptiveNetwork.denialReasons` — what speaks against a row;
* `AdaptiveNetwork.evaluatePolicy` — the selection;
* `AdaptiveNetwork.Fit` — nothing speaks against a row.

Main results:

* `AdaptiveNetwork.denialReasons_eq_nil_iff` — a row without denial reasons is fit;
* `AdaptiveNetwork.evaluatePolicy_selected` — what a selection is made of.
-/

import Wuchang.PyValue

set_option relaxedAutoImplicit false
set_option autoImplicit false

namespace AdaptiveNetwork

open Py

/-! ### The standard library -/

/-- Exceptions that `Builtin` does not name: two of the interpreter, and the `ValueError` the code
raises with a reason. -/
inductive Failure where
  | overflowError
  | runtimeError
  | refused (reason : String)
  deriving DecidableEq, Repr

/-- An exception. -/
abbrev Fault := Raise Failure

/-- `raise TypeError` -/
def typeError {α : Type} : Except Fault α := .error (.builtin .typeError)

/-- An instant, in microseconds. -/
abbrev Time := ℤ

/-- What the standard library makes of texts and of values that are no texts.  Nothing is assumed about
it. -/
structure Library where
  /-- `str(v)`, when `v` is not a text -/
  reprOf : PyVal → PyStr
  /-- `float(v)` -/
  floatOf : PyVal → Except Fault PyFloat
  /-- `datetime.fromisoformat(s)` in UTC; nothing for `ValueError` -/
  fromIsoFormat : PyStr → Option (Except Fault Time)
  /-- `isoformat` of an instant in UTC, without the offset -/
  isoFormat : Time → PyStr

/-- `str(v)` -/
def Library.str (lib : Library) : PyVal → PyStr
  | .str s => s
  | v => lib.reprOf v

/-- A value that may be a `datetime`. -/
inductive TimeValue where
  | datetime (t : Time)
  | value (v : PyVal)

/-- `bool(v)` -/
def TimeValue.truthy : TimeValue → Bool
  | .datetime _ => true
  | .value v => v.truthy

/-- `s.replace("Z", "+00:00")` -/
def replaceZ (s : PyStr) : PyStr := s.flatMap fun c => if c = 90 then cp "+00:00" else [c]

/-- `_parse_time` -/
def parseTime (lib : Library) : TimeValue → Except Fault (Option Time)
  | .datetime t => .ok (some t)
  | .value (.str s) =>
      match lib.fromIsoFormat (replaceZ s) with
      | none => .ok none
      | some t => t.map some
  | .value _ => .ok none

/-- `v or w` -/
def orElse (v w : PyVal) : PyVal := if v.truthy then v else w

/-- A value that can be an element of a set. -/
def hashable : PyVal → Bool
  | .list _ => false
  | .dict _ => false
  | _ => true

/-- The elements that `for x in v` visits. -/
def iterate : PyVal → Except Fault (List PyVal)
  | .list xs => .ok xs
  | .str s => .ok (s.map fun c => .str [c])
  | .dict items => .ok (items.map fun p => match p.1 with
      | .str s => .str s
      | .other => .other)
  | _ => typeError

/-- `set(v)` -/
def asSet (v : PyVal) : Except Fault (List PyVal) := do
  let xs ← iterate v
  if xs.all hashable then pure xs else typeError

/-- `sorted(set(texts))` -/
def sortedSet (texts : List PyStr) : List PyStr := texts.dedup.mergeSort fun a b => a ≤ b

/-- `math.isnan(x)` -/
def isNan (x : PyFloat) : Bool := !x.isFinite && x.frac ≠ 0

/-- `x == y`; the value of an infinity is beyond all others. -/
def floatEq (x y : PyFloat) : Bool := !isNan x && !isNan y && x.value = y.value

/-- `x < y` -/
def floatLt (x y : PyFloat) : Bool := !isNan x && !isNan y && x.value < y.value

/-- `-x` -/
def floatNeg (x : PyFloat) : PyFloat := { x with neg := !x.neg }

/-! ### Rows and intents -/

/-- A path row, by what is read of the dictionary. -/
structure PathRow where
  pathId : PyVal := .none
  pathType : Option PyVal := none
  target : PyVal := .none
  interface : PyVal := .none
  available : PyVal := .bool false
  hostReachable : PyVal := .bool false
  serviceReachable : PyVal := .bool false
  qualified : PyVal := .bool false
  stale : PyVal := .bool false
  expiresAt : TimeValue := .value .none
  identityState : PyVal := lit "OBSERVED_PARTIAL"
  serviceIdentity : PyVal := .none
  intentId : PyVal := .none
  candidateScore : PyVal := .float ⟨false, 0, 0, PyFloat.expo_zero, PyFloat.frac_zero⟩

/-- An intent, by what is read of the dictionary. -/
structure Intent where
  intentId : Option PyVal := none
  sourceNode : Option PyVal := none
  sourceZone : Option PyVal := none
  targetNode : Option PyVal := none
  targetZone : Option PyVal := none
  serviceIdentity : Option PyVal := none
  serviceClass : Option PyVal := none
  publishedGatewayBound : Option PyVal := none
  permittedPaths : PyVal := .none
  concurrentPaths : PyVal := .none
  allowConcurrentPaths : PyVal := .bool false
  pathPreference : PyVal := .none
  targetIdentityState : PyVal := lit "OBSERVED_PARTIAL"

/-- `d.get(k)` for a key without default. -/
def orNone (v : Option PyVal) : PyVal := v.getD .none

/-! ### Zones -/

/-- `ZONE_PATH_RULES`, the types in order -/
def zonePathRules : List ((String × String) × List String) := [
  (("ZONE_CORE", "ZONE_CORE"), ["CONTAINER_LOCAL_PATH", "LAN_IPV4", "LOOPBACK_SERVICE_PATH",
    "NATIVE_IPV6", "TAILSCALE_IPV4", "TAILSCALE_IPV6"]),
  (("ZONE_MANAGEMENT", "ZONE_MANAGEMENT"), ["LAN_IPV4", "TAILSCALE_IPV4", "TAILSCALE_IPV6"]),
  (("ZONE_TAILSCALE", "ZONE_MANAGEMENT"), ["TAILSCALE_IPV4", "TAILSCALE_IPV6"]),
  (("ZONE_TAILSCALE", "ZONE_CORE"), ["TAILSCALE_IPV4", "TAILSCALE_IPV6"]),
  (("ZONE_MANAGEMENT", "ZONE_CORE"), ["LAN_IPV4", "TAILSCALE_IPV4", "TAILSCALE_IPV6"]),
  (("ZONE_GUEST_SERVICE", "ZONE_GUEST_SERVICE"), ["GUEST_SERVICE_PATH"]),
  (("ZONE_IOT", "ZONE_IOT_SERVICE"), ["IOT_SERVICE_PATH"]),
  (("ZONE_CORE", "ZONE_IOT_SERVICE"), ["IOT_SERVICE_PATH"]),
  (("ZONE_WAN", "ZONE_FUTURE_PUBLIC_SERVICE"), ["WAN_PUBLICATION_PATH"])]

/-- `PUBLIC_DIRECT_DENY_ZONES` -/
def publicDirectDenyZones : List String := ["ZONE_CORE", "ZONE_MANAGEMENT", "ZONE_TAILSCALE",
  "ZONE_GUEST_SERVICE", "ZONE_IOT", "ZONE_IOT_SERVICE", "ZONE_TOTAL_FIELD", "ZONE_DATABASE"]

/-- The dictionary `_decision` builds. -/
structure ZoneDecision where
  allowed : Bool
  sourceZone : PyStr
  targetZone : PyStr
  allowedPathTypes : List PyStr
  reason : String

/-- `evaluate_zone_policy` -/
def evaluateZonePolicy (lib : Library) (intent : Intent) : ZoneDecision :=
  let sourceZone := lib.str (orElse (orNone intent.sourceZone) (lit "LOCALIZED_UNKNOWN"))
  let targetZone := lib.str (orElse (orNone intent.targetZone) (lit "LOCALIZED_UNKNOWN"))
  let deny (reason : String) : ZoneDecision := ⟨false, sourceZone, targetZone, [], reason⟩
  if sourceZone = cp "ZONE_WAN" ∧ targetZone ∈ publicDirectDenyZones.map cp then
    deny "WAN_DIRECT_TO_PROTECTED_ZONE_DENIED"
  else if sourceZone = cp "ZONE_WAN" ∧ targetZone = cp "ZONE_FUTURE_PUBLIC_SERVICE" ∧
      ¬(orNone intent.serviceClass).eq (lit "PUBLIC_APPLICATION") then
    deny "WAN_SERVICE_IS_NOT_EXPLICIT_PUBLIC_APPLICATION"
  else if sourceZone = cp "ZONE_WAN" ∧ targetZone = cp "ZONE_FUTURE_PUBLIC_SERVICE" ∧
      ¬(orNone intent.publishedGatewayBound matches .bool true) then
    deny "WAN_PUBLISHED_GATEWAY_NOT_BOUND"
  else match zonePathRules.find? fun rule => cp rule.1.1 = sourceZone ∧ cp rule.1.2 = targetZone with
  | none => deny "ZONE_RELATION_NOT_DECLARED_FOR_THIS_INTENT"
  | some rule =>
      ⟨true, sourceZone, targetZone, rule.2.map cp, "ZONE_RELATION_CANDIDATE_ALLOWED"⟩

/-! ### Identifiers -/

/-- `DEFAULT_PATH_ORDER` -/
def defaultPathOrder : List String := ["LOOPBACK_SERVICE_PATH", "CONTAINER_LOCAL_PATH", "LAN_IPV4",
  "TAILSCALE_IPV4", "NATIVE_IPV6", "TAILSCALE_IPV6", "GUEST_SERVICE_PATH", "IOT_SERVICE_PATH",
  "WAN_PUBLICATION_PATH"]

/-- `IPV6_PATH_TYPES` -/
def ipv6PathTypes : List String := ["NATIVE_IPV6", "TAILSCALE_IPV6"]

/-- `row.get("path_type", "UNKNOWN")` -/
def PathRow.type (row : PathRow) : PyVal := row.pathType.getD (lit "UNKNOWN")

/-- The identifier `_with_path_ids` gives to the row at a position, where `unique` says that no other
row has its type. -/
def pathIdOf (lib : Library) (unique : Bool) (index : ℕ) (row : PathRow) : PyStr :=
  let pathType := lib.str row.type
  let pathId := if ¬row.pathId.truthy ∧ unique then .str pathType else row.pathId
  if pathId.truthy then lib.str pathId
  else
    let coordinate := orElse (orElse row.target row.interface) (.str (intText index))
    pathType ++ cp "@" ++ lib.str coordinate

/-- `_with_path_ids`: the rows, with their identifiers. -/
def withPathIds (lib : Library) (paths : List PathRow) : List (PyStr × PathRow) :=
  paths.zipIdx.map fun p => (pathIdOf lib
    ((paths.filter fun row => lib.str row.type = lib.str p.1.type).length = 1) p.2 p.1, p.1)

/-- `_intent_path_order` -/
def intentPathOrder (lib : Library) (intent : Intent) : Except Fault (List PyStr) :=
  let requested := orElse intent.pathPreference intent.permittedPaths
  if ¬requested.truthy then .ok (defaultPathOrder.map cp)
  else do
    let values ← iterate requested
    let ordered := values.map lib.str
    pure (ordered ++ (defaultPathOrder.map cp).filter fun value => value ∉ ordered)

/-- `rank.get(value)`: the last position of the value. -/
def rankOf (preference : List PyStr) (value : PyStr) : Option ℕ := preference.zipIdx.reverse.lookup value

/-- The key by which `_sort_path_ids` sorts. -/
structure PathKey where
  rank : ℕ
  score : PyFloat
  pathId : PyStr

/-- `a < b` for tuples -/
def PathKey.lt (a b : PathKey) : Bool :=
  if a.rank ≠ b.rank then a.rank < b.rank
  else if ¬floatEq a.score b.score then floatLt a.score b.score
  else a.pathId < b.pathId

/-- The key of an identifier; of the rows that share it the last one counts. -/
def pathKey (lib : Library) (rows : List (PyStr × PathRow)) (preference : List PyStr)
    (pathId : PyStr) : Except Fault PathKey := do
  let row ← getKey rows.reverse pathId
  let score ← lib.floatOf row.candidateScore
  let byType := (rankOf preference (lib.str (orNone row.pathType))).getD preference.dedup.length
  pure ⟨(rankOf preference pathId).getD byType, floatNeg score, pathId⟩

/-- `_sort_path_ids` -/
def sortPathIds (lib : Library) (pathIds : List PyStr) (rows : List (PyStr × PathRow))
    (preference : List PyStr) : Except Fault (List PyStr) := do
  let keys ← pathIds.mapM (pathKey lib rows preference)
  pure ((keys.mergeSort fun a b => !b.lt a).map PathKey.pathId)

/-! ### What speaks against a row -/

/-- `path_is_stale`, where `clock` is the reading of the clock when no time is given. -/
def pathIsStale (lib : Library) (now : TimeValue) (clock : Time) (row : PathRow) : Except Fault Bool :=
  if row.stale.truthy then .ok true
  else if ¬row.expiresAt.truthy then .ok false
  else do
    let expiry ← parseTime lib row.expiresAt
    let current ← match now with
      | .value .none => pure (some clock)
      | now => parseTime lib now
    match expiry, current with
    | some expiry, some current => pure (expiry ≤ current)
    | _, _ => pure true

/-- `_base_eligible` -/
def baseEligible (row : PathRow) : Bool :=
  row.available.truthy && row.hostReachable.truthy && row.serviceReachable.truthy &&
    !row.identityState.eq (lit "CONFLICT")

/-- The types that the intent and the zones permit. -/
def permittedTypes (lib : Library) (intent : Intent) : Except Fault (List PyStr) := do
  let requested ← asSet (orElse intent.permittedPaths (.list (defaultPathOrder.map lit)))
  pure ((evaluateZonePolicy lib intent).allowedPathTypes.filter fun s => requested.any (·.eq (.str s)))

/-- The reason, when the condition holds. -/
def reasonWhen (c : Prop) [Decidable c] (reason : String) : List PyStr := if c then [cp reason] else []

/-- The denial reasons of a row, in the order in which they are found. -/
def denialReasons (lib : Library) (intent : Intent) (permitted : List PyStr) (now : TimeValue)
    (clock : Time) (row : PathRow) : Except Fault (List PyStr) := do
  let stale ← pathIsStale lib now clock row
  if ¬hashable row.type then typeError
  else pure (reasonWhen (stale = true) "STALE_EVIDENCE" ++
    reasonWhen (¬permitted.any (row.type.eq <| .str ·)) "PATH_NOT_PERMITTED_FOR_INTENT_OR_ZONE" ++
    reasonWhen (row.serviceIdentity.truthy ∧ ¬row.serviceIdentity.eq (orNone intent.serviceIdentity))
      "SERVICE_IDENTITY_MISMATCH" ++
    reasonWhen (row.intentId.truthy ∧ ¬row.intentId.eq (orNone intent.intentId))
      "INTENT_BINDING_MISMATCH" ++
    reasonWhen (row.identityState.eq (lit "CONFLICT")) "PATH_IDENTITY_CONFLICT" ++
    reasonWhen (ipv6PathTypes.any (row.type.eq <| lit ·) ∧ ¬row.qualified.truthy)
      "IPV6_CANDIDATE_NOT_QUALIFIED" ++
    reasonWhen (¬baseEligible row) "PATH_OR_SERVICE_NOT_REACHABLE")

/-! ### The selection -/

/-- A row that was judged. -/
structure Judged where
  pathId : PyStr
  row : PathRow
  reasons : List PyStr

/-- The loop over the rows; `clock i` is the reading of the clock at the row at position `i`. -/
def judgeRows (lib : Library) (intent : Intent) (permitted : List PyStr) (now : TimeValue)
    (clock : ℕ → Time) (rows : List (PyStr × PathRow)) : Except Fault (List Judged) :=
  rows.zipIdx.mapM fun p => do
    let reasons ← denialReasons lib intent permitted now (clock p.2) p.1.2
    pure ⟨p.1.1, p.1.2, reasons⟩

/-- The identifiers of the rows without denial reasons. -/
def qualifiedIds (judged : List Judged) : List PyStr :=
  (judged.filter fun j => j.reasons = []).map Judged.pathId

/-- The dictionary `evaluate_policy` returns. -/
structure Policy where
  candidateDecision : String
  reason : String
  selectedPath : Option PyStr
  selectedPathType : PyVal
  selectedInterface : PyVal
  selectedTarget : PyVal
  alternatePaths : List PyStr
  concurrentPaths : List PyStr
  availablePathSet : List PyStr
  qualifiedPathSet : List PyStr
  deniedPathSet : List PyStr
  stalePathSet : List PyStr
  denialReasons : List (PyStr × List PyStr)
  zonePolicy : ZoneDecision

/-- The identifiers that may be used at the same time. -/
def concurrentIds (intent : Intent) (qualified : List PyStr) : Except Fault (List PyStr) := do
  let requested ← asSet (orElse intent.concurrentPaths (.list []))
  if intent.allowConcurrentPaths.truthy ∧ requested = [] then pure qualified
  else pure (qualified.filter fun pathId => requested.any (·.eq (.str pathId)))

/-- The candidate decision and its reason, when a row is selected or not. -/
def candidateDecision (zone : ZoneDecision) (identityState : PyVal) (selected noPaths : Bool) :
    String × String :=
  if identityState.eq (lit "CONFLICT") then ("HOLD", "TARGET_IDENTITY_CONFLICT")
  else if ["UNKNOWN", "LOCALIZED_UNKNOWN"].any (identityState.eq <| lit ·) then
    ("HOLD", "TARGET_IDENTITY_NOT_BOUND")
  else if ¬zone.allowed then ("DENY", zone.reason)
  else if selected then ("CANDIDATE_PATH_SELECTED", "PER_INTENT_QUALIFIED_PATH_SELECTED")
  else if noPaths then ("LOCALIZED_UNKNOWN", "NO_CURRENT_PATH_EVIDENCE")
  else ("HOLD", "NO_QUALIFIED_PATH_FOR_THIS_INTENT")

/-- The target is bound and the zones are related: a selection is not taken back. -/
def selectionStands (zone : ZoneDecision) (identityState : PyVal) : Bool :=
  !(["CONFLICT", "UNKNOWN", "LOCALIZED_UNKNOWN"].any (identityState.eq <| lit ·)) && zone.allowed

/-- `evaluate_policy` -/
def evaluatePolicy (lib : Library) (intent : Intent) (paths : List PathRow) (now : TimeValue)
    (clock : ℕ → Time) : Except Fault Policy := do
  let zone := evaluateZonePolicy lib intent
  let rows := withPathIds lib paths
  let permitted ← permittedTypes lib intent
  let preference ← intentPathOrder lib intent
  let judged ← judgeRows lib intent permitted now clock rows
  let qualified ← sortPathIds lib (qualifiedIds judged) rows preference
  let concurrent ← concurrentIds intent qualified
  if ¬hashable intent.targetIdentityState then typeError
  else
    let stands := selectionStands zone intent.targetIdentityState
    let selected := qualified.head?.bind fun pathId => rows.lookup pathId
    let decision := candidateDecision zone intent.targetIdentityState selected.isSome paths.isEmpty
    let reported := if stands then selected else none
    pure {
      candidateDecision := decision.1
      reason := decision.2
      selectedPath := if stands then qualified.head? else none
      selectedPathType := orNone (reported.bind PathRow.pathType)
      selectedInterface := orNone (reported.map PathRow.interface)
      selectedTarget := orNone (reported.map PathRow.target)
      alternatePaths := qualified.filter fun pathId => some pathId ≠ qualified.head?
      concurrentPaths := if stands then concurrent else []
      availablePathSet := sortedSet ((judged.filter fun j => j.row.available.truthy).map Judged.pathId)
      qualifiedPathSet := qualified
      deniedPathSet := sortedSet ((judged.filter fun j => j.reasons ≠ []).map Judged.pathId)
      stalePathSet := sortedSet
        ((judged.filter fun j => cp "STALE_EVIDENCE" ∈ j.reasons).map Judged.pathId)
      denialReasons := (judged.filter fun j => j.reasons ≠ []).map fun j => (j.pathId, sortedSet j.reasons)
      zonePolicy := zone }

/-! ### Fit rows -/

/-- Nothing speaks against the row: it is not stale, the intent and the zones permit its type, its
service and its intent are not other ones, its identity is not in conflict, it is available and
reachable, and qualified if it is an IPv6 path. -/
structure Fit (lib : Library) (intent : Intent) (now : TimeValue) (clock : Time) (row : PathRow) :
    Prop where
  fresh : pathIsStale lib now clock row = .ok false
  permitted : ∃ types, permittedTypes lib intent = .ok types ∧ ∃ s ∈ types, row.type = .str s
  service : row.serviceIdentity.truthy → row.serviceIdentity.eq (orNone intent.serviceIdentity)
  binding : row.intentId.truthy → row.intentId.eq (orNone intent.intentId)
  identity : row.identityState ≠ lit "CONFLICT"
  reachable : row.available.truthy ∧ row.hostReachable.truthy ∧ row.serviceReachable.truthy
  ipv6 : ∀ s ∈ ipv6PathTypes, row.type = lit s → row.qualified.truthy

theorem reasonWhen_eq_nil_iff {c : Prop} [Decidable c] {reason : String} :
    reasonWhen c reason = [] ↔ ¬c := by
  rw [reasonWhen]
  split_ifs with h
  · simp [h]
  · simp [h]

/-- A row without denial reasons is fit. -/
theorem denialReasons_eq_nil_iff {lib : Library} {intent : Intent} {types : List PyStr}
    (htypes : permittedTypes lib intent = .ok types) (now : TimeValue) (clock : Time) (row : PathRow) :
    denialReasons lib intent types now clock row = .ok [] ↔ Fit lib intent now clock row := by
  have hany : types.any (row.type.eq <| .str ·) = true ↔ ∃ s ∈ types, row.type = .str s := by
    simp [List.any_eq_true]
  have hipv6 : ipv6PathTypes.any (row.type.eq <| lit ·) = true ↔ ∃ s ∈ ipv6PathTypes, row.type = lit s := by
    simp [List.any_eq_true]
  rw [denialReasons, bind_eq_ok_iff]
  constructor
  · rintro ⟨stale, hstale, h⟩
    split_ifs at h
    swap
    · cases h
    rw [pure_eq_ok_iff] at h
    simp only [List.append_eq_nil_iff, reasonWhen_eq_nil_iff, hany, hipv6] at h
    obtain ⟨⟨⟨⟨⟨⟨hfresh, htype⟩, hservice⟩, hintent⟩, hidentity⟩, hv6⟩, heligible⟩ := h
    rw [not_not] at htype heligible
    simp only [baseEligible, Bool.and_eq_true] at heligible
    refine ⟨?_, ⟨types, htypes, htype⟩, ?_, ?_, ?_, ⟨heligible.1.1.1, heligible.1.1.2, heligible.1.2⟩, ?_⟩
    · rw [hstale, Bool.not_eq_true] at *
      rw [hfresh]
    · intro htruthy
      by_contra hne
      exact hservice ⟨htruthy, hne⟩
    · intro htruthy
      by_contra hne
      exact hintent ⟨htruthy, hne⟩
    · intro heq
      exact hidentity (PyVal.eq_lit.2 heq)
    · intro s hs heq
      by_contra hq
      exact hv6 ⟨⟨s, hs, heq⟩, hq⟩
  · intro h
    obtain ⟨types', htypes', htype⟩ := h.permitted
    obtain rfl : types' = types := Except.ok.inj (htypes'.symm.trans htypes)
    refine ⟨false, h.fresh, ?_⟩
    have hhash : hashable row.type = true := by
      obtain ⟨s, -, hs⟩ := htype
      rw [hs]
      rfl
    have hidentity : ¬(row.identityState.eq (lit "CONFLICT") = true) :=
      fun heq => h.identity (PyVal.eq_lit.1 heq)
    rw [if_neg (not_not.2 hhash), pure_eq_ok_iff]
    simp only [List.append_eq_nil_iff, reasonWhen_eq_nil_iff, hany, hipv6]
    refine ⟨⟨⟨⟨⟨⟨by simp, not_not.2 htype⟩, ?_⟩, ?_⟩, hidentity⟩, ?_⟩, ?_⟩
    · rintro ⟨htruthy, hne⟩
      exact hne (h.service htruthy)
    · rintro ⟨htruthy, hne⟩
      exact hne (h.binding htruthy)
    · rintro ⟨⟨s, hs, heq⟩, hq⟩
      exact hq (h.ipv6 s hs heq)
    · obtain ⟨havailable, hhost, hservice⟩ := h.reachable
      rw [Bool.not_eq_true] at hidentity
      rw [not_not, baseEligible, havailable, hhost, hservice, hidentity]
      rfl

/-! ### What a selection is made of -/

/-- The identifier that the order puts first among the rows without denial reasons. -/
def preferred (lib : Library) (intent : Intent) (paths : List PathRow) (now : TimeValue)
    (clock : ℕ → Time) : Except Fault (Option PyStr) := do
  let rows := withPathIds lib paths
  let permitted ← permittedTypes lib intent
  let preference ← intentPathOrder lib intent
  let judged ← judgeRows lib intent permitted now clock rows
  let qualified ← sortPathIds lib (qualifiedIds judged) rows preference
  pure qualified.head?

/-- Sorting identifiers permutes them. -/
theorem sortPathIds_perm {lib : Library} {pathIds sorted : List PyStr} {rows : List (PyStr × PathRow)}
    {preference : List PyStr} (h : sortPathIds lib pathIds rows preference = .ok sorted) :
    sorted.Perm pathIds := by
  obtain ⟨keys, hkeys, hsorted⟩ := bind_eq_ok_iff.1 h
  obtain rfl := pure_eq_ok_iff.1 hsorted
  refine ((List.mergeSort_perm _ _).map PathKey.pathId).trans (.of_eq ?_)
  have hall := forall₂_of_mapM hkeys
  clear h hkeys hsorted
  induction hall with
  | nil => rfl
  | cons hkey _ ih =>
      obtain ⟨row, -, hkey⟩ := bind_eq_ok_iff.1 hkey
      obtain ⟨score, -, hkey⟩ := bind_eq_ok_iff.1 hkey
      obtain rfl := pure_eq_ok_iff.1 hkey
      rw [List.map_cons, ih]

theorem sortPathIds_nil (lib : Library) (rows : List (PyStr × PathRow)) (preference : List PyStr) :
    sortPathIds lib [] rows preference = .ok [] := by
  rw [sortPathIds, List.mapM_nil]
  simp [pure, Except.pure, bind, Except.bind]

/-- One identifier is sorted. -/
theorem sortPathIds_singleton {lib : Library} {pathId : PyStr} {rows : List (PyStr × PathRow)}
    {preference : List PyStr} (h : ∃ key, pathKey lib rows preference pathId = .ok key) :
    sortPathIds lib [pathId] rows preference = .ok [pathId] := by
  obtain ⟨key, hkey⟩ := h
  have hsorted : ∃ sorted, sortPathIds lib [pathId] rows preference = .ok sorted := by
    rw [sortPathIds, List.mapM_cons, hkey]
    exact ⟨_, rfl⟩
  obtain ⟨sorted, hsorted⟩ := hsorted
  rw [hsorted, List.perm_singleton.1 (sortPathIds_perm hsorted)]

/-- The policy is evaluated when its parts are. -/
theorem evaluatePolicy_ok {lib : Library} {intent : Intent} {paths : List PathRow} {now : TimeValue}
    {clock : ℕ → Time} {types preference qualified concurrent : List PyStr} {judged : List Judged}
    (htypes : permittedTypes lib intent = .ok types)
    (hpreference : intentPathOrder lib intent = .ok preference)
    (hjudged : judgeRows lib intent types now clock (withPathIds lib paths) = .ok judged)
    (hqualified : sortPathIds lib (qualifiedIds judged) (withPathIds lib paths) preference =
      .ok qualified)
    (hconcurrent : concurrentIds intent qualified = .ok concurrent)
    (hhashable : hashable intent.targetIdentityState = true)
    (hstands : selectionStands (evaluateZonePolicy lib intent) intent.targetIdentityState = true) :
    ∃ policy, evaluatePolicy lib intent paths now clock = .ok policy ∧
      policy.candidateDecision = (candidateDecision (evaluateZonePolicy lib intent)
        intent.targetIdentityState
        (qualified.head?.bind fun pathId => (withPathIds lib paths).lookup pathId).isSome
        paths.isEmpty).1 ∧
      policy.selectedPath = qualified.head? ∧ policy.concurrentPaths = concurrent ∧
      policy.alternatePaths = qualified.filter (fun pathId => some pathId ≠ qualified.head?) ∧
      policy.selectedInterface = orNone ((qualified.head?.bind fun pathId =>
        (withPathIds lib paths).lookup pathId).map PathRow.interface) := by
  rw [evaluatePolicy, htypes, ok_bind, hpreference, ok_bind, hjudged, ok_bind, hqualified, ok_bind,
    hconcurrent, ok_bind, if_neg (not_not.2 hhashable)]
  refine ⟨_, rfl, rfl, if_pos hstands, if_pos hstands, rfl, ?_⟩
  dsimp only
  rw [if_pos hstands]

/-- The qualified identifiers are those of the fit rows. -/
theorem mem_qualifiedIds {lib : Library} {intent : Intent} {types : List PyStr}
    (htypes : permittedTypes lib intent = .ok types) {now : TimeValue} {clock : ℕ → Time}
    {rows : List (PyStr × PathRow)} {judged : List Judged}
    (hjudged : judgeRows lib intent types now clock rows = .ok judged) {pathId : PyStr} :
    pathId ∈ qualifiedIds judged ↔
      ∃ i row, rows[i]? = some (pathId, row) ∧ Fit lib intent now (clock i) row := by
  simp only [qualifiedIds, List.mem_map, List.mem_filter, decide_eq_true_eq, mem_of_mapM hjudged]
  constructor
  · rintro ⟨j, ⟨⟨p, hp, hj⟩, hreasons⟩, rfl⟩
    obtain ⟨reasons, hdenial, hj⟩ := bind_eq_ok_iff.1 hj
    obtain rfl := pure_eq_ok_iff.1 hj
    obtain rfl : reasons = [] := hreasons
    exact ⟨p.2, p.1.2, List.mem_zipIdx_iff_getElem?.1 hp,
      (denialReasons_eq_nil_iff htypes now _ _).1 hdenial⟩
  · rintro ⟨i, row, hrow, hfit⟩
    refine ⟨⟨pathId, row, []⟩, ⟨⟨((pathId, row), i), List.mem_zipIdx_iff_getElem?.2 hrow, ?_⟩, rfl⟩, rfl⟩
    rw [(denialReasons_eq_nil_iff htypes now _ _).2 hfit]
    rfl

/-- A candidate is only selected for a bound target between related zones. -/
theorem candidateDecision_selected {zone : ZoneDecision} {identityState : PyVal}
    {selected noPaths : Bool}
    (h : (candidateDecision zone identityState selected noPaths).1 = "CANDIDATE_PATH_SELECTED") :
    selectionStands zone identityState = true ∧ selected = true := by
  unfold candidateDecision at h
  split_ifs at h with hconflict hunknown hallowed hselected
  · exact absurd h (by decide)
  · exact absurd h (by decide)
  · rw [Bool.not_eq_true] at hconflict hunknown
    rw [selectionStands, List.any_cons, hconflict, hunknown, hallowed]
    exact ⟨rfl, hselected⟩
  · exact absurd h (by decide)
  · exact absurd h (by decide)
  · have hdeny : ("DENY" : String) = "CANDIDATE_PATH_SELECTED" := h
    exact absurd hdeny (by decide)

/-- When a path is selected, it is the preferred one, and the first row of its identifier is
reported. -/
theorem evaluatePolicy_selected {lib : Library} {intent : Intent} {paths : List PathRow}
    {now : TimeValue} {clock : ℕ → Time} {policy : Policy}
    (h : evaluatePolicy lib intent paths now clock = .ok policy)
    (hselected : policy.candidateDecision = "CANDIDATE_PATH_SELECTED") :
    ∃ pathId row, preferred lib intent paths now clock = .ok (some pathId) ∧
      (withPathIds lib paths).lookup pathId = some row ∧ policy.selectedPath = some pathId ∧
      policy.selectedPathType = orNone row.pathType ∧ policy.selectedInterface = row.interface ∧
      policy.selectedTarget = row.target ∧
      ∃ i row', (withPathIds lib paths)[i]? = some (pathId, row') ∧
        Fit lib intent now (clock i) row' := by
  obtain ⟨types, htypes, h⟩ := bind_eq_ok_iff.1 h
  obtain ⟨preference, hpreference, h⟩ := bind_eq_ok_iff.1 h
  obtain ⟨judged, hjudged, h⟩ := bind_eq_ok_iff.1 h
  obtain ⟨qualified, hqualified, h⟩ := bind_eq_ok_iff.1 h
  obtain ⟨concurrent, hconcurrent, h⟩ := bind_eq_ok_iff.1 h
  split_ifs at h
  swap
  · cases h
  obtain rfl := pure_eq_ok_iff.1 h
  have hpreferred : preferred lib intent paths now clock = .ok qualified.head? := by
    rw [preferred, htypes, ok_bind, hpreference, ok_bind, hjudged, ok_bind, hqualified]
    rfl
  obtain ⟨hstands, hsome⟩ := candidateDecision_selected hselected
  obtain ⟨row, hrow⟩ := Option.isSome_iff_exists.1 hsome
  obtain ⟨pathId, hhead, hlookup⟩ := Option.bind_eq_some_iff.1 hrow
  have hmem : pathId ∈ qualifiedIds judged :=
    (sortPathIds_perm hqualified).subset (List.mem_of_mem_head? hhead)
  refine ⟨pathId, row, by rw [hpreferred, hhead], hlookup, ?_, ?_, ?_, ?_,
    (mem_qualifiedIds htypes hjudged).1 hmem⟩
  · dsimp only
    rw [if_pos hstands, hhead]
  · dsimp only
    rw [if_pos hstands, hrow]
    rfl
  · dsimp only
    rw [if_pos hstands, hrow]
    rfl
  · dsimp only
    rw [if_pos hstands, hrow]
    rfl

end AdaptiveNetwork
