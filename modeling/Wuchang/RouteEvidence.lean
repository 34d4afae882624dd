/-
**Route decisions and their evidence: which paths are active, and until when.**

A decision of `select_route` names the paths that are active now and the time at which it expires.  The
selected path is active when the decision authorizes it; a path that may be used beside it is active
when its own gates hold, whatever the decision is.  The expiry is that of the first row of the input
that goes by the identifier of the selected path: by its own identifier, by its type, or by its type and
target.  The policy gave that identifier by another rule, and the row that it selected need not be the
first one that goes by it, or go by it at all.

Main definitions:

* `AdaptiveNetwork.KeepsActive` — what the active paths of a decision have to be;
* `AdaptiveNetwork.Beside` — a path that may be used beside the selected one;
* `AdaptiveNetwork.namesOf` — what a row goes by when its expiry is looked up;
* `AdaptiveNetwork.lifetimeEnd` — when the decision would expire without an expiry of the path;
* `AdaptiveNetwork.Outlives` — the decision expires after the row that was selected.

Main results:

* `AdaptiveNetwork.keepsActive_iff` — when the active paths are what they have to be;
* `AdaptiveNetwork.not_outlives_iff` — when a decision does not outlive the row that was selected.
-/

import Wuchang.RouteSelector
import Mathlib.Data.List.Dedup

set_option relaxedAutoImplicit false
set_option autoImplicit false

namespace AdaptiveNetwork

open Py

/-! ### What a decision is made of -/

/-- When the decision expires unless the path expires before. -/
def lifetimeEnd (lib : Library) (observedAt : Option PyStr) (ttlSeconds : ℤ) (now : TimeValue)
    (clock : Time) : Except Fault Time := do
  let timestamp ← timestampOf lib observedAt now clock
  let observedTime ← observedTimeOf lib timestamp
  addSeconds observedTime (max 1 ttlSeconds)

section Decision

variable {lib : Library} {intent : Intent} {paths : List PathRow} {verification : Items}
  {now : TimeValue} {clock : ℕ → Time}

/-- What `select_route` returns. -/
theorem of_selectRoute {observedAt : Option PyStr} {ttlSeconds : ℤ} {policyVersion : PyStr}
    {r : RouteDecision}
    (h : selectRoute lib intent paths verification observedAt ttlSeconds policyVersion now clock = .ok r) :
    evaluatePolicy lib intent paths now clock = .ok r.policy ∧
      (r.authorized = true ↔ r.policy.candidateDecision = "CANDIDATE_PATH_SELECTED" ∧
        GatesHold verification r.policy.selectedPath) ∧
      r.activePathSet = sortedSet (activePaths verification r.policy r.authorized) ∧
      ∃ decisionExpiry selectedExpiry,
        lifetimeEnd lib observedAt ttlSeconds now (clock paths.length) = .ok decisionExpiry ∧
        selectedPathExpiry lib r.policy.selectedPath paths = .ok selectedExpiry ∧
        r.expiresAt = formatTime lib (earlier decisionExpiry selectedExpiry) := by
  obtain ⟨policy, hpolicy, h⟩ := bind_eq_ok_iff.1 h
  obtain ⟨timestamp, htimestamp, h⟩ := bind_eq_ok_iff.1 h
  obtain ⟨observedTime, hobserved, h⟩ := bind_eq_ok_iff.1 h
  obtain ⟨decisionExpiry, hdecision, h⟩ := bind_eq_ok_iff.1 h
  obtain ⟨selectedExpiry, hselected, h⟩ := bind_eq_ok_iff.1 h
  obtain ⟨identifier, -, h⟩ := bind_eq_ok_iff.1 h
  obtain rfl := pure_eq_ok_iff.1 h
  refine ⟨hpolicy, ?_, rfl, decisionExpiry, selectedExpiry, ?_, hselected, rfl⟩
  · dsimp only
    rw [decide_eq_true_iff, List.all_eq_true]
    rfl
  · rw [lifetimeEnd, htimestamp, ok_bind, hobserved, ok_bind, hdecision]

/-- A path that may be used beside the one that the policy prefers: its row is fit, the intent asks for
it, and the selection for this intent is not taken back. -/
def Beside (lib : Library) (intent : Intent) (paths : List PathRow) (now : TimeValue)
    (clock : ℕ → Time) (pathId : PyStr) : Prop :=
  selectionStands (evaluateZonePolicy lib intent) intent.targetIdentityState = true ∧
    preferred lib intent paths now clock ≠ .ok (some pathId) ∧
    (∃ i row, (withPathIds lib paths)[i]? = some (pathId, row) ∧ Fit lib intent now (clock i) row) ∧
    ∃ requested, asSet (orElse intent.concurrentPaths (.list [])) = .ok requested ∧
      (intent.allowConcurrentPaths.truthy = true ∧ requested = [] ∨
        requested.any (·.eq (.str pathId)) = true)

/-- The concurrent paths are those of the qualified paths that the intent asks for. -/
theorem mem_concurrentIds {qualified concurrent : List PyStr}
    (h : concurrentIds intent qualified = .ok concurrent) {pathId : PyStr} :
    pathId ∈ concurrent ↔ pathId ∈ qualified ∧
      ∃ requested, asSet (orElse intent.concurrentPaths (.list [])) = .ok requested ∧
        (intent.allowConcurrentPaths.truthy = true ∧ requested = [] ∨
          requested.any (·.eq (.str pathId)) = true) := by
  obtain ⟨requested, hrequested, h⟩ := bind_eq_ok_iff.1 h
  have hasked : ∀ p : List PyVal → Prop,
      (∃ l, asSet (orElse intent.concurrentPaths (.list [])) = .ok l ∧ p l) ↔ p requested := by
    intro p
    constructor
    · rintro ⟨l, hl, hp⟩
      exact Except.ok.inj (hrequested.symm.trans hl) ▸ hp
    · exact fun hp => ⟨requested, hrequested, hp⟩
  rw [hasked]
  split_ifs at h with hall
  · obtain rfl := pure_eq_ok_iff.1 h
    simp only [hall, and_self, true_or, and_true]
  · obtain rfl := pure_eq_ok_iff.1 h
    rw [List.mem_filter]
    simp only [hall, false_or]

/-- For a bound target between related zones, a row that is found is selected. -/
theorem candidateDecision_of_stands {zone : ZoneDecision} {identityState : PyVal} {noPaths : Bool}
    (h : selectionStands zone identityState = true) :
    (candidateDecision zone identityState true noPaths).1 = "CANDIDATE_PATH_SELECTED" := by
  rw [selectionStands, Bool.and_eq_true, Bool.not_eq_true', List.any_cons, Bool.or_eq_false_iff] at h
  obtain ⟨⟨hconflict, hunknown⟩, hallowed⟩ := h
  rw [candidateDecision, hconflict, hunknown, hallowed]
  rfl

/-- What the policy says about the paths of an intent. -/
theorem of_evaluatePolicy {policy : Policy} (h : evaluatePolicy lib intent paths now clock = .ok policy) :
    ∃ qualified, policy.qualifiedPathSet = qualified ∧
      preferred lib intent paths now clock = .ok qualified.head? ∧
      (∀ pathId, pathId ∈ qualified ↔ ∃ i row, (withPathIds lib paths)[i]? = some (pathId, row) ∧
        Fit lib intent now (clock i) row) ∧
      (selectionStands (evaluateZonePolicy lib intent) intent.targetIdentityState = true →
        policy.selectedPath = qualified.head? ∧ concurrentIds intent qualified = .ok policy.concurrentPaths ∧
        (qualified ≠ [] → policy.candidateDecision = "CANDIDATE_PATH_SELECTED")) ∧
      (selectionStands (evaluateZonePolicy lib intent) intent.targetIdentityState = false →
        policy.selectedPath = none ∧ policy.concurrentPaths = []) := by
  obtain ⟨types, htypes, h⟩ := bind_eq_ok_iff.1 h
  obtain ⟨preference, hpreference, h⟩ := bind_eq_ok_iff.1 h
  obtain ⟨judged, hjudged, h⟩ := bind_eq_ok_iff.1 h
  obtain ⟨qualified, hqualified, h⟩ := bind_eq_ok_iff.1 h
  obtain ⟨concurrent, hconcurrent, h⟩ := bind_eq_ok_iff.1 h
  split_ifs at h
  swap
  · cases h
  obtain rfl := pure_eq_ok_iff.1 h
  have hmem : ∀ pathId, pathId ∈ qualified ↔ ∃ i row,
      (withPathIds lib paths)[i]? = some (pathId, row) ∧ Fit lib intent now (clock i) row := by
    intro pathId
    rw [(sortPathIds_perm hqualified).mem_iff, mem_qualifiedIds htypes hjudged]
  refine ⟨qualified, rfl, ?_, hmem, ?_, ?_⟩
  · rw [preferred, htypes, ok_bind, hpreference, ok_bind, hjudged, ok_bind, hqualified]
    rfl
  · intro hstands
    dsimp only
    rw [if_pos hstands, if_pos hstands]
    refine ⟨rfl, hconcurrent, fun hne => ?_⟩
    obtain ⟨pathId, rest, rfl⟩ := List.exists_cons_of_ne_nil hne
    obtain ⟨i, row, hrow, -⟩ := (hmem pathId).1 List.mem_cons_self
    have hlookup : ((withPathIds lib paths).lookup pathId).isSome = true := by
      rw [List.lookup_isSome_iff]
      exact ⟨_, List.mem_of_getElem? hrow, beq_self_eq_true _⟩
    rw [List.head?_cons, Option.bind_some, hlookup]
    exact candidateDecision_of_stands hstands
  · intro hstands
    dsimp only
    rw [hstands]
    exact ⟨rfl, rfl⟩

/-! ### Active paths -/

/-- The active paths are none unless the decision authorizes; then each of them is qualified, and all
gates hold in the verification that is used for it. -/
structure KeepsActive (verification : Items) (r : RouteDecision) : Prop where
  held : r.authorized = false → r.activePathSet = []
  authorized : r.authorized = true → ∀ pathId ∈ r.activePathSet,
    pathId ∈ r.policy.qualifiedPathSet ∧ GatesHold verification (some pathId)

theorem mem_sortedSet {texts : List PyStr} {text : PyStr} : text ∈ sortedSet texts ↔ text ∈ texts := by
  rw [sortedSet, List.mem_mergeSort, List.mem_dedup]

theorem mem_activePaths {policy : Policy} {authorized : Bool} {pathId : PyStr} :
    pathId ∈ activePaths verification policy authorized ↔
      policy.selectedPath = some pathId ∧ pathId ≠ [] ∧ authorized = true ∨
      pathId ∈ policy.concurrentPaths ∧ some pathId ≠ policy.selectedPath ∧
        GatesHold verification (some pathId) := by
  rw [activePaths, List.mem_append, List.mem_filter, decide_eq_true_iff]
  refine or_congr ?_ Iff.rfl
  rcases policy.selectedPath with _ | _ | ⟨c, cs⟩
  · simp
  · simp only [List.not_mem_nil, false_iff]
    rintro ⟨h, hne, -⟩
    exact hne (Option.some.inj h).symm
  · cases authorized
    · simp
    · constructor
      · intro h
        obtain rfl := List.mem_singleton.1 h
        exact ⟨rfl, List.cons_ne_nil _ _, rfl⟩
      · rintro ⟨h, -, -⟩
        exact List.mem_singleton.2 (Option.some.inj h).symm

/-- **When the active paths of a decision are what they have to be.**  They are if and only if the gates
of the preferred path hold, or those of no path that may be used beside it do. -/
theorem keepsActive_iff {observedAt : Option PyStr} {ttlSeconds : ℤ} {policyVersion : PyStr}
    {r : RouteDecision}
    (h : selectRoute lib intent paths verification observedAt ttlSeconds policyVersion now clock = .ok r) :
    KeepsActive verification r ↔
      (∃ pathId, preferred lib intent paths now clock = .ok (some pathId) ∧
        GatesHold verification (some pathId)) ∨
      ∀ pathId, Beside lib intent paths now clock pathId → ¬GatesHold verification (some pathId) := by
  obtain ⟨hpolicy, hauthorized, hactive, -⟩ := of_selectRoute h
  obtain ⟨qualified, hset, hpreferred, hmem, hstands, hfalls⟩ := of_evaluatePolicy hpolicy
  have hmemActive : ∀ pathId, pathId ∈ r.activePathSet ↔
      r.policy.selectedPath = some pathId ∧ pathId ≠ [] ∧ r.authorized = true ∨
      pathId ∈ r.policy.concurrentPaths ∧ some pathId ≠ r.policy.selectedPath ∧
        GatesHold verification (some pathId) := by
    intro pathId
    rw [hactive, mem_sortedSet, mem_activePaths]
  cases hzone : selectionStands (evaluateZonePolicy lib intent) intent.targetIdentityState with
  | false =>
      -- the selection is taken back: nothing is active, and nothing may be used beside it
      obtain ⟨hselected, hconcurrent⟩ := hfalls hzone
      have hnone : r.activePathSet = [] := by
        refine List.eq_nil_iff_forall_not_mem.2 fun pathId hpathId => ?_
        rw [hmemActive, hselected, hconcurrent] at hpathId
        rcases hpathId with ⟨hpath, -⟩ | ⟨hpath, -⟩
        · cases hpath
        · cases hpath
      refine iff_of_true ⟨fun _ => hnone, fun _ pathId hpathId => ?_⟩ (.inr fun pathId hbeside => ?_)
      · rw [hnone] at hpathId
        cases hpathId
      · have hstands' := hbeside.1
        rw [hzone] at hstands'
        cases hstands'
  | true =>
      obtain ⟨hselected, hconcurrent, hcandidate⟩ := hstands hzone
      have hbeside : ∀ pathId, Beside lib intent paths now clock pathId ↔
          pathId ∈ r.policy.concurrentPaths ∧ some pathId ≠ r.policy.selectedPath := by
        intro pathId
        rw [Beside, mem_concurrentIds hconcurrent, hmem pathId, hpreferred, hselected]
        constructor
        · rintro ⟨-, hother, hfit, hasked⟩
          exact ⟨⟨hfit, hasked⟩, fun heq => hother (congrArg Except.ok heq.symm)⟩
        · rintro ⟨⟨hfit, hasked⟩, hother⟩
          exact ⟨hzone, fun heq => hother (Except.ok.inj heq).symm, hfit, hasked⟩
      have hgates : r.authorized = true ↔ ∃ pathId, preferred lib intent paths now clock =
          .ok (some pathId) ∧ GatesHold verification (some pathId) := by
        rw [hauthorized, hselected, hpreferred]
        constructor
        · rintro ⟨hcandidate, hgates⟩
          obtain ⟨pathId, -, hpath, -⟩ := evaluatePolicy_selected hpolicy hcandidate
          have hhead : qualified.head? = some pathId :=
            Except.ok.inj (hpreferred.symm.trans hpath)
          exact ⟨pathId, congrArg Except.ok hhead, hhead ▸ hgates⟩
        · rintro ⟨pathId, hpath, hgates⟩
          have hhead : qualified.head? = some pathId := Except.ok.inj hpath
          refine ⟨hcandidate ?_, hhead.symm ▸ hgates⟩
          rintro rfl
          cases hhead
      have hqualified : r.authorized = true → ∀ pathId ∈ r.activePathSet,
          pathId ∈ r.policy.qualifiedPathSet ∧ GatesHold verification (some pathId) := by
        intro hr pathId hpathId
        rw [hset]
        rcases (hmemActive pathId).1 hpathId with ⟨hpath, -⟩ | ⟨hpath, -, hgates⟩
        · refine ⟨List.mem_of_mem_head? (hselected.symm.trans hpath), ?_⟩
          exact hpath ▸ (hauthorized.1 hr).2
        · exact ⟨((mem_concurrentIds hconcurrent).1 hpath).1, hgates⟩
      constructor
      · intro hkeeps
        by_contra hnot
        rw [not_or, ← hgates, Bool.not_eq_true] at hnot
        obtain ⟨hr, hnot⟩ := hnot
        refine hnot fun pathId hpathId hholds => ?_
        have hpath : pathId ∈ r.activePathSet :=
          (hmemActive pathId).2 (.inr ⟨((hbeside pathId).1 hpathId).1, ((hbeside pathId).1 hpathId).2, hholds⟩)
        rw [hkeeps.held hr] at hpath
        cases hpath
      · rintro (hpreferred | hnone)
        · refine ⟨fun hr => ?_, hqualified⟩
          rw [hgates.2 hpreferred] at hr
          cases hr
        · refine ⟨fun hr => List.eq_nil_iff_forall_not_mem.2 fun pathId hpathId => ?_, hqualified⟩
          rcases (hmemActive pathId).1 hpathId with ⟨-, -, hr'⟩ | ⟨hpath, hother, hholds⟩
          · rw [hr] at hr'
            cases hr'
          · exact hnone pathId ((hbeside pathId).2 ⟨hpath, hother⟩) hholds

/-! ### The expiry of a decision -/

/-- What a row goes by when the expiry of the selected path is looked up: `identifiers` of
`_selected_path_expiry`. -/
def namesOf (lib : Library) (path : PathRow) : List PyStr :=
  let pathType := lib.str path.type
  let target := orElse path.target path.interface
  [lib.str (orElse path.pathId (.str pathType)), pathType] ++
    if target.truthy then [pathType ++ cp "@" ++ lib.str target] else []

/-- The expiry is that of the first row that goes by the identifier. -/
theorem selectedPathExpiry_eq {pathId : PyStr} (hne : pathId ≠ []) (rows : List PathRow) :
    selectedPathExpiry lib (some pathId) rows =
      match rows.find? fun row => pathId ∈ namesOf lib row with
      | none => .ok none
      | some row => coerceTime lib row.expiresAt := by
  obtain ⟨c, cs, rfl⟩ := List.exists_cons_of_ne_nil hne
  induction rows with
  | nil => rfl
  | cons row rows ih =>
      rw [selectedPathExpiry, List.find?_cons]
      by_cases hnamed : (c :: cs) ∈ namesOf lib row
      · rw [decide_eq_true hnamed]
        exact if_pos hnamed
      · rw [decide_eq_false hnamed]
        exact (if_neg hnamed).trans ih

theorem selectedPathExpiry_nil (rows : List PathRow) : selectedPathExpiry lib (some []) rows = .ok none := by
  cases rows with
  | nil => rfl
  | cons row rows => rfl

/-- The decision expires after the row that was selected, when that row has an expiry. -/
def Outlives (lib : Library) (paths : List PathRow) (r : RouteDecision) : Prop :=
  ∃ pathId row expiry decisionExpiry, r.policy.selectedPath = some pathId ∧
    (withPathIds lib paths).lookup pathId = some row ∧
    coerceTime lib row.expiresAt = .ok (some expiry) ∧ r.expiresAt = formatTime lib decisionExpiry ∧
    expiry < decisionExpiry

/-- The first row that goes by an identifier has an expiry, and it is not later than another time. -/
def NamedUntil (lib : Library) (paths : List PathRow) (pathId : PyStr) (expiry : Time) : Prop :=
  pathId ≠ [] ∧ ∃ named namedExpiry, (paths.find? fun row => pathId ∈ namesOf lib row) = some named ∧
    coerceTime lib named.expiresAt = .ok (some namedExpiry) ∧ namedExpiry ≤ expiry

theorem earlier_le_iff {decisionExpiry expiry : Time} {selectedExpiry : Option Time} :
    earlier decisionExpiry selectedExpiry ≤ expiry ↔
      decisionExpiry ≤ expiry ∨ ∃ t, selectedExpiry = some t ∧ t ≤ expiry := by
  cases selectedExpiry with
  | none => simp [earlier]
  | some t =>
      simp only [earlier, Option.some.injEq, exists_eq_left']
      split_ifs with hlt
      · exact ⟨.inr, fun h => h.elim hlt.le.trans id⟩
      · exact ⟨.inl, fun h => h.elim id (not_lt.1 hlt).trans⟩

/-- **When a decision does not outlive the row that was selected.**  Different instants have different
texts.  Then an authorized decision does not expire after the row that was selected if and only if, when
that row has an expiry, the decision would expire by then in any case, or the first row that goes by the
identifier of the selected one does. -/
theorem not_outlives_iff (hiso : Function.Injective lib.isoFormat) {observedAt : Option PyStr}
    {ttlSeconds : ℤ} {policyVersion : PyStr} {r : RouteDecision}
    (h : selectRoute lib intent paths verification observedAt ttlSeconds policyVersion now clock = .ok r)
    (hauthorized : r.authorized = true) :
    ¬Outlives lib paths r ↔
      ∀ pathId row expiry, preferred lib intent paths now clock = .ok (some pathId) →
        (withPathIds lib paths).lookup pathId = some row →
        coerceTime lib row.expiresAt = .ok (some expiry) →
        (∃ decisionExpiry, lifetimeEnd lib observedAt ttlSeconds now (clock paths.length) =
          .ok decisionExpiry ∧ decisionExpiry ≤ expiry) ∨ NamedUntil lib paths pathId expiry := by
  obtain ⟨hpolicy, hcandidate, -⟩ := selectRoute_authorized h hauthorized
  obtain ⟨-, -, -, decisionExpiry, selectedExpiry, hlifetime, hexpiry, htext⟩ := of_selectRoute h
  obtain ⟨selectedId, -, hpreferred, -, hselected, -⟩ := evaluatePolicy_selected hpolicy hcandidate
  have hlater : ∀ expiry, earlier decisionExpiry selectedExpiry ≤ expiry ↔
      (∃ t, lifetimeEnd lib observedAt ttlSeconds now (clock paths.length) = .ok t ∧ t ≤ expiry) ∨
        NamedUntil lib paths selectedId expiry := by
    intro expiry
    rw [earlier_le_iff, hlifetime]
    refine or_congr (by simp) ?_
    rw [hselected] at hexpiry
    by_cases hne : selectedId = []
    · subst hne
      rw [selectedPathExpiry_nil] at hexpiry
      obtain rfl := Except.ok.inj hexpiry
      simp [NamedUntil]
    · rw [selectedPathExpiry_eq hne] at hexpiry
      cases hfind : paths.find? fun row => selectedId ∈ namesOf lib row with
      | none =>
          rw [hfind] at hexpiry
          obtain rfl := Except.ok.inj hexpiry
          simp [NamedUntil, hfind]
      | some named =>
          rw [hfind] at hexpiry
          dsimp only at hexpiry
          simp [NamedUntil, hfind, hexpiry, hne]
  have hformat : ∀ t, r.expiresAt = formatTime lib t ↔ t = earlier decisionExpiry selectedExpiry := by
    intro t
    rw [htext, formatTime, formatTime, List.append_left_inj, hiso.eq_iff, eq_comm]
  constructor
  · intro hkeeps pathId row expiry hpath hlookup hrow
    obtain rfl : selectedId = pathId := Option.some.inj (Except.ok.inj (hpreferred.symm.trans hpath))
    rw [← hlater]
    by_contra hlate
    exact hkeeps ⟨selectedId, row, expiry, _, hselected, hlookup, hrow, htext, not_le.1 hlate⟩
  · rintro hbound ⟨pathId, row, expiry, t, hpath, hlookup, hrow, hexpires, hlate⟩
    obtain rfl : selectedId = pathId := Option.some.inj (hselected.symm.trans hpath)
    have hle := (hlater expiry).2 (hbound selectedId row expiry hpreferred hlookup hrow)
    rw [(hformat t).1 hexpires] at hlate
    exact absurd hlate (not_lt.2 hle)

end Decision

/-! ### Two paths at the same time -/

/-- A row of a type that is reachable; available or not, with an expiry or not. -/
def plainRow (pathType : String) (available : Bool) (expiresAt : TimeValue) : PathRow where
  pathType := some (lit pathType)
  available := .bool available
  hostReachable := .bool true
  serviceReachable := .bool true
  expiresAt := expiresAt

/-- The core intent, which lets all qualified paths be used at the same time. -/
def concurrentIntent : Intent := { coreIntent with allowConcurrentPaths := .bool true }

/-- A LAN path and a Tailscale path, both available. -/
def twoPaths : List PathRow :=
  [plainRow "LAN_IPV4" true (.value .none), plainRow "TAILSCALE_IPV4" true (.value .none)]

/-- The selection among the two paths at the epoch. -/
def selectTwo (verification : Items) : Except Fault RouteDecision :=
  selectRoute sampleLibrary concurrentIntent twoPaths verification (some (cp "1970-01-01T00:00:00Z")) 300
    (cp "PER_INTENT_MULTIPATH_V1") (.datetime 0) fun _ => 0

/-- Both paths are qualified, the LAN path is selected, and the Tailscale path may be used beside it. -/
theorem evaluatePolicy_two : ∃ policy, evaluatePolicy sampleLibrary concurrentIntent twoPaths (.datetime 0)
      (fun _ => 0) = .ok policy ∧ policy.selectedPath = some (cp "LAN_IPV4") ∧
    policy.concurrentPaths = [cp "LAN_IPV4", cp "TAILSCALE_IPV4"] ∧
    policy.alternatePaths = [cp "TAILSCALE_IPV4"] := by
  obtain ⟨types, htypes⟩ : ∃ types, permittedTypes sampleLibrary concurrentIntent = .ok types := ⟨_, rfl⟩
  have hpreference : intentPathOrder sampleLibrary concurrentIntent = .ok (defaultPathOrder.map cp) := rfl
  obtain ⟨judged, hjudged, hqualified⟩ : ∃ judged, judgeRows sampleLibrary concurrentIntent types
      (.datetime 0) (fun _ => 0) (withPathIds sampleLibrary twoPaths) = .ok judged ∧
      qualifiedIds judged = [cp "LAN_IPV4", cp "TAILSCALE_IPV4"] := by
    obtain rfl := Except.ok.inj htypes
    exact ⟨_, rfl, rfl⟩
  have hsorted : sortPathIds sampleLibrary (qualifiedIds judged) (withPathIds sampleLibrary twoPaths)
      (defaultPathOrder.map cp) = .ok [cp "LAN_IPV4", cp "TAILSCALE_IPV4"] := by
    have hkeys : ∃ lan tailscale, [cp "LAN_IPV4", cp "TAILSCALE_IPV4"].mapM
        (pathKey sampleLibrary (withPathIds sampleLibrary twoPaths) (defaultPathOrder.map cp)) =
          .ok [lan, tailscale] ∧ lan.pathId = cp "LAN_IPV4" ∧ tailscale.pathId = cp "TAILSCALE_IPV4" ∧
        tailscale.lt lan = false := ⟨_, _, rfl, rfl, rfl, rfl⟩
    obtain ⟨lan, tailscale, hkeys, hlan, htailscale, hlt⟩ := hkeys
    have hpair : [lan, tailscale].Pairwise fun a b => (!b.lt a) = true := by simp [hlt]
    rw [hqualified, sortPathIds, hkeys, ok_bind, List.mergeSort_of_pairwise hpair, List.map_cons,
      List.map_cons, List.map_nil, hlan, htailscale]
    rfl
  obtain ⟨policy, hpolicy, -, hpath, hconcurrent, halternate, -⟩ :=
    evaluatePolicy_ok htypes hpreference hjudged hsorted rfl rfl rfl
  exact ⟨policy, hpolicy, hpath, hconcurrent, halternate⟩

/-- The selection among the two paths returns, whatever was verified. -/
theorem selectTwo_ok (verification : Items) : ∃ r, selectTwo verification = .ok r ∧
    r.policy.selectedPath = some (cp "LAN_IPV4") ∧
    r.policy.concurrentPaths = [cp "LAN_IPV4", cp "TAILSCALE_IPV4"] := by
  obtain ⟨policy, hpolicy, hpath, hconcurrent, halternate⟩ := evaluatePolicy_two
  have htimestamp : timestampOf sampleLibrary (some (cp "1970-01-01T00:00:00Z")) (.datetime 0) 0 =
      .ok (cp "1970-01-01T00:00:00Z") := rfl
  have htime : observedTimeOf sampleLibrary (cp "1970-01-01T00:00:00Z") = .ok 0 := by decide
  have hadd : addSeconds 0 (max 1 300) = .ok 300000000 := by decide
  have hexpiry : selectedPathExpiry sampleLibrary policy.selectedPath twoPaths = .ok none := by
    rw [hpath]
    rfl
  have hintent : PyJson.Plain Encodable (intentKeys concurrentIntent) := plain_coreIntent
  obtain ⟨identifier, hidentifier⟩ : ∃ identifier, decisionId concurrentIntent policy
      (normalizeGates (verificationForPath verification policy.selectedPath))
      (cp "PER_INTENT_MULTIPATH_V1") = .ok identifier := by
    refine decisionId_ok hintent ?_ (by simp [halternate]) (by simp [hconcurrent]) (encodable_cp _)
    rintro pathId hpathId
    rw [hpath] at hpathId
    obtain rfl := Option.some.inj hpathId
    exact encodable_cp _
  obtain ⟨r, hr, hpolicy', -⟩ := selectRoute_ok hpolicy htimestamp htime hadd hexpiry hidentifier
  exact ⟨r, hr, hpolicy' ▸ hpath, hpolicy' ▸ hconcurrent⟩

/-- The gates hold for the LAN path, and the active paths are what they have to be. -/
theorem keepsActive_verified : ∃ r, selectTwo allGates = .ok r ∧ KeepsActive allGates r := by
  obtain ⟨r, hr, hpath, -⟩ := selectTwo_ok allGates
  obtain ⟨hpolicy, -⟩ := of_selectRoute hr
  obtain ⟨qualified, -, hpreferred, -, hstands, -⟩ := of_evaluatePolicy hpolicy
  have hselected : r.policy.selectedPath = qualified.head? := (hstands rfl).1
  refine ⟨r, hr, (keepsActive_iff hr).2 (.inl ⟨cp "LAN_IPV4", ?_, by decide⟩)⟩
  rw [hpreferred, ← hselected, hpath]

/-- What was verified of the Tailscale path alone. -/
def tailscaleGates : Items := [(key "TAILSCALE_IPV4", .dict allGates)]

/-- The gates hold for the Tailscale path only: the decision is on hold, and that path is active. -/
theorem not_keepsActive_tailscale : ∃ r, selectTwo tailscaleGates = .ok r ∧ r.authorized = false ∧
    cp "TAILSCALE_IPV4" ∈ r.activePathSet ∧ ¬KeepsActive tailscaleGates r := by
  obtain ⟨r, hr, hpath, hconcurrent⟩ := selectTwo_ok tailscaleGates
  obtain ⟨-, hauthorized, hactive, -⟩ := of_selectRoute hr
  have hheld : r.authorized = false := by
    rw [← Bool.not_eq_true, hauthorized, hpath]
    rintro ⟨-, hgates⟩
    exact absurd hgates (by decide)
  have hmem : cp "TAILSCALE_IPV4" ∈ r.activePathSet := by
    rw [hactive, mem_sortedSet, mem_activePaths, hpath, hconcurrent]
    exact .inr ⟨by simp, by simp [cp_inj], by decide⟩
  refine ⟨r, hr, hheld, hmem, fun hkeeps => ?_⟩
  rw [hkeeps.held hheld] at hmem
  cases hmem

/-! ### A path that is found by its type alone -/

/-- Two rows of one type, without identifier, target and interface; the first one is available for half
a minute. -/
def typedRows : List PathRow :=
  [plainRow "LAN_IPV4" true (.datetime 30000000), plainRow "LAN_IPV4" false (.value .none)]

/-- The identifier of the first row is made from its position. -/
def typedId : PyStr := cp "LAN_IPV4@0"

/-- A library in which different instants have different texts; only the texts of two are those of
ISO 8601. -/
def writingLibrary : Library where
  reprOf := sampleLibrary.reprOf
  floatOf := sampleLibrary.floatOf
  fromIsoFormat := sampleLibrary.fromIsoFormat
  isoFormat t :=
    if t = 300000000 then cp "1970-01-01T00:05:00"
    else if t = 30000000 then cp "1970-01-01T00:00:30" else [if t < 0 then 45 else 43, t.natAbs]

/-- The instant of a text of that library. -/
def writtenTime (text : PyStr) : Time :=
  if text = cp "1970-01-01T00:05:00" then 300000000
  else if text = cp "1970-01-01T00:00:30" then 30000000
  else match text with
    | [sign, n] => if sign = 45 then -(n : ℤ) else n
    | _ => 0

theorem injective_isoFormat : Function.Injective writingLibrary.isoFormat := by
  refine Function.LeftInverse.injective (g := writtenTime) fun t => ?_
  have hlong : ∀ (text : String) (a b : ℕ), 2 < (cp text).length → [a, b] ≠ cp text := by
    intro text a b hlength heq
    rw [← heq] at hlength
    exact absurd hlength (by simp)
  dsimp only [writingLibrary]
  split_ifs with hfive hhalf hneg
  · rw [hfive]
    rfl
  · rw [hhalf]
    rfl
  · rw [writtenTime, if_neg (hlong _ _ _ (by decide)), if_neg (hlong _ _ _ (by decide))]
    have habs : ((t.natAbs : ℕ) : ℤ) = -t := Int.ofNat_natAbs_of_nonpos (le_of_lt hneg)
    exact (congrArg Neg.neg habs).trans (neg_neg t)
  · rw [writtenTime, if_neg (hlong _ _ _ (by decide)), if_neg (hlong _ _ _ (by decide))]
    exact Int.natAbs_of_nonneg (not_lt.1 hneg)

/-- The selection among rows for the core intent, at the epoch. -/
def selectTyped (paths : List PathRow) (ttlSeconds : ℤ) : Except Fault RouteDecision :=
  selectRoute writingLibrary coreIntent paths allGates (some (cp "1970-01-01T00:00:00Z")) ttlSeconds
    (cp "PER_INTENT_MULTIPATH_V1") (.datetime 0) fun _ => 0

theorem withPathIds_typed :
    withPathIds writingLibrary typedRows = [(typedId, plainRow "LAN_IPV4" true (.datetime 30000000)),
      (cp "LAN_IPV4@1", plainRow "LAN_IPV4" false (.value .none))] := rfl

/-- The first row is selected. -/
theorem evaluatePolicy_typed : ∃ policy, evaluatePolicy writingLibrary coreIntent typedRows (.datetime 0)
      (fun _ => 0) = .ok policy ∧ policy.candidateDecision = "CANDIDATE_PATH_SELECTED" ∧
    policy.selectedPath = some typedId ∧ policy.concurrentPaths = [] ∧ policy.alternatePaths = [] := by
  obtain ⟨types, htypes⟩ : ∃ types, permittedTypes writingLibrary coreIntent = .ok types := ⟨_, rfl⟩
  have hpreference : intentPathOrder writingLibrary coreIntent = .ok (defaultPathOrder.map cp) := rfl
  obtain ⟨judged, hjudged, hqualified⟩ : ∃ judged, judgeRows writingLibrary coreIntent types
      (.datetime 0) (fun _ => 0) (withPathIds writingLibrary typedRows) = .ok judged ∧
      qualifiedIds judged = [typedId] := by
    obtain rfl := Except.ok.inj htypes
    exact ⟨_, rfl, rfl⟩
  have hsorted : sortPathIds writingLibrary (qualifiedIds judged) (withPathIds writingLibrary typedRows)
      (defaultPathOrder.map cp) = .ok [typedId] := by
    rw [hqualified]
    exact sortPathIds_singleton ⟨_, rfl⟩
  obtain ⟨policy, hpolicy, hdecision, hpath, hconcurrent, halternate, -⟩ :=
    evaluatePolicy_ok htypes hpreference hjudged hsorted rfl rfl rfl
  rw [withPathIds_typed] at hdecision
  exact ⟨policy, hpolicy, hdecision, hpath, hconcurrent, halternate⟩

/-- The route through the first row is authorized for as long as the decision may live. -/
theorem selectTyped_ok {ttlSeconds : ℤ} {decisionExpiry : Time}
    (hadd : addSeconds 0 (max 1 ttlSeconds) = .ok decisionExpiry) :
    ∃ r, selectTyped typedRows ttlSeconds = .ok r ∧ r.authorized = true ∧
      r.policy.selectedPath = some typedId ∧ r.expiresAt = formatTime writingLibrary decisionExpiry := by
  obtain ⟨policy, hpolicy, hdecision, hpath, hconcurrent, halternate⟩ := evaluatePolicy_typed
  have hgates : normalizeGates (verificationForPath allGates (some typedId)) =
      d8TwoPhaseGates.map fun gate => (gate, true) := by decide
  have htimestamp : timestampOf writingLibrary (some (cp "1970-01-01T00:00:00Z")) (.datetime 0) 0 =
      .ok (cp "1970-01-01T00:00:00Z") := rfl
  have htime : observedTimeOf writingLibrary (cp "1970-01-01T00:00:00Z") = .ok 0 := by decide
  have hexpiry : selectedPathExpiry writingLibrary policy.selectedPath typedRows = .ok none := by
    rw [hpath]
    rfl
  obtain ⟨identifier, hidentifier⟩ : ∃ identifier, decisionId coreIntent policy
      (normalizeGates (verificationForPath allGates policy.selectedPath))
      (cp "PER_INTENT_MULTIPATH_V1") = .ok identifier := by
    refine decisionId_ok plain_coreIntent ?_ (by simp [halternate]) (by simp [hconcurrent])
      (encodable_cp _)
    rintro pathId hpathId
    rw [hpath] at hpathId
    obtain rfl := Option.some.inj hpathId
    exact encodable_cp _
  obtain ⟨r, hr, hpolicy', hauthorized⟩ := selectRoute_ok hpolicy htimestamp htime hadd hexpiry hidentifier
  obtain ⟨-, -, -, end', expiry', hlifetime, hexpiry', htext⟩ := of_selectRoute hr
  refine ⟨r, hr, ?_, hpolicy' ▸ hpath, ?_⟩
  · rw [hauthorized, hdecision, hpath, hgates]
    rfl
  · rw [hpolicy', hexpiry] at hexpiry'
    obtain rfl := Except.ok.inj hexpiry'
    rw [lifetimeEnd, htimestamp, ok_bind, htime, ok_bind, hadd] at hlifetime
    obtain rfl := Except.ok.inj hlifetime
    exact htext

/-- A decision for half a minute does not outlive the row. -/
theorem not_outlives_short : ∃ r, selectTyped typedRows 30 = .ok r ∧ ¬Outlives writingLibrary typedRows r := by
  obtain ⟨r, hr, hauthorized, hpath, -⟩ := selectTyped_ok (show addSeconds 0 (max 1 30) = .ok 30000000 by decide)
  refine ⟨r, hr, (not_outlives_iff injective_isoFormat hr hauthorized).2 ?_⟩
  intro pathId row expiry hpreferred hlookup hrow
  refine .inl ⟨30000000, by decide, ?_⟩
  -- only the first row has an expiry
  rw [withPathIds_typed, List.lookup_cons, List.lookup_cons, List.lookup_nil] at hlookup
  split at hlookup
  · obtain rfl := Option.some.inj hlookup
    obtain rfl := Option.some.inj (Except.ok.inj hrow)
    exact le_refl _
  · split at hlookup
    · obtain rfl := Option.some.inj hlookup
      cases hrow
    · cases hlookup

/-- The row expires after half a minute, and the decision after five. -/
theorem outlives_typed : ∃ r, selectTyped typedRows 300 = .ok r ∧ r.authorized = true ∧
    Outlives writingLibrary typedRows r := by
  obtain ⟨r, hr, hauthorized, hpath, htext⟩ := selectTyped_ok (show addSeconds 0 (max 1 300) = .ok 300000000 by decide)
  exact ⟨r, hr, hauthorized, typedId, _, 30000000, 300000000, hpath, rfl, rfl, htext, by decide⟩

end AdaptiveNetwork
