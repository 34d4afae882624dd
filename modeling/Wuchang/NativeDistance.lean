/-
**Paths between states.**

`core/adi_native/distance.py` takes the distance of two states from the only simple path of admitted
rules between them.  The search for paths stops as soon as it has found two, and does not follow a
path that is as long as there are states.  Neither matters: the search below is the exhaustive search
of `SimplePath`, cut off after two paths.  Hence the outcome depends on the number of simple paths
only, and on the path when there is one.

Main definitions:

* `NativeAdi.evaluateBreakpointReachability`, `NativeAdi.enforceBreakpointReachability`;
* `NativeAdi.ruleIsValid` — `_rule_is_valid`;
* `NativeAdi.walk`, `NativeAdi.resolveCanonicalPath` — the search, and what is made of it;
* `NativeAdi.Admitted` — the rule is admitted between the two states;
* `NativeAdi.IsRoute` — the rules at these positions of the list lead from the one state to the other
  without visiting a state twice.

Main results:

* `NativeAdi.walk_eq` — the search is the exhaustive search, cut off after two paths;
* `NativeAdi.canonicalPath_exact` — the outcome tells no route, one route and several routes apart,
  and does not depend on the order of the rules.
-/

import Wuchang.NativeState
import Wuchang.SimplePath
import Mathlib.Data.List.Dedup

set_option relaxedAutoImplicit false
set_option autoImplicit false

namespace NativeAdi

open Py

/-! ### Verdicts and exceptions -/

/-- `ALLOW_REACHABLE` -/
def allowReachable : String := "ALLOW_REACHABLE"

/-- `DENY_BREAKPOINT_CROSSED` -/
def denyBreakpointCrossed : String := "DENY_BREAKPOINT_CROSSED"

/-- `HOLD_BREAKPOINT_EVIDENCE_INCOMPLETE` -/
def holdBreakpointEvidenceIncomplete : String := "HOLD_BREAKPOINT_EVIDENCE_INCOMPLETE"

/-- `TransitionRuleHold` with its code; `denied` is its subclass `BreakpointReachabilityDenied`. -/
inductive TransitionRuleHold where
  | hold (code : String)
  | denied (code : String)
  deriving DecidableEq, Repr

/-- `exc.code` -/
def TransitionRuleHold.code : TransitionRuleHold → String
  | hold code => code
  | denied code => code

/-- An exception of the path resolution. -/
abbrev Fault := Raise TransitionRuleHold

/-- `raise TransitionRuleHold(code)` -/
def hold {α : Type} (code : String) : Except Fault α := .error (.own (.hold code))

/-- `raise BreakpointReachabilityDenied(code)` -/
def deny {α : Type} (code : String) : Except Fault α := .error (.own (.denied code))

/-- `BreakpointReachabilityVerdict` -/
structure BreakpointReachabilityVerdict where
  verdict : String
  originSegmentRef : Option PyStr
  candidateSegmentRef : Option PyStr
  breakpointPolicyRef : Option PyStr
  reasonCode : String

/-- `_breakpoint_ref_is_present` -/
def breakpointRefIsPresent : Option PyStr → Bool
  | some value => strip value ≠ []
  | none => false

/-- `evaluate_breakpoint_reachability` -/
def evaluateBreakpointReachability (origin candidate : StatePacket8D) (rule : NativeTransitionRule) :
    BreakpointReachabilityVerdict :=
  let verdict (code : String) : BreakpointReachabilityVerdict :=
    ⟨code, origin.breakpointSegmentRef, candidate.breakpointSegmentRef, rule.breakpointPolicyRef, code⟩
  if ¬breakpointRefIsPresent origin.breakpointSegmentRef then verdict holdBreakpointEvidenceIncomplete
  else if ¬breakpointRefIsPresent candidate.breakpointSegmentRef then
    verdict holdBreakpointEvidenceIncomplete
  else if ¬breakpointRefIsPresent rule.breakpointPolicyRef then verdict holdBreakpointEvidenceIncomplete
  else if origin.breakpointSegmentRef ≠ candidate.breakpointSegmentRef then
    verdict denyBreakpointCrossed
  else verdict allowReachable

/-- `_enforce_breakpoint_reachability` -/
def enforceBreakpointReachability (origin candidate : StatePacket8D) :
    List NativeTransitionRule → Except Fault Unit
  | [] => .ok ()
  | rule :: path =>
      let verdict := evaluateBreakpointReachability origin candidate rule
      if verdict.verdict = denyBreakpointCrossed then deny verdict.reasonCode
      else if verdict.verdict ≠ allowReachable then hold verdict.reasonCode
      else enforceBreakpointReachability origin candidate path

/-! ### The search -/

/-- `_rule_is_valid` -/
def ruleIsValid (rule : NativeTransitionRule) (ruleVersion : PyStr)
    (preconditions evidenceRefs : List PyStr) : Bool :=
  rule.polarity.val = 1 && !rule.stepCostUint.isBool && 0 < rule.stepCostUint.val &&
    rule.ruleVersion = ruleVersion && (rule.preconditions.all fun p => preconditions.contains p) &&
    rule.requiredEvidenceRefs.all fun e => evidenceRefs.contains e

/-- The rules of the list that are valid for the two states. -/
def admittedRules (left right : StatePacket8D) (rules : List NativeTransitionRule) :
    List NativeTransitionRule :=
  rules.filter fun rule => ruleIsValid rule right.ruleVersion
    (left.satisfiedPreconditions ++ right.satisfiedPreconditions)
    (left.evidenceDigests.map Prod.fst ++ right.evidenceDigests.map Prod.fst)

/-- `rules.sort(key=lambda item: item.transition_rule_id.encode("utf-8"))` -/
def sortRules (rules : List NativeTransitionRule) : Except Fault (List NativeTransitionRule) := do
  let keyed ← rules.mapM fun rule => do
    let bytes ← encodeUtf8 rule.transitionRuleId
    pure (bytes, rule)
  pure ((keyed.mergeSort fun a b => a.1 ≤ b.1).map Prod.snd)

/-- The graph: the states that have rules, each with its rules in order. -/
def buildGraph (admitted : List NativeTransitionRule) :
    Except Fault (List (PyStr × List NativeTransitionRule)) :=
  (admitted.map NativeTransitionRule.fromStateCode).dedup.mapM fun state => do
    let rules ← sortRules (admitted.filter fun rule => rule.fromStateCode = state)
    pure (state, rules)

/-- `graph.get(state_code, ())` -/
def outgoing (graph : List (PyStr × List NativeTransitionRule)) (state : PyStr) :
    List NativeTransitionRule := (graph.lookup state).getD []

/-- All states that occur. -/
def nodes (left right : StatePacket8D) (admitted : List NativeTransitionRule) : Finset PyStr :=
  (left.nativeStateRef :: right.nativeStateRef ::
    admitted.flatMap fun rule => [rule.fromStateCode, rule.toStateCode]).toFinset

/-- `walk`: `paths` are the paths found so far, and `n` is the number of states less the length of the
path, so that it is zero where the path is too long to go on. -/
def walk (out : PyStr → List NativeTransitionRule) (goal : PyStr) (n : ℕ) (stateCode : PyStr)
    (visited : List PyStr) (path : List NativeTransitionRule)
    (paths : List (List NativeTransitionRule)) : List (List NativeTransitionRule) :=
  if paths.length > 1 then paths
  else if stateCode = goal then paths ++ [path]
  else match n with
  | 0 => paths
  | n + 1 => (out stateCode).foldl (fun paths rule =>
      if rule.toStateCode ∈ visited then paths
      else walk out goal n rule.toStateCode (rule.toStateCode :: visited) (path ++ [rule]) paths) paths

/-- What is made of the paths that were found. -/
def onlyPath (left right : StatePacket8D) (paths : List (List NativeTransitionRule)) :
    Except Fault CanonicalPath :=
  match paths with
  | [] => hold "HOLD_TRANSITION_RULE_MISSING"
  | [path] => do
      enforceBreakpointReachability left right path
      pure ⟨path⟩
  | _ => hold "HOLD_CANONICAL_PATH_DIVERGENCE"

/-- `resolve_canonical_path` -/
def resolveCanonicalPath (left right : StatePacket8D) (transitionRules : List NativeTransitionRule) :
    Except Fault CanonicalPath :=
  if left.nativeStateRef = right.nativeStateRef then
    if ¬breakpointRefIsPresent left.breakpointSegmentRef then hold holdBreakpointEvidenceIncomplete
    else if ¬breakpointRefIsPresent right.breakpointSegmentRef then
      hold holdBreakpointEvidenceIncomplete
    else if left.breakpointSegmentRef ≠ right.breakpointSegmentRef then deny denyBreakpointCrossed
    else .ok ⟨[]⟩
  else if left.ruleVersion ≠ right.ruleVersion then hold "HOLD_TRANSITION_RULE_MISSING"
  else do
    let admitted := admittedRules left right transitionRules
    let graph ← buildGraph admitted
    onlyPath left right (walk (outgoing graph) right.nativeStateRef (nodes left right admitted).card
      left.nativeStateRef [left.nativeStateRef] [] [])

/-- `delta_f` -/
def deltaF (left right : StatePacket8D) (transitionRules : List NativeTransitionRule) :
    Except Fault ℤ := do
  let path ← resolveCanonicalPath left right transitionRules
  pure path.totalCost

/-! ### The graph -/

/-- Rules whose ids can be encoded are sorted. -/
theorem sortRules_ok {rules : List NativeTransitionRule}
    (h : ∀ rule ∈ rules, Encodable rule.transitionRuleId) :
    ∃ sorted, sortRules rules = .ok sorted ∧ sorted.Perm rules := by
  have hkeyed : rules.mapM (fun rule => do
      let bytes ← (encodeUtf8 rule.transitionRuleId : Except Fault _)
      pure (bytes, rule)) =
      .ok (rules.map fun rule => (rule.transitionRuleId.flatMap utf8Char, rule)) := by
    refine mapM_eq_ok fun rule hrule => ?_
    rw [encodeUtf8_ok (h rule hrule)]
    rfl
  refine ⟨_, by rw [sortRules, hkeyed]; rfl, ((List.mergeSort_perm _ _).map Prod.snd).trans ?_⟩
  rw [List.map_map]
  exact .of_eq (List.map_id' rules)

/-- An id that cannot be encoded makes the sort raise. -/
theorem sortRules_error {rules : List NativeTransitionRule}
    (h : ∃ rule ∈ rules, ¬Encodable rule.transitionRuleId) :
    sortRules rules = .error (.builtin .unicodeEncodeError) := by
  have hkeyed : rules.mapM (fun rule => do
      let bytes ← (encodeUtf8 rule.transitionRuleId : Except Fault _)
      pure (bytes, rule)) = .error (.builtin .unicodeEncodeError) := by
    refine mapM_eq_error (fun rule _ => ?_) ?_
    · by_cases henc : Encodable rule.transitionRuleId
      · rw [encodeUtf8_ok henc]
        exact .inr ⟨_, rfl⟩
      · rw [encodeUtf8_error henc]
        exact .inl rfl
    · obtain ⟨rule, hrule, henc⟩ := h
      exact ⟨rule, hrule, by rw [encodeUtf8_error henc]; rfl⟩
  rw [sortRules, hkeyed]
  rfl

theorem lookup_map_self {α : Type} (f : PyStr → α) (keys : List PyStr) (k : PyStr) :
    (keys.map fun key => (key, f key)).lookup k = if k ∈ keys then some (f k) else none := by
  induction keys with
  | nil => rfl
  | cons key keys ih =>
      rw [List.map_cons, List.lookup_cons]
      by_cases hk : k = key
      · subst hk
        simp
      · have hbeq : (k == key) = false := by simpa using hk
        simp only [hbeq, ih, List.mem_cons, hk, false_or]

/-- The rules that leave a state are found under it. -/
theorem buildGraph_ok {admitted : List NativeTransitionRule}
    (h : ∀ rule ∈ admitted, Encodable rule.transitionRuleId) :
    ∃ graph, buildGraph admitted = .ok graph ∧
      ∀ state, (outgoing graph state).Perm (admitted.filter fun r => r.fromStateCode = state) := by
  have hsort : ∀ state : PyStr, ∃ sorted,
      sortRules (admitted.filter fun r => r.fromStateCode = state) = .ok sorted ∧
        sorted.Perm (admitted.filter fun r => r.fromStateCode = state) :=
    fun state => sortRules_ok fun rule hrule => h rule (List.mem_of_mem_filter hrule)
  choose sorted hsorted hperm using hsort
  refine ⟨(admitted.map NativeTransitionRule.fromStateCode).dedup.map fun s => (s, sorted s),
    mapM_eq_ok fun state _ => by rw [hsorted]; rfl, fun state => ?_⟩
  rw [outgoing, lookup_map_self]
  split_ifs with hmem
  · exact hperm state
  · have hnone : (admitted.filter fun r => r.fromStateCode = state) = [] := by
      rw [List.filter_eq_nil_iff]
      intro rule hrule hstate
      exact hmem (List.mem_dedup.2 (List.mem_map.2 ⟨rule, hrule, by simpa using hstate⟩))
    rw [hnone]
    rfl

theorem buildGraph_error {admitted : List NativeTransitionRule}
    (h : ∃ rule ∈ admitted, ¬Encodable rule.transitionRuleId) :
    buildGraph admitted = .error (.builtin .unicodeEncodeError) := by
  refine mapM_eq_error (fun state _ => ?_) ?_
  · by_cases henc : ∀ r ∈ admitted.filter fun r => r.fromStateCode = state,
        Encodable r.transitionRuleId
    · obtain ⟨sorted, hsorted, -⟩ := sortRules_ok henc
      rw [hsorted]
      exact .inr ⟨_, rfl⟩
    · push Not at henc
      rw [sortRules_error henc]
      exact .inl rfl
  · obtain ⟨rule, hrule, henc⟩ := h
    refine ⟨rule.fromStateCode, List.mem_dedup.2 (List.mem_map_of_mem hrule), ?_⟩
    rw [sortRules_error ⟨rule, List.mem_filter.2 ⟨hrule, by simp⟩, henc⟩]
    rfl

/-! ### The search is exhaustive up to two paths -/

theorem take_take_append {α : Type} (n : ℕ) (xs ys : List α) :
    (xs.take n ++ ys).take n = (xs ++ ys).take n := by
  have hlen : n - min n xs.length = n - xs.length := by omega
  rw [List.take_append, List.take_append, List.take_take, min_self, List.length_take, hlen]

/-- The search is the exhaustive search, cut off after two paths. -/
theorem walk_eq (out : PyStr → List NativeTransitionRule) (goal : PyStr) :
    ∀ (n : ℕ) (state : PyStr) (seen : List PyStr) (path : List NativeTransitionRule)
      (paths : List (List NativeTransitionRule)), paths.length ≤ 2 →
      walk out goal n state seen path paths =
        (paths ++ (SimplePath.search out NativeTransitionRule.toStateCode goal n state seen).map
          (path ++ ·)).take 2 := by
  have hfull : ∀ paths more : List (List NativeTransitionRule), paths.length ≤ 2 →
      1 < paths.length → paths = (paths ++ more).take 2 := by
    intro paths more hle hlt
    rw [List.take_append_of_le_length (by omega), List.take_of_length_le hle]
  intro n
  induction n with
  | zero =>
      intro state seen path paths hle
      rw [walk.eq_def]
      split_ifs with hlt hgoal
      · exact hfull _ _ hle hlt
      · subst hgoal
        rw [SimplePath.search_goal, List.map_singleton, List.append_nil]
        exact (List.take_of_length_le (by rw [List.length_append, List.length_singleton]; omega)).symm
      · rw [SimplePath.search_zero hgoal, List.map_nil, List.append_nil]
        exact (List.take_of_length_le hle).symm
  | succ n ih =>
      intro state seen path paths hle
      rw [walk.eq_def]
      split_ifs with hlt hgoal
      · exact hfull _ _ hle hlt
      · subst hgoal
        rw [SimplePath.search_goal, List.map_singleton, List.append_nil]
        exact (List.take_of_length_le (by rw [List.length_append, List.length_singleton]; omega)).symm
      · rw [SimplePath.search_succ hgoal]
        dsimp only
        generalize out state = rules
        -- the rules that leave the state are tried one after another
        clear hlt hgoal
        induction rules generalizing paths with
        | nil =>
            rw [List.flatMap_nil, List.map_nil, List.append_nil]
            exact (List.take_of_length_le hle).symm
        | cons rule rules ihrules =>
            rw [List.foldl_cons, List.flatMap_cons, List.map_append]
            split_ifs with hseen
            · rw [ihrules _ hle, List.map_nil, List.nil_append]
            · rw [ih _ _ _ _ hle, ihrules _ (List.length_take_le _ _), List.map_map]
              have hcons : ((path ++ ·) ∘ fun p => rule :: p) =
                  fun p : List NativeTransitionRule => path ++ [rule] ++ p := by
                funext p
                simp
              rw [hcons, take_take_append, List.append_assoc]

/-! ### Routes -/

/-- The rule is admitted between the two states. -/
def Admitted (left right : StatePacket8D) (rule : NativeTransitionRule) : Prop :=
  ruleIsValid rule right.ruleVersion (left.satisfiedPreconditions ++ right.satisfiedPreconditions)
    (left.evidenceDigests.map Prod.fst ++ right.evidenceDigests.map Prod.fst)

instance decidableAdmitted (left right : StatePacket8D) (rule : NativeTransitionRule) :
    Decidable (Admitted left right rule) := inferInstanceAs (Decidable (_ = true))

/-- Each rule leaves the state the one before it leads to, and the last leads to the goal. -/
def Joins (goal : PyStr) : PyStr → List NativeTransitionRule → Prop
  | state, [] => state = goal
  | state, rule :: path => rule.fromStateCode = state ∧ Joins goal rule.toStateCode path

/-- The rules at the positions `p` of the list are admitted, lead from the left to the right state
and visit no state twice. -/
def IsRoute (left right : StatePacket8D) (rules : List NativeTransitionRule) (p : List ℕ) : Prop :=
  ∃ path : List NativeTransitionRule, p.map (rules[·]?) = path.map some ∧
    (∀ rule ∈ path, Admitted left right rule) ∧
    Joins right.nativeStateRef left.nativeStateRef path ∧
    (left.nativeStateRef :: path.map NativeTransitionRule.toStateCode).Nodup

/-- The admitted rules that leave a state, with their positions. -/
def edges (left right : StatePacket8D) (rules : List NativeTransitionRule) (state : PyStr) :
    List (NativeTransitionRule × ℕ) :=
  rules.zipIdx.filter fun e => Admitted left right e.1 ∧ e.1.fromStateCode = state

/-- All routes, as rules with their positions. -/
def routes (left right : StatePacket8D) (rules : List NativeTransitionRule) :
    List (List (NativeTransitionRule × ℕ)) :=
  SimplePath.search (edges left right rules) (fun e => e.1.toStateCode) right.nativeStateRef
    (nodes left right (admittedRules left right rules)).card left.nativeStateRef
    [left.nativeStateRef]

theorem mem_edges {left right : StatePacket8D} {rules : List NativeTransitionRule} {state : PyStr}
    {e : NativeTransitionRule × ℕ} : e ∈ edges left right rules state ↔
      rules[e.2]? = some e.1 ∧ Admitted left right e.1 ∧ e.1.fromStateCode = state := by
  rw [edges, List.mem_filter, List.mem_zipIdx_iff_getElem?]
  simp

theorem leads_edges {left right : StatePacket8D} {rules : List NativeTransitionRule} {goal : PyStr} :
    ∀ {state : PyStr} {q : List (NativeTransitionRule × ℕ)},
      SimplePath.Leads (edges left right rules) (fun e => e.1.toStateCode) goal state q ↔
        (∀ e ∈ q, rules[e.2]? = some e.1 ∧ Admitted left right e.1) ∧
          Joins goal state (q.map Prod.fst) := by
  intro state q
  induction q generalizing state with
  | nil => simp [SimplePath.Leads, Joins]
  | cons e q ih =>
      rw [SimplePath.Leads, ih, mem_edges, List.forall_mem_cons, List.map_cons, Joins]
      tauto

/-- The rules of an admitted path stay among the states that occur. -/
theorem toStateCode_mem_nodes {left right : StatePacket8D} {rules : List NativeTransitionRule}
    {rule : NativeTransitionRule} (hrule : rule ∈ rules) (hadm : Admitted left right rule) :
    rule.toStateCode ∈ nodes left right (admittedRules left right rules) := by
  rw [nodes, List.mem_toFinset]
  refine List.mem_cons_of_mem _ (List.mem_cons_of_mem _ (List.mem_flatMap.2 ⟨rule, ?_, by simp⟩))
  exact List.mem_filter.2 ⟨hrule, hadm⟩

theorem mem_routes {left right : StatePacket8D} {rules : List NativeTransitionRule}
    {q : List (NativeTransitionRule × ℕ)} : q ∈ routes left right rules ↔
      (∀ e ∈ q, rules[e.2]? = some e.1 ∧ Admitted left right e.1) ∧
        Joins right.nativeStateRef left.nativeStateRef (q.map Prod.fst) ∧
        (left.nativeStateRef :: q.map fun e => e.1.toStateCode).Nodup := by
  rw [routes, SimplePath.mem_search_iff]
  · constructor
    · intro h
      obtain ⟨hmem, hjoins⟩ := leads_edges.1 h.leads
      exact ⟨hmem, hjoins, h.nodup⟩
    · rintro ⟨hmem, hjoins, hnodup⟩
      exact ⟨leads_edges.2 ⟨hmem, hjoins⟩, hnodup⟩
  · -- no simple path is longer than there are states
    intro h
    obtain ⟨hmem, -⟩ := leads_edges.1 h.leads
    refine (h.length_lt ?_ fun e he => ?_).le
    · simp [nodes]
    · obtain ⟨hat, hadm⟩ := hmem e he
      exact toStateCode_mem_nodes (List.mem_of_getElem? hat) hadm

/-- The routes are the positions of the paths found. -/
theorem isRoute_iff {left right : StatePacket8D} {rules : List NativeTransitionRule} {p : List ℕ} :
    IsRoute left right rules p ↔ p ∈ (routes left right rules).map (List.map Prod.snd) := by
  rw [List.mem_map]
  constructor
  · rintro ⟨path, hat, hadm, hjoins, hnodup⟩
    have hlen : path.length = p.length := by simpa using (congrArg List.length hat).symm
    have hfst : (path.zip p).map Prod.fst = path := List.map_fst_zip hlen.le
    have hsnd : (path.zip p).map Prod.snd = p := List.map_snd_zip hlen.ge
    refine ⟨path.zip p, mem_routes.2 ⟨?_, ?_, ?_⟩, hsnd⟩
    · intro e he
      obtain ⟨i, hi, rfl⟩ := List.mem_iff_getElem.1 he
      rw [List.length_zip] at hi
      have hget := congrArg (·[i]?) hat
      rw [List.getElem_zip]
      simp only [List.getElem?_map, List.getElem?_eq_getElem (show i < p.length by omega),
        List.getElem?_eq_getElem (show i < path.length by omega), Option.map_some,
        Option.some.injEq] at hget
      exact ⟨hget, hadm _ (List.getElem_mem _)⟩
    · rw [hfst]
      exact hjoins
    · have hmap : (path.zip p).map (fun e => e.1.toStateCode) =
          path.map NativeTransitionRule.toStateCode := by
        conv_rhs => rw [← hfst, List.map_map]
        rfl
      rw [hmap]
      exact hnodup
  · rintro ⟨q, hq, rfl⟩
    obtain ⟨hmem, hjoins, hnodup⟩ := mem_routes.1 hq
    refine ⟨q.map Prod.fst, ?_, ?_, hjoins, ?_⟩
    · rw [List.map_map, List.map_map]
      exact List.map_congr_left fun e he => (hmem e he).1
    · intro rule hrule
      obtain ⟨e, he, rfl⟩ := List.mem_map.1 hrule
      exact (hmem e he).2
    · rw [List.map_map]
      exact hnodup

/-- Different paths that are found use different positions. -/
theorem nodup_routes (left right : StatePacket8D) (rules : List NativeTransitionRule) :
    ((routes left right rules).map (List.map Prod.snd)).Nodup := by
  have hedges : ∀ state, (edges left right rules state).Nodup := fun state =>
    (List.Nodup.of_map Prod.snd (by rw [List.zipIdx_map_snd]; exact List.nodup_range')).filter _
  refine List.Nodup.map_on ?_ (SimplePath.nodup_search hedges _ _ _)
  intro q hq q' hq' heq
  have hread : ∀ r ∈ routes left right rules,
      (r.map Prod.snd).map (rules[·]?) = (r.map Prod.fst).map some := by
    intro r hr
    rw [List.map_map, List.map_map]
    exact List.map_congr_left fun e he => ((mem_routes.1 hr).1 e he).1
  have hfst : q.map Prod.fst = q'.map Prod.fst := by
    have hsome : Function.Injective (some : NativeTransitionRule → _) := Option.some_injective _
    refine List.map_injective_iff.2 hsome ?_
    rw [← hread q hq, ← hread q' hq', heq]
  rw [← List.zip_unzip q, ← List.zip_unzip q', List.unzip_eq_map, List.unzip_eq_map, hfst, heq]

/-! ### The outcome -/

/-- What is made of the paths is decided by the first two. -/
theorem onlyPath_take_two (left right : StatePacket8D)
    (found : List (List NativeTransitionRule)) :
    onlyPath left right (found.take 2) = onlyPath left right found := by
  rcases found with _ | ⟨p, _ | ⟨q, found⟩⟩
  · rfl
  · rfl
  · rfl

/-- What is made of the paths does not depend on the order in which they were found. -/
theorem onlyPath_perm {left right : StatePacket8D} {found found' : List (List NativeTransitionRule)}
    (h : found.Perm found') : onlyPath left right found = onlyPath left right found' := by
  rcases found with _ | ⟨p, _ | ⟨q, found⟩⟩
  · rw [h.nil_eq]
  · rw [List.perm_singleton.1 h.symm]
  · rcases found' with _ | ⟨p', _ | ⟨q', found'⟩⟩
    · exact absurd h.length_eq (by simp)
    · exact absurd h.length_eq (by simp)
    · rfl

/-- The breakpoint verdict is one of two. -/
theorem enforceBreakpointReachability_error {left right : StatePacket8D}
    {path : List NativeTransitionRule} {e : Fault}
    (h : enforceBreakpointReachability left right path = .error e) :
    e = .own (.denied denyBreakpointCrossed) ∨ e = .own (.hold holdBreakpointEvidenceIncomplete) := by
  induction path with
  | nil => cases h
  | cons rule path ih =>
      rw [enforceBreakpointReachability, evaluateBreakpointReachability] at h
      dsimp only at h
      split_ifs at h <;> first
        | exact ih h
        | exact .inl (Except.error.inj h).symm
        | exact .inr (Except.error.inj h).symm
        | simp_all [denyBreakpointCrossed, holdBreakpointEvidenceIncomplete, allowReachable]

/-- All simple paths of admitted rules between the two states. -/
def admittedPaths (left right : StatePacket8D) (rules : List NativeTransitionRule) :
    List (List NativeTransitionRule) :=
  let admitted := admittedRules left right rules
  SimplePath.search (fun state => admitted.filter fun r => r.fromStateCode = state)
    NativeTransitionRule.toStateCode right.nativeStateRef (nodes left right admitted).card
    left.nativeStateRef [left.nativeStateRef]

/-- They are the routes, without the positions. -/
theorem admittedPaths_eq (left right : StatePacket8D) (rules : List NativeTransitionRule) :
    admittedPaths left right rules = (routes left right rules).map (List.map Prod.fst) := by
  have hedges : ∀ state, (admittedRules left right rules).filter (fun r => r.fromStateCode = state) =
      (edges left right rules state).map Prod.fst := by
    intro state
    have hfst : rules = rules.zipIdx.map Prod.fst := (List.zipIdx_map_fst 0 rules).symm
    conv_lhs => rw [admittedRules, hfst, List.filter_map, List.filter_map, List.filter_filter]
    rw [edges]
    congr 2
    funext e
    rw [Bool.eq_iff_iff]
    simp [Admitted, and_comm]
  rw [routes, ← SimplePath.search_map Prod.fst hedges fun _ => rfl]
  rfl

/-- The order of the rules changes the order of the paths only. -/
theorem admittedPaths_perm (left right : StatePacket8D) {rules rules' : List NativeTransitionRule}
    (h : rules.Perm rules') :
    (admittedPaths left right rules).Perm (admittedPaths left right rules') := by
  have hadm : (admittedRules left right rules).Perm (admittedRules left right rules') := h.filter _
  have hnodes : nodes left right (admittedRules left right rules) =
      nodes left right (admittedRules left right rules') :=
    List.toFinset_eq_of_perm _ _ (((hadm.flatMap_right _).cons _).cons _)
  rw [admittedPaths, admittedPaths, hnodes]
  exact SimplePath.search_perm (fun state => hadm.filter _) _ _ _

/-- Between different states under one version of the rules, the outcome is decided by the simple
paths of admitted rules. -/
theorem resolveCanonicalPath_eq {left right : StatePacket8D}
    (hne : left.nativeStateRef ≠ right.nativeStateRef) (hver : left.ruleVersion = right.ruleVersion)
    {rules : List NativeTransitionRule}
    (henc : ∀ rule ∈ rules, Admitted left right rule → Encodable rule.transitionRuleId) :
    resolveCanonicalPath left right rules = onlyPath left right (admittedPaths left right rules) := by
  obtain ⟨graph, hgraph, hout⟩ := @buildGraph_ok (admittedRules left right rules) fun rule hrule =>
    henc rule (List.mem_of_mem_filter hrule) (List.mem_filter.1 hrule).2
  have hnil : (fun p : List NativeTransitionRule => [] ++ p) = id := by
    funext p
    simp
  rw [resolveCanonicalPath, if_neg hne, if_neg (not_not.2 hver)]
  dsimp only
  rw [hgraph, ok_bind, walk_eq _ _ _ _ _ _ _ (by simp), List.nil_append, onlyPath_take_two, hnil,
    List.map_id]
  exact onlyPath_perm (SimplePath.search_perm hout _ _ _)

/-- An admitted rule whose id cannot be encoded makes the resolution raise. -/
theorem resolveCanonicalPath_error {left right : StatePacket8D}
    (hne : left.nativeStateRef ≠ right.nativeStateRef) (hver : left.ruleVersion = right.ruleVersion)
    {rules : List NativeTransitionRule}
    (h : ∃ rule ∈ rules, Admitted left right rule ∧ ¬Encodable rule.transitionRuleId) :
    resolveCanonicalPath left right rules = .error (.builtin .unicodeEncodeError) := by
  obtain ⟨rule, hrule, hadm, henc⟩ := h
  have hgraph := @buildGraph_error (admittedRules left right rules)
    ⟨rule, List.mem_filter.2 ⟨hrule, hadm⟩, henc⟩
  rw [resolveCanonicalPath, if_neg hne, if_neg (not_not.2 hver)]
  dsimp only
  rw [hgraph, error_bind]

/-- The order of the rules does not matter. -/
theorem resolveCanonicalPath_perm (left right : StatePacket8D)
    {rules rules' : List NativeTransitionRule} (h : rules.Perm rules') :
    resolveCanonicalPath left right rules = resolveCanonicalPath left right rules' := by
  by_cases hne : left.nativeStateRef = right.nativeStateRef
  · rw [resolveCanonicalPath, resolveCanonicalPath, if_pos hne, if_pos hne]
  by_cases hver : left.ruleVersion = right.ruleVersion
  · by_cases henc : ∀ rule ∈ rules, Admitted left right rule → Encodable rule.transitionRuleId
    · rw [resolveCanonicalPath_eq hne hver henc,
        resolveCanonicalPath_eq hne hver fun rule hrule => henc rule (h.symm.subset hrule)]
      exact onlyPath_perm (admittedPaths_perm left right h)
    · push Not at henc
      obtain ⟨rule, hrule, hadm, hbad⟩ := henc
      rw [resolveCanonicalPath_error hne hver ⟨rule, hrule, hadm, hbad⟩,
        resolveCanonicalPath_error hne hver ⟨rule, h.subset hrule, hadm, hbad⟩]
  · rw [resolveCanonicalPath, resolveCanonicalPath, if_neg hne, if_neg hne, if_pos hver, if_pos hver]

/-- **Path resolution is exact.**  Between different states under one version of the rules: when an
admitted rule has an id that cannot be encoded, the resolution raises `UnicodeEncodeError`.  When all
can be encoded, it raises that a rule is missing exactly when there is no route, raises a divergence
exactly when there are two, and for the only route raises the breakpoint verdict or returns its rules.
The order of the rules does not matter. -/
theorem canonicalPath_exact {left right : StatePacket8D}
    (hne : left.nativeStateRef ≠ right.nativeStateRef) (hver : left.ruleVersion = right.ruleVersion)
    (rules : List NativeTransitionRule) :
    ((∃ rule ∈ rules, Admitted left right rule ∧ ¬Encodable rule.transitionRuleId) →
      resolveCanonicalPath left right rules = .error (.builtin .unicodeEncodeError)) ∧
    ((∀ rule ∈ rules, Admitted left right rule → Encodable rule.transitionRuleId) →
      (resolveCanonicalPath left right rules = hold "HOLD_TRANSITION_RULE_MISSING" ↔
        ¬∃ p, IsRoute left right rules p) ∧
      (resolveCanonicalPath left right rules = hold "HOLD_CANONICAL_PATH_DIVERGENCE" ↔
        ∃ p q, p ≠ q ∧ IsRoute left right rules p ∧ IsRoute left right rules q) ∧
      ∀ p, IsRoute left right rules p → (∀ q, IsRoute left right rules q → q = p) →
        ∃ path : List NativeTransitionRule, p.map (rules[·]?) = path.map some ∧
          resolveCanonicalPath left right rules = do
            enforceBreakpointReachability left right path
            pure ⟨path⟩) ∧
    ∀ rules' : List NativeTransitionRule, rules.Perm rules' →
      resolveCanonicalPath left right rules' = resolveCanonicalPath left right rules := by
  refine ⟨resolveCanonicalPath_error hne hver, fun henc => ?_,
    fun rules' h => (resolveCanonicalPath_perm left right h).symm⟩
  rw [resolveCanonicalPath_eq hne hver henc, admittedPaths_eq]
  have hnodup := nodup_routes left right rules
  have hverdict : ∀ path (code : String), code ≠ holdBreakpointEvidenceIncomplete →
      onlyPath left right [path] ≠ hold code := by
    intro path code hcode heq
    rw [onlyPath] at heq
    cases henf : enforceBreakpointReachability left right path with
    | ok u => rw [henf] at heq; cases heq
    | error e =>
        rw [henf, error_bind, hold, Except.error.injEq] at heq
        subst heq
        rcases enforceBreakpointReachability_error henf with h | h
        · cases h
        · exact hcode (by injection h with h; injection h)
  simp only [isRoute_iff]
  have hread : ∀ q ∈ routes left right rules,
      (q.map Prod.snd).map (rules[·]?) = (q.map Prod.fst).map some := by
    intro q hq
    rw [List.map_map, List.map_map]
    exact List.map_congr_left fun e he => ((mem_routes.1 hq).1 e he).1
  generalize routes left right rules = found at hnodup hread
  rcases found with _ | ⟨p, _ | ⟨q, found⟩⟩
  · refine ⟨iff_of_true rfl (by simp), iff_of_false ?_ (by simp), by simp⟩
    intro h
    simp [onlyPath, hold] at h
  · refine ⟨iff_of_false (hverdict _ _ (by decide)) (by simp),
      iff_of_false (hverdict _ _ (by decide)) (by simp), ?_⟩
    intro r hr _
    simp only [List.map_cons, List.map_nil, List.mem_singleton] at hr
    subst hr
    exact ⟨p.map Prod.fst, hread p (by simp), rfl⟩
  · have hpq : p.map Prod.snd ≠ q.map Prod.snd := by
      intro heq
      simp [heq] at hnodup
    refine ⟨iff_of_false ?_ (by simp), iff_of_true rfl ⟨_, _, hpq, by simp, by simp⟩, ?_⟩
    · intro h
      simp [onlyPath, hold] at h
    · intro r _ honly
      exact absurd ((honly _ (by simp)).trans (honly _ (by simp)).symm) hpq

/-- A state that is bound to nothing but its reference. -/
def bareState (ref : String) : StatePacket8D where
  dimensions := List.replicate 8 (.int 0)
  eventTime := .int 0
  namespaceRef := cp "ns"
  stateProfile := cp "profile"
  nativeStateRef := cp ref
  stateRoot := []
  parentStateRoot := cp "parent"
  evidenceRoot := cp "evidence"
  snapshotId := cp "snapshot"
  canonicalVersion := cp "v1"
  ruleVersion := cp "v1"
  logicalTime := .int 0
  topologyCoordinateRef := cp "topology"
  eventHashRef := cp "event"
  boundaryFacts := List.replicate 8 {}
  boundaryFacts_length := by decide
  breakpointSegmentRef := some (cp "segment")

/-- A rule of unit cost with the given id and direction. -/
def bareRule (id direction : PyStr) (source target : String) : NativeTransitionRule where
  transitionRuleId := id
  fromStateCode := cp source
  toStateCode := cp target
  preconditions := []
  requiredEvidenceRefs := []
  polarity := .int 1
  directionCode := direction
  stepCostUint := .int 1
  ruleVersion := cp "v1"
  breakpointPolicyRef := some (cp "policy")
  stepCost_pos := by decide
  polarity_mem := by decide

/-- Two rules in a row, listed either way round, are not missing. -/
theorem canonicalPath_exact_chain :
    resolveCanonicalPath (bareState "A") (bareState "C")
        [bareRule (cp "r1") (cp "d") "A" "B", bareRule (cp "r2") (cp "d") "B" "C"] ≠
      hold "HOLD_TRANSITION_RULE_MISSING" ∧
    resolveCanonicalPath (bareState "A") (bareState "C")
        [bareRule (cp "r2") (cp "d") "B" "C", bareRule (cp "r1") (cp "d") "A" "B"] =
      resolveCanonicalPath (bareState "A") (bareState "C")
        [bareRule (cp "r1") (cp "d") "A" "B", bareRule (cp "r2") (cp "d") "B" "C"] := by
  have hexact := @canonicalPath_exact (bareState "A") (bareState "C") (by decide) rfl
    [bareRule (cp "r1") (cp "d") "A" "B", bareRule (cp "r2") (cp "d") "B" "C"]
  have henc := hexact.2.1 (by simp [bareRule])
  have hroute : IsRoute (bareState "A") (bareState "C")
      [bareRule (cp "r1") (cp "d") "A" "B", bareRule (cp "r2") (cp "d") "B" "C"] [0, 1] :=
    ⟨[bareRule (cp "r1") (cp "d") "A" "B", bareRule (cp "r2") (cp "d") "B" "C"], rfl, by decide,
      ⟨rfl, rfl, rfl⟩, by decide⟩
  exact ⟨fun h => henc.1.1 h ⟨[0, 1], hroute⟩, hexact.2.2 _ (.swap _ _ _)⟩

/-- An admitted rule whose id is a lone surrogate is the only route, and is neither returned nor
refused by a verdict. -/
theorem canonicalPath_not_exact :
    ¬∀ left right : StatePacket8D, left.nativeStateRef ≠ right.nativeStateRef →
      left.ruleVersion = right.ruleVersion → ∀ rules : List NativeTransitionRule,
      (resolveCanonicalPath left right rules = hold "HOLD_TRANSITION_RULE_MISSING" ↔
        ¬∃ p, IsRoute left right rules p) ∧
      (resolveCanonicalPath left right rules = hold "HOLD_CANONICAL_PATH_DIVERGENCE" ↔
        ∃ p q, p ≠ q ∧ IsRoute left right rules p ∧ IsRoute left right rules q) ∧
      ∀ p, IsRoute left right rules p → (∀ q, IsRoute left right rules q → q = p) →
        ∃ path : List NativeTransitionRule, p.map (rules[·]?) = path.map some ∧
          resolveCanonicalPath left right rules =
            (enforceBreakpointReachability left right path >>= fun _ => pure ⟨path⟩) := by
  intro hclaim
  have hraised : resolveCanonicalPath (bareState "A") (bareState "B")
      [bareRule [0xD800] (cp "d") "A" "B"] = .error (.builtin .unicodeEncodeError) :=
    @resolveCanonicalPath_error (bareState "A") (bareState "B") (by decide) rfl _
      ⟨bareRule [0xD800] (cp "d") "A" "B", List.mem_singleton_self _, by decide, by
        simp [bareRule, Py.Encodable, IsSurrogate]⟩
  obtain ⟨hmissing, hseveral, honly⟩ := hclaim (bareState "A") (bareState "B") (by decide) rfl
    [bareRule [0xD800] (cp "d") "A" "B"]
  rw [hraised] at hmissing hseveral
  obtain ⟨p, hp⟩ : ∃ p, IsRoute _ _ _ p := not_not.1 fun h => by cases hmissing.2 h
  have hunique : ∀ q, IsRoute _ _ _ q → q = p := fun q hq => by
    by_contra hne
    cases hseveral.2 ⟨q, p, hne, hq, hp⟩
  obtain ⟨path, -, hpath⟩ := honly p hp hunique
  rw [hraised] at hpath
  cases henf : enforceBreakpointReachability (bareState "A") (bareState "B") path with
  | ok u =>
      rw [henf] at hpath
      cases hpath
  | error e =>
      rw [henf, error_bind, Except.error.injEq] at hpath
      subst hpath
      rcases enforceBreakpointReachability_error henf with h | h
      · cases h
      · cases h

end NativeAdi
