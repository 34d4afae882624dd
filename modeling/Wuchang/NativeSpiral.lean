/-
**The native spiral: shells of candidates, scanned for a fixed point.**

`core/adi_native/spiral.py` groups the candidates it can reach from an origin by their distance, sorts
each group by the path that leads to the candidate, and scans the groups from the nearest outwards for
a candidate that is evidence-closed and that the Total Field maps to its own root.  A budget bounds how
many candidates may be looked at, and may run out inside a group.

The scan is an instance of `Shells.scan`: the groups are shells, and the sort within a group only
permutes it.

Main definitions:

* `NativeAdi.hexBytes`, `NativeAdi.orderKey`, `NativeAdi.omega` — the order within a shell;
* `NativeAdi.enumerateShells`, `NativeAdi.evidenceClosureStop` — the shells, and the scan;
* `NativeAdi.IsFixedPoint` — a candidate is evidence-closed and mapped to its own root;
* `NativeAdi.UniqueFixedPoint` — what the scan looks for, without shells.

Main results:

* `NativeAdi.scanShells_eq` — the scan is the scan of shells;
* `NativeAdi.evidenceClosureStop_exact` — the scan finds exactly what it looks for.
-/

import Wuchang.NativeVerifier
import Wuchang.Shells

set_option relaxedAutoImplicit false
set_option autoImplicit false

namespace NativeAdi

open Py

/-! ### The order within a shell -/

/-- The value of a hexadecimal digit. -/
def hexDigit (c : ℕ) : Option ℕ :=
  if 48 ≤ c ∧ c ≤ 57 then some (c - 48)
  else if 97 ≤ c ∧ c ≤ 102 then some (c - 87)
  else if 65 ≤ c ∧ c ≤ 70 then some (c - 55)
  else none

/-- `bytes.fromhex`, which skips ASCII whitespace between the bytes. -/
def fromHex : PyStr → Option (List UInt8)
  | [] => some []
  | c :: cs =>
      if (9 ≤ c ∧ c ≤ 13) ∨ c = 32 then fromHex cs
      else match cs with
      | [] => none
      | d :: ds => do
          let hi ← hexDigit c
          let lo ← hexDigit d
          let bytes ← fromHex ds
          pure (UInt8.ofNat (16 * hi + lo) :: bytes)

/-- `_hex_bytes`.  Text outside ASCII is refused by `bytes.fromhex` at the latest, so only the ASCII
part of `str.lower` can be seen. -/
def hexBytes (value : PyStr) : Except Fault (List UInt8) :=
  if (value.any fun c => 65 ≤ c && c ≤ 90) || value.length % 2 ≠ 0 then .error (.builtin .valueError)
  else match fromHex value with
  | some bytes => .ok bytes
  | none => .error (.builtin .valueError)

/-- The tuple `order_key_f` returns. -/
structure OrderKey where
  ruleIds : List (List UInt8)
  directions : List (List UInt8)
  logicalTime : ℤ
  stateRoot : List UInt8
  deriving Inhabited

/-- The order of tuples. -/
def OrderKey.le (a b : OrderKey) : Bool :=
  if a.ruleIds ≠ b.ruleIds then a.ruleIds < b.ruleIds
  else if a.directions ≠ b.directions then a.directions < b.directions
  else if a.logicalTime ≠ b.logicalTime then a.logicalTime < b.logicalTime
  else a.stateRoot ≤ b.stateRoot

/-- `order_key_f` -/
def orderKey (origin candidate : StatePacket8D) (rules : List NativeTransitionRule) :
    Except Fault OrderKey := do
  let path ← resolveCanonicalPath origin candidate rules
  let ruleIds ← path.transitionRuleIds.mapM encodeUtf8
  let directions ← path.directionCodes.mapM encodeUtf8
  let root ← hexBytes candidate.stateRoot
  pure ⟨ruleIds, directions, candidate.logicalTime.val, root⟩

/-- `omega_f` -/
def omega (origin : StatePacket8D) (shell : List StatePacket8D) (rules : List NativeTransitionRule) :
    Except Fault (List StatePacket8D) := do
  let keyed ← shell.mapM fun candidate => do
    let key ← orderKey origin candidate rules
    pure (key, candidate)
  pure ((keyed.mergeSort fun a b => a.1.le b.1).map Prod.snd)

/-! ### The shells -/

/-- `NativeSpiralShell` -/
structure NativeSpiralShell where
  radius : ℤ
  candidates : List StatePacket8D
  status : String

/-- The status of the shell at a radius. -/
def shellStatus (radius : ℤ) : String :=
  if radius = 0 then "AUTHORITATIVE_EXACT_SHELL" else "RECONSTRUCTION_CANDIDATE_ONLY"

/-- The loop of `enumerate_shells`: the candidates by their distance, and how many were denied. -/
def groupCandidates (origin : StatePacket8D) (rules : List NativeTransitionRule) :
    List StatePacket8D → List (ℤ × List StatePacket8D) → ℕ →
      Except Fault (List (ℤ × List StatePacket8D) × ℕ)
  | [], grouped, deniedCount => .ok (grouped, deniedCount)
  | candidate :: candidates, grouped, deniedCount =>
      match deltaF origin candidate rules with
      | .ok distance =>
          groupCandidates origin rules candidates (Shells.put distance candidate grouped) deniedCount
      | .error (.own (.denied _)) => groupCandidates origin rules candidates grouped (deniedCount + 1)
      | .error e => .error e

/-- `enumerate_shells` -/
def enumerateShells (origin : StatePacket8D) (candidates : List StatePacket8D)
    (rules : List NativeTransitionRule) : Except Fault (List NativeSpiralShell) := do
  let (grouped, deniedCount) ← groupCandidates origin rules candidates [] 0
  if grouped.isEmpty ∧ 0 < deniedCount then deny denyBreakpointCrossed
  else ((grouped.map Prod.fst).mergeSort fun a b => a ≤ b).mapM fun radius => do
    let shell ← omega origin ((grouped.lookup radius).getD []) rules
    pure ⟨radius, shell, shellStatus radius⟩

/-! ### The scan -/

/-- `NativeLookupReceipt` -/
structure NativeLookupReceipt where
  state : String
  shell : Option ℤ
  candidateStateRoot : Option PyStr
  totalFieldStateRoot : PyStr
  evidence : List (String × PyVal) := []

/-- The receipt when the budget runs out. -/
def budgetReceipt (origin : StatePacket8D) (budget : ℤ) (examined : ℕ) : NativeLookupReceipt where
  state := "HOLD_QUERY_BUDGET_EXCEEDED"
  shell := none
  candidateStateRoot := none
  totalFieldStateRoot := origin.stateRoot
  evidence := [("partial_pass", .bool false), ("examined", .int examined), ("budget", .int budget)]

/-- The receipt of a fixed point. -/
def uniqueReceipt (origin : StatePacket8D) (radius : ℤ) (candidate : StatePacket8D) (examined : ℕ) :
    NativeLookupReceipt where
  state := "UNIQUE_EVIDENCE_CLOSED_FIXED_POINT"
  shell := some radius
  candidateStateRoot := some candidate.stateRoot
  totalFieldStateRoot := origin.stateRoot
  evidence := [("examined", .int examined), ("stop_immediately", .bool true)]

/-- The receipt of several fixed points in one shell. -/
def divergenceReceipt (origin : StatePacket8D) (radius : ℤ) (count : ℕ) : NativeLookupReceipt where
  state := "HOLD_CONSENSUS_DIVERGENCE"
  shell := some radius
  candidateStateRoot := none
  totalFieldStateRoot := origin.stateRoot
  evidence := [("fixed_point_count", .int count)]

/-- The receipt when there is no fixed point. -/
def missingReceipt (origin : StatePacket8D) : NativeLookupReceipt where
  state := "HOLD_TRANSITION_RULE_MISSING"
  shell := none
  candidateStateRoot := none
  totalFieldStateRoot := origin.stateRoot
  evidence := [("reason", lit "NO_EVIDENCE_CLOSED_FIXED_POINT")]

/-- `validated.state_root`, or the root itself. -/
def validatedRoot : StatePacket8D ⊕ PyStr → PyStr
  | .inl packet => packet.stateRoot
  | .inr root => root

section Scan

variable (origin : StatePacket8D) (rules : List NativeTransitionRule) (parent : PyStr)
  (totalFieldValidate : StatePacket8D → StatePacket8D ⊕ PyStr) (budget : ℤ)

/-- The loop over the candidates of a shell: a receipt, or how many were examined and the fixed points
among them. -/
def scanShell : List StatePacket8D → ℕ → List StatePacket8D →
    Except Fault (NativeLookupReceipt ⊕ (ℕ × List StatePacket8D))
  | [], examined, fixedPoints => .ok (.inr (examined, fixedPoints))
  | candidate :: candidates, examined, fixedPoints =>
      if budget < (examined + 1 : ℕ) then .ok (.inl (budgetReceipt origin budget (examined + 1)))
      else do
        let closure ← evidenceClosed origin candidate rules parent
        if closure.state ≠ "PASS" then scanShell candidates (examined + 1) fixedPoints
        else if validatedRoot (totalFieldValidate candidate) = candidate.stateRoot then
          scanShell candidates (examined + 1) (fixedPoints ++ [candidate])
        else scanShell candidates (examined + 1) fixedPoints

/-- The loop over the shells. -/
def scanShells : List NativeSpiralShell → ℕ → Except Fault NativeLookupReceipt
  | [], _ => .ok (missingReceipt origin)
  | shell :: shells, examined => do
      let scanned ← scanShell origin rules parent totalFieldValidate budget shell.candidates examined []
      match scanned with
      | .inl receipt => .ok receipt
      | .inr (examined, []) => scanShells shells examined
      | .inr (examined, [candidate]) => .ok (uniqueReceipt origin shell.radius candidate examined)
      | .inr (_, fixedPoints) => .ok (divergenceReceipt origin shell.radius fixedPoints.length)

/-- `evidence_closure_stop` -/
def evidenceClosureStop (candidates : List StatePacket8D) : Except Fault NativeLookupReceipt :=
  match enumerateShells origin candidates rules with
  | .error (.own exc) => .ok ⟨exc.code, none, none, origin.stateRoot, []⟩
  | .error e => .error e
  | .ok shells => scanShells origin rules parent totalFieldValidate budget shells 0

/-! ### What the scan looks for -/

/-- The candidate is evidence-closed and mapped to its own root. -/
def IsFixedPoint (candidate : StatePacket8D) : Prop :=
  (evidenceClosed origin candidate rules parent).toOption.map ValidationDecision.state = some "PASS" ∧
    validatedRoot (totalFieldValidate candidate) = candidate.stateRoot

instance decidableIsFixedPoint (candidate : StatePacket8D) :
    Decidable (IsFixedPoint origin rules parent totalFieldValidate candidate) :=
  inferInstanceAs (Decidable (_ ∧ _))

/-- The distance of the candidate, if there is one. -/
def distance? (candidate : StatePacket8D) : Option ℤ := (deltaF origin candidate rules).toOption

/-- The candidate is reached or denied. -/
def Resolved (candidate : StatePacket8D) : Prop :=
  (∃ d, deltaF origin candidate rules = .ok d) ∨
    ∃ code, deltaF origin candidate rules = .error (.own (.denied code))

/-- All candidates are reached or denied; `r` is the least distance of a fixed point, only one
candidate at this distance is one, and its root is `s`; and no more candidates than the budget allows
are at this distance or nearer. -/
structure UniqueFixedPoint (candidates : List StatePacket8D) (r : ℤ) (s : PyStr) : Prop where
  resolved : ∀ c ∈ candidates, Resolved origin rules c
  only : ∃ c, (candidates.filter fun c => distance? origin rules c = some r ∧
    IsFixedPoint origin rules parent totalFieldValidate c) = [c] ∧ c.stateRoot = s
  least : ∀ c ∈ candidates, IsFixedPoint origin rules parent totalFieldValidate c →
    ∀ d ∈ distance? origin rules c, r ≤ d
  within : ((candidates.filter fun c => ∃ d ∈ distance? origin rules c, d ≤ r).length : ℤ) ≤ budget

/-! ### The scan is the scan of shells -/

/-- The verdict of a scan of shells, as a receipt. -/
def receiptOf : Shells.Verdict ℤ StatePacket8D → NativeLookupReceipt
  | .exceeded examined => budgetReceipt origin budget examined
  | .several radius count => divergenceReceipt origin radius count
  | .unique radius candidate examined => uniqueReceipt origin radius candidate examined
  | .nothing => missingReceipt origin

variable {origin rules parent totalFieldValidate budget}

/-- A shell whose candidates are all decided is scanned within the budget, or exceeds it. -/
theorem scanShell_eq {candidates : List StatePacket8D}
    (h : ∀ c ∈ candidates, ∃ decision, evidenceClosed origin c rules parent = .ok decision) :
    ∀ (examined : ℕ) (fixedPoints : List StatePacket8D),
      scanShell origin rules parent totalFieldValidate budget candidates examined fixedPoints = .ok
        (if candidates ≠ [] ∧ budget < examined + candidates.length then
          .inl (budgetReceipt origin budget (max examined budget.toNat + 1))
        else .inr (examined + candidates.length, fixedPoints ++ candidates.filter fun c =>
          IsFixedPoint origin rules parent totalFieldValidate c)) := by
  induction candidates with
  | nil => intro examined fixedPoints; simp [scanShell]
  | cons c candidates ih =>
      intro examined fixedPoints
      have hrest := ih fun d hd => h d (by simp [hd])
      obtain ⟨decision, hdecision⟩ := h c (by simp)
      rw [scanShell]
      by_cases hbudget : budget < (examined + 1 : ℕ)
      · have hmax : max examined budget.toNat = examined := by omega
        rw [if_pos hbudget, if_pos ⟨by simp, by push_cast [List.length_cons]; omega⟩, hmax]
      · have hcond : (candidates ≠ [] ∧ budget < (examined + 1 : ℕ) + (candidates.length : ℤ)) ↔
            (c :: candidates ≠ [] ∧ budget < examined + ((c :: candidates).length : ℤ)) := by
          push_cast [List.length_cons] at hbudget ⊢
          cases candidates with
          | nil => simp; omega
          | cons d candidates => simp; omega
        have hmax : max (examined + 1) budget.toNat = max examined budget.toNat := by omega
        have hlen : examined + 1 + candidates.length = examined + (c :: candidates).length := by
          rw [List.length_cons]
          omega
        rw [if_neg hbudget, hdecision, ok_bind, hrest, hrest, hmax, hlen]
        simp only [hcond]
        by_cases hfixed : IsFixedPoint origin rules parent totalFieldValidate c
        · have hpass : decision.state = "PASS" := by
            have := hfixed.1
            rw [hdecision] at this
            exact Option.some.inj this
          rw [if_neg (not_not.2 hpass), if_pos hfixed.2, List.filter_cons_of_pos (by simpa using hfixed),
            List.append_assoc, List.singleton_append]
        · rw [List.filter_cons_of_neg (by simpa using hfixed)]
          have hor : decision.state ≠ "PASS" ∨
              ¬validatedRoot (totalFieldValidate c) = c.stateRoot := by
            by_contra hboth
            push Not at hboth
            refine hfixed ⟨?_, hboth.2⟩
            rw [hdecision, ← hboth.1]
            rfl
          split_ifs <;> first | rfl | (rcases hor with h | h <;> contradiction)

/-- The scan of the spiral is the scan of its shells. -/
theorem scanShells_eq {shells : List NativeSpiralShell}
    (h : ∀ shell ∈ shells, ∀ c ∈ shell.candidates,
      ∃ decision, evidenceClosed origin c rules parent = .ok decision) :
    ∀ examined : ℕ, scanShells origin rules parent totalFieldValidate budget shells examined =
      .ok (receiptOf origin budget (Shells.scan
        (fun c => IsFixedPoint origin rules parent totalFieldValidate c) budget examined
        (shells.map fun shell => (shell.radius, shell.candidates)))) := by
  induction shells with
  | nil => intro examined; rfl
  | cons shell shells ih =>
      intro examined
      rw [scanShells, scanShell_eq (h shell (by simp)), ok_bind, List.map_cons, Shells.scan]
      split_ifs with hbudget
      · rfl
      · dsimp only
        rw [List.nil_append]
        rcases shell.candidates.filter _ with _ | ⟨c, _ | ⟨d, found⟩⟩
        · exact ih (fun t ht => h t (by simp [ht])) _
        · rfl
        · rfl

/-! ### The shells are made of the candidates -/

/-- The candidates that are reached, with their distances. -/
def reached (origin : StatePacket8D) (rules : List NativeTransitionRule)
    (candidates : List StatePacket8D) : List (ℤ × StatePacket8D) :=
  candidates.filterMap fun c => (distance? origin rules c).map (·, c)

theorem mem_reached {candidates : List StatePacket8D} {p : ℤ × StatePacket8D} :
    p ∈ reached origin rules candidates ↔ p.2 ∈ candidates ∧ deltaF origin p.2 rules = .ok p.1 := by
  rw [reached, List.mem_filterMap]
  constructor
  · rintro ⟨c, hc, hp⟩
    obtain ⟨d, hd, rfl⟩ := Option.map_eq_some_iff.1 hp
    refine ⟨hc, ?_⟩
    rw [distance?] at hd
    cases hdelta : deltaF origin c rules with
    | ok e => rw [hdelta] at hd; rw [← Option.some.inj hd]
    | error e => rw [hdelta] at hd; cases hd
  · rintro ⟨hc, hd⟩
    exact ⟨p.2, hc, by rw [distance?, hd]; rfl⟩

/-- The loop puts the candidates that are reached into shells. -/
theorem groupCandidates_eq {candidates : List StatePacket8D}
    (h : ∀ c ∈ candidates, Resolved origin rules c) (grouped : List (ℤ × List StatePacket8D))
    (deniedCount : ℕ) :
    ∃ denied, groupCandidates origin rules candidates grouped deniedCount = .ok
      ((reached origin rules candidates).foldl (fun gs p => Shells.put p.1 p.2 gs) grouped, denied) := by
  induction candidates generalizing grouped deniedCount with
  | nil => exact ⟨_, rfl⟩
  | cons c candidates ih =>
      have hrest := ih fun d hd => h d (by simp [hd])
      rw [groupCandidates]
      rcases h c (by simp) with ⟨d, hd⟩ | ⟨code, hd⟩
      · obtain ⟨denied, hgroup⟩ := hrest (Shells.put d c grouped) deniedCount
        refine ⟨denied, ?_⟩
        rw [hd]
        simp only [reached, List.filterMap_cons, distance?, hd, Except.toOption, Option.map_some,
          List.foldl_cons]
        exact hgroup
      · obtain ⟨denied, hgroup⟩ := hrest grouped (deniedCount + 1)
        refine ⟨denied, ?_⟩
        rw [hd]
        simp only [reached, List.filterMap_cons, distance?, hd, Except.toOption, Option.map_none]
        exact hgroup

/-- A candidate that is neither reached nor denied makes the loop raise. -/
theorem groupCandidates_error {candidates : List StatePacket8D}
    (h : ∃ c ∈ candidates, ¬Resolved origin rules c) (grouped : List (ℤ × List StatePacket8D))
    (deniedCount : ℕ) :
    ∃ e, groupCandidates origin rules candidates grouped deniedCount = .error e := by
  induction candidates generalizing grouped deniedCount with
  | nil =>
      obtain ⟨c, hc, -⟩ := h
      exact absurd hc List.not_mem_nil
  | cons c candidates ih =>
      rw [groupCandidates]
      have hrest : Resolved origin rules c → ∃ c ∈ candidates, ¬Resolved origin rules c := by
        intro hc
        obtain ⟨d, hd, hbad⟩ := h
        rcases List.mem_cons.1 hd with rfl | hd
        · exact absurd hc hbad
        · exact ⟨d, hd, hbad⟩
      rcases hdelta : deltaF origin c rules with ((code | code) | b) | d
      · exact ⟨_, rfl⟩
      · exact ih (hrest (.inr ⟨code, hdelta⟩)) _ _
      · exact ⟨_, rfl⟩
      · exact ih (hrest (.inl ⟨d, hdelta⟩)) _ _

/-- The rules of a path that is returned are rules of the list, and their ids can be encoded. -/
theorem resolveCanonicalPath_rules {c : StatePacket8D} {path : CanonicalPath}
    (h : resolveCanonicalPath origin c rules = .ok path) :
    ∀ rule ∈ path.rules, rule ∈ rules ∧ Py.Encodable rule.transitionRuleId := by
  by_cases hne : origin.nativeStateRef = c.nativeStateRef
  · rw [resolveCanonicalPath, if_pos hne] at h
    split_ifs at h
    all_goals cases h
    simp
  by_cases hver : origin.ruleVersion = c.ruleVersion
  · by_cases henc : ∀ rule ∈ rules, Admitted origin c rule → Py.Encodable rule.transitionRuleId
    · rw [resolveCanonicalPath_eq hne hver henc, admittedPaths_eq] at h
      rcases hfound : routes origin c rules with _ | ⟨q, _ | ⟨q', found⟩⟩
      · rw [hfound] at h
        cases h
      · rw [hfound, List.map_singleton, onlyPath, bind_eq_ok_iff] at h
        obtain ⟨-, -, hpath⟩ := h
        obtain rfl := pure_eq_ok_iff.1 hpath
        have hq := (mem_routes.1 (hfound ▸ List.mem_singleton_self q)).1
        intro rule hrule
        obtain ⟨e, he, rfl⟩ := List.mem_map.1 hrule
        have hmem := List.mem_of_getElem? (hq e he).1
        exact ⟨hmem, henc _ hmem (hq e he).2⟩
      · rw [hfound] at h
        cases h
    · push Not at henc
      obtain ⟨rule, hrule, hadm, hbad⟩ := henc
      rw [resolveCanonicalPath_error hne hver ⟨rule, hrule, hadm, hbad⟩] at h
      cases h
  · rw [resolveCanonicalPath, if_neg hne, if_pos hver] at h
    cases h

/-- The key of a candidate that is reached can be computed. -/
theorem orderKey_ok (hdir : ∀ rule ∈ rules, Py.Encodable rule.directionCode) {c : StatePacket8D} {d : ℤ}
    (hd : deltaF origin c rules = .ok d) (hroot : ∃ bytes, hexBytes c.stateRoot = .ok bytes) :
    ∃ key, orderKey origin c rules = .ok key := by
  obtain ⟨path, hpath, -⟩ := bind_eq_ok_iff.1 hd
  obtain ⟨bytes, hbytes⟩ := hroot
  have hrules := resolveCanonicalPath_rules hpath
  have hids : path.transitionRuleIds.mapM encodeUtf8 =
      (.ok (path.transitionRuleIds.map fun s => s.flatMap utf8Char) : Except Fault _) := by
    refine mapM_eq_ok fun s hs => encodeUtf8_ok ?_
    obtain ⟨rule, hrule, rfl⟩ := List.mem_map.1 hs
    exact (hrules rule hrule).2
  have hdirs : path.directionCodes.mapM encodeUtf8 =
      (.ok (path.directionCodes.map fun s => s.flatMap utf8Char) : Except Fault _) := by
    refine mapM_eq_ok fun s hs => encodeUtf8_ok ?_
    obtain ⟨rule, hrule, rfl⟩ := List.mem_map.1 hs
    exact hdir rule (hrules rule hrule).1
  rw [orderKey, hpath, ok_bind, hids, ok_bind, hdirs, ok_bind, hbytes]
  exact ⟨_, rfl⟩

/-- A shell whose keys can be computed is sorted. -/
theorem omega_ok {shell : List StatePacket8D} (h : ∀ c ∈ shell, ∃ key, orderKey origin c rules = .ok key) :
    ∃ sorted, omega origin shell rules = .ok sorted ∧ sorted.Perm shell := by
  choose! key hkey using h
  have hkeyed : shell.mapM (fun c => do
      let key ← orderKey origin c rules
      pure (key, c)) = .ok (shell.map fun c => (key c, c)) := by
    refine mapM_eq_ok fun c hc => ?_
    rw [hkey c hc]
    rfl
  refine ⟨_, by rw [omega, hkeyed]; rfl, ((List.mergeSort_perm _ _).map Prod.snd).trans ?_⟩
  rw [List.map_map]
  exact .of_eq (List.map_id' shell)

/-- Different numbers are sorted in strict order. -/
theorem pairwise_lt_mergeSort {ks : List ℤ} (h : ks.Nodup) :
    (ks.mergeSort fun a b => a ≤ b).Pairwise (· < ·) := by
  have hle := @List.pairwise_mergeSort _ (fun a b : ℤ => decide (a ≤ b))
    (fun a b c hab hbc => by simpa using le_trans (by simpa using hab) (by simpa using hbc))
    (fun a b => by simpa using le_total a b) ks
  have hne := (List.mergeSort_perm ks fun a b => a ≤ b).nodup_iff.2 h
  exact (hle.and hne).imp fun hab => lt_of_le_of_ne (by simpa using hab.1) hab.2

/-- When all candidates are reached or denied and some is reached, the shells are in the order of
their distance and hold the candidates that are reached. -/
theorem enumerateShells_ok {candidates : List StatePacket8D}
    (hresolved : ∀ c ∈ candidates, Resolved origin rules c)
    (hdir : ∀ rule ∈ rules, Py.Encodable rule.directionCode)
    (hroots : ∀ c ∈ candidates, ∃ bytes, hexBytes c.stateRoot = .ok bytes)
    (hsome : reached origin rules candidates ≠ []) :
    ∃ shells, enumerateShells origin candidates rules = .ok shells ∧
      (shells.map NativeSpiralShell.radius).Pairwise (· < ·) ∧
      (Shells.flat (shells.map fun s => (s.radius, s.candidates))).Perm
        (reached origin rules candidates) := by
  obtain ⟨denied, hgroup⟩ := groupCandidates_eq hresolved [] 0
  rw [← Shells.group] at hgroup
  have hsorted : ∀ k, ∃ sorted, omega origin (Shells.members (reached origin rules candidates) k) rules =
      .ok sorted ∧ sorted.Perm (Shells.members (reached origin rules candidates) k) := by
    refine fun k => omega_ok fun c hc => ?_
    obtain ⟨p, hp, rfl⟩ := List.mem_map.1 hc
    obtain ⟨hmem, hdist⟩ := mem_reached.1 (List.mem_of_mem_filter hp)
    exact orderKey_ok hdir hdist (hroots _ hmem)
  choose sorted hsorted hperm using hsorted
  obtain ⟨hnodup, hkeys⟩ := Shells.keys_group (reached origin rules candidates)
  have hlt := pairwise_lt_mergeSort hnodup
  have hempty : ¬((Shells.group (reached origin rules candidates)).isEmpty = true ∧ 0 < denied) := by
    rintro ⟨hnil, -⟩
    obtain ⟨p, hp⟩ := List.exists_mem_of_ne_nil _ hsome
    have hmem := (hkeys p.1).2 (List.mem_map_of_mem hp)
    rw [List.isEmpty_iff.1 hnil] at hmem
    exact List.not_mem_nil hmem
  refine ⟨(((Shells.group (reached origin rules candidates)).map Prod.fst).mergeSort
    fun a b => a ≤ b).map fun radius => ⟨radius, sorted radius, shellStatus radius⟩, ?_, ?_, ?_⟩
  · rw [enumerateShells, hgroup, ok_bind]
    dsimp only
    rw [if_neg hempty]
    refine mapM_eq_ok fun radius _ => ?_
    rw [Shells.lookup_group, hsorted]
    rfl
  · rw [List.map_map]
    exact (List.map_id' _).symm ▸ hlt
  · rw [List.map_map]
    refine Shells.flat_perm hperm hlt.nodup fun p hp => ?_
    exact List.mem_mergeSort.2 ((hkeys p.1).2 (List.mem_map_of_mem hp))

/-- A candidate that is reached or denied is decided, when its texts can be encoded. -/
theorem Resolved.decided {c : StatePacket8D} (h : Resolved origin rules c) (henc : c.Encodable) :
    ∃ decision, evidenceClosed origin c rules parent = .ok decision := by
  refine evidenceClosed_ok henc fun b hb => ?_
  rw [Resolved, deltaF, hb, error_bind] at h
  rcases h with ⟨d, hd⟩ | ⟨code, hd⟩
  · cases hd
  · cases hd

/-! ### The outcome -/

theorem filter_reached (good : StatePacket8D → Bool) (r : ℤ) (candidates : List StatePacket8D) :
    ((reached origin rules candidates).filter fun p => p.1 = r ∧ good p.2) =
      (candidates.filter fun c => distance? origin rules c = some r ∧ good c).map (r, ·) := by
  induction candidates with
  | nil => rfl
  | cons c candidates ih =>
      rw [reached] at ih ⊢
      rw [List.filterMap_cons, List.filter_cons]
      cases hd : distance? origin rules c with
      | none => simpa using ih
      | some d =>
          by_cases hdr : d = r
          · by_cases hgood : good c
            · simpa [hdr, hgood] using ih
            · simpa [hdr, hgood] using ih
          · simpa [hdr] using ih

theorem length_filter_reached (r : ℤ) (candidates : List StatePacket8D) :
    ((reached origin rules candidates).filter fun p => p.1 ≤ r).length =
      (candidates.filter fun c => ∃ d ∈ distance? origin rules c, d ≤ r).length := by
  induction candidates with
  | nil => rfl
  | cons c candidates ih =>
      rw [reached] at ih ⊢
      rw [List.filterMap_cons, List.filter_cons]
      cases hd : distance? origin rules c with
      | none => simpa using ih
      | some d =>
          by_cases hdr : d ≤ r
          · simpa [hdr] using ih
          · simpa [hdr] using ih

/-- What the scan looks for is the nearest fixed point among the candidates that are reached. -/
theorem uniqueFixedPoint_iff {candidates : List StatePacket8D} {r : ℤ} {s : PyStr} :
    UniqueFixedPoint origin rules parent totalFieldValidate budget candidates r s ↔
      (∀ c ∈ candidates, Resolved origin rules c) ∧
        ∃ c, Shells.Nearest (fun c => IsFixedPoint origin rules parent totalFieldValidate c) budget 0
          (reached origin rules candidates) r c ∧ c.stateRoot = s := by
  have honly : ∀ c, ((reached origin rules candidates).filter fun p => p.1 = r ∧
      decide (IsFixedPoint origin rules parent totalFieldValidate p.2) = true) = [(r, c)] ↔
      (candidates.filter fun c => distance? origin rules c = some r ∧
        IsFixedPoint origin rules parent totalFieldValidate c) = [c] := by
    intro c
    have hinj : Function.Injective fun c : StatePacket8D => (r, c) := fun a b h => (Prod.mk.inj h).2
    rw [filter_reached (fun c => IsFixedPoint origin rules parent totalFieldValidate c)]
    simp only [decide_eq_true_eq]
    rw [← List.map_singleton (f := fun c : StatePacket8D => (r, c)),
      (List.map_injective_iff.2 hinj).eq_iff]
  have hdist : ∀ {c d}, d ∈ distance? origin rules c ↔ deltaF origin c rules = .ok d := by
    intro c d
    rw [distance?, Option.mem_def]
    cases deltaF origin c rules with
    | ok e => simp [Except.toOption]
    | error e => simp [Except.toOption]
  constructor
  · intro h
    obtain ⟨c, hc, hroot⟩ := h.only
    refine ⟨h.resolved, c, ⟨(honly c).2 hc, fun p hp hgood => ?_, ?_⟩, hroot⟩
    · obtain ⟨hmem, hd⟩ := mem_reached.1 hp
      exact h.least p.2 hmem (of_decide_eq_true hgood) p.1 (hdist.2 hd)
    · rw [length_filter_reached]
      simpa using h.within
  · rintro ⟨hresolved, c, h, hroot⟩
    refine ⟨hresolved, ⟨c, (honly c).1 h.only, hroot⟩, fun b hb hgood d hd => ?_, ?_⟩
    · exact h.least (d, b) (mem_reached.2 ⟨hb, hdist.1 hd⟩) (decide_eq_true hgood)
    · rw [← length_filter_reached]
      simpa using h.within

/-- A receipt that names a fixed point, its distance and its root. -/
def Names (r : ℤ) (s : PyStr) (stop : Except Fault NativeLookupReceipt) : Prop :=
  ∃ receipt, stop = .ok receipt ∧ receipt.state = "UNIQUE_EVIDENCE_CLOSED_FIXED_POINT" ∧
    receipt.shell = some r ∧ receipt.candidateStateRoot = some s

theorem names_receiptOf_iff {r : ℤ} {s : PyStr} {verdict : Shells.Verdict ℤ StatePacket8D} :
    Names r s (.ok (receiptOf origin budget verdict)) ↔
      ∃ c, (∃ n, verdict = .unique r c n) ∧ c.stateRoot = s := by
  constructor
  · rintro ⟨receipt, hok, -, hshell, hroot⟩
    obtain rfl := Except.ok.inj hok
    cases verdict with
    | exceeded n => cases hshell
    | several k n => cases hroot
    | unique k c n =>
        obtain rfl := Option.some.inj hshell
        exact ⟨c, ⟨n, rfl⟩, Option.some.inj hroot⟩
    | nothing => cases hshell
  · rintro ⟨c, ⟨n, rfl⟩, rfl⟩
    exact ⟨_, rfl, rfl, rfl, rfl⟩

/-- The scan names a fixed point exactly when it is what the scan looks for. -/
theorem names_iff {candidates : List StatePacket8D}
    (hdir : ∀ rule ∈ rules, Py.Encodable rule.directionCode)
    (hroots : ∀ c ∈ candidates, ∃ bytes, hexBytes c.stateRoot = .ok bytes)
    (henc : ∀ c ∈ candidates, c.Encodable) {r : ℤ} {s : PyStr} :
    Names r s (evidenceClosureStop origin rules parent totalFieldValidate budget candidates) ↔
      UniqueFixedPoint origin rules parent totalFieldValidate budget candidates r s := by
  rw [uniqueFixedPoint_iff]
  by_cases hresolved : ∀ c ∈ candidates, Resolved origin rules c
  · rw [and_iff_right hresolved]
    by_cases hsome : reached origin rules candidates = []
    · -- every candidate is denied, or there is none
      refine iff_of_false ?_ ?_
      · rintro ⟨receipt, hok, -, hshell, -⟩
        obtain ⟨denied, hgroup⟩ := groupCandidates_eq hresolved [] 0
        rw [hsome, List.foldl_nil] at hgroup
        rw [evidenceClosureStop, enumerateShells, hgroup, ok_bind] at hok
        dsimp only at hok
        by_cases hdenied : 0 < denied
        · rw [if_pos ⟨rfl, hdenied⟩, deny] at hok
          obtain rfl := Except.ok.inj hok
          cases hshell
        · rw [if_neg fun h => hdenied h.2, List.map_nil, List.mergeSort_nil] at hok
          obtain rfl := Except.ok.inj hok
          cases hshell
      · rintro ⟨c, h, -⟩
        have honly := h.only
        rw [hsome] at honly
        cases honly
    · obtain ⟨shells, hshells, hsorted, hflat⟩ := enumerateShells_ok hresolved hdir hroots hsome
      have hmem : ∀ shell ∈ shells, ∀ c ∈ shell.candidates,
          ∃ decision, evidenceClosed origin c rules parent = .ok decision := by
        intro shell hshell c hc
        have hin : (shell.radius, c) ∈ Shells.flat (shells.map fun s => (s.radius, s.candidates)) :=
          List.mem_flatMap.2 ⟨_, List.mem_map_of_mem hshell, List.mem_map_of_mem hc⟩
        obtain ⟨hcand, -⟩ := mem_reached.1 (hflat.subset hin)
        exact (hresolved c hcand).decided (henc c hcand)
      rw [evidenceClosureStop, hshells]
      dsimp only
      rw [scanShells_eq hmem, names_receiptOf_iff]
      refine exists_congr fun c => and_congr_left fun _ => ?_
      rw [Shells.scan_eq_unique_iff (by rw [List.map_map]; exact hsorted)]
      exact ⟨fun h => h.perm hflat, fun h => h.perm hflat.symm⟩
  · -- a candidate is neither reached nor denied
    refine iff_of_false ?_ fun h => hresolved h.1
    rintro ⟨receipt, hok, -, hshell, -⟩
    push Not at hresolved
    obtain ⟨e, he⟩ := groupCandidates_error hresolved [] 0
    rw [evidenceClosureStop, enumerateShells, he, error_bind] at hok
    cases e with
    | own exc =>
        obtain rfl := Except.ok.inj hok
        cases hshell
    | builtin b => cases hok

theorem IsFixedPoint.perm {c : StatePacket8D} {rules' : List NativeTransitionRule}
    (h : rules.Perm rules') : IsFixedPoint origin rules parent totalFieldValidate c ↔
      IsFixedPoint origin rules' parent totalFieldValidate c := by
  rw [IsFixedPoint, IsFixedPoint, evidenceClosed_perm origin c h parent]

/-- The order of the candidates and of the rules does not matter. -/
theorem UniqueFixedPoint.perm {candidates candidates' : List StatePacket8D}
    {rules' : List NativeTransitionRule} {r : ℤ} {s : PyStr}
    (h : UniqueFixedPoint origin rules parent totalFieldValidate budget candidates r s)
    (hcandidates : candidates.Perm candidates') (hrules : rules.Perm rules') :
    UniqueFixedPoint origin rules' parent totalFieldValidate budget candidates' r s := by
  have hdelta : ∀ c, deltaF origin c rules = deltaF origin c rules' := by
    intro c
    rw [deltaF, deltaF, resolveCanonicalPath_perm origin c hrules]
  have hdist : distance? origin rules = distance? origin rules' := by
    funext c
    rw [distance?, distance?, hdelta]
  have honly : ∀ c : StatePacket8D, decide (distance? origin rules c = some r ∧
      IsFixedPoint origin rules parent totalFieldValidate c) =
      decide (distance? origin rules' c = some r ∧
        IsFixedPoint origin rules' parent totalFieldValidate c) := by
    intro c
    rw [decide_eq_decide, hdist, IsFixedPoint.perm hrules]
  constructor
  · intro c hc
    rw [Resolved, ← hdelta c]
    exact h.resolved c (hcandidates.symm.subset hc)
  · obtain ⟨c, hc, hroot⟩ := h.only
    rw [List.filter_congr fun d _ => honly d] at hc
    refine ⟨c, ?_, hroot⟩
    exact (List.singleton_perm.1 (hc ▸ hcandidates.filter _)).symm
  · intro c hc hfixed d hd
    rw [← hdist] at hd
    exact h.least c (hcandidates.symm.subset hc) ((IsFixedPoint.perm hrules).2 hfixed) d hd
  · rw [← hdist, ← (hcandidates.filter _).length_eq]
    exact h.within

/-- **The stop is exact and does not depend on any order.**  For candidates with well-formed roots, and
texts and directions that can be encoded, a fixed point is named with its distance and root exactly
when all candidates are reached or denied, it is the only one at the least distance of one, and the
candidates that are not farther away are within the budget. -/
theorem evidenceClosureStop_exact {candidates : List StatePacket8D}
    (hdir : ∀ rule ∈ rules, Py.Encodable rule.directionCode)
    (hroots : ∀ c ∈ candidates, ∃ bytes, hexBytes c.stateRoot = .ok bytes)
    (henc : ∀ c ∈ candidates, c.Encodable) :
    (∀ r s, Names r s (evidenceClosureStop origin rules parent totalFieldValidate budget candidates) ↔
      UniqueFixedPoint origin rules parent totalFieldValidate budget candidates r s) ∧
    ∀ candidates' rules', candidates.Perm candidates' → rules.Perm rules' → ∀ r s,
      Names r s (evidenceClosureStop origin rules' parent totalFieldValidate budget candidates') ↔
        Names r s (evidenceClosureStop origin rules parent totalFieldValidate budget candidates) := by
  refine ⟨fun r s => names_iff hdir hroots henc, fun candidates' rules' hcandidates hrules r s => ?_⟩
  rw [names_iff hdir hroots henc, names_iff (fun rule hrule => hdir rule (hrules.symm.subset hrule))
    (fun c hc => hroots c (hcandidates.symm.subset hc))
    fun c hc => henc c (hcandidates.symm.subset hc)]
  exact ⟨fun h => h.perm hcandidates.symm hrules.symm, fun h => h.perm hcandidates hrules⟩

end Scan

/-! ### Roots that are hashes -/

theorem fromHex_digits {s : PyStr} (h : ∀ c ∈ s, (48 ≤ c ∧ c ≤ 57) ∨ (97 ≤ c ∧ c ≤ 102))
    (heven : s.length % 2 = 0) : ∃ bytes, fromHex s = some bytes := by
  induction s using fromHex.induct with
  | case1 => exact ⟨[], rfl⟩
  | case2 c cs hspace ih =>
      have := h c (by simp)
      omega
  | case3 c hspace => simp at heven
  | case4 c hspace d ds ih =>
      obtain ⟨bytes, hbytes⟩ := ih (fun e he => h e (by simp [he])) (by
        rw [List.length_cons, List.length_cons] at heven
        omega)
      have hdigit : ∀ e ∈ c :: d :: ds, ∃ n, hexDigit e = some n := by
        intro e he
        rcases h e he with hc | hc
        · exact ⟨_, if_pos hc⟩
        · exact ⟨_, by rw [hexDigit, if_neg (by omega), if_pos hc]⟩
      obtain ⟨hi, hhi⟩ := hdigit c (by simp)
      obtain ⟨lo, hlo⟩ := hdigit d (by simp)
      rw [fromHex, if_neg hspace, hhi, hlo, hbytes]
      exact ⟨_, rfl⟩

/-- A hash is a well-formed root. -/
theorem hexBytes_hexdigest (msg : List UInt8) : ∃ bytes, hexBytes (Sha256.hexdigest msg) = .ok bytes := by
  have hhex := Sha256.isHex64_hexdigest msg
  rw [Sha256.isHex64, Bool.and_eq_true, List.all_eq_true, decide_eq_true_eq] at hhex
  obtain ⟨hlen, hall⟩ := hhex
  have hrange : ∀ c ∈ Sha256.hexdigest msg, (48 ≤ c ∧ c ≤ 57) ∨ (97 ≤ c ∧ c ≤ 102) := by
    intro c hc
    simpa using hall c hc
  obtain ⟨bytes, hbytes⟩ := fromHex_digits hrange (by omega)
  have hlower : ¬((Sha256.hexdigest msg).any (fun c => 65 ≤ c && c ≤ 90) = true ∨
      (Sha256.hexdigest msg).length % 2 ≠ 0) := by
    rw [List.any_eq_true]
    rintro (⟨c, hc, hupper⟩ | hodd)
    · have := hrange c hc
      simp only [Bool.and_eq_true, decide_eq_true_eq] at hupper
      omega
    · omega
  refine ⟨bytes, ?_⟩
  rw [hexBytes, if_neg (by simpa using hlower), hbytes]

/-! ### A closed candidate -/

/-- A state with positive boundaries, and no root yet. -/
def positiveState : StatePacket8D :=
  { bareState "B" with
    boundaryFacts := List.replicate 8
      { intentSatisfied := true, evidenceValid := true, lifeSafe := true, otherRightsSafe := true }
    boundaryFacts_length := by decide }

/-- The same state with its own root. -/
def closedState : StatePacket8D :=
  { positiveState with
    stateRoot := Sha256.hexdigest ((rootMaterial positiveState).dumps.flatMap utf8Char) }

theorem encodable_closedState : closedState.Encodable := by
  constructor
  · rintro s hs
    obtain rfl := Option.some.inj hs
    exact encodable_cp _
  · simp [closedState, positiveState, bareState]

theorem candidateStateRoot_closedState :
    candidateStateRoot closedState = .ok closedState.stateRoot := by
  obtain ⟨root, hroot⟩ := candidateStateRoot_ok encodable_closedState
  obtain ⟨bytes, hbytes, hhash⟩ := bind_eq_ok_iff.1 hroot
  obtain ⟨-, rfl⟩ := encodeUtf8_isOk_iff.1 hbytes
  rw [candidateStateRoot, hbytes]
  rfl

/-- The closed state is evidence-closed when rules that need no evidence lead to it. -/
theorem evidenceClosed_closedState {origin : StatePacket8D} {rules : List NativeTransitionRule}
    {path : CanonicalPath} (hpath : resolveCanonicalPath origin closedState rules = .ok path)
    (hrefs : ∀ rule ∈ path.rules, rule.requiredEvidenceRefs = []) :
    evidenceClosed origin closedState rules (cp "parent") = .ok ⟨"PASS", "EVIDENCE_CLOSED"⟩ := by
  have hvalid : validate8d closedState = ⟨"PASS", "VALID_8D_CANDIDATE_STRUCTURE"⟩ := rfl
  have hparent : closedState.parentStateRoot = cp "parent" := rfl
  have hcheck : checkEvidence closedState = none := rfl
  rw [evidenceClosed, if_neg (by rw [hvalid]; decide), positiveNegativeBoundaries,
    if_neg (not_not.2 closedState.boundaryFacts_length), ok_bind,
    if_neg (by simp [closedState, positiveState, boundaryValue]),
    if_neg (by simp [closedState, positiveState, boundaryValue]), if_neg (not_not.2 hparent),
    candidateStateRoot_closedState, ok_bind, if_neg (not_not.2 rfl), hcheck, hpath]
  dsimp only
  rw [decidePath, if_pos]
  rw [List.all_eq_true]
  intro rule hrule
  rw [hrefs rule hrule]
  rfl

theorem resolveCanonicalPath_closedState (direction : PyStr) :
    resolveCanonicalPath (bareState "A") closedState [bareRule (cp "r") direction "A" "B"] =
      .ok ⟨[bareRule (cp "r") direction "A" "B"]⟩ := by
  have hne : (bareState "A").nativeStateRef ≠ closedState.nativeStateRef := by decide
  rw [resolveCanonicalPath_eq hne rfl (by simp [bareRule])]
  have hpaths : admittedPaths (bareState "A") closedState [bareRule (cp "r") direction "A" "B"] =
      [[bareRule (cp "r") direction "A" "B"]] := rfl
  rw [hpaths]
  rfl

/-- A rule of any direction leads to the only fixed point. -/
theorem uniqueFixedPoint_closedState (direction : PyStr) :
    UniqueFixedPoint (bareState "A") [bareRule (cp "r") direction "A" "B"] (cp "parent") .inl 1
      [closedState] 1 closedState.stateRoot := by
  have hpath := resolveCanonicalPath_closedState direction
  have hdelta : deltaF (bareState "A") closedState [bareRule (cp "r") direction "A" "B"] = .ok 1 := by
    rw [deltaF, hpath]
    rfl
  have hdist : distance? (bareState "A") [bareRule (cp "r") direction "A" "B"] closedState = some 1 := by
    rw [distance?, hdelta]
    rfl
  have hfixed : IsFixedPoint (bareState "A") [bareRule (cp "r") direction "A" "B"] (cp "parent") .inl
      closedState := by
    refine ⟨?_, rfl⟩
    rw [evidenceClosed_closedState hpath (by simp [bareRule])]
    rfl
  constructor
  · intro c hc
    obtain rfl := List.mem_singleton.1 hc
    exact .inl ⟨1, hdelta⟩
  · exact ⟨closedState, by rw [List.filter_cons_of_pos (by simp [hdist, hfixed])]; rfl, rfl⟩
  · intro c hc _ d hd
    obtain rfl := List.mem_singleton.1 hc
    rw [hdist] at hd
    exact (Option.some.inj hd).le
  · exact_mod_cast List.length_filter_le _ _

/-- A candidate one step away is named. -/
theorem evidenceClosureStop_exact_step :
    Names 1 closedState.stateRoot (evidenceClosureStop (bareState "A")
      [bareRule (cp "r") (cp "d") "A" "B"] (cp "parent") .inl 1 [closedState]) := by
  have hexact := @evidenceClosureStop_exact (bareState "A") [bareRule (cp "r") (cp "d") "A" "B"]
    (cp "parent") .inl 1 [closedState] (by simp [bareRule])
    (fun c hc => by rw [List.mem_singleton.1 hc]; exact hexBytes_hexdigest _)
    (fun c hc => by rw [List.mem_singleton.1 hc]; exact encodable_closedState)
  exact (hexact.1 1 closedState.stateRoot).2 (uniqueFixedPoint_closedState (cp "d"))

/-- A direction with a lone surrogate makes the stop raise, although there is only one fixed point. -/
theorem evidenceClosureStop_not_exact :
    (∃ bytes, hexBytes closedState.stateRoot = .ok bytes) ∧
    UniqueFixedPoint (bareState "A") [bareRule (cp "r") [0xD800] "A" "B"] (cp "parent") .inl 1
      [closedState] 1 closedState.stateRoot ∧
    evidenceClosureStop (bareState "A") [bareRule (cp "r") [0xD800] "A" "B"] (cp "parent") .inl 1
      [closedState] = .error (.builtin .unicodeEncodeError) ∧
    ¬Names 1 closedState.stateRoot (evidenceClosureStop (bareState "A")
      [bareRule (cp "r") [0xD800] "A" "B"] (cp "parent") .inl 1 [closedState]) := by
  have hpath := resolveCanonicalPath_closedState [0xD800]
  have hkey : orderKey (bareState "A") closedState [bareRule (cp "r") [0xD800] "A" "B"] =
      .error (.builtin .unicodeEncodeError) := by
    rw [orderKey, hpath]
    rfl
  have hdelta : deltaF (bareState "A") closedState [bareRule (cp "r") [0xD800] "A" "B"] = .ok 1 := by
    rw [deltaF, hpath]
    rfl
  have homega : omega (bareState "A") [closedState] [bareRule (cp "r") [0xD800] "A" "B"] =
      .error (.builtin .unicodeEncodeError) := by
    rw [omega, List.mapM_cons, hkey]
    rfl
  have hgroup : groupCandidates (bareState "A") [bareRule (cp "r") [0xD800] "A" "B"] [closedState] [] 0 =
      .ok ([(1, [closedState])], 0) := by
    rw [groupCandidates, hdelta]
    rfl
  have hshells : enumerateShells (bareState "A") [closedState] [bareRule (cp "r") [0xD800] "A" "B"] =
      .error (.builtin .unicodeEncodeError) := by
    rw [enumerateShells, hgroup, ok_bind]
    dsimp only
    rw [if_neg (by simp), List.map_singleton, List.mergeSort_singleton, List.mapM_cons]
    have hmembers : ([(1, [closedState])].lookup (1 : ℤ)).getD [] = [closedState] := rfl
    rw [hmembers, homega]
    rfl
  have hstop : evidenceClosureStop (bareState "A") [bareRule (cp "r") [0xD800] "A" "B"] (cp "parent")
      .inl 1 [closedState] = .error (.builtin .unicodeEncodeError) := by
    rw [evidenceClosureStop, hshells]
  refine ⟨hexBytes_hexdigest _, uniqueFixedPoint_closedState _, hstop, ?_⟩
  rintro ⟨receipt, hok, -⟩
  rw [hstop] at hok
  cases hok

end NativeAdi
