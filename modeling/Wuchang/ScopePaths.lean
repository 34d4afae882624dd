/-
**Where a touched path leads.**

The gate compares the paths a request touched with the paths it may touch as texts: a touched path
passes when it is an allowed one or goes on behind it with a slash.  A path is also a walk through
directories, from the root of the repository and segment by segment, where `..` leads back out of the
directory before it.  The text of a path that begins in an allowed one may lead anywhere.

The first part is about walks alone: a place is the list of the directories it lies in, and a place lies
in another when it ends with it.

Main definitions:

* `PathWalk.segments`, `PathWalk.walk` — the segments of a path, and where they lead;
* `PathWalk.keeps` — a walk that never climbs out of the directory it starts in;
* `FinalStateGate.InScope` — a path that leads into an allowed one;
* `FinalStateGate.Doubtful` — a path whose text does not tell where it leads;
* `FinalStateGate.Stays` — a path that comes to an allowed one and does not climb out of it.

Main results:

* `PathWalk.suffix_walk_iff` — a walk ends in a directory when it comes there and keeps inside;
* `FinalStateGate.inScope_of_match` — the texts tell where the other paths lead;
* `FinalStateGate.scope_resolved_iff` — when a pass of the gate tells that the touched paths are allowed.
-/

import Wuchang.FinalStateGate

set_option relaxedAutoImplicit false
set_option autoImplicit false

namespace PathWalk

open Py

/-! ### Segments -/

/-- `path.replace("\\", "/")` -/
def slashed (p : PyStr) : PyStr := p.map fun c => if c = 92 then 47 else c

/-- A segment that leads somewhere. -/
def counts (s : PyStr) : Bool := s ≠ [] ∧ s ≠ cp "."

/-- The segments of a path: what stands between its separators, but for nothing and `.`. -/
def segments (p : PyStr) : List PyStr := ((slashed p).splitOn 47).filter counts

theorem slashed_append (p q : PyStr) : slashed (p ++ q) = slashed p ++ slashed q := List.map_append

theorem slashed_slashed (p : PyStr) : slashed (slashed p) = slashed p := by
  rw [slashed, slashed, List.map_map]
  refine List.map_congr_left fun c _ => ?_
  simp only [Function.comp_apply]
  split_ifs <;> simp_all

theorem segments_slashed (p : PyStr) : segments (slashed p) = segments p := by
  rw [segments, slashed_slashed, segments]

/-- The segments on the two sides of a slash. -/
theorem segments_append_slash (p q : PyStr) : segments (p ++ 47 :: q) = segments p ++ segments q := by
  have hslash : slashed (47 :: q) = 47 :: slashed q := rfl
  rw [segments, slashed_append, hslash, List.splitOn_append_cons_self, List.filter_append]
  rfl

theorem segments_nil : segments [] = [] := by
  simp [segments, slashed, counts]

theorem segments_cons_slash (p : PyStr) : segments (47 :: p) = segments p := by
  have h := segments_append_slash [] p
  rwa [segments_nil, List.nil_append, List.nil_append] at h

theorem segments_append_one (p : PyStr) : segments (p ++ [47]) = segments p := by
  rw [segments_append_slash, segments_nil, List.append_nil]

/-- `./` in front of a path leads nowhere. -/
theorem segments_dot (p : PyStr) : segments (46 :: 47 :: p) = segments p := by
  have hdot : segments [46] = [] := by decide
  have h := segments_append_slash [46] p
  rwa [hdot, List.nil_append] at h

/-- Slashes in front of a path lead nowhere. -/
theorem segments_dropWhile (p : PyStr) : segments (p.dropWhile (· = 47)) = segments p := by
  induction p with
  | nil => rfl
  | cons c p ih =>
      by_cases hc : c = 47
      · subst hc
        rw [List.dropWhile_cons_of_pos (by simp), ih, segments_cons_slash]
      · rw [List.dropWhile_cons_of_neg (by simpa using hc)]

/-- Slashes behind a path lead nowhere. -/
theorem segments_rdropWhile (p : PyStr) : segments (p.rdropWhile (· = 47)) = segments p := by
  induction p using List.reverseRecOn with
  | nil => rfl
  | append_singleton p c ih =>
      by_cases hc : c = 47
      · subst hc
        rw [List.rdropWhile_concat_pos _ _ _ (by simp), ih, segments_append_one]
      · rw [List.rdropWhile_concat_neg _ _ _ (by simpa using hc)]

/-! ### Walks -/

/-- One step from a place, which is the list of the directories around it, the innermost first. -/
def step (place : List PyStr) (s : PyStr) : List PyStr := if s = cp ".." then place.tail else s :: place

/-- Where some segments lead from a place. -/
def walk (place : List PyStr) (path : List PyStr) : List PyStr := path.foldl step place

/-- Some segments do not lead out of the directory that many levels above the place they start in. -/
def keeps : ℕ → List PyStr → Bool
  | _, [] => true
  | n, s :: path => if s = cp ".." then n ≠ 0 && keeps (n - 1) path else keeps (n + 1) path

theorem keeps_up (n : ℕ) (path : List PyStr) :
    keeps n (cp ".." :: path) = true ↔ n ≠ 0 ∧ keeps (n - 1) path = true := by
  rw [keeps.eq_def]
  simp

theorem keeps_down {s : PyStr} (hs : s ≠ cp "..") (n : ℕ) (path : List PyStr) :
    keeps n (s :: path) = keeps (n + 1) path := by
  rw [keeps.eq_def]
  simp [hs]

theorem walk_append (place path more : List PyStr) : walk place (path ++ more) = walk (walk place path) more :=
  List.foldl_append

theorem walk_cons (place path : List PyStr) (s : PyStr) : walk place (s :: path) = walk (step place s) path :=
  rfl

/-- Without `..` a walk keeps inside the directory it starts in. -/
theorem keeps_of_forall {path : List PyStr} (h : cp ".." ∉ path) (n : ℕ) : keeps n path = true := by
  induction path generalizing n with
  | nil => rfl
  | cons s path ih =>
      rw [List.mem_cons, not_or] at h
      rw [keeps_down (Ne.symm h.1)]
      exact ih h.2 (n + 1)

/-- A walk that keeps inside a directory ends in it. -/
theorem suffix_of_keeps {path : List PyStr} {below home : List PyStr} (h : keeps below.length path = true) :
    home <:+ walk (below ++ home) path := by
  induction path generalizing below with
  | nil => exact List.suffix_append below home
  | cons s path ih =>
      rw [walk_cons, step]
      split_ifs with hup
      · subst hup
        obtain ⟨hbelow, hkeeps⟩ := (keeps_up _ _).1 h
        cases below with
        | nil => exact absurd rfl hbelow
        | cons d below => exact ih hkeeps
      · rw [keeps_down hup] at h
        exact @ih (s :: below) h

/-- Some segments come to a directory from a place, and keep inside it from there: either the place is
in the directory already, or they come to it on their way. -/
def Settles (home place path : List PyStr) : Prop :=
  (∃ below, place = below ++ home ∧ keeps below.length path = true) ∨
    ∃ seen rest, path = seen ++ rest ∧ walk place seen = home ∧ keeps 0 rest = true

/-- **A walk ends in a directory if and only if it settles in it.** -/
theorem suffix_walk_iff {home place path : List PyStr} :
    home <:+ walk place path ↔ Settles home place path := by
  constructor
  · intro h
    induction path generalizing place with
    | nil =>
        obtain ⟨below, hbelow⟩ := h
        exact .inl ⟨below, hbelow.symm, rfl⟩
    | cons s path ih =>
        rw [walk_cons] at h
        rcases ih h with ⟨below, hplace, hkeeps⟩ | ⟨seen, rest, rfl, hseen, hkeeps⟩
        · cases below with
          | nil => exact .inr ⟨[s], path, rfl, hplace, hkeeps⟩
          | cons d below =>
              rw [step] at hplace
              split_ifs at hplace with hup
              · -- the step led out of a directory, which was below the place it led to
                cases place with
                | nil => cases hplace
                | cons c place =>
                    obtain rfl : place = d :: below ++ home := hplace
                    refine .inl ⟨c :: d :: below, rfl, ?_⟩
                    rw [hup]
                    exact (keeps_up _ _).2 ⟨by simp, hkeeps⟩
              · obtain ⟨rfl, rfl⟩ := List.cons.inj hplace
                refine .inl ⟨below, rfl, ?_⟩
                rw [keeps_down hup]
                exact hkeeps
        · exact .inr ⟨s :: seen, rest, rfl, hseen, hkeeps⟩
  · rintro (⟨below, rfl, hkeeps⟩ | ⟨seen, rest, rfl, rfl, hkeeps⟩)
    · exact suffix_of_keeps hkeeps
    · rw [walk_append]
      exact @suffix_of_keeps _ [] _ hkeeps

end PathWalk

namespace FinalStateGate

open Py Canonical8D PathWalk

/-! ### The paths of a request -/

/-- The fields that name touched paths. -/
def touchedKeys : List String :=
  ["touched_paths", "modified_paths", "changed_files", "files_changed", "diff_paths", "paths"]

/-- The fields that name allowed paths. -/
def allowedKeys : List String := ["allowed_paths", "scope_paths", "target_paths", "in_scope_paths"]

/-- The paths a request says were touched, before they are cleaned. -/
def touchedPaths (around : Surroundings) (request : PyVal) : List PyStr :=
  sourceTextList around (sourceOf request) touchedKeys

/-- The paths a request says are allowed, before they are cleaned. -/
def allowedPaths (around : Surroundings) (request : PyVal) : List PyStr :=
  sourceTextList around (sourceOf request) allowedKeys

/-- A path leads into one of the allowed ones, from the root of the repository. -/
def InScope (root allowed : List PyStr) (path : PyStr) : Prop :=
  ∃ home ∈ allowed, walk root (segments home) <:+ walk root (segments path)

/-- A path with white space around it, or behind the `./` and `/` in front of it: it is stripped before
the comparison. -/
def Padded (path : PyStr) : Prop := strip path ≠ path ∨ strip (cleanRelPath path) ≠ cleanRelPath path

/-- A path whose text does not tell where it leads: it has a segment `..`, or white space was stripped
from it or from an allowed path. -/
def Doubtful (allowed : List PyStr) (path : PyStr) : Prop :=
  cp ".." ∈ segments path ∨ Padded path ∨ ∃ home ∈ allowed, Padded home

/-- On its way from the root of the repository a path comes to an allowed one and does not climb out of it
again, where the root may lie in the allowed one itself. -/
def Stays (root allowed : List PyStr) (path : PyStr) : Prop :=
  ∃ home ∈ allowed, Settles (walk root (segments home)) root (segments path)

theorem inScope_iff_stays {root allowed : List PyStr} {path : PyStr} :
    InScope root allowed path ↔ Stays root allowed path := by
  simp only [InScope, Stays, suffix_walk_iff]

theorem segments_dropDots (p : PyStr) : segments (dropDots p) = segments p := by
  induction p using dropDots.induct with
  | case1 p ih => rw [dropDots, ih, segments_dot]
  | case2 p hp => rw [dropDots.eq_2 p hp]

/-- Cleaning a path takes the white space around it away, and no segment. -/
theorem segments_cleanRelPath (p : PyStr) : segments (cleanRelPath p) = segments (strip p) := by
  rw [cleanRelPath, segments_dropWhile, segments_dropDots]
  exact segments_slashed (strip p)

/-- The comparison cleans a path that was cleaned before. -/
theorem segments_of_unpadded {p : PyStr} (h : ¬Padded p) :
    segments (cleanRelPath (cleanRelPath p)) = segments p := by
  rw [Padded, not_or, not_not, not_not] at h
  rw [segments_cleanRelPath, h.2, segments_cleanRelPath, h.1]

/-- A path that passes the comparison begins with the segments of the other. -/
theorem segments_of_match {path home : PyStr} (h : pathMatchesPrefix path home = true) :
    ∃ rest, segments (cleanRelPath path) = segments (cleanRelPath home) ++ rest := by
  rw [pathMatchesPrefix, Bool.and_eq_true, Bool.or_eq_true, decide_eq_true_eq, decide_eq_true_eq] at h
  rcases h.2 with heq | hprefix
  · exact ⟨[], by rw [heq, segments_rdropWhile, List.append_nil]⟩
  · obtain ⟨rest, hrest⟩ := List.isPrefixOf_iff_prefix.1 hprefix
    have hslash : cp "/" = [47] := rfl
    rw [List.append_assoc, hslash, List.singleton_append] at hrest
    exact ⟨segments rest, by rw [← hrest, segments_append_slash, segments_rdropWhile]⟩

/-- **The text of a path without `..` and white space tells where it leads.** -/
theorem inScope_of_match {root allowed : List PyStr} {path : PyStr} (h : ¬Doubtful allowed path)
    (hmatch : ∃ home ∈ allowed, pathMatchesPrefix (cleanRelPath path) (cleanRelPath home) = true) :
    InScope root allowed path := by
  rw [Doubtful, not_or, not_or] at h
  obtain ⟨hup, hpath, hallowed⟩ := h
  obtain ⟨home, hhome, hmatch⟩ := hmatch
  obtain ⟨rest, hrest⟩ := segments_of_match hmatch
  rw [segments_of_unpadded hpath, segments_of_unpadded fun hp => hallowed ⟨home, hhome, hp⟩] at hrest
  have hup : cp ".." ∉ rest := fun hin => hup (by rw [hrest]; exact List.mem_append_right _ hin)
  refine inScope_iff_stays.2 ⟨home, hhome, .inr ⟨segments home, rest, hrest, rfl, keeps_of_forall hup 0⟩⟩

/-! ### The check of the touched paths -/

section Check

variable {around : Surroundings} {request : PyVal} {now : ℚ}

/-- A detour check that finds nothing has matched every touched path with an allowed one. -/
theorem match_of_checkDetour {d : DetourContext} {excerpt : PyStr}
    (h : checkDetourAlertHardGate around d excerpt = []) (hallowed : d.allowedPaths ≠ []) :
    ∀ path ∈ d.touchedPaths, ∃ home ∈ d.allowedPaths, pathMatchesPrefix path home = true := by
  intro path hpath
  rw [checkDetourAlertHardGate, List.filter_eq_nil_iff] at h
  have hscope := h "TOUCHED_OUT_OF_SCOPE_PATH" (by decide)
  have htouched : d.touchedPaths ≠ [] := List.ne_nil_of_mem hpath
  simp only [String.reduceEq, if_false, if_true, Bool.or_eq_true, Bool.and_eq_true, decide_eq_true_eq,
    List.any_eq_true, Bool.not_eq_true', List.any_eq_false, not_or, not_and, not_exists] at hscope
  have hsome := hscope.2 ⟨hallowed, htouched⟩ path hpath
  simpa using hsome

/-- A request that passes has texts of touched paths that begin with allowed ones. -/
theorem match_of_admissible (h : Admissible around request now) (hallowed : allowedPaths around request ≠ []) :
    ∀ path ∈ touchedPaths around request, ∃ home ∈ allowedPaths around request,
      pathMatchesPrefix (cleanRelPath path) (cleanRelPath home) = true := by
  obtain ⟨c, hc, hothers⟩ := h
  obtain ⟨hash, -, hc⟩ := bind_eq_ok_iff.1 hc
  obtain rfl := pure_eq_ok_iff.1 hc
  have hcheck := match_of_checkDetour hothers.detour fun hnone => hallowed (List.map_eq_nil_iff.1 hnone)
  intro path hpath
  obtain ⟨home, hhome, hmatch⟩ := hcheck (cleanRelPath path) (List.mem_map_of_mem hpath)
  obtain ⟨raw, hraw, rfl⟩ := List.mem_map.1 hhome
  exact ⟨raw, hraw, hmatch⟩

/-- **When a pass tells where the touched paths lead.**  For a request with allowed paths, a pass of the
gate tells that every touched path leads into an allowed one if and only if another check stops the
request, or every touched path whose text does not tell where it leads comes to an allowed path and does
not climb out of it. -/
theorem scope_resolved_iff (around : Surroundings) (request : PyVal) (now : ℚ) (root : List PyStr)
    (hallowed : allowedPaths around request ≠ []) :
    (∀ report, runTotalFieldGate around request now = .ok report → report.decision = .pass →
      ∀ path ∈ touchedPaths around request, InScope root (allowedPaths around request) path) ↔
    (Admissible around request now → Clean around (extractText (sourceOf request)) →
      Unflagged around request → ∀ path ∈ touchedPaths around request,
        Doubtful (allowedPaths around request) path → Stays root (allowedPaths around request) path) := by
  constructor
  · intro h hadmissible hclean hunflagged path hpath _
    obtain ⟨report, hrun, hpass⟩ := pass_iff.2 ⟨hadmissible, hclean, hunflagged⟩
    exact inScope_iff_stays.1 (h report hrun hpass path hpath)
  · intro h report hrun hpass path hpath
    obtain ⟨hadmissible, hclean, hunflagged⟩ := pass_iff.1 ⟨report, hrun, hpass⟩
    by_cases hdoubt : Doubtful (allowedPaths around request) path
    · exact inScope_iff_stays.2 (h hadmissible hclean hunflagged path hpath hdoubt)
    · exact inScope_of_match hdoubt (match_of_admissible hadmissible hallowed path hpath)

end Check

/-! ### A path that climbs out -/

/-- A request that may touch `a` and touched `a/../b`. -/
def climbingRequest : PyVal := obj [("adi_5d_absolute_index", samplePacket), ("allowed_paths", lit "a"),
  ("text", .str letters), ("touched_paths", lit "a/../b")]

/-- Its context. -/
def climbingContext : DetourContext :=
  { quiet letters with touchedPaths := [cp "a/../b"], allowedPaths := [cp "a"] }

theorem get_climbing {k : String} (hk : k ∉ ["adi_5d_absolute_index", "allowed_paths", "text", "touched_paths"]) :
    (PyVal.dict (sourceOf climbingRequest)).get k = .none := by
  simp only [List.mem_cons, List.not_mem_nil, or_false, not_or] at hk
  change (obj _).get k = _
  simp [Ne.symm hk.1, Ne.symm hk.2.1, Ne.symm hk.2.2.1, Ne.symm hk.2.2.2]

theorem paths_climbing : touchedPaths sampleAround climbingRequest = [cp "a/../b"] ∧
    allowedPaths sampleAround climbingRequest = [cp "a"] := by
  simp only [touchedPaths, allowedPaths, touchedKeys, allowedKeys, climbingRequest, sourceOf, obj, fields, key,
    lit, sourceTextList, PyVal.get, List.map_cons, List.map_nil, cp_eq_codes]
  decide

set_option maxRecDepth 8000 in
theorem whole_climbing : wholeText (sourceOf climbingRequest) = letters := by
  simp only [climbingRequest, obj, fields, key, lit, cp_eq_codes]
  decide

theorem extract_climbing : extractText (sourceOf climbingRequest) = letters := by
  rw [extractText, whole_climbing]
  exact List.take_of_length_le (le_of_eq List.length_replicate)

set_option maxRecDepth 8000 in
theorem context_climbing :
    buildDetourContext sampleAround (sourceOf climbingRequest) letters = climbingContext := by
  simp only [buildDetourContext, climbingRequest, climbingContext, sourceOf, obj, fields, key, lit,
    sourceFirstText, sourceTextList, PyVal.get, List.map_cons, List.map_nil, cp_eq_codes]
  decide

set_option maxRecDepth 8000 in
theorem detour_climbing : checkDetourAlertHardGate sampleAround climbingContext letters = [] := by
  have htext : ∀ c ∈ detourContextText sampleAround climbingContext letters,
      (c = 97 || c = 98 || c = 32 || c = 46 || c = 47) = true := by
    simp only [climbingContext, cp_eq_codes]
    decide
  have hhas : ∀ term : String, ((codes term).any fun c => !(c = 97 || c = 98 || c = 32 || c = 46 || c = 47)) =
      true → occursIn (detourContextText sampleAround climbingContext letters) term = false :=
    fun term => not_occursIn htext
  have hflag : ∀ k, climbingContext.flag k = false := fun _ => rfl
  have hmatch : pathMatchesPrefix (cp "a/../b") (cp "a") = true := by
    simp only [cp_eq_codes]
    decide
  rw [checkDetourAlertHardGate]
  generalize climbingContext.flag = flag at hflag
  generalize occursIn (detourContextText sampleAround climbingContext letters) = has at hhas
  have hlabel : normLabel sampleAround [] = [] := rfl
  have hbackend : occursIn [] "backend" = false := not_occursIn (p := fun _ => false) (by simp) (by decide)
  refine List.filter_eq_nil_iff.2 fun code hcode => ?_
  rw [detourAlertHardGateCodes] at hcode
  simp only [List.mem_cons, List.not_mem_nil, or_false] at hcode
  rcases hcode with rfl | rfl | rfl | rfl | rfl | rfl | rfl | rfl | rfl | rfl | rfl | rfl
  all_goals
    simp (disch := decide) [hhas, hflag, hmatch, climbingContext, quiet, hlabel, hbackend,
      unauthorizedFeatureTerms, pasteBurdenRequestTerms]

theorem plain_climbing : PyJson.Plain Encodable climbingContext.value := by
  have hempty : PyJson.Plain Encodable (.list []) := .list _ (by simp)
  simp [DetourContext.value, climbingContext, quiet, PyJson.plain_obj_iff, PyJson.plain_str_iff,
    PyJson.plain_list_iff, hempty, encodable_letters]

/-- The gate passes the request. -/
theorem passes_climbing : ∃ report,
    runTotalFieldGate sampleAround climbingRequest 0 = .ok report ∧ report.decision = .pass := by
  have hkeys : ∀ k ∈ "channel" :: "functional_state_7d" :: "line_candidate" :: "source_channel" :: hardRiskFlags,
      k ∉ ["adi_5d_absolute_index", "allowed_paths", "text", "touched_paths"] := by decide
  have hcandidate : normalizeCandidateRequest sampleAround climbingRequest = .ok (candidateOf climbingContext) := by
    refine normalize_candidateOf extract_climbing context_climbing ?_ fun k hk => get_climbing (hkeys k hk)
    change getItem (fields _) _ = _
    simp
  refine pass_iff.2 ⟨⟨_, hcandidate, othersPass_sample plain_climbing detour_climbing⟩, ?_, fun k hk => ?_⟩
  · rw [extract_climbing]
    exact clean_letters
  · rw [get_climbing (hkeys k (by simp [hk]))]
    rfl

/-- The condition, for the request. -/
theorem scope_resolved_climbing :
    (∀ report, runTotalFieldGate sampleAround climbingRequest 0 = .ok report → report.decision = .pass →
      ∀ path ∈ touchedPaths sampleAround climbingRequest,
        InScope [] (allowedPaths sampleAround climbingRequest) path) ↔
    (Admissible sampleAround climbingRequest 0 → Clean sampleAround (extractText (sourceOf climbingRequest)) →
      Unflagged sampleAround climbingRequest → ∀ path ∈ touchedPaths sampleAround climbingRequest,
        Doubtful (allowedPaths sampleAround climbingRequest) path →
          Stays [] (allowedPaths sampleAround climbingRequest) path) :=
  scope_resolved_iff sampleAround climbingRequest 0 [] (by rw [paths_climbing.2]; simp)

/-- A path that climbs out of the allowed one passes the gate. -/
theorem climbing_path_passes : ¬∀ (around : Surroundings) (request : PyVal) (now : ℚ) (root : List PyStr),
    allowedPaths around request ≠ [] →
      ∀ report, runTotalFieldGate around request now = .ok report → report.decision = .pass →
        ∀ path ∈ touchedPaths around request, InScope root (allowedPaths around request) path := by
  intro h
  obtain ⟨htouched, hallowed⟩ := paths_climbing
  obtain ⟨report, hrun, hpass⟩ := passes_climbing
  obtain ⟨home, hhome, hin⟩ := h sampleAround climbingRequest 0 [] (by rw [hallowed]; simp) report hrun hpass
    (cp "a/../b") (by rw [htouched]; simp)
  rw [hallowed, List.mem_singleton] at hhome
  subst hhome
  have hnot : ¬walk [] (segments (cp "a")) <:+ walk [] (segments (cp "a/../b")) := by
    simp only [cp_eq_codes]
    decide
  exact hnot hin

end FinalStateGate
