/-
**Optimistic commits to a file.**

Several programs change one file.  Each loads the file, reads it a second time for its hash, computes new
contents, and then, in one step under a lock, replaces the file if the hash of the file is still the one
it took.  What it saves was computed from the *first* reading, what the lock protects is the *second*: a
commit of another program between the two is lost.

The programs, the contents, the hash and the exceptions are arbitrary; the module names nothing of the
code that is verified with it.

Main definitions:

* `OptimisticFile.Program`, `OptimisticFile.Program.effect` — a program, and what it does to a file alone;
* `OptimisticFile.advance` — one step of one of the programs, `OptimisticFile.run` — a schedule;
* `OptimisticFile.Steady` — every second reading shows what the first one has shown;
* `OptimisticFile.NoLostUpdate` — every commit is the effect of one program on the version before it.

Main results:

* `OptimisticFile.noLostUpdate_run` — in a steady schedule no update is lost;
* `OptimisticFile.overwrites` — a program that is not steady overwrites a version it has not read.
-/

import Mathlib.Logic.Function.Basic
import Mathlib.Data.List.Nodup
import Mathlib.Tactic.Common

set_option relaxedAutoImplicit false
set_option autoImplicit false

namespace OptimisticFile

variable {ι Contents Digest Memory Result ε : Type}

/-- A program: how it loads the file, and what it saves and returns.  It may return without saving, and
the new contents may fail to be written. -/
structure Program (Contents Memory Result ε : Type) where
  load : Contents → Except ε Memory
  finish : Memory → Except ε (Option (Except ε Contents) × Result)

/-- What a program does to a file when nobody interferes. -/
def Program.effect (p : Program Contents Memory Result ε) (file : Contents) :
    Except ε (Option Contents × Result) := do
  let m ← p.load file
  let (saving, r) ← p.finish m
  match saving with
  | none => pure (none, r)
  | some written => do
      let contents ← written
      pure (some contents, r)

/-- How far a program has come; it remembers what the first reading has shown. -/
inductive Phase (Contents Digest Memory Result ε : Type) where
  | idle
  | loaded (seen : Contents) (m : Memory)
  | hashed (seen : Contents) (m : Memory) (d : Digest)
  | returned (r : Result)
  | raised (e : ε)

/-- A version of the file that was replaced, with the program that replaced it. -/
structure Commit (ι Contents : Type) where
  writer : ι
  before : Contents
  after : Contents

/-- The file, the programs, and the commits so far, the last one first. -/
structure System (ι Contents Digest Memory Result ε : Type) where
  file : Contents
  phase : ι → Phase Contents Digest Memory Result ε
  commits : List (Commit ι Contents)

/-- Nobody has begun. -/
def System.initial (file : Contents) : System ι Contents Digest Memory Result ε :=
  ⟨file, fun _ => .idle, []⟩

section Steps

variable [DecidableEq ι] [DecidableEq Digest] (programs : ι → Program Contents Memory Result ε)
  (hash : Contents → Digest) (drift : ε)

/-- The phase after the last step of a program, and the new contents if it commits. -/
def settle (file : Contents) (p : Program Contents Memory Result ε) (m : Memory) (d : Digest) :
    Phase Contents Digest Memory Result ε × Option Contents :=
  match p.finish m with
  | .error e => (.raised e, none)
  | .ok (none, r) => (.returned r, none)
  | .ok (some written, r) =>
      if hash file ≠ d then (.raised drift, none)
      else match written with
        | .error e => (.raised e, none)
        | .ok contents => (.returned r, some contents)

/-- The next step of a program. -/
def advance (s : System ι Contents Digest Memory Result ε) (i : ι) :
    System ι Contents Digest Memory Result ε :=
  match s.phase i with
  | .idle =>
      match (programs i).load s.file with
      | .error e => { s with phase := Function.update s.phase i (.raised e) }
      | .ok m => { s with phase := Function.update s.phase i (.loaded s.file m) }
  | .loaded seen m => { s with phase := Function.update s.phase i (.hashed seen m (hash s.file)) }
  | .hashed _ m d =>
      let (phase, committed) := settle hash drift s.file (programs i) m d
      match committed with
      | none => { s with phase := Function.update s.phase i phase }
      | some contents => {
          file := contents
          phase := Function.update s.phase i phase
          commits := ⟨i, s.file, contents⟩ :: s.commits }
  | .returned _ => s
  | .raised _ => s

/-- The system after a schedule. -/
def run (s : System ι Contents Digest Memory Result ε) (schedule : List ι) :
    System ι Contents Digest Memory Result ε :=
  schedule.foldl (advance programs hash drift) s

/-- The second reading of a program shows what its first one has shown. -/
def Rereads (s : System ι Contents Digest Memory Result ε) (i : ι) : Prop :=
  ∀ seen m, s.phase i = .loaded seen m → s.file = seen

/-- Every second reading of a schedule shows what the first one has shown. -/
def Steady (s : System ι Contents Digest Memory Result ε) : List ι → Prop
  | [] => True
  | i :: schedule => Rereads s i ∧ Steady (advance programs hash drift s i) schedule

end Steps

/-! ### Commits -/

/-- The commits lead from the first version to the last one. -/
def Chained (first : Contents) : List (Commit ι Contents) → Contents → Prop
  | [], last => last = first
  | c :: commits, last => c.after = last ∧ Chained first commits c.before

/-- Every version is the effect of one program on the version before it; a program commits once at most,
and only if it returns. -/
structure NoLostUpdate (programs : ι → Program Contents Memory Result ε) (first : Contents)
    (s : System ι Contents Digest Memory Result ε) : Prop where
  chained : Chained first s.commits s.file
  applied : ∀ c ∈ s.commits, ∃ r, (programs c.writer).effect c.before = .ok (some c.after, r) ∧
    s.phase c.writer = .returned r
  once : (s.commits.map Commit.writer).Nodup

/-- What a program remembers is what it has read. -/
def Remembers (programs : ι → Program Contents Memory Result ε) (hash : Contents → Digest)
    (s : System ι Contents Digest Memory Result ε) : Prop :=
  ∀ i, (∀ seen m, s.phase i = .loaded seen m → (programs i).load seen = .ok m) ∧
    ∀ seen m d, s.phase i = .hashed seen m d → (programs i).load seen = .ok m ∧ d = hash seen

section Proofs

variable {programs : ι → Program Contents Memory Result ε} {hash : Contents → Digest} {drift : ε}
  {s : System ι Contents Digest Memory Result ε} {first : Contents} {i : ι}

/-- A program that has not returned has not committed. -/
theorem NoLostUpdate.not_mem (h : NoLostUpdate programs first s)
    (hphase : ∀ r, s.phase i ≠ .returned r) : i ∉ s.commits.map Commit.writer := by
  intro hi
  obtain ⟨c, hc, rfl⟩ := List.mem_map.1 hi
  obtain ⟨r, -, hr⟩ := h.applied c hc
  exact hphase r hr

variable [DecidableEq ι]

/-- A program that moves without committing loses no update. -/
theorem NoLostUpdate.update (h : NoLostUpdate programs first s) (hphase : ∀ r, s.phase i ≠ .returned r)
    (phase : Phase Contents Digest Memory Result ε) :
    NoLostUpdate programs first { s with phase := Function.update s.phase i phase } where
  chained := h.chained
  applied := by
    intro c hc
    obtain ⟨r, heffect, hr⟩ := h.applied c hc
    refine ⟨r, heffect, ?_⟩
    dsimp only
    rw [Function.update_of_ne]
    · exact hr
    · rintro rfl
      exact hphase r hr
  once := h.once

/-- A program that commits its effect loses no update. -/
theorem NoLostUpdate.commit (h : NoLostUpdate programs first s) (hphase : ∀ r, s.phase i ≠ .returned r)
    {contents : Contents} {r : Result}
    (heffect : (programs i).effect s.file = .ok (some contents, r)) :
    NoLostUpdate programs first
      ⟨contents, Function.update s.phase i (.returned r), ⟨i, s.file, contents⟩ :: s.commits⟩ where
  chained := ⟨rfl, h.chained⟩
  applied := by
    intro c hc
    rcases List.mem_cons.1 hc with rfl | hc
    · exact ⟨r, heffect, Function.update_self _ _ _⟩
    · exact (h.update hphase (.returned r)).applied c hc
  once := List.nodup_cons.2 ⟨h.not_mem hphase, h.once⟩

/-- What another program remembers does not change. -/
theorem Remembers.update (h : Remembers programs hash s) {phase : Phase Contents Digest Memory Result ε}
    (hloaded : ∀ seen m, phase = .loaded seen m → (programs i).load seen = .ok m)
    (hhashed : ∀ seen m d, phase = .hashed seen m d → (programs i).load seen = .ok m ∧ d = hash seen)
    (file : Contents) (commits : List (Commit ι Contents)) :
    Remembers programs hash ⟨file, Function.update s.phase i phase, commits⟩ := by
  intro j
  dsimp only
  by_cases hj : j = i
  · subst hj
    rw [Function.update_self]
    exact ⟨hloaded, hhashed⟩
  · rw [Function.update_of_ne hj]
    exact h j

variable [DecidableEq Digest]

/-- A step of one program does not move another one. -/
theorem advance_phase_of_ne {j : ι} (h : j ≠ i) :
    (advance programs hash drift s i).phase j = s.phase j := by
  rw [advance]
  split
  · split
    · exact Function.update_of_ne h _ _
    · exact Function.update_of_ne h _ _
  · exact Function.update_of_ne h _ _
  · dsimp only
    split
    · exact Function.update_of_ne h _ _
    · exact Function.update_of_ne h _ _
  · rfl
  · rfl

/-- A commit is what the program makes of what it loaded, and the file still has the hash it took. -/
theorem of_settle {file contents : Contents} {p : Program Contents Memory Result ε} {m : Memory}
    {d : Digest} {phase : Phase Contents Digest Memory Result ε}
    (h : settle hash drift file p m d = (phase, some contents)) :
    ∃ r, p.finish m = .ok (some (.ok contents), r) ∧ hash file = d ∧ phase = .returned r := by
  rw [settle] at h
  split at h
  · cases h
  · cases h
  · next written r hfinish =>
      by_cases hhash : hash file = d
      · rw [if_neg (not_not.2 hhash)] at h
        cases written with
        | error e => cases h
        | ok c =>
            obtain ⟨rfl, hc⟩ := Prod.mk.inj h
            obtain rfl := Option.some.inj hc
            exact ⟨r, hfinish, hhash, rfl⟩
      · rw [if_pos hhash] at h
        cases h

/-- The last step of a program leaves it neither loaded nor hashed. -/
theorem settle_phase {file : Contents} {p : Program Contents Memory Result ε} {m : Memory} {d : Digest} :
    (∀ seen n, (settle hash drift file p m d).1 ≠ .loaded seen n) ∧
      ∀ seen n e, (settle hash drift file p m d).1 ≠ .hashed seen n e := by
  rw [settle]
  split
  · simp
  · simp
  · next written r hfinish =>
      split_ifs
      · simp
      · cases written with
        | error e => simp
        | ok c => simp

/-- One step of a program whose second reading shows what the first one has shown. -/
theorem advance_keeps (hinjective : Function.Injective hash) (hlost : NoLostUpdate programs first s)
    (hmemory : Remembers programs hash s) (hrereads : Rereads s i) :
    NoLostUpdate programs first (advance programs hash drift s i) ∧
      Remembers programs hash (advance programs hash drift s i) := by
  cases hphase : s.phase i with
  | idle =>
      have hnot : ∀ r, s.phase i ≠ .returned r := by simp [hphase]
      rw [advance, hphase]
      dsimp only
      split
      · exact ⟨hlost.update hnot _, hmemory.update (by simp) (by simp) _ _⟩
      · next m hload =>
          refine ⟨hlost.update hnot _, hmemory.update ?_ (by simp) _ _⟩
          rintro seen n h
          obtain ⟨rfl, rfl⟩ := Phase.loaded.inj h
          exact hload
  | loaded seen m =>
      have hnot : ∀ r, s.phase i ≠ .returned r := by simp [hphase]
      rw [advance, hphase]
      refine ⟨hlost.update hnot _, hmemory.update (by simp) ?_ _ _⟩
      rintro seen' m' d h
      obtain ⟨rfl, rfl, rfl⟩ := Phase.hashed.inj h
      exact ⟨(hmemory i).1 _ _ hphase, by rw [hrereads _ _ hphase]⟩
  | hashed seen m d =>
      have hnot : ∀ r, s.phase i ≠ .returned r := by simp [hphase]
      obtain ⟨hload, rfl⟩ := (hmemory i).2 _ _ _ hphase
      obtain ⟨hnotLoaded, hnotHashed⟩ :=
        @settle_phase _ _ _ _ _ hash drift _ s.file (programs i) m (hash seen)
      rw [advance, hphase]
      dsimp only
      cases hsettle : settle hash drift s.file (programs i) m (hash seen) with
      | mk phase committed =>
          rw [hsettle] at hnotLoaded hnotHashed
          have hphase' := hmemory.update (i := i) (fun seen m h => absurd h (hnotLoaded seen m))
            (fun seen m d h => absurd h (hnotHashed seen m d))
          cases committed with
          | none => exact ⟨hlost.update hnot _, hphase' _ _⟩
          | some contents =>
              obtain ⟨r, hfinish, hhash, rfl⟩ := of_settle hsettle
              refine ⟨hlost.commit hnot ?_, hphase' _ _⟩
              -- the lock protects the version that was loaded
              rw [Program.effect, hinjective hhash, hload]
              dsimp only [Bind.bind, Except.bind]
              rw [hfinish]
              rfl
  | returned r =>
      rw [advance, hphase]
      exact ⟨hlost, hmemory⟩
  | raised e =>
      rw [advance, hphase]
      exact ⟨hlost, hmemory⟩

/-- **No update is lost.**  In a steady schedule every version is the effect of one program on the version
before it. -/
theorem noLostUpdate_run (hinjective : Function.Injective hash) (schedule : List ι)
    (hsteady : Steady programs hash drift (System.initial first) schedule) :
    NoLostUpdate programs first (run programs hash drift (System.initial first) schedule) := by
  have hkeeps : ∀ (schedule : List ι) (s : System ι Contents Digest Memory Result ε),
      NoLostUpdate programs first s → Remembers programs hash s →
      Steady programs hash drift s schedule →
      NoLostUpdate programs first (run programs hash drift s schedule) := by
    intro schedule
    induction schedule with
    | nil => exact fun s hlost _ _ => hlost
    | cons i schedule ih =>
        rintro s hlost hmemory ⟨hrereads, hrest⟩
        have hstep : NoLostUpdate programs first (advance programs hash drift s i) ∧
            Remembers programs hash (advance programs hash drift s i) :=
          advance_keeps hinjective hlost hmemory hrereads
        obtain ⟨hlost', hmemory'⟩ := hstep
        exact ih _ hlost' hmemory' hrest
  refine hkeeps schedule _ ⟨rfl, by simp [System.initial], by simp [System.initial]⟩ ?_ hsteady
  exact fun i => ⟨fun _ _ h => (nomatch h), fun _ _ _ h => (nomatch h)⟩

/-- A program that has loaded another version than it hashes overwrites a version it has not read. -/
theorem overwrites {seen contents : Contents} {m : Memory} {r : Result}
    (hphase : s.phase i = .loaded seen m)
    (hfinish : (programs i).finish m = .ok (some (.ok contents), r)) :
    run programs hash drift s [i, i] =
      ⟨contents, Function.update s.phase i (.returned r), ⟨i, s.file, contents⟩ :: s.commits⟩ := by
  have hfirst : advance programs hash drift s i =
      { s with phase := Function.update s.phase i (.hashed seen m (hash s.file)) } := by
    rw [advance, hphase]
  rw [run, List.foldl_cons, hfirst, List.foldl_cons, List.foldl_nil, advance]
  dsimp only
  rw [Function.update_self]
  dsimp only
  rw [settle, hfinish]
  dsimp only
  rw [if_neg (not_not.2 rfl)]
  dsimp only
  rw [Function.update_idem]

end Proofs

end OptimisticFile
