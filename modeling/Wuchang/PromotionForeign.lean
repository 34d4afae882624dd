/-
**Writers of the pointer that do not take the lock.**

The lock of a promotion keeps the other promotions away, and nobody else.  Here the calls of
`Wuchang/GovernedPromotion.lean` run beside writers that put any content in a pointer at any time.

A call looks at its pointer twice, and it publishes its directory in between.  A second look that fails
ends the call with a hold, and takes away the temporary pointer, but not the directory.  As long as no
foreign write between the two looks gives the pointer another hash, a held promotion leaves nothing
published.

Main definitions:

* `GovernedPromotion.OpenStep` — a step of a call, or a foreign write;
* `GovernedPromotion.Undisturbing` — no pointer gets another hash between the two looks of its call.

Main results:

* `GovernedPromotion.openInv_of_run` — the invariant holds in every run of undisturbing steps;
* `GovernedPromotion.held_leaves_nothing` — a hold leaves nothing published;
* `GovernedPromotion.held_after_foreign_write` — a hold that leaves its directory published.
-/

import Wuchang.PromotionCall

set_option relaxedAutoImplicit false
set_option autoImplicit false

namespace GovernedPromotion

open Py

variable {ι : Type} [DecidableEq ι]

/-! ### Foreign writes -/

/-- The repository with its calls, and the calls that have published their directory. -/
structure OpenState (ι : Type) extends State ι where
  made : ι → Bool

/-- What happens in a step: a call goes on, or somebody writes a file. -/
inductive Event where
  | call
  | foreign (path : Path) (content : Bytes)

/-- A call publishes its directory. -/
def publishes : Phase → Phase → Bool
  | .staged _ _, .published _ => true
  | _, _ => false

/-- The files under a temporary name: nobody else writes them. -/
def Temporary (s : State ι) (path : Path) : Prop :=
  ∃ i, (∃ p, (s.phase i).plan = some p ∧ path = p.tmpPath) ∨
    ∃ p dir x, s.phase i = .staged p dir ∧ path = dir ++ [x]

/-- A step of a call, or a write to the pointer of a call. -/
inductive OpenStep (σ : Setting ι) : OpenState ι → Event → OpenState ι → Prop
  /-- `os.replace` puts no directory in the place of a file. -/
  | call {s : OpenState ι} {t : State ι} (hstep : Step σ s.toState t)
      (hplace : ∀ i p, publishes (s.phase i) (t.phase i) = true → t.phase i = .published p →
        s.files p.outputDir = none) :
      OpenStep σ s .call ⟨t, fun i => s.made i || publishes (s.phase i) (t.phase i)⟩
  | foreign {s : OpenState ι} (i : ι) (path : Path) (content : Bytes) (hpath : PointerPath σ i path)
      (hparent : ∀ q x, path = q ++ [x] → s.dirs q = true) (hfile : s.dirs path = false)
      (hown : ¬Temporary s.toState path) :
      OpenStep σ s (.foreign path content) { s with toState := s.setFile path (some content) }

/-- The plan of a call between its two looks at the pointer. -/
def Phase.between : Phase → Option Plan
  | .cleared p | .staged p _ | .published p | .written p => some p
  | _ => none

/-- A content has the hash a call asks for. -/
def Asked (σ : Setting ι) (i : ι) (content : Bytes) : Prop :=
  pyEq (.str (Sha256.hexdigest content)) ((σ.calls i).request.get "active_pointer_sha256") = true

/-- What is written to the pointer of a call between its two looks has the hash it asks for. -/
def Undisturbing (σ : Setting ι) (s : OpenState ι) (e : Event) : Prop :=
  ∀ path content, e = .foreign path content →
    ∀ i p, (s.phase i).between = some p → p.pointerPath = path → Asked σ i content

/-- A run of the calls with any foreign writes. -/
abbrev OpenRun (σ : Setting ι) : OpenState ι → OpenState ι → Prop :=
  Relation.ReflTransGen fun s t => ∃ e, OpenStep σ s e t

/-- A run in which every step is undisturbing. -/
abbrev QuietRun (σ : Setting ι) : OpenState ι → OpenState ι → Prop :=
  Relation.ReflTransGen fun s t => ∃ e, OpenStep σ s e t ∧ Undisturbing σ s e

/-- A file is in a directory. -/
def Rooted (s : State ι) : Prop := ∀ q x, s.files (q ++ [x]) ≠ none → s.dirs q = true

namespace Rooted

omit [DecidableEq ι]

variable {s : State ι} {path : Path}

theorem create (h : Rooted s) (content : Bytes) (hparent : ∀ q x, path = q ++ [x] → s.dirs q = true) :
    Rooted (s.setFile path (some content)) := by
  intro q x hq
  by_cases heq : q ++ [x] = path
  · exact hparent q x heq.symm
  · rw [State.setFile_of_ne _ _ heq] at hq
    exact h q x hq

theorem remove (h : Rooted s) : Rooted (s.setFile path none) := by
  intro q x hq
  by_cases heq : q ++ [x] = path
  · rw [heq, State.setFile_self] at hq
    exact absurd rfl hq
  · rw [State.setFile_of_ne _ _ heq] at hq
    exact h q x hq

theorem makeDir (h : Rooted s) : Rooted (s.setDir path true) := by
  intro q x hq
  by_cases heq : q = path
  · rw [heq, State.setDir_self]
  · rw [State.setDir_of_ne _ _ heq]
    exact h q x hq

theorem makeDirs (h : Rooted s) : Rooted (s.makeDirs path) := by
  intro q x hq
  exact Bool.or_eq_true_iff.2 (.inl (h q x hq))

theorem removeDir (h : Rooted s) (hempty : ∀ x, s.files (path ++ [x]) = none) :
    Rooted (s.setDir path false) := by
  intro q x hq
  by_cases heq : q = path
  · rw [heq] at hq
    exact absurd (hempty x) hq
  · rw [State.setDir_of_ne _ _ heq]
    exact h q x hq

/-- Nothing is in a directory that is not there. -/
theorem ne_of_missing (h : Rooted s) (hmissing : s.dirs path = false) {q : Path} (hq : s.files q ≠ none)
    (x : PyStr) : q ≠ path ++ [x] := by
  rintro rfl
  rw [h path x hq] at hmissing
  cases hmissing

end Rooted

/-- Before any call has begun. -/
structure OpenInitial (s : OpenState ι) : Prop where
  phase : ∀ i, s.phase i = .start
  lock : s.lock = none
  plans : ∀ i, s.plans i = none
  switches : s.switches = []
  made : ∀ i, s.made i = false
  rooted : Rooted s.toState

/-! ### The invariant -/

section Invariant

/-- The pointer of a call has the hash it asks for. -/
def Matches (σ : Setting ι) (s : State ι) (i : ι) (p : Plan) : Prop :=
  ∃ content, s.files p.pointerPath = some content ∧ Asked σ i content

/-- What a call has read. -/
structure OpenRead (σ : Setting ι) (s : State ι) (i : ι) (b : Bound) : Prop where
  path : PointerPath σ i b.pointerPath
  loaded : PyJson.Loaded b.pointer
  isDict : b.pointer.isDict = true
  plans : s.plans i = none

/-- What holds for a call where it is. -/
def OpenLocal (σ : Setting ι) (s : State ι) (i : ι) : Phase → Prop
  | .start => s.plans i = none
  | .bound b => OpenRead σ s i b
  | .consumed b a => OpenRead σ s i b ∧ NonceLedger.isNonceRef a.nonce = true ∧ IsText a.payloadSha
  | .prepared p | .locked p | .rechecked p => s.plans i = some p
  | .cleared p => s.plans i = some p ∧ Matches σ s i p ∧ s.dirs p.outputDir = false
  | .staged p dir => s.plans i = some p ∧ Matches σ s i p ∧ s.dirs p.outputDir = false ∧ dir ≠ p.outputDir ∧
      (∀ x, p.pointerPath ≠ dir ++ [x]) ∧
      ∀ x, s.files (dir ++ [x]) ≠ none → dir ++ [x] = receiptPath dir ∨ dir ++ [x] = transitionPath dir
  | .published p | .written p => s.plans i = some p ∧ Matches σ s i p
  | .switched p => s.plans i = some p ∧ Switched s i
  | .returned (.pass _ _) => Switched s i
  | .returned _ | .raised => True

/-- A call that may have published its directory. -/
def Phase.shown : Phase → Bool
  | .published _ | .written _ | .rechecked _ | .switched _ | .returned (.pass _ _) | .raised => true
  | _ => false

/-- A call that may have switched its pointer, but for calls that hold. -/
def Phase.done : Phase → Bool
  | .switched _ | .returned (.pass _ _) | .raised => true
  | _ => false

theorem Phase.shown_of_done {phase : Phase} (h : phase.done = true) : phase.shown = true := by
  unfold Phase.done at h
  split at h
  · rfl
  · rfl
  · rfl
  · cases h

/-- A plan was made from what its call has read. -/
def PlanMade (σ : Setting ι) (i : ι) (p : Plan) : Prop :=
  ∃ b a, Makes σ.lib (σ.calls i) b a p ∧ PointerPath σ i p.pointerPath

/-- What every state satisfies that undisturbing steps reach. -/
structure OpenInv (σ : Setting ι) (s : OpenState ι) : Prop where
  rooted : Rooted s.toState
  locked : ∀ i, (s.phase i).holds = true → s.lock = some i
  here : ∀ i, OpenLocal σ s.toState i (s.phase i)
  planned : ∀ i p, s.plans i = some p → PlanMade σ i p
  shown : ∀ i, s.made i = true → (s.phase i).shown = true
  done : ∀ i, Switched s.toState i → (s.phase i).done = true
  switches : ∀ sw ∈ s.switches, ∃ p, s.plans sw.call = some p ∧ sw.path = p.pointerPath ∧
    sw.after = p.pointerFile

variable {σ : Setting ι} {s : OpenState ι} {t : State ι} {i : ι}

omit [DecidableEq ι] in
/-- What a call has of its own stays, and what it shares stays while it holds the lock. -/
theorem OpenLocal.frame {s t : State ι} {phase : Phase} (hplans : t.plans i = s.plans i)
    (hswitched : Switched s i → Switched t i)
    (hshared : phase.holds = true → t.files = s.files ∧ t.dirs = s.dirs) (h : OpenLocal σ s i phase) :
    OpenLocal σ t i phase := by
  have hread : ∀ {b}, OpenRead σ s i b → OpenRead σ t i b := fun hb =>
    ⟨hb.path, hb.loaded, hb.isDict, hplans ▸ hb.plans⟩
  cases phase with
  | start => exact hplans.trans h
  | bound b => exact hread h
  | consumed b a => exact ⟨hread h.1, h.2⟩
  | prepared p | locked p | rechecked p => exact hplans.trans h
  | cleared p | staged p dir | published p | written p =>
      obtain ⟨hfiles, hdirs⟩ := hshared rfl
      simpa only [OpenLocal, Matches, hplans, hfiles, hdirs] using h
  | switched p => exact ⟨hplans.trans h.1, hswitched h.2⟩
  | returned o =>
      cases o with
      | pass preview out => exact hswitched h
      | hold reason => trivial
      | dryRun preview => trivial
  | raised => trivial

omit [DecidableEq ι] in
/-- The invariant after a step of a call. -/
theorem OpenInv.of_step (h : OpenInv σ s) (hphase : ∀ j, j ≠ i → t.phase j = s.phase j)
    (hplans : ∀ j, j ≠ i → t.plans j = s.plans j) (hkept : ∀ p, s.plans i = some p → t.plans i = some p)
    (hshared : ∀ j, j ≠ i → (s.phase j).holds = true →
      t.files = s.files ∧ t.dirs = s.dirs ∧ t.lock = some j)
    (hold : s.switches ⊆ t.switches) (hnew : ∀ sw ∈ t.switches, sw ∈ s.switches ∨ sw.call = i ∧
      ∃ p, t.plans i = some p ∧ sw.path = p.pointerPath ∧ sw.after = p.pointerFile)
    (hrooted : Rooted t)
    (hlocked : (t.phase i).holds = true → t.lock = some i) (hhere : OpenLocal σ t i (t.phase i))
    (hplanned : ∀ p, t.plans i = some p → PlanMade σ i p)
    (hshown : (t.phase i).shown = true ∨ s.made i = false ∧ publishes (s.phase i) (t.phase i) = false)
    (hdone : (t.phase i).done = true ∨ ¬Switched t i) :
    OpenInv σ ⟨t, fun j => s.made j || publishes (s.phase j) (t.phase j)⟩ := by
  have hgrown : ∀ j, Switched s.toState j → Switched t j := by
    rintro j ⟨sw, hsw, hcall⟩
    exact ⟨sw, hold hsw, hcall⟩
  refine ⟨hrooted, fun j hj => ?_, fun j => ?_, fun j p hp => ?_, fun j hj => ?_, fun j hj => ?_,
    fun sw hsw => ?_⟩
  · by_cases hji : j = i
    · subst hji
      exact hlocked hj
    · rw [show t.phase j = s.phase j from hphase j hji] at hj
      exact (hshared j hji hj).2.2
  · by_cases hji : j = i
    · subst hji
      exact hhere
    · rw [show t.phase j = s.phase j from hphase j hji]
      refine (h.here j).frame (hplans j hji) (hgrown j) fun hj => ?_
      exact ⟨(hshared j hji hj).1, (hshared j hji hj).2.1⟩
  · by_cases hji : j = i
    · subst hji
      exact hplanned p hp
    · exact h.planned j p ((hplans j hji).symm.trans hp)
  · dsimp only at hj
    by_cases hji : j = i
    · subst hji
      rcases hshown with hshown | ⟨hmade, hpublishes⟩
      · exact hshown
      · rw [hmade, hpublishes] at hj
        cases hj
    · rw [hphase j hji] at hj ⊢
      rcases Bool.or_eq_true_iff.1 hj with hj | hj
      · exact h.shown j hj
      · cases hsame : s.phase j <;> rw [hsame] at hj <;> cases hj
  · by_cases hji : j = i
    · subst hji
      exact hdone.resolve_right (not_not.2 hj)
    · obtain ⟨sw, hsw, hcall⟩ := hj
      rw [show t.phase j = s.phase j from hphase j hji]
      rcases hnew sw hsw with hsw | ⟨hi, -⟩
      · exact h.done j ⟨sw, hsw, hcall⟩
      · exact absurd (hcall.symm.trans hi) hji
  · rcases hnew sw hsw with hsw | ⟨hcall, hplan⟩
    · obtain ⟨p, hp, hrest⟩ := h.switches sw hsw
      refine ⟨p, ?_, hrest⟩
      by_cases hcall : sw.call = i
      · rw [hcall] at hp ⊢
        exact hkept p hp
      · exact (hplans _ hcall).trans hp
    · rw [hcall]
      exact hplan

omit [DecidableEq ι] in
/-- A call that has not published its directory, and has not switched. -/
theorem OpenInv.early (h : OpenInv σ s) {phase : Phase} (hphase : s.phase i = phase)
    (hearly : phase.shown = false) : s.made i = false ∧ ¬Switched s.toState i := by
  refine ⟨Bool.eq_false_iff.2 fun hmade => ?_, fun hswitched => ?_⟩
  · have hshown := h.shown i hmade
    rw [hphase, hearly] at hshown
    cases hshown
  · have hshown := Phase.shown_of_done (h.done i hswitched)
    rw [hphase, hearly] at hshown
    cases hshown

omit [DecidableEq ι] in
/-- A call that has the lock is the only one that holds it. -/
theorem OpenInv.alone (h : OpenInv σ s) (hi : (s.phase i).holds = true) (j : ι) (hj : j ≠ i) :
    (s.phase j).holds = false := by
  by_contra hheld
  rw [Bool.not_eq_false] at hheld
  have hlock := h.locked i hi
  rw [h.locked j hheld, Option.some.injEq] at hlock
  exact hj hlock

/-- The invariant after a step that changes no file. -/
theorem OpenInv.quiet (h : OpenInv σ s) (phase : Phase) (hphase : t.phase = Function.update s.phase i phase)
    (hplans : ∀ j, j ≠ i → t.plans j = s.plans j) (hkept : ∀ p, s.plans i = some p → t.plans i = some p)
    (hfiles : t.files = s.files) (hdirs : t.dirs = s.dirs) (hswitches : t.switches = s.switches)
    (hlock : ∀ j, j ≠ i → (s.phase j).holds = true → t.lock = some j)
    (hlocked : phase.holds = true → t.lock = some i) (hhere : OpenLocal σ t i phase)
    (hplanned : ∀ p, t.plans i = some p → PlanMade σ i p)
    (hshown : phase.shown = true ∨ s.made i = false ∧ publishes (s.phase i) phase = false)
    (hdone : phase.done = true ∨ ¬Switched s.toState i) :
    OpenInv σ ⟨t, fun j => s.made j || publishes (s.phase j) (t.phase j)⟩ := by
  have hself : t.phase i = phase := by rw [hphase, Function.update_self]
  refine h.of_step (i := i) (fun j hj => by rw [hphase, Function.update_of_ne hj]) hplans hkept
    (fun j hj hheld => ⟨hfiles, hdirs, hlock j hj hheld⟩) (by rw [hswitches]; exact List.Subset.refl _)
    (fun sw hsw => .inl (hswitches ▸ hsw)) (fun q x hq => ?_) (hself.symm ▸ hlocked) (hself.symm ▸ hhere)
    hplanned (hself.symm ▸ hshown) (hdone.imp (hself.symm ▸ id) ?_)
  · rw [hdirs]
    rw [hfiles] at hq
    exact h.rooted q x hq
  · rintro hnot ⟨sw, hsw, hcall⟩
    exact hnot ⟨sw, hswitches ▸ hsw, hcall⟩

/-- The invariant when a call ends. -/
theorem OpenInv.ended (h : OpenInv σ s) {phase : Phase} (hphase : t.phase = Function.update s.phase i phase)
    (hrest : t.plans = s.plans ∧ t.files = s.files ∧ t.dirs = s.dirs ∧ t.switches = s.switches)
    (hlock : t.lock = if s.lock = some i then none else s.lock)
    (hends : phase = .raised ∨ ∃ o, phase = .returned o) (hhere : OpenLocal σ t i phase)
    (hshown : phase.shown = true ∨ s.made i = false) (hdone : phase.done = true ∨ ¬Switched s.toState i) :
    OpenInv σ ⟨t, fun j => s.made j || publishes (s.phase j) (t.phase j)⟩ := by
  obtain ⟨hplans, hfiles, hdirs, hswitches⟩ := hrest
  refine h.quiet phase hphase (fun j _ => by rw [hplans]) (fun p hp => hplans ▸ hp) hfiles hdirs hswitches
    (fun j hj hheld => ?_) (fun hheld => ?_) hhere (fun p hp => h.planned i p (hplans ▸ hp))
    (hshown.imp_right fun hmade => ⟨hmade, ?_⟩) hdone
  · have hother := h.locked j hheld
    rw [hlock, if_neg, hother]
    rw [hother, Option.some.injEq]
    exact hj
  · rcases hends with rfl | ⟨o, rfl⟩
    · cases hheld
    · cases hheld
  · rcases hends with rfl | ⟨o, rfl⟩
    · cases s.phase i <;> rfl
    · cases s.phase i <;> rfl

/-- The invariant when an exception ends a call early. -/
theorem OpenInv.finish (h : OpenInv σ s) {phase : Phase} (hphase : s.phase i = phase)
    (hearly : phase.shown = false) (e : Fault) (hfinish : s.toState.finish i e = t) :
    OpenInv σ ⟨t, fun j => s.made j || publishes (s.phase j) (t.phase j)⟩ := by
  obtain ⟨hmade, hswitched⟩ := h.early hphase hearly
  subst hfinish
  cases e with
  | own reason =>
      exact h.ended rfl ⟨rfl, rfl, rfl, rfl⟩ rfl (.inr ⟨_, rfl⟩) trivial (.inr hmade) (.inr hswitched)
  | builtin b => exact h.ended rfl ⟨rfl, rfl, rfl, rfl⟩ rfl (.inl rfl) trivial (.inl rfl) (.inl rfl)

/-- A call writes its receipt and its transition in a fresh directory. -/
theorem OpenInv.stage (h : OpenInv σ s) {p : Plan} {random : PyStr} (hphase : s.phase i = .cleared p)
    (hfresh : s.pathExists (stagingDir p.outputDir random) = false)
    (ht : (((s.setDir (stagingDir p.outputDir random) true).setFile
      (receiptPath (stagingDir p.outputDir random)) (some p.receiptFile)).setFile
        (transitionPath (stagingDir p.outputDir random)) (some p.transitionFile)).go i
          (.staged p (stagingDir p.outputDir random)) = t) :
    OpenInv σ ⟨t, fun j => s.made j || publishes (s.phase j) (t.phase j)⟩ := by
  have hcleared := h.here i
  rw [hphase] at hcleared
  obtain ⟨hplan, ⟨content, hfile, hasked⟩, hout⟩ := hcleared
  obtain ⟨hmade, hswitched⟩ := h.early hphase rfl
  have hholds : (s.phase i).holds = true := by rw [hphase]; rfl
  have hne := stagingDir_ne p.outputDir random
  generalize stagingDir p.outputDir random = dir at *
  rw [State.pathExists_eq_false] at hfresh
  -- the pointer is not in the fresh directory
  have hpointer : ∀ x, p.pointerPath ≠ dir ++ [x] := h.rooted.ne_of_missing hfresh.1 (by rw [hfile]; simp)
  have hparent : ∀ x q y, dir ++ [x] = q ++ [y] → (s.setDir dir true).dirs q = true := by
    intro x q y heq
    rw [← (List.append_inj' heq rfl).1, State.setDir_self]
  have hrooted : Rooted (((s.setDir dir true).setFile (receiptPath dir) (some p.receiptFile)).setFile
      (transitionPath dir) (some p.transitionFile)) :=
    (h.rooted.makeDir.create p.receiptFile (hparent _)).create p.transitionFile (hparent _)
  have hself : t.phase i = .staged p dir := by rw [← ht, State.go_self]
  subst ht
  refine h.of_step (i := i) (fun j hj => State.go_of_ne _ hj _) (fun _ _ => rfl) (fun _ hp => hp)
    (fun j hj hheld => ?_) (List.Subset.refl _) (fun sw hsw => .inl hsw) hrooted
    (fun _ => h.locked i hholds) ?_ (h.planned i) (.inr ⟨hmade, ?_⟩) (.inr hswitched)
  · rw [h.alone hholds j hj] at hheld
    cases hheld
  · rw [hself]
    refine ⟨hplan, ⟨content, ?_, hasked⟩, (State.setDir_of_ne _ _ hne.symm _).trans hout, hne, hpointer,
      fun x hx => ?_⟩
    · rw [← hfile]
      exact (State.setFile_of_ne _ _ (hpointer _) _).trans (State.setFile_of_ne _ _ (hpointer _) _)
    · by_contra hboth
      rw [not_or] at hboth
      refine hx (((State.setFile_of_ne _ _ hboth.2 _).trans (State.setFile_of_ne _ _ hboth.1 _)).trans ?_)
      by_contra hthere
      exact h.rooted.ne_of_missing hfresh.1 hthere x rfl
  · rw [hself, hphase]
    rfl

/-- A call gives the fresh directory its name. -/
theorem OpenInv.publish (h : OpenInv σ s) {p : Plan} {dir : Path} (hphase : s.phase i = .staged p dir)
    (ht : ((((((s.setDir p.outputDir true).setFile (receiptPath dir) none).setFile
      (transitionPath dir) none).setDir dir false).setFile (receiptPath p.outputDir)
        (some p.receiptFile)).setFile (transitionPath p.outputDir) (some p.transitionFile)).go i
          (.published p) = t) :
    OpenInv σ ⟨t, fun j => s.made j || publishes (s.phase j) (t.phase j)⟩ := by
  have hstaged := h.here i
  rw [hphase] at hstaged
  obtain ⟨hplan, ⟨content, hfile, hasked⟩, hout, hne, hpointer, honly⟩ := hstaged
  have hswitched := (h.early hphase rfl).2
  have hholds : (s.phase i).holds = true := by rw [hphase]; rfl
  -- the pointer is not in the directory that is published
  have hother : ∀ x, p.pointerPath ≠ p.outputDir ++ [x] := h.rooted.ne_of_missing hout (by rw [hfile]; simp)
  generalize ht₁ : ((s.setDir p.outputDir true).setFile (receiptPath dir) none).setFile
    (transitionPath dir) none = t₁ at ht
  have hrooted₁ : Rooted t₁ := ht₁ ▸ h.rooted.makeDir.remove.remove
  have hempty : ∀ x, t₁.files (dir ++ [x]) = none := by
    intro x
    rw [← ht₁]
    by_cases hT : dir ++ [x] = transitionPath dir
    · rw [hT, State.setFile_self]
    · rw [State.setFile_of_ne _ _ hT]
      by_cases hR : dir ++ [x] = receiptPath dir
      · rw [hR, State.setFile_self]
      · rw [State.setFile_of_ne _ _ hR]
        by_contra hthere
        exact not_or.2 ⟨hR, hT⟩ (honly x hthere)
  have hparent : ∀ x q y, p.outputDir ++ [x] = q ++ [y] → (t₁.setDir dir false).dirs q = true := by
    intro x q y heq
    rw [← (List.append_inj' heq rfl).1, State.setDir_of_ne _ _ hne.symm, ← ht₁]
    exact State.setDir_self _ _ _
  have hrooted : Rooted (((t₁.setDir dir false).setFile (receiptPath p.outputDir)
      (some p.receiptFile)).setFile (transitionPath p.outputDir) (some p.transitionFile)) :=
    ((hrooted₁.removeDir hempty).create p.receiptFile (hparent _)).create p.transitionFile (hparent _)
  have hkeep : t₁.files p.pointerPath = s.files p.pointerPath := by
    rw [← ht₁]
    exact (State.setFile_of_ne _ _ (hpointer _) _).trans (State.setFile_of_ne _ _ (hpointer _) _)
  have hrest : t₁.lock = s.lock ∧ t₁.plans = s.plans ∧ t₁.switches = s.switches ∧ t₁.phase = s.phase := by
    rw [← ht₁]
    exact ⟨rfl, rfl, rfl, rfl⟩
  obtain ⟨hlock, hplans, hswitches, hphases⟩ := hrest
  have hself : t.phase i = .published p := by rw [← ht, State.go_self]
  subst ht
  refine h.of_step (i := i) (fun j hj => ?_) (fun _ _ => by rw [← hplans]; rfl)
    (fun q hq => by rw [← hplans] at hq; exact hq) (fun j hj hheld => ?_)
    (by rw [← hswitches]; exact List.Subset.refl _) (fun sw hsw => .inl (hswitches ▸ hsw)) hrooted
    (fun _ => hlock.trans (h.locked i hholds)) ?_
    (fun q hq => h.planned i q (by rw [← hplans]; exact hq)) (.inl ?_) (.inr ?_)
  · rw [← hphases]
    exact State.go_of_ne _ hj _
  · rw [h.alone hholds j hj] at hheld
    cases hheld
  · rw [hself]
    refine ⟨(congrFun hplans i).trans hplan, content, ?_, hasked⟩
    rw [← hfile, ← hkeep]
    exact (State.setFile_of_ne _ _ (hother _) _).trans (State.setFile_of_ne _ _ (hother _) _)
  · rw [hself]
    rfl
  · rintro ⟨sw, hsw, hcall⟩
    exact hswitched ⟨sw, hswitches ▸ hsw, hcall⟩

/-- A call takes the lock. -/
theorem OpenInv.acquire (h : OpenInv σ s) {p : Plan} (hphase : s.phase i = .prepared p) (hlock : s.lock = none)
    (ht : { ((s.makeDirs promotions).setFile lockPath (some ((s.files lockPath).getD []))).go i
      (.locked p) with lock := some i } = t) :
    OpenInv σ ⟨t, fun j => s.made j || publishes (s.phase j) (t.phase j)⟩ := by
  have hplan := h.here i
  rw [hphase] at hplan
  obtain ⟨hmade, hswitched⟩ := h.early hphase rfl
  have hself : t.phase i = .locked p := by
    rw [← ht]
    exact State.go_self _ i _
  have hrooted : Rooted ((s.makeDirs promotions).setFile lockPath (some ((s.files lockPath).getD []))) := by
    refine h.rooted.makeDirs.create _ fun q x heq => ?_
    rw [← (List.append_inj' heq rfl).1]
    exact Bool.or_eq_true_iff.2 (.inr (by decide))
  subst ht
  refine h.of_step (i := i) (fun j hj => State.go_of_ne _ hj _) (fun _ _ => rfl) (fun _ hp => hp)
    (fun j hj hheld => ?_) (List.Subset.refl _) (fun sw hsw => .inl hsw) hrooted (fun _ => rfl) ?_
    (h.planned i) (.inr ⟨hmade, ?_⟩) (.inr hswitched)
  · rw [h.locked j hheld] at hlock
    cases hlock
  · rw [hself]
    exact hplan
  · rw [hself, hphase]
    rfl

/-- A call writes the next pointer in a fresh file. -/
theorem OpenInv.write (h : OpenInv σ s) {p : Plan} (hphase : s.phase i = .published p)
    (hfresh : s.pathExists p.tmpPath = false)
    (ht : ((s.makeDirs p.tmpPath.dropLast).setFile p.tmpPath (some p.pointerFile)).go i (.written p) = t) :
    OpenInv σ ⟨t, fun j => s.made j || publishes (s.phase j) (t.phase j)⟩ := by
  have hpublished := h.here i
  rw [hphase] at hpublished
  obtain ⟨hplan, content, hfile, hasked⟩ := hpublished
  rw [State.pathExists_eq_false] at hfresh
  have hholds : (s.phase i).holds = true := by rw [hphase]; rfl
  have hne : p.pointerPath ≠ p.tmpPath := by
    intro heq
    rw [← heq, hfile] at hfresh
    cases hfresh.2
  have hrooted : Rooted ((s.makeDirs p.tmpPath.dropLast).setFile p.tmpPath (some p.pointerFile)) := by
    refine h.rooted.makeDirs.create _ fun q x heq => Bool.or_eq_true_iff.2 (.inr ?_)
    rw [heq, List.dropLast_concat]
    exact List.isPrefixOf_iff_prefix.2 List.prefix_rfl
  have hself : t.phase i = .written p := by rw [← ht, State.go_self]
  subst ht
  refine h.of_step (i := i) (fun j hj => State.go_of_ne _ hj _) (fun _ _ => rfl) (fun _ hp => hp)
    (fun j hj hheld => ?_) (List.Subset.refl _) (fun sw hsw => .inl hsw) hrooted
    (fun _ => h.locked i hholds) ?_ (h.planned i) (.inl ?_) (.inr fun hswitched => ?_)
  · rw [h.alone hholds j hj] at hheld
    cases hheld
  · rw [hself]
    exact ⟨hplan, content, (State.setFile_of_ne _ _ hne _).trans hfile, hasked⟩
  · rw [hself]
    rfl
  · have hdone := h.done i hswitched
    rw [hphase] at hdone
    cases hdone

/-- A call switches its pointer. -/
theorem OpenInv.switch (h : OpenInv σ s) {p : Plan} {content : Bytes} (hphase : s.phase i = .rechecked p)
    (hfile : s.files p.pointerPath = some content)
    (ht : { ((s.setFile p.tmpPath none).setFile p.pointerPath (some p.pointerFile)).go i (.switched p) with
      switches := ⟨i, p.pointerPath, content, p.pointerFile⟩ :: s.switches } = t) :
    OpenInv σ ⟨t, fun j => s.made j || publishes (s.phase j) (t.phase j)⟩ := by
  have hplan := h.here i
  rw [hphase] at hplan
  have hholds : (s.phase i).holds = true := by rw [hphase]; rfl
  have hrooted : Rooted ((s.setFile p.tmpPath none).setFile p.pointerPath (some p.pointerFile)) :=
    h.rooted.remove.create _ fun q x heq => h.rooted q x (by rw [← heq, hfile]; simp)
  have hself : t.phase i = .switched p := by
    rw [← ht]
    exact State.go_self _ i _
  subst ht
  refine h.of_step (i := i) (fun j hj => State.go_of_ne _ hj _) (fun _ _ => rfl) (fun _ hp => hp)
    (fun j hj hheld => ?_) (List.subset_cons_self _ _) (fun sw hsw => ?_) hrooted
    (fun _ => h.locked i hholds) ?_ (h.planned i) (.inl ?_) (.inl ?_)
  · rw [h.alone hholds j hj] at hheld
    cases hheld
  · rcases List.mem_cons.1 hsw with rfl | hsw
    · exact .inr ⟨rfl, p, hplan, rfl, rfl⟩
    · exact .inl hsw
  · rw [hself]
    exact ⟨hplan, _, List.mem_cons_self, rfl⟩
  · rw [hself]
    rfl
  · rw [hself]
    rfl

/-- A call makes its plan. -/
theorem OpenInv.prepare (h : OpenInv σ s) {b : Bound} {a : Authorization} {out : Path} {p : Plan}
    (hphase : s.phase i = .consumed b a)
    (hprepare : prepare σ.lib (σ.calls i).pid (σ.calls i).request b a out = .ok p)
    (ht : { s.go i (if (σ.calls i).dryRun then .returned (.dryRun p.preview) else .prepared p) with
      plans := Function.update s.plans i (some p)
      receiptsHashed := p.receiptBytes :: s.receiptsHashed } = t) :
    OpenInv σ ⟨t, fun j => s.made j || publishes (s.phase j) (t.phase j)⟩ := by
  have hconsumed := h.here i
  rw [hphase] at hconsumed
  obtain ⟨hread, href, htext⟩ := hconsumed
  obtain ⟨hmade, hswitched⟩ := h.early hphase rfl
  have hmakes : Makes σ.lib (σ.calls i) b a p := ⟨href, htext, hread.loaded, hread.isDict, out, hprepare⟩
  obtain ⟨-, -, -, -, -, -, -, -, -, -, -, -, -, -, -, hpath, -⟩ := hmakes.spec
  have hplan : t.plans i = some p := by
    rw [← ht]
    exact Function.update_self _ _ _
  generalize hnext : (if (σ.calls i).dryRun then Phase.returned (.dryRun p.preview) else .prepared p) = next
    at ht
  have hcases : next = .returned (.dryRun p.preview) ∨ next = .prepared p := by
    rw [← hnext]
    split_ifs
    · exact .inl rfl
    · exact .inr rfl
  refine h.quiet (i := i) next (by rw [← ht]; rfl) (fun j hj => ?_) (fun q hq => ?_)
    (by rw [← ht]; rfl) (by rw [← ht]; rfl) (by rw [← ht]; rfl) (fun j _ hheld => ?_) (fun hheld => ?_) ?_
    (fun q hq => ?_) (.inr ⟨hmade, ?_⟩) (.inr hswitched)
  · rw [← ht]
    exact Function.update_of_ne hj _ _
  · rw [hread.plans] at hq
    cases hq
  · rw [← ht]
    exact h.locked j hheld
  · rcases hcases with rfl | rfl
    · cases hheld
    · cases hheld
  · rcases hcases with rfl | rfl
    · trivial
    · exact hplan
  · rw [hplan] at hq
    cases hq
    exact ⟨b, a, hmakes, hpath ▸ hread.path⟩
  · rw [hphase]
    rcases hcases with rfl | rfl
    · rfl
    · rfl

/-- The invariant after a step of a call. -/
theorem OpenInv.call (h : OpenInv σ s) (hstep : Step σ s.toState t) :
    OpenInv σ ⟨t, fun j => s.made j || publishes (s.phase j) (t.phase j)⟩ := by
  cases hstep with
  | bind i seen b hphase hbind =>
      obtain ⟨hsafe, -, -, hloads, hisDict⟩ := of_bind hbind
      have hstart := h.here i
      rw [hphase] at hstart
      obtain ⟨hmade, hswitched⟩ := h.early hphase rfl
      exact h.quiet (i := i) (.bound b) rfl (fun _ _ => rfl) (fun _ hp => hp) rfl rfl rfl
        (fun j _ hheld => h.locked j hheld) (fun hheld => nomatch hheld)
        ⟨hsafe, PyJson.loaded_loadsBytes hloads, hisDict, hstart⟩ (h.planned i)
        (.inr ⟨hmade, by rw [hphase]; rfl⟩) (.inr hswitched)
  | bindFails i _ e hphase => exact h.finish hphase rfl e rfl
  | authorizeFails i _ _ e hphase => exact h.finish hphase rfl e rfl
  | consume i b input a fails hphase hauthorize hmark =>
      obtain ⟨-, href, htext⟩ := nonce_of_authorize hauthorize
      have hbound := h.here i
      rw [hphase] at hbound
      obtain ⟨hmade, hswitched⟩ := h.early hphase rfl
      exact h.quiet (i := i) (.consumed b a) rfl (fun _ _ => rfl) (fun _ hp => hp) rfl rfl rfl
        (fun j _ hheld => h.locked j hheld) (fun hheld => nomatch hheld)
        ⟨⟨hbound.path, hbound.loaded, hbound.isDict, hbound.plans⟩, href, htext⟩ (h.planned i)
        (.inr ⟨hmade, by rw [hphase]; rfl⟩) (.inr hswitched)
  | replay i b input a fails hphase => exact h.finish hphase rfl _ rfl
  | outputFails i b a e hphase => exact h.finish hphase rfl e rfl
  | collision i b a out hphase => exact h.finish hphase rfl _ rfl
  | prepareFails i b a out e hphase => exact h.finish hphase rfl e rfl
  | prepare i b a out p hphase _ _ hprepare => exact h.prepare hphase hprepare rfl
  | acquire i p hphase hlock => exact h.acquire hphase hlock rfl
  | clear i p content hphase hexists hfile hhash =>
      have hplan := h.here i
      rw [hphase] at hplan
      obtain ⟨hmade, hswitched⟩ := h.early hphase rfl
      exact h.quiet (i := i) (.cleared p) rfl (fun _ _ => rfl) (fun _ hp => hp) rfl rfl rfl
        (fun j _ hheld => h.locked j hheld) (fun _ => h.locked i (by rw [hphase]; rfl))
        ⟨hplan, ⟨content, hfile, hhash⟩, ((State.pathExists_eq_false _ _).1 hexists).1⟩ (h.planned i)
        (.inr ⟨hmade, by rw [hphase]; rfl⟩) (.inr hswitched)
  | clearFails i p hphase => exact h.finish hphase rfl _ rfl
  | stage i p random hphase hfresh => exact h.stage hphase hfresh rfl
  | publish i p dir hphase => exact h.publish hphase rfl
  | write i p hphase hfresh => exact h.write hphase hfresh rfl
  | recheck i p content hphase hfile hhash =>
      have hwritten := h.here i
      rw [hphase] at hwritten
      have hswitched : ¬Switched s.toState i := by
        intro hswitched
        have hdone := h.done i hswitched
        rw [hphase] at hdone
        cases hdone
      exact h.quiet (i := i) (.rechecked p) rfl (fun _ _ => rfl) (fun _ hp => hp) rfl rfl rfl
        (fun j _ hheld => h.locked j hheld) (fun _ => h.locked i (by rw [hphase]; rfl)) hwritten.1
        (h.planned i) (.inl rfl) (.inr hswitched)
  | recheckFails i p content hphase hfile hhash =>
      -- the pointer is still as the first look found it
      have hwritten := h.here i
      rw [hphase] at hwritten
      obtain ⟨-, content', hfile', hasked⟩ := hwritten
      rw [hfile, Option.some.injEq] at hfile'
      exact absurd (hfile' ▸ hasked) hhash
  | switch i p content hphase hfile => exact h.switch hphase hfile rfl
  | pass i p hphase =>
      have hswitched := h.here i
      rw [hphase] at hswitched
      exact h.ended (i := i) rfl ⟨rfl, rfl, rfl, rfl⟩ rfl (.inr ⟨_, rfl⟩) hswitched.2 (.inl rfl) (.inl rfl)
  | stop i =>
      exact h.ended (i := i) rfl ⟨rfl, rfl, rfl, rfl⟩ rfl (.inl rfl) trivial (.inl rfl) (.inl rfl)

omit [DecidableEq ι] in
/-- The invariant after a foreign write. -/
theorem OpenInv.foreign (h : OpenInv σ s) {path : Path} {content : Bytes}
    (hparent : ∀ q x, path = q ++ [x] → s.dirs q = true) (hown : ¬Temporary s.toState path)
    (hquiet : ∀ i p, (s.phase i).between = some p → p.pointerPath = path → Asked σ i content) :
    OpenInv σ { s with toState := s.setFile path (some content) } := by
  refine ⟨h.rooted.create content hparent, h.locked, fun i => ?_, h.planned, h.shown, h.done, h.switches⟩
  have hmatches : ∀ p, (s.phase i).between = some p → Matches σ s.toState i p →
      Matches σ (s.setFile path (some content)) i p := by
    rintro p hp ⟨old, hfile, hasked⟩
    by_cases heq : p.pointerPath = path
    · exact ⟨content, by rw [heq, State.setFile_self], hquiet i p hp heq⟩
    · exact ⟨old, by rw [State.setFile_of_ne _ _ heq, hfile], hasked⟩
  have hhere := h.here i
  change OpenLocal σ _ i (s.phase i)
  cases hphase : s.phase i with
  | start | prepared p | locked p | rechecked p | switched p | raised =>
      rw [hphase] at hhere
      exact hhere
  | bound b =>
      rw [hphase] at hhere
      exact ⟨hhere.path, hhere.loaded, hhere.isDict, hhere.plans⟩
  | consumed b a =>
      rw [hphase] at hhere
      exact ⟨⟨hhere.1.path, hhere.1.loaded, hhere.1.isDict, hhere.1.plans⟩, hhere.2⟩
  | cleared p =>
      rw [hphase] at hhere hmatches
      exact ⟨hhere.1, hmatches p rfl hhere.2.1, hhere.2.2⟩
  | staged p dir =>
      rw [hphase] at hhere hmatches
      obtain ⟨hplan, hmatch, hout, hne, hpointer, honly⟩ := hhere
      refine ⟨hplan, hmatches p rfl hmatch, hout, hne, hpointer, fun x hx => honly x ?_⟩
      have hother : dir ++ [x] ≠ path := fun heq => hown ⟨i, .inr ⟨p, dir, x, hphase, heq.symm⟩⟩
      rwa [State.setFile_of_ne _ _ hother] at hx
  | published p | written p =>
      rw [hphase] at hhere hmatches
      exact ⟨hhere.1, hmatches p rfl hhere.2⟩
  | returned o =>
      rw [hphase] at hhere
      cases o with
      | pass preview out => exact hhere
      | hold reason => trivial
      | dryRun preview => trivial

theorem OpenInv.step {t : OpenState ι} {e : Event} (h : OpenInv σ s) (hstep : OpenStep σ s e t)
    (hquiet : Undisturbing σ s e) : OpenInv σ t := by
  cases hstep with
  | call hstep => exact h.call hstep
  | foreign i path content _ hparent _ hown => exact h.foreign hparent hown (hquiet path content rfl)

omit [DecidableEq ι] in
/-- At the start the invariant holds. -/
theorem openInv_initial (h : OpenInitial s) : OpenInv σ s := by
  refine ⟨h.rooted, fun i hi => ?_, fun i => ?_, fun i p hp => ?_, fun i hi => ?_, ?_, fun sw hsw => ?_⟩
  · rw [h.phase i] at hi
    cases hi
  · rw [h.phase i]
    exact h.plans i
  · rw [h.plans i] at hp
    cases hp
  · rw [h.made i] at hi
    cases hi
  · rintro i ⟨sw, hsw, -⟩
    rw [h.switches] at hsw
    cases hsw
  · rw [h.switches] at hsw
    cases hsw

/-- The invariant holds in every run of undisturbing steps. -/
theorem openInv_of_run {s₀ : OpenState ι} (h₀ : OpenInitial s₀) (hrun : QuietRun σ s₀ s) : OpenInv σ s := by
  induction hrun with
  | refl => exact openInv_initial h₀
  | tail _ hstep ih =>
      obtain ⟨e, hstep, hquiet⟩ := hstep
      exact ih.step hstep hquiet

/-- A held call has published nothing and has switched no pointer, and a call that has returned with its
directory published has switched its pointer to the receipt. -/
def HeldLeavesNothing (σ : Setting ι) (s : OpenState ι) : Prop :=
  (∀ i reason, s.phase i = .returned (.hold reason) → s.made i = false ∧ ¬Switched s.toState i) ∧
    ∀ i o, s.phase i = .returned o → s.made i = true →
      ∃ sw ∈ s.switches, sw.call = i ∧ PointerPath σ i sw.path ∧
        ∃ p, s.plans i = some p ∧ named sw.after = .str p.receiptSha

/-- In every run in which no foreign write gives the pointer of a call another hash between the two looks
of the call, a held promotion leaves nothing published. -/
theorem held_leaves_nothing {s₀ : OpenState ι} (h₀ : OpenInitial s₀) (hrun : QuietRun σ s₀ s) :
    HeldLeavesNothing σ s := by
  have h := openInv_of_run h₀ hrun
  refine ⟨fun i reason hphase => h.early hphase rfl, fun i o hphase hmade => ?_⟩
  have hshown := h.shown i hmade
  have hhere := h.here i
  rw [hphase] at hshown hhere
  cases o with
  | hold reason => cases hshown
  | dryRun preview => cases hshown
  | pass preview out =>
      obtain ⟨sw, hsw, hcall⟩ := hhere
      obtain ⟨p, hp, hpath, hafter⟩ := h.switches sw hsw
      rw [hcall] at hp
      obtain ⟨b, a, hmakes, hpointer⟩ := h.planned i p hp
      exact ⟨sw, hsw, hcall, hpath ▸ hpointer, p, hp, by rw [hafter, hmakes.named_pointerFile]⟩

end Invariant

/-! ### A hold that leaves its directory -/

/-- A repository with the request of `Wuchang/PromotionCall.lean`. -/
def sampleSetting : Setting Unit := ⟨sampleLibrary, fun _ => false, fun _ => sampleCall false⟩

/-- Its state before the call. -/
def sampleState : OpenState Unit where
  files := sampleFiles
  dirs q := q = []
  ledger := ⟨[], false⟩
  lock := none
  phase _ := .start
  held _ := none
  reading _ := none
  plans _ := none
  switches := []
  pointersHashed := []
  receiptsHashed := []
  made _ := false

theorem openInitial_sampleState : OpenInitial sampleState := by
  refine ⟨fun _ => rfl, rfl, fun _ => rfl, rfl, fun _ => rfl, fun q x hq => ?_⟩
  change sampleFiles (q ++ [x]) ≠ none at hq
  have hshort : q = [] := by
    unfold sampleFiles at hq
    split_ifs at hq with h₁ h₂ h₃
    · exact (List.append_inj' (show q ++ _ = [] ++ _ from h₁) rfl).1
    · exact (List.append_inj' (show q ++ _ = [] ++ _ from h₂) rfl).1
    · exact (List.append_inj' (show q ++ _ = [] ++ _ from h₃) rfl).1
    · exact absurd rfl hq
  rw [hshort]
  rfl

/-- Undisturbing steps lead from a state to a state of a kind. -/
def Reaches (σ : Setting ι) (s : OpenState ι) (Q : OpenState ι → Prop) : Prop := ∃ u, QuietRun σ s u ∧ Q u

section Reaches

variable {σ : Setting ι} {s : OpenState ι} {t : State ι} {Q : OpenState ι → Prop}

/-- A step that may publish. -/
theorem Reaches.publish (hstep : Step σ s.toState t)
    (hplace : ∀ i p, t.phase i = .published p → s.files p.outputDir = none)
    (h : Reaches σ ⟨t, fun i => s.made i || publishes (s.phase i) (t.phase i)⟩ Q) : Reaches σ s Q := by
  obtain ⟨u, hrun, hQ⟩ := h
  refine ⟨u, .head ⟨.call, .call hstep fun i p _ hphase => hplace i p hphase, ?_⟩ hrun, hQ⟩
  intro path content hevent
  cases hevent

/-- A step that publishes nothing. -/
theorem Reaches.call (hstep : Step σ s.toState t)
    (hquiet : ∀ j, publishes (s.phase j) (t.phase j) = false) (h : Reaches σ ⟨t, s.made⟩ Q) :
    Reaches σ s Q := by
  have hmade : s.made = fun j => s.made j || publishes (s.phase j) (t.phase j) := by
    funext j
    rw [hquiet j, Bool.or_false]
  rw [hmade] at h
  obtain ⟨u, hrun, hQ⟩ := h
  refine ⟨u, .head ⟨.call, .call hstep fun j p hpublishes => ?_, ?_⟩ hrun, hQ⟩
  · rw [hquiet j] at hpublishes
    cases hpublishes
  · intro path content hevent
    cases hevent

end Reaches

/-- The call has published, and its pointer is as it was. -/
structure JustPublished (s : OpenState Unit) (p : Plan) : Prop where
  phase : s.phase () = .published p
  made : s.made () = true
  pointerPath : p.pointerPath = [cp "pointer.json"]
  tmpPath : p.tmpPath = [cp ".pointer.json.1.tmp"]
  outputDir : p.outputDir = promotions ++ [cp "first"]
  pointer : s.files [cp "pointer.json"] = some samplePointer
  tmp : s.pathExists [cp ".pointer.json.1.tmp"] = false
  dirs : s.dirs [] = true ∧ s.dirs [cp "pointer.json"] = false ∧ s.dirs (promotions ++ [cp "first"]) = true

theorem asked_samplePointer : Asked sampleSetting () samplePointer := by
  have hactive : sampleRequest.get "active_pointer_sha256" = hashOf samplePointer := by simp [sampleRequest]
  change pyEq _ (sampleRequest.get "active_pointer_sha256") = true
  rw [hactive]
  exact pyEq_str.2 rfl

/-- The call publishes, and nobody disturbs it. -/
theorem reaches_justPublished : Reaches sampleSetting sampleState fun s => ∃ p, JustPublished s p := by
  obtain ⟨b, hbind, hpointer, hpath⟩ := bind_sampleRequest
  obtain ⟨a, hauthorize, hvalid, hnonce, hpayload⟩ := authorize_sampleRequest
  obtain ⟨p, hprepare, hout, hpointerPath, htmp⟩ := prepare_sampleRequest hpointer hnonce hpayload (cp "1")
    (promotions ++ [cp "first"])
  have hget : sampleRequest.get "promotion_output_ref" = lit "runtime/total_field/promotions/first" := by
    simp [sampleRequest]
  have houtput : safePath (fun _ => false) (sampleRequest.get "promotion_output_ref") true =
      .ok (promotions ++ [cp "first"]) := by
    rw [hget]
    rfl
  have hmark : (sampleState.ledger.markUsedOrReplay false a.nonce a.payloadSha a.now a.ttl).1 = true :=
    NonceLedger.mark_eq_true_iff.2 ⟨hvalid, rfl, rfl, List.not_mem_nil⟩
  rw [hpath] at hpointerPath htmp
  obtain ⟨pointerPath, tmpPath, outputDir, receiptBytes, receiptSha, receiptFile, transitionFile,
    pointerFile, preview⟩ := p
  dsimp only at hout hpointerPath htmp
  subst hout hpointerPath htmp
  refine .call (.bind () ⟨sampleFiles, sampleFiles, sampleFiles, sampleFiles⟩ b rfl hbind) (fun _ => rfl) ?_
  refine .call (.consume () b sampleInput a false rfl hauthorize hmark) (fun _ => rfl) ?_
  refine .call (.prepare () b a _ _ rfl houtput rfl hprepare) (fun _ => rfl) ?_
  refine .call (.acquire () _ rfl rfl) (fun _ => rfl) ?_
  refine .call (.clear () _ samplePointer rfl rfl rfl asked_samplePointer) (fun _ => rfl) ?_
  refine .call (.stage () _ (cp "0") rfl rfl) (fun _ => rfl) ?_
  refine .publish (.publish () _ _ rfl) (fun _ _ hphase => ?_) ?_
  · cases hphase
    rfl
  · exact ⟨_, .refl, _, rfl, rfl, rfl, rfl, rfl, rfl, rfl, rfl, rfl, rfl⟩

/-- The call goes on undisturbed: it passes, and what it has published is what it has switched to. -/
theorem held_leaves_nothing_sampleState : ∃ s, QuietRun sampleSetting sampleState s ∧
    s.made () = true ∧ (∃ preview out, s.phase () = .returned (.pass preview out)) ∧
      HeldLeavesNothing sampleSetting s := by
  suffices h : Reaches sampleSetting sampleState fun s => s.made () = true ∧
      ∃ preview out, s.phase () = .returned (.pass preview out) by
    obtain ⟨s, hrun, hmade, hpass⟩ := h
    exact ⟨s, hrun, hmade, hpass, held_leaves_nothing openInitial_sampleState hrun⟩
  obtain ⟨s, hrun, p, h⟩ := reaches_justPublished
  have hfree : s.pathExists p.tmpPath = false := h.tmpPath ▸ h.tmp
  have hne : p.pointerPath ≠ p.tmpPath := by
    rw [h.pointerPath, h.tmpPath]
    decide
  have hfile : (((s.makeDirs p.tmpPath.dropLast).setFile p.tmpPath (some p.pointerFile)).go ()
      (.written p)).files p.pointerPath = some samplePointer := by
    refine (State.setFile_of_ne _ _ hne _).trans ?_
    rw [h.pointerPath]
    exact h.pointer
  suffices hrest : Reaches sampleSetting s fun s => s.made () = true ∧
      ∃ preview out, s.phase () = .returned (.pass preview out) by
    obtain ⟨u, hrun', hpass⟩ := hrest
    exact ⟨u, hrun.trans hrun', hpass⟩
  refine .call (.write () p h.phase hfree) (fun _ => by rw [h.phase]; rfl) ?_
  refine .call (.recheck () p samplePointer rfl hfile asked_samplePointer) (fun _ => rfl) ?_
  refine .call (.switch () p samplePointer rfl hfile) (fun _ => rfl) ?_
  refine .call (.pass () p rfl) (fun _ => rfl) ?_
  exact ⟨_, .refl, h.made, _, _, rfl⟩

/-- Somebody empties the pointer when the directory is published: the call holds, and it leaves a directory
where there was none. -/
theorem held_after_foreign_write : OpenInitial sampleState ∧ ∃ s, OpenRun sampleSetting sampleState s ∧
    s.phase () = .returned (.hold (cp "PROMOTION_CAS_PRECONDITION_FAILED")) ∧
    sampleState.dirs (promotions ++ [cp "first"]) = false ∧ s.dirs (promotions ++ [cp "first"]) = true ∧
    ¬HeldLeavesNothing sampleSetting s := by
  refine ⟨openInitial_sampleState, ?_⟩
  obtain ⟨s, hrun, p, h⟩ := reaches_justPublished
  have hpointer : PointerPath sampleSetting () p.pointerPath := by
    have href : sampleRequest.get "active_pointer_ref" = lit "pointer.json" := by simp [sampleRequest]
    change safePath (fun _ => false) (sampleRequest.get "active_pointer_ref") false = _
    rw [href, h.pointerPath]
    rfl
  have hparent : ∀ q x, p.pointerPath = q ++ [x] → s.dirs q = true := by
    intro q x heq
    rw [h.pointerPath] at heq
    rw [← (List.append_inj' (show [] ++ _ = q ++ _ from heq) rfl).1]
    exact h.dirs.1
  have hne : p.pointerPath ≠ p.tmpPath := by
    rw [h.pointerPath, h.tmpPath]
    decide
  have hown : ¬Temporary s.toState p.pointerPath := by
    rintro ⟨_, ⟨q, hplan, heq⟩ | ⟨q, dir, x, hstaged, _⟩⟩
    · rw [h.phase] at hplan
      cases hplan
      exact hne heq
    · rw [h.phase] at hstaged
      cases hstaged
  have hfree : (s.setFile p.pointerPath (some [])).pathExists p.tmpPath = false := by
    have hfresh := (State.pathExists_eq_false _ _).1 h.tmp
    refine (State.pathExists_eq_false _ _).2 ⟨h.tmpPath ▸ hfresh.1, ?_⟩
    rw [State.setFile_of_ne _ _ hne.symm, h.tmpPath]
    exact hfresh.2
  have hfile : ((((s.setFile p.pointerPath (some [])).makeDirs p.tmpPath.dropLast).setFile p.tmpPath
      (some p.pointerFile)).go () (.written p)).files p.pointerPath = some [] :=
    (State.setFile_of_ne _ _ hne _).trans (State.setFile_self _ _ _)
  have hother : ¬Asked sampleSetting () [] := by
    have hactive : sampleRequest.get "active_pointer_sha256" = hashOf samplePointer := by simp [sampleRequest]
    change ¬pyEq _ (sampleRequest.get "active_pointer_sha256") = true
    rw [hactive, hashOf, pyEq_str, PyVal.str.injEq]
    decide +kernel
  have hforeign : OpenStep sampleSetting s (.foreign p.pointerPath []) _ :=
    .foreign () p.pointerPath [] hpointer hparent (h.pointerPath ▸ h.dirs.2.1) hown
  obtain ⟨u, hrest, hleft⟩ : Reaches sampleSetting { s with toState := s.setFile p.pointerPath (some []) }
      fun u => u.phase () = .returned (.hold (cp "PROMOTION_CAS_PRECONDITION_FAILED")) ∧
        u.made () = true ∧ u.dirs (promotions ++ [cp "first"]) = true := by
    refine .call (.write () p h.phase hfree) (fun _ => ?_) ?_
    · change publishes (s.phase ()) _ = false
      rw [h.phase]
      rfl
    refine .call (.recheckFails () p [] rfl hfile hother) (fun _ => rfl) ?_
    exact ⟨_, .refl, rfl, h.made, Bool.or_eq_true_iff.2 (.inl h.dirs.2.2)⟩
  have hopen : ∀ {v w}, QuietRun sampleSetting v w → OpenRun sampleSetting v w := by
    intro v w hquiet
    refine Relation.ReflTransGen.mono (fun x y hxy => ?_) _ _ hquiet
    obtain ⟨e, hstep, -⟩ := hxy
    exact ⟨e, hstep⟩
  refine ⟨u, (hopen hrun).trans (.head ⟨_, hforeign⟩ (hopen hrest)), hleft.1, rfl, hleft.2.2, fun hnothing => ?_⟩
  have hmade := (hnothing.1 () _ hleft.1).1
  rw [hleft.2.1] at hmade
  cases hmade

end GovernedPromotion
