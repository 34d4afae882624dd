/-
**Programs that are stopped.**

A program performs operations on a state, one after another, and may be stopped behind any of them: what is
left then is the state behind the operation.  So the outcome of a run is its result, the last state, and every
operation with the state behind it.  An operation that fails changes nothing and raises.

This module names nothing of the code that is verified with it.

Main definitions:

* `Interruptions.Outcome`, `Interruptions.Program` — the outcome of a run, and programs;
* `Interruptions.perform`, `Interruptions.ensure` — one operation, and `try: … finally: …`;
* `Interruptions.Leaves` — what holds behind every operation and at the end;
* `Interruptions.Keeps` — a condition that a program keeps.

Main results:

* `Interruptions.Leaves.bind`, `Interruptions.Leaves.ensure` — this is established step by step;
* `Interruptions.Keeps.bind`, `Interruptions.keeps_perform` — a program keeps what its operations keep.
-/

import Mathlib.Data.List.Basic

set_option relaxedAutoImplicit false
set_option autoImplicit false

namespace Interruptions

variable {ω σ ε α β : Type}

/-! ### Programs -/

/-- The outcome of a run: the result, the last state, and what was done, with the states behind it. -/
structure Outcome (ω σ ε α : Type) where
  result : Except ε α
  state : σ
  done : List (ω × σ)

/-- A program that performs operations on a state. -/
def Program (ω σ ε α : Type) := σ → Outcome ω σ ε α

/-- What follows a program that returned. -/
def Program.andThen (x : Program ω σ ε α) (f : α → Program ω σ ε β) : Program ω σ ε β := fun s =>
  match (x s).result with
  | .ok a => ⟨(f a (x s).state).result, (f a (x s).state).state, (x s).done ++ (f a (x s).state).done⟩
  | .error e => ⟨.error e, (x s).state, (x s).done⟩

instance : Monad (Program ω σ ε) where
  pure a := fun s => ⟨.ok a, s, []⟩
  bind := Program.andThen

/-- The state is looked at. -/
def read : Program ω σ ε σ := fun s => ⟨.ok s, s, []⟩

/-- Code that performs no operation. -/
def check (x : Except ε α) : Program ω σ ε α := fun s => ⟨x, s, []⟩

/-- An operation is performed, if it succeeds. -/
def perform (apply : ω → σ → Option σ) (failure : ε) (op : ω) : Program ω σ ε Unit := fun s =>
  match apply op s with
  | some s' => ⟨.ok (), s', [(op, s')]⟩
  | none => ⟨.error failure, s, []⟩

/-- `try: x finally: y` -/
def ensure (x : Program ω σ ε α) (y : Program ω σ ε Unit) : Program ω σ ε α := fun s =>
  ⟨match (y (x s).state).result with
    | .ok _ => (x s).result
    | .error e => .error e, (y (x s).state).state, (x s).done ++ (y (x s).state).done⟩

/-- Exceptions are replaced. -/
def replacing (f : ε → ε) (x : Program ω σ ε α) : Program ω σ ε α := fun s =>
  ⟨match (x s).result with
    | .ok a => .ok a
    | .error e => .error (f e), (x s).state, (x s).done⟩

section Runs

variable {s : σ} {x : Program ω σ ε α} {f : α → Program ω σ ε β}

theorem read_bind (f : σ → Program ω σ ε β) : (read >>= f) s = f s s := rfl

end Runs

/-! ### What is left -/

/-- What holds behind every operation of a run, and with the result at its end. -/
structure Leaves (P : ω → σ → Prop) (Q : Except ε α → σ → Prop) (x : Program ω σ ε α) (s : σ) : Prop where
  behind : ∀ q ∈ (x s).done, P q.1 q.2
  final : Q (x s).result (x s).state

section Left

variable {P : ω → σ → Prop} {Q : Except ε β → σ → Prop} {R : Except ε α → σ → Prop} {s : σ}
  {x : Program ω σ ε α} {f : α → Program ω σ ε β}

theorem Leaves.mono {P' : ω → σ → Prop} {R' : Except ε α → σ → Prop} (h : Leaves P R x s)
    (hP : ∀ op s', P op s' → P' op s') (hR : ∀ r s', R r s' → R' r s') : Leaves P' R' x s :=
  ⟨fun q hq => hP _ _ (h.behind q hq), hR _ _ h.final⟩

theorem Leaves.bind (hx : Leaves P R x s) (herror : ∀ e s', R (.error e) s' → Q (.error e) s')
    (hf : ∀ a s', R (.ok a) s' → Leaves P Q (f a) s') : Leaves P Q (x >>= f) s := by
  obtain ⟨hbehind, hfinal⟩ := hx
  change Leaves P Q (x.andThen f) s
  cases hresult : (x s).result with
  | error e =>
      rw [hresult] at hfinal
      refine ⟨?_, ?_⟩ <;> simp only [Program.andThen, hresult]
      · exact hbehind
      · exact herror e _ hfinal
  | ok a =>
      rw [hresult] at hfinal
      obtain ⟨hnext, hend⟩ := hf a _ hfinal
      refine ⟨?_, ?_⟩ <;> simp only [Program.andThen, hresult]
      · intro q hq
        rcases List.mem_append.1 hq with hq | hq
        · exact hbehind q hq
        · exact hnext q hq
      · exact hend

theorem leaves_check {y : Except ε α} (h : R y s) : Leaves P R (check y) s :=
  ⟨fun _ hq => absurd hq List.not_mem_nil, h⟩

theorem leaves_pure {a : α} (h : R (.ok a) s) : Leaves P R (pure a : Program ω σ ε α) s :=
  ⟨fun _ hq => absurd hq List.not_mem_nil, h⟩

theorem leaves_read_bind {f : σ → Program ω σ ε β} (h : Leaves P Q (f s) s) : Leaves P Q (read >>= f) s := by
  obtain ⟨hbehind, hfinal⟩ := h
  constructor
  · rwa [read_bind]
  · rwa [read_bind]

theorem leaves_check_bind {y : Except ε α} (herror : ∀ e, y = .error e → Q (.error e) s)
    (hf : ∀ a, y = .ok a → Leaves P Q (f a) s) : Leaves P Q (check y >>= f) s := by
  refine (leaves_check (R := fun r s' => r = y ∧ s' = s) ⟨rfl, rfl⟩).bind ?_ ?_
  · rintro e s' ⟨heq, rfl⟩
    exact herror e heq.symm
  · rintro a s' ⟨heq, rfl⟩
    exact hf a heq.symm

theorem leaves_perform {apply : ω → σ → Option σ} {failure : ε} {op : ω} {R : Except ε Unit → σ → Prop}
    (hsome : ∀ s', apply op s = some s' → P op s' ∧ R (.ok ()) s')
    (hnone : apply op s = none → R (.error failure) s) : Leaves P R (perform apply failure op) s := by
  cases happly : apply op s with
  | none =>
      refine ⟨?_, ?_⟩ <;> rw [perform, happly]
      · exact fun _ hq => absurd hq List.not_mem_nil
      · exact hnone happly
  | some s' =>
      refine ⟨?_, ?_⟩ <;> rw [perform, happly]
      · intro q hq
        rw [List.mem_singleton.1 hq]
        exact (hsome s' happly).1
      · exact (hsome s' happly).2

/-- What is done in the end is done behind a result and behind an exception. -/
theorem Leaves.ensure {R' : Except ε α → σ → Prop} {y : Program ω σ ε Unit} (hx : Leaves P R x s)
    (hy : ∀ r s', R r s' → Leaves P (fun r' s'' => R' (match r' with
      | .ok _ => r
      | .error e => .error e) s'') y s') : Leaves P R' (ensure x y) s := by
  obtain ⟨hbehind, hend⟩ := hy _ _ hx.final
  refine ⟨fun q hq => ?_, hend⟩
  rcases List.mem_append.1 hq with hq | hq
  · exact hx.behind q hq
  · exact hbehind q hq

theorem Leaves.replacing {g : ε → ε} {R' : Except ε α → σ → Prop} (h : Leaves P R x s)
    (hok : ∀ a s', R (.ok a) s' → R' (.ok a) s') (herror : ∀ e s', R (.error e) s' → R' (.error (g e)) s') :
    Leaves P R' (replacing g x) s := by
  refine ⟨h.behind, ?_⟩
  have hfinal := h.final
  unfold Interruptions.replacing
  cases hresult : (x s).result with
  | ok a =>
      rw [hresult] at hfinal
      exact hok a _ hfinal
  | error e =>
      rw [hresult] at hfinal
      exact herror e _ hfinal

end Left

/-! ### What is kept -/

/-- A program keeps a condition: it holds behind every operation if it holds before. -/
def Keeps (I : σ → Prop) (x : Program ω σ ε α) : Prop :=
  ∀ s, I s → Leaves (fun _ s' => I s') (fun _ s' => I s') x s

section Kept

variable {I : σ → Prop} {x : Program ω σ ε α} {f : α → Program ω σ ε β}

theorem Keeps.bind (hx : Keeps I x) (hf : ∀ a, Keeps I (f a)) : Keeps I (x >>= f) :=
  fun s hs => (hx s hs).bind (fun _ _ h => h) fun a s' h => hf a s' h

theorem keeps_check (y : Except ε α) : Keeps I (check y : Program ω σ ε α) := fun _ hs => leaves_check hs

theorem keeps_read_bind {f : σ → Program ω σ ε β} (hf : ∀ s, Keeps I (f s)) : Keeps I (read >>= f) :=
  fun s hs => leaves_read_bind (hf s s hs)

theorem keeps_perform {apply : ω → σ → Option σ} {failure : ε} {op : ω}
    (h : ∀ s s', I s → apply op s = some s' → I s') : Keeps I (perform apply failure op) :=
  fun s hs => leaves_perform (fun s' happly => ⟨h s s' hs happly, h s s' hs happly⟩) fun _ => hs

theorem Keeps.ensure {y : Program ω σ ε Unit} (hx : Keeps I x) (hy : Keeps I y) : Keeps I (ensure x y) :=
  fun s hs => (hx s hs).ensure fun _ s' h => hy s' h

theorem Keeps.replacing (hx : Keeps I x) (g : ε → ε) : Keeps I (replacing g x) :=
  fun s hs => (hx s hs).replacing (fun _ _ h => h) fun _ _ h => h

end Kept

end Interruptions
