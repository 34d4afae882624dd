/-
**Methods that may raise: state, exceptions, and the rules to reason about them.**

A method of a Python object reads and changes the object and either returns or raises; what it
changed before it raised stays changed.  That is the monad `EStateM` of the core library, with the
object as the state.  A parser that moves a cursor over a buffer is the same thing with the unread
bytes as the state.  This module fixes the exceptions and supplies the rules used about such
methods everywhere else; it names nothing of the code that is verified with them.

Two questions are asked about a method again and again.  *Which exceptions can it raise?*  A method
is `Py.Declared` when it never raises one of the interpreter's.  *When does it return, and what?*
`Py.erase` forgets which exception was raised and leaves a partial function of the state; it
respects sequencing, guards and loops, so two methods that check the same things in different
words, or in a different order, have equal erasures.

Main definitions:

* `Py.Raise` — an exception: one of the program's own, or one of the interpreter's;
* `Py.raiseIf`, `Py.index`, `Py.getKey` — a guard, and the two partial accesses;
* `Py.times` — a loop `for _ in range(n)` that carries a value;
* `Py.callOn`, `Py.outcome`, `Py.after` — a call, what it returned or raised, what it left;
* `Py.Keeps` — a method, seen through what it leaves of the object;
* `Py.Respects` — a method that does the same to related objects when it returns;
* `Py.Own`, `Py.Declared` — code, and a method, that raise the program's own exceptions only;
* `Py.Foreign` — code that raises exceptions of the interpreter only;
* `Py.erase` — the method as a partial function of the state;
* `Py.several` — a number of readings of the same kind.

Main results:

* `Py.Own.bind`, `Py.Declared.bind`, `Py.Declared.times` — this is established step by step;
* `Py.erase_bind`, `Py.erase_lift`, `Py.erase_times` — erasure is a morphism;
* `Py.lift_comm`, `Py.times_read` — a partial value may be computed before or after reading on.
-/

import Mathlib.Data.List.Basic
import Mathlib.Data.Option.Basic
import Mathlib.Algebra.Ring.Nat
import Mathlib.Algebra.Ring.Int.Defs
import Mathlib.Tactic.Common

set_option relaxedAutoImplicit false
set_option autoImplicit false

namespace Py

variable {ε σ α β ι : Type}

/-! ### Exceptions -/

/-- The exceptions the interpreter raises by itself. -/
inductive Builtin where
  | indexError
  | keyError
  | typeError
  | valueError
  | attributeError
  | structError
  | unicodeEncodeError
  | osError
  deriving DecidableEq, Repr

/-- An exception: one the program declares, or one of the interpreter's. -/
inductive Raise (ε : Type) where
  | own (e : ε)
  | builtin (b : Builtin)
  deriving DecidableEq, Repr

/-- Pure code that may raise runs inside a method without touching the object. -/
instance liftExcept : MonadLift (Except ε) (EStateM ε σ) where
  monadLift x := fun s => match x with
    | .ok a => .ok a s
    | .error e => .error e s

@[simp] theorem ok_bind (a : α) (f : α → Except ε β) : (Except.ok a >>= f) = f a := rfl

@[simp] theorem error_bind (e : ε) (f : α → Except ε β) :
    ((Except.error e : Except ε α) >>= f) = .error e := rfl

@[simp] theorem run_lift_ok (a : α) (s : σ) :
    (liftM (Except.ok a : Except ε α) : EStateM ε σ α).run s = .ok a s := rfl

@[simp] theorem run_lift_error (e : ε) (s : σ) :
    (liftM (Except.error e : Except ε α) : EStateM ε σ α).run s = .error e s := rfl

/-- The guard `if c: raise e`. -/
def raiseIf (c : Prop) [Decidable c] (e : ε) : Except (Raise ε) Unit :=
  if c then .error (.own e) else .ok ()

theorem raiseIf_pos {c : Prop} [Decidable c] (h : c) (e : ε) :
    raiseIf c e = .error (.own e) := by simp [raiseIf, h]

theorem raiseIf_neg {c : Prop} [Decidable c] (h : ¬c) (e : ε) :
    raiseIf c e = .ok () := by simp [raiseIf, h]

theorem raiseIf_eq_ok_iff {c : Prop} [Decidable c] {e : ε} {u : Unit} :
    raiseIf c e = .ok u ↔ ¬c := by
  by_cases h : c
  · simp [raiseIf, h]
  · simp [raiseIf, h]

theorem pure_eq_ok_iff {a b : α} : (pure a : Except ε α) = .ok b ↔ a = b :=
  ⟨Except.ok.inj, congrArg _⟩

/-- Code returns when its first part does, and then the rest. -/
theorem bind_eq_ok_iff {x : Except ε α} {f : α → Except ε β} {b : β} :
    (x >>= f) = .ok b ↔ ∃ a, x = .ok a ∧ f a = .ok b := by
  cases x <;> simp

/-- A comprehension returns when all its elements do. -/
theorem mapM_eq_ok {f : α → Except ε β} {g : α → β} {l : List α} (h : ∀ a ∈ l, f a = .ok (g a)) :
    l.mapM f = .ok (l.map g) := by
  induction l with
  | nil => rfl
  | cons a l ih =>
      rw [List.mapM_cons, h a (by simp), ok_bind, ih fun b hb => h b (by simp [hb])]
      rfl

/-- What is returned for a list was returned element by element. -/
theorem forall₂_of_mapM {f : α → Except ε β} {l : List α} {r : List β} (h : l.mapM f = .ok r) :
    List.Forall₂ (fun a b => f a = .ok b) l r := by
  induction l generalizing r with
  | nil =>
      obtain rfl := pure_eq_ok_iff.1 h
      exact .nil
  | cons a l ih =>
      rw [List.mapM_cons, bind_eq_ok_iff] at h
      obtain ⟨b, hb, h⟩ := h
      obtain ⟨bs, hbs, h⟩ := bind_eq_ok_iff.1 h
      obtain rfl := pure_eq_ok_iff.1 h
      exact .cons hb (ih hbs)

/-- The elements of what is returned are what is returned for the elements. -/
theorem mem_of_mapM {f : α → Except ε β} {l : List α} {r : List β} (h : l.mapM f = .ok r) {b : β} :
    b ∈ r ↔ ∃ a ∈ l, f a = .ok b := by
  have hall := forall₂_of_mapM h
  clear h
  induction hall with
  | nil => simp
  | cons hab _ ih =>
      rw [List.mem_cons, List.exists_mem_cons_iff, hab, Except.ok.injEq, eq_comm]
      exact or_congr_right ih

/-- A computation returns when its first part does, and the rest for what it has returned. -/
theorem exists_bind_iff {x : Except ε α} {f : α → Except ε β} :
    (∃ b, (x >>= f) = .ok b) ↔ ∃ a, x = .ok a ∧ ∃ b, f a = .ok b := by
  constructor
  · rintro ⟨b, hb⟩
    obtain ⟨a, ha, hb⟩ := bind_eq_ok_iff.1 hb
    exact ⟨a, ha, b, hb⟩
  · rintro ⟨a, ha, b, hb⟩
    exact ⟨b, bind_eq_ok_iff.2 ⟨a, ha, hb⟩⟩

theorem exists_bind {x : Except ε α} {a : α} {f : α → Except ε β} (hx : x = .ok a) (h : ∃ b, f a = .ok b) :
    ∃ b, (x >>= f) = .ok b := exists_bind_iff.2 ⟨a, hx, h⟩

/-- What a computation returns need not be computed to see that it returns. -/
theorem exists_ok_of_toBool {x : Except ε α} (h : x.toBool = true) : ∃ a, x = .ok a := by
  cases x with
  | ok a => exact ⟨a, rfl⟩
  | error e => cases h

/-- A computation returns when its first part does and the rest does, where it does not matter what the first
part has returned. -/
theorem exists_bind_ok_iff {P : Prop} {x : Except ε α} {f : α → Except ε β}
    (h : ∀ a, x = .ok a → ((∃ b, f a = .ok b) ↔ P)) :
    (∃ b, (x >>= f) = .ok b) ↔ (∃ a, x = .ok a) ∧ P := by
  constructor
  · rintro ⟨b, hb⟩
    obtain ⟨a, ha, hb⟩ := bind_eq_ok_iff.1 hb
    exact ⟨⟨a, ha⟩, (h a ha).1 ⟨b, hb⟩⟩
  · rintro ⟨⟨a, ha⟩, hP⟩
    obtain ⟨b, hb⟩ := (h a ha).2 hP
    exact ⟨b, bind_eq_ok_iff.2 ⟨a, ha, hb⟩⟩

theorem exists_bind_pure_iff {x : Except ε α} {g : α → β} :
    (∃ b, (x >>= fun a => pure (g a)) = .ok b) ↔ ∃ a, x = .ok a :=
  (exists_bind_ok_iff fun a _ => iff_of_true ⟨g a, rfl⟩ trivial).trans (and_iff_left trivial)

/-- Every element of the list gives one of the results. -/
theorem exists_of_mapM {f : α → Except ε β} {l : List α} {r : List β} (h : l.mapM f = .ok r) {a : α}
    (ha : a ∈ l) : ∃ b ∈ r, f a = .ok b := by
  have hall := forall₂_of_mapM h
  clear h
  induction hall with
  | nil => cases ha
  | cons hhead _ ih =>
      rcases List.mem_cons.1 ha with rfl | ha
      · exact ⟨_, List.mem_cons_self, hhead⟩
      · obtain ⟨b, hb, hfb⟩ := ih ha
        exact ⟨b, List.mem_cons_of_mem _ hb, hfb⟩

/-- A comprehension returns exactly when all its elements do. -/
theorem exists_mapM_ok_iff {f : α → Except ε β} {l : List α} :
    (∃ r, l.mapM f = .ok r) ↔ ∀ a ∈ l, ∃ b, f a = .ok b := by
  induction l with
  | nil => exact iff_of_true ⟨[], rfl⟩ (by simp)
  | cons a l ih =>
      rw [List.mapM_cons, List.forall_mem_cons, ← ih]
      refine exists_bind_ok_iff fun b _ => ?_
      exact exists_bind_pure_iff

/-- A comprehension whose elements can raise one exception only raises it when one of them does. -/
theorem mapM_eq_error {f : α → Except ε β} {e : ε} {l : List α}
    (h : ∀ a ∈ l, f a = .error e ∨ ∃ b, f a = .ok b) (hex : ∃ a ∈ l, f a = .error e) :
    l.mapM f = .error e := by
  induction l with
  | nil =>
      obtain ⟨a, ha, -⟩ := hex
      exact absurd ha List.not_mem_nil
  | cons a l ih =>
      rw [List.mapM_cons]
      rcases h a (by simp) with ha | ⟨b, ha⟩
      · rw [ha, error_bind]
      · have hrest : ∃ c ∈ l, f c = .error e := by
          obtain ⟨c, hc, hce⟩ := hex
          rcases List.mem_cons.1 hc with rfl | hc
          · rw [ha] at hce
            cases hce
          · exact ⟨c, hc, hce⟩
        rw [ha, ok_bind, ih (fun c hc => h c (by simp [hc])) hrest, error_bind]

/-- The access `xs[i]`. -/
def index (xs : List α) (i : ℕ) : Except (Raise ε) α :=
  match xs[i]? with
  | some a => .ok a
  | none => .error (.builtin .indexError)

theorem index_of_lt {xs : List α} {i : ℕ} (h : i < xs.length) :
    (index xs i : Except (Raise ε) α) = .ok xs[i] := by
  simp [index, List.getElem?_eq_getElem h]

/-- The access `d[k]` for a dictionary given by its items. -/
def getKey [DecidableEq ι] (d : List (ι × α)) (k : ι) : Except (Raise ε) α :=
  match d.lookup k with
  | some a => .ok a
  | none => .error (.builtin .keyError)

/-- A key is found exactly when it is one of the keys. -/
theorem lookup_isSome_iff [DecidableEq ι] {d : List (ι × α)} {k : ι} :
    (d.lookup k).isSome ↔ k ∈ d.map Prod.fst := by
  simp [List.lookup_isSome_iff]

/-- The loop `for _ in range(n)` around a step that carries a value. -/
def times {m : Type → Type} [Monad m] (n : ℕ) (step : α → m α) (a : α) : m α :=
  match n with
  | 0 => pure a
  | n + 1 => do
      let a ← step a
      times n step a

section Times

variable {m : Type → Type} [Monad m]

@[simp] theorem times_zero (step : α → m α) (a : α) : times 0 step a = pure a := rfl

theorem times_succ (n : ℕ) (step : α → m α) (a : α) :
    times (n + 1) step a = step a >>= fun a => times n step a := rfl

end Times

/-- The result of a method called on an object of its own, together with what it left there. -/
def callOn (x : EStateM ε σ α) (s : σ) : Except ε (α × σ) :=
  match x.run s with
  | .ok a s' => .ok (a, s')
  | .error e _ => .error e

/-- What a call returned or raised. -/
def outcome : EStateM.Result ε σ α → Except ε α
  | .ok a _ => .ok a
  | .error e _ => .error e

/-- The object after a call, whether the call returned or raised. -/
def after : EStateM.Result ε σ α → σ
  | .ok _ s => s
  | .error _ s => s

@[simp] theorem outcome_ok (a : α) (s : σ) :
    outcome (.ok a s : EStateM.Result ε σ α) = .ok a := rfl

@[simp] theorem outcome_error (e : ε) (s : σ) :
    outcome (.error e s : EStateM.Result ε σ α) = .error e := rfl

@[simp] theorem after_ok (a : α) (s : σ) : after (.ok a s : EStateM.Result ε σ α) = s := rfl

@[simp] theorem after_error (e : ε) (s : σ) : after (.error e s : EStateM.Result ε σ α) = s := rfl

/-! ### Code that raises the program's own exceptions only -/

/-- The computation does not end in an exception of the interpreter. -/
def Own (x : Except (Raise ε) α) : Prop := ∀ b, x ≠ .error (.builtin b)

namespace Own

theorem ok (a : α) : Own (.ok a : Except (Raise ε) α) := by
  intro b
  simp

theorem bind {x : Except (Raise ε) α} {f : α → Except (Raise ε) β} (hx : Own x)
    (hf : ∀ a, x = .ok a → Own (f a)) : Own (x >>= f) := by
  cases x with
  | ok a => exact hf a rfl
  | error e => exact fun b he => hx b (by simpa [Bind.bind, Except.bind] using he)

theorem raiseIf (c : Prop) [Decidable c] (e : ε) : Own (Py.raiseIf c e) := by
  intro b
  by_cases h : c
  · rw [raiseIf_pos h]; simp
  · rw [raiseIf_neg h]; simp

/-- A guard, and then code that needs the guard to hold. -/
theorem guard_bind {c : Prop} [Decidable c] {e : ε} {x : Except (Raise ε) α}
    (hx : ¬c → Own x) : Own (do Py.raiseIf c e; x) := by
  refine bind (raiseIf c e) fun _ hok => hx fun hc => ?_
  rw [raiseIf_pos hc] at hok
  simp at hok

theorem index {xs : List α} {i : ℕ} (h : i < xs.length) :
    Own (Py.index xs i : Except (Raise ε) α) := by
  rw [index_of_lt h]
  exact ok _

theorem getKey [DecidableEq ι] {d : List (ι × α)} {k : ι} (h : k ∈ d.map Prod.fst) :
    Own (Py.getKey d k : Except (Raise ε) α) := by
  obtain ⟨a, ha⟩ := Option.isSome_iff_exists.1 (lookup_isSome_iff.2 h)
  intro b
  simp [Py.getKey, ha]

theorem foldlM {f : α → ι → Except (Raise ε) α} (l : List ι) (h : ∀ i ∈ l, ∀ a, Own (f a i)) :
    ∀ a, Own (l.foldlM f a) := by
  induction l with
  | nil => intro a; exact ok a
  | cons i l ih =>
      intro a
      rw [List.foldlM_cons]
      exact bind (h i (by simp) a) fun a' _ => ih (fun j hj => h j (by simp [hj])) a'

end Own

/-- The computation does not end in one of the program's own exceptions. -/
def Foreign (x : Except (Raise ε) α) : Prop := ∀ e, x ≠ .error (.own e)

namespace Foreign

theorem ok (a : α) : Foreign (.ok a : Except (Raise ε) α) := by
  intro e
  simp

theorem builtin (b : Builtin) : Foreign (.error (.builtin b) : Except (Raise ε) α) := by
  intro e
  simp

theorem bind {x : Except (Raise ε) α} {f : α → Except (Raise ε) β} (hx : Foreign x)
    (hf : ∀ a, x = .ok a → Foreign (f a)) : Foreign (x >>= f) := by
  cases x with
  | ok a => exact hf a rfl
  | error e => exact fun b he => hx b (by simpa [Bind.bind, Except.bind] using he)

end Foreign

/-- From no state does the method raise an exception of the interpreter. -/
def Declared (x : EStateM (Raise ε) σ α) : Prop :=
  ∀ s b s', x.run s ≠ .error (.builtin b) s'

namespace Declared

theorem pure (a : α) : Declared (Pure.pure a : EStateM (Raise ε) σ α) := by
  intro s b s'
  simp

theorem bind {x : EStateM (Raise ε) σ α} {f : α → EStateM (Raise ε) σ β}
    (hx : Declared x) (hf : ∀ s a s', x.run s = .ok a s' → Declared (f a)) :
    Declared (x >>= f) := by
  intro s b s'
  rw [EStateM.run_bind]
  cases h : x.run s with
  | ok a t => exact hf s a t h t b s'
  | error e t =>
      intro he
      simp only [EStateM.Result.error.injEq] at he
      exact hx s b t (by rw [h, he.1])

theorem lift {x : Except (Raise ε) α} (h : Own x) :
    Declared (liftM x : EStateM (Raise ε) σ α) := by
  intro s b s'
  cases x with
  | ok a => simp
  | error e =>
      intro he
      simp only [run_lift_error, EStateM.Result.error.injEq] at he
      exact h b (by rw [he.1])

/-- A guard, and then a method that needs the guard to hold. -/
theorem guard_bind {c : Prop} [Decidable c] {e : ε} {x : EStateM (Raise ε) σ α}
    (hx : ¬c → Declared x) :
    Declared (do (liftM (raiseIf c e) : EStateM (Raise ε) σ Unit); x) := by
  by_cases h : c
  · intro s b s'
    rw [raiseIf_pos h]
    simp
  · exact bind (lift (.raiseIf c e)) fun _ _ _ _ => hx h

theorem times {f : α → EStateM (Raise ε) σ α} (h : ∀ a, Declared (f a)) :
    ∀ (n : ℕ) (a : α), Declared (Py.times n f a) := by
  intro n
  induction n with
  | zero => intro a; exact pure a
  | succ n ih => intro a; exact bind (h a) (fun _ a' _ _ => ih a')

theorem foldlM {f : α → ι → EStateM (Raise ε) σ α} (l : List ι)
    (h : ∀ i ∈ l, ∀ a, Declared (f a i)) : ∀ a, Declared (l.foldlM f a) := by
  induction l with
  | nil => intro a; exact pure a
  | cons i l ih =>
      intro a
      rw [List.foldlM_cons]
      exact bind (h i (by simp) a) (fun _ a' _ _ => ih (fun j hj => h j (by simp [hj])) a')

/-- A method called on an object of its own. -/
theorem callOn {x : EStateM (Raise ε) σ α} (h : Declared x) (s : σ) : Own (Py.callOn x s) := by
  intro b
  unfold Py.callOn
  cases hx : x.run s with
  | ok a s' => simp
  | error e s' =>
      intro he
      simp only [Except.error.injEq] at he
      exact h s b s' (by rw [hx, he])

end Declared

/-- What holds of the carried value at the start and is kept by every step holds at the end. -/
theorem times_inv {P : α → Prop} {f : α → EStateM ε σ α}
    (h : ∀ a s a' s', P a → (f a).run s = .ok a' s' → P a') :
    ∀ (n : ℕ) (a : α) (s : σ) (a' : α) (s' : σ), P a → (times n f a).run s = .ok a' s' → P a' := by
  intro n
  induction n with
  | zero =>
      intro a s a' s' ha hr
      simp only [times_zero, EStateM.run_pure, EStateM.Result.ok.injEq] at hr
      rwa [← hr.1]
  | succ n ih =>
      intro a s a' s' ha hr
      rw [times_succ, EStateM.run_bind] at hr
      cases hf : (f a).run s with
      | ok b t =>
          rw [hf] at hr
          exact ih b t a' s' (h a s b t ha hf) hr
      | error e t => rw [hf] at hr; simp at hr

/-! ### What a method leaves behind -/

/-- Whether the method returns or raises, the object it leaves stands in the relation to the object
it was called on. -/
def Keeps (R : σ → σ → Prop) (x : EStateM ε σ α) : Prop := ∀ s, R s (after (x.run s))

namespace Keeps

variable {R : σ → σ → Prop}

theorem pure (refl : ∀ s, R s s) (a : α) : Keeps R (Pure.pure a : EStateM ε σ α) := refl

theorem lift (refl : ∀ s, R s s) (x : Except ε α) : Keeps R (liftM x : EStateM ε σ α) := by
  intro s
  cases x
  · exact refl s
  · exact refl s

theorem bind (trans : ∀ {s t u}, R s t → R t u → R s u) {x : EStateM ε σ α}
    {f : α → EStateM ε σ β} (hx : Keeps R x) (hf : ∀ a, Keeps R (f a)) : Keeps R (x >>= f) := by
  intro s
  have hs := hx s
  rw [EStateM.run_bind]
  cases h : x.run s with
  | ok a t =>
      rw [h] at hs
      exact trans hs (hf a t)
  | error e t =>
      rw [h] at hs
      exact hs

/-- A method that looks at the object first. -/
theorem get_bind {f : σ → EStateM ε σ α} (hf : ∀ s, R s (after ((f s).run s))) :
    Keeps R (get >>= f) := fun s => hf s

end Keeps

/-- Where the method returns for an object, it returns the same for a related object, and leaves related
objects. -/
def Respects (R : σ → σ → Prop) (x : EStateM ε σ α) : Prop :=
  ∀ s s' a t, R s s' → x.run s = .ok a t → ∃ t', x.run s' = .ok a t' ∧ R t t'

namespace Respects

variable {R : σ → σ → Prop}

theorem lift (x : Except ε α) : Respects R (liftM x : EStateM ε σ α) := by
  intro s s' a t h hrun
  cases x with
  | error e => exact absurd hrun (by simp)
  | ok b =>
      obtain ⟨rfl, rfl⟩ := EStateM.Result.ok.inj hrun
      exact ⟨s', rfl, h⟩

theorem pure (a : α) : Respects R (Pure.pure a : EStateM ε σ α) := by
  intro s s' b t h hrun
  obtain ⟨rfl, rfl⟩ := EStateM.Result.ok.inj hrun
  exact ⟨s', rfl, h⟩

theorem bind {x : EStateM ε σ α} {f : α → EStateM ε σ β} (hx : Respects R x)
    (hf : ∀ a, Respects R (f a)) : Respects R (x >>= f) := by
  intro s s' b t h hrun
  rw [EStateM.run_bind] at hrun
  cases hfirst : x.run s with
  | error e u => rw [hfirst] at hrun; exact absurd hrun (by simp)
  | ok a u =>
      rw [hfirst] at hrun
      obtain ⟨u', hrun', hu⟩ := hx s s' a u h hfirst
      obtain ⟨t', ht', hR⟩ := hf a u u' b t hu hrun
      exact ⟨t', by rw [EStateM.run_bind, hrun']; exact ht', hR⟩

end Respects

/-- A method returns when its first part does, and then the rest. -/
theorem run_bind_eq_ok_iff {x : EStateM ε σ α} {f : α → EStateM ε σ β} {s t : σ} {b : β} :
    (x >>= f).run s = .ok b t ↔ ∃ a u, x.run s = .ok a u ∧ (f a).run u = .ok b t := by
  rw [EStateM.run_bind]
  cases x.run s with
  | ok a u => simp
  | error e u => simp

/-- Pure code at the beginning of a method leaves the object alone. -/
theorem run_lift_bind_eq_ok_iff {x : Except ε α} {f : α → EStateM ε σ β} {s t : σ} {b : β} :
    ((liftM x : EStateM ε σ α) >>= f).run s = .ok b t ↔ ∃ a, x = .ok a ∧ (f a).run s = .ok b t := by
  rw [EStateM.run_bind]
  cases x with
  | ok a => simp
  | error e => simp

theorem run_get_bind (f : σ → EStateM ε σ β) (s : σ) : (get >>= f).run s = (f s).run s := rfl

theorem run_set_bind (f : PUnit → EStateM ε σ β) (s t : σ) : (set t >>= f).run s = (f ⟨⟩).run t := rfl

/-! ### A method as a partial function of the state -/

/-- The method as a partial function: which exception was raised is forgotten. -/
def erase (x : EStateM ε σ α) : StateT σ Option α := fun s =>
  match x.run s with
  | .ok a s' => some (a, s')
  | .error _ _ => none

theorem erase_run (x : EStateM ε σ α) (s : σ) :
    (erase x).run s = match x.run s with
      | .ok a s' => some (a, s')
      | .error _ _ => none := rfl

theorem run_eq_ok_iff {x : EStateM ε σ α} {s s' : σ} {a : α} :
    x.run s = .ok a s' ↔ (erase x).run s = some (a, s') := by
  rw [erase_run]
  cases x.run s <;> simp

theorem callOn_eq_ok {x : EStateM ε σ α} {s s' : σ} {a : α} :
    callOn x s = .ok (a, s') ↔ x.run s = .ok a s' := by
  unfold callOn
  cases x.run s <;> simp

theorem callOn_eq_ok_iff {x : EStateM ε σ α} {s : σ} {p : α × σ} :
    callOn x s = .ok p ↔ (erase x).run s = some p := by
  rw [erase_run]
  unfold callOn
  cases x.run s <;> simp

@[simp] theorem erase_pure (a : α) : erase (pure a : EStateM ε σ α) = pure a := rfl

@[simp] theorem erase_bind (x : EStateM ε σ α) (f : α → EStateM ε σ β) :
    erase (x >>= f) = erase x >>= fun a => erase (f a) := by
  ext s : 1
  rw [erase_run, EStateM.run_bind, StateT.run_bind, erase_run]
  cases x.run s with
  | ok a s' => rfl
  | error e s' => rfl

@[simp] theorem erase_lift (x : Except ε α) :
    erase (liftM x : EStateM ε σ α) = liftM x.toOption := by
  cases x <;> rfl

@[simp] theorem toOption_raiseIf (c : Prop) [Decidable c] (e : ε) :
    (raiseIf c e).toOption = guard (¬c) := by
  by_cases h : c
  · rw [raiseIf_pos h, guard, if_neg (not_not_intro h)]
    rfl
  · rw [raiseIf_neg h, guard, if_pos h]
    rfl

@[simp] theorem toOption_index (xs : List α) (i : ℕ) :
    (index xs i : Except (Raise ε) α).toOption = xs[i]? := by
  unfold index
  cases xs[i]? <;> rfl

@[simp] theorem toOption_getKey [DecidableEq ι] (d : List (ι × α)) (k : ι) :
    (getKey d k : Except (Raise ε) α).toOption = d.lookup k := by
  unfold getKey
  cases d.lookup k <;> rfl

@[simp] theorem toOption_pure (a : α) : (pure a : Except ε α).toOption = some a := rfl

@[simp] theorem toOption_bind (x : Except ε α) (f : α → Except ε β) :
    (x >>= f).toOption = x.toOption >>= fun a => (f a).toOption := by
  cases x <;> rfl

theorem toOption_foldlM (f : α → ι → Except ε α) (l : List ι) (a : α) :
    (l.foldlM f a).toOption = l.foldlM (fun a i => (f a i).toOption) a := by
  induction l generalizing a with
  | nil => rfl
  | cons i l ih => simp [List.foldlM_cons, ih]

@[simp] theorem erase_times (f : α → EStateM ε σ α) (n : ℕ) (a : α) :
    erase (times n f a) = times n (fun a => erase (f a)) a := by
  induction n generalizing a with
  | zero => rfl
  | succ n ih => simp [times_succ, ih]

theorem guard_eq_none {c : Prop} [Decidable c] (h : ¬c) : (guard c : Option Unit) = none := by
  rw [guard, if_neg h]
  rfl

/-- The body of a loop matters on the elements of the list only. -/
theorem foldlM_congr_mem {f g : α → ι → Option α} (l : List ι)
    (h : ∀ i ∈ l, ∀ a, f a i = g a i) (a : α) : l.foldlM f a = l.foldlM g a := by
  induction l generalizing a with
  | nil => rfl
  | cons i l ih =>
      rw [List.foldlM_cons, List.foldlM_cons, h i (by simp)]
      exact bind_congr fun a' => ih (fun j hj => h j (by simp [hj])) a'

/-- A loop that may fail, seen through a map of the values it carries. -/
theorem foldlM_map {f : α → ι → Option α} {g : β → ι → Option β} {φ : α → β}
    (h : ∀ a i, (f a i).map φ = g (φ a) i) (l : List ι) (a : α) :
    (l.foldlM f a).map φ = l.foldlM g (φ a) := by
  induction l generalizing a with
  | nil => rfl
  | cons i l ih =>
      rw [List.foldlM_cons, List.foldlM_cons, ← h a i]
      cases f a i with
      | none => rfl
      | some a' => exact ih a'

/-- An access behind its range check is the access that returns nothing when it is out of range. -/
theorem toOption_checked_index (xs : List α) {n i : ℕ} (hn : n = xs.length) (e : ε) :
    (do raiseIf (i ≥ n) e; index xs i : Except (Raise ε) α).toOption = xs[i]? := by
  subst hn
  by_cases h : i ≥ xs.length
  · rw [raiseIf_pos h, error_bind, List.getElem?_eq_none h]
    rfl
  · rw [raiseIf_neg h, ok_bind, toOption_index]

/-! ### Partial functions of the state -/

/-- Two continuations need to agree only on what can be read. -/
theorem bind_congr_of {x : StateT σ Option α} {f g : α → StateT σ Option β}
    (h : ∀ s a s', x.run s = some (a, s') → f a = g a) : x >>= f = x >>= g := by
  ext s : 1
  simp only [StateT.run_bind]
  cases hx : x.run s with
  | none => rfl
  | some p => simp [h s p.1 p.2 hx]

/-- A guard lifted from plain partial functions. -/
@[simp] theorem lift_guard (c : Prop) [Decidable c] :
    (liftM (guard c : Option Unit) : StateT σ Option Unit) = guard c := by
  by_cases h : c
  · rw [guard, guard, if_pos h, if_pos h]
    rfl
  · rw [guard, guard, if_neg h, if_neg h]
    rfl

theorem lift_bind (o : Option α) (f : α → Option β) :
    (liftM (o >>= f) : StateT σ Option β) = liftM o >>= fun a => liftM (f a) := by
  cases o <;> rfl

@[simp] theorem lift_pure (a : α) : (liftM (pure a : Option α) : StateT σ Option α) = pure a := rfl

@[simp] theorem lift_some_bind (a : α) (f : α → StateT σ Option β) :
    ((liftM (some a) : StateT σ Option α) >>= f) = f a := by
  ext s : 1
  rfl

@[simp] theorem lift_none_bind (f : α → StateT σ Option β) :
    ((liftM (none : Option α) : StateT σ Option α) >>= f) = liftM (none : Option β) := by
  ext s : 1
  rfl

/-- Nothing is returned after a guard that fails. -/
theorem guard_false_bind {c : Prop} [Decidable c] (h : ¬c) (x : StateT σ Option α) :
    (do (guard c : StateT σ Option Unit); x) = liftM (none : Option α) := by
  rw [guard, if_neg h]
  rfl

theorem guard_true_bind {c : Prop} [Decidable c] (h : c) (x : StateT σ Option α) :
    (do (guard c : StateT σ Option Unit); x) = x := by
  rw [guard, if_pos h, pure_bind]

/-- After a value that is missing, nothing is returned. -/
theorem bind_lift_none (x : StateT σ Option α) :
    (x >>= fun _ => (liftM (none : Option β) : StateT σ Option β)) = liftM (none : Option β) := by
  ext s : 1
  rw [StateT.run_bind]
  cases x.run s <;> rfl

/-- A value that may be missing can be computed before or after the rest is read: either way
nothing is returned when it is missing. -/
theorem lift_comm {γ : Type} (o : Option α) (x : StateT σ Option β)
    (k : α → β → StateT σ Option γ) :
    (do let a ← liftM o; let b ← x; k a b) = (do let b ← x; let a ← liftM o; k a b) := by
  ext s : 1
  cases o with
  | none =>
      simp only [StateT.run_bind]
      cases x.run s <;> rfl
  | some a =>
      simp only [StateT.run_bind]
      rfl

/-- A reading goes through when its first part does, and then the rest. -/
theorem run_bind_eq_some_iff {x : StateT σ Option α} {f : α → StateT σ Option β} {s s' : σ} {b : β} :
    (x >>= f).run s = some (b, s') ↔ ∃ a t, x.run s = some (a, t) ∧ (f a).run t = some (b, s') := by
  simp only [StateT.run_bind, Option.bind_eq_bind, Option.bind_eq_some_iff, Prod.exists]

@[simp] theorem run_guard_eq_some_iff {c : Prop} [Decidable c] {s s' : σ} {u : Unit} :
    (guard c : StateT σ Option Unit).run s = some (u, s') ↔ c ∧ s = s' := by
  by_cases h : c
  · simp [h]
  · rw [← lift_guard, guard_eq_none h]
    simp [h]

@[simp] theorem run_lift_eq_some_iff {o : Option α} {s s' : σ} {a : α} :
    (liftM o : StateT σ Option α).run s = some (a, s') ↔ o = some a ∧ s = s' := by
  cases o with
  | none => simp
  | some b => simp

@[simp] theorem run_pure_eq_some_iff {s s' : σ} {a b : α} :
    (pure a : StateT σ Option α).run s = some (b, s') ↔ a = b ∧ s = s' := by
  simp

/-- `n` readings of the same kind, in order. -/
def several (n : ℕ) (g : StateT σ Option α) : StateT σ Option (List α) :=
  match n with
  | 0 => pure []
  | n + 1 => do
      let a ← g
      let as ← several n g
      pure (a :: as)

theorem several_succ (n : ℕ) (g : StateT σ Option α) :
    several (n + 1) g = (do let a ← g; let as ← several n g; pure (a :: as)) := rfl

theorem several_add (m n : ℕ) (g : StateT σ Option α) :
    several (m + n) g = (do let as ← several m g; let bs ← several n g; pure (as ++ bs)) := by
  induction m with
  | zero => simp [several]
  | succ m ih => simp only [Nat.succ_add, several_succ, ih, bind_assoc, pure_bind, List.cons_append]

/-- What holds of every reading holds of every element of a list of readings. -/
theorem several_forall {P : α → Prop} {g : StateT σ Option α}
    (h : ∀ s a s', g.run s = some (a, s') → P a) (n : ℕ) :
    ∀ s as s', (several n g).run s = some (as, s') → as.length = n ∧ ∀ a ∈ as, P a := by
  induction n with
  | zero =>
      intro s as s' hr
      simp only [several, StateT.run_pure, Option.pure_def, Option.some.injEq, Prod.mk.injEq] at hr
      simp [← hr.1]
  | succ n ih =>
      intro s as s' hr
      simp only [several_succ, StateT.run_bind, Option.bind_eq_bind, Option.bind_eq_some_iff] at hr
      obtain ⟨⟨a, t⟩, ha, ⟨bs, u⟩, hbs, hr⟩ := hr
      simp only [StateT.run_pure, Option.pure_def, Option.some.injEq, Prod.mk.injEq] at hr
      obtain ⟨hlen, hall⟩ := ih t bs u hbs
      rw [← hr.1]
      exact ⟨by simp [hlen], List.forall_mem_cons.2 ⟨h s a t ha, hall⟩⟩

/-- Reading and computing by turns is reading everything first and computing then. -/
theorem times_read (n : ℕ) (g : StateT σ Option ι) (f : α → ι → Option α) (a : α) :
    times n (fun a => do let i ← g; liftM (f a i)) a =
      (do let is ← several n g; liftM (is.foldlM f a)) := by
  induction n generalizing a with
  | zero => rfl
  | succ n ih =>
      have hcomm : ∀ i, (do let a' ← liftM (f a i); let is ← several n g; liftM (is.foldlM f a')) =
          (do let is ← several n g; let a' ← liftM (f a i); liftM (is.foldlM f a') :
            StateT σ Option α) := fun i => lift_comm _ _ _
      have hlift : ∀ i (is : List ι), (liftM (f a i >>= fun a' => is.foldlM f a') :
          StateT σ Option α) = (do let a' ← liftM (f a i); liftM (is.foldlM f a')) := by
        intro i is
        cases f a i <;> rfl
      simp only [times_succ, several_succ, bind_assoc, pure_bind, List.foldlM_cons, ih, hcomm, hlift]

/-- Collecting the readings one by one. -/
theorem times_collect (n : ℕ) (g : StateT σ Option α) (as : List α) :
    times n (fun as => do let a ← g; pure (as ++ [a])) as =
      (do let bs ← several n g; pure (as ++ bs)) := by
  induction n generalizing as with
  | zero => simp [several]
  | succ n ih => simp only [times_succ, several_succ, bind_assoc, pure_bind, ih,
      List.append_assoc, List.singleton_append]

end Py
