/-
**Layouts: a reader and a writer of the same format.**

A reader is a partial function of the tokens that are still unread, as in the module on methods.  It
*recognises* the values of a set when it reads exactly what a writer puts down for one of them and
leaves what follows.  One equivalence says both halves of a round trip: a value that is written is
read back, and nothing but the writing of that value is read as it.  Layouts are put together in the
way readers are, and so is the equivalence.  Nothing here depends on a particular format.

Main definitions:

* `Py.Recognises` — a reader, the values it reads, and how these are written.

Main results:

* `Py.Recognises.bind` — a layout whose second part depends on the first, as behind a length;
* `Py.Recognises.repeated` — as many elements as a count says;
* `Py.Recognises.rows` — rows that are collected one by one, under different keys.
-/

import Wuchang.PyMethod
import Mathlib.Data.List.Nodup

set_option relaxedAutoImplicit false
set_option autoImplicit false

namespace Py

variable {τ α β κ : Type}

/-- The reader `g` reads a value of `P` from its writing `enc`, and reads nothing else. -/
def Recognises (g : StateT (List τ) Option α) (P : α → Prop) (enc : α → List τ) : Prop :=
  ∀ s a s', g.run s = some (a, s') ↔ P a ∧ s = enc a ++ s'

namespace Recognises

variable {g : StateT (List τ) Option α} {P : α → Prop} {enc : α → List τ}

theorem congr {P' : α → Prop} {enc' : α → List τ} (h : Recognises g P enc)
    (hP : ∀ a, P a ↔ P' a) (henc : ∀ a, P a → enc a = enc' a) : Recognises g P' enc' := by
  intro s a s'
  rw [h, ← hP]
  exact and_congr_right fun ha => by rw [henc a ha]

/-- A value is read without reading anything. -/
theorem ret (a : α) :
    Recognises (pure a : StateT (List τ) Option α) (· = a) (fun _ => []) := by
  intro s b s'
  rw [run_pure_eq_some_iff, List.nil_append, eq_comm]

/-- A second reader that depends on the first, where the value read last shows what was read
first. -/
theorem bind {h : α → StateT (List τ) Option β} {Q : α → β → Prop} {enc' : α → β → List τ}
    (proj : β → α) (hg : Recognises g P enc) (hh : ∀ a, P a → Recognises (h a) (Q a) (enc' a))
    (hproj : ∀ a b, Q a b → proj b = a) :
    Recognises (g >>= h) (fun b => P (proj b) ∧ Q (proj b) b)
      (fun b => enc (proj b) ++ enc' (proj b) b) := by
  intro s b s'
  rw [run_bind_eq_some_iff]
  constructor
  · rintro ⟨a, t, hread, hrest⟩
    obtain ⟨ha, rfl⟩ := (hg _ _ _).1 hread
    obtain ⟨hb, rfl⟩ := (hh a ha _ _ _).1 hrest
    obtain rfl := hproj a b hb
    exact ⟨⟨ha, hb⟩, (List.append_assoc _ _ _).symm⟩
  · rintro ⟨⟨ha, hb⟩, rfl⟩
    rw [List.append_assoc]
    exact ⟨_, _, (hg _ _ _).2 ⟨ha, rfl⟩, (hh _ ha _ _ _).2 ⟨hb, rfl⟩⟩

/-- The value that is read, in another form. -/
theorem map {f : α → β} (hg : Recognises g P enc) (inv : β → α) (hinv : ∀ a, P a → inv (f a) = a) :
    Recognises (do let a ← g; pure (f a)) (fun b => P (inv b) ∧ f (inv b) = b)
      (fun b => enc (inv b)) := by
  intro s b s'
  simp only [run_bind_eq_some_iff, run_pure_eq_some_iff]
  constructor
  · rintro ⟨a, t, hread, rfl, rfl⟩
    obtain ⟨ha, rfl⟩ := (hg _ _ _).1 hread
    rw [hinv a ha]
    exact ⟨⟨ha, rfl⟩, rfl⟩
  · rintro ⟨⟨ha, hb⟩, rfl⟩
    exact ⟨_, _, (hg _ _ _).2 ⟨ha, rfl⟩, hb, rfl⟩

/-- A number of readings of the same kind. -/
theorem repeated (hg : Recognises g P enc) (n : ℕ) :
    Recognises (several n g) (fun as => as.length = n ∧ ∀ a ∈ as, P a)
      (fun as => (as.map enc).flatten) := by
  induction n with
  | zero =>
      refine (ret ([] : List α)).congr (fun as => ?_) fun as has => ?_
      · rw [List.length_eq_zero_iff]
        exact ⟨fun h => ⟨h, by simp [h]⟩, fun h => h.1⟩
      · rw [has]
        rfl
  | succ n ih =>
      intro s as s'
      simp only [several_succ, run_bind_eq_some_iff, run_pure_eq_some_iff]
      constructor
      · rintro ⟨a, t, hread, bs, u, hreads, rfl, rfl⟩
        obtain ⟨ha, rfl⟩ := (hg _ _ _).1 hread
        obtain ⟨⟨hlen, hbs⟩, rfl⟩ := (ih _ _ _).1 hreads
        exact ⟨⟨by rw [List.length_cons, hlen], List.forall_mem_cons.2 ⟨ha, hbs⟩⟩, by simp⟩
      · rintro ⟨⟨hlen, has⟩, rfl⟩
        cases as with
        | nil => simp at hlen
        | cons a as =>
            obtain ⟨ha, has⟩ := List.forall_mem_cons.1 has
            rw [List.length_cons, Nat.add_right_cancel_iff] at hlen
            rw [List.map_cons, List.flatten_cons, List.append_assoc]
            exact ⟨a, _, (hg _ _ _).2 ⟨ha, rfl⟩, as, s', (ih _ _ _).2 ⟨⟨hlen, has⟩, rfl⟩, rfl, rfl⟩

/-- Rows that are collected one by one, each under a key that no row before it has. -/
theorem rows {key : α → κ} {step : List α → StateT (List τ) Option (List α)}
    (hstep : ∀ acc s r s', (step acc).run s = some (r, s') ↔
      ∃ a, (P a ∧ key a ∉ acc.map key) ∧ r = acc ++ [a] ∧ s = enc a ++ s') (n : ℕ) :
    ∀ acc s r s', (acc.map key).Nodup → ((times n step acc).run s = some (r, s') ↔
      ∃ as : List α, as.length = n ∧ (∀ a ∈ as, P a) ∧ ((acc ++ as).map key).Nodup ∧
        r = acc ++ as ∧ s = (as.map enc).flatten ++ s') := by
  induction n with
  | zero =>
      intro acc s r s' hacc
      rw [times_zero, run_pure_eq_some_iff]
      constructor
      · rintro ⟨rfl, rfl⟩
        exact ⟨[], rfl, by simp, by simpa using hacc, by simp, rfl⟩
      · rintro ⟨as, hlen, -, -, rfl, rfl⟩
        obtain rfl := List.length_eq_zero_iff.1 hlen
        simp
  | succ n ih =>
      intro acc s r s' hacc
      have hone : ∀ a, key a ∉ acc.map key → ((acc ++ [a]).map key).Nodup := by
        intro a ha
        rw [List.map_append]
        exact hacc.append (by simp) (by simpa using ha)
      rw [times_succ, run_bind_eq_some_iff]
      constructor
      · rintro ⟨acc', t, hread, hrest⟩
        obtain ⟨a, ⟨ha, hfresh⟩, rfl, rfl⟩ := (hstep _ _ _ _).1 hread
        obtain ⟨as, rfl, has, hnodup, rfl, rfl⟩ := (ih _ _ _ _ (hone a hfresh)).1 hrest
        refine ⟨a :: as, rfl, List.forall_mem_cons.2 ⟨ha, has⟩, ?_, ?_, ?_⟩
        · simpa using hnodup
        · simp
        · simp
      · rintro ⟨as, hlen, has, hnodup, rfl, rfl⟩
        cases as with
        | nil => simp at hlen
        | cons a as =>
            obtain ⟨ha, has⟩ := List.forall_mem_cons.1 has
            have hsplit : acc ++ a :: as = acc ++ [a] ++ as := by simp
            rw [hsplit] at hnodup
            have hfresh : key a ∉ acc.map key := by
              have h := (List.nodup_append.1 (List.map_append ▸ hnodup)).1
              rw [List.map_append] at h
              intro hmem
              exact (List.nodup_append.1 h).2.2 _ hmem _ (by simp) rfl
            refine ⟨acc ++ [a], (as.map enc).flatten ++ s', (hstep _ _ _ _).2 ⟨a, ⟨ha, hfresh⟩, rfl,
              by simp⟩, (ih _ _ _ _ (hone a hfresh)).2 ⟨as, by simpa using hlen, has, hnodup,
              hsplit, rfl⟩⟩

end Recognises

end Py
