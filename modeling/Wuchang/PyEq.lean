/-
**Equality of JSON values.**

`v == w` in Python for what a JSON file can hold, the three numbers that are not finite included: a
number equals another of any kind with the same exact value, an infinity equals itself, and a NaN equals
nothing.  The items of a dictionary are kept in the order of their keys, so that two dictionaries are
compared item by item.

Main definitions:

* `Py.numOf` — the number a value is;
* `Py.pyEq` — `v == w`;
* `Py.inTexts` — `v in {…}` for a set of texts;
* `Py.updateItems` — `d.update(changes)`.

Main results:

* `Py.pyEq_symm`, `Py.pyEq_trans` — equality is symmetric and transitive;
* `Py.pyEq_str` — nothing but the text itself equals a text.
-/

import Wuchang.PyValue

set_option relaxedAutoImplicit false
set_option autoImplicit false

namespace Py

/-- A number, as far as comparisons tell. -/
inductive Num where
  | finite (q : ℚ)
  | infinite (neg : Bool)
  | nan
  deriving DecidableEq

/-- The number a value is; a Boolean is one as well. -/
def numOf : PyVal → Option Num
  | .bool b => some (.finite (if b then 1 else 0))
  | .int n => some (.finite n)
  | .float x =>
      some (if x.isFinite then .finite x.value else if x.frac = 0 then .infinite x.neg else .nan)
  | _ => none

/-- Equality of numbers. -/
def numEq (a b : Num) : Bool := a = b && a ≠ .nan

mutual

/-- `v == w` -/
def pyEq : PyVal → PyVal → Bool
  | .none, .none => true
  | .str s, .str t => s = t
  | .list xs, .list ys => pyEqList xs ys
  | .dict xs, .dict ys => pyEqItems xs ys
  | v, w =>
      match numOf v, numOf w with
      | some a, some b => numEq a b
      | _, _ => false

/-- Equality of lists. -/
def pyEqList : List PyVal → List PyVal → Bool
  | [], [] => true
  | x :: xs, y :: ys => pyEq x y && pyEqList xs ys
  | _, _ => false

/-- Equality of sorted items. -/
def pyEqItems : Items → Items → Bool
  | [], [] => true
  | (k, v) :: xs, (l, w) :: ys => k = l && pyEq v w && pyEqItems xs ys
  | _, _ => false

end

attribute [local grind =] pyEq pyEqList pyEqItems

/-- Nothing but the text itself equals a text. -/
@[simp] theorem pyEq_str {v : PyVal} {s : PyStr} : pyEq v (.str s) = true ↔ v = .str s := by
  cases v <;> simp [pyEq, numOf]

@[simp] theorem pyEq_lit {v : PyVal} {s : String} : pyEq v (lit s) = true ↔ v = lit s := pyEq_str

theorem numEq_symm {a b : Num} (h : numEq a b = true) : numEq b a = true := by
  simp only [numEq, Bool.and_eq_true, decide_eq_true_eq] at h ⊢
  exact ⟨h.1.symm, h.1 ▸ h.2⟩

theorem numEq_trans {a b c : Num} (hab : numEq a b = true) (hbc : numEq b c = true) :
    numEq a c = true := by
  simp only [numEq, Bool.and_eq_true, decide_eq_true_eq] at hab hbc ⊢
  exact ⟨hab.1.trans hbc.1, hab.2⟩

/-- Two values that are not both texts, lists or dictionaries are equal as numbers. -/
theorem pyEq_of_num {v w : PyVal} {a : Num} (hv : numOf v = some a) :
    pyEq v w = true ↔ ∃ b, numOf w = some b ∧ numEq a b = true := by
  cases v <;> simp [numOf] at hv <;> subst hv <;> cases w <;> simp [pyEq, numOf]

theorem pyEqList_symm {xs ys : List PyVal} (ih : ∀ x ∈ xs, ∀ y, pyEq x y = true → pyEq y x = true)
    (h : pyEqList xs ys = true) : pyEqList ys xs = true := by
  induction xs generalizing ys with
  | nil =>
      cases ys with
      | nil => exact h
      | cons y ys => cases h
  | cons x xs ihxs =>
      cases ys with
      | nil => cases h
      | cons y ys =>
          rw [pyEqList, Bool.and_eq_true] at h ⊢
          exact ⟨ih x (by simp) y h.1, ihxs (fun z hz => ih z (by simp [hz])) h.2⟩

theorem pyEqItems_symm {xs ys : Items} (ih : ∀ p ∈ xs, ∀ y, pyEq p.2 y = true → pyEq y p.2 = true)
    (h : pyEqItems xs ys = true) : pyEqItems ys xs = true := by
  induction xs generalizing ys with
  | nil =>
      cases ys with
      | nil => exact h
      | cons y ys => cases h
  | cons x xs ihxs =>
      cases ys with
      | nil => cases h
      | cons y ys =>
          rw [pyEqItems, Bool.and_eq_true, Bool.and_eq_true, decide_eq_true_eq] at h ⊢
          exact ⟨⟨h.1.1.symm, ih x (by simp) y.2 h.1.2⟩, ihxs (fun z hz => ih z (by simp [hz])) h.2⟩

/-- Equality is symmetric. -/
theorem pyEq_symm {v w : PyVal} (h : pyEq v w = true) : pyEq w v = true := by
  have hnum : ∀ {v w : PyVal} {a : Num}, numOf v = some a → pyEq v w = true → pyEq w v = true := by
    intro v w a hv h
    obtain ⟨b, hw, hab⟩ := (pyEq_of_num hv).1 h
    exact (pyEq_of_num hw).2 ⟨a, hv, numEq_symm hab⟩
  induction v using PyVal.induct generalizing w with
  | none => cases w <;> simp_all [pyEq, numOf]
  | bool b => exact hnum rfl h
  | int n => exact hnum rfl h
  | float x => exact hnum rfl h
  | str s => cases w <;> simp_all [pyEq, numOf]
  | list xs ih =>
      cases w with
      | list ys => exact pyEqList_symm (fun x hx y hxy => ih x hx hxy) h
      | _ => simp [pyEq, numOf] at h
  | dict items ih =>
      cases w with
      | dict items' => exact pyEqItems_symm (fun p hp y hpy => ih p hp hpy) h
      | _ => simp [pyEq, numOf] at h
  | other => cases w <;> simp [pyEq, numOf] at h

theorem pyEqList_trans {xs ys zs : List PyVal}
    (ih : ∀ x ∈ xs, ∀ y z, pyEq x y = true → pyEq y z = true → pyEq x z = true)
    (hxy : pyEqList xs ys = true) (hyz : pyEqList ys zs = true) : pyEqList xs zs = true := by
  induction xs generalizing ys zs with
  | nil =>
      cases ys with
      | nil => exact hyz
      | cons y ys => cases hxy
  | cons x xs ihxs =>
      cases ys with
      | nil => cases hxy
      | cons y ys =>
          cases zs with
          | nil => cases hyz
          | cons z zs =>
              rw [pyEqList, Bool.and_eq_true] at hxy hyz ⊢
              exact ⟨ih x (by simp) y z hxy.1 hyz.1, ihxs (fun u hu => ih u (by simp [hu])) hxy.2 hyz.2⟩

theorem pyEqItems_trans {xs ys zs : Items}
    (ih : ∀ p ∈ xs, ∀ y z, pyEq p.2 y = true → pyEq y z = true → pyEq p.2 z = true)
    (hxy : pyEqItems xs ys = true) (hyz : pyEqItems ys zs = true) : pyEqItems xs zs = true := by
  induction xs generalizing ys zs with
  | nil =>
      cases ys with
      | nil => exact hyz
      | cons y ys => cases hxy
  | cons x xs ihxs =>
      cases ys with
      | nil => cases hxy
      | cons y ys =>
          cases zs with
          | nil => cases hyz
          | cons z zs =>
              rw [pyEqItems, Bool.and_eq_true, Bool.and_eq_true, decide_eq_true_eq] at hxy hyz ⊢
              exact ⟨⟨hxy.1.1.trans hyz.1.1, ih x (by simp) y.2 z.2 hxy.1.2 hyz.1.2⟩,
                ihxs (fun u hu => ih u (by simp [hu])) hxy.2 hyz.2⟩

/-- Equality is transitive. -/
theorem pyEq_trans {u v w : PyVal} (huv : pyEq u v = true) (hvw : pyEq v w = true) :
    pyEq u w = true := by
  have hnum : ∀ {u v w : PyVal} {a : Num}, numOf u = some a → pyEq u v = true → pyEq v w = true →
      pyEq u w = true := by
    intro u v w a hu huv hvw
    obtain ⟨b, hv, hab⟩ := (pyEq_of_num hu).1 huv
    obtain ⟨c, hw, hbc⟩ := (pyEq_of_num hv).1 hvw
    exact (pyEq_of_num hu).2 ⟨c, hw, numEq_trans hab hbc⟩
  induction u using PyVal.induct generalizing v w with
  | none =>
      cases v with
      | none => exact hvw
      | _ => simp [pyEq, numOf] at huv
  | bool b => exact hnum rfl huv hvw
  | int n => exact hnum rfl huv hvw
  | float x => exact hnum rfl huv hvw
  | str s =>
      obtain rfl := pyEq_str.1 (pyEq_symm huv)
      exact hvw
  | list xs ih =>
      cases v with
      | list ys =>
          cases w with
          | list zs => exact pyEqList_trans (fun x hx y z hxy hyz => ih x hx hxy hyz) huv hvw
          | _ => simp [pyEq, numOf] at hvw
      | _ => simp [pyEq, numOf] at huv
  | dict items ih =>
      cases v with
      | dict items' =>
          cases w with
          | dict items'' => exact pyEqItems_trans (fun p hp y z hpy hyz => ih p hp hpy hyz) huv hvw
          | _ => simp [pyEq, numOf] at hvw
      | _ => simp [pyEq, numOf] at huv
  | other => cases v <;> simp [pyEq, numOf] at huv

/-! ### Sets of texts -/

/-- A value that can be an element of a set. -/
def isHashable : PyVal → Bool
  | .list _ => false
  | .dict _ => false
  | _ => true

/-- Equal values are true or false alike. -/
theorem truthy_of_pyEq {v w : PyVal} (h : pyEq v w = true) : v.truthy = w.truthy := by
  have hnum : ∀ {u : PyVal} {a : Num}, numOf u = some a → (u.truthy = true ↔ a ≠ .finite 0) := by
    intro u a hu
    cases u with
    | bool b =>
        obtain rfl := Option.some.inj hu
        cases b <;> simp [PyVal.truthy]
    | int n =>
        obtain rfl := Option.some.inj hu
        simp [PyVal.truthy]
    | float x =>
        obtain rfl := Option.some.inj hu
        rw [PyVal.truthy]
        split_ifs with hfinite hfrac
        · simp [hfinite]
        · simp [hfinite]
        · simp [hfinite]
    | _ => cases hu
  cases hv : numOf v with
  | some a =>
      obtain ⟨b, hb, hab⟩ := (pyEq_of_num hv).1 h
      simp only [numEq, Bool.and_eq_true, decide_eq_true_eq] at hab
      rw [Bool.eq_iff_iff, hnum hv, hnum hb, hab.1]
  | none =>
      cases v with
      | none => cases w <;> simp_all [pyEq, numOf]
      | str s => cases w <;> simp_all [pyEq, numOf]
      | list xs =>
          cases w with
          | list ys => cases xs <;> cases ys <;> simp_all [pyEq, pyEqList, PyVal.truthy]
          | _ => simp [pyEq, numOf] at h
      | dict xs =>
          cases w with
          | dict ys => cases xs <;> cases ys <;> simp_all [pyEq, pyEqItems, PyVal.truthy]
          | _ => simp [pyEq, numOf] at h
      | other => cases w <;> simp [pyEq, numOf] at h
      | _ => cases hv

/-- A key is there if and only if it has a value. -/
theorem exists_key_iff {items : Items} {k : String} :
    (∃ p ∈ items, p.1 = key k) ↔ getItem items (cp k) ≠ none := by
  constructor
  · rintro ⟨p, hp, hkey⟩ hnone
    exact ne_of_getItem_none hnone p hp hkey
  · intro h
    obtain ⟨v, hv⟩ := Option.ne_none_iff_exists'.1 h
    exact exists_of_getItem hv

/-- `v in {…}` for a set of texts; a value that cannot be hashed raises. -/
def inTexts {ε : Type} (v : PyVal) (texts : List String) : Except (Raise ε) Bool :=
  if isHashable v then .ok (texts.any fun t => pyEq v (lit t)) else .error (.builtin .typeError)

/-- `set(v)`, as the test whether a text is in it. -/
def setOf {ε : Type} (v : PyVal) : Except (Raise ε) (String → Bool) :=
  match v with
  | .dict items => .ok fun k => items.any fun p => p.1 = key k
  | .list xs =>
      if xs.all isHashable then .ok fun k => xs.any fun x => pyEq x (lit k)
      else .error (.builtin .typeError)
  | .str s => .ok fun k => s.any fun c => [c] = cp k
  | _ => .error (.builtin .typeError)

theorem inTexts_eq_ok_iff {ε : Type} {v : PyVal} {texts : List String} :
    (inTexts v texts : Except (Raise ε) Bool) = .ok true ↔ ∃ t ∈ texts, v = lit t := by
  rw [inTexts]
  split_ifs with h
  · simp
  · refine iff_of_false (by simp) ?_
    rintro ⟨t, -, rfl⟩
    exact h rfl

/-! ### Keyword arguments -/

/-- Keyword arguments, each of them once. -/
abbrev Kwargs := List (PyStr × PyVal)

/-- `d.update(changes)` -/
def updateItems (items : Items) (changes : Kwargs) : Items :=
  changes.foldr (fun change items => setKey change.1 change.2 items) items

/-- A key that is changed has the new value, another one the old. -/
theorem getItem_updateItems (items : Items) (changes : Kwargs) (k : PyStr) :
    getItem (updateItems items changes) k = (changes.lookup k).or (getItem items k) := by
  induction changes with
  | nil => rfl
  | cons change changes ih =>
      obtain ⟨l, v⟩ := change
      rw [updateItems, List.foldr_cons, getItem_setKey, List.lookup_cons]
      split_ifs with h
      · subst h
        simp
      · rw [beq_false_of_ne h]
        exact ih

end Py
