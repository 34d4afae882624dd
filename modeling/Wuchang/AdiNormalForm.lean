/-
**What a normal form keeps.**

`_normalize_json` rebuilds every mapping under the stripped keys.  The result is a fixed point and has no
credential keys, whatever the value was.  A member is lost when two keys of one mapping differ in the white
space around them only: the later one overwrites the earlier one.

Main definitions:

* `Adi.Kept` — every mapping, at every depth, has as many members in the normal form as in the value;
* `Adi.KeysApart` — no two keys of one mapping are the same when they are stripped.

Main results:

* `Adi.kept_iff` — nothing is lost if and only if the keys are apart;
* `Adi.normalisation_iff` — the same, together with the fixed point and the credential keys.
-/

import Wuchang.AdiCanonical
import Mathlib.Data.List.Nodup
import Mathlib.Data.List.Perm.Subperm

set_option relaxedAutoImplicit false
set_option autoImplicit false

namespace Adi

open Py

/-! ### Keys -/

/-- `raw_key.strip()`, for the keys that are texts. -/
def strippedKey : PyKey → PyKey
  | .str s => .str (strip s)
  | .other => .other

theorem mem_keys_setKey {k : PyStr} {v : PyVal} {items : Items} {q : PyKey} :
    q ∈ (setKey k v items).map Prod.fst ↔ q = .str k ∨ q ∈ items.map Prod.fst := by
  induction items with
  | nil => simp [setKey]
  | cons p items ih =>
      rw [setKey]
      split_ifs with heq hlt
      · simp [heq]
      · simp
      · rw [List.map_cons, List.mem_cons, ih, List.map_cons, List.mem_cons]
        exact or_left_comm

/-- The key of a member is the stripped one. -/
theorem strippedKey_of_normalizeKey {path k : PyStr} {raw : PyKey} (h : normalizeKey path raw = .ok k) :
    strippedKey raw = .str k := by
  cases raw with
  | other => simp [normalizeKey, hold] at h
  | str raw =>
      simp only [normalizeKey, bind_eq_ok_iff, holdIf_eq_ok_iff, pure_eq_ok_iff, exists_const] at h
      obtain ⟨-, -, rfl⟩ := h
      rfl

/-- The keys of a mapping that is rebuilt are the stripped ones. -/
theorem mem_keys_normalizeItems {path : PyStr} {items done out : Items}
    (h : normalizeItems path done items = .ok out) (q : PyKey) :
    q ∈ out.map Prod.fst ↔ q ∈ done.map Prod.fst ∨ q ∈ items.map fun p => strippedKey p.1 := by
  induction items generalizing done with
  | nil =>
      obtain rfl := Except.ok.inj h
      simp
  | cons p items ih =>
      obtain ⟨raw, x⟩ := p
      simp only [normalizeItems, bind_eq_ok_iff] at h
      obtain ⟨k, hk, v, -, h⟩ := h
      rw [ih h, mem_keys_setKey, List.map_cons, List.mem_cons, strippedKey_of_normalizeKey hk, or_assoc]
      exact or_left_comm

/-- A member of a mapping that is rebuilt was there, or is the normal form of a member. -/
theorem of_getItem_normalizeItems {path : PyStr} {items done out : Items}
    (h : normalizeItems path done items = .ok out) {l : PyStr} {y : PyVal} (hy : getItem out l = some y) :
    getItem done l = some y ∨
      ∃ p ∈ items, strippedKey p.1 = .str l ∧ ∃ path', normalizeJson path' p.2 = .ok y := by
  induction items generalizing done with
  | nil =>
      obtain rfl := Except.ok.inj h
      exact .inl hy
  | cons p items ih =>
      obtain ⟨raw, x⟩ := p
      simp only [normalizeItems, bind_eq_ok_iff] at h
      obtain ⟨k, hk, v, hv, h⟩ := h
      rcases ih h with hdone | ⟨q, hq, hrest⟩
      · rw [getItem_setKey] at hdone
        split_ifs at hdone with heq
        · obtain rfl := Option.some.inj hdone
          exact .inr ⟨(raw, x), List.mem_cons_self,
            heq ▸ strippedKey_of_normalizeKey hk, _, hv⟩
        · exact .inl hdone
      · exact .inr ⟨q, List.mem_cons_of_mem _ hq, hrest⟩

/-! ### What is kept -/

/-- Two lists with the same elements have the same length, if one has no duplicates, only when the other has
none. -/
theorem length_eq_iff_nodup {α : Type} {xs ys : List α} (hxs : xs.Nodup) (h : ∀ a, a ∈ xs ↔ a ∈ ys) :
    xs.length = ys.length ↔ ys.Nodup := by
  constructor
  · intro hlen
    have hsub : xs.Subperm ys := hxs.subperm fun a ha => (h a).1 ha
    exact (hsub.perm_of_length_le hlen.ge).nodup_iff.1 hxs
  · intro hys
    exact ((List.perm_ext_iff_of_nodup hxs hys).2 h).length_eq

/-- Every mapping of the first value, at every depth, has as many members in the second one, which are those
under the stripped keys. -/
inductive Kept : PyVal → PyVal → Prop
  | none : Kept .none .none
  | bool (b : Bool) : Kept (.bool b) (.bool b)
  | int (n : ℤ) : Kept (.int n) (.int n)
  | float (x : PyFloat) : Kept (.float x) (.float x)
  | str (s : PyStr) : Kept (.str s) (.str s)
  | list (xs ys : List PyVal) (length : ys.length = xs.length)
      (h : ∀ (i : ℕ) (x y : PyVal), xs[i]? = some x → ys[i]? = some y → Kept x y) :
      Kept (.list xs) (.list ys)
  | dict (items out : Items) (length : out.length = items.length)
      (h : ∀ (k : PyStr) (x y : PyVal), (.str k, x) ∈ items → getItem out (strip k) = some y → Kept x y) :
      Kept (.dict items) (.dict out)

/-- No two keys of one mapping, at any depth, are the same when they are stripped. -/
inductive KeysApart : PyVal → Prop
  | none : KeysApart .none
  | bool (b : Bool) : KeysApart (.bool b)
  | int (n : ℤ) : KeysApart (.int n)
  | float (x : PyFloat) : KeysApart (.float x)
  | str (s : PyStr) : KeysApart (.str s)
  | list (xs : List PyVal) (h : ∀ x ∈ xs, KeysApart x) : KeysApart (.list xs)
  | dict (items : Items) (apart : (items.map fun p => strippedKey p.1).Nodup)
      (h : ∀ p ∈ items, KeysApart p.2) : KeysApart (.dict items)

/-- The elements of a list are normalised one by one. -/
theorem of_normalizeList {path : PyStr} {xs ys : List PyVal} {i : ℕ}
    (h : normalizeList path i xs = .ok ys) : ys.length = xs.length ∧
      ∀ (j : ℕ) (x : PyVal), xs[j]? = some x →
        ∃ y, ys[j]? = some y ∧ ∃ path', normalizeJson path' x = .ok y := by
  induction xs generalizing i ys with
  | nil =>
      obtain rfl := Except.ok.inj h
      exact ⟨rfl, fun j x hx => by simp at hx⟩
  | cons x xs ih =>
      simp only [normalizeList, bind_eq_ok_iff, pure_eq_ok_iff] at h
      obtain ⟨y, hy, ys, hys, rfl⟩ := h
      obtain ⟨hlen, helem⟩ := ih hys
      refine ⟨by simp [hlen], fun j x' hx' => ?_⟩
      cases j with
      | zero =>
          obtain rfl := Option.some.inj hx'
          exact ⟨y, rfl, _, hy⟩
      | succ j => exact helem j x' hx'

/-- **What is kept.**  Every mapping keeps its members if and only if its keys are apart. -/
theorem kept_iff (v : PyVal) : ∀ path w, normalizeJson path v = .ok w → (Kept v w ↔ KeysApart v) := by
  induction v using PyVal.induct with
  | none =>
      intro path w h
      obtain rfl := Except.ok.inj h
      exact ⟨fun _ => .none, fun _ => .none⟩
  | bool b =>
      intro path w h
      obtain rfl := Except.ok.inj h
      exact ⟨fun _ => .bool b, fun _ => .bool b⟩
  | int n =>
      intro path w h
      obtain rfl := Except.ok.inj h
      exact ⟨fun _ => .int n, fun _ => .int n⟩
  | float x =>
      intro path w h
      simp only [normalizeJson, bind_eq_ok_iff, pure_eq_ok_iff] at h
      obtain ⟨-, -, rfl⟩ := h
      exact ⟨fun _ => .float x, fun _ => .float x⟩
  | str s =>
      intro path w h
      obtain rfl := Except.ok.inj h
      exact ⟨fun _ => .str s, fun _ => .str s⟩
  | other =>
      intro path w h
      cases h
  | list xs ih =>
      intro path w h
      simp only [normalizeJson, bind_eq_ok_iff, pure_eq_ok_iff] at h
      obtain ⟨ys, hys, rfl⟩ := h
      obtain ⟨hlen, helem⟩ := of_normalizeList hys
      constructor
      · intro hkept
        cases hkept with
        | list _ _ _ hkept =>
            refine .list xs fun x hx => ?_
            obtain ⟨j, hj⟩ := List.mem_iff_getElem?.1 hx
            obtain ⟨y, hy, path', hnorm⟩ := helem j x hj
            exact (ih x hx path' y hnorm).1 (hkept j x y hj hy)
      · intro hapart
        cases hapart with
        | list _ hapart =>
            refine .list xs ys hlen fun j x y hx hy => ?_
            obtain ⟨y', hy', path', hnorm⟩ := helem j x hx
            obtain rfl := Option.some.inj (hy.symm.trans hy')
            have hmem := List.mem_of_getElem? hx
            exact (ih x hmem path' y hnorm).2 (hapart x hmem)
  | dict items ih =>
      intro path w h
      have hnormal : Normal w := normal_of_normalize _ _ _ h
      simp only [normalizeJson, bind_eq_ok_iff, pure_eq_ok_iff] at h
      obtain ⟨out, hout, rfl⟩ := h
      have hkeys := mem_keys_normalizeItems hout
      have hnodup : (out.map Prod.fst).Nodup := by
        cases hnormal with
        | dict _ hsorted _ _ =>
            refine List.Pairwise.imp ?_ hsorted
            rintro a b hlt rfl
            exact PyKey.lt_irrefl a hlt
      have hlength : out.length = items.length ↔ (items.map fun p => strippedKey p.1).Nodup := by
        rw [← length_eq_iff_nodup hnodup fun q => by rw [hkeys q]; simp, List.length_map, List.length_map]
      -- when the keys are apart, the member under a stripped key is the normal form of the only one with it
      have hmember : (items.map fun p => strippedKey p.1).Nodup → ∀ k x y, (.str k, x) ∈ items →
          getItem out (strip k) = some y → ∃ path', normalizeJson path' x = .ok y := by
        intro hapart k x y hx hy
        rcases of_getItem_normalizeItems hout hy with hnone | ⟨p, hp, hkey, hnorm⟩
        · cases hnone
        · obtain rfl : p = (.str k, x) := List.inj_on_of_nodup_map hapart hp hx hkey
          exact hnorm
      constructor
      · intro hkept
        cases hkept with
        | dict _ _ hlen hkept =>
            have hapart := hlength.1 hlen
            refine .dict items hapart fun p hp => ?_
            have hkey : strippedKey p.1 ∈ out.map Prod.fst :=
              (hkeys _).2 (.inr (List.mem_map_of_mem hp))
            obtain ⟨q, hq, heq⟩ := List.mem_map.1 hkey
            obtain ⟨raw, x⟩ := p
            cases raw with
            | other =>
                cases hnormal with
                | dict _ _ hstr _ =>
                    obtain ⟨s, hs, -⟩ := hstr q hq
                    rw [hs] at heq
                    cases heq
            | str k =>
                cases hget : getItem out (strip k) with
                | none => exact absurd heq (ne_of_getItem_none hget q hq)
                | some y =>
                    obtain ⟨path', hnorm⟩ := hmember hapart k x y hp hget
                    exact (ih _ hp path' y hnorm).1 (hkept k x y hp hget)
      · intro hapart
        cases hapart with
        | dict _ hapart hrest =>
            refine .dict items out (hlength.2 hapart) fun k x y hx hy => ?_
            obtain ⟨path', hnorm⟩ := hmember hapart k x y hx hy
            exact (ih _ hx path' y hnorm).2 (hrest _ hx)

/-! ### Normalisation -/

/-- A key that is no credential key when it is stripped and folded. -/
def Allowed (k : PyStr) : Prop := isForbidden (strip k) = false

theorem Normal.allowed {v : PyVal} (h : Normal v) : Json Allowed v := by
  induction h with
  | none => exact .none
  | bool b => exact .bool b
  | int n => exact .int n
  | float x hx => exact .float x hx
  | str s => exact .str s
  | list xs _ ih => exact .list xs ih
  | dict items sorted keys _ ih =>
      refine .dict items sorted (fun p hp => ?_) ih
      obtain ⟨s, hs, hclean⟩ := keys p hp
      refine ⟨s, hs, ?_⟩
      rw [Allowed, hclean.1]
      exact hclean.2.2

/-- **Normalisation.**  The normal form is a fixed point and has no credential keys; nothing is lost if and
only if no two keys of one mapping are the same when they are stripped. -/
theorem normalisation_iff (v w : PyVal) (h : normalize v = .ok w) :
    (Kept v w ∧ normalize w = .ok w ∧ Json Allowed w) ↔ KeysApart v := by
  have hnormal : Normal w := normal_of_normalize v _ w h
  rw [← kept_iff v _ w h]
  exact ⟨fun hall => hall.1, fun hkept => ⟨hkept, normalize_of_normal hnormal _, hnormal.allowed⟩⟩

/-- A mapping with one member. -/
theorem normalisation_iff_sample : Kept (obj [("a", .int 1)]) (obj [("a", .int 1)]) := by
  have hnorm : normalize (obj [("a", .int 1)]) = .ok (obj [("a", .int 1)]) := rfl
  refine ((normalisation_iff _ _ hnorm).2 (.dict _ (by decide) fun p hp => ?_)).1
  obtain rfl := List.mem_singleton.1 hp
  exact .int 1

/-- Two keys that differ in a space: one of the members is lost. -/
theorem normalisation_loses : ¬∀ v w, normalize v = .ok w →
    Kept v w ∧ normalize w = .ok w ∧ Json Allowed w := by
  intro hall
  have hnorm : normalize (obj [(" a", .int 1), ("a", .int 2)]) = .ok (obj [("a", .int 2)]) := rfl
  cases (hall _ _ hnorm).1 with
  | dict _ _ hlen _ => exact absurd hlen (by decide)

end Adi
