/-
**Hashes of content.**

Packets are hashed in a normal form that no platform can change: texts and keys are normalised, two keys that
come together are an error, and so is every float.  An error names the path of the value it is about.

Main definitions:

* `ContentHash.normalizeContent` — the normal form;
* `ContentHash.canonicalSha256` — its hash;
* `ContentHash.isAscii` — a value that is its own normal form.

Main results:

* `ContentHash.normalizeContent_ascii`, `ContentHash.canonicalSha256_ascii` — such a value is not changed and has
  a hash.
-/

import Wuchang.CoreEncoding

set_option relaxedAutoImplicit false
set_option autoImplicit false

namespace ContentHash

open Py
open CoreEncoding (Normal Fault)

/-- `raise FieldApplicationError(reason_code, path)` -/
def failAt {α : Type} (reasonCode : String) (path : PyStr) : Except Fault α := .error (.own ⟨reasonCode, path⟩)

mutual

/-- `normalize_content` -/
def normalizeContent (nfc : Normal) (path : PyStr) : PyVal → Except Fault PyVal
  | .float x =>
      failAt (if x.isFinite then "FLOAT_CONTENT_REQUIRES_STRING" else "NON_FINITE_NUMBER_BLOCKED") path
  | .str s => .ok (.str (nfc s))
  | .list xs => do
      let ys ← normalizeList nfc path 0 xs
      pure (.list ys)
  | .dict items => do
      let ys ← normalizeItems nfc path [] items
      pure (.dict ys)
  | .other => failAt "UNSUPPORTED_CONTENT_TYPE" path
  | v => .ok v

/-- The elements of a list, from an index on. -/
def normalizeList (nfc : Normal) (path : PyStr) (i : ℕ) : List PyVal → Except Fault (List PyVal)
  | [] => .ok []
  | x :: xs => do
      let y ← normalizeContent nfc (path ++ cp "[" ++ intText i ++ cp "]") x
      let ys ← normalizeList nfc path (i + 1) xs
      pure (y :: ys)

/-- The items of a dictionary, added to those that are normalised already. -/
def normalizeItems (nfc : Normal) (path : PyStr) (done : Items) : Items → Except Fault Items
  | [] => .ok done
  | (.other, _) :: _ => failAt "NON_STRING_KEY_BLOCKED" path
  | (.str raw, v) :: items => do
      let k := nfc raw
      if (getItem done k).isSome then failAt "NORMALIZED_KEY_COLLISION" (path ++ cp "." ++ k)
      else do
        let w ← normalizeContent nfc (path ++ cp "." ++ k) v
        normalizeItems nfc path (setKey k w done) items

end

/-- `canonical_sha256` -/
def canonicalSha256 (nfc : Normal) (v : PyVal) : Except Fault PyStr := do
  let normalized ← normalizeContent nfc (cp "$") v
  let bytes ← encodeUtf8 (PyJson.write PyJson.compact normalized)
  pure (Sha256.hexdigest bytes)

/-! ### Values in normal form -/

mutual

/-- The texts and the keys of a value are ASCII, the keys are in their order, and there are no floats. -/
def isAscii : PyVal → Bool
  | .str s => s.all fun c => c < 128
  | .list xs => isAsciiList xs
  | .dict items => decide (Sorted items) && isAsciiItems items
  | .float _ => false
  | .other => false
  | _ => true

/-- The elements of a list. -/
def isAsciiList : List PyVal → Bool
  | [] => true
  | x :: xs => isAscii x && isAsciiList xs

/-- The items of a dictionary. -/
def isAsciiItems : Items → Bool
  | [] => true
  | (.str k, v) :: items => (k.all fun c => c < 128) && isAscii v && isAsciiItems items
  | (.other, _) :: _ => false

end

theorem encodable_of_ascii {s : PyStr} (h : (s.all fun c => c < 128) = true) : Encodable s := by
  intro c hc
  have hlt : c < 128 := by simpa using List.all_eq_true.1 h c hc
  unfold IsSurrogate
  omega

theorem isAsciiList_iff {xs : List PyVal} : isAsciiList xs = true ↔ ∀ x ∈ xs, isAscii x = true := by
  induction xs with
  | nil => simp [isAsciiList]
  | cons x xs ih => rw [isAsciiList, Bool.and_eq_true, ih, List.forall_mem_cons]

theorem isAsciiItems_iff {items : Items} : isAsciiItems items = true ↔
    ∀ p ∈ items, ∃ k, p.1 = .str k ∧ (k.all fun c => c < 128) = true ∧ isAscii p.2 = true := by
  induction items with
  | nil => simp [isAsciiItems]
  | cons p items ih =>
      obtain ⟨k, v⟩ := p
      rw [List.forall_mem_cons, ← ih]
      cases k with
      | str k => simp [isAsciiItems, and_assoc]
      | other => simp [isAsciiItems]

/-- Such a value is plain. -/
theorem plain_of_isAscii {v : PyVal} (h : isAscii v = true) : PyJson.Plain Encodable v := by
  induction v using PyVal.induct with
  | none => exact .none
  | bool b => exact .bool b
  | int n => exact .int n
  | float x => cases h
  | other => cases h
  | str s => exact .str s (encodable_of_ascii h)
  | list xs ih => exact .list xs fun x hx => ih x hx (isAsciiList_iff.1 h x hx)
  | dict items ih =>
      have hitems := isAsciiItems_iff.1 (Bool.and_eq_true_iff.1 h).2
      refine .dict items (fun p hp => ?_) fun p hp => ?_
      · obtain ⟨k, hk, hascii, -⟩ := hitems p hp
        exact ⟨k, hk, encodable_of_ascii hascii⟩
      · obtain ⟨-, -, -, hv⟩ := hitems p hp
        exact ih p hp hv

section Normal

variable {nfc : Normal} (hascii : ∀ s : PyStr, (∀ c ∈ s, c < 128) → nfc s = s)
include hascii

theorem nfc_of_all {s : PyStr} (h : (s.all fun c => c < 128) = true) : nfc s = s :=
  hascii s fun c hc => by simpa using List.all_eq_true.1 h c hc

/-- The loop over the items puts every item behind those that are there. -/
theorem normalizeItems_ascii {path : PyStr} {items done : Items}
    (ih : ∀ p ∈ items, ∀ path, isAscii p.2 = true → normalizeContent nfc path p.2 = .ok p.2)
    (h : isAsciiItems items = true) (hsorted : Sorted (done ++ items)) :
    normalizeItems nfc path done items = .ok (done ++ items) := by
  induction items generalizing done with
  | nil => rw [normalizeItems, List.append_nil]
  | cons p items ihitems =>
      obtain ⟨k, v⟩ := p
      cases k with
      | other => cases h
      | str k =>
          simp only [isAsciiItems, Bool.and_eq_true] at h
          have hbefore : ∀ q ∈ done, q.1.lt (.str k) := by
            intro q hq
            rw [Sorted, List.map_append, List.pairwise_append] at hsorted
            exact hsorted.2.2 q.1 (List.mem_map_of_mem hq) _ (by simp)
          have hnone : getItem done k = none := by
            rw [Option.eq_none_iff_forall_ne_some]
            intro w hw
            exact PyKey.lt_irrefl _ (hbefore _ (item_mem_of_getItem hw))
          rw [normalizeItems, nfc_of_all hascii h.1.1]
          simp only [hnone, Option.isSome_none, Bool.false_eq_true, if_false]
          rw [ih (.str k, v) (by simp) _ h.1.2, ok_bind, setKey_of_lt hbefore]
          have happend : done ++ (.str k, v) :: items = (done ++ [(.str k, v)]) ++ items := by simp
          rw [happend] at hsorted ⊢
          exact ihitems (fun q hq => ih q (by simp [hq])) h.2 hsorted

/-- Such a value is its own normal form. -/
theorem normalizeContent_ascii {v : PyVal} (h : isAscii v = true) (path : PyStr) :
    normalizeContent nfc path v = .ok v := by
  induction v using PyVal.induct generalizing path with
  | none => rfl
  | bool b => rfl
  | int n => rfl
  | float x => cases h
  | other => cases h
  | str s => rw [normalizeContent, nfc_of_all hascii h]
  | list xs ih =>
      rw [isAscii] at h
      have hloop : ∀ i, normalizeList nfc path i xs = .ok xs := by
        induction xs with
        | nil => exact fun i => rfl
        | cons x xs ihxs =>
            intro i
            obtain ⟨hx, hxs⟩ := Bool.and_eq_true_iff.1 h
            rw [normalizeList, ih x (by simp) hx, ok_bind, ihxs (fun y hy => ih y (by simp [hy])) hxs]
            rfl
      rw [normalizeContent, hloop]
      rfl
  | dict items ih =>
      obtain ⟨hsorted, hitems⟩ := Bool.and_eq_true_iff.1 h
      have hloop : normalizeItems nfc path [] items = .ok ([] ++ items) := normalizeItems_ascii hascii
        (fun p hp path hv => ih p hp hv path) hitems (of_decide_eq_true hsorted)
      rw [normalizeContent, hloop]
      rfl

/-- Such a value has a hash. -/
theorem canonicalSha256_ascii {v : PyVal} (h : isAscii v = true) :
    ∃ sha, canonicalSha256 nfc v = .ok sha ∧ Sha256.isHex64 sha = true := by
  have hwritten : Encodable (PyJson.write PyJson.compact v) :=
    (plain_of_isAscii h).encodable_write (encodable_cp _) (encodable_cp _)
  rw [canonicalSha256, normalizeContent_ascii hascii h, ok_bind, encodeUtf8_ok hwritten]
  exact ⟨_, rfl, Sha256.isHex64_hexdigest _⟩

end Normal

end ContentHash
