/-
**JSON-like values as Python holds them.**

The arguments of the verified code are arbitrary objects; what it keeps are JSON values.  A value is
modelled as the tree of what `isinstance` can tell apart.  The items of a dictionary are a list; no
operation of the code observes their order, so a dictionary the code has built is represented by the
list that is sorted by key, and equal dictionaries are equal lists.

Equality of numbers is Python's: `True`, `1` and `1.0` are equal, although their JSON texts differ.

Main definitions:

* `Py.PyVal`, `Py.PyKey` — values, and keys of dictionaries;
* `Py.obj` — a dictionary literal;
* `Py.PyVal.get`, `Py.setKey`, `Py.eraseKey` — `d.get(k)`, `d[k] = v` and `d.pop(k, None)`;
* `Py.PyVal.eq` — the operator `==`;
* `Py.PyVal.dumps` — `json.dumps` with sorted keys, compact separators and raw non-ASCII text;
* `Py.Json` — the values with a canonical form, for a given set of admissible keys.

Main results:

* `Py.PyVal.induct` — induction over a value;
* `Py.Json.eq_refl` — a JSON value equals itself;
* `Py.sorted_setKey` — the canonical form is kept.
-/

import Wuchang.PyFloat

set_option relaxedAutoImplicit false
set_option autoImplicit false

namespace Py

/-- A key of a dictionary: a text, or anything else that can be hashed. -/
inductive PyKey where
  | str (s : PyStr)
  | other
  deriving DecidableEq, Repr

/-- A value, as far as `isinstance` can tell: lists and tuples are not told apart by the code, and
`other` is an object that is none of these. -/
inductive PyVal where
  | none
  | bool (b : Bool)
  | int (n : ℤ)
  | float (x : PyFloat)
  | str (s : PyStr)
  | list (xs : List PyVal)
  | dict (items : List (PyKey × PyVal))
  | other
  deriving Repr

/-- The items of a dictionary. -/
abbrev Items := List (PyKey × PyVal)

/-- The key of a literal. -/
def key (s : String) : PyKey := .str (cp s)

/-- A text literal as a value. -/
def lit (s : String) : PyVal := .str (cp s)

/-- The items of a dictionary literal. -/
def fields (l : List (String × PyVal)) : Items := l.map fun p => (key p.1, p.2)

/-- A dictionary literal, written in the order of its keys. -/
def obj (l : List (String × PyVal)) : PyVal := .dict (fields l)

@[simp] theorem key_inj {s t : String} : key s = key t ↔ s = t := by
  simp [key, cp_inj]

/-- Induction over a value: the elements of a list and the values of a dictionary come first. -/
theorem PyVal.induct {P : PyVal → Prop} (none : P .none) (bool : ∀ b, P (.bool b))
    (int : ∀ n, P (.int n)) (float : ∀ x, P (.float x)) (str : ∀ s, P (.str s))
    (list : ∀ xs, (∀ x ∈ xs, P x) → P (.list xs))
    (dict : ∀ items : Items, (∀ p ∈ items, P p.2) → P (.dict items)) (other : P .other) :
    ∀ v, P v :=
  @PyVal.rec P (fun xs => ∀ x ∈ xs, P x) (fun items => ∀ p ∈ items, P p.2) (fun p => P p.2)
    none bool int float str list dict other
    (fun _ h => nomatch h) (fun _ _ hx hxs => List.forall_mem_cons.2 ⟨hx, hxs⟩)
    (fun _ h => nomatch h) (fun _ _ hp hitems => List.forall_mem_cons.2 ⟨hp, hitems⟩)
    (fun _ _ hv => hv)

/-! ### Dictionaries -/

/-- The order of keys: that of the texts. -/
def PyKey.lt : PyKey → PyKey → Prop
  | .str s, .str t => s < t
  | _, _ => False

instance : DecidableRel PyKey.lt
  | .str s, .str t => inferInstanceAs (Decidable (s < t))
  | .str _, .other => isFalse id
  | .other, _ => isFalse id

theorem PyKey.lt_trans {a b c : PyKey} (hab : a.lt b) (hbc : b.lt c) : a.lt c := by
  cases a <;> cases b <;> cases c <;> simp_all [PyKey.lt]
  exact hab.trans hbc

theorem PyKey.lt_irrefl (a : PyKey) : ¬a.lt a := by
  cases a <;> simp [PyKey.lt]

/-- The items are in the order of their keys. -/
def Sorted (items : Items) : Prop := (items.map Prod.fst).Pairwise PyKey.lt

instance (items : Items) : Decidable (Sorted items) :=
  inferInstanceAs (Decidable (List.Pairwise _ _))

/-- `d[k] = v`, on sorted items. -/
def setKey (k : PyStr) (v : PyVal) : Items → Items
  | [] => [(.str k, v)]
  | p :: items =>
      if p.1 = .str k then (.str k, v) :: items
      else if PyKey.lt (.str k) p.1 then (.str k, v) :: p :: items
      else p :: setKey k v items

/-- `d.pop(k, None)` -/
def eraseKey (k : PyStr) (items : Items) : Items := items.filter fun p => p.1 ≠ .str k

/-- `d.get(k)` for the items of a dictionary. -/
def getItem (items : Items) (k : PyStr) : Option PyVal :=
  match items with
  | [] => .none
  | p :: items => if p.1 = .str k then some p.2 else getItem items k

/-- `v.get(k)` where `v` is a dictionary; a missing key gives `None`. -/
def PyVal.get (v : PyVal) (k : String) : PyVal :=
  match v with
  | .dict items => (getItem items (cp k)).getD .none
  | _ => .none

/-- `isinstance(v, Mapping)` -/
def PyVal.isDict : PyVal → Bool
  | .dict _ => true
  | _ => false

/-- `v[k]` for a key that has to be there. -/
def PyVal.at {ε : Type} (v : PyVal) (k : String) : Except (Raise ε) PyVal :=
  match v with
  | .dict items =>
      match getItem items (cp k) with
      | some w => .ok w
      | .none => .error (.builtin .keyError)
  | _ => .error (.builtin .typeError)

/-- A key that is there has its value. -/
theorem get_of_at {ε : Type} {v w : PyVal} {k : String} (h : v.at k = (.ok w : Except (Raise ε) PyVal)) :
    v.get k = w := by
  cases v with
  | dict items =>
      rw [PyVal.at] at h
      rw [PyVal.get]
      cases hget : getItem items (cp k) with
      | some u =>
          rw [hget] at h
          exact Except.ok.inj h
      | none =>
          rw [hget] at h
          cases h
  | _ => cases h

/-- A value that is no `None` is there. -/
theorem at_of_get {ε : Type} {v w : PyVal} {k : String} (h : v.get k = w) (hw : w ≠ .none) :
    v.at k = (.ok w : Except (Raise ε) PyVal) := by
  subst h
  cases v with
  | dict items =>
      simp only [PyVal.get, PyVal.at] at hw ⊢
      cases hget : getItem items (cp k) with
      | some u => rfl
      | none =>
          rw [hget] at hw
          exact absurd rfl hw
  | _ => exact absurd rfl hw

/-- `set(d) == {…}` -/
def keysAre (items : Items) (ks : List String) : Bool :=
  (items.all fun p => ks.any fun k => p.1 = key k) && ks.all fun k => items.any fun p => p.1 = key k

theorem mem_of_getItem {items : Items} {k : PyStr} {v : PyVal} (h : getItem items k = some v) :
    ∃ p ∈ items, p.2 = v := by
  induction items with
  | nil => simp [getItem] at h
  | cons p items ih =>
      rw [getItem] at h
      split_ifs at h
      · exact ⟨p, by simp, Option.some.inj h⟩
      · obtain ⟨q, hq, hv⟩ := ih h
        exact ⟨q, by simp [hq], hv⟩

theorem exists_of_getItem {items : Items} {k : PyStr} {v : PyVal} (h : getItem items k = some v) :
    ∃ p ∈ items, p.1 = .str k := by
  induction items with
  | nil => cases h
  | cons p items ih =>
      rw [getItem] at h
      split_ifs at h with hp
      · exact ⟨p, by simp, hp⟩
      · obtain ⟨q, hq, hkey⟩ := ih h
        exact ⟨q, by simp [hq], hkey⟩

/-- The item that is found is one of the items. -/
theorem item_mem_of_getItem {items : Items} {k : PyStr} {v : PyVal} (h : getItem items k = some v) :
    (.str k, v) ∈ items := by
  induction items with
  | nil => cases h
  | cons p items ih =>
      rw [getItem] at h
      split_ifs at h with hp
      · obtain ⟨l, u⟩ := p
        obtain rfl : l = .str k := hp
        obtain rfl := Option.some.inj h
        exact List.mem_cons_self
      · exact List.mem_cons_of_mem _ (ih h)

theorem ne_of_getItem_none {items : Items} {k : PyStr} (h : getItem items k = .none) :
    ∀ p ∈ items, p.1 ≠ .str k := by
  induction items with
  | nil => simp
  | cons p items ih =>
      rw [getItem] at h
      split_ifs at h with hp
      rw [List.forall_mem_cons]
      exact ⟨hp, ih h⟩

@[simp] theorem getItem_fields_nil (k : String) : getItem (fields []) (cp k) = .none := rfl

@[simp] theorem getItem_fields_cons (a k : String) (v : PyVal) (l : List (String × PyVal)) :
    getItem (fields ((a, v) :: l)) (cp k) = if a = k then some v else getItem (fields l) (cp k) := by
  simp [fields, getItem, key, cp_inj]

@[simp] theorem get_obj (l : List (String × PyVal)) (k : String) :
    (obj l).get k = (getItem (fields l) (cp k)).getD .none := rfl

/-- A literal is given by its fields. -/
theorem obj_inj {l l' : List (String × PyVal)} : obj l = obj l' ↔ l = l' := by
  have hinj : Function.Injective fun p : String × PyVal => (key p.1, p.2) := by
    intro p q h
    obtain ⟨hkey, hval⟩ := Prod.mk.inj h
    exact Prod.ext (key_inj.1 hkey) hval
  rw [obj, obj, PyVal.dict.injEq, fields, fields, (List.map_injective_iff.2 hinj).eq_iff]

@[simp] theorem isDict_obj (l : List (String × PyVal)) : (obj l).isDict = true := rfl

/-- The keys of a literal are compared as they are written. -/
@[simp] theorem keysAre_fields (l : List (String × PyVal)) (ks : List String) :
    keysAre (fields l) ks ↔ (∀ k ∈ l.map Prod.fst, k ∈ ks) ∧ ∀ k ∈ ks, k ∈ l.map Prod.fst := by
  simp only [keysAre, fields, List.all_map, List.any_map, Bool.and_eq_true, List.all_eq_true,
    List.any_eq_true, Function.comp_apply, decide_eq_true_eq, key_inj, exists_eq_right',
    List.mem_map, forall_exists_index, and_imp, forall_apply_eq_imp_iff₂]

/-- `d[k] = v`, on the items of a literal. -/
def setField (k : String) (v : PyVal) : List (String × PyVal) → List (String × PyVal)
  | [] => [(k, v)]
  | p :: l =>
      if p.1 = k then (k, v) :: l
      else if (key k).lt (key p.1) then (k, v) :: p :: l
      else p :: setField k v l

theorem setKey_fields (k : String) (v : PyVal) (l : List (String × PyVal)) :
    setKey (cp k) v (fields l) = fields (setField k v l) := by
  induction l with
  | nil => rfl
  | cons p l ih =>
      have hkey : (key p.1, p.2).1 = PyKey.str (cp k) ↔ p.1 = k := key_inj
      rw [fields] at ih
      simp only [setField, fields, List.map_cons, setKey, hkey, ih]
      split_ifs <;> first | rfl | contradiction

/-- `v[k]`, for a literal. -/
theorem at_obj {ε : Type} (l : List (String × PyVal)) (k : String) : ((obj l).at k : Except (Raise ε) PyVal) =
    (getItem (fields l) (cp k)).elim (.error (.builtin .keyError)) .ok := by
  rw [obj, PyVal.at]
  cases getItem (fields l) (cp k) <;> rfl

/-! ### A field between others -/

section Insert

variable {front back : List (String × PyVal)} {k : String}

theorem getItem_insert (v : PyVal) (h : ∀ p ∈ front, p.1 ≠ k) :
    getItem (fields (front ++ (k, v) :: back)) (cp k) = some v := by
  induction front with
  | nil => simp
  | cons p front ih =>
      obtain ⟨a, w⟩ := p
      rw [List.cons_append, getItem_fields_cons, if_neg (h (a, w) (by simp))]
      exact ih fun q hq => h q (by simp [hq])

theorem getItem_insert_of_ne (v : PyVal) {j : String} (h : j ≠ k) :
    getItem (fields (front ++ (k, v) :: back)) (cp j) = getItem (fields (front ++ back)) (cp j) := by
  induction front with
  | nil => rw [List.nil_append, getItem_fields_cons, if_neg h.symm]; rfl
  | cons p front ih =>
      obtain ⟨a, w⟩ := p
      rw [List.cons_append, List.cons_append, getItem_fields_cons, getItem_fields_cons, ih]

theorem eraseKey_insert (v : PyVal) (hfront : ∀ p ∈ front, p.1 ≠ k) (hback : ∀ p ∈ back, p.1 ≠ k) :
    eraseKey (cp k) (fields (front ++ (k, v) :: back)) = fields (front ++ back) := by
  have hkeep : ∀ {l : List (String × PyVal)}, (∀ p ∈ l, p.1 ≠ k) → eraseKey (cp k) (fields l) = fields l := by
    intro l hl
    refine List.filter_eq_self.2 fun q hq => ?_
    obtain ⟨p, hp, rfl⟩ := List.mem_map.1 hq
    exact decide_eq_true fun heq => hl p hp (key_inj.1 heq)
  have happend : ∀ l l' : List (String × PyVal), fields (l ++ l') = fields l ++ fields l' :=
    fun l l' => List.map_append
  have hself : eraseKey (cp k) (fields ((k, v) :: back)) = eraseKey (cp k) (fields back) := by
    simp [eraseKey, fields, key]
  rw [happend, eraseKey, List.filter_append, ← eraseKey, ← eraseKey, hself, hkeep hfront, hkeep hback, happend]

theorem setKey_insert (v w : PyVal) (h : ∀ p ∈ front, (key p.1).lt (key k)) :
    setKey (cp k) w (fields (front ++ (k, v) :: back)) = fields (front ++ (k, w) :: back) := by
  rw [setKey_fields]
  congr 1
  induction front with
  | nil => simp [setField]
  | cons p front ih =>
      have hp := h p (by simp)
      have hne : p.1 ≠ k := fun heq => PyKey.lt_irrefl _ (heq ▸ hp)
      have hlt : ¬(key k).lt (key p.1) := fun hlt => PyKey.lt_irrefl _ (PyKey.lt_trans hp hlt)
      rw [List.cons_append, setField, if_neg hne, if_neg hlt, ih fun q hq => h q (by simp [hq])]
      rfl

end Insert

/-! ### Equality -/

/-- The value of a number. -/
def PyVal.num? : PyVal → Option ℚ
  | .bool b => some (if b then 1 else 0)
  | .int n => some n
  | .float x => some x.value
  | _ => .none

/-- `bool(v)` -/
def PyVal.truthy : PyVal → Bool
  | .none => false
  | .bool b => b
  | .int n => n ≠ 0
  | .float x => !x.isFinite || x.value ≠ 0
  | .str s => s ≠ []
  | .list [] => false
  | .dict [] => false
  | _ => true

mutual

/-- `v == w`, for values without infinities. -/
def PyVal.eq : PyVal → PyVal → Bool
  | .none, .none => true
  | .str s, .str t => s = t
  | .list xs, .list ys => eqList xs ys
  | .dict xs, .dict ys => eqItems xs ys
  | v, w =>
      match v.num?, w.num? with
      | some a, some b => a = b
      | _, _ => false

/-- Equality of lists. -/
def eqList : List PyVal → List PyVal → Bool
  | [], [] => true
  | x :: xs, y :: ys => x.eq y && eqList xs ys
  | _, _ => false

/-- Equality of sorted items. -/
def eqItems : Items → Items → Bool
  | [], [] => true
  | (k, v) :: xs, (l, w) :: ys => k = l && v.eq w && eqItems xs ys
  | _, _ => false

end

attribute [local grind =] PyVal.eq eqList eqItems

/-- Nothing but the text itself equals a text. -/
@[simp] theorem PyVal.eq_str {v : PyVal} {s : PyStr} : v.eq (.str s) ↔ v = .str s := by
  cases v <;> simp [PyVal.eq, PyVal.num?]

@[simp] theorem PyVal.str_eq {v : PyVal} {s : PyStr} : PyVal.eq (.str s) v ↔ v = .str s := by
  cases v <;> simp [PyVal.eq, PyVal.num?, eq_comm]

@[simp] theorem PyVal.eq_lit {v : PyVal} {s : String} : v.eq (lit s) ↔ v = lit s := eq_str

@[simp] theorem PyVal.eq_int_self (n : ℤ) : (PyVal.int n).eq (.int n) = true := by
  simp [PyVal.eq, PyVal.num?]

/-! ### The JSON text -/

/-- The escape of one code point in a JSON string. -/
def escapeChar (c : ℕ) : PyStr :=
  match c with
  | 0x22 => cp "\\\""
  | 0x5C => cp "\\\\"
  | 0x0A => cp "\\n"
  | 0x0D => cp "\\r"
  | 0x09 => cp "\\t"
  | 0x08 => cp "\\b"
  | 0x0C => cp "\\f"
  | c =>
      if c < 0x20 then
        cp "\\u00" ++ ((Nat.toDigits 16 (c / 16)) ++ (Nat.toDigits 16 (c % 16))).map Char.toNat
      else [c]

/-- A JSON string. -/
def quote (s : PyStr) : PyStr := cp "\"" ++ s.flatMap escapeChar ++ cp "\""

/-- The JSON text of a key. -/
def PyKey.dumps : PyKey → PyStr
  | .str s => quote s
  | .other => []

mutual

/-- `json.dumps(v, ensure_ascii=False, sort_keys=True, separators=(",", ":"))` -/
def PyVal.dumps : PyVal → PyStr
  | .none => cp "null"
  | .bool b => if b then cp "true" else cp "false"
  | .int n => intText n
  | .float x => x.repr
  | .str s => quote s
  | .list [] => cp "[]"
  | .list (x :: xs) => cp "[" ++ x.dumps ++ dumpsList xs ++ cp "]"
  | .dict [] => cp "\x7b\x7d"
  | .dict ((k, v) :: items) => cp "\x7b" ++ k.dumps ++ cp ":" ++ v.dumps ++ dumpsItems items ++ cp "\x7d"
  | .other => []

/-- The elements of a list after the first. -/
def dumpsList : List PyVal → PyStr
  | [] => []
  | x :: xs => cp "," ++ x.dumps ++ dumpsList xs

/-- The items of a dictionary after the first. -/
def dumpsItems : Items → PyStr
  | [] => []
  | (k, v) :: items => cp "," ++ k.dumps ++ cp ":" ++ v.dumps ++ dumpsItems items

end

/-! ### Canonical values -/

/-- The values that have a canonical form: no infinities and no foreign objects, and dictionaries
sorted by admissible keys. -/
inductive Json (okKey : PyStr → Prop) : PyVal → Prop
  | none : Json okKey .none
  | bool (b : Bool) : Json okKey (.bool b)
  | int (n : ℤ) : Json okKey (.int n)
  | float (x : PyFloat) (h : x.isFinite) : Json okKey (.float x)
  | str (s : PyStr) : Json okKey (.str s)
  | list (xs : List PyVal) (h : ∀ x ∈ xs, Json okKey x) : Json okKey (.list xs)
  | dict (items : Items) (sorted : Sorted items) (keys : ∀ p ∈ items, ∃ s, p.1 = .str s ∧ okKey s)
      (h : ∀ p ∈ items, Json okKey p.2) : Json okKey (.dict items)

theorem eqList_refl {xs : List PyVal} (h : ∀ x ∈ xs, x.eq x) : eqList xs xs := by
  induction xs with
  | nil => rfl
  | cons x xs ih =>
      rw [eqList, Bool.and_eq_true]
      exact ⟨h x (by simp), ih fun y hy => h y (by simp [hy])⟩

theorem eqItems_refl {items : Items} (h : ∀ p ∈ items, p.2.eq p.2) : eqItems items items := by
  induction items with
  | nil => rfl
  | cons p items ih =>
      rw [eqItems, Bool.and_eq_true, Bool.and_eq_true]
      exact ⟨⟨by simp, h p (by simp)⟩, ih fun q hq => h q (by simp [hq])⟩

/-- A canonical value equals itself. -/
theorem Json.eq_refl {okKey : PyStr → Prop} {v : PyVal} (hv : Json okKey v) : v.eq v := by
  induction hv with
  | none => rfl
  | bool b => simp [PyVal.eq, PyVal.num?]
  | int n => simp [PyVal.eq, PyVal.num?]
  | float x h => simp [PyVal.eq, PyVal.num?]
  | str s => simp [PyVal.eq]
  | list xs _ ih => exact eqList_refl ih
  | dict items _ _ _ ih => exact eqItems_refl ih

/-! ### Keys are set and taken away -/

theorem mem_setKey {k : PyStr} {v : PyVal} {items : Items} {p : PyKey × PyVal}
    (h : p ∈ setKey k v items) : p = (.str k, v) ∨ p ∈ items := by
  induction items with
  | nil => simpa [setKey] using h
  | cons q items ih =>
      simp only [setKey] at h
      split_ifs at h
      · rcases List.mem_cons.1 h with rfl | h
        · exact .inl rfl
        · exact .inr (by simp [h])
      · rcases List.mem_cons.1 h with rfl | h
        · exact .inl rfl
        · exact .inr h
      · rcases List.mem_cons.1 h with rfl | h
        · exact .inr (by simp)
        · exact (ih h).imp_right fun h => by simp [h]

theorem sorted_cons {p : PyKey × PyVal} {items : Items} :
    Sorted (p :: items) ↔ (∀ q ∈ items, p.1.lt q.1) ∧ Sorted items := by
  simp only [Sorted, List.map_cons, List.pairwise_cons, List.mem_map, forall_exists_index,
    and_imp, forall_apply_eq_imp_iff₂]

/-- The keys of sorted items after the first one are others. -/
theorem getItem_of_sorted_cons {k : PyStr} {v : PyVal} {items : Items}
    (hsorted : Sorted ((.str k, v) :: items)) : getItem items k = none := by
  cases hget : getItem items k with
  | none => rfl
  | some w =>
      obtain ⟨p, hp, hkey⟩ := exists_of_getItem hget
      have hlt := (sorted_cons.1 hsorted).1 p hp
      rw [hkey] at hlt
      exact absurd hlt (PyKey.lt_irrefl _)

/-- Sorted items are found. -/
theorem getItem_of_mem {items : Items} (hsorted : Sorted items) {k : PyStr} {v : PyVal}
    (h : (.str k, v) ∈ items) : getItem items k = some v := by
  induction items with
  | nil => cases h
  | cons p items ih =>
      rcases List.mem_cons.1 h with rfl | h
      · rw [getItem, if_pos rfl]
      · have hlt := (sorted_cons.1 hsorted).1 _ h
        have hne : p.1 ≠ .str k := fun heq => PyKey.lt_irrefl _ (heq ▸ hlt)
        rw [getItem, if_neg hne]
        exact ih (sorted_cons.1 hsorted).2 h

/-- Setting a key keeps the order of the keys. -/
theorem sorted_setKey (k : PyStr) (v : PyVal) {items : Items} (h : Sorted items)
    (hstr : ∀ p ∈ items, ∃ s, p.1 = .str s) : Sorted (setKey k v items) := by
  induction items with
  | nil => simp [setKey, Sorted]
  | cons p items ih =>
      obtain ⟨hp, hitems⟩ := sorted_cons.1 h
      rw [setKey]
      split_ifs with heq hlt
      · exact sorted_cons.2 ⟨fun q hq => heq ▸ hp q hq, hitems⟩
      · refine sorted_cons.2 ⟨List.forall_mem_cons.2 ⟨hlt, fun q hq => PyKey.lt_trans hlt (hp q hq)⟩, h⟩
      · refine sorted_cons.2 ⟨fun q hq => ?_, ih hitems fun q hq => hstr q (by simp [hq])⟩
        rcases mem_setKey hq with rfl | hq
        · obtain ⟨s, hs⟩ := hstr p (by simp)
          rw [hs] at heq hlt ⊢
          simp only [PyKey.str.injEq] at heq
          exact (lt_trichotomy s k).resolve_right (not_or.2 ⟨heq, hlt⟩)
        · exact hp q hq

/-- Setting a key to a canonical value keeps a dictionary canonical. -/
theorem Json.setKey {okKey : PyStr → Prop} {k : PyStr} {v : PyVal} {items : Items}
    (h : Json okKey (.dict items)) (hk : okKey k) (hv : Json okKey v) :
    Json okKey (.dict (setKey k v items)) := by
  cases h with
  | dict _ sorted keys hvals =>
      refine .dict _ (sorted_setKey k v sorted fun q hq => (keys q hq).imp fun _ h => h.1)
        (fun q hq => ?_) fun q hq => ?_
      · rcases mem_setKey hq with rfl | hq
        · exact ⟨k, rfl, hk⟩
        · exact keys q hq
      · rcases mem_setKey hq with rfl | hq
        · exact hv
        · exact hvals q hq

/-- So does taking a key away. -/
theorem Json.eraseKey {okKey : PyStr → Prop} {k : PyStr} {items : Items}
    (h : Json okKey (.dict items)) : Json okKey (.dict (eraseKey k items)) := by
  cases h with
  | dict _ sorted keys hvals =>
      exact .dict _ (sorted.sublist (List.filter_sublist.map Prod.fst))
        (fun q hq => keys q (List.mem_of_mem_filter hq))
        fun q hq => hvals q (List.mem_of_mem_filter hq)

/-- A key beyond all others is added at the end. -/
theorem setKey_of_lt {k : PyStr} {v : PyVal} {items : Items} (h : ∀ p ∈ items, p.1.lt (.str k)) :
    setKey k v items = items ++ [(.str k, v)] := by
  induction items with
  | nil => rfl
  | cons p items ih =>
      have hp := h p (by simp)
      rw [setKey, if_neg, if_neg, ih fun q hq => h q (by simp [hq]), List.cons_append]
      · exact fun hlt => PyKey.lt_irrefl _ (PyKey.lt_trans hp hlt)
      · exact fun heq => PyKey.lt_irrefl _ (heq ▸ hp)

/-- A key that is set and taken away again leaves the items as they were. -/
theorem eraseKey_setKey {k : PyStr} (v : PyVal) {items : Items} (h : ∀ p ∈ items, p.1 ≠ .str k) :
    eraseKey k (setKey k v items) = items := by
  induction items with
  | nil => simp [setKey, eraseKey]
  | cons p items ih =>
      have hp := h p (by simp)
      have hrest : eraseKey k items = items :=
        List.filter_eq_self.2 fun q hq => by simpa using h q (by simp [hq])
      rw [setKey, if_neg hp]
      split_ifs
      · simpa [eraseKey, hp] using hrest
      · have := ih fun q hq => h q (by simp [hq])
        simpa [eraseKey, hp] using this

/-- A key that is taken away does not depend on what it was set to before. -/
theorem eraseKey_setKey_self (k : PyStr) (v : PyVal) (items : Items) :
    eraseKey k (setKey k v items) = eraseKey k items := by
  induction items with
  | nil => simp [setKey, eraseKey]
  | cons p items ih =>
      rw [setKey]
      split_ifs with heq hlt
      · simp [eraseKey, heq]
      · simp [eraseKey]
      · rw [eraseKey, eraseKey, List.filter_cons, List.filter_cons, ← eraseKey, ← eraseKey, ih]

/-- The key that is set is found, the others are found as before. -/
theorem getItem_setKey {k l : PyStr} (v : PyVal) (items : Items) :
    getItem (setKey k v items) l = if l = k then some v else getItem items l := by
  induction items with
  | nil => by_cases h : l = k <;> simp [setKey, getItem, h, Ne.symm]
  | cons p items ih =>
      rw [setKey]
      by_cases hl : l = k
      · subst hl
        rw [if_pos rfl] at ih ⊢
        split_ifs with heq hlt
        · simp [getItem]
        · simp [getItem]
        · rw [getItem, if_neg heq, ih]
      · rw [if_neg hl] at ih ⊢
        split_ifs with heq hlt
        · simp [getItem, heq, Ne.symm hl]
        · simp [getItem, Ne.symm hl]
        · rw [getItem, getItem, ih]

theorem getItem_eraseKey_self (items : Items) (k : PyStr) : getItem (eraseKey k items) k = none := by
  induction items with
  | nil => rfl
  | cons p items ih =>
      rw [eraseKey, List.filter_cons]
      by_cases hp : p.1 = .str k
      · rw [if_neg (by simpa using hp)]
        exact ih
      · rw [if_pos (by simpa using hp), getItem, if_neg hp]
        exact ih

theorem getItem_eraseKey {k l : PyStr} (items : Items) (h : l ≠ k) :
    getItem (eraseKey k items) l = getItem items l := by
  induction items with
  | nil => rfl
  | cons p items ih =>
      rw [eraseKey] at ih ⊢
      rw [List.filter_cons, getItem]
      by_cases hp : p.1 = .str k
      · rw [if_neg (by simpa using hp), ih, if_neg fun heq => h (PyKey.str.inj (heq.symm.trans hp))]
      · rw [if_pos (by simpa using hp), getItem, ih]

/-- Sorted items whose keys are texts are given by the values of their keys. -/
theorem eq_of_getItem {xs ys : Items} (hxs : Sorted xs) (hys : Sorted ys)
    (hkxs : ∀ p ∈ xs, p.1 ≠ .other) (hkys : ∀ p ∈ ys, p.1 ≠ .other)
    (h : ∀ k, getItem xs k = getItem ys k) : xs = ys := by
  have hhead : ∀ {zs : Items} {p : PyKey × PyVal} {k : PyStr}, Sorted (p :: zs) → p.1 = .str k →
      getItem zs k = .none := by
    intro zs p k hsorted hp
    cases hget : getItem zs k with
    | none => rfl
    | some v =>
        obtain ⟨q, hq, hkey⟩ := exists_of_getItem hget
        have hlt := (sorted_cons.1 hsorted).1 q hq
        rw [hp, hkey] at hlt
        exact absurd hlt (PyKey.lt_irrefl _)
  induction xs generalizing ys with
  | nil =>
      cases ys with
      | nil => rfl
      | cons q ys =>
          obtain ⟨l, w⟩ := q
          cases l with
          | str l => simpa [getItem] using h l
          | other => exact absurd rfl (hkys _ List.mem_cons_self)
  | cons p xs ih =>
      obtain ⟨k, v⟩ := p
      cases k with
      | other => exact absurd rfl (hkxs _ List.mem_cons_self)
      | str k =>
          cases ys with
          | nil => simpa [getItem] using h k
          | cons q ys =>
              obtain ⟨l, w⟩ := q
              cases l with
              | other => exact absurd rfl (hkys _ List.mem_cons_self)
              | str l =>
                  -- each of the two first keys occurs in the other list, so they are the same
                  have hkl : k = l := by
                    by_contra hne
                    have hk : getItem ys k = some v := by
                      simpa [getItem, Ne.symm hne] using (h k).symm
                    have hl : getItem xs l = some w := by simpa [getItem, hne] using h l
                    obtain ⟨p, hp, hpk⟩ := exists_of_getItem hk
                    obtain ⟨q, hq, hql⟩ := exists_of_getItem hl
                    have hlk := (sorted_cons.1 hys).1 p hp
                    have hkl := (sorted_cons.1 hxs).1 q hq
                    rw [hpk] at hlk
                    rw [hql] at hkl
                    exact PyKey.lt_irrefl _ (PyKey.lt_trans hkl hlk)
                  subst hkl
                  obtain rfl : v = w := by simpa [getItem] using h k
                  congr 1
                  refine ih (sorted_cons.1 hxs).2 (sorted_cons.1 hys).2
                    (fun p hp => hkxs p (List.mem_cons_of_mem _ hp))
                    (fun p hp => hkys p (List.mem_cons_of_mem _ hp)) fun l => ?_
                  by_cases hl : k = l
                  · subst hl
                    rw [hhead hxs rfl, hhead hys rfl]
                  · simpa [getItem, hl] using h l

/-! ### What can be encoded -/

theorem encodable_escapeChar {c : ℕ} : Encodable (escapeChar c) ↔ ¬IsSurrogate c := by
  have hcp : ∀ (s : String) (c : ℕ), ¬IsSurrogate c → (Encodable (cp s) ↔ ¬IsSurrogate c) :=
    fun s c hc => iff_of_true (encodable_cp s) hc
  have hhex : ∀ n, Encodable ((Nat.toDigits 16 n).map Char.toNat) := by
    intro n
    simpa [cp] using encodable_cp (String.ofList (Nat.toDigits 16 n))
  unfold escapeChar
  split
  · exact hcp _ _ (by decide)
  · exact hcp _ _ (by decide)
  · exact hcp _ _ (by decide)
  · exact hcp _ _ (by decide)
  · exact hcp _ _ (by decide)
  · exact hcp _ _ (by decide)
  · exact hcp _ _ (by decide)
  · split_ifs with h
    · refine iff_of_true ?_ (by unfold IsSurrogate; omega)
      rw [List.map_append, encodable_append, encodable_append]
      exact ⟨encodable_cp _, hhex _, hhex _⟩
    · simp [Encodable]

@[simp] theorem encodable_quote {s : PyStr} : Encodable (quote s) ↔ Encodable s := by
  have hflat : Encodable (s.flatMap escapeChar) ↔ Encodable s := by
    induction s with
    | nil => simp
    | cons c s ih =>
        rw [List.flatMap_cons, encodable_append, encodable_escapeChar, ih]
        simp [Encodable]
  simp [quote, hflat]

/-- A list can be encoded when its elements can. -/
theorem encodable_dumps_list {xs : List PyVal} :
    Encodable (PyVal.dumps (.list xs)) ↔ ∀ x ∈ xs, Encodable x.dumps := by
  have htail : ∀ xs : List PyVal, Encodable (dumpsList xs) ↔ ∀ x ∈ xs, Encodable x.dumps := by
    intro xs
    induction xs with
    | nil => simp [dumpsList]
    | cons x xs ih => simp [dumpsList, ih]
  cases xs with
  | nil => simp [PyVal.dumps]
  | cons x xs => simp [PyVal.dumps, htail]

/-- A dictionary can be encoded when its keys and values can. -/
theorem encodable_dumps_dict {items : Items} :
    Encodable (PyVal.dumps (.dict items)) ↔
      ∀ p ∈ items, Encodable p.1.dumps ∧ Encodable p.2.dumps := by
  have htail : ∀ items : Items, Encodable (dumpsItems items) ↔
      ∀ p ∈ items, Encodable p.1.dumps ∧ Encodable p.2.dumps := by
    intro items
    induction items with
    | nil => simp [dumpsItems]
    | cons p items ih => simp [dumpsItems, ih, and_assoc]
  cases items with
  | nil => simp [PyVal.dumps]
  | cons p items => simp [PyVal.dumps, htail, and_assoc]

theorem encodable_key (k : String) : Encodable (key k).dumps := encodable_quote.2 (encodable_cp k)

/-- A literal can be encoded when its values can. -/
theorem encodable_dumps_obj {l : List (String × PyVal)} :
    Encodable (obj l).dumps ↔ ∀ p ∈ l, Encodable p.2.dumps := by
  rw [obj, encodable_dumps_dict]
  constructor
  · intro h p hp
    exact (h (key p.1, p.2) (List.mem_map_of_mem hp)).2
  · rintro h _ hq
    obtain ⟨p, hp, rfl⟩ := List.mem_map.1 hq
    exact ⟨encodable_key p.1, h p hp⟩

/-! ### Literals -/

/-- The keys of a literal are in order. -/
def keysSorted (ks : List String) : Prop := (ks.map key).Pairwise PyKey.lt

instance (ks : List String) : Decidable (keysSorted ks) :=
  inferInstanceAs (Decidable (List.Pairwise _ _))

theorem sorted_fields {l : List (String × PyVal)} :
    Sorted (fields l) ↔ keysSorted (l.map Prod.fst) := by
  simp [Sorted, keysSorted, fields, Function.comp_def]

/-- A literal is a canonical value when its keys are admissible and in order, and its values are
canonical. -/
theorem Json.obj {okKey : PyStr → Prop} {l : List (String × PyVal)} (ks : List String)
    (hks : l.map Prod.fst = ks) (sorted : keysSorted ks) (keys : ∀ k ∈ ks, okKey (cp k))
    (h : ∀ p ∈ l, Json okKey p.2) : Json okKey (obj l) := by
  subst hks
  refine .dict _ (sorted_fields.2 sorted) ?_ ?_
  · rintro _ hq
    obtain ⟨p, hp, rfl⟩ := List.mem_map.1 hq
    exact ⟨cp p.1, rfl, keys _ (List.mem_map_of_mem hp)⟩
  · rintro _ hq
    obtain ⟨p, hp, rfl⟩ := List.mem_map.1 hq
    exact h p hp

end Py
