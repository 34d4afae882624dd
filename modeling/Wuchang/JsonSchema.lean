/-
**JSON schemas, as tests of values.**

A schema is the test whether a value conforms to it, and the keywords of JSON Schema build such tests: a
text with a pattern, an integral number between bounds, a constant, an array of different items, an object
with exactly the properties that are named.  A `$ref` is the definition it refers to.

A schema is *closed* when what conforms to it has a canonical text: no foreign object, no number that is
not finite and no text that cannot be encoded is anywhere in it.  The keywords keep this.

Main definitions:

* `JsonSchema.Schema` — a schema;
* `JsonSchema.text`, `JsonSchema.integer`, `JsonSchema.constant`, `JsonSchema.enum`, `JsonSchema.null`,
  `JsonSchema.anyOf`, `JsonSchema.array`, `JsonSchema.object`, `JsonSchema.record` — the keywords;
* `JsonSchema.chomp`, `JsonSchema.isHashOf` — patterns that end in `$`, and those of references by a hash;
* `JsonSchema.Canonical`, `JsonSchema.Closed` — a value with a canonical text; what conforms has one.

Main results:

* `JsonSchema.get_of_object`, `JsonSchema.at_of_object` — a property is there, and conforms;
* `JsonSchema.closed_object`, `JsonSchema.closed_array` — closed schemas are built from closed ones;
* `JsonSchema.at_of_closed` — the properties of a closed object.
-/

import Wuchang.PyJson
import Wuchang.Sha256
import Mathlib.Data.List.Nodup

set_option relaxedAutoImplicit false
set_option autoImplicit false

namespace JsonSchema

open Py

/-- A schema: the test whether a value conforms. -/
abbrev Schema := PyVal → Bool

/-! ### Patterns -/

/-- The part of a text a pattern that ends in `$` looks at: a line feed at the end is passed over. -/
def chomp (s : PyStr) : PyStr := if s.getLast? = some 10 then s.dropLast else s

/-- `^[0-9a-f]{64}$` -/
def isSha256 (s : PyStr) : Bool := Sha256.isHex64 (chomp s)

/-- `^stem:sha256:[0-9a-f]{64}$` -/
def isHashOf (stem : String) (s : PyStr) : Bool :=
  (cp (stem ++ ":sha256:")).isPrefixOf (chomp s) &&
    Sha256.isHex64 ((chomp s).drop (cp (stem ++ ":sha256:")).length)

/-! ### Keywords -/

/-- `"type": "string"` with a `"pattern"` -/
def text (pattern : PyStr → Bool) : Schema
  | .str s => pattern s
  | _ => false

/-- `"type": "integer"` with a `"minimum"`, and perhaps a `"maximum"`; a float without a fraction is an
integer, a Boolean is not. -/
def integer (least : ℤ) (most : Option ℤ) : Schema
  | .int n => least ≤ n && most.all fun m => n ≤ m
  | .float x => x.isFinite && x.value.den = 1 && least ≤ x.value && most.all fun m => x.value ≤ m
  | _ => false

/-- `"const"` of a text -/
def constant (s : String) : Schema := fun v => pyEq v (lit s)

/-- `"enum"` of texts -/
def enum (texts : List String) : Schema := fun v => texts.any fun s => pyEq v (lit s)

/-- `"type": "null"` -/
def null : Schema
  | .none => true
  | _ => false

/-- `"anyOf"` -/
def anyOf (schemas : List Schema) : Schema := fun v => schemas.any fun schema => schema v

/-- No two values are equal. -/
def different : List PyVal → Bool
  | [] => true
  | x :: xs => !(xs.any fun y => pyEq x y) && different xs

/-- `"type": "array"` with `"uniqueItems"`, `"minItems"` and perhaps `"maxItems"` -/
def array (least : ℕ) (most : Option ℕ) (items : Schema) : Schema
  | .list xs => least ≤ xs.length && (most.all fun m => xs.length ≤ m) && different xs && xs.all items
  | _ => false

/-- `"type": "object"` whose properties are all required, and no others are allowed. -/
def object (properties : List (String × Schema)) : Schema
  | .dict items =>
      (items.all fun p => properties.any fun q => p.1 = key q.1 && q.2 p.2) &&
        properties.all fun q => (getItem items (cp q.1)).isSome
  | _ => false

/-- `"const"` of a Boolean; no number is one. -/
def truth (b : Bool) : Schema
  | .bool c => c == b
  | _ => false

/-- `"type": "boolean"` -/
def boolean : Schema
  | .bool _ => true
  | _ => false

/-- `"type": "string"` with a `"minLength"` of one -/
def nonEmpty : Schema := text fun s => s ≠ []

/-- `"type": "array"` with `"minItems"`, whose items may be equal -/
def listOf (least : ℕ) (items : Schema) : Schema
  | .list xs => least ≤ xs.length && xs.all items
  | _ => false

/-- `"type": "object"` with properties that are required and others that are optional; no others are
allowed. -/
def record (required optional : List (String × Schema)) : Schema
  | .dict items =>
      (items.all fun p => (required ++ optional).any fun q => p.1 = key q.1 && q.2 p.2) &&
        required.all fun q => (getItem items (cp q.1)).isSome
  | _ => false

/-! ### What conforms -/

section Conforms

variable {v : PyVal} {properties : List (String × Schema)} {schema : Schema} {k : String}

theorem isDict_of_object (h : object properties v = true) : v.isDict = true := by
  cases v <;> first | rfl | cases h

theorem of_array {least : ℕ} {most : Option ℕ} {items : Schema} (h : array least most items v = true) :
    ∃ xs, v = .list xs ∧ ∀ x ∈ xs, items x = true := by
  cases v with
  | list xs =>
      rw [array, Bool.and_eq_true] at h
      exact ⟨xs, rfl, List.all_eq_true.1 h.2⟩
  | _ => cases h

theorem of_text {pattern : PyStr → Bool} (h : text pattern v = true) : ∃ s, v = .str s ∧ pattern s = true := by
  cases v with
  | str s => exact ⟨s, rfl, h⟩
  | _ => cases h

/-- A property is there, and its value conforms. -/
theorem at_of_object {ε : Type} (h : object properties v = true) (hnames : (properties.map Prod.fst).Nodup)
    (hk : (k, schema) ∈ properties) :
    (v.at k = (.ok (v.get k) : Except (Raise ε) PyVal)) ∧ schema (v.get k) = true := by
  cases v with
  | dict items =>
      rw [object, Bool.and_eq_true, List.all_eq_true, List.all_eq_true] at h
      obtain ⟨w, hw⟩ := Option.isSome_iff_exists.1 (h.2 _ hk)
      have hget : (PyVal.dict items).get k = w := by rw [PyVal.get, hw]; rfl
      obtain ⟨q, hq, hconforms⟩ := List.any_eq_true.1 (h.1 _ (item_mem_of_getItem hw))
      rw [Bool.and_eq_true, decide_eq_true_eq] at hconforms
      -- the names are different, so the schema of the item is that of the property
      obtain rfl : q = (k, schema) := by
        have hname : q.1 = k := (key_inj.1 hconforms.1).symm
        exact List.inj_on_of_nodup_map hnames hq hk hname
      rw [hget]
      refine ⟨?_, hconforms.2⟩
      rw [PyVal.at, hw]
  | _ => cases h

/-- A required property of a record is there, and its value conforms. -/
theorem get_of_record {optional : List (String × Schema)} (h : record properties optional v = true)
    (hnames : ((properties ++ optional).map Prod.fst).Nodup) (hk : (k, schema) ∈ properties) :
    schema (v.get k) = true := by
  cases v with
  | dict items =>
      rw [record, Bool.and_eq_true, List.all_eq_true, List.all_eq_true] at h
      obtain ⟨w, hw⟩ := Option.isSome_iff_exists.1 (h.2 _ hk)
      obtain ⟨q, hq, hconforms⟩ := List.any_eq_true.1 (h.1 _ (item_mem_of_getItem hw))
      rw [Bool.and_eq_true, decide_eq_true_eq] at hconforms
      obtain rfl : q = (k, schema) := by
        have hname : q.1 = k := (key_inj.1 hconforms.1).symm
        exact List.inj_on_of_nodup_map hnames hq (List.mem_append_left _ hk) hname
      rw [PyVal.get, hw]
      exact hconforms.2
  | _ => cases h

theorem of_listOf {least : ℕ} {items : Schema} (h : listOf least items v = true) :
    ∃ xs, v = .list xs ∧ ∀ x ∈ xs, items x = true := by
  cases v with
  | list xs =>
      rw [listOf, Bool.and_eq_true] at h
      exact ⟨xs, rfl, List.all_eq_true.1 h.2⟩
  | _ => cases h

theorem get_of_object (h : object properties v = true) (hnames : (properties.map Prod.fst).Nodup)
    (hk : (k, schema) ∈ properties) : schema (v.get k) = true :=
  (@at_of_object v properties schema k Empty h hnames hk).2

end Conforms

/-! ### Closed schemas -/

/-- A value with a canonical text. -/
def Canonical (v : PyVal) : Prop := PyJson.Plain Encodable v ∧ PyJson.allFinite v = true

/-- What conforms has a canonical text. -/
def Closed (schema : Schema) : Prop := ∀ v, schema v = true → Canonical v

theorem canonical_lit (s : String) : Canonical (lit s) := ⟨PyJson.plain_lit s, rfl⟩

theorem canonical_bool (b : Bool) : Canonical (.bool b) := ⟨.bool b, rfl⟩

theorem canonical_list {xs : List PyVal} (h : ∀ x ∈ xs, Canonical x) : Canonical (.list xs) :=
  ⟨.list xs fun x hx => (h x hx).1, PyJson.allFiniteList_iff.2 fun x hx => (h x hx).2⟩

theorem canonical_obj {l : List (String × PyVal)} (h : ∀ p ∈ l, Canonical p.2) : Canonical (obj l) :=
  ⟨PyJson.plain_obj fun p hp => (h p hp).1, PyJson.allFinite_obj.2 fun p hp => (h p hp).2⟩

/-- Some of the items of a dictionary. -/
theorem Canonical.filter {items : Items} (h : Canonical (.dict items)) (p : PyKey × PyVal → Bool) :
    Canonical (.dict (items.filter p)) := by
  obtain ⟨hplain, hfinite⟩ := h
  cases hplain with
  | dict _ hkeys hvals =>
      refine ⟨.dict _ (fun q hq => hkeys q (List.mem_of_mem_filter hq))
        fun q hq => hvals q (List.mem_of_mem_filter hq), ?_⟩
      exact PyJson.allFiniteItems_iff.2 fun q hq =>
        PyJson.allFiniteItems_iff.1 hfinite q (List.mem_of_mem_filter hq)

/-- What a dictionary has under a key. -/
theorem Canonical.get {v : PyVal} (h : Canonical v) (k : String) : Canonical (v.get k) := by
  refine ⟨h.1.get k, ?_⟩
  cases v with
  | dict items =>
      rw [PyVal.get]
      cases hget : getItem items (cp k) with
      | none => rfl
      | some w =>
          obtain ⟨p, hp, rfl⟩ := mem_of_getItem hget
          exact PyJson.allFiniteItems_iff.1 h.2 p hp
  | _ => rfl

theorem encodable_of_chomp {s : PyStr} (h : Encodable (chomp s)) : Encodable s := by
  rw [chomp] at h
  split_ifs at h with hlast
  · obtain ⟨t, rfl⟩ := List.getLast?_eq_some_iff.1 hlast
    rw [List.dropLast_concat] at h
    exact encodable_append.2 ⟨h, by simp [Py.Encodable, IsSurrogate]⟩
  · exact h

theorem encodable_of_isHex64 {s : PyStr} (h : Sha256.isHex64 s = true) : Encodable s := by
  rw [Sha256.isHex64, Bool.and_eq_true, List.all_eq_true] at h
  intro c hc
  have hrange := h.2 c hc
  simp only [Bool.or_eq_true, Bool.and_eq_true, decide_eq_true_eq] at hrange
  unfold IsSurrogate
  omega

theorem encodable_of_isHashOf {stem : String} {s : PyStr} (h : isHashOf stem s = true) : Encodable s := by
  rw [isHashOf, Bool.and_eq_true, List.isPrefixOf_iff_prefix] at h
  obtain ⟨⟨rest, hrest⟩, hhex⟩ := h
  refine encodable_of_chomp ?_
  rw [← hrest, List.drop_left] at hhex
  rw [← hrest]
  exact encodable_append.2 ⟨encodable_cp _, encodable_of_isHex64 hhex⟩

theorem closed_text {pattern : PyStr → Bool} (h : ∀ s, pattern s = true → Encodable s) :
    Closed (text pattern) := by
  intro v hv
  obtain ⟨s, rfl, hs⟩ := of_text hv
  exact ⟨.str s (h s hs), rfl⟩

theorem closed_sha256 : Closed (text isSha256) :=
  closed_text fun _ h => encodable_of_chomp (encodable_of_isHex64 h)

theorem closed_hashOf (stem : String) : Closed (text (isHashOf stem)) :=
  closed_text fun _ h => encodable_of_isHashOf h

theorem closed_integer (least : ℤ) (most : Option ℤ) : Closed (integer least most) := by
  intro v hv
  cases v with
  | int n => exact ⟨.int n, rfl⟩
  | float x =>
      simp only [integer, Bool.and_eq_true] at hv
      exact ⟨.float x, hv.1.1.1⟩
  | _ => cases hv

theorem closed_constant (s : String) : Closed (constant s) := by
  intro v hv
  obtain rfl := pyEq_lit.1 hv
  exact canonical_lit s

theorem closed_enum (texts : List String) : Closed (enum texts) := by
  intro v hv
  obtain ⟨s, -, hs⟩ := List.any_eq_true.1 hv
  exact closed_constant s v hs

theorem closed_null : Closed null := by
  intro v hv
  cases v with
  | none => exact ⟨.none, rfl⟩
  | _ => cases hv

theorem closed_anyOf {schemas : List Schema} (h : ∀ schema ∈ schemas, Closed schema) :
    Closed (anyOf schemas) := by
  intro v hv
  obtain ⟨schema, hschema, hconforms⟩ := List.any_eq_true.1 hv
  exact h schema hschema v hconforms

theorem closed_array {least : ℕ} {most : Option ℕ} {items : Schema} (h : Closed items) :
    Closed (array least most items) := by
  intro v hv
  obtain ⟨xs, rfl, hxs⟩ := of_array hv
  exact canonical_list fun x hx => h x (hxs x hx)

theorem closed_object {properties : List (String × Schema)} (h : ∀ q ∈ properties, Closed q.2) :
    Closed (object properties) := by
  intro v hv
  cases v with
  | dict items =>
      rw [object, Bool.and_eq_true, List.all_eq_true] at hv
      have hitem : ∀ p ∈ items, (∃ s, p.1 = .str s ∧ Encodable s) ∧ PyJson.Plain Encodable p.2 ∧
          PyJson.allFinite p.2 = true := by
        intro p hp
        obtain ⟨q, hq, hconforms⟩ := List.any_eq_true.1 (hv.1 p hp)
        rw [Bool.and_eq_true, decide_eq_true_eq] at hconforms
        exact ⟨⟨cp q.1, hconforms.1, encodable_cp _⟩, h q hq p.2 hconforms.2⟩
      exact ⟨.dict _ (fun p hp => (hitem p hp).1) fun p hp => (hitem p hp).2.1,
        PyJson.allFiniteItems_iff.2 fun p hp => (hitem p hp).2.2⟩
  | _ => cases hv

/-- The properties of an object are there, and have canonical texts. -/
theorem at_of_closed {ε : Type} {v : PyVal} {properties : List (String × Schema)}
    (h : object properties v = true) (hnames : (properties.map Prod.fst).Nodup)
    (hclosed : ∀ q ∈ properties, Closed q.2) : ∀ k ∈ properties.map Prod.fst,
    (v.at k = (.ok (v.get k) : Except (Raise ε) PyVal)) ∧ Canonical (v.get k) := by
  intro k hk
  obtain ⟨q, hq, rfl⟩ := List.mem_map.1 hk
  have hget := at_of_object (ε := ε) h hnames (show (q.1, q.2) ∈ properties from hq)
  exact ⟨hget.1, hclosed q hq _ hget.2⟩

end JsonSchema
