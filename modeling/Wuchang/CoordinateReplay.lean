/-
**Replaying a D3 event.**

A proposal merges the rule's changes into a coordinate and then the caller's.  At each key a change replaces
what was there unless both are objects, which are merged.  The second change can therefore undo a part of the
first one, and the first one is applied again when the event is replayed; still nothing changes, for where the
second change says something of a key it has the last word both times, and where it says nothing the first one
is repeated.

Main definitions:

* `CoordinateTransition.Coordinate` — the objects that are coordinates and changes;
* `CoordinateTransition.overlay` — what a key is after a merge.

Main results:

* `CoordinateTransition.getItem_deepMerge` — a merge is computed key by key;
* `CoordinateTransition.deepMerge_again` — a change that was merged is merged again in vain;
* `CoordinateTransition.replay_idempotent` — so is an event.
-/

import Wuchang.CoordinateTransition

set_option relaxedAutoImplicit false
set_option autoImplicit false

namespace CoordinateTransition

open Py

/-! ### Coordinates -/

/-- Values that JSON can express. -/
abbrev IsJson : PyVal → Prop := Json fun _ => True

/-- An object whose values JSON can express: a coordinate, or a change of one. -/
abbrev Coordinate := {items : Items // IsJson (.dict items)}

/-! ### A merge, key by key -/

theorem mergeValue_dict (base delta : Items) :
    mergeValue (some (.dict base)) (.dict delta) = .dict (deepMerge base delta) := by
  rw [mergeValue]

/-- What is no object is replaced. -/
theorem mergeValue_of_old {old : Option PyVal} (h : ∀ base, old ≠ some (.dict base)) (v : PyVal) :
    mergeValue old v = v := by
  cases v with
  | dict delta =>
      cases old with
      | none => rw [mergeValue]; simp
      | some w =>
          cases w with
          | dict base => exact absurd rfl (h base)
          | _ => rw [mergeValue]; simp
  | _ => rw [mergeValue]; simp

/-- What is no object replaces. -/
theorem mergeValue_of_new (old : Option PyVal) {v : PyVal} (h : ∀ delta, v ≠ .dict delta) :
    mergeValue old v = v := by
  cases v with
  | dict delta => exact absurd rfl (h delta)
  | _ => rw [mergeValue]; simp

theorem mergeValue_of_not_both {old : Option PyVal} {v : PyVal}
    (h : ¬((∃ base, old = some (.dict base)) ∧ ∃ delta, v = .dict delta)) : mergeValue old v = v := by
  by_cases hold : ∃ base, old = some (.dict base)
  · exact mergeValue_of_new old fun delta hv => h ⟨hold, delta, hv⟩
  · exact mergeValue_of_old (fun base hbase => hold ⟨base, hbase⟩) v

/-- What a key is after a merge, from what it was and what the change says of it. -/
def overlay (old : Option PyVal) : Option PyVal → Option PyVal
  | none => old
  | some v => some (mergeValue old v)

@[simp] theorem overlay_none (old : Option PyVal) : overlay old none = old := rfl

theorem overlay_of_new (old : Option PyVal) {v : PyVal} (h : ∀ delta, v ≠ .dict delta) :
    overlay old (some v) = some v := congrArg some (mergeValue_of_new old h)

/-- **A merge is computed key by key.** -/
theorem getItem_deepMerge {delta : Items} (hsorted : Sorted delta) (base : Items) (k : PyStr) :
    getItem (deepMerge base delta) k = overlay (getItem base k) (getItem delta k) := by
  induction delta generalizing base with
  | nil =>
      rw [deepMerge]
      rfl
  | cons p delta ih =>
      obtain ⟨l, v⟩ := p
      have hrest := (sorted_cons.1 hsorted).2
      cases l with
      | other =>
          rw [deepMerge, ih hrest, getItem, if_neg (by simp)]
      | str l =>
          rw [deepMerge, ih hrest, getItem_setKey, getItem]
          by_cases hkey : k = l
          · subst hkey
            rw [if_pos rfl, if_pos rfl, getItem_of_sorted_cons hsorted]
            rfl
          · rw [if_neg hkey, if_neg fun heq => hkey (PyKey.str.inj heq).symm]

/-- The value of a key of an object is JSON. -/
theorem isJson_of_getItem {items : Items} (h : IsJson (.dict items)) {k : PyStr} {v : PyVal}
    (hget : getItem items k = some v) : IsJson v := by
  cases h with
  | dict _ _ _ hvals =>
      obtain ⟨p, hp, rfl⟩ := mem_of_getItem hget
      exact hvals p hp

theorem sorted_of_isJson {items : Items} (h : IsJson (.dict items)) : Sorted items := by
  cases h with
  | dict _ hsorted _ _ => exact hsorted

/-- Objects are given by the values of their keys. -/
theorem eq_of_keys {xs ys : Items} (hxs : IsJson (.dict xs)) (hys : IsJson (.dict ys))
    (h : ∀ k, getItem xs k = getItem ys k) : xs = ys := by
  have htext : ∀ {zs : Items}, IsJson (.dict zs) → ∀ p ∈ zs, p.1 ≠ .other := by
    intro zs hzs p hp
    cases hzs with
    | dict _ _ hkeys _ =>
        obtain ⟨s, hs, -⟩ := hkeys p hp
        rw [hs]
        simp
  exact eq_of_getItem (sorted_of_isJson hxs) (sorted_of_isJson hys) (htext hxs) (htext hys) h

/-- What is merged of objects is an object. -/
theorem isJson_deepMerge {delta : Items} (hdelta : IsJson (.dict delta)) {base : Items}
    (hbase : IsJson (.dict base)) : IsJson (.dict (deepMerge base delta)) := by
  have hmerge : ∀ v, IsJson v → ∀ delta, v = .dict delta → ∀ base, IsJson (.dict base) →
      IsJson (.dict (deepMerge base delta)) := by
    intro v hv
    induction hv with
    | dict items sorted keys hvals ih =>
        rintro delta heq base hbase
        obtain rfl := PyVal.dict.inj heq
        clear heq sorted
        induction items generalizing base with
        | nil =>
            rw [deepMerge]
            exact hbase
        | cons p items ihitems =>
            obtain ⟨l, v⟩ := p
            obtain ⟨s, hs, -⟩ := keys (l, v) (by simp)
            obtain rfl : l = .str s := hs
            rw [deepMerge]
            refine ihitems (fun q hq => keys q (by simp [hq])) (fun q hq => hvals q (by simp [hq]))
              (fun q hq => ih q (by simp [hq])) _ (hbase.setKey trivial ?_)
            have hv : IsJson v := hvals (.str s, v) (by simp)
            by_cases hboth : (∃ old, getItem base s = some (.dict old)) ∧ ∃ inner, v = .dict inner
            · obtain ⟨⟨old, hold⟩, inner, rfl⟩ := hboth
              rw [hold, mergeValue_dict]
              exact ih (.str s, .dict inner) (by simp) inner rfl old (isJson_of_getItem hbase hold)
            · rw [mergeValue_of_not_both hboth]
              exact hv
    | _ =>
        rintro delta heq
        cases heq
  exact hmerge _ hdelta delta rfl base hbase

/-! ### The same change again -/

/-- A change of nothing is what it says. -/
theorem deepMerge_nil {delta : Items} (hdelta : IsJson (.dict delta)) : deepMerge [] delta = delta := by
  refine eq_of_keys (isJson_deepMerge hdelta (.dict [] (by decide) (by simp) (by simp))) hdelta fun k => ?_
  rw [getItem_deepMerge (sorted_of_isJson hdelta)]
  cases getItem delta k with
  | none => rfl
  | some v => exact congrArg some (mergeValue_of_old (by simp [getItem]) v)

/-- A value that was merged is merged again in vain.  The induction is on the change. -/
theorem mergeValue_again {v : PyVal} (hv : IsJson v) {old : Option PyVal} (hold : ∀ w, old = some w → IsJson w) :
    mergeValue (some (mergeValue old v)) v = mergeValue old v := by
  induction hv generalizing old with
  | dict delta sorted keys hvals ih =>
      have hdelta : IsJson (.dict delta) := .dict delta sorted keys hvals
      have hagain : ∀ base, IsJson (.dict base) →
          deepMerge (deepMerge base delta) delta = deepMerge base delta := by
        intro base hbase
        have hmerged := isJson_deepMerge hdelta hbase
        refine eq_of_keys (isJson_deepMerge hdelta hmerged) hmerged fun k => ?_
        rw [getItem_deepMerge sorted, getItem_deepMerge sorted]
        cases hget : getItem delta k with
        | none => rfl
        | some v =>
            obtain ⟨p, hp, rfl⟩ := mem_of_getItem hget
            exact congrArg some (ih p hp fun w hw => isJson_of_getItem hbase hw)
      by_cases hobject : ∃ base, old = some (.dict base)
      · obtain ⟨base, rfl⟩ := hobject
        rw [mergeValue_dict, mergeValue_dict, hagain base (hold _ rfl)]
      · have hself := hagain [] (.dict [] (by decide) (by simp) (by simp))
        rw [deepMerge_nil hdelta] at hself
        rw [mergeValue_of_old (fun base hbase => hobject ⟨base, hbase⟩), mergeValue_dict, hself]
  | _ => rw [mergeValue_of_new _ (by simp), mergeValue_of_new _ (by simp)]

theorem overlay_again {old new : Option PyVal} (hold : ∀ w, old = some w → IsJson w)
    (hnew : ∀ w, new = some w → IsJson w) : overlay (overlay old new) new = overlay old new := by
  cases new with
  | none => rfl
  | some v => exact congrArg some (mergeValue_again (hnew v rfl) hold)

/-- **A change that was merged is merged again in vain.** -/
theorem deepMerge_again {delta base : Items} (hdelta : IsJson (.dict delta)) (hbase : IsJson (.dict base)) :
    deepMerge (deepMerge base delta) delta = deepMerge base delta := by
  have hold : ∀ w, some (PyVal.dict base) = some w → IsJson w := by
    rintro _ ⟨⟩
    exact hbase
  have hagain := mergeValue_again hdelta hold
  rwa [mergeValue_dict, mergeValue_dict, PyVal.dict.injEq] at hagain

theorem deepMerge_self {delta : Items} (hdelta : IsJson (.dict delta)) : deepMerge delta delta = delta := by
  have hagain := deepMerge_again hdelta (.dict [] (by decide) (by simp) (by simp))
  rwa [deepMerge_nil hdelta] at hagain

/-! ### The same event again -/

/-- What a key is after an event: the rule's change first, then the caller's. -/
def replayed (old base delta : Option PyVal) : Option PyVal := overlay (overlay old base) delta

theorem getItem_replay {base delta : Items} (hbase : Sorted base) (hdelta : Sorted delta) (p : Items)
    (k : PyStr) : getItem (deepMerge (deepMerge p base) delta) k =
      replayed (getItem p k) (getItem base k) (getItem delta k) := by
  rw [getItem_deepMerge hdelta, getItem_deepMerge hbase, replayed]

/-- A key that the caller changes is the same after the second event.  The induction is on the caller's
change. -/
theorem replayed_replayed {v : PyVal} (hv : IsJson v) {old base : Option PyVal}
    (hold : ∀ w, old = some w → IsJson w) (hbase : ∀ w, base = some w → IsJson w) :
    replayed (replayed old base (some v)) base (some v) = replayed old base (some v) := by
  induction hv generalizing old base with
  | dict delta sorted keys hvals ih =>
      have hdelta : IsJson (.dict delta) := .dict delta sorted keys hvals
      have hreplay : ∀ p b, IsJson (.dict p) → IsJson (.dict b) →
          deepMerge (deepMerge (deepMerge (deepMerge p b) delta) b) delta = deepMerge (deepMerge p b) delta := by
        intro p b hp hb
        have hmerged := isJson_deepMerge hdelta (isJson_deepMerge hb hp)
        refine eq_of_keys (isJson_deepMerge hdelta (isJson_deepMerge hb hmerged)) hmerged fun k => ?_
        rw [getItem_replay (sorted_of_isJson hb) sorted, getItem_replay (sorted_of_isJson hb) sorted]
        cases hget : getItem delta k with
        | none => exact overlay_again (fun w hw => isJson_of_getItem hp hw) fun w hw => isJson_of_getItem hb hw
        | some v =>
            obtain ⟨q, hq, rfl⟩ := mem_of_getItem hget
            exact ih q hq (fun w hw => isJson_of_getItem hp hw) fun w hw => isJson_of_getItem hb hw
      cases base with
      | none =>
          have hnew : ∀ w, some (PyVal.dict delta) = some w → IsJson w := by
            rintro _ ⟨⟩
            exact hdelta
          exact overlay_again hold hnew
      | some w =>
          by_cases hobject : ∃ b, w = .dict b
          · obtain ⟨b, rfl⟩ := hobject
            have hb : IsJson (.dict b) := hbase _ rfl
            by_cases hcoordinate : ∃ p, old = some (.dict p)
            · obtain ⟨p, rfl⟩ := hcoordinate
              simp only [replayed, overlay, mergeValue_dict, hreplay p b (hold _ rfl) hb]
            · -- the rule's object is there already when the caller's is merged
              have hfirst := mergeValue_of_old (fun p hp => hcoordinate ⟨p, hp⟩) (.dict b)
              have hself := hreplay b b hb hb
              rw [deepMerge_self hb] at hself
              simp only [replayed, overlay, hfirst, mergeValue_dict, hself]
          · -- the rule's value is replaced by the caller's object
            have hw : ∀ b, w ≠ .dict b := fun b hwb => hobject ⟨b, hwb⟩
            have hreplaced : mergeValue (some w) (.dict delta) = .dict delta :=
              mergeValue_of_old (fun b hb => hw b (Option.some.inj hb)) _
            simp only [replayed, overlay, mergeValue_of_new _ hw, hreplaced]
  | _ =>
      rw [replayed, replayed, overlay_of_new _ (by simp), overlay_of_new _ (by simp)]

theorem deepMerge_replay (p base delta : Coordinate) :
    deepMerge (deepMerge (deepMerge (deepMerge p.1 base.1) delta.1) base.1) delta.1 =
      deepMerge (deepMerge p.1 base.1) delta.1 := by
  have hold : ∀ w, some (PyVal.dict p.1) = some w → IsJson w := by
    rintro _ ⟨⟩
    exact p.2
  have hbase : ∀ w, some (PyVal.dict base.1) = some w → IsJson w := by
    rintro _ ⟨⟩
    exact base.2
  have hagain := replayed_replayed delta.2 hold hbase
  simpa only [replayed, overlay, mergeValue_dict, Option.some.injEq, PyVal.dict.injEq] using hagain

theorem isJson_itemsOf {v : PyVal} (h : IsJson v) : IsJson (.dict (itemsOf v)) := by
  cases h with
  | dict items sorted keys hvals => exact .dict items sorted keys hvals
  | _ => exact .dict [] (by decide) (by simp) (by simp)

theorem isJson_getOr {v default w : PyVal} {k : String} (hv : IsJson v) (hdefault : IsJson default)
    (h : getOr v k default = .ok w) : IsJson w := by
  cases hv with
  | dict items sorted keys hvals =>
      rw [getOr, Except.ok.injEq] at h
      subst h
      cases hget : getItem items (cp k) with
      | none => exact hdefault
      | some w => exact isJson_of_getItem (.dict items sorted keys hvals) hget
  | _ => cases h

/-- **An event that is replayed changes nothing**, whatever the coordinate, the rule's change and the
caller's change are: what was proposed is proposed again. -/
theorem replay_idempotent (p : Coordinate) :
    (∀ base delta : Coordinate,
      deepMerge (deepMerge (deepMerge (deepMerge p.1 base.1) delta.1) base.1) delta.1 =
        deepMerge (deepMerge p.1 base.1) delta.1) ∧
    ∀ context rule : {v // IsJson v}, (do
        let proposed ← proposeCoordinate (.dict p.1) context.1 rule.1
        proposeCoordinate proposed context.1 rule.1) = proposeCoordinate (.dict p.1) context.1 rule.1 := by
  refine ⟨deepMerge_replay p, fun context rule => ?_⟩
  have hempty : IsJson (.dict []) := .dict [] (by decide) (by simp) (by simp)
  cases hbase : getOr rule.1 "base_delta" (.dict []) with
  | error e =>
      rw [proposeCoordinate, hbase]
      rfl
  | ok base =>
      cases hdict : decide (base.isDict = true) with
      | false =>
          rw [proposeCoordinate, hbase, ok_bind, raiseIf_pos (of_decide_eq_false hdict)]
          rfl
      | true =>
          have hobject : ¬¬base.isDict = true := not_not.2 (of_decide_eq_true hdict)
          cases hdelta : getOr context.1 "coordinate_delta" (.dict []) with
          | error e =>
              rw [proposeCoordinate, hbase, ok_bind, raiseIf_neg hobject, ok_bind, hdelta]
              rfl
          | ok delta =>
              have hpropose : ∀ q : Items, proposeCoordinate (.dict q) context.1 rule.1 =
                  .ok (.dict (deepMerge (deepMerge q (itemsOf base)) (itemsOf delta))) := by
                intro q
                rw [proposeCoordinate, hbase, ok_bind, raiseIf_neg hobject, ok_bind, hdelta]
                rfl
              rw [hpropose, ok_bind, hpropose, deepMerge_replay p
                ⟨itemsOf base, isJson_itemsOf (isJson_getOr rule.2 hempty hbase)⟩
                ⟨itemsOf delta, isJson_itemsOf (isJson_getOr context.2 hempty hdelta)⟩]

end CoordinateTransition
