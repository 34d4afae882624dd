/-
**Grouping by a key.**

Entries are filed one by one: the first entry of a key opens a group with its head, and every entry is added to
the members of its group.  What the groups are can be read off the list of the entries.

Main definitions:

* `Grouping.file`, `Grouping.collect` — filing an entry, and all entries of a list;
* `Grouping.Grouped` — the groups of a list of entries;
* `Grouping.openers` — the entries that open a group.

Main results:

* `Grouping.grouped_collect` — filing gives the groups of the list;
* `Grouping.Grouped.perm_members` — every entry is a member of one group;
* `Grouping.Grouped.exists_of_perm` — the order of the entries changes the order of the members only;
* `Grouping.collect_map` — filing does not look at what is filed.
-/

import Mathlib.Data.List.Perm.Basic
import Mathlib.Data.List.Dedup
import Mathlib.Data.List.Count

set_option relaxedAutoImplicit false
set_option autoImplicit false

namespace Grouping

variable {κ η α : Type} [DecidableEq κ]

/-- An entry: its key, the head it would give a group, and what is filed. -/
structure Entry (κ η α : Type) where
  key : κ
  head : η
  item : α

/-- A group. -/
structure Group (κ η α : Type) where
  key : κ
  head : η
  members : List α

/-- An entry is filed. -/
def file (e : Entry κ η α) : List (Group κ η α) → List (Group κ η α)
  | [] => [⟨e.key, e.head, [e.item]⟩]
  | g :: gs =>
      if g.key = e.key then { g with members := g.members ++ [e.item] } :: gs
      else g :: file e gs

/-- Entries are filed in their order. -/
def collect (entries : List (Entry κ η α)) (gs : List (Group κ η α)) : List (Group κ η α) :=
  entries.foldl (fun gs e => file e gs) gs

/-- The entries that open a group. -/
def openers (entries : List (Entry κ η α)) : List (Entry κ η α) :=
  entries.foldl (fun opened e => if e.key ∈ opened.map Entry.key then opened else opened ++ [e]) []

/-- What is filed under a key. -/
def membersOf (entries : List (Entry κ η α)) (k : κ) : List α :=
  (entries.filter fun e => e.key = k).map Entry.item

/-- The groups of a list of entries. -/
structure Grouped (entries : List (Entry κ η α)) (gs : List (Group κ η α)) : Prop where
  nodup : (gs.map Group.key).Nodup
  members : ∀ g ∈ gs, g.members = membersOf entries g.key
  head : ∀ g ∈ gs, ∃ e ∈ entries, e.key = g.key ∧ e.head = g.head
  covers : ∀ e ∈ entries, ∃ g ∈ gs, g.key = e.key

theorem membersOf_append (entries : List (Entry κ η α)) (e : Entry κ η α) (k : κ) :
    membersOf (entries ++ [e]) k = membersOf entries k ++ if e.key = k then [e.item] else [] := by
  rw [membersOf, membersOf, List.filter_append, List.map_append]
  split_ifs with h <;> simp [h]

theorem membersOf_eq_nil {entries : List (Entry κ η α)} {k : κ} (h : ∀ e ∈ entries, e.key ≠ k) :
    membersOf entries k = [] := by
  rw [membersOf, List.map_eq_nil_iff, List.filter_eq_nil_iff]
  simpa using h

theorem mem_keys_file {e : Entry κ η α} {gs : List (Group κ η α)} {k : κ} :
    k ∈ (file e gs).map Group.key ↔ k = e.key ∨ k ∈ gs.map Group.key := by
  induction gs with
  | nil => simp [file]
  | cons g gs ih =>
      rw [file]
      split_ifs with h
      · simp only [List.map_cons, List.mem_cons, h]
        tauto
      · simp only [List.map_cons, List.mem_cons, ih]
        tauto

theorem nodup_file (e : Entry κ η α) {gs : List (Group κ η α)} (h : (gs.map Group.key).Nodup) :
    ((file e gs).map Group.key).Nodup := by
  induction gs with
  | nil => simp [file]
  | cons g gs ih =>
      rw [List.map_cons, List.nodup_cons] at h
      rw [file]
      split_ifs with hkey
      · exact List.nodup_cons.2 h
      · refine List.nodup_cons.2 ⟨?_, ih h.2⟩
        rw [mem_keys_file, not_or]
        exact ⟨hkey, h.1⟩

/-- A group after an entry was filed: an old one, an old one with the entry, or a new one. -/
theorem mem_file {e : Entry κ η α} {gs : List (Group κ η α)} (hnodup : (gs.map Group.key).Nodup)
    {g : Group κ η α} (hg : g ∈ file e gs) : (g ∈ gs ∧ g.key ≠ e.key) ∨
      (∃ old ∈ gs, old.key = e.key ∧ g = { old with members := old.members ++ [e.item] }) ∨
      (e.key ∉ gs.map Group.key ∧ g = ⟨e.key, e.head, [e.item]⟩) := by
  induction gs with
  | nil => exact .inr (.inr ⟨List.not_mem_nil, List.mem_singleton.1 hg⟩)
  | cons first gs ih =>
      rw [List.map_cons, List.nodup_cons] at hnodup
      rw [file] at hg
      split_ifs at hg with hkey
      · rcases List.mem_cons.1 hg with rfl | hg
        · exact .inr (.inl ⟨first, List.mem_cons_self, hkey, rfl⟩)
        · refine .inl ⟨List.mem_cons_of_mem _ hg, fun heq => hnodup.1 ?_⟩
          exact List.mem_map.2 ⟨g, hg, heq.trans hkey.symm⟩
      · rcases List.mem_cons.1 hg with rfl | hg
        · exact .inl ⟨List.mem_cons_self, hkey⟩
        · rcases ih hnodup.2 hg with ⟨hmem, hne⟩ | ⟨old, hold, h⟩ | ⟨hnew, rfl⟩
          · exact .inl ⟨List.mem_cons_of_mem _ hmem, hne⟩
          · exact .inr (.inl ⟨old, List.mem_cons_of_mem _ hold, h⟩)
          · refine .inr (.inr ⟨?_, rfl⟩)
            rw [List.map_cons, List.mem_cons, not_or]
            exact ⟨fun heq => hkey heq.symm, hnew⟩

/-- **One entry more.** -/
theorem Grouped.file {entries : List (Entry κ η α)} {gs : List (Group κ η α)} (h : Grouped entries gs)
    (e : Entry κ η α) : Grouped (entries ++ [e]) (file e gs) where
  nodup := nodup_file e h.nodup
  members := by
    intro g hg
    rw [membersOf_append]
    rcases mem_file h.nodup hg with ⟨hmem, hne⟩ | ⟨old, hold, hkey, rfl⟩ | ⟨hnew, rfl⟩
    · rw [if_neg (Ne.symm hne), List.append_nil, h.members g hmem]
    · rw [if_pos hkey.symm, h.members old hold]
    · have hnone : membersOf entries e.key = [] := by
        refine membersOf_eq_nil fun d hd heq => hnew ?_
        obtain ⟨g, hg, hkey⟩ := h.covers d hd
        exact List.mem_map.2 ⟨g, hg, hkey.trans heq⟩
      rw [if_pos rfl, hnone, List.nil_append]
  head := by
    intro g hg
    rcases mem_file h.nodup hg with ⟨hmem, -⟩ | ⟨old, hold, -, rfl⟩ | ⟨-, rfl⟩
    · obtain ⟨d, hd, hdg⟩ := h.head g hmem
      exact ⟨d, List.mem_append_left _ hd, hdg⟩
    · obtain ⟨d, hd, hdg⟩ := h.head old hold
      exact ⟨d, List.mem_append_left _ hd, hdg⟩
    · exact ⟨e, List.mem_append_right _ List.mem_cons_self, rfl, rfl⟩
  covers := by
    intro d hd
    have hkeys : d.key ∈ (Grouping.file e gs).map Group.key := by
      rw [mem_keys_file]
      rcases List.mem_append.1 hd with hd | hd
      · obtain ⟨g, hg, hkey⟩ := h.covers d hd
        exact .inr (List.mem_map.2 ⟨g, hg, hkey⟩)
      · exact .inl (congrArg _ (List.mem_singleton.1 hd))
    exact List.mem_map.1 hkeys

theorem grouped_nil : Grouped ([] : List (Entry κ η α)) [] := by
  constructor <;> simp

/-- More entries. -/
theorem Grouped.collect {entries more : List (Entry κ η α)} {gs : List (Group κ η α)} (h : Grouped entries gs) :
    Grouped (entries ++ more) (collect more gs) := by
  induction more generalizing entries gs with
  | nil => rwa [List.append_nil]
  | cons e more ih =>
      have hrest := ih (h.file e)
      rwa [List.append_assoc] at hrest

/-- **Filing gives the groups of the list.** -/
theorem grouped_collect (entries : List (Entry κ η α)) : Grouped entries (collect entries []) :=
  grouped_nil.collect

/-! ### What groups hold -/

section Grouped

variable {entries : List (Entry κ η α)} {gs : List (Group κ η α)}

/-- Groups whose keys are those of some of the entries hold these entries. -/
theorem perm_of_keys {keys : List κ} (hnodup : keys.Nodup) (entries : List (Entry κ η α)) :
    (keys.flatMap (membersOf entries)).Perm ((entries.filter fun e => e.key ∈ keys).map Entry.item) := by
  induction keys with
  | nil => simp
  | cons k keys ih =>
      rw [List.nodup_cons] at hnodup
      rw [List.flatMap_cons]
      refine ((ih hnodup.2).append_left _).trans ?_
      rw [membersOf, ← List.map_append]
      refine List.Perm.map _ ?_
      have hsplit := List.filter_append_perm (fun e : Entry κ η α => decide (e.key = k))
        (entries.filter fun e => e.key ∈ k :: keys)
      refine List.Perm.trans (List.Perm.of_eq ?_) hsplit
      rw [List.filter_filter, List.filter_filter]
      congr 1
      · refine List.filter_congr fun e _ => ?_
        by_cases hk : e.key = k <;> simp [hk]
      · refine List.filter_congr fun e _ => ?_
        by_cases hk : e.key = k
        · simp [hk, hnodup.1]
        · simp [hk]

/-- **Every entry is a member of one group**, as often as it was filed. -/
theorem Grouped.perm_members (h : Grouped entries gs) :
    (gs.flatMap Group.members).Perm (entries.map Entry.item) := by
  have hflat : gs.flatMap Group.members = (gs.map Group.key).flatMap (membersOf entries) := by
    rw [List.flatMap_map]
    exact List.flatMap_congr fun g hg => h.members g hg
  have hall : (entries.filter fun e => e.key ∈ gs.map Group.key) = entries := by
    refine List.filter_eq_self.2 fun e he => ?_
    obtain ⟨g, hg, hkey⟩ := h.covers e he
    exact decide_eq_true (List.mem_map.2 ⟨g, hg, hkey⟩)
  rw [hflat]
  exact (perm_of_keys h.nodup entries).trans (List.Perm.of_eq (congrArg _ hall))

/-- **The order of the entries** changes the order of the members only, when entries of one key have one head. -/
theorem Grouped.exists_of_perm {β : Type} (forget : α → β) {entries' : List (Entry κ η α)}
    {gs' : List (Group κ η α)} (h : Grouped entries gs) (h' : Grouped entries' gs')
    (hperm : (entries.map fun e => (e.key, e.head, forget e.item)).Perm
      (entries'.map fun e => (e.key, e.head, forget e.item)))
    (hheads : ∀ d ∈ entries, ∀ e ∈ entries, d.key = e.key → d.head = e.head) :
    ∀ g ∈ gs, ∃ g' ∈ gs', g'.key = g.key ∧ g'.head = g.head ∧
      (g.members.map forget).Perm (g'.members.map forget) := by
  intro g hg
  have hsame : ∀ e' ∈ entries', ∃ e ∈ entries, e.key = e'.key ∧ e.head = e'.head := by
    intro e' he'
    have hmem := hperm.mem_iff.2 (List.mem_map_of_mem he')
    obtain ⟨e, he, heq⟩ := List.mem_map.1 hmem
    obtain ⟨hkey, hhead⟩ := Prod.mk.inj heq
    exact ⟨e, he, hkey, (Prod.mk.inj hhead).1⟩
  obtain ⟨d, hd, hdkey, hdhead⟩ := h.head g hg
  have hmem := hperm.mem_iff.1 (List.mem_map_of_mem hd)
  obtain ⟨d', hd', heq⟩ := List.mem_map.1 hmem
  obtain ⟨hkey, -⟩ := Prod.mk.inj heq
  obtain ⟨g', hg', hg'key⟩ := h'.covers d' hd'
  have hkeys : g'.key = g.key := hg'key.trans (hkey.trans hdkey)
  refine ⟨g', hg', hkeys, ?_, ?_⟩
  · obtain ⟨e', he', he'key, he'head⟩ := h'.head g' hg'
    obtain ⟨e, he, hekey, hehead⟩ := hsame e' he'
    rw [← he'head, ← hehead, ← hdhead]
    exact hheads e he d hd (by rw [hekey, he'key, hkeys, hdkey])
  · have hforget : ∀ l : List (Entry κ η α), (membersOf l g.key).map forget =
        ((l.map fun e => (e.key, e.head, forget e.item)).filter fun t => t.1 = g.key).map fun t => t.2.2 := by
      intro l
      rw [membersOf, List.map_map, List.filter_map, List.map_map]
      rfl
    rw [h.members g hg, h'.members g' hg', hkeys, hforget, hforget]
    exact (hperm.filter _).map _

end Grouped

section Map

variable {β : Type}

/-- An entry with another item. -/
def Entry.map (f : α → β) (e : Entry κ η α) : Entry κ η β := ⟨e.key, e.head, f e.item⟩

/-- A group with other members. -/
def Group.map (f : α → β) (g : Group κ η α) : Group κ η β := ⟨g.key, g.head, g.members.map f⟩

theorem file_map (f : α → β) (e : Entry κ η α) (gs : List (Group κ η α)) :
    file (e.map f) (gs.map (Group.map f)) = (file e gs).map (Group.map f) := by
  induction gs with
  | nil => rfl
  | cons g gs ih =>
      rw [List.map_cons, file, file]
      by_cases hkey : g.key = e.key
      · rw [if_pos hkey, if_pos (by exact hkey), List.map_cons]
        congr 1
        rw [Group.map, Group.map, List.map_append]
        rfl
      · rw [if_neg hkey, if_neg (by exact hkey), List.map_cons, ih]

/-- Filing does not look at what is filed. -/
theorem collect_map (f : α → β) (entries : List (Entry κ η α)) (gs : List (Group κ η α)) :
    collect (entries.map (Entry.map f)) (gs.map (Group.map f)) = (collect entries gs).map (Group.map f) := by
  induction entries generalizing gs with
  | nil => rfl
  | cons e entries ih =>
      rw [List.map_cons, collect, List.foldl_cons, file_map]
      exact ih (file e gs)

end Map

/-! ### Groups in the order of their keys -/

omit [DecidableEq κ] in
/-- Lists of groups with the same keys. -/
theorem forall₂_of_keys {gs gs' : List (Group κ η α)} {R : Group κ η α → Group κ η α → Prop}
    (hkeys : gs.map Group.key = gs'.map Group.key)
    (hrel : ∀ g ∈ gs, ∀ g' ∈ gs', g.key = g'.key → R g g') : List.Forall₂ R gs gs' := by
  induction gs generalizing gs' with
  | nil =>
      obtain rfl := List.map_eq_nil_iff.1 hkeys.symm
      exact .nil
  | cons g gs ih =>
      cases gs' with
      | nil => cases hkeys
      | cons g' gs' =>
          obtain ⟨hkey, hrest⟩ := List.cons.inj hkeys
          refine .cons (hrel g List.mem_cons_self g' List.mem_cons_self hkey) (ih hrest ?_)
          exact fun a ha b hb => hrel a (List.mem_cons_of_mem g ha) b (List.mem_cons_of_mem g' hb)

omit [DecidableEq κ] in
/-- A group is found by its key. -/
theorem eq_of_key {gs : List (Group κ η α)} (hnodup : (gs.map Group.key).Nodup) {g h : Group κ η α}
    (hg : g ∈ gs) (hh : h ∈ gs) (hkey : g.key = h.key) : g = h :=
  List.inj_on_of_nodup_map hnodup hg hh hkey

end Grouping
