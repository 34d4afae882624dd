/-
**Directories and files.**

A tree has a node at some of its paths, and a path is a list of names, from the root down.  What stands
anywhere stands in a directory: that is the invariant of a tree.  The operations are those of an operating
system, as far as they make and remove directories and write whole files; they fail where it would raise an
`OSError`.

A list of files can be written below an empty directory, each after the directories it lies in, exactly if
no path of the list is above another one.  This module names nothing of the code that is verified with it.

Main definitions:

* `Files.Tree` — what stands where;
* `Files.Tree.mkdir`, `Files.Tree.makeDirs`, `Files.Tree.put` — `mkdir`, `mkdir -p`, and writing a file;
* `Files.Tree.move`, `Files.Tree.remove` — what is done to an entry of a directory;
* `Files.Tree.write` — a file is written below a directory;
* `Files.Holds` — what stands below a directory are the files of a list.

Main results:

* `Files.Tree.isDir_of_prefix` — what is above something is a directory;
* `Files.Holds.write_isSome_iff`, `Files.Holds.write` — one file is written;
* `Files.Holds.writes_isSome_iff`, `Files.Holds.writes` — the files of a list are.
-/

import Mathlib.Data.List.Infix
import Mathlib.Data.List.Nodup
import Mathlib.Data.List.Pairwise
import Mathlib.Logic.Function.Basic
import Mathlib.Tactic.Common

set_option relaxedAutoImplicit false
set_option autoImplicit false

namespace Files

section Paths

variable {ν : Type}

/-- Neither path is above the other, and they differ. -/
def Apart (p q : List ν) : Prop := ¬p <+: q ∧ ¬q <+: p

instance symm_apart : Std.Symm (Apart (ν := ν)) where
  symm _ _ h := ⟨h.2, h.1⟩

/-- Paths that differ are apart from one another exactly if none is above another. -/
theorem pairwise_apart_iff {paths : List (List ν)} (hnodup : paths.Nodup) :
    paths.Pairwise Apart ↔ ∀ p ∈ paths, ∀ q ∈ paths, p <+: q → p = q := by
  constructor
  · intro h p hp q hq hpre
    by_contra hne
    exact (h.forall hp hq hne).1 hpre
  · intro h
    refine hnodup.pairwise_of_forall_ne fun p hp q hq hne => ?_
    exact ⟨fun hpre => hne (h p hp q hq hpre), fun hpre => hne (h q hq p hp hpre).symm⟩

/-- A prefix of a path is the path, or one of the directory it is in. -/
theorem prefix_iff_dropLast {p q : List ν} (hp : p ≠ []) : q <+: p ↔ q = p ∨ q <+: p.dropLast := by
  conv_lhs => rw [← List.dropLast_append_getLast hp]
  rw [List.prefix_concat_iff, List.dropLast_append_getLast]

end Paths

/-- What can stand at a path. -/
inductive Node (β : Type) where
  | dir
  | file (content : β)

/-- A directory tree; names are of one type and contents of another. -/
structure Tree (ν β : Type) where
  node : List ν → Option (Node β)
  root : node [] = some .dir
  parent : ∀ {p : List ν} {a : ν}, node (p ++ [a]) ≠ none → node p = some .dir

variable {ν β : Type}

/-- Whether a directory stands at a path. -/
def Tree.isDir (t : Tree ν β) (p : List ν) : Bool :=
  match t.node p with
  | some .dir => true
  | _ => false

/-- Whether a file does. -/
def Tree.isFile (t : Tree ν β) (p : List ν) : Bool :=
  match t.node p with
  | some (.file _) => true
  | _ => false

/-- `path.exists()` -/
def Tree.exists (t : Tree ν β) (p : List ν) : Bool := (t.node p).isSome

namespace Tree

variable {t : Tree ν β} {p q : List ν}

theorem isDir_iff : t.isDir p = true ↔ t.node p = some .dir := by
  rw [isDir]
  split
  · next h => exact iff_of_true rfl h
  · next h => exact iff_of_false Bool.false_ne_true h

theorem isFile_iff : t.isFile p = true ↔ ∃ c, t.node p = some (.file c) := by
  rw [isFile]
  split
  · next c h => exact iff_of_true rfl ⟨c, h⟩
  · next h => exact iff_of_false Bool.false_ne_true fun hfile => hfile.elim fun c hc => h c hc

/-- What is above something is a directory. -/
theorem isDir_of_prefix (h : t.node p ≠ none) (hq : q <+: p) (hne : q ≠ p) : t.isDir q = true := by
  obtain ⟨r, rfl⟩ := hq
  induction r using List.reverseRecOn with
  | nil => exact absurd (List.append_nil q).symm hne
  | append_singleton r a ih =>
      rw [← List.append_assoc] at h
      have hdir := t.parent h
      cases r with
      | nil => simpa using isDir_iff.2 hdir
      | cons b r => exact ih (by simp [hdir]) (by simp)

theorem isFile_eq_false (h : t.isDir p = true) : t.isFile p = false := by
  rw [isFile, isDir_iff.1 h]

/-! ### The operations -/

/-- An entry that is not above a path is not above what stands in it, unless it stands there itself. -/
theorem not_prefix_concat {c d : ν} (h : ¬p ++ [d] <+: q) (hne : q ≠ p) : ¬p ++ [d] <+: q ++ [c] := by
  rw [List.prefix_concat_iff]
  rintro (heq | hpre)
  · exact hne (List.append_inj_left' heq rfl).symm
  · exact h hpre

variable [DecidableEq ν]

/-- A path, with what is below it, can be given a node where its parent is a directory. -/
theorem parent_update {c : β} (hp : t.isDir p.dropLast = true) (hnot : t.isDir p = false)
    {q : List ν} {a : ν} (h : Function.update t.node p (some (.file c)) (q ++ [a]) ≠ none) :
    Function.update t.node p (some (.file c)) q = some .dir := by
  have hdir : t.node q = some .dir := by
    by_cases hqa : q ++ [a] = p
    · rw [← hqa, List.dropLast_concat] at hp
      exact isDir_iff.1 hp
    · rw [Function.update_of_ne hqa] at h
      exact t.parent h
  rw [Function.update_of_ne _, hdir]
  rintro rfl
  rw [isDir_iff.2 hdir] at hnot
  cases hnot

variable (t p)

/-- `os.mkdir(p)` -/
def mkdir : Option (Tree ν β) :=
  if h : t.isDir p.dropLast = true ∧ t.exists p = false then
    some
      { node := Function.update t.node p (some .dir)
        root := by
          by_cases hp : [] = p
          · rw [hp, Function.update_self]
          · rw [Function.update_of_ne hp, t.root]
        parent := by
          intro q a hq
          by_cases hqp : q = p
          · rw [hqp, Function.update_self]
          · rw [Function.update_of_ne hqp]
            by_cases hqa : q ++ [a] = p
            · have hdir := h.1
              rw [← hqa, List.dropLast_concat] at hdir
              exact isDir_iff.1 hdir
            · rw [Function.update_of_ne hqa] at hq
              exact t.parent hq }
  else none

/-- `Path(p).mkdir(parents=True, exist_ok=True)`; a file on the way is in the way. -/
def makeDirs : Option (Tree ν β) :=
  if h : ∀ q ∈ p.inits, t.isFile q = false then
    some
      { node := fun q => if q <+: p then some .dir else t.node q
        root := if_pos List.nil_prefix
        parent := by
          intro q a hq
          by_cases hqp : q <+: p
          · exact if_pos hqp
          · rw [if_neg hqp]
            rw [if_neg fun hqa => hqp ((List.prefix_append q [a]).trans hqa)] at hq
            exact t.parent hq }
  else none

/-- A file is opened for writing, and the content is what is in it then. -/
def put (c : β) : Option (Tree ν β) :=
  if h : t.isDir p.dropLast = true ∧ t.isDir p = false then
    some
      { node := Function.update t.node p (some (.file c))
        root := by
          rw [Function.update_of_ne _, t.root]
          rintro rfl
          exact absurd (isDir_iff.2 t.root) (by rw [h.2]; simp)
        parent := parent_update h.1 h.2 }
  else none

/-- The entry `a` of the directory `p` is removed with all that is in it. -/
def remove (a : ν) : Tree ν β where
  node q := if p ++ [a] <+: q then none else t.node q
  root := by
    rw [if_neg (by simp), t.root]
  parent := by
    intro q b hq
    split_ifs at hq with hqb
    · exact absurd rfl hq
    · rw [if_neg fun hpq => hqb (hpq.trans (List.prefix_append q [b]))]
      exact t.parent hq

/-- The entry `a` of the directory `p` becomes its entry `b`, of which there is none yet. -/
def move (a b : ν) : Option (Tree ν β) :=
  if h : t.exists (p ++ [a]) = true ∧ t.exists (p ++ [b]) = false then
    some
      { node := fun q =>
          if p ++ [b] <+: q then t.node (p ++ [a] ++ q.drop (p.length + 1))
          else if p ++ [a] <+: q then none else t.node q
        root := by
          rw [if_neg (by simp), if_neg (by simp), t.root]
        parent := by
          intro q c hq
          have hp : t.node p = some .dir := t.parent (Option.isSome_iff_ne_none.1 h.1)
          by_cases hbq : p ++ [b] <+: q
          · rw [if_pos hbq]
            obtain ⟨r, rfl⟩ := hbq
            rw [if_pos ⟨r ++ [c], by simp⟩] at hq
            refine t.parent (a := c) ?_
            simpa using hq
          · rw [if_neg hbq]
            by_cases hqp : q = p
            · subst hqp
              rw [if_neg fun hpre => absurd hpre.length_le (by simp), hp]
            · rw [if_neg (not_prefix_concat hbq hqp)] at hq
              split_ifs at hq with haq
              · exact absurd rfl hq
              · rw [if_neg fun hpq => haq (hpq.trans (List.prefix_append q [c]))]
                exact t.parent hq }
  else none

end Tree

/-! ### What the operations need, and what they do -/

variable [DecidableEq ν]

namespace Tree

variable {t t' : Tree ν β} {p q : List ν}

theorem makeDirs_isSome_iff : (t.makeDirs p).isSome ↔ ∀ q, q <+: p → t.isFile q = false := by
  rw [makeDirs]
  split
  · next h => exact iff_of_true rfl fun q hq => h q ((List.mem_inits _ _).2 hq)
  · next h => exact iff_of_false Bool.false_ne_true fun hall => h fun q hq => hall q ((List.mem_inits _ _).1 hq)

/-- The directories are made, and nothing else changes. -/
theorem makeDirs_node (h : t.makeDirs p = some t') (q : List ν) :
    t'.node q = if q <+: p then some .dir else t.node q := by
  rw [makeDirs] at h
  split at h
  · obtain rfl := Option.some.inj h
    rfl
  · cases h

theorem put_isSome_iff {c : β} :
    (t.put p c).isSome ↔ t.isDir p.dropLast = true ∧ t.isDir p = false := by
  rw [put]
  split
  · next h => exact iff_of_true rfl h
  · next h => exact iff_of_false Bool.false_ne_true h

/-- The file is written, and nothing else changes. -/
theorem put_node {c : β} (h : t.put p c = some t') :
    t'.node = Function.update t.node p (some (.file c)) := by
  rw [put] at h
  split at h
  · obtain rfl := Option.some.inj h
    rfl
  · cases h

/-- A file is written again. -/
theorem put_put {c d : β} (h : t.put p c = some t') : t'.put p d = t.put p d := by
  obtain ⟨hparent, hp⟩ := put_isSome_iff.1 (Option.isSome_iff_exists.2 ⟨t', h⟩)
  have hnode := put_node h
  have hparent' : t'.isDir p.dropLast = true := by
    rw [isDir_iff, hnode, Function.update_of_ne _, isDir_iff.1 hparent]
    intro heq
    rw [heq, hp] at hparent
    cases hparent
  have hp' : t'.isDir p = false := by
    rw [isDir, hnode, Function.update_self]
  simp only [put, hparent, hp, hparent', hp', hnode, Function.update_idem]

theorem mkdir_isSome_iff :
    (t.mkdir p).isSome ↔ t.isDir p.dropLast = true ∧ t.exists p = false := by
  rw [mkdir]
  split
  · next h => exact iff_of_true rfl h
  · next h => exact iff_of_false Bool.false_ne_true h

theorem mkdir_node (h : t.mkdir p = some t') : t'.node = Function.update t.node p (some .dir) := by
  rw [mkdir] at h
  split at h
  · obtain rfl := Option.some.inj h
    rfl
  · cases h

theorem move_isSome_iff {a b : ν} :
    (t.move p a b).isSome ↔ t.exists (p ++ [a]) = true ∧ t.exists (p ++ [b]) = false := by
  rw [move]
  split
  · next h => exact iff_of_true rfl h
  · next h => exact iff_of_false Bool.false_ne_true h

/-- What was below the one name is below the other. -/
theorem move_node {a b : ν} (h : t.move p a b = some t') (q : List ν) :
    t'.node (p ++ [b] ++ q) = t.node (p ++ [a] ++ q) := by
  rw [move] at h
  split at h
  · obtain rfl := Option.some.inj h
    have hlen : (p ++ [b]).length = p.length + 1 := by simp
    show (if p ++ [b] <+: p ++ [b] ++ q then _ else _) = _
    rw [if_pos (List.prefix_append _ q), ← hlen, List.drop_left]
  · cases h

end Tree

/-! ### The files of a list -/

/-- What the files of a list put at a path, seen from the directory they are in. -/
def below (files : List (List ν × β)) (q : List ν) : Option (Node β) :=
  match files.find? fun f => f.1 = q with
  | some f => some (.file f.2)
  | none => if q = [] ∨ ∃ f ∈ files, q <+: f.1 then some .dir else none

/-- Below a directory there are the files of a list and the directories they lie in. -/
def Holds (t : Tree ν β) (d : List ν) (files : List (List ν × β)) : Prop :=
  ∀ q, t.node (d ++ q) = below files q

/-- A file is written below a directory, after the directories it lies in. -/
def Tree.write (t : Tree ν β) (d : List ν) (f : List ν × β) : Option (Tree ν β) := do
  let t ← t.makeDirs (d ++ f.1.dropLast)
  t.put (d ++ f.1) f.2

variable {t t' : Tree ν β} {d p q : List ν} {c : β} {files : List (List ν × β)}

theorem find?_eq_none (h : ∀ f ∈ files, f.1 ≠ q) : (files.find? fun f => f.1 = q) = none := by
  rw [List.find?_eq_none]
  intro f hf
  simpa using h f hf

/-- Where no file of the list is, there is at most a directory. -/
theorem below_of_ne (h : ∀ f ∈ files, f.1 ≠ q) :
    below files q = if q = [] ∨ ∃ f ∈ files, q <+: f.1 then some .dir else none := by
  rw [below, find?_eq_none h]

/-- Where one is, there is a file. -/
theorem exists_below {f : List ν × β} (h : f ∈ files) : ∃ g ∈ files, g.1 = f.1 ∧
    below files f.1 = some (.file g.2) := by
  cases hfind : files.find? fun g => g.1 = f.1 with
  | none => simpa using List.find?_eq_none.1 hfind f h
  | some g =>
      refine ⟨g, List.mem_of_find?_eq_some hfind, by simpa using List.find?_some hfind, ?_⟩
      rw [below, hfind]

/-- The files of a list whose paths differ are there with their contents. -/
theorem below_eq_file {f : List ν × β} (hnodup : (files.map Prod.fst).Nodup) (h : f ∈ files) :
    below files f.1 = some (.file f.2) := by
  obtain ⟨g, hg, hpath, hbelow⟩ := exists_below h
  rw [hbelow, List.inj_on_of_nodup_map hnodup hg h hpath]

namespace Holds

theorem isDir (h : Holds t d files) (hfiles : ∀ f ∈ files, f.1 ≠ []) : t.isDir d = true := by
  have hnode := h []
  rw [List.append_nil, below_of_ne hfiles, if_pos (.inl rfl)] at hnode
  exact Tree.isDir_iff.2 hnode

theorem isFile_iff (h : Holds t d files) : t.isFile (d ++ q) = true ↔ ∃ f ∈ files, f.1 = q := by
  rw [Tree.isFile_iff, h q]
  constructor
  · rintro ⟨c, hc⟩
    by_contra hnone
    rw [below_of_ne fun f hf hfq => hnone ⟨f, hf, hfq⟩] at hc
    split_ifs at hc
    cases hc
  · rintro ⟨f, hf, rfl⟩
    obtain ⟨g, -, -, hg⟩ := exists_below hf
    exact ⟨g.2, hg⟩

theorem isDir_iff (h : Holds t d files) (hq : q ≠ []) (hne : ∀ f ∈ files, f.1 ≠ q) :
    t.isDir (d ++ q) = true ↔ ∃ f ∈ files, q <+: f.1 := by
  rw [Tree.isDir_iff, h q, below_of_ne hne]
  simp [hq]

/-- The files of a list are apart from a path exactly if it can be written beside them. -/
theorem write_isSome_iff (h : Holds t d files) (hfiles : ∀ f ∈ files, f.1 ≠ []) (hp : p ≠ [])
    (hne : ∀ f ∈ files, f.1 ≠ p) : (t.write d (p, c)).isSome ↔ ∀ f ∈ files, Apart f.1 p := by
  have hdir := h.isDir hfiles
  have hmake : (t.makeDirs (d ++ p.dropLast)).isSome ↔ ∀ f ∈ files, ¬f.1 <+: p := by
    rw [Tree.makeDirs_isSome_iff]
    constructor
    · intro hall f hf hpre
      have hpre := ((prefix_iff_dropLast hp).1 hpre).resolve_left (hne f hf)
      have := hall (d ++ f.1) ((List.prefix_append_right_inj d).2 hpre)
      rw [h.isFile_iff.2 ⟨f, hf, rfl⟩] at this
      cases this
    · intro hall q hq
      rcases List.prefix_or_prefix_of_prefix hq (List.prefix_append d p.dropLast) with hqd | ⟨r, rfl⟩
      · by_cases heq : q = d
        · exact Tree.isFile_eq_false (heq ▸ hdir)
        · exact Tree.isFile_eq_false (Tree.isDir_of_prefix (by simp [Tree.isDir_iff.1 hdir]) hqd heq)
      · rw [← Bool.not_eq_true, h.isFile_iff]
        rintro ⟨f, hf, rfl⟩
        exact hall f hf ((prefix_iff_dropLast hp).2 (.inr ((List.prefix_append_right_inj d).1 hq)))
  have hdrop : (d ++ p).dropLast = d ++ p.dropLast := List.dropLast_append_of_ne_nil hp
  have hnot : ¬p <+: p.dropLast := fun hpre => by
    have := hpre.length_le
    rw [List.length_dropLast] at this
    have := List.length_pos_of_ne_nil hp
    omega
  -- once the directories are there, only a directory at the path itself is in the way
  have hput : ∀ t', t.makeDirs (d ++ p.dropLast) = some t' →
      ((t'.put (d ++ p) c).isSome ↔ ∀ f ∈ files, ¬p <+: f.1) := by
    intro t' ht'
    have hnode := Tree.makeDirs_node ht'
    have hparent : t'.isDir (d ++ p).dropLast = true := by
      rw [Tree.isDir_iff, hdrop, hnode, if_pos (List.prefix_refl _)]
    have hsame : t'.isDir (d ++ p) = t.isDir (d ++ p) := by
      rw [Tree.isDir, Tree.isDir, hnode, if_neg fun hpre => hnot ((List.prefix_append_right_inj d).1 hpre)]
    rw [Tree.put_isSome_iff, hsame, and_iff_right hparent, ← Bool.not_eq_true, h.isDir_iff hp hne]
    simp only [not_exists, not_and]
  rw [Tree.write]
  cases hmk : t.makeDirs (d ++ p.dropLast) with
  | none =>
      refine iff_of_false Bool.false_ne_true fun hall => ?_
      have := hmake.2 fun f hf => (hall f hf).1
      rw [hmk] at this
      cases this
  | some t₁ =>
      have hfirst := hmake.1 (Option.isSome_iff_exists.2 ⟨t₁, hmk⟩)
      rw [Option.bind_eq_bind, Option.bind_some, hput t₁ hmk]
      exact forall₂_congr fun f hf => (and_iff_right (hfirst f hf)).symm

/-- What is written is there, and nothing else has changed below the directory. -/
theorem write (h : Holds t d files) (hfiles : ∀ f ∈ files, f.1 ≠ []) (hp : p ≠ [])
    (hne : ∀ f ∈ files, f.1 ≠ p) (ht' : t.write d (p, c) = some t') :
    Holds t' d (files ++ [(p, c)]) := by
  have hapart := (h.write_isSome_iff hfiles hp hne).1 (Option.isSome_iff_exists.2 ⟨t', ht'⟩)
  rw [Tree.write] at ht'
  obtain ⟨t₁, hmake, hput⟩ := Option.bind_eq_some_iff.1 ht'
  intro q
  rw [Tree.put_node hput]
  by_cases hq : q = p
  · subst hq
    rw [Function.update_self, below, List.find?_append, find?_eq_none hne]
    simp
  · have hfind : ((files ++ [(p, c)]).find? fun f => f.1 = q) = files.find? fun f => f.1 = q := by
      rw [List.find?_append]
      simp [Ne.symm hq]
    rw [Function.update_of_ne fun heq => hq (List.append_cancel_left heq), Tree.makeDirs_node hmake, h q,
      below, below, hfind]
    simp only [List.prefix_append_right_inj]
    have hpre : q <+: p ↔ q <+: p.dropLast := by rw [prefix_iff_dropLast hp, or_iff_right hq]
    cases hcase : files.find? fun f => f.1 = q with
    | some f =>
        have hf := hapart f (List.mem_of_find?_eq_some hcase)
        have hfq : f.1 = q := by simpa using List.find?_some hcase
        rw [if_neg fun hqp => hf.1 (hfq ▸ hpre.2 hqp)]
    | none =>
        simp only [List.mem_append, List.mem_singleton, or_and_right, exists_or, exists_eq_left, hpre]
        by_cases hqp : q <+: p.dropLast
        · rw [if_pos hqp, if_pos (.inr (.inr hqp))]
        · rw [if_neg hqp]
          refine if_congr ?_ rfl rfl
          rw [or_iff_left hqp]

end Holds

/-- Outside the directory nothing changes. -/
theorem Tree.write_node_of_not_prefix {f : List ν × β} (hd : t.isDir d = true)
    (ht' : t.write d f = some t') (hq : ¬d <+: q) : t'.node q = t.node q := by
  rw [Tree.write] at ht'
  obtain ⟨t₁, hmake, hput⟩ := Option.bind_eq_some_iff.1 ht'
  have hqf : q ≠ d ++ f.1 := fun heq => hq (heq ▸ List.prefix_append d f.1)
  rw [Tree.put_node hput, Function.update_of_ne hqf, Tree.makeDirs_node hmake]
  split_ifs with hpre
  · rcases List.prefix_or_prefix_of_prefix hpre (List.prefix_append d f.1.dropLast) with hqd | hdq
    · have hne : t.node d ≠ none := by simp [Tree.isDir_iff.1 hd]
      have hqd' : q ≠ d := fun heq => hq (heq ▸ List.prefix_refl d)
      exact (Tree.isDir_iff.1 (Tree.isDir_of_prefix hne hqd hqd')).symm
    · exact absurd hdq hq
  · rfl

omit [DecidableEq ν] in
/-- The next file of a list has a path of its own. -/
theorem head_of_append {g : List ν × β} {rest : List (List ν × β)}
    (hpaths : ∀ f ∈ files ++ g :: rest, f.1 ≠ []) (hnodup : ((files ++ g :: rest).map Prod.fst).Nodup) :
    (∀ f ∈ files, f.1 ≠ []) ∧ g.1 ≠ [] ∧ (∀ f ∈ files, f.1 ≠ g.1) ∧
      files ++ g :: rest = files ++ [g] ++ rest := by
  refine ⟨fun f hf => hpaths f (by simp [hf]), hpaths g (by simp), fun f hf heq => ?_, by simp⟩
  rw [List.map_append, List.nodup_append] at hnodup
  exact hnodup.2.2 f.1 (List.mem_map_of_mem hf) g.1 (by simp) heq

/-- The files of a list are written one after the other. -/
def Tree.writes (t : Tree ν β) (d : List ν) (rest : List (List ν × β)) : Option (Tree ν β) :=
  rest.foldlM (fun t f => t.write d f) t

/-- The list can be written exactly if its paths are apart from one another, and from those that are
there. -/
theorem Holds.writes_isSome_iff {rest : List (List ν × β)} (h : Holds t d files)
    (hpaths : ∀ f ∈ files ++ rest, f.1 ≠ []) (hnodup : ((files ++ rest).map Prod.fst).Nodup) :
    (t.writes d rest).isSome ↔
      (rest.map Prod.fst).Pairwise Apart ∧ ∀ f ∈ files, ∀ g ∈ rest, Apart f.1 g.1 := by
  induction rest generalizing t files with
  | nil => simp [Tree.writes]
  | cons g rest ih =>
      obtain ⟨p, c⟩ := g
      obtain ⟨hfiles, hp, hne, hsplit⟩ := head_of_append hpaths hnodup
      have hone := h.write_isSome_iff hfiles hp hne (c := c)
      rw [Tree.writes, List.foldlM_cons]
      cases hw : t.write d (p, c) with
      | none =>
          rw [hw] at hone
          refine iff_of_false Bool.false_ne_true fun hall => ?_
          have := hone.2 fun f hf => hall.2 f hf (p, c) (by simp)
          cases this
      | some t₁ =>
          have hfirst := hone.1 (Option.isSome_iff_exists.2 ⟨t₁, hw⟩)
          rw [hsplit] at hpaths hnodup
          have hrest := ih (h.write hfiles hp hne hw) hpaths hnodup
          rw [Option.bind_eq_bind, Option.bind_some, ← Tree.writes, hrest]
          simp only [List.map_cons, List.pairwise_cons, List.forall_mem_map, List.forall_mem_append,
            List.forall_mem_cons, List.not_mem_nil, false_imp_iff, implies_true, and_true]
          constructor
          · rintro ⟨hpair, hold, hnew⟩
            exact ⟨⟨hnew, hpair⟩, fun f hf => ⟨hfirst f hf, hold f hf⟩⟩
          · rintro ⟨⟨hnew, hpair⟩, hold⟩
            exact ⟨hpair, fun f hf => (hold f hf).2, hnew⟩

/-- In an empty directory a list can be written exactly if its paths are apart from one another. -/
theorem Holds.writes_empty_isSome_iff {rest : List (List ν × β)} (h : Holds t d [])
    (hpaths : ∀ f ∈ rest, f.1 ≠ []) (hnodup : (rest.map Prod.fst).Nodup) :
    (t.writes d rest).isSome ↔ (rest.map Prod.fst).Pairwise Apart := by
  rw [h.writes_isSome_iff hpaths hnodup]
  simp

/-- When all are written they are there, beside those that were. -/
theorem Holds.writes {rest : List (List ν × β)} (h : Holds t d files)
    (hpaths : ∀ f ∈ files ++ rest, f.1 ≠ []) (hnodup : ((files ++ rest).map Prod.fst).Nodup)
    (ht' : t.writes d rest = some t') : Holds t' d (files ++ rest) := by
  induction rest generalizing t files with
  | nil =>
      obtain rfl := Option.some.inj ht'
      simpa using h
  | cons g rest ih =>
      obtain ⟨p, c⟩ := g
      obtain ⟨hfiles, hp, hne, hsplit⟩ := head_of_append hpaths hnodup
      rw [Tree.writes, List.foldlM_cons] at ht'
      obtain ⟨t₁, hw, hrest⟩ := Option.bind_eq_some_iff.1 ht'
      rw [hsplit] at hpaths hnodup ⊢
      exact ih (h.write hfiles hp hne hw) hpaths hnodup hrest

/-- Outside the directory nothing changes then, either. -/
theorem Holds.writes_node_of_not_prefix {rest : List (List ν × β)} (h : Holds t d files)
    (hpaths : ∀ f ∈ files ++ rest, f.1 ≠ []) (hnodup : ((files ++ rest).map Prod.fst).Nodup)
    (ht' : t.writes d rest = some t') (hq : ¬d <+: q) : t'.node q = t.node q := by
  induction rest generalizing t files with
  | nil =>
      obtain rfl := Option.some.inj ht'
      rfl
  | cons g rest ih =>
      rw [Tree.writes, List.foldlM_cons] at ht'
      obtain ⟨t₁, hw, hrest⟩ := Option.bind_eq_some_iff.1 ht'
      obtain ⟨hfiles, hp, hne, hsplit⟩ := head_of_append hpaths hnodup
      have hfirst := Tree.write_node_of_not_prefix (h.isDir hfiles) hw hq
      rw [hsplit] at hpaths hnodup
      rw [ih (h.write hfiles hp hne hw) hpaths hnodup hrest, hfirst]

/-- An empty directory holds the files of the empty list. -/
theorem holds_nil (hd : t.isDir d = true) (hempty : ∀ a q, t.node (d ++ a :: q) = none) :
    Holds t d [] := by
  intro q
  cases q with
  | nil => simpa [below] using Tree.isDir_iff.1 hd
  | cons a q => simpa [below] using hempty a q

end Files
