/-
**What the merge of model accounts keeps.**

The merge is retold with the statements and the skills themselves in place of their sources: each has its place
among the exports, so that it can be said in which group the merge put it.  A step of each loop files at most one
of them, and from this the groups of a whole merge are the groups of all that was accepted.

The digest of a claim is taken from the first 4000 characters of the redacted claim, and the digest of a skill from
a name of at most 240 characters, a NUL and a coordinate of at most 512.  Two claims that differ behind the bound
share a group, and so do two skills with a NUL in a name that read the same when they are joined.

Main definitions:

* `ModelSources.Sourced`, `ModelSources.Kind` — a statement or a skill of an export, and what is filed of it;
* `ModelSources.Filed` — the groups hold every accepted source once;
* `ModelSources.Exact` — the groups are those of equal claims, names and coordinates, in every order of the exports;
* `ModelSources.Distinguished` — the digested texts tell claims, names and coordinates apart.

Main results:

* `ModelSources.merged_of_mergeExports` — what a merge filed, by steps;
* `ModelSources.exact_iff` — a merge is exact when the digested texts distinguish.
-/

import Wuchang.ModelSources

set_option relaxedAutoImplicit false
set_option autoImplicit false

namespace ModelSources

open Py TotalField
open ProgressProjection (Fault invalid requireNonEmptyString elementsOr)
open Grouping (Group Entry Grouped collect)

/-! ### What is filed -/

/-- A statement or a skill at its place among the exports. -/
structure Sourced where
  /-- `source_ordinal` -/
  ordinal : ℕ
  /-- the place in the list of the export -/
  place : ℕ
  /-- the coordinate of the account -/
  coordinate : PyStr
  value : PyVal

/-- What the code does with the elements of a field of the exports. -/
structure Kind (η : Type) where
  field : String
  /-- the others are skipped -/
  accepts : PyVal → Bool
  /-- what a group shows of its first element -/
  head : PyVal → η
  /-- the text whose digest is the key -/
  text : PyVal → PyStr
  source : Sourced → PyVal

/-- The digest of a text. -/
def textHash (s : PyStr) : PyStr := Sha256.hexdigest (s.flatMap utf8Char)

/-- The claim of a statement, redacted and not cut. -/
def redactedClaim (setting : Setting) (statement : PyVal) : PyStr :=
  sanitizeString setting (claimOf statement ((verbatimOf setting statement).getD []))

/-- The name and the coordinate of a skill as they are digested. -/
def boundedSkill (setting : Setting) (skill : PyVal) : PyStr × PyStr :=
  ((skillName setting skill).take 240, (skillCoordinate setting skill).take 512)

/-- The statements. -/
def statementKind (setting : Setting) : Kind PyStr where
  field := "founder_statements"
  accepts statement := (verbatimOf setting statement).isSome
  head statement := (redactedClaim setting statement).take 4000
  text statement := (redactedClaim setting statement).take 4000
  source s := statementSource setting s.ordinal s.coordinate s.value ((verbatimOf setting s.value).getD [])

/-- The skills. -/
def skillKind (setting : Setting) : Kind (PyStr × PyStr) where
  field := "skills_and_capabilities"
  accepts := isComplete
  head := boundedSkill setting
  text skill := (boundedSkill setting skill).1 ++ 0 :: (boundedSkill setting skill).2
  source s := skillSource setting s.ordinal s.coordinate s.value

/-- The elements of a field of a numbered export. -/
def sourcesIn (setting : Setting) (k : String) (numbered : PyVal × ℕ) : List Sourced :=
  ((listField numbered.1 k).1.zipIdx).map fun p =>
    ⟨numbered.2, p.2, accountCoordinate setting numbered.1, p.1⟩

/-- The elements of a field of the exports. -/
def sourcesOf (setting : Setting) (k : String) (exports : List PyVal) : List Sourced :=
  (exports.zipIdx 1).flatMap (sourcesIn setting k)

section Kind

variable {η : Type}

/-- The elements that are accepted. -/
def Kind.accepted (kind : Kind η) (all : List Sourced) : List Sourced := all.filter fun s => kind.accepts s.value

/-- The entry of an element. -/
def Kind.entry (kind : Kind η) (s : Sourced) : Entry PyStr η Sourced :=
  ⟨textHash (kind.text s.value), kind.head s.value, s⟩

/-- The elements, filed. -/
def Kind.filing (kind : Kind η) (all : List Sourced) : List (Group PyStr η Sourced) :=
  collect ((kind.accepted all).map kind.entry) []

theorem Kind.grouped (kind : Kind η) (all : List Sourced) :
    Grouped ((kind.accepted all).map kind.entry) (kind.filing all) := Grouping.grouped_collect _

theorem Kind.accepted_append (kind : Kind η) (all more : List Sourced) :
    kind.accepted (all ++ more) = kind.accepted all ++ kind.accepted more := List.filter_append _ _

theorem Kind.accepted_skip (kind : Kind η) {s : Sourced} (h : kind.accepts s.value = false) (all : List Sourced) :
    kind.accepted (all ++ [s]) = kind.accepted all := by
  have hnone : kind.accepted [s] = [] := List.filter_cons_of_neg (by simp [h])
  rw [kind.accepted_append, hnone, List.append_nil]

theorem Kind.accepted_take (kind : Kind η) {s : Sourced} (h : kind.accepts s.value = true) (all : List Sourced) :
    kind.accepted (all ++ [s]) = kind.accepted all ++ [s] := by
  have hone : kind.accepted [s] = [s] := List.filter_cons_of_pos (by simp [h])
  rw [kind.accepted_append, hone]

theorem Kind.filing_skip (kind : Kind η) {s : Sourced} (h : kind.accepts s.value = false) (all : List Sourced) :
    kind.filing (all ++ [s]) = kind.filing all := by
  rw [Kind.filing, kind.accepted_skip h]
  rfl

theorem Kind.filing_take (kind : Kind η) {s : Sourced} (h : kind.accepts s.value = true) (all : List Sourced) :
    kind.filing (all ++ [s]) = Grouping.file (kind.entry s) (kind.filing all) := by
  rw [Kind.filing, kind.accepted_take h, List.map_append, collect, List.foldl_append]
  rfl

/-- An element more, as the groups of the sources see it. -/
theorem Kind.filing_take_map (kind : Kind η) {s : Sourced} (h : kind.accepts s.value = true) (all : List Sourced) :
    (kind.filing (all ++ [s])).map (Group.map kind.source) =
      Grouping.file ⟨textHash (kind.text s.value), kind.head s.value, kind.source s⟩
        ((kind.filing all).map (Group.map kind.source)) := by
  rw [kind.filing_take h, ← Grouping.file_map]
  rfl

end Kind

/-! ### The steps of the merge -/

/-- What was merged of some statements and skills. -/
structure Merged (setting : Setting) (statements skills : List Sourced) (m : Merge) : Prop where
  claims : m.claims = ((statementKind setting).filing statements).map (Group.map (statementKind setting).source)
  capabilities : m.skills = ((skillKind setting).filing skills).map (Group.map (skillKind setting).source)
  skippedStatements : ((statementKind setting).accepted statements).length + m.skippedStatements = statements.length
  skippedSkills : ((skillKind setting).accepted skills).length + m.skippedSkills = skills.length

theorem merged_empty (setting : Setting) : Merged setting [] [] Merge.empty where
  claims := rfl
  capabilities := rfl
  skippedStatements := rfl
  skippedSkills := rfl

section Steps

variable {setting : Setting} {statements skills : List Sourced} {m m' : Merge}

/-- **One statement.** -/
theorem Merged.takeStatement (hm : Merged setting statements skills m) {s : Sourced}
    (h : takeStatement setting s.ordinal s.coordinate m s.value = .ok m') :
    Merged setting (statements ++ [s]) skills m' := by
  obtain ⟨_, -, h⟩ := bind_eq_ok_iff.1 h
  cases hverbatim : verbatimOf setting s.value with
  | none =>
      rw [hverbatim] at h
      obtain rfl := pure_eq_ok_iff.1 h
      have hskip : (statementKind setting).accepts s.value = false := by simp [statementKind, hverbatim]
      refine ⟨?_, hm.capabilities, ?_, hm.skippedSkills⟩
      · rw [Kind.filing_skip _ hskip]
        exact hm.claims
      · rw [Kind.accepted_skip _ hskip, List.length_append, ← hm.skippedStatements]
        simp only [List.length_singleton]
        omega
  | some verbatim =>
      rw [hverbatim] at h
      obtain ⟨bytes, hbytes, h⟩ := bind_eq_ok_iff.1 h
      obtain rfl := pure_eq_ok_iff.1 h
      obtain ⟨-, rfl⟩ := encodeUtf8_isOk_iff.1 hbytes
      have htake : (statementKind setting).accepts s.value = true := by simp [statementKind, hverbatim]
      refine ⟨?_, hm.capabilities, ?_, hm.skippedSkills⟩
      · rw [Kind.filing_take_map _ htake, ← hm.claims]
        simp [statementKind, redactedClaim, textHash, hverbatim]
      · rw [Kind.accepted_take _ htake, List.length_append, List.length_append, ← hm.skippedStatements]
        simp only [List.length_singleton]
        omega

/-- **One skill.** -/
theorem Merged.takeSkill (hm : Merged setting statements skills m) {s : Sourced}
    (h : takeSkill setting s.ordinal s.coordinate m s.value = .ok m') :
    Merged setting statements (skills ++ [s]) m' := by
  obtain ⟨_, -, h⟩ := bind_eq_ok_iff.1 h
  by_cases hcomplete : isComplete s.value = true
  · rw [if_neg (not_not.2 hcomplete)] at h
    obtain ⟨bytes, hbytes, h⟩ := bind_eq_ok_iff.1 h
    obtain rfl := pure_eq_ok_iff.1 h
    obtain ⟨-, rfl⟩ := encodeUtf8_isOk_iff.1 hbytes
    refine ⟨hm.claims, ?_, hm.skippedStatements, ?_⟩
    · rw [Kind.filing_take_map (skillKind setting) hcomplete, ← hm.capabilities]
      rfl
    · rw [Kind.accepted_take (skillKind setting) hcomplete, List.length_append, List.length_append, ← hm.skippedSkills]
      simp only [List.length_singleton]
      omega
  · rw [if_pos hcomplete] at h
    obtain rfl := pure_eq_ok_iff.1 h
    have hskip : (skillKind setting).accepts s.value = false := Bool.eq_false_iff.2 hcomplete
    refine ⟨hm.claims, ?_, hm.skippedStatements, ?_⟩
    · rw [Kind.filing_skip _ hskip]
      exact hm.capabilities
    · rw [Kind.accepted_skip _ hskip, List.length_append, ← hm.skippedSkills]
      simp only [List.length_singleton]
      omega

/-- A run over the statements of an export. -/
theorem Merged.takeStatements {ordinal place : ℕ} {coordinate : PyStr} {xs : List PyVal}
    (hm : Merged setting statements skills m)
    (h : xs.foldlM (ModelSources.takeStatement setting ordinal coordinate) m = .ok m') :
    Merged setting (statements ++ (xs.zipIdx place).map fun p => ⟨ordinal, p.2, coordinate, p.1⟩) skills m' := by
  induction xs generalizing statements m place with
  | nil =>
      obtain rfl := pure_eq_ok_iff.1 h
      rwa [List.zipIdx_nil, List.map_nil, List.append_nil]
  | cons v xs ih =>
      rw [List.foldlM_cons] at h
      obtain ⟨next, hnext, h⟩ := bind_eq_ok_iff.1 h
      have hone := hm.takeStatement (s := ⟨ordinal, place, coordinate, v⟩) hnext
      rw [List.zipIdx_cons, List.map_cons, List.append_cons]
      exact ih hone h

/-- A run over the skills of an export. -/
theorem Merged.takeSkills {ordinal place : ℕ} {coordinate : PyStr} {xs : List PyVal}
    (hm : Merged setting statements skills m)
    (h : xs.foldlM (ModelSources.takeSkill setting ordinal coordinate) m = .ok m') :
    Merged setting statements (skills ++ (xs.zipIdx place).map fun p => ⟨ordinal, p.2, coordinate, p.1⟩) m' := by
  induction xs generalizing skills m place with
  | nil =>
      obtain rfl := pure_eq_ok_iff.1 h
      rwa [List.zipIdx_nil, List.map_nil, List.append_nil]
  | cons v xs ih =>
      rw [List.foldlM_cons] at h
      obtain ⟨next, hnext, h⟩ := bind_eq_ok_iff.1 h
      have hone := hm.takeSkill (s := ⟨ordinal, place, coordinate, v⟩) hnext
      rw [List.zipIdx_cons, List.map_cons, List.append_cons]
      exact ih hone h

/-- What was merged does not depend on what else is kept. -/
theorem Merged.congr (hm : Merged setting statements skills m) (hclaims : m'.claims = m.claims)
    (hskills : m'.skills = m.skills) (hskipped : m'.skippedStatements = m.skippedStatements)
    (hskippedSkills : m'.skippedSkills = m.skippedSkills) : Merged setting statements skills m' where
  claims := hclaims.trans hm.claims
  capabilities := hskills.trans hm.capabilities
  skippedStatements := by rw [hskipped, hm.skippedStatements]
  skippedSkills := by rw [hskippedSkills, hm.skippedSkills]

/-- A complete skill is filed. -/
theorem takeSkill_ok {setting : Setting} {ordinal : ℕ} {coordinate : PyStr} {m : Merge} {skill : PyVal}
    (hlimit : m.skills.length < 256) (hcomplete : isComplete skill = true) 
    (htext : Encodable ((skillKind setting).text skill)) :
    takeSkill setting ordinal coordinate m skill = .ok { m with
      skills := Grouping.file ⟨textHash ((skillKind setting).text skill), boundedSkill setting skill,
        skillSource setting ordinal coordinate skill⟩ m.skills } := by
  rw [takeSkill, raiseIf_neg (by omega), ok_bind, if_neg (not_not.2 hcomplete)]
  have hbytes := @encodeUtf8_ok ProgressProjection.Failure _ htext
  exact bind_eq_ok_iff.2 ⟨_, hbytes, rfl⟩

/-- **One export.** -/
theorem Merged.takeExport (hm : Merged setting statements skills m) {numbered : PyVal × ℕ}
    (h : ModelSources.takeExport setting m numbered = .ok m') :
    Merged setting (statements ++ sourcesIn setting (statementKind setting).field numbered)
      (skills ++ sourcesIn setting (skillKind setting).field numbered) m' := by
  obtain ⟨sourceExport, ordinal⟩ := numbered
  cases sourceExport with
  | dict items =>
      obtain ⟨objectSha256, -, h⟩ := bind_eq_ok_iff.1 h
      obtain ⟨boundary, -, h⟩ := bind_eq_ok_iff.1 h
      obtain ⟨digest, -, h⟩ := bind_eq_ok_iff.1 h
      obtain ⟨stated, hstated, h⟩ := bind_eq_ok_iff.1 h
      obtain ⟨skilled, hskilled, h⟩ := bind_eq_ok_iff.1 h
      obtain rfl := pure_eq_ok_iff.1 h
      have hopened : Merged setting
          (statements ++ sourcesIn setting (statementKind setting).field (.dict items, ordinal)) skills stated := by
        refine Merged.takeStatements ?_ hstated
        exact hm.congr rfl rfl rfl rfl
      have hdone : Merged setting
          (statements ++ sourcesIn setting (statementKind setting).field (.dict items, ordinal))
          (skills ++ sourcesIn setting (skillKind setting).field (.dict items, ordinal)) skilled := by
        refine Merged.takeSkills ?_ hskilled
        exact hopened.congr rfl rfl rfl rfl
      exact hdone.congr rfl rfl rfl rfl
  | _ => cases h

/-- **What a merge filed**, by the exports that were taken. -/
theorem merged_of_mergeExports {exports : List PyVal} (h : mergeExports setting exports = .ok m) :
    Merged setting (sourcesOf setting (statementKind setting).field exports)
      (sourcesOf setting (skillKind setting).field exports) m := by
  have hrun : ∀ (numbered : List (PyVal × ℕ)) {statements skills : List Sourced} {m m' : Merge},
      Merged setting statements skills m → numbered.foldlM (ModelSources.takeExport setting) m = .ok m' →
      Merged setting (statements ++ numbered.flatMap (sourcesIn setting (statementKind setting).field))
        (skills ++ numbered.flatMap (sourcesIn setting (skillKind setting).field)) m' := by
    intro numbered
    induction numbered with
    | nil =>
        intro statements skills m m' hm h
        obtain rfl := pure_eq_ok_iff.1 h
        rwa [List.flatMap_nil, List.flatMap_nil, List.append_nil, List.append_nil]
    | cons first rest ih =>
        intro statements skills m m' hm h
        rw [List.foldlM_cons] at h
        obtain ⟨next, hnext, h⟩ := bind_eq_ok_iff.1 h
        rw [List.flatMap_cons, List.flatMap_cons, ← List.append_assoc, ← List.append_assoc]
        exact ih (hm.takeExport hnext) h
  exact hrun _ (merged_empty setting) h

end Steps

/-! ### Exact groups -/

section Filed

variable {η : Type}

/-- How the elements of all exports stand in the groups. -/
structure Filed (kind : Kind η) (all : List Sourced) (groups : List (Group PyStr η PyVal)) (skipped : ℕ)
    (filing : List (Group PyStr η Sourced)) : Prop where
  /-- a group has the sources of its elements -/
  sources : groups = filing.map (Group.map kind.source)
  /-- there is one group of a digest, which all of its elements have -/
  keys : (filing.map Group.key).Nodup
  digest : ∀ g ∈ filing, ∀ s ∈ g.members, g.key = textHash (kind.text s.value)
  /-- every accepted element is one entry of one group -/
  once : (filing.flatMap Group.members).Nodup
  covers : ∀ s, s ∈ filing.flatMap Group.members ↔ s ∈ kind.accepted all
  /-- nothing is lost without being counted -/
  count : (groups.flatMap Group.members).length + skipped = all.length

/-- Two elements are in one group. -/
def Share (filing : List (Group PyStr η Sourced)) (s t : Sourced) : Prop :=
  ∃ g ∈ filing, s ∈ g.members ∧ t ∈ g.members

theorem Filed.share_iff {kind : Kind η} {all : List Sourced} {groups : List (Group PyStr η PyVal)} {skipped : ℕ}
    {filing : List (Group PyStr η Sourced)} (h : Filed kind all groups skipped filing) {s t : Sourced}
    (hs : s ∈ kind.accepted all) (ht : t ∈ kind.accepted all) :
    Share filing s t ↔ textHash (kind.text s.value) = textHash (kind.text t.value) := by
  constructor
  · rintro ⟨g, hg, hsg, htg⟩
    rw [← h.digest g hg s hsg, ← h.digest g hg t htg]
  · intro heq
    obtain ⟨g, hg, hsg⟩ := List.mem_flatMap.1 ((h.covers s).2 hs)
    obtain ⟨g', hg', htg⟩ := List.mem_flatMap.1 ((h.covers t).2 ht)
    have hkey : g.key = g'.key := by rw [h.digest g hg s hsg, h.digest g' hg' t htg, heq]
    obtain rfl := Grouping.eq_of_key h.keys hg hg' hkey
    exact ⟨g, hg, hsg, htg⟩

theorem nodup_zipIdx {α : Type} (xs : List α) (n : ℕ) : (xs.zipIdx n).Nodup := by
  refine List.Nodup.of_map Prod.snd ?_
  rw [List.zipIdx_map_snd]
  exact List.nodup_range'

theorem nodup_sourcesOf (setting : Setting) (k : String) (exports : List PyVal) :
    (sourcesOf setting k exports).Nodup := by
  refine List.nodup_flatMap.2 ⟨fun numbered _ => ?_, ?_⟩
  · refine (nodup_zipIdx _ 0).map_on ?_
    rintro ⟨v, i⟩ - ⟨w, j⟩ - heq
    rw [Sourced.mk.injEq] at heq
    exact Prod.ext heq.2.2.2 heq.2.1
  · have hordinals : (exports.zipIdx 1).Pairwise fun p q => p.2 ≠ q.2 := by
      have hnodup : ((exports.zipIdx 1).map Prod.snd).Nodup := by
        rw [List.zipIdx_map_snd]
        exact List.nodup_range'
      exact List.pairwise_map.1 hnodup
    refine hordinals.imp fun {p q} hne s hsp hsq => hne ?_
    obtain ⟨_, -, rfl⟩ := List.mem_map.1 hsp
    obtain ⟨_, -, heq⟩ := List.mem_map.1 hsq
    exact (Sourced.mk.inj heq).1.symm

theorem Kind.perm_members (kind : Kind η) (all : List Sourced) :
    ((kind.filing all).flatMap Group.members).Perm (kind.accepted all) := by
  have hperm := (kind.grouped all).perm_members
  rw [List.map_map] at hperm
  exact hperm.trans (List.Perm.of_eq (List.map_id _))

/-- **The filing of a merge.** -/
theorem Kind.filed (kind : Kind η) {all : List Sourced} (hnodup : all.Nodup)
    {groups : List (Group PyStr η PyVal)} {skipped : ℕ}
    (hgroups : groups = (kind.filing all).map (Group.map kind.source))
    (hcount : (kind.accepted all).length + skipped = all.length) :
    Filed kind all groups skipped (kind.filing all) where
  sources := hgroups
  keys := (kind.grouped all).nodup
  digest := by
    intro g hg s hs
    rw [(kind.grouped all).members g hg] at hs
    obtain ⟨e, he, rfl⟩ := List.mem_map.1 hs
    obtain ⟨hmem, hkey⟩ := List.mem_filter.1 he
    obtain ⟨s, -, rfl⟩ := List.mem_map.1 hmem
    exact (of_decide_eq_true hkey).symm
  once := (kind.perm_members all).nodup_iff.2 (hnodup.filter _)
  covers s := (kind.perm_members all).mem_iff
  count := by
    have hlength : (groups.flatMap Group.members).length = ((kind.filing all).flatMap Group.members).length := by
      rw [hgroups, List.flatMap_map, List.length_flatMap, List.length_flatMap]
      exact congrArg _ (List.map_congr_left fun g _ => List.length_map _)
    rw [hlength, (kind.perm_members all).length_eq, hcount]

/-- The elements share a group when they mean the same. -/
def Tells {β : Type} (kind : Kind η) (all : List Sourced) (meaning : PyVal → β)
    (filing : List (Group PyStr η Sourced)) : Prop :=
  ∀ s ∈ kind.accepted all, ∀ t ∈ kind.accepted all, Share filing s t ↔ meaning s.value = meaning t.value

/-- The digested texts tell meanings apart. -/
def Apart {β : Type} (kind : Kind η) (all : List Sourced) (meaning : PyVal → β) : Prop :=
  ∀ s ∈ kind.accepted all, ∀ t ∈ kind.accepted all, kind.text s.value = kind.text t.value →
    meaning s.value = meaning t.value

/-- No two digested texts collide. -/
def NoCollision (kind : Kind η) (all : List Sourced) : Prop :=
  ∀ s ∈ kind.accepted all, ∀ t ∈ kind.accepted all, textHash (kind.text s.value) = textHash (kind.text t.value) →
    kind.text s.value = kind.text t.value

/-- **Groups of equal meaning.** -/
theorem exists_tells_iff {β : Type} {kind : Kind η} {all : List Sourced} {groups : List (Group PyStr η PyVal)}
    {skipped : ℕ} {filing : List (Group PyStr η Sourced)} (h : Filed kind all groups skipped filing)
    (hsha : NoCollision kind all) {meaning : PyVal → β}
    (hmeaning : ∀ v w, meaning v = meaning w → kind.text v = kind.text w) :
    (∃ filing, Filed kind all groups skipped filing ∧ Tells kind all meaning filing) ↔ Apart kind all meaning := by
  constructor
  · rintro ⟨filing, hfiled, htells⟩ s hs t ht heq
    exact (htells s hs t ht).1 ((hfiled.share_iff hs ht).2 (congrArg textHash heq))
  · refine fun hapart => ⟨filing, h, fun s hs t ht => ?_⟩
    rw [h.share_iff hs ht]
    exact ⟨fun heq => hapart s hs t ht (hsha s hs t ht heq), fun heq => congrArg textHash (hmeaning _ _ heq)⟩

end Filed

/-! ### The order of the exports -/

/-- A source without its ordinal. -/
def withoutOrdinal : PyVal → PyVal
  | .dict items => .dict (eraseKey (cp "source_ordinal") items)
  | v => v

section Order

variable {η : Type}

/-- Groups that differ in the ordinals and in the order of their sources at most. -/
structure Alike (g g' : Group PyStr η PyVal) : Prop where
  key : g.key = g'.key
  head : g.head = g'.head
  sources : (g.members.map withoutOrdinal).Perm (g'.members.map withoutOrdinal)

/-- What does not depend on the place of an element. -/
def Sourced.content (s : Sourced) : PyStr × PyVal := (s.coordinate, s.value)

theorem content_sourcesIn (setting : Setting) (k : String) (numbered : PyVal × ℕ) :
    (sourcesIn setting k numbered).map Sourced.content =
      (listField numbered.1 k).1.map fun v => (accountCoordinate setting numbered.1, v) := by
  have hfst : (listField numbered.1 k).1 = ((listField numbered.1 k).1.zipIdx).map Prod.fst :=
    (List.zipIdx_map_fst _ _).symm
  rw [sourcesIn, List.map_map]
  conv_rhs => rw [hfst, List.map_map]
  rfl

theorem content_sourcesOf (setting : Setting) (k : String) (exports : List PyVal) :
    (sourcesOf setting k exports).map Sourced.content =
      exports.flatMap fun e => (listField e k).1.map fun v => (accountCoordinate setting e, v) := by
  have hfst : exports = (exports.zipIdx 1).map Prod.fst := (List.zipIdx_map_fst _ _).symm
  rw [sourcesOf, List.map_flatMap]
  conv_rhs => rw [hfst, List.flatMap_map]
  exact List.flatMap_congr fun numbered _ => content_sourcesIn setting k numbered

/-- Permuted exports have the same elements, at other places. -/
theorem perm_content {setting : Setting} {k : String} {exports exports' : List PyVal} (h : exports'.Perm exports) :
    ((sourcesOf setting k exports).map Sourced.content).Perm
      ((sourcesOf setting k exports').map Sourced.content) := by
  rw [content_sourcesOf, content_sourcesOf]
  exact h.symm.flatMap_right _

theorem Kind.content_accepted (kind : Kind η) (all : List Sourced) :
    (kind.accepted all).map Sourced.content = (all.map Sourced.content).filter fun c => kind.accepts c.2 := by
  rw [Kind.accepted, List.filter_map]
  rfl

theorem map_key_sortGroups (gs : List (Group PyStr η PyVal)) :
    (sortGroups gs).map Group.key = CapabilityContext.sortTexts (gs.map Group.key) :=
  List.map_mergeSort fun _ _ _ _ => rfl

theorem mem_sortGroups {gs : List (Group PyStr η PyVal)} {g : Group PyStr η PyVal} :
    g ∈ sortGroups gs ↔ g ∈ gs := (List.mergeSort_perm _ _).mem_iff

theorem Grouped.mem_keys_iff {α : Type} {entries : List (Entry PyStr η α)} {gs : List (Group PyStr η α)}
    (h : Grouped entries gs) {k : PyStr} : k ∈ gs.map Group.key ↔ k ∈ entries.map Entry.key := by
  constructor
  · intro hk
    obtain ⟨g, hg, rfl⟩ := List.mem_map.1 hk
    obtain ⟨e, he, hkey, -⟩ := h.head g hg
    exact List.mem_map.2 ⟨e, he, hkey⟩
  · intro hk
    obtain ⟨e, he, rfl⟩ := List.mem_map.1 hk
    obtain ⟨g, hg, hkey⟩ := h.covers e he
    exact List.mem_map.2 ⟨g, hg, hkey⟩

/-- **Elements at other places** give the same groups, when elements of one digest have one head. -/
theorem forall₂_alike {kind : Kind η} {all all' : List Sourced}
    (hall : (all.map Sourced.content).Perm (all'.map Sourced.content))
    (hsource : ∀ s t : Sourced, s.content = t.content → withoutOrdinal (kind.source s) = withoutOrdinal (kind.source t))
    (hheads : ∀ s ∈ kind.accepted all, ∀ t ∈ kind.accepted all,
      textHash (kind.text s.value) = textHash (kind.text t.value) → kind.head s.value = kind.head t.value) :
    List.Forall₂ Alike (sortGroups ((kind.filing all).map (Group.map kind.source)))
      (sortGroups ((kind.filing all').map (Group.map kind.source))) := by
  have hgroups : ∀ l : List Sourced, Grouped (((kind.accepted l).map kind.entry).map (Entry.map kind.source))
      ((kind.filing l).map (Group.map kind.source)) := by
    intro l
    rw [Kind.filing, ← Grouping.collect_map]
    exact Grouping.grouped_collect _
  -- what an entry gives to its group is read off the content of its element
  have hread : ∀ l : List Sourced, (((kind.accepted l).map kind.entry).map (Entry.map kind.source)).map
      (fun e => (e.key, e.head, withoutOrdinal e.item)) = ((kind.accepted l).map Sourced.content).map fun c =>
        (textHash (kind.text c.2), kind.head c.2, withoutOrdinal (kind.source ⟨0, 0, c.1, c.2⟩)) := by
    intro l
    rw [List.map_map, List.map_map, List.map_map]
    refine List.map_congr_left fun s _ => ?_
    have hs := hsource s ⟨0, 0, s.coordinate, s.value⟩ rfl
    exact Prod.ext rfl (Prod.ext rfl hs)
  have hperm : ((((kind.accepted all).map kind.entry).map (Entry.map kind.source)).map
      fun e => (e.key, e.head, withoutOrdinal e.item)).Perm
      ((((kind.accepted all').map kind.entry).map (Entry.map kind.source)).map
        fun e => (e.key, e.head, withoutOrdinal e.item)) := by
    rw [hread, hread, kind.content_accepted, kind.content_accepted]
    exact (hall.filter _).map _
  have halike := (hgroups all).exists_of_perm withoutOrdinal (hgroups all') hperm (by
    intro d hd e he heq
    obtain ⟨_, hd', rfl⟩ := List.mem_map.1 hd
    obtain ⟨s, hs, rfl⟩ := List.mem_map.1 hd'
    obtain ⟨_, he', rfl⟩ := List.mem_map.1 he
    obtain ⟨t, ht, rfl⟩ := List.mem_map.1 he'
    exact hheads s hs t ht heq)
  have hkeys : (((kind.filing all).map (Group.map kind.source)).map Group.key).Perm
      (((kind.filing all').map (Group.map kind.source)).map Group.key) := by
    refine (List.perm_ext_iff_of_nodup (hgroups all).nodup (hgroups all').nodup).2 fun k => ?_
    have hfst : ∀ entries : List (Entry PyStr η PyVal),
        (entries.map fun e => (e.key, e.head, withoutOrdinal e.item)).map Prod.fst = entries.map Entry.key :=
      fun entries => List.map_map
    have hentries := (hperm.map Prod.fst).mem_iff (a := k)
    rw [hfst, hfst] at hentries
    exact (Grouped.mem_keys_iff (hgroups all)).trans (hentries.trans (Grouped.mem_keys_iff (hgroups all')).symm)
  refine Grouping.forall₂_of_keys ?_ fun g hg g' hg' hkey => ?_
  · rw [map_key_sortGroups, map_key_sortGroups, CapabilityContext.sortTexts_congr hkeys]
  · obtain ⟨h, hh, hhkey, hhead, hsources⟩ := halike g (mem_sortGroups.1 hg)
    obtain rfl := Grouping.eq_of_key (hgroups all').nodup hh (mem_sortGroups.1 hg') (hhkey.trans hkey)
    exact ⟨hkey, hhead.symm, hsources⟩

end Order

theorem withoutOrdinal_obj (l : List (String × PyVal)) :
    withoutOrdinal (obj l) = obj (l.filter fun p => p.1 ≠ "source_ordinal") := by
  rw [obj, withoutOrdinal, eraseKey, fields, List.filter_map, obj, fields]
  congr 2
  refine List.filter_congr fun p _ => ?_
  simp [key, cp_inj]

theorem source_statement (setting : Setting) (s t : Sourced) (h : s.content = t.content) :
    withoutOrdinal ((statementKind setting).source s) = withoutOrdinal ((statementKind setting).source t) := by
  obtain ⟨hcoordinate, hvalue⟩ := Prod.mk.inj h
  simp only [statementKind, hcoordinate, hvalue, statementSource, withoutOrdinal_obj]
  simp

theorem source_skill (setting : Setting) (s t : Sourced) (h : s.content = t.content) :
    withoutOrdinal ((skillKind setting).source s) = withoutOrdinal ((skillKind setting).source t) := by
  obtain ⟨hcoordinate, hvalue⟩ := Prod.mk.inj h
  simp only [skillKind, hcoordinate, hvalue, skillSource, withoutOrdinal_obj]
  simp

/-! ### When a merge is exact -/

/-- The name and the coordinate of a skill, redacted and not cut. -/
def skillTexts (setting : Setting) (skill : PyVal) : PyStr × PyStr := (skillName setting skill, skillCoordinate setting skill)

section Exact

variable (setting : Setting) (exports : List PyVal)

/-- The statements of the exports. -/
def statementsOf : List Sourced := sourcesOf setting (statementKind setting).field exports

/-- The skills of the exports. -/
def skillsOf : List Sourced := sourcesOf setting (skillKind setting).field exports

/-- A merge that is exact and keeps all provenance. -/
structure Exact (m : Merge) : Prop where
  /-- statements share a group when their redacted claims are equal -/
  claims : ∃ filing, Filed (statementKind setting) (statementsOf setting exports) m.claims m.skippedStatements filing ∧
    Tells (statementKind setting) (statementsOf setting exports) (redactedClaim setting) filing
  /-- skills share a group when their redacted names and coordinates are equal -/
  capabilities : ∃ filing, Filed (skillKind setting) (skillsOf setting exports) m.skills m.skippedSkills filing ∧
    Tells (skillKind setting) (skillsOf setting exports) (skillTexts setting) filing
  /-- the order of the exports shows in the ordinals and in the order of the sources at most -/
  reordered : ∀ (exports' : List PyVal) (m' : Merge), exports'.Perm exports → mergeExports setting exports' = .ok m' →
    List.Forall₂ Alike (sortGroups m.claims) (sortGroups m'.claims) ∧
      List.Forall₂ Alike (sortGroups m.skills) (sortGroups m'.skills)

/-- No two of the digested texts collide. -/
structure CollisionFree : Prop where
  claims : NoCollision (statementKind setting) (statementsOf setting exports)
  skills : NoCollision (skillKind setting) (skillsOf setting exports)

/-- Of two pairs that are joined by a NUL, the first has its NUL behind the other's. -/
def Splits (p q : PyStr × PyStr) : Prop := ∃ rest, p.1 = q.1 ++ 0 :: rest ∧ q.2 = rest ++ 0 :: p.2

/-- The texts that are digested tell claims and skills apart. -/
structure Distinguished : Prop where
  /-- no redacted claims differ behind their first 4000 characters only -/
  claims : ∀ s ∈ (statementKind setting).accepted (statementsOf setting exports),
    ∀ t ∈ (statementKind setting).accepted (statementsOf setting exports),
      (redactedClaim setting s.value).take 4000 = (redactedClaim setting t.value).take 4000 →
        redactedClaim setting s.value = redactedClaim setting t.value
  /-- no redacted names and coordinates differ behind their first 240 and 512 characters only -/
  skills : ∀ s ∈ (skillKind setting).accepted (skillsOf setting exports),
    ∀ t ∈ (skillKind setting).accepted (skillsOf setting exports),
      boundedSkill setting s.value = boundedSkill setting t.value →
        skillTexts setting s.value = skillTexts setting t.value
  /-- no name and coordinate are another pair with the NUL that joins them at another place -/
  nul : ∀ s ∈ (skillKind setting).accepted (skillsOf setting exports),
    ∀ t ∈ (skillKind setting).accepted (skillsOf setting exports),
      ¬Splits (boundedSkill setting s.value) (boundedSkill setting t.value)

end Exact

/-- Pairs that read the same when they are joined. -/
theorem joined_eq_iff {p q : PyStr × PyStr} :
    p.1 ++ 0 :: p.2 = q.1 ++ 0 :: q.2 ↔ p = q ∨ Splits p q ∨ Splits q p := by
  constructor
  · intro h
    rcases List.append_eq_append_iff.1 h with ⟨rest, hq, hp⟩ | ⟨rest, hp, hq⟩
    · cases rest with
      | nil =>
          rw [List.append_nil] at hq
          exact .inl (Prod.ext hq.symm (List.cons.inj hp).2)
      | cons c rest =>
          obtain ⟨rfl, htail⟩ := List.cons.inj hp
          exact .inr (.inr ⟨rest, hq, htail⟩)
    · cases rest with
      | nil =>
          rw [List.append_nil] at hp
          exact .inl (Prod.ext hp (List.cons.inj hq).2.symm)
      | cons c rest =>
          obtain ⟨rfl, htail⟩ := List.cons.inj hq
          exact .inr (.inl ⟨rest, hp, htail⟩)
  · rintro (rfl | ⟨rest, hp, hq⟩ | ⟨rest, hq, hp⟩)
    · rfl
    · rw [hp, hq, List.append_assoc, List.cons_append]
    · rw [hp, hq, List.append_assoc, List.cons_append]

theorem not_splits_self (p : PyStr × PyStr) : ¬Splits p p := by
  rintro ⟨rest, h, -⟩
  have hlength := congrArg List.length h
  rw [List.length_append, List.length_cons] at hlength
  omega

section Iff

variable {setting : Setting} {exports : List PyVal} {m : Merge}

theorem text_of_skillTexts {v w : PyVal} (h : skillTexts setting v = skillTexts setting w) :
    boundedSkill setting v = boundedSkill setting w := by
  obtain ⟨hname, hcoordinate⟩ := Prod.mk.inj h
  rw [boundedSkill, boundedSkill, hname, hcoordinate]

theorem apart_skills_iff :
    Apart (skillKind setting) (skillsOf setting exports) (skillTexts setting) ↔
      (∀ s ∈ (skillKind setting).accepted (skillsOf setting exports),
        ∀ t ∈ (skillKind setting).accepted (skillsOf setting exports),
          boundedSkill setting s.value = boundedSkill setting t.value →
            skillTexts setting s.value = skillTexts setting t.value) ∧
      ∀ s ∈ (skillKind setting).accepted (skillsOf setting exports),
        ∀ t ∈ (skillKind setting).accepted (skillsOf setting exports),
          ¬Splits (boundedSkill setting s.value) (boundedSkill setting t.value) := by
  constructor
  · refine fun h => ⟨fun s hs t ht heq => h s hs t ht (joined_eq_iff.2 (.inl heq)), fun s hs t ht hsplits => ?_⟩
    have htexts := h s hs t ht (joined_eq_iff.2 (.inr (.inl hsplits)))
    rw [text_of_skillTexts htexts] at hsplits
    exact not_splits_self _ hsplits
  · rintro ⟨hbounded, hnul⟩ s hs t ht heq
    rcases joined_eq_iff.1 heq with heq | hsplits | hsplits
    · exact hbounded s hs t ht heq
    · exact absurd hsplits (hnul s hs t ht)
    · exact absurd hsplits (hnul t ht s hs)

/-- **Exact merges**: the texts that are digested distinguish what they stand for. -/
theorem exact_iff (h : mergeExports setting exports = .ok m) (hsha : CollisionFree setting exports) :
    Exact setting exports m ↔ Distinguished setting exports := by
  have hm := merged_of_mergeExports h
  have hclaims := (statementKind setting).filed (nodup_sourcesOf setting _ exports) hm.claims hm.skippedStatements
  have hskills := (skillKind setting).filed (nodup_sourcesOf setting _ exports) hm.capabilities hm.skippedSkills
  have hclaimText : ∀ v w, redactedClaim setting v = redactedClaim setting w →
      (statementKind setting).text v = (statementKind setting).text w :=
    fun v w hvw => congrArg (List.take 4000) hvw
  have hskillText : ∀ v w, skillTexts setting v = skillTexts setting w →
      (skillKind setting).text v = (skillKind setting).text w :=
    fun v w hvw => joined_eq_iff.2 (.inl (text_of_skillTexts hvw))
  have hclaimsIff := exists_tells_iff hclaims hsha.claims hclaimText
  have hskillsIff := exists_tells_iff hskills hsha.skills hskillText
  constructor
  · intro hexact
    obtain ⟨hbounded, hnul⟩ := apart_skills_iff.1 (hskillsIff.1 hexact.capabilities)
    exact ⟨hclaimsIff.1 hexact.claims, hbounded, hnul⟩
  · intro hdist
    have hapart := apart_skills_iff.2 ⟨hdist.skills, hdist.nul⟩
    refine ⟨hclaimsIff.2 hdist.claims, hskillsIff.2 hapart, fun exports' m' hperm h' => ?_⟩
    have hm' := merged_of_mergeExports h'
    rw [hm.claims, hm'.claims, hm.capabilities, hm'.capabilities]
    refine ⟨forall₂_alike (perm_content hperm) (source_statement setting) fun s hs t ht => hsha.claims s hs t ht,
      forall₂_alike (perm_content hperm) (source_skill setting) fun s hs t ht heq => ?_⟩
    exact text_of_skillTexts (hapart s hs t ht (hsha.skills s hs t ht heq))

end Iff

/-! ### The packet -/

section Packet

variable {setting : Setting} {args : Arguments} {mode : PyStr} {exports : List PyVal} {packet : PyVal}

theorem of_checkExports {serialized : PyStr} (h : checkExports args.sourceExports = .ok (exports, serialized)) :
    args.sourceExports = some exports ∧ serialized = PyJson.write PyJson.compact (.list exports) := by
  cases hsome : args.sourceExports with
  | none =>
      rw [hsome] at h
      cases h
  | some given =>
      rw [hsome] at h
      obtain ⟨_, -, h⟩ := bind_eq_ok_iff.1 h
      obtain ⟨_, -, h⟩ := bind_eq_ok_iff.1 h
      obtain ⟨text, htext, h⟩ := bind_eq_ok_iff.1 h
      obtain ⟨bytes, -, h⟩ := bind_eq_ok_iff.1 h
      obtain ⟨_, -, h⟩ := bind_eq_ok_iff.1 h
      obtain ⟨rfl, rfl⟩ := Prod.mk.inj (pure_eq_ok_iff.1 h)
      rw [PyJson.dumps] at htext
      split_ifs at htext
      exact ⟨rfl, (Except.ok.inj htext).symm⟩

/-- **The packets that are built.** -/
theorem buildPacket_cases (hmode : requireNonEmptyString args.mode "mode" = .ok mode)
    (hrun : buildPacket setting args = .ok packet) :
    (setting.upper mode = cp "PREPARE_SOURCE_REQUEST" ∧ ∃ scope intentRef coordinate timestamp, finalizePacket
      (requestPacket (setting.upper mode) scope intentRef coordinate timestamp) = (.ok packet : Except Fault PyVal)) ∨
    (setting.upper mode = cp "ASSIMILATE_SOURCE_EXPORTS" ∧ ∃ exports, args.sourceExports = some exports ∧
      ((setting.containsSensitive (PyJson.write PyJson.compact (.list exports)) = true ∧ ∃ timestamp,
        finalizePacket (heldPacket (setting.upper mode) timestamp) = (.ok packet : Except Fault PyVal)) ∨
      (setting.containsSensitive (PyJson.write PyJson.compact (.list exports)) = false ∧
        ∃ m scope intentRef timestamp, mergeExports setting exports = .ok m ∧ finalizePacket
          (mergedPacket m (setting.upper mode) scope intentRef timestamp) = (.ok packet : Except Fault PyVal)))) := by
  obtain ⟨_, hmode', hrun⟩ := bind_eq_ok_iff.1 hrun
  obtain rfl := Except.ok.inj (hmode.symm.trans hmode')
  obtain ⟨scope, -, hrun⟩ := bind_eq_ok_iff.1 hrun
  obtain ⟨intentRef, -, hrun⟩ := bind_eq_ok_iff.1 hrun
  dsimp only at hrun
  by_cases hprepare : setting.upper mode = cp "PREPARE_SOURCE_REQUEST"
  · rw [if_pos hprepare] at hrun
    exact .inl ⟨hprepare, _, _, _, _, hrun⟩
  · rw [if_neg hprepare] at hrun
    obtain ⟨_, hassimilate, hrun⟩ := bind_eq_ok_iff.1 hrun
    obtain ⟨⟨exports, serialized⟩, hchecked, hrun⟩ := bind_eq_ok_iff.1 hrun
    obtain ⟨hexports, rfl⟩ := of_checkExports hchecked
    refine .inr ⟨not_not.1 (raiseIf_eq_ok_iff.1 hassimilate), exports, hexports, ?_⟩
    dsimp only at hrun
    by_cases hsensitive : setting.containsSensitive (PyJson.write PyJson.compact (.list exports)) = true
    · rw [if_pos hsensitive] at hrun
      exact .inl ⟨hsensitive, _, hrun⟩
    · rw [if_neg hsensitive] at hrun
      obtain ⟨m, hm, hrun⟩ := bind_eq_ok_iff.1 hrun
      exact .inr ⟨Bool.eq_false_iff.2 hsensitive, m, _, _, _, hm, hrun⟩

theorem get_heldPacket (mode timestamp : PyStr) : (obj (heldPacket mode timestamp)).get "state" =
    lit "HOLD_MODEL_SOURCE_SECRET_OR_MEMBER_PLAINTEXT" := by
  simp [heldPacket]

theorem get_mergedPacket (m : Merge) (mode scope intentRef timestamp : PyStr) :
    (obj (mergedPacket m mode scope intentRef timestamp)).get "D4_EVIDENCE" = mergedEvidence m ∧
      (obj (mergedPacket m mode scope intentRef timestamp)).get "D3_COORDINATE" = mergedCoordinate m ∧
      (obj (mergedPacket m mode scope intentRef timestamp)).get "D7_RISK_QUARANTINE" = mergedQuarantine m := by
  refine ⟨?_, ?_, ?_⟩ <;> simp [mergedPacket]

/-- **The packet of a merge**: the exports were merged, and the evidence shows their groups. -/
theorem merged_of_buildPacket (hmode : requireNonEmptyString args.mode "mode" = .ok mode)
    (hassimilate : setting.upper mode = cp "ASSIMILATE_SOURCE_EXPORTS") (hexports : args.sourceExports = some exports)
    (hrun : buildPacket setting args = .ok packet)
    (hready : packet.get "state" ≠ lit "HOLD_MODEL_SOURCE_SECRET_OR_MEMBER_PLAINTEXT") :
    ∃ m, mergeExports setting exports = .ok m ∧ packet.get "D4_EVIDENCE" = mergedEvidence m := by
  rcases buildPacket_cases hmode hrun with ⟨hprepare, -⟩ | ⟨-, given, hgiven, hrest⟩
  · exact absurd (cp_inj.1 (hassimilate.symm.trans hprepare)) (by decide)
  · obtain rfl := Option.some.inj (hgiven.symm.trans hexports)
    rcases hrest with ⟨-, timestamp, hpacket⟩ | ⟨-, m, _, _, _, hm, hpacket⟩
    · refine absurd ?_ hready
      rw [get_finalizePacket hpacket (by decide), get_heldPacket]
    · refine ⟨m, hm, ?_⟩
      rw [get_finalizePacket hpacket (by decide)]
      exact (get_mergedPacket m _ _ _ _).1

end Packet

/-! ### Two skills with a NUL in a name -/

/-- A setting for exports of ASCII. -/
def sampleSetting : Setting where
  str v := match v with
    | .str s => s
    | _ => cp "None"
  upper s := s
  isWord c := isLetter c || isDigit c || c = 95
  ordered items := items
  containsSensitive _ := false
  utcNow := cp "2026-01-01T00:00:00+00:00"

/-- A complete skill. -/
def sampleSkill (texts : PyStr × PyStr) : PyVal := obj [("acceptance_conditions", .none),
  ("artifact_or_exact_coordinate", .str texts.2), ("authority_boundary", .none), ("example_cases", .none),
  ("failure_modes", .none), ("inputs", .none), ("observed_status", lit "SEEN BY a@b.co"), ("outputs", .none),
  ("side_effects", .none), ("skill_or_capability_name", .str texts.1), ("tool_binding", .none), ("trigger", .none)]

/-- `"a\0b"` at `"c"` -/
def firstTexts : PyStr × PyStr := ([97, 0, 98], [99])

/-- `"a"` at `"b\0c"` -/
def secondTexts : PyStr × PyStr := ([97], [98, 0, 99])

/-- An export of two skills. -/
def sampleExport : PyVal :=
  obj [("skills_and_capabilities", .list [sampleSkill firstTexts, sampleSkill secondTexts])]

/-- The merge of the export. -/
def sampleArguments : Arguments where
  mode := lit "ASSIMILATE_SOURCE_EXPORTS"
  taskScope := lit "scope"
  currentFounderIntentRef := lit "intent"
  sourceAccountCoordinate := .none
  sourceExports := some [sampleExport]
  generatedAt := none

/-- What the functions on texts make of the sample. -/
theorem computed_sample :
    (boundedSkill sampleSetting (sampleSkill firstTexts) = firstTexts ∧
      boundedSkill sampleSetting (sampleSkill secondTexts) = secondTexts) ∧
    (∀ texts ∈ [firstTexts, secondTexts], isComplete (sampleSkill texts) = true ∧
      (skillKind sampleSetting).text (sampleSkill texts) = [97, 0, 98, 0, 99]) ∧
    accountCoordinate sampleSetting sampleExport = cp "UNKNOWN" ∧
    (requireNonEmptyString sampleArguments.mode "mode" = (.ok (cp "ASSIMILATE_SOURCE_EXPORTS") : Except Fault PyStr) ∧
      requireNonEmptyString sampleArguments.taskScope "task_scope" = (.ok (cp "scope") : Except Fault PyStr) ∧
      requireNonEmptyString sampleArguments.currentFounderIntentRef "current_founder_intent_ref" =
        (.ok (cp "intent") : Except Fault PyStr)) ∧
    (sanitizeString sampleSetting (cp "UNKNOWN")).take 240 = cp "UNKNOWN" ∧
    (sanitizeString sampleSetting (cp "scope")).take 4000 = cp "scope" ∧
    (sanitizeString sampleSetting (cp "intent")).take 512 = cp "intent" := by
  decide +kernel

/-- The texts that are written of the sample. -/
theorem written_sample :
    (PyJson.serialisable sampleExport = true ∧ ∀ c ∈ PyJson.write PyJson.compact sampleExport, ¬IsSurrogate c) ∧
    (PyJson.serialisable (.list [sampleExport]) = true ∧
      (∀ c ∈ PyJson.write PyJson.compact (.list [sampleExport]), ¬IsSurrogate c) ∧
      ¬1000000 < ((PyJson.write PyJson.compact (.list [sampleExport])).flatMap utf8Char).length) ∧
    ∀ texts ∈ [firstTexts, secondTexts],
      PyJson.serialisable (skillSource sampleSetting 1 (cp "UNKNOWN") (sampleSkill texts)) = true ∧
      ∀ c ∈ PyJson.write PyJson.compact (skillSource sampleSetting 1 (cp "UNKNOWN") (sampleSkill texts)),
        ¬IsSurrogate c := by
  decide +kernel

theorem plain_sampleExport : PyJson.Plain Encodable sampleExport := by
  exact @PyJson.plain_of_encodable_write PyJson.compact rfl _ written_sample.1.1 written_sample.1.2

/-- The binding of the export. -/
def sampleBinding : PyVal :=
  binding sampleSetting 1 (cp "UNKNOWN") (hashOf sampleExport) ("NOT_PROVIDED", .none) sampleExport

/-- What is merged of the export. -/
def sampleMerge : Merge where
  bindings := [sampleBinding]
  claims := []
  skills := [⟨textHash [97, 0, 98, 0, 99], firstTexts, [skillSource sampleSetting 1 (cp "UNKNOWN") (sampleSkill firstTexts),
    skillSource sampleSetting 1 (cp "UNKNOWN") (sampleSkill secondTexts)]⟩]
  conflicts := boundaryConflicts 1 (hashOf sampleExport) requiredAuthorityBoundary ("NOT_PROVIDED", .none)
  threads := 0
  limitations := 0
  statements := 0
  skippedStatements := 0
  skippedSkills := 0

theorem mergeExports_sample : mergeExports sampleSetting [sampleExport] = .ok sampleMerge := by
  have hobject := @canonicalSha256_ok ProgressProjection.Failure _ plain_sampleExport
  obtain ⟨hfirstComplete, hfirst⟩ := computed_sample.2.1 firstTexts (by simp)
  obtain ⟨hsecondComplete, hsecond⟩ := computed_sample.2.1 secondTexts (by simp)
  have hcharacters : ∀ c ∈ [97, 0, 98, 0, 99], ¬IsSurrogate c := by decide
  have hencodable : Encodable [97, 0, 98, 0, 99] := hcharacters
  have hskills : ∀ m : Merge, m.skills = [] → 
      [sampleSkill firstTexts, sampleSkill secondTexts].foldlM (takeSkill sampleSetting 1 (cp "UNKNOWN")) m = 
        .ok { m with skills := sampleMerge.skills } := by
    intro m hm
    rw [List.foldlM_cons, takeSkill_ok (by rw [hm]; decide) hfirstComplete (by rw [hfirst]; exact hencodable), ok_bind,
      List.foldlM_cons, takeSkill_ok (by simp [hm, Grouping.file]) hsecondComplete (by rw [hsecond]; exact hencodable), ok_bind]
    simp [hm, Grouping.file, hfirst, hsecond, computed_sample.1.1, sampleMerge]
    rfl
  have hboundary : elementsOr (sampleExport.get "authority_boundary") = (.ok [] : Except Fault (List PyVal)) := by
    simp [sampleExport, elementsOr, PyVal.truthy]
  have hdigest : checkDigest (fields [("skills_and_capabilities",
      .list [sampleSkill firstTexts, sampleSkill secondTexts])]) = (.ok ("NOT_PROVIDED", .none)) := by
    have hget : sampleExport.get "source_digest" = .none := by simp [sampleExport]
    rw [checkDigest]
    exact hget ▸ rfl
  have hstatements : listField sampleExport "founder_statements" = ([], true) := by
    simp [listField, sampleExport, PyVal.truthy]
  have hlist : listField sampleExport "skills_and_capabilities" =
      ([sampleSkill firstTexts, sampleSkill secondTexts], true) := by
    simp [listField, sampleExport]
  have hcoordinate : accountCoordinate sampleSetting sampleExport = cp "UNKNOWN" := computed_sample.2.2.1
  have hstated : ∀ m : Merge, (listField sampleExport "founder_statements").1.foldlM
      (takeStatement sampleSetting 1 (accountCoordinate sampleSetting sampleExport)) m = .ok m := by
    intro m
    rw [hstatements]
    rfl
  have hskilled : ∀ m : Merge, m.skills = [] → (listField sampleExport "skills_and_capabilities").1.foldlM
      (takeSkill sampleSetting 1 (accountCoordinate sampleSetting sampleExport)) m =
        .ok { m with skills := sampleMerge.skills } := by
    rw [hlist, hcoordinate]
    exact hskills
  have htake : takeExport sampleSetting Merge.empty (sampleExport, 1) = .ok sampleMerge := by
    refine bind_eq_ok_iff.2 ⟨_, hobject, bind_eq_ok_iff.2 ⟨_, hboundary, bind_eq_ok_iff.2 ⟨_, hdigest,
      bind_eq_ok_iff.2 ⟨_, hstated _, bind_eq_ok_iff.2 ⟨_, hskilled _ rfl, ?_⟩⟩⟩⟩⟩
    refine congrArg Except.ok ?_
    have hmissing : missingBoundary [] = requiredAuthorityBoundary := by decide
    have hconflicts : listField sampleExport "conflicts" = ([], true) := by
      simp [listField, sampleExport, PyVal.truthy]
    have hthreads : sampleExport.get "source_threads" = .none ∧ sampleExport.get "access_limitations" = .none := by
      simp [sampleExport]
    have hsample : PyVal.dict (fields [("skills_and_capabilities",
        .list [sampleSkill firstTexts, sampleSkill secondTexts])]) = sampleExport := rfl
    rw [hsample, hcoordinate, hmissing, hstatements, hlist, reportedConflicts, hconflicts, hthreads.1, hthreads.2]
    rfl
  exact bind_eq_ok_iff.2 ⟨_, htake, rfl⟩

theorem checkExports_sample : ∃ serialized, checkExports (some [sampleExport]) = .ok ([sampleExport], serialized) := by
  obtain ⟨hserialisable, hcharacters, hlength⟩ := written_sample.2.1
  have hdumps : PyJson.dumps PyJson.compact (.list [sampleExport]) =
      (.ok (PyJson.write PyJson.compact (.list [sampleExport])) : Except Fault PyStr) := if_pos hserialisable
  refine ⟨PyJson.write PyJson.compact (.list [sampleExport]), ?_⟩
  rw [checkExports, raiseIf_neg (by simp), ok_bind, raiseIf_neg (by simp [sampleExport]), ok_bind]
  rw [hdumps, ok_bind, encodeUtf8_ok hcharacters, ok_bind, raiseIf_neg hlength]
  rfl

theorem plain_skillSource {texts : PyStr × PyStr} (h : texts = firstTexts ∨ texts = secondTexts) :
    PyJson.Plain Encodable (skillSource sampleSetting 1 (cp "UNKNOWN") (sampleSkill texts)) := by
  obtain ⟨hserialisable, hencodable⟩ := written_sample.2.2 texts (by simpa using h)
  exact @PyJson.plain_of_encodable_write PyJson.compact rfl _ hserialisable hencodable

theorem finalize_sampleMerge (mode scope intentRef timestamp : String) :
    ∃ packet, finalizePacket (mergedPacket sampleMerge (cp mode) (cp scope) (cp intentRef) (cp timestamp)) =
      (.ok packet : Except Fault PyVal) := by
  refine finalizePacket_isOk_iff.2 ?_
  have hhash : Encodable (hashOf sampleExport) := encodable_hashOf _
  have htext : Encodable (textHash [97, 0, 98, 0, 99]) := Sha256.encodable_hexdigest _
  have hfirst := plain_skillSource (.inl rfl)
  have hsecond := plain_skillSource (.inr rfl)
  have hc : Encodable firstTexts.2 ∧ Encodable firstTexts.1 := by
    have h : ∀ c ∈ firstTexts.2 ++ firstTexts.1, ¬IsSurrogate c := by decide
    exact encodable_append.1 h
  have hget : sampleExport.get "export_id" = .none ∧ sampleExport.get "schema_version" = .none ∧
      sampleExport.get "source_threads" = .none ∧ sampleExport.get "access_limitations" = .none := by
    simp [sampleExport]
  have hunknown : (sanitizeString sampleSetting (cp "UNKNOWN")).take 240 = cp "UNKNOWN" := computed_sample.2.2.2.2.1
  have hcut : (cp "UNKNOWN").take 40 = cp "UNKNOWN" := by decide
  have hbinding : PyJson.Plain Encodable sampleBinding := by
    simp [sampleBinding, binding, PyJson.plain_obj_iff, PyJson.Plain.bool, PyJson.Plain.int, PyJson.plain_str_iff,
      PyJson.Plain.none, hhash, textOr, hget, PyVal.truthy, hunknown, hcut, lit]
  have hcoordinate : PyJson.Plain Encodable (mergedCoordinate sampleMerge) := by
    simp [mergedCoordinate, sampleMerge, PyJson.plain_obj_iff, PyJson.Plain.bool, PyJson.Plain.int,
      PyJson.plain_list_iff, hbinding]
  have hgroups : sortGroups sampleMerge.skills = sampleMerge.skills := List.mergeSort_singleton _
  have hevidence : PyJson.Plain Encodable (mergedEvidence sampleMerge) := by
    rw [mergedEvidence, hgroups]
    simp [sampleMerge, sortGroups, skillValue, PyJson.plain_obj_iff, PyJson.plain_list_iff, PyJson.plain_str_iff,
      PyJson.Plain.bool, PyJson.Plain.int, PyJson.plain_lit, htext, hc, hfirst, hsecond]
  have hquarantine : PyJson.Plain Encodable (mergedQuarantine sampleMerge) := by
    simp [mergedQuarantine, sampleMerge, boundaryConflicts, requiredAuthorityBoundary, PyJson.plain_obj_iff,
      PyJson.plain_list_iff, PyJson.Plain.bool, PyJson.Plain.int, PyJson.plain_lit]
  simp [mergedPacket, hcoordinate, hevidence, hquarantine, envelopeAuthority, schemaId, PyJson.plain_obj_iff,
    PyJson.plain_str_iff, PyJson.Plain.bool, PyJson.plain_lit]

/-- The sample is merged, and its packet built. -/
theorem buildPacket_sample : ∃ packet, buildPacket sampleSetting sampleArguments = .ok packet ∧
    packet.get "state" ≠ lit "HOLD_MODEL_SOURCE_SECRET_OR_MEMBER_PLAINTEXT" ∧
    ∃ mode scope intentRef timestamp, finalizePacket (mergedPacket sampleMerge mode scope intentRef timestamp) =
      (.ok packet : Except Fault PyVal) := by
  obtain ⟨serialized, hchecked⟩ := checkExports_sample
  obtain ⟨packet, hpacket⟩ := finalize_sampleMerge "ASSIMILATE_SOURCE_EXPORTS" "scope" "intent" "2026-01-01T00:00:00+00:00"
  have hscope : (sanitizeString sampleSetting (cp "scope")).take 4000 = cp "scope" := computed_sample.2.2.2.2.2.1
  have hintent : (sanitizeString sampleSetting (cp "intent")).take 512 = cp "intent" := computed_sample.2.2.2.2.2.2
  refine ⟨packet, ?_, ?_, _, _, _, _, hpacket⟩
  · obtain ⟨hmode, hscopeText, hintentText⟩ := computed_sample.2.2.2.1
    have hprepare : ¬cp "ASSIMILATE_SOURCE_EXPORTS" = cp "PREPARE_SOURCE_REQUEST" :=
      fun h => absurd (cp_inj.1 h) (by decide)
    have hupper : sampleSetting.upper (cp "ASSIMILATE_SOURCE_EXPORTS") = cp "ASSIMILATE_SOURCE_EXPORTS" := rfl
    rw [buildPacket, hmode, ok_bind, hscopeText, ok_bind, hintentText, ok_bind]
    dsimp only
    rw [hupper, if_neg hprepare, raiseIf_neg (not_not.2 rfl), ok_bind]
    refine bind_eq_ok_iff.2 ⟨_, hchecked, ?_⟩
    rw [hscope, hintent]
    exact bind_eq_ok_iff.2 ⟨_, mergeExports_sample, hpacket⟩
  · rw [get_finalizePacket hpacket (by decide)]
    simp only [mergedPacket, get_obj, getItem_fields_cons, getItem_fields_nil]
    exact fun heq => absurd (cp_inj.1 (PyVal.str.inj heq)) (by decide)

theorem statementsOf_sample : statementsOf sampleSetting [sampleExport] = [] := by
  simp [statementsOf, sourcesOf, sourcesIn, statementKind, listField, sampleExport, PyVal.truthy]

theorem skillsOf_sample : skillsOf sampleSetting [sampleExport] =
    [⟨1, 0, cp "UNKNOWN", sampleSkill firstTexts⟩, ⟨1, 1, cp "UNKNOWN", sampleSkill secondTexts⟩] := by
  have hlist : (listField sampleExport "skills_and_capabilities").1 =
      [sampleSkill firstTexts, sampleSkill secondTexts] := by
    simp [listField, sampleExport]
  have hcoordinate : accountCoordinate sampleSetting sampleExport = cp "UNKNOWN" := computed_sample.2.2.1
  simp [skillsOf, sourcesOf, sourcesIn, skillKind, hlist, hcoordinate]

theorem collisionFree_sample : CollisionFree sampleSetting [sampleExport] where
  claims := by
    intro s hs
    rw [statementsOf_sample] at hs
    cases hs
  skills := by
    have htext : ∀ s ∈ (skillKind sampleSetting).accepted (skillsOf sampleSetting [sampleExport]),
        (skillKind sampleSetting).text s.value = [97, 0, 98, 0, 99] := by
      intro s hs
      have hmem := List.mem_of_mem_filter hs
      rw [skillsOf_sample, List.mem_cons, List.mem_singleton] at hmem
      rcases hmem with rfl | rfl
      · exact (computed_sample.2.1 firstTexts (by simp)).2
      · exact (computed_sample.2.1 secondTexts (by simp)).2
    exact fun s hs t ht _ => (htext s hs).trans (htext t ht).symm

/-! ### Packets of exact merges -/

section Packet

variable {setting : Setting} {args : Arguments} {mode : PyStr} {exports : List PyVal} {packet : PyVal}

/-- **Source exports are merged exactly** when the texts that are digested distinguish claims and skills. -/
theorem packet_exact_iff (hmode : requireNonEmptyString args.mode "mode" = .ok mode)
    (hassimilate : setting.upper mode = cp "ASSIMILATE_SOURCE_EXPORTS") (hexports : args.sourceExports = some exports)
    (hrun : buildPacket setting args = .ok packet)
    (hready : packet.get "state" ≠ lit "HOLD_MODEL_SOURCE_SECRET_OR_MEMBER_PLAINTEXT")
    (hsha : CollisionFree setting exports) :
    ∃ m, mergeExports setting exports = .ok m ∧ packet.get "D4_EVIDENCE" = mergedEvidence m ∧
      (Exact setting exports m ↔ Distinguished setting exports) := by
  obtain ⟨m, hm, hevidence⟩ := merged_of_buildPacket hmode hassimilate hexports hrun hready
  exact ⟨m, hm, hevidence, exact_iff hm hsha⟩

end Packet

theorem packet_exact_iff_sample : ∃ packet m, buildPacket sampleSetting sampleArguments = .ok packet ∧ 
    mergeExports sampleSetting [sampleExport] = .ok m ∧ packet.get "D4_EVIDENCE" = mergedEvidence m ∧
      (Exact sampleSetting [sampleExport] m ↔ Distinguished sampleSetting [sampleExport]) := by
  obtain ⟨packet, hpacket, hready, -⟩ := buildPacket_sample
  have hmode : requireNonEmptyString sampleArguments.mode "mode" =
      (.ok (cp "ASSIMILATE_SOURCE_EXPORTS") : Except Fault PyStr) := by decide +kernel
  obtain ⟨m, h⟩ := packet_exact_iff hmode rfl rfl hpacket hready collisionFree_sample
  exact ⟨packet, m, hpacket, h⟩

/-- Exports that are not merged exactly: two skills with other names share a group. -/
theorem packet_not_exact : ∃ packet, buildPacket sampleSetting sampleArguments = .ok packet ∧
    packet.get "state" ≠ lit "HOLD_MODEL_SOURCE_SECRET_OR_MEMBER_PLAINTEXT" ∧
    CollisionFree sampleSetting [sampleExport] ∧ ∀ m, mergeExports sampleSetting [sampleExport] = .ok m →
      ¬Exact sampleSetting [sampleExport] m := by
  obtain ⟨packet, hpacket, hready, -⟩ := buildPacket_sample
  refine ⟨packet, hpacket, hready, collisionFree_sample, fun m hm hexact => ?_⟩
  have hdist := (exact_iff hm collisionFree_sample).1 hexact
  have hfirst : (⟨1, 0, cp "UNKNOWN", sampleSkill firstTexts⟩ : Sourced) ∈
      (skillKind sampleSetting).accepted (skillsOf sampleSetting [sampleExport]) := by
    rw [skillsOf_sample]
    exact List.mem_filter.2 ⟨List.mem_cons_self, by decide +kernel⟩
  have hsecond : (⟨1, 1, cp "UNKNOWN", sampleSkill secondTexts⟩ : Sourced) ∈
      (skillKind sampleSetting).accepted (skillsOf sampleSetting [sampleExport]) := by
    rw [skillsOf_sample]
    exact List.mem_filter.2 ⟨List.mem_cons_of_mem _ List.mem_cons_self, by decide +kernel⟩
  refine hdist.nul _ hfirst _ hsecond ?_
  rw [computed_sample.1.1, computed_sample.1.2]
  exact ⟨[98], rfl, rfl⟩

end ModelSources
