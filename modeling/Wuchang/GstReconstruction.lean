/-
**A packet is reconstructed.**

`reconstruct_to_directory` runs the programs of an accepted packet once more and writes the files, below a
temporary directory beside the output path that is renamed at the end, or removed when something fails.

The validator compares the paths of the cells as texts.  Whether they can stand beside one another in a tree
is a different question: where one path is a directory of another one there can be no file, and the
operating system raises.

Main definitions:

* `Gst.writeCell`, `Gst.reconstructToDirectory` — the reconstruction;
* `Gst.Fresh` — the output path is fresh;
* `Gst.Materialised` — every cell has its file, with the content it commits to;
* `Gst.NoAncestor` — no path of a cell is a directory of another one;
* `Gst.emptyFilesPacket` — a packet of empty files.

Main results:

* `Gst.writeCell_run`, `Gst.writeCells_run` — writing cells is writing files below a directory;
* `Gst.reconstructToDirectory_osError` — what is raised where a file is in the way;
* `Gst.reconstructToDirectory_iff` — when the reconstruction of an accepted packet passes;
* `Gst.emptyFilesPacket_valid` — packets of empty files are accepted.
-/

import Wuchang.GstPacket
import Wuchang.PyFiles

set_option relaxedAutoImplicit false
set_option autoImplicit false

namespace Gst

open Py Files

/-- The file system. -/
abbrev FileTree := Tree PyStr Bytes

/-- An operation of the operating system; where it fails it raises an `OSError`. -/
def osCall (operation : FileTree → Option FileTree) : EStateM Fault FileTree Unit := fun t =>
  match operation t with
  | some t' => .ok () t'
  | none => .error (.builtin .osError) t

/-- The body of the loop over the blocks: the block is added to the file. -/
def writeBlock (target : Path) (written block : Bytes) : EStateM Fault FileTree Bytes := do
  osCall fun t => t.put target (written ++ block)
  pure (written ++ block)

/-- A cell is reconstructed below the temporary directory. -/
def writeCell (tempRoot : Path) (cell : PyVal) : EStateM Fault FileTree Unit := do
  let path ← (cell.at "path" : Except Fault PyVal)
  let relative ← safeRelativePath path
  let target := tempRoot ++ pathParts relative
  -- the operating system is given the bytes of the path
  let _ ← (encodeUtf8 relative : Except Fault Bytes)
  osCall fun t => t.makeDirs target.dropLast
  osCall fun t => t.put target []
  let written ← forBlocks cell (writeBlock target) []
  let targetBytes ← (cell.at "target_bytes" : Except Fault PyVal)
  let targetSha256 ← (cell.at "target_sha256" : Except Fault PyVal)
  raiseIf (¬pyEq targetBytes (.int written.length) ∨
      ¬pyEq targetSha256 (.str (Sha256.hexdigest written)))
    (cp "HOLD_RECONSTRUCTED_FILE_MISMATCH")

/-- `try: … finally: …`: when something is raised the temporary directory is removed. -/
def orRemove (parent : Path) (temp : PyStr) (x : EStateM Fault FileTree Unit) :
    EStateM Fault FileTree Unit := fun t =>
  match x t with
  | .ok a t' => .ok a t'
  | .error e t' => .error e (t'.remove parent temp)

/-- What `mkdtemp` calls the directory; the suffix is drawn at random. -/
def tempName (name suffix : PyStr) : PyStr := cp "." ++ name ++ cp "." ++ suffix

/-- What is returned at the end: `{**validation, …}`. -/
def passed (validation : PyVal) (outputRoot : Path) : PyVal :=
  match validation with
  | .dict items => .dict (updateItems items [
      (cp "state", lit "PASS_EXACT_GENERATIVE_STATE_RECONSTRUCTION"),
      (cp "output_root", .str (cp "/" ++ asPosix outputRoot)),
      (cp "difference_analysis_was_transmission", .bool false),
      (cp "canonical_runtime_effect", .bool false),
      (cp "formal_effect_authority", lit "EXTERNAL_TOTAL_FIELD_REQUIRED")])
  | v => v

/-- `reconstruct_to_directory`; the output root is the entry `name` of the directory `parent`. -/
def reconstructToDirectory (packet : PyVal) (parent : Path) (name suffix : PyStr) :
    EStateM Fault FileTree PyVal := do
  let validation ← validatePacket packet
  let t ← get
  raiseIf (t.exists (parent ++ [name])) (cp "HOLD_OUTPUT_ROOT_ALREADY_EXISTS")
  osCall fun t => t.makeDirs parent
  let temp := tempName name suffix
  osCall fun t => t.mkdir (parent ++ [temp])
  orRemove parent temp do
    let cells ← fileCells packet
    forM cells (writeCell (parent ++ [temp]))
    osCall fun t => t.move parent temp name
  pure (passed validation (parent ++ [name]))

/-! ### Writing a cell -/

variable {t t₀ t₁ t' : FileTree} {target tempRoot : Path}

theorem osCall_bind_some {α : Type} {operation : FileTree → Option FileTree}
    (h : operation t = some t') (f : Unit → EStateM Fault FileTree α) :
    (osCall operation >>= f).run t = (f ()).run t' := by
  have hrun : (osCall operation).run t = .ok () t' := by rw [EStateM.run, osCall, h]
  rw [EStateM.run_bind, hrun]

theorem osCall_bind_none {α : Type} {operation : FileTree → Option FileTree} (h : operation t = none)
    (f : Unit → EStateM Fault FileTree α) :
    (osCall operation >>= f).run t = .error (.builtin .osError) t := by
  have hrun : (osCall operation).run t = .error (.builtin .osError) t := by rw [EStateM.run, osCall, h]
  rw [EStateM.run_bind, hrun]

/-- Whether a file can be written does not depend on its content. -/
theorem exists_put {a : Bytes} (b : Bytes) (h : t₀.put target a = some t₁) :
    ∃ t₂, t₀.put target b = some t₂ := by
  rw [← Option.isSome_iff_exists, Tree.put_isSome_iff, ← Tree.put_isSome_iff (c := a), h]
  rfl

/-- Block by block the file gets the content they are together. -/
theorem writeBlocks_run (blocks : List Bytes) {a : Bytes} (h : t₀.put target a = some t₁) :
    ∃ t₂, t₀.put target (a ++ blocks.flatten) = some t₂ ∧
      (blocks.foldlM (writeBlock target) a).run t₁ = .ok (a ++ blocks.flatten) t₂ := by
  induction blocks generalizing a t₁ with
  | nil => exact ⟨t₁, by simpa using h, by simp⟩
  | cons block blocks ih =>
      obtain ⟨t₂, ht₂⟩ := exists_put (a ++ block) h
      obtain ⟨t₃, ht₃, hrun⟩ := ih ht₂
      have hblock : (writeBlock target a block).run t₁ = .ok (a ++ block) t₂ := by
        rw [writeBlock, osCall_bind_some ((Tree.put_put h).trans ht₂)]
        rfl
      rw [List.flatten_cons, ← List.append_assoc]
      refine ⟨t₃, ht₃, ?_⟩
      rw [List.foldlM_cons, EStateM.run_bind, hblock]
      exact hrun

variable {c : Commitment}

/-- What is run for a cell that commits to a file. -/
theorem writeCell_eq (hpath : Encodable c.path) :
    writeCell tempRoot c.cell = (do
      osCall fun t => t.makeDirs (tempRoot ++ (pathParts c.path).dropLast)
      osCall fun t => t.put (tempRoot ++ pathParts c.path) []
      let written ← c.blocks.foldlM (writeBlock (tempRoot ++ pathParts c.path)) []
      raiseIf (¬pyEq (.int c.blocks.flatten.length) (.int written.length) ∨
          ¬pyEq (.str (Sha256.hexdigest c.blocks.flatten)) (.str (Sha256.hexdigest written)))
        (cp "HOLD_RECONSTRUCTED_FILE_MISMATCH")) := by
  have hpure : ∀ {β γ : Type} (b : β) (f : β → EStateM Fault FileTree γ),
      ((liftM (Except.ok b : Except Fault β) : EStateM Fault FileTree β) >>= f) = f b := fun _ _ => rfl
  obtain ⟨v, hv⟩ : ∃ v, c.cell.get "path" = v := ⟨_, rfl⟩
  have hsafe := c.safe
  rw [hv] at hsafe
  have hvne : v ≠ .none := by
    rintro rfl
    cases hsafe
  have hdrop : (tempRoot ++ pathParts c.path).dropLast = tempRoot ++ (pathParts c.path).dropLast :=
    List.dropLast_append_of_ne_nil (asPosix_pathParts c.safe).1
  rw [writeCell, at_of_get hv hvne, hpure, hsafe, hpure, encodeUtf8_ok hpath, hpure, hdrop,
    forBlocks_of_yields (fun _ => rfl) c.yields, at_of_get c.size (by simp), at_of_get c.digest (by simp)]
  rfl

/-- A cell that commits to a file is written as that file. -/
theorem writeCell_run (hpath : Encodable c.path) (ht' : t.write tempRoot c.file = some t') :
    (writeCell tempRoot c.cell).run t = .ok () t' := by
  rw [Tree.write] at ht'
  obtain ⟨t₁, hmake, ht'⟩ := Option.bind_eq_some_iff.1 ht'
  obtain ⟨t₂, hput⟩ := exists_put [] ht'
  obtain ⟨t₃, ht₃, hblocks⟩ := writeBlocks_run c.blocks hput
  obtain rfl : t₃ = t' := Option.some.inj (ht₃.symm.trans ht')
  have hsize : pyEq (.int c.blocks.flatten.length) (.int ([] ++ c.blocks.flatten).length) = true := by
    simp [pyEq, numOf, numEq]
  have hdigest : pyEq (.str (Sha256.hexdigest c.blocks.flatten))
      (.str (Sha256.hexdigest ([] ++ c.blocks.flatten))) = true := pyEq_str.2 rfl
  rw [writeCell_eq hpath, osCall_bind_some hmake, osCall_bind_some hput, EStateM.run_bind]
  rw [Commitment.file] at hblocks
  rw [hblocks]
  dsimp only
  rw [raiseIf_neg (not_or.2 ⟨not_not.2 hsize, not_not.2 hdigest⟩)]
  rfl

/-- Where it cannot be written something is in the way, and an `OSError` is raised. -/
theorem writeCell_run_none (hpath : Encodable c.path) (hnone : t.write tempRoot c.file = none) :
    ∃ t', (writeCell tempRoot c.cell).run t = .error (.builtin .osError) t' := by
  rw [writeCell_eq hpath]
  rw [Tree.write, Commitment.file] at hnone
  cases hmake : t.makeDirs (tempRoot ++ (pathParts c.path).dropLast) with
  | none => exact ⟨t, osCall_bind_none hmake _⟩
  | some t₁ =>
      rw [osCall_bind_some hmake]
      cases hput : t₁.put (tempRoot ++ pathParts c.path) [] with
      | none => exact ⟨t₁, osCall_bind_none hput _⟩
      | some t₂ =>
          obtain ⟨t₃, ht₃⟩ := exists_put c.blocks.flatten hput
          rw [hmake, Option.bind_eq_bind, Option.bind_some, ht₃] at hnone
          cases hnone

/-! ### Writing the cells -/

variable {commits : List Commitment}

/-- Cells that commit to files are written as these files. -/
theorem writeCells_run (hpaths : ∀ c ∈ commits, Encodable c.path)
    (ht' : t.writes tempRoot (commits.map Commitment.file) = some t') :
    (forM (commits.map Commitment.cell) (writeCell tempRoot)).run t = .ok () t' := by
  induction commits generalizing t with
  | nil =>
      obtain rfl := Option.some.inj ht'
      rfl
  | cons c commits ih =>
      rw [List.forall_mem_cons] at hpaths
      rw [Tree.writes, List.map_cons, List.foldlM_cons] at ht'
      obtain ⟨t₁, hwrite, hrest⟩ := Option.bind_eq_some_iff.1 ht'
      rw [List.map_cons, List.forM_cons, EStateM.run_bind, writeCell_run hpaths.1 hwrite]
      exact ih hpaths.2 hrest

/-- Where they cannot all be written an `OSError` is raised. -/
theorem writeCells_run_none (hpaths : ∀ c ∈ commits, Encodable c.path)
    (hnone : t.writes tempRoot (commits.map Commitment.file) = none) :
    ∃ t', (forM (commits.map Commitment.cell) (writeCell tempRoot)).run t =
      .error (.builtin .osError) t' := by
  induction commits generalizing t with
  | nil => cases hnone
  | cons c commits ih =>
      rw [List.forall_mem_cons] at hpaths
      rw [Tree.writes, List.map_cons, List.foldlM_cons] at hnone
      rw [List.map_cons, List.forM_cons, EStateM.run_bind]
      cases hwrite : t.write tempRoot c.file with
      | none =>
          obtain ⟨t₁, hrun⟩ := writeCell_run_none hpaths.1 hwrite
          exact ⟨t₁, by rw [hrun]⟩
      | some t₁ =>
          rw [hwrite, Option.bind_eq_bind, Option.bind_some] at hnone
          rw [writeCell_run hpaths.1 hwrite]
          exact ih hpaths.2 hnone

/-- The files that accepted cells commit to have names. -/
theorem file_ne_nil : ∀ f ∈ commits.map Commitment.file, f.1 ≠ [] := by
  rw [List.forall_mem_map]
  exact fun c _ => (asPosix_pathParts c.safe).1

/-- Paths that differ have different names. -/
theorem nodup_files (hnodup : (commits.map Commitment.path).Nodup) :
    ((commits.map Commitment.file).map Prod.fst).Nodup := by
  rw [List.map_map]
  refine List.Nodup.map_on (fun c hc c' hc' heq => ?_) (List.Nodup.of_map _ hnodup)
  refine List.inj_on_of_nodup_map hnodup hc hc' ?_
  rw [← (asPosix_pathParts c.safe).2, ← (asPosix_pathParts c'.safe).2]
  exact congrArg asPosix heq

/-! ### The whole reconstruction -/

/-- The output path is fresh: nothing is there, no file is on the way, and the suffix that is drawn gives a
name that is not used yet. -/
structure Fresh (t : FileTree) (parent : Path) (name suffix : PyStr) : Prop where
  absent : t.exists (parent ++ [name]) = false
  reachable : ∀ q, q <+: parent → t.isFile q = false
  unused : t.exists (parent ++ [tempName name suffix]) = false

/-- The names of the path of a cell. -/
def cellPath (cell : PyVal) : Path :=
  match safeRelativePath (cell.get "path") with
  | .ok path => pathParts path
  | .error _ => []

/-- No path of a cell is a directory of another one. -/
def NoAncestor (packet : PyVal) : Prop :=
  ∀ cells, fileCells packet = .ok cells →
    ∀ p ∈ cells.map cellPath, ∀ q ∈ cells.map cellPath, p <+: q → p = q

/-- Below a directory every cell has its file, with the content it commits to. -/
def Materialised (t : FileTree) (root : Path) (packet : PyVal) : Prop :=
  ∀ cells, fileCells packet = .ok cells → ∀ cell ∈ cells, ∃ data : Bytes,
    t.node (root ++ cellPath cell) = some (.file data) ∧
      cell.get "target_bytes" = .int data.length ∧
      cell.get "target_sha256" = .str (Sha256.hexdigest data)

/-- The reconstruction passes, and every cell has its file. -/
def Passes (packet : PyVal) (t : FileTree) (parent : Path) (name suffix : PyStr) : Prop :=
  ∃ result t', (reconstructToDirectory packet parent name suffix).run t = .ok result t' ∧
    result.get "state" = lit "PASS_EXACT_GENERATIVE_STATE_RECONSTRUCTION" ∧
    Materialised t' (parent ++ [name]) packet

variable {packet validation : PyVal} {parent : Path} {name suffix : PyStr}

theorem tempName_ne (name suffix : PyStr) : tempName name suffix ≠ name := by
  intro h
  have := congrArg List.length h
  simp only [tempName, List.length_append] at this
  have : (cp ".").length = 1 := rfl
  omega

theorem cellPath_cell (c : Commitment) : cellPath c.cell = c.file.1 := by
  rw [cellPath, c.safe]
  rfl

/-- The paths of accepted cells are apart exactly if none is a directory of another one. -/
theorem noAncestor_iff (hcells : fileCells packet = .ok (commits.map Commitment.cell))
    (hnodup : (commits.map Commitment.path).Nodup) :
    NoAncestor packet ↔ ((commits.map Commitment.file).map Prod.fst).Pairwise Apart := by
  have hpaths : (commits.map Commitment.cell).map cellPath = (commits.map Commitment.file).map Prod.fst := by
    rw [List.map_map, List.map_map]
    exact List.map_congr_left fun c _ => cellPath_cell c
  rw [pairwise_apart_iff (nodup_files hnodup), ← hpaths, NoAncestor, hcells]
  constructor
  · intro h
    exact h _ rfl
  · intro h cells hok
    obtain rfl := Except.ok.inj hok
    exact h

/-- In a fresh place an empty temporary directory is made. -/
theorem exists_temp (h : Fresh t parent name suffix) : ∃ t₁ t₂, t.makeDirs parent = some t₁ ∧
    t₁.mkdir (parent ++ [tempName name suffix]) = some t₂ ∧
    Holds t₂ (parent ++ [tempName name suffix]) [] ∧ t₂.exists (parent ++ [name]) = false := by
  have hlong : ∀ a q, ¬parent ++ a :: q <+: parent := fun a q hpre => absurd hpre.length_le (by simp)
  obtain ⟨t₁, ht₁⟩ := Option.isSome_iff_exists.1 (Tree.makeDirs_isSome_iff.2 h.reachable)
  have hnode₁ : ∀ a q, t₁.node (parent ++ a :: q) = t.node (parent ++ a :: q) := fun a q => by
    rw [Tree.makeDirs_node ht₁, if_neg (hlong a q)]
  have hparent : t₁.isDir (parent ++ [tempName name suffix]).dropLast = true := by
    rw [List.dropLast_concat, Tree.isDir_iff, Tree.makeDirs_node ht₁, if_pos (List.prefix_refl _)]
  have hunused : t₁.exists (parent ++ [tempName name suffix]) = false := by
    rw [Tree.exists, hnode₁, ← Tree.exists, h.unused]
  obtain ⟨t₂, ht₂⟩ := Option.isSome_iff_exists.1 (Tree.mkdir_isSome_iff.2 ⟨hparent, hunused⟩)
  have hnode₂ := Tree.mkdir_node ht₂
  refine ⟨t₁, t₂, ht₁, ht₂, holds_nil ?_ fun a q => ?_, ?_⟩
  · rw [Tree.isDir_iff, hnode₂, Function.update_self]
  · rw [hnode₂, Function.update_of_ne (by simp), List.append_assoc, List.singleton_append, hnode₁]
    -- nothing is below what is not there
    by_contra hne
    have hdir := Tree.isDir_of_prefix (q := parent ++ [tempName name suffix]) hne (by simp) (by simp)
    have habsent := h.unused
    rw [Tree.exists, Tree.isDir_iff.1 hdir] at habsent
    cases habsent
  · rw [Tree.exists, hnode₂, Function.update_of_ne (by simp [(tempName_ne name suffix).symm]), hnode₁,
      ← Tree.exists, h.absent]

theorem orRemove_bind_ok {α : Type} {temp : PyStr} {x : EStateM Fault FileTree Unit}
    (h : x.run t = .ok () t') (f : Unit → EStateM Fault FileTree α) :
    (orRemove parent temp x >>= f).run t = (f ()).run t' := by
  have hrun : (orRemove parent temp x).run t = .ok () t' := by
    rw [EStateM.run, orRemove, show x t = _ from h]
  rw [EStateM.run_bind, hrun]

theorem orRemove_bind_error {α : Type} {temp : PyStr} {x : EStateM Fault FileTree Unit} {e : Fault}
    (h : x.run t = .error e t') (f : Unit → EStateM Fault FileTree α) :
    (orRemove parent temp x >>= f).run t = .error e (t'.remove parent temp) := by
  have hrun : (orRemove parent temp x).run t = .error e (t'.remove parent temp) := by
    rw [EStateM.run, orRemove, show x t = _ from h]
  rw [EStateM.run_bind, hrun]

/-- The validator returns a dictionary. -/
theorem validatePacket_dict (h : validatePacket packet = .ok validation) :
    ∃ items, validation = .dict items := by
  cases packet with
  | dict items =>
      rw [validatePacket] at h
      obtain ⟨_, -, h⟩ := bind_eq_ok_iff.1 h
      obtain ⟨_, -, h⟩ := bind_eq_ok_iff.1 h
      obtain ⟨_, -, h⟩ := bind_eq_ok_iff.1 h
      obtain ⟨_, -, h⟩ := bind_eq_ok_iff.1 h
      obtain ⟨_, -, h⟩ := bind_eq_ok_iff.1 h
      obtain ⟨_, -, h⟩ := bind_eq_ok_iff.1 h
      exact ⟨_, (pure_eq_ok_iff.1 h).symm⟩
  | _ => cases h

theorem get_state_passed {items : Items} (root : Path) :
    (passed (.dict items) root).get "state" = lit "PASS_EXACT_GENERATIVE_STATE_RECONSTRUCTION" := by
  rw [passed, PyVal.get, getItem_updateItems, List.lookup_cons_self]
  rfl

/-- What is left to run in a fresh place. -/
theorem reconstructToDirectory_run (hvalid : validatePacket packet = .ok validation)
    (hcells : fileCells packet = .ok (commits.map Commitment.cell)) (hfresh : Fresh t parent name suffix)
    {t₁ t₂ : FileTree} (ht₁ : t.makeDirs parent = some t₁)
    (ht₂ : t₁.mkdir (parent ++ [tempName name suffix]) = some t₂) :
    (reconstructToDirectory packet parent name suffix).run t =
      (orRemove parent (tempName name suffix) (do
        forM (commits.map Commitment.cell) (writeCell (parent ++ [tempName name suffix]))
        osCall fun t => t.move parent (tempName name suffix) name) >>= fun _ =>
          pure (passed validation (parent ++ [name]))).run t₂ := by
  have hpure : ∀ {β γ : Type} (b : β) (f : β → EStateM Fault FileTree γ),
      ((liftM (Except.ok b : Except Fault β) : EStateM Fault FileTree β) >>= f) = f b := fun _ _ => rfl
  rw [reconstructToDirectory, hvalid, hpure, run_get_bind, raiseIf_neg (by simp [hfresh.absent]), hpure,
    osCall_bind_some ht₁]
  dsimp only
  rw [osCall_bind_some ht₂, hcells, hpure]

/-- Where a path of a cell is a directory of another one an `OSError` escapes. -/
theorem reconstructToDirectory_osError (hvalid : validatePacket packet = .ok validation)
    (hfresh : Fresh t parent name suffix) (h : ¬NoAncestor packet) :
    ∃ t', (reconstructToDirectory packet parent name suffix).run t = .error (.builtin .osError) t' := by
  obtain ⟨commits, hcells, hnodup, hencodable⟩ := validatePacket_ok hvalid
  obtain ⟨t₁, t₂, ht₁, ht₂, hholds, -⟩ := exists_temp hfresh
  rw [noAncestor_iff hcells hnodup, ← hholds.writes_empty_isSome_iff file_ne_nil (nodup_files hnodup),
    Option.not_isSome_iff_eq_none] at h
  obtain ⟨t₃, hwritten⟩ := writeCells_run_none hencodable h
  have herror : (do
      forM (commits.map Commitment.cell) (writeCell (parent ++ [tempName name suffix]))
      osCall fun t => t.move parent (tempName name suffix) name).run t₂ =
        .error (.builtin .osError) t₃ := by
    rw [EStateM.run_bind, hwritten]
  exact ⟨_, (reconstructToDirectory_run hvalid hcells hfresh ht₁ ht₂).trans (orRemove_bind_error herror _)⟩

/-- Where none is, the reconstruction passes. -/
theorem passes_of_noAncestor (hvalid : validatePacket packet = .ok validation)
    (hfresh : Fresh t parent name suffix) (h : NoAncestor packet) : Passes packet t parent name suffix := by
  obtain ⟨commits, hcells, hnodup, hencodable⟩ := validatePacket_ok hvalid
  obtain ⟨t₁, t₂, ht₁, ht₂, hholds, habsent⟩ := exists_temp hfresh
  obtain ⟨items, rfl⟩ := validatePacket_dict hvalid
  rw [noAncestor_iff hcells hnodup, ← hholds.writes_empty_isSome_iff file_ne_nil (nodup_files hnodup),
    Option.isSome_iff_exists] at h
  obtain ⟨t₃, hw⟩ := h
  have hholds₃ := hholds.writes file_ne_nil (nodup_files hnodup) hw
  have htemp : t₃.exists (parent ++ [tempName name suffix]) = true := by
    rw [Tree.exists, Tree.isDir_iff.1 (hholds₃.isDir file_ne_nil)]
    rfl
  have hname : t₃.exists (parent ++ [name]) = false := by
    have hnot : ¬parent ++ [tempName name suffix] <+: parent ++ [name] := by
      simp [tempName_ne]
    rw [Tree.exists, hholds.writes_node_of_not_prefix file_ne_nil (nodup_files hnodup) hw hnot,
      ← Tree.exists, habsent]
  obtain ⟨t₄, ht₄⟩ := Option.isSome_iff_exists.1 (Tree.move_isSome_iff.2 ⟨htemp, hname⟩)
  have hwritten : (do
      forM (commits.map Commitment.cell) (writeCell (parent ++ [tempName name suffix]))
      osCall fun t => t.move parent (tempName name suffix) name).run t₂ = .ok () t₄ := by
    rw [EStateM.run_bind, writeCells_run hencodable hw]
    show (osCall _).run t₃ = _
    rw [EStateM.run, osCall, ht₄]
  refine ⟨passed (.dict items) (parent ++ [name]), t₄,
    (reconstructToDirectory_run hvalid hcells hfresh ht₁ ht₂).trans (orRemove_bind_ok hwritten _),
    get_state_passed _, fun cells hok cell hcell => ?_⟩
  rw [hcells] at hok
  obtain rfl := Except.ok.inj hok
  obtain ⟨c, hc, rfl⟩ := List.mem_map.1 hcell
  refine ⟨c.blocks.flatten, ?_, c.size, c.digest⟩
  rw [Tree.move_node ht₄, hholds₃, cellPath_cell, List.nil_append]
  exact below_eq_file (nodup_files hnodup) (List.mem_map_of_mem hc)

/-- **When a packet is reconstructed.**  The reconstruction of an accepted packet onto a fresh path passes,
and gives every cell its file, exactly if no path of a cell is a directory of another one. -/
theorem reconstructToDirectory_iff (hvalid : validatePacket packet = .ok validation)
    (hfresh : Fresh t parent name suffix) :
    Passes packet t parent name suffix ↔ NoAncestor packet := by
  refine ⟨fun hpasses => ?_, passes_of_noAncestor hvalid hfresh⟩
  by_contra hancestor
  obtain ⟨result, t', hok, -, -⟩ := hpasses
  obtain ⟨t₃, herror⟩ := reconstructToDirectory_osError hvalid hfresh hancestor
  rw [herror] at hok
  cases hok

/-! ### Packets of empty files -/

/-- The cell of an empty file. -/
def emptyCell (path : String) : PyVal :=
  obj [
    ("base_id", lit "OCTET256_V1"),
    ("formation_evidence", obj [
      ("difference_analysis_transmitted", .bool false), ("raw_material_u_bytes", .int 0)]),
    ("material_u", .list []),
    ("path", lit path),
    ("program", .list []),
    ("target_bytes", .int 0),
    ("target_sha256", .str (Sha256.hexdigest []))]

/-- The joint field, as far as it is checked. -/
def emptyField : PyVal :=
  obj [
    ("D1", obj []), ("D2", obj []), ("D3", obj []), ("D4", obj []),
    ("D5", obj [
      ("arbitrary_code_execution", .bool false), ("canonical_pointer_write", .bool false),
      ("service_restart", .bool false)]),
    ("D6", obj [
      ("difference_analysis_role", lit "UNDERSTANDING_ONLY_NOT_TRANSMISSION"),
      ("difference_analysis_transmitted", .bool false),
      ("differential_payload_bytes", .int 0),
      ("mode", lit "GENERATIVE_STATE_FROM_RULE_BASE_PLUS_U"),
      ("raw_material_u_bytes", .int 0),
      ("target_fact_bytes", .int 0),
      ("wire_bytes_metric", lit "CANONICAL_SERIALIZED_PACKET_BYTES")]),
    ("D7", obj []),
    ("D8", obj [
      ("authority", lit "EXTERNAL_TOTAL_FIELD_REQUIRED"), ("canonical_runtime_effect", .bool false),
      ("model_authority", .bool false)])]

/-- The fields of a packet of empty files, around its own hash. -/
def emptyBefore (paths : List String) (contract : PyVal) : List (String × PyVal) := [
  ("executor_contract", lit executorContract),
  ("file_cells", .list (paths.map emptyCell)),
  ("founder_definition", lit founderDefinition),
  ("joint_state_field", emptyField),
  ("material_base_contracts", .list [contract]),
  ("metrics", obj [
    ("difference_analysis_payload_bytes", .int 0), ("differential_payload_bytes", .int 0),
    ("full_target_bytes_transmitted", .int 0), ("raw_material_u_bytes", .int 0),
    ("target_fact_bytes", .int 0)])]

@[inherit_doc emptyBefore]
def emptyAfter (descriptor : PyStr) : List (String × PyVal) := [
  ("packet_type", lit packetType),
  ("protocol_descriptor_sha256", .str descriptor),
  ("protocol_version", lit protocolVersion),
  ("schema_version", lit packetSchema)]

/-- A packet of empty files. -/
def emptyFilesPacket (paths : List String) : Except Fault PyVal := do
  let contract ← materialBaseContract (cp "OCTET256_V1")
  let descriptor ← protocolDescriptor
  let bytes ← canonicalJsonBytes descriptor
  let after := emptyAfter (Sha256.hexdigest bytes)
  let digest ← packetSha256 (fields (emptyBefore paths contract ++ after))
  pure (obj (emptyBefore paths contract ++ ("packet_sha256", .str digest) :: after))

/-- Base64 texts can be encoded. -/
theorem encodable_b64encode (data : Bytes) : Encodable (b64encode data) := by
  have hchar : ∀ n, ¬IsSurrogate (base64Char n) := by
    intro n
    unfold base64Char IsSurrogate
    split_ifs <;> omega
  have hpad : ¬IsSurrogate 61 := by decide
  induction data using b64encode.induct with
  | case1 => simp [b64encode]
  | case2 a => simp [b64encode, Py.Encodable, hchar, hpad]
  | case3 a b => simp [b64encode, Py.Encodable, hchar, hpad]
  | case4 a b c rest ih =>
      rw [b64encode, Py.Encodable, List.forall_mem_cons, List.forall_mem_cons, List.forall_mem_cons,
        List.forall_mem_cons]
      exact ⟨hchar _, hchar _, hchar _, hchar _, ih⟩

/-- The contract of a base is a document that can be written. -/
theorem materialBaseContract_ok {baseId : PyStr} {atoms : List Bytes}
    (h : materialBaseAtoms baseId = .ok atoms) (hbase : Encodable baseId) :
    ∃ contract, materialBaseContract baseId = .ok contract ∧ PyJson.Plain Encodable contract ∧
      PyJson.allFinite contract = true ∧ (∃ items, contract = .dict items) ∧
      contract.get "base_id" = .str baseId ∧
      walkKeys contract = ["atom_count", "atom_table_sha256", "base_id", "derivation"].map cp := by
  have hplain : PyJson.Plain Encodable (.list (atoms.map fun atom => .str (b64encode atom))) := by
    refine .list _ fun v hv => ?_
    obtain ⟨atom, -, rfl⟩ := List.mem_map.1 hv
    exact .str _ (encodable_b64encode atom)
  have hfinite : PyJson.allFinite (.list (atoms.map fun atom => .str (b64encode atom))) = true := by
    rw [PyJson.allFinite, PyJson.allFiniteList_iff, List.forall_mem_map]
    exact fun atom _ => rfl
  rw [materialBaseContract, h, ok_bind]
  dsimp only
  rw [canonicalJsonBytes_of_plain hplain hfinite, ok_bind]
  refine ⟨_, rfl, PyJson.plain_obj ?_, rfl, ⟨_, rfl⟩, by simp,
    by simp [walkKeys_obj, walkKeys, lit]⟩
  simp only [List.forall_mem_cons]
  exact ⟨.int _, .str _ (Sha256.encodable_hexdigest _), .str _ hbase, PyJson.plain_lit _, by simp⟩

theorem octetAtoms_ok : ∃ atoms, materialBaseAtoms (cp "OCTET256_V1") = .ok atoms :=
  ⟨_, (if_neg (by simp [cp_inj])).trans (if_pos rfl)⟩

/-- The descriptor of the protocol is one. -/
theorem protocolDescriptor_ok : ∃ descriptor, protocolDescriptor = .ok descriptor ∧
    PyJson.Plain Encodable descriptor ∧ PyJson.allFinite descriptor = true := by
  obtain ⟨asciiAtoms, hasciiAtoms⟩ : ∃ atoms, materialBaseAtoms (cp "ASCII26_SYMBOLS_V1") = .ok atoms :=
    ⟨_, if_pos rfl⟩
  obtain ⟨octetAtoms, hoctetAtoms⟩ := octetAtoms_ok
  obtain ⟨ascii, hascii, hasciiPlain, hasciiFinite, -⟩ := materialBaseContract_ok hasciiAtoms (encodable_cp _)
  obtain ⟨octet, hoctet, hoctetPlain, hoctetFinite, -⟩ := materialBaseContract_ok hoctetAtoms (encodable_cp _)
  rw [protocolDescriptor, hascii, ok_bind, hoctet, ok_bind]
  refine ⟨_, rfl, PyJson.plain_obj ?_, ?_⟩
  · have hlit := PyJson.plain_lit
    have hbool : ∀ b, PyJson.Plain Encodable (.bool b) := fun b => .bool b
    have hbases : PyJson.Plain Encodable (.list [ascii, octet]) :=
      .list _ (by simp [hasciiPlain, hoctetPlain])
    simp only [List.forall_mem_cons, List.not_mem_nil, false_imp_iff, implies_true, and_true, hlit, hbases,
      true_and]
    exact ⟨PyJson.plain_obj (by simp [hlit, hbool]), PyJson.plain_obj (by simp [hlit]),
      PyJson.plain_obj (by simp [hlit, hbool]), PyJson.plain_obj (by simp [hlit])⟩
  · simp [PyJson.allFinite_obj, PyJson.allFinite, PyJson.allFiniteList, lit, hasciiFinite, hoctetFinite]

/-- The cell of an empty file passes when its path is safe and new. -/
theorem checkCell_emptyCell {acc : Totals} {path : String}
    (hsafe : safeRelativePath (lit path) = .ok (cp path)) (hnew : cp path ∉ acc.paths)
    (htarget : acc.target = 0) :
    checkCell acc (emptyCell path) = .ok ⟨cp path :: acc.paths, 0, acc.u⟩ := by
  obtain ⟨atoms, hatoms⟩ := octetAtoms_ok
  have hmap : validatedUMap (emptyCell path) = .ok [] := by
    rw [validatedUMap, show (emptyCell path).get "material_u" = .list [] by simp [emptyCell]]
    rfl
  have hprogram : cellProgram (emptyCell path) = .ok (atoms, [], []) := by
    rw [cellProgram, show (emptyCell path).get "base_id" = .str (cp "OCTET256_V1") by simp [emptyCell, lit]]
    dsimp only
    rw [hatoms, ok_bind, hmap, ok_bind, show (emptyCell path).get "program" = .list [] by simp [emptyCell]]
    rfl
  have hproduced : forBlocks (emptyCell path) produce [] = (.ok [] : Except Fault Bytes) := by
    rw [forBlocks, hprogram]
    rfl
  have hhash : isSha256 (.str (Sha256.hexdigest [])) = true := Sha256.isHex64_hexdigest []
  have hzero : pyEq (.int 0) (.int 0) = true := by decide
  rw [checkCell, hmap, hproduced, show (emptyCell path).get "path" = lit path by simp [emptyCell], hsafe,
    show (emptyCell path).get "target_bytes" = .int 0 by simp [emptyCell],
    show (emptyCell path).get "target_sha256" = .str (Sha256.hexdigest []) by simp [emptyCell],
    show (emptyCell path).get "formation_evidence" = obj [
      ("difference_analysis_transmitted", .bool false), ("raw_material_u_bytes", .int 0)] by
        simp [emptyCell]]
  simp [raiseIf, hnew, hhash, hzero, htarget, targetSize, isFalse, emptyCell, maxReconstructedBytes]

/-- The cells of empty files pass when their paths are safe and differ. -/
theorem checkCells_emptyCell {paths : List String} (acc : Totals)
    (hsafe : ∀ path ∈ paths, safeRelativePath (lit path) = .ok (cp path))
    (hnodup : (paths.map cp).Nodup) (hnew : ∀ path ∈ paths, cp path ∉ acc.paths) (htarget : acc.target = 0)
    (hu : acc.u = 0) :
    ∃ seen, (paths.map emptyCell).foldlM checkCell acc = .ok ⟨seen, 0, 0⟩ := by
  induction paths generalizing acc with
  | nil =>
      obtain ⟨seen, target, u⟩ := acc
      obtain rfl : target = 0 := htarget
      obtain rfl : u = 0 := hu
      exact ⟨seen, rfl⟩
  | cons path paths ih =>
      rw [List.forall_mem_cons] at hsafe hnew
      rw [List.map_cons, List.nodup_cons] at hnodup
      rw [List.map_cons, List.foldlM_cons, checkCell_emptyCell hsafe.1 hnew.1 htarget, ok_bind]
      refine ih _ hsafe.2 hnodup.2 (fun path' hpath' hmem => ?_) rfl hu
      rcases List.mem_cons.1 hmem with heq | hmem
      · exact hnodup.1 (heq ▸ List.mem_map_of_mem hpath')
      · exact hnew.2 path' hpath' hmem

/-- The fields of a packet of empty files can be written. -/
theorem plain_emptyBefore {paths : List String} {contract : PyVal}
    (hcontract : PyJson.Plain Encodable contract) :
    ∀ p ∈ emptyBefore paths contract, PyJson.Plain Encodable p.2 := by
  have hlit := PyJson.plain_lit
  have hbool : ∀ b, PyJson.Plain Encodable (.bool b) := fun b => .bool b
  have hint : ∀ n, PyJson.Plain Encodable (.int n) := fun n => .int n
  have hnil : PyJson.Plain Encodable (.list []) := .list _ (by simp)
  have hempty : PyJson.Plain Encodable (obj []) := PyJson.plain_obj (by simp)
  have hcell : ∀ path, PyJson.Plain Encodable (emptyCell path) := by
    intro path
    refine PyJson.plain_obj ?_
    simp only [List.forall_mem_cons, List.not_mem_nil, false_imp_iff, implies_true, and_true, hlit, hnil,
      hint, true_and]
    exact ⟨PyJson.plain_obj (by simp [hbool, hint]), .str _ (Sha256.encodable_hexdigest _)⟩
  have hfield : PyJson.Plain Encodable emptyField := by
    refine PyJson.plain_obj ?_
    simp only [List.forall_mem_cons, List.not_mem_nil, false_imp_iff, implies_true, and_true, hempty,
      true_and]
    exact ⟨PyJson.plain_obj (by simp [hbool]), PyJson.plain_obj (by simp [hlit, hbool, hint]),
      PyJson.plain_obj (by simp [hlit, hbool])⟩
  have hcells : PyJson.Plain Encodable (.list (paths.map emptyCell)) :=
    .list _ (List.forall_mem_map.2 fun path _ => hcell path)
  simp only [emptyBefore, List.forall_mem_cons, List.not_mem_nil, false_imp_iff, implies_true, and_true,
    hlit, hcells, hfield, true_and]
  exact ⟨.list _ (by simp [hcontract]), PyJson.plain_obj (by simp [hint])⟩

@[inherit_doc plain_emptyBefore]
theorem plain_emptyAfter {descriptor : PyStr} (hdescriptor : Encodable descriptor) :
    ∀ p ∈ emptyAfter descriptor, PyJson.Plain Encodable p.2 := by
  simp only [emptyAfter, List.forall_mem_cons]
  exact ⟨PyJson.plain_lit _, .str _ hdescriptor, PyJson.plain_lit _, PyJson.plain_lit _, by simp⟩

/-- All their numbers are finite. -/
theorem allFinite_emptyBefore {paths : List String} {contract : PyVal}
    (hcontract : PyJson.allFinite contract = true) :
    ∀ p ∈ emptyBefore paths contract, PyJson.allFinite p.2 = true := by
  have hcells : PyJson.allFinite (.list (paths.map emptyCell)) = true := by
    rw [PyJson.allFinite, PyJson.allFiniteList_iff, List.forall_mem_map]
    exact fun path _ => rfl
  simp only [emptyBefore, List.forall_mem_cons, hcells]
  simp [PyJson.allFinite_obj, PyJson.allFinite, PyJson.allFiniteList, emptyField, lit, hcontract]

section EmptyFiles

variable {paths : List String} {contract : PyVal} {descriptor digest : PyStr}

/-- A packet of empty files. -/
def emptyFields (paths : List String) (contract : PyVal) (descriptor digest : PyStr) :
    List (String × PyVal) :=
  emptyBefore paths contract ++ ("packet_sha256", .str digest) :: emptyAfter descriptor

/-- The hash of the packet is not part of what is hashed. -/
theorem packetSha256_emptyFields (paths : List String) (hcontract : PyJson.Plain Encodable contract)
    (hfinite : PyJson.allFinite contract = true) (hdescriptor : Encodable descriptor) :
    ∃ digest, packetSha256 (fields (emptyBefore paths contract ++ emptyAfter descriptor)) = .ok digest ∧
      packetSha256 (fields (emptyFields paths contract descriptor digest)) = .ok digest ∧
      Encodable digest := by
  have hplain : PyJson.Plain Encodable (obj (emptyBefore paths contract ++ emptyAfter descriptor)) :=
    PyJson.plain_obj (List.forall_mem_append.2 ⟨plain_emptyBefore hcontract, plain_emptyAfter hdescriptor⟩)
  have hfinite : PyJson.allFinite (obj (emptyBefore paths contract ++ emptyAfter descriptor)) = true :=
    PyJson.allFinite_obj.2 (List.forall_mem_append.2 ⟨allFinite_emptyBefore hfinite, by
      simp [emptyAfter, lit, PyJson.allFinite]⟩)
  have herase : ∀ digest, eraseKey (cp "packet_sha256") (fields (emptyFields paths contract descriptor
      digest)) = fields (emptyBefore paths contract ++ emptyAfter descriptor) := by
    intro digest
    rw [eraseKey_fields]
    simp [emptyFields, emptyBefore, emptyAfter]
  have herase' : eraseKey (cp "packet_sha256") (fields (emptyBefore paths contract ++
      emptyAfter descriptor)) = fields (emptyBefore paths contract ++ emptyAfter descriptor) := by
    rw [eraseKey_fields]
    simp [emptyBefore, emptyAfter]
  have hbytes := canonicalJsonBytes_of_plain hplain hfinite
  rw [obj] at hbytes
  refine ⟨_, by rw [packetSha256, herase', hbytes]; rfl, by rw [packetSha256, herase, hbytes]; rfl,
    Sha256.encodable_hexdigest _⟩

/-- The head of such a packet passes. -/
theorem checkHead_emptyFields
    (h : packetSha256 (fields (emptyFields paths contract descriptor digest)) = .ok digest) :
    checkHead (fields (emptyFields paths contract descriptor digest)) = .ok () := by
  have hget : ∀ k, (PyVal.dict (fields (emptyFields paths contract descriptor digest))).get k =
      (getItem (fields (emptyFields paths contract descriptor digest)) (cp k)).getD .none := fun k => rfl
  rw [checkHead, h]
  simp only [hget]
  simp [emptyFields, emptyBefore, emptyAfter, raiseIf]

/-- No key of such a packet is forbidden. -/
theorem not_mem_walkKeys_emptyFields
    (hcontract : walkKeys contract = ["atom_count", "atom_table_sha256", "base_id", "derivation"].map cp) :
    ∀ k ∈ forbiddenTransferKeys, cp k ∉ walkKeys (obj (emptyFields paths contract descriptor digest)) := by
  have hcell : ∀ path, ∀ k ∈ forbiddenTransferKeys, cp k ∉ walkKeys (emptyCell path) := by
    intro path
    simp only [forbiddenTransferKeys, List.forall_mem_cons, emptyCell, walkKeys_obj]
    simp [cp_inj, walkKeys, walkList, lit, walkKeys_obj]
  have hcells : ∀ k ∈ forbiddenTransferKeys, cp k ∉ walkList (paths.map emptyCell) := by
    intro k hk
    induction paths with
    | nil => simp [walkList]
    | cons path paths ih =>
        rw [List.map_cons, walkList, List.mem_append, not_or]
        exact ⟨hcell path k hk, ih⟩
  have hfield : ∀ k ∈ forbiddenTransferKeys, cp k ∉ walkKeys emptyField := by
    simp only [forbiddenTransferKeys, List.forall_mem_cons, emptyField, walkKeys_obj]
    simp [cp_inj, walkKeys, lit, walkKeys_obj]
  simp only [forbiddenTransferKeys, List.forall_mem_cons] at hcells hfield ⊢
  simp [walkKeys_obj, emptyFields, emptyBefore, emptyAfter, hcells, hfield, walkKeys, walkList, lit,
    hcontract, cp_inj]

/-- Its one material base is as it should be. -/
theorem validateMaterialBaseContracts_emptyFields (paths : List String) (descriptor digest : PyStr)
    (hcontract : materialBaseContract (cp "OCTET256_V1") = .ok contract)
    (hplain : PyJson.Plain Encodable contract) (hfinite : PyJson.allFinite contract = true)
    (hdict : ∃ items, contract = .dict items) (hbase : contract.get "base_id" = .str (cp "OCTET256_V1")) :
    validateMaterialBaseContracts (obj (emptyFields paths contract descriptor digest)) = .ok () := by
  have hget : (obj (emptyFields paths contract descriptor digest)).get "material_base_contracts" =
      .list [contract] := by simp [emptyFields, emptyBefore]
  obtain ⟨items, rfl⟩ := hdict
  have hself := PyJson.pyEq_self hplain.serialisable hfinite
  rw [validateMaterialBaseContracts, hget]
  dsimp only
  rw [List.foldlM_cons, hbase]
  dsimp only
  rw [raiseIf_neg (by simp), ok_bind, hcontract, ok_bind, raiseIf_neg (by simp [hself])]
  rfl

/-- Its joint field passes. -/
theorem checkField_emptyFields {d : PyVal} (hd : protocolDescriptor = .ok d) {bytes : Bytes}
    (hbytes : canonicalJsonBytes d = .ok bytes) (hdescriptor : descriptor = Sha256.hexdigest bytes)
    (hkeys : ∀ k ∈ forbiddenTransferKeys,
      cp k ∉ walkKeys (obj (emptyFields paths contract descriptor digest)))
    (hbases : validateMaterialBaseContracts (obj (emptyFields paths contract descriptor digest)) = .ok ()) :
    checkField (obj (emptyFields paths contract descriptor digest)) = .ok () := by
  have hzero : pyEq (.int 0) (.int 0) = true := by decide
  have hforbidden : (forbiddenTransferKeys.any fun k =>
      cp k ∈ walkKeys (obj (emptyFields paths contract descriptor digest))) = false := by
    rw [List.any_eq_false]
    exact fun k hk => by simpa using hkeys k hk
  have hfield : (obj (emptyFields paths contract descriptor digest)).get "joint_state_field" =
      emptyField := by simp [emptyFields, emptyBefore]
  have hhash : (obj (emptyFields paths contract descriptor digest)).get "protocol_descriptor_sha256" =
      .str descriptor := by simp [emptyFields, emptyBefore, emptyAfter]
  rw [checkField, hd, ok_bind, hbytes, ok_bind, hbases, hfield, hhash, hforbidden, ← hdescriptor]
  simp [raiseIf, emptyField, dimensions, isFalse, hzero]

/-- Its sums are right. -/
theorem checkMetrics_emptyFields (paths : List String) (contract : PyVal) (descriptor digest : PyStr)
    (seen : List PyStr) :
    checkMetrics (obj (emptyFields paths contract descriptor digest)) ⟨seen, 0, 0⟩ = .ok () := by
  have hzero : pyEq (.int 0) (.int 0) = true := by decide
  simp [checkMetrics, raiseIf, emptyFields, emptyBefore, emptyField, hzero]

end EmptyFiles

/-- **Packets of empty files are accepted** when their paths are safe, differ, and there are some. -/
theorem emptyFilesPacket_valid {paths : List String} (hpaths : paths ≠ [])
    (hsafe : ∀ path ∈ paths, safeRelativePath (lit path) = .ok (cp path))
    (hnodup : (paths.map cp).Nodup) : ∃ packet validation, emptyFilesPacket paths = .ok packet ∧
      validatePacket packet = .ok validation ∧
      fileCells packet = .ok (paths.map emptyCell) := by
  obtain ⟨atoms, hatoms⟩ := octetAtoms_ok
  obtain ⟨contract, hcontract, hcontractPlain, hcontractFinite, hdict, hbase, hkeys⟩ :=
    materialBaseContract_ok hatoms (encodable_cp _)
  obtain ⟨d, hd, hdPlain, hdFinite⟩ := protocolDescriptor_ok
  have hbytes := canonicalJsonBytes_of_plain hdPlain hdFinite
  obtain ⟨descriptor, hdescriptor⟩ : ∃ descriptor, descriptor =
      Sha256.hexdigest ((PyJson.write PyJson.compact d).flatMap utf8Char) := ⟨_, rfl⟩
  have hencodable : Encodable descriptor := hdescriptor ▸ Sha256.encodable_hexdigest _
  obtain ⟨digest, hbody, hdigest, hdigestEncodable⟩ :=
    packetSha256_emptyFields paths hcontractPlain hcontractFinite hencodable
  have hcells : fileCells (obj (emptyFields paths contract descriptor digest)) =
      .ok (paths.map emptyCell) := by
    rw [fileCells, show (obj (emptyFields paths contract descriptor digest)).get "file_cells" =
      .list (paths.map emptyCell) by simp [emptyFields, emptyBefore]]
    cases paths with
    | nil => exact absurd rfl hpaths
    | cons path paths => rfl
  obtain ⟨seen, hseen⟩ := checkCells_emptyCell ⟨[], 0, 0⟩ hsafe hnodup (by simp) rfl rfl
  have hplain : PyJson.Plain Encodable (obj (emptyFields paths contract descriptor digest)) := by
    refine PyJson.plain_obj (List.forall_mem_append.2 ⟨plain_emptyBefore hcontractPlain, ?_⟩)
    rw [List.forall_mem_cons]
    exact ⟨.str _ hdigestEncodable, plain_emptyAfter hencodable⟩
  have hfinite : PyJson.allFinite (obj (emptyFields paths contract descriptor digest)) = true := by
    refine PyJson.allFinite_obj.2 (List.forall_mem_append.2 ⟨allFinite_emptyBefore hcontractFinite, ?_⟩)
    simp [emptyAfter, lit, PyJson.allFinite]
  have hwire := canonicalJsonBytes_of_plain hplain hfinite
  have hbases := validateMaterialBaseContracts_emptyFields paths descriptor digest hcontract hcontractPlain
    hcontractFinite hdict hbase
  have hfield := checkField_emptyFields hd hbytes hdescriptor (not_mem_walkKeys_emptyFields hkeys) hbases
  have hmetrics := checkMetrics_emptyFields paths contract descriptor digest seen
  have hvalid : ∃ validation, validatePacket (obj (emptyFields paths contract descriptor digest)) =
      .ok validation := by
    rw [obj] at hfield hmetrics hwire hcells ⊢
    rw [validatePacket, checkHead_emptyFields hdigest, ok_bind, hfield, ok_bind, hcells, ok_bind, hseen,
      ok_bind, hmetrics, ok_bind, hwire, ok_bind]
    exact ⟨_, rfl⟩
  obtain ⟨validation, hvalid⟩ := hvalid
  refine ⟨_, validation, ?_, hvalid, hcells⟩
  rw [emptyFilesPacket, hcontract, ok_bind, hd, ok_bind, hbytes, ok_bind, ← hdescriptor]
  dsimp only
  rw [hbody, ok_bind]
  rfl

/-- An empty file system. -/
def emptyTree : FileTree where
  node p := if p = [] then some .dir else none
  root := rfl
  parent h := absurd (if_neg (by simp)) h

theorem fresh_emptyTree : Fresh emptyTree [] (cp "out") (cp "x") := by
  refine ⟨rfl, fun q hq => ?_, rfl⟩
  rw [List.prefix_nil.1 hq]
  rfl

theorem cellPath_emptyCell {path : String} (hsafe : safeRelativePath (lit path) = .ok (cp path)) :
    cellPath (emptyCell path) = pathParts (cp path) := by
  rw [cellPath, show (emptyCell path).get "path" = lit path by simp [emptyCell], hsafe]

/-- Two files side by side, one of them in a directory. -/
theorem reconstructToDirectory_iff_sample : ∃ packet validation,
    emptyFilesPacket ["a/b", "c"] = .ok packet ∧ validatePacket packet = .ok validation ∧
      Passes packet emptyTree [] (cp "out") (cp "x") := by
  have hsafe : ∀ path ∈ ["a/b", "c"], safeRelativePath (lit path) = .ok (cp path) := by
    simp only [List.forall_mem_cons, lit, cp_eq_codes]
    exact ⟨rfl, rfl, by simp⟩
  obtain ⟨packet, validation, hpacket, hvalid, hcells⟩ :=
    emptyFilesPacket_valid (by simp) hsafe (by simp [cp_inj])
  refine ⟨packet, validation, hpacket, hvalid, (reconstructToDirectory_iff hvalid fresh_emptyTree).2 ?_⟩
  intro cells hok
  rw [hcells] at hok
  obtain rfl := Except.ok.inj hok
  rw [List.forall_mem_cons, List.forall_mem_cons] at hsafe
  simp only [List.map_cons, List.map_nil, cellPath_emptyCell hsafe.1, cellPath_emptyCell hsafe.2.1,
    cp_eq_codes]
  decide +kernel

/-- A file and a directory at one path: the packet is accepted, and cannot be reconstructed. -/
theorem reconstructToDirectory_collision : ¬∀ packet validation t parent name suffix,
    validatePacket packet = .ok validation → Fresh t parent name suffix →
      NoAncestor packet ∧ Passes packet t parent name suffix := by
  intro h
  have hsafe : ∀ path ∈ ["a", "a/b"], safeRelativePath (lit path) = .ok (cp path) := by
    simp only [List.forall_mem_cons, lit, cp_eq_codes]
    exact ⟨rfl, rfl, by simp⟩
  obtain ⟨packet, validation, -, hvalid, hcells⟩ :=
    emptyFilesPacket_valid (by simp) hsafe (by simp [cp_inj])
  have hnone := (h packet validation emptyTree [] (cp "out") (cp "x") hvalid fresh_emptyTree).1 _ hcells
  rw [List.forall_mem_cons, List.forall_mem_cons] at hsafe
  simp only [List.map_cons, List.map_nil, cellPath_emptyCell hsafe.1, cellPath_emptyCell hsafe.2.1,
    cp_eq_codes] at hnone
  exact absurd hnone (by decide +kernel)

end Gst
