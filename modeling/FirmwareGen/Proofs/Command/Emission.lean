-- SUMMARY: How generating two files ends, and what a run that fails leaves of them.
import FirmwareGen.Proofs.Command.Writing
import FirmwareGen.Proofs.Command.Saving
import FirmwareGen.Proofs.Naming.Stems
import FirmwareGen.Proofs.Storage.Joins
/-!
# Writing a pair of files

The two files of a generation are written one after the other, the header first. So a run that fails
has changed no file at all, or one of the two could not be written as a whole; if that is the source, the
header is there.
-/

namespace FirmwareGen.Command

variable {directory : Location} {instant : DateTime} {tree : FileTree} {pair : FilePair}
  {outDir : String}

/-! ## Generating -/

/-- The record that a run loads from a tree, or why there is none. -/
def loaded {σ : Type} (schema : Document.Record σ) (config : String) (directory : Location)
    (tree : FileTree) : Except String σ :=
  (Document.load schema config ((tree.read directory config).bind String.fromUTF8?)).mapError
    Document.LoadError.message

/-- The files that a run generates from a tree at an instant, or why there are none. -/
def generated (target : Target) (config : String) (directory : Location) (instant : DateTime)
    (tree : FileTree) : Except String FilePair :=
  match target with
  | .modulators => (loaded ModulatorSet.schema config directory tree).map fun set =>
      (Modulators.Batch.ofModulators {} set.modulators).files instant.timestamp
  | .board => (loaded Board.schema config directory tree).map (·.files instant.timestamp)

theorem ending_loadRecord {σ : Type} (schema : Document.Record σ) (config : String) :
    ((loadRecord schema config).run directory instant tree).ending =
      (tree, loaded schema config directory tree) := by
  rw [loadRecord, Script.run, loaded]
  cases Document.load schema config ((tree.read directory config).bind String.fromUTF8?) <;> rfl

theorem ending_each_debug (messages : List String) :
    ((each Script.debug messages).run directory instant tree).ending = (tree, .ok ()) := by
  induction messages with
  | nil => rfl
  | cons message messages ih =>
    rw [each, Script.ending_bind, Script.ending_debug]
    exact ih

/-- Generating files leaves the tree as it is. -/
theorem ending_generateFiles (target : Target) (config : String) :
    ((generateFiles target config).run directory instant tree).ending =
      (tree, generated target config directory instant tree) := by
  cases target with
  | modulators =>
    simp only [generateFiles, modulatorFiles, Script.ending_bind, ending_loadRecord, generated]
    cases loaded ModulatorSet.schema config directory tree with
    | error message => rfl
    | ok set =>
      simp only [Script.ending_info, Script.ending_time, ending_each_debug, Script.ending_debug,
        Script.ending_pure, Except.map]
  | board =>
    simp only [generateFiles, boardFiles, Script.ending_bind, ending_loadRecord, generated]
    cases loaded Board.schema config directory tree with
    | error message => rfl
    | ok board =>
      simp only [Script.ending_info, Script.ending_time, Script.ending_debug, Script.ending_pure,
        Except.map]

/-! ## Writing -/

/-- The tree in front of the writes: the folder is there, and no file has changed. -/
structure Prepared (outDir : String) (directory : Location) (tree made : FileTree)
    (folder : Location) : Prop where
  keeps : tree.Keeps made
  leads : made.Leads directory outDir folder

/-- The ways in which writing a pair of files into a folder ends. -/
inductive Emission (pair : FilePair) (outDir : String) (directory : Location) (tree : FileTree) :
    FileTree × Except String Unit → Prop
  | unmade {made : FileTree} (keeps : tree.Keeps made) :
    Emission pair outDir directory tree (made, .error ("failed to create " ++ outDir))
  | started {made : FileTree} {folder : Location} {ending : FileTree × Except String Unit}
      (prepared : Prepared outDir directory tree made folder)
      (writes : WriteEnding outDir directory made pair.files ending) :
    Emission pair outDir directory tree ending

theorem emission_emit (pair : FilePair) (outDir : String) (directory : Location)
    (instant : DateTime) (tree : FileTree) :
    Emission pair outDir directory tree
      ((emit pair outDir false).run directory instant tree).ending := by
  obtain ⟨made, there, hmake, hkeeps, hleads⟩ :=
    Script.ending_ensureDirectory (outDir :: Path.parents outDir) directory instant tree
  simp only [emit, Bool.false_eq_true, if_false, Script.makeDirectoriesOr, Script.ending_bind, hmake]
  cases there with
  | false => exact .unmade hkeeps
  | true =>
    obtain ⟨folder, hfolder⟩ := hleads rfl outDir rfl
    simp only [if_true, Script.ending_pure]
    exact .started ⟨hkeeps, hfolder⟩ (writeEnding_each pair.files made)

/-- Checking leaves the tree as it is, and does not fail. -/
theorem ending_emit_check (pair : FilePair) (outDir : String) :
    ((emit pair outDir true).run directory instant tree).ending = (tree, .ok ()) := rfl

/-! ## Runs that fail -/

theorem exists_of_map_eq_ok {ε α β : Type} {f : α → β} {x : Except ε α} {b : β}
    (h : x.map f = .ok b) : ∃ a, x = .ok a ∧ f a = b := by
  cases x with
  | error e => cases h
  | ok a => exact ⟨a, rfl, Except.ok.inj h⟩

/-- The files of a generation have one base name, without a dot. -/
theorem ofBase_of_generated {target : Target} {config : String}
    (h : generated target config directory instant tree = .ok pair) :
    ∃ base header source, '.' ∉ base.toList ∧ pair = FilePair.ofBase base header source := by
  cases target with
  | modulators =>
    obtain ⟨set, -, rfl⟩ := exists_of_map_eq_ok h
    exact ⟨_, _, _, Naming.dot_not_mem_baseFileName (by decide) set.modulators, rfl⟩
  | board =>
    obtain ⟨board, -, rfl⟩ := exists_of_map_eq_ok h
    exact ⟨_, _, _, by decide, rfl⟩

/-- The header and the source of a base name lie at different places. -/
theorem locate_source_ne {base : String} (hbase : '.' ∉ base.toList) {folder place : Location}
    (hleads : tree.Leads directory outDir folder)
    (hheader : tree.locate directory (Path.join outDir (base ++ ".h")) = .ok place) :
    tree.locate directory (Path.join outDir (base ++ ".c")) ≠ .ok place := by
  obtain ⟨front, last, -, hsteps⟩ := Path.steps_fileOf hbase
  obtain ⟨hup, hh⟩ := hsteps 'h' (by decide) (by decide)
  obtain ⟨hup', hc⟩ := hsteps 'c' (by decide) (by decide)
  intro hsource
  have hplace := FileTree.eq_of_locate_join hleads hup hheader
  have hplace' := FileTree.eq_of_locate_join hleads hup' hsource
  have hends := congrArg List.getLast? (hplace.symm.trans hplace')
  simp only [hh, hc, List.getLast?_append, List.getLast?_singleton, Option.some_or,
    Option.some.injEq] at hends
  exact absurd (Path.fileOf_inj hends) (by decide)

theorem apart_files {base : String} (hbase : '.' ∉ base.toList) (header source : String)
    {folder : Location} (hleads : tree.Leads directory outDir folder) :
    (FilePair.ofBase base header source).files.Pairwise (Apart outDir directory tree) :=
  List.pairwise_pair.2 fun _ => locate_source_ne hbase hleads

/-- A run leaves the tree as it is, unless it comes to writing a pair of files. -/
theorem unchanged_or_emission (target : Target) (config outDir : String) (check : Bool)
    (directory : Location) (instant : DateTime) (tree : FileTree) :
    ((perform (.generate target config outDir check)).run directory instant tree).tree = tree ∨
      ∃ pair, check = false ∧ generated target config directory instant tree = .ok pair ∧
        Emission pair outDir directory tree
          ((perform (.generate target config outDir check)).run directory instant tree).ending := by
  have hending :
      ((perform (.generate target config outDir check)).run directory instant tree).ending =
        match generated target config directory instant tree with
        | .error message => (tree, .error message)
        | .ok pair => ((emit pair outDir check).run directory instant tree).ending := by
    rw [perform, Script.ending_bind, ending_generateFiles]
    cases generated target config directory instant tree <;> rfl
  cases hgenerated : generated target config directory instant tree with
  | error message =>
    rw [hgenerated] at hending
    exact .inl (congrArg Prod.fst hending)
  | ok pair =>
    rw [hgenerated] at hending
    cases check with
    | true => exact .inl (congrArg Prod.fst (hending.trans (ending_emit_check pair outDir)))
    | false =>
      refine .inr ⟨pair, rfl, rfl, ?_⟩
      rw [hending]
      exact emission_emit pair outDir directory instant tree

/-- A run that fails has changed no file, or one of the two files could not be written as a whole. Then
    the message names that file, the header is there if that file is the source, and no third file
    has changed. -/
theorem unchanged_or_halted {target : Target} {config outDir message : String} {check : Bool}
    {directory : Location} {instant : DateTime} {tree : FileTree}
    (hfails : ((perform (.generate target config outDir check)).run directory instant tree).result =
      .error message) :
    let after := ((perform (.generate target config outDir check)).run directory instant tree).tree
    (∀ location, after.file? location = tree.file? location) ∨
      ∃ pair written file, check = false ∧
        ((generateFiles target config).run directory instant tree).result = .ok pair ∧
        written ++ [file] <+: pair.files ∧
        message = "failed to write " ++ Path.join outDir file.1 ∧
        Halted outDir directory written file tree after := by
  intro after
  rcases unchanged_or_emission target config outDir check directory instant tree with
    hsame | ⟨pair, hcheck, hgenerated, hemission⟩
  · exact .inl fun location => congrArg (FileTree.file? · location) hsame
  · have hending : ((perform (.generate target config outDir check)).run directory instant
        tree).ending = (after, .error message) := Prod.ext rfl hfails
    rw [hending] at hemission
    cases hemission with
    | unmade keeps => exact .inl keeps.file?
    | started prepared writes =>
      have hleads := writes.leads prepared.leads
      cases writes with
      | @halted _ _ written file front wrote broken =>
        have hpair : ((generateFiles target config).run directory instant tree).result =
            generated target config directory instant tree :=
          congrArg Prod.snd (ending_generateFiles target config)
        have hapart : pair.files.Pairwise (Apart outDir directory after) := by
          obtain ⟨base, header, source, hbase, rfl⟩ := ofBase_of_generated hgenerated
          exact apart_files hbase header source hleads
        refine .inr ⟨pair, written, file, hcheck, hpair.trans hgenerated, front, rfl, ?_⟩
        exact (halted_of_broken wrote broken (hapart.sublist front.sublist)).of_keeps prepared.keeps

/-- A folder in which a directory stands where the source of a board belongs. -/
def blockedTree : FileTree where
  directories := [["o"], ["o", "psoc_config.c"]]
  files := [(["b.json"], "{}".toUTF8)]

/-- A folder with a source of a board, for which no more than ten bytes are left. -/
def narrowTree : FileTree where
  directories := [["o"]]
  files := [(["b.json"], "{}".toUTF8), (["o", "psoc_config.c"], "int x;".toUTF8)]
  room location := if location = ["o", "psoc_config.c"] then .bytes 10 else .ample

def boardRun (tree : FileTree) : Script.Outcome Unit :=
  (perform (.generate .board "b.json" "o" false)).run [] quotedInstant tree

theorem unchanged_or_halted_narrowTree :
    (boardRun narrowTree).result = .error "failed to write o/psoc_config.c" ∧
      ((∀ location, (boardRun narrowTree).tree.file? location = narrowTree.file? location) ∨
        ∃ pair written file, false = false ∧
          ((generateFiles .board "b.json").run [] quotedInstant narrowTree).result = .ok pair ∧
          written ++ [file] <+: pair.files ∧
          "failed to write o/psoc_config.c" = "failed to write " ++ Path.join "o" file.1 ∧
          Halted "o" [] written file narrowTree (boardRun narrowTree).tree) := by
  have hfails : (boardRun narrowTree).result = .error "failed to write o/psoc_config.c" := by
    decide +kernel
  exact ⟨hfails, unchanged_or_halted hfails⟩

/-- A run that fails can leave a header that was not there before, and of a source that was there the
    first bytes of another one. -/
theorem halted_boardRun :
    ((boardRun blockedTree).result = .error "failed to write o/psoc_config.c" ∧
      blockedTree.file? ["o", "psoc_config.h"] = none ∧
      ((boardRun blockedTree).tree.file? ["o", "psoc_config.h"]).isSome = true ∧
      (boardRun blockedTree).tree.file? ["o", "psoc_config.c"] = none) ∧
    (boardRun narrowTree).result = .error "failed to write o/psoc_config.c" ∧
      narrowTree.file? ["o", "psoc_config.c"] = some "int x;".toUTF8 ∧
      (boardRun narrowTree).tree.file? ["o", "psoc_config.c"] = some "/*\n * Psoc".toUTF8 := by
  decide +kernel

end FirmwareGen.Command
