-- SUMMARY: A run that only checks changes nothing and announces what the other run writes.
import FirmwareGen.Proofs.Command.Emission
/-!
# Checking

With the check option a run leaves the tree as it is and fails only if loading fails, like the run
without it. Otherwise it reports the names and sizes of the two files that the other run writes, as far
as that one gets.
-/

namespace FirmwareGen

/-! ## What a script writes -/

namespace Script

variable {α β : Type} {directory : Location} {instant : DateTime} {tree : FileTree}

/-- The paths and texts of the files that a script writes as a whole on its run, in order. -/
def writes (directory : Location) (instant : DateTime) (tree : FileTree) :
    Script α → List (String × String)
  | .done _ => []
  | .fail _ => []
  | .readText path next =>
    (next ((tree.read directory path).bind String.fromUTF8?)).writes directory instant tree
  | .makeDirectory path next =>
    match tree.makeDirectory directory path with
    | .error fault => (next (some fault)).writes directory instant tree
    | .ok tree => (next none).writes directory instant tree
  | .writeText path text next =>
    match tree.write directory path text.toUTF8 with
    | (tree, true) => (path, text) :: (next true).writes directory instant tree
    | (tree, false) => (next false).writes directory instant tree
  | .askTime next => (next instant).writes directory instant tree
  | .report _ _ next => next.writes directory instant tree
  | .print _ next => next.writes directory instant tree

theorem writes_bind (script : Script α) (next : α → Script β) :
    (script >>= next).writes directory instant tree =
      script.writes directory instant tree ++
        match (script.run directory instant tree).ending with
        | (middle, .ok a) => (next a).writes directory instant middle
        | (_, .error _) => [] := by
  change (script.bind next).writes directory instant tree = _
  induction script generalizing tree with
  | done a => rfl
  | fail message => rfl
  | readText path rest ih => exact ih _
  | makeDirectory path rest ih =>
    rw [Script.bind, writes, writes, run]
    cases tree.makeDirectory directory path with
    | error fault => exact ih (some fault)
    | ok after => exact ih none
  | writeText path text rest ih =>
    rw [Script.bind, writes, writes, run]
    rcases tree.write directory path text.toUTF8 with ⟨after, _ | _⟩
    · exact ih false
    · exact congrArg (List.cons (path, text)) (ih true)
  | askTime rest ih => exact ih instant
  | report level message rest ih => exact ih
  | print text rest ih => exact ih

theorem messages_bind (script : Script α) (next : α → Script β) :
    ((script >>= next).run directory instant tree).messages =
      (script.run directory instant tree).messages ++
        match (script.run directory instant tree).ending with
        | (middle, .ok a) => ((next a).run directory instant middle).messages
        | (_, .error _) => [] := by
  rw [run_bind]
  obtain ⟨middle, messages, result⟩ := script.run directory instant tree
  cases result with
  | ok a => rfl
  | error message => exact (List.append_nil messages).symm

@[simp] theorem writes_pure (a : α) : (pure a : Script α).writes directory instant tree = [] := rfl

@[simp] theorem writes_info (message : String) :
    (info message).writes directory instant tree = [] := rfl

@[simp] theorem writes_debug (message : String) :
    (debug message).writes directory instant tree = [] := rfl

@[simp] theorem writes_time : time.writes directory instant tree = [] := rfl

/-- Making sure of directories writes no file and says nothing. -/
theorem silent_ensureDirectory (paths : List String) :
    (ensureDirectory paths).writes directory instant tree = [] ∧
      ((ensureDirectory paths).run directory instant tree).messages = [] := by
  induction paths generalizing tree with
  | nil => exact ⟨rfl, rfl⟩
  | cons path above ih =>
    rw [ensureDirectory, writes, run]
    cases tree.makeDirectory directory path with
    | ok made => exact ⟨rfl, rfl⟩
    | error fault =>
      cases fault with
      | refused => exact ⟨rfl, rfl⟩
      | missing =>
        obtain ⟨made, there, hrun, -, -⟩ := ending_ensureDirectory above directory instant tree
        simp only [writes_bind, messages_bind, ih, hrun, List.nil_append]
        cases there with
        | false => exact ⟨rfl, rfl⟩
        | true =>
          simp only [if_true, writes, run]
          cases made.makeDirectory directory path <;> exact ⟨rfl, rfl⟩

theorem silent_makeDirectoriesOr (message path : String) :
    (makeDirectoriesOr message path).writes directory instant tree = [] ∧
      ((makeDirectoriesOr message path).run directory instant tree).messages = [] := by
  obtain ⟨made, there, hrun, -, -⟩ :=
    ending_ensureDirectory (path :: Path.parents path) directory instant tree
  simp only [makeDirectoriesOr, writes_bind, messages_bind, silent_ensureDirectory, hrun,
    List.nil_append]
  cases there <;> exact ⟨rfl, rfl⟩

end Script

namespace Command

variable {directory : Location} {instant : DateTime} {tree : FileTree} {outDir : String}

/-! ## Writing files in turn -/

/-- A script writes files into a directory in turn, up to the first that cannot be written, and says
    so of each that was, behind what it has said before. -/
structure Delivers (script : Script Unit) (outDir : String) (files done : List (String × String))
    (said : List Script.Message) (directory : Location) (instant : DateTime) (tree : FileTree) :
    Prop where
  front : done <+: files
  writes : script.writes directory instant tree =
    done.map fun file => (Path.join outDir file.1, file.2)
  messages : (script.run directory instant tree).messages =
    said ++ done.map fun file =>
      .reported .info ("Output written to: " ++ Path.join outDir file.1)
  complete : (script.run directory instant tree).result = .ok () ↔ done = files

theorem writes_writeFile (file : String × String) :
    (writeFile outDir file).writes directory instant tree =
      match tree.write directory (Path.join outDir file.1) file.2.toUTF8 with
      | (_, true) => [(Path.join outDir file.1, file.2)]
      | (_, false) => [] := by
  rw [writeFile, Script.writes_bind, Script.ending_writeOr, Script.writeOr, Script.writes]
  rcases tree.write directory (Path.join outDir file.1) file.2.toUTF8 with ⟨after, _ | _⟩ <;> rfl

theorem messages_writeFile (file : String × String) :
    ((writeFile outDir file).run directory instant tree).messages =
      match tree.write directory (Path.join outDir file.1) file.2.toUTF8 with
      | (_, true) => [.reported .info ("Output written to: " ++ Path.join outDir file.1)]
      | (_, false) => [] := by
  rw [writeFile, Script.messages_bind, Script.ending_writeOr, Script.writeOr, Script.run]
  rcases tree.write directory (Path.join outDir file.1) file.2.toUTF8 with ⟨after, _ | _⟩ <;> rfl

theorem delivers_each (files : List (String × String)) (tree : FileTree) :
    ∃ done, Delivers (each (writeFile outDir) files) outDir files done [] directory instant tree := by
  induction files generalizing tree with
  | nil => exact ⟨[], List.prefix_rfl, rfl, rfl, iff_of_true rfl rfl⟩
  | cons file files ih =>
    have hresult (script : Script Unit) : (script.run directory instant tree).result =
        (script.run directory instant tree).ending.2 := rfl
    rcases hwrite : tree.write directory (Path.join outDir file.1) file.2.toUTF8 with ⟨after, _ | _⟩
    · refine ⟨[], List.nil_prefix, ?_, ?_, ?_⟩
      · simp only [each, Script.writes_bind, writes_writeFile, ending_writeFile, hwrite,
          List.append_nil, List.map_nil]
      · simp only [each, Script.messages_bind, messages_writeFile, ending_writeFile, hwrite,
          List.append_nil, List.map_nil]
      · simp only [hresult, each, Script.ending_bind, ending_writeFile, hwrite, reduceCtorEq]
    · obtain ⟨done, hdone⟩ := ih after
      refine ⟨file :: done, List.cons_prefix_cons.2 ⟨rfl, hdone.front⟩, ?_, ?_, ?_⟩
      · simp only [each, Script.writes_bind, writes_writeFile, ending_writeFile, hwrite,
          hdone.writes, List.singleton_append, List.map_cons]
      · simp only [each, Script.messages_bind, messages_writeFile, ending_writeFile, hwrite,
          hdone.messages, List.nil_append, List.singleton_append, List.map_cons]
      · simp only [hresult, each, Script.ending_bind, ending_writeFile, hwrite]
        rw [List.cons.injEq, and_iff_right rfl]
        exact hdone.complete

/-- What was said and done in front of the files does not matter, if no file was written. -/
theorem Delivers.bind {α : Type} {script : Script α} {a : α} {middle : FileTree}
    {files done : List (String × String)} {said : List Script.Message} (next : α → Script Unit)
    (hending : (script.run directory instant tree).ending = (middle, .ok a))
    (hwrites : script.writes directory instant tree = [])
    (hnext : Delivers (next a) outDir files done said directory instant middle) :
    Delivers (script >>= next) outDir files done
      ((script.run directory instant tree).messages ++ said) directory instant tree where
  front := hnext.front
  writes := by
    rw [Script.writes_bind, hwrites, hending, List.nil_append]
    exact hnext.writes
  messages := by
    rw [Script.messages_bind, hending, List.append_assoc]
    exact congrArg _ hnext.messages
  complete := by
    have hends : ((script >>= next).run directory instant tree).ending =
        ((next a).run directory instant middle).ending := by
      rw [Script.ending_bind, hending]
    exact (Eq.congr_left (congrArg Prod.snd hends)).trans hnext.complete

theorem delivers_emit (pair : FilePair) (tree : FileTree) :
    ∃ done, Delivers (emit pair outDir false) outDir pair.files done [] directory instant tree := by
  have hsilent := @Script.silent_makeDirectoriesOr directory instant tree
    ("failed to create " ++ outDir) outDir
  rw [emit, if_neg Bool.false_ne_true]
  generalize Script.makeDirectoriesOr ("failed to create " ++ outDir) outDir = directories
    at hsilent ⊢
  obtain ⟨hwrites, hmessages⟩ := hsilent
  rcases hending : (directories.run directory instant tree).ending with ⟨made, _ | _⟩
  · refine ⟨[], List.nil_prefix, ?_, ?_, ?_⟩
    · rw [Script.writes_bind, hwrites, hending]
      rfl
    · rw [Script.messages_bind, hmessages, hending]
      rfl
    · have hends : ((directories >>= fun _ => each (writeFile outDir) pair.files).run directory
          instant tree).ending = _ := Script.ending_bind _ _
      rw [hending] at hends
      have hresult := congrArg Prod.snd hends
      refine iff_of_false (fun hok => ?_) (List.cons_ne_nil _ _).symm
      cases hresult.symm.trans hok
  · obtain ⟨done, hdone⟩ : ∃ done, Delivers (each (writeFile outDir) pair.files) outDir pair.files
        done [] directory instant made := delivers_each pair.files made
    have hdelivers := Delivers.bind (fun _ => each (writeFile outDir) pair.files) hending
      hwrites hdone
    rw [hmessages] at hdelivers
    exact ⟨done, hdelivers⟩

/-! ## Generating -/

theorem writes_loadRecord {σ : Type} (schema : Document.Record σ) (config : String) :
    (loadRecord schema config).writes directory instant tree = [] := by
  rw [loadRecord, Script.writes]
  cases Document.load schema config ((tree.read directory config).bind String.fromUTF8?) <;> rfl

theorem writes_each_debug (messages : List String) :
    (each Script.debug messages).writes directory instant tree = [] := by
  induction messages with
  | nil => rfl
  | cons message messages ih =>
    rw [each, Script.writes_bind, Script.ending_debug]
    exact ih

theorem writes_generateFiles (target : Target) (config : String) :
    (generateFiles target config).writes directory instant tree = [] := by
  cases target with
  | modulators =>
    simp only [generateFiles, modulatorFiles, Script.writes_bind, writes_loadRecord,
      ending_loadRecord]
    cases loaded ModulatorSet.schema config directory tree with
    | error message => rfl
    | ok set =>
      simp only [Script.ending_info, Script.ending_time, ending_each_debug, Script.ending_debug,
        Script.writes_info, Script.writes_time, writes_each_debug, Script.writes_debug,
        Script.writes_pure, List.append_nil]
  | board =>
    simp only [generateFiles, boardFiles, Script.writes_bind, writes_loadRecord,
      ending_loadRecord]
    cases loaded Board.schema config directory tree with
    | error message => rfl
    | ok board =>
      simp only [Script.ending_info, Script.ending_time, Script.ending_debug, Script.writes_info,
        Script.writes_time, Script.writes_debug, Script.writes_pure, List.append_nil]

/-! ## The two modes -/

/-- Loading the configuration of a target fails with a message. -/
def LoadFails (target : Target) (config : String) (directory : Location) (instant : DateTime)
    (tree : FileTree) (message : String) : Prop :=
  match target with
  | .modulators =>
    ((loadRecord ModulatorSet.schema config).run directory instant tree).result = .error message
  | .board => ((loadRecord Board.schema config).run directory instant tree).result = .error message

theorem loadFails_iff {target : Target} {config message : String} :
    LoadFails target config directory instant tree message ↔
      generated target config directory instant tree = .error message := by
  have hload {σ : Type} (schema : Document.Record σ) :
      ((loadRecord schema config).run directory instant tree).result =
        loaded schema config directory tree :=
    congrArg Prod.snd (ending_loadRecord schema config)
  cases target with
  | modulators =>
    rw [LoadFails, hload, generated]
    cases loaded ModulatorSet.schema config directory tree <;> simp [Except.map]
  | board =>
    rw [LoadFails, hload, generated]
    cases loaded Board.schema config directory tree <;> simp [Except.map]

/-- What a run that only checks has to do with the run that writes. -/
structure Faithful (target : Target) (config outDir : String) (directory : Location)
    (instant : DateTime) (tree : FileTree) : Prop where
  harmless :
    ((perform (.generate target config outDir true)).run directory instant tree).tree = tree
  fails (message : String) :
    ((perform (.generate target config outDir true)).run directory instant tree).result =
        .error message ↔
      LoadFails target config directory instant tree message
  /-- Both fail alike. -/
  alike (message : String) :
    ((perform (.generate target config outDir true)).run directory instant tree).result =
        .error message →
      ((perform (.generate target config outDir false)).run directory instant tree).result =
        .error message
  /-- Both generate the same files with the same messages. Then one reports their names and sizes, and
      the other one writes them as far as it can. -/
  reports :
    ((perform (.generate target config outDir true)).run directory instant tree).result = .ok () →
      ∃ pair : FilePair, ∃ done,
        ((generateFiles target config).run directory instant tree).result = .ok pair ∧
        ((perform (.generate target config outDir true)).run directory instant tree).messages =
          ((generateFiles target config).run directory instant tree).messages ++
            pair.files.map (fun file => .reported .info
              (file.1 ++ ": " ++ toString file.2.toUTF8.size ++ " bytes (not written)")) ∧
        Delivers (perform (.generate target config outDir false)) outDir pair.files done
          ((generateFiles target config).run directory instant tree).messages directory instant tree

theorem ending_perform_generate (target : Target) (config : String) (check : Bool) :
    ((perform (.generate target config outDir check)).run directory instant tree).ending =
      match generated target config directory instant tree with
      | .error message => (tree, .error message)
      | .ok pair => ((emit pair outDir check).run directory instant tree).ending := by
  rw [perform, Script.ending_bind, ending_generateFiles]
  cases generated target config directory instant tree <;> rfl

/-- A run that only checks changes nothing, fails just if loading fails, and announces what the run
    that writes will write. -/
theorem faithful_check (target : Target) (config outDir : String) (directory : Location)
    (instant : DateTime) (tree : FileTree) :
    Faithful target config outDir directory instant tree := by
  have hgenerate : ((generateFiles target config).run directory instant tree).ending = _ :=
    ending_generateFiles target config
  have hrun (check : Bool) : ((perform (.generate target config outDir check)).run directory
      instant tree).ending = _ := ending_perform_generate target config check
  cases hgenerated : generated target config directory instant tree with
  | error reason =>
    rw [hgenerated] at hgenerate
    have hends (check : Bool) : ((perform (.generate target config outDir check)).run directory
        instant tree).ending = (tree, .error reason) := by
      rw [hrun check, hgenerated]
    have hresult (check : Bool) := congrArg Prod.snd (hends check)
    refine ⟨congrArg Prod.fst (hends true), fun message => ?_, fun message hchecked => ?_,
      fun hchecked => ?_⟩
    · refine (Eq.congr_left (hresult true)).trans ?_
      rw [loadFails_iff, hgenerated, Except.error.injEq, Except.error.injEq]
    · exact (hresult false).trans ((hresult true).symm.trans hchecked)
    · exact nomatch (hresult true).symm.trans hchecked
  | ok pair =>
    rw [hgenerated] at hgenerate
    have hends : ((perform (.generate target config outDir true)).run directory
        instant tree).ending = (tree, .ok ()) := by
      rw [hrun true, hgenerated]
      exact ending_emit_check pair outDir
    have hresult := congrArg Prod.snd hends
    refine ⟨congrArg Prod.fst hends, fun message => ?_, fun message hchecked => ?_, fun _ => ?_⟩
    · rw [loadFails_iff, hgenerated]
      exact iff_of_false (fun hfails => nomatch hresult.symm.trans hfails) (fun h => nomatch h)
    · exact nomatch hresult.symm.trans hchecked
    · obtain ⟨done, hdone⟩ : ∃ done, Delivers (emit pair outDir false) outDir pair.files done []
          directory instant tree := delivers_emit pair tree
      have hdelivers := Delivers.bind (fun pair => emit pair outDir false) hgenerate
        (writes_generateFiles target config) hdone
      rw [List.append_nil] at hdelivers
      refine ⟨pair, done, congrArg Prod.snd hgenerate, ?_, hdelivers⟩
      rw [perform, Script.messages_bind, hgenerate]
      rfl

end Command

end FirmwareGen
