-- SUMMARY: What making directories and writing leave as it was, and where scripts end.
import FirmwareGen.Proofs.Storage.Runs
/-!
# Changes of a file tree

Writing changes the file at the place of its path at most, also where it fails, and making directories
changes no file. Whatever a path led to before, it leads to afterwards, since no directory goes away.
-/

namespace FirmwareGen

/-! ## File trees -/

namespace FileTree

variable {tree after : FileTree} {directory place last : Location} {path : String}

/-! ### Files that are written -/

theorem file?_setFile_of_ne {location other : Location} (hne : other ≠ location)
    (bytes : ByteArray) : (tree.setFile location bytes).file? other = tree.file? other := by
  have hkept (files : List (Location × ByteArray)) :
      (files.filter fun entry => entry.1 != location).lookup other = files.lookup other := by
    induction files with
    | nil => rfl
    | cons entry files ih =>
      obtain ⟨here, content⟩ := entry
      by_cases hhere : here = location
      · subst hhere
        rw [List.filter_cons_of_neg (by simp), ih, List.lookup_cons, beq_false_of_ne hne]
      · rw [List.filter_cons_of_pos (by simpa using hhere), List.lookup_cons, List.lookup_cons, ih]
  rw [file?, setFile, List.lookup_cons, beq_false_of_ne hne]
  exact hkept tree.files

section Write

variable {bytes : ByteArray} {complete : Bool} {location : Location}

/-- Writing changes no file but the one at the place of its path. -/
theorem file?_of_write (hwrite : tree.write directory path bytes = (after, complete))
    (helsewhere : after.locate directory path ≠ .ok location) :
    after.file? location = tree.file? location := by
  have hplace {place : Location} (located : tree.locate directory path = .ok place) :
      location ≠ place := fun heq =>
    helsewhere (heq ▸ locate_of_write hwrite located)
  cases writing_of_write hwrite with
  | refused => rfl
  | cut located => exact file?_setFile_of_ne (hplace located) _
  | whole located => exact file?_setFile_of_ne (hplace located) _

/-- A file that could not be written as a whole is as it was, or it ends where the room does. -/
theorem file?_of_write_false (hwrite : tree.write directory path bytes = (after, false))
    (hlocate : after.locate directory path = .ok location) :
    after.file? location = tree.file? location ∨
      ∃ count < bytes.size, tree.room location = .bytes count ∧
        after.file? location = some (bytes.extract 0 count) := by
  cases writing_of_write hwrite with
  | refused => exact .inl rfl
  | @cut place count located room short =>
    have hhere : place = location :=
      Except.ok.inj ((locate_of_write hwrite located).symm.trans hlocate)
    subst hhere
    exact .inr ⟨count, short, room, file?_setFile place _⟩

theorem room_of_write (hwrite : tree.write directory path bytes = (after, complete)) :
    after.room = tree.room := by
  cases writing_of_write hwrite <;> rfl

end Write

/-! ### Following components -/

theorem followAll_append (components further : List String) :
    tree.followAll place (components ++ further) =
      (tree.followAll place components).bind fun next => tree.followAll next further := by
  induction components generalizing place with
  | nil => rfl
  | cons component components ih =>
    rw [List.cons_append, followAll, followAll]
    cases tree.follow place component with
    | error fault => rfl
    | ok next => exact ih

/-- Empty components do not matter on the way to a directory. -/
theorem followAll_of_filter {components : List String} (hlast : tree.isDirectory last = true)
    (h : tree.followAll place (components.filter (· != "")) = .ok last) :
    tree.followAll place components = .ok last := by
  induction components generalizing place with
  | nil => exact h
  | cons component components ih =>
    by_cases hempty : component = ""
    · subst hempty
      have hskip : tree.followAll place (components.filter (· != "")) = .ok last := by simpa using h
      have hplace : tree.isDirectory place = true := by
        cases hcomponents : components.filter (· != "") with
        | nil =>
          rw [hcomponents, followAll, Except.ok.injEq] at hskip
          rwa [hskip]
        | cons first rest =>
          rw [hcomponents, followAll] at hskip
          cases hstep : tree.follow place first with
          | error fault => rw [hstep] at hskip; cases hskip
          | ok next => exact isDirectory_of_follow hstep
      rw [followAll, follow_of_isDirectory hplace]
      exact ih hskip
    · rw [List.filter_cons_of_pos (by simpa using hempty), followAll] at h
      rw [followAll]
      cases hstep : tree.follow place component with
      | error fault => rw [hstep] at h; cases h
      | ok next =>
        rw [hstep] at h
        exact ih h

/-! ### Directories that are made -/

/-- The directory that a path leads to; the empty path stands for the working directory. -/
def Leads (tree : FileTree) (directory : Location) (path : String) (place : Location) : Prop :=
  tree.followAll (start directory path) (Path.components path) = .ok place ∧
    tree.isDirectory place = true

theorem Leads.write {folder : Location} {other : String} {bytes : ByteArray} {complete : Bool}
    (h : tree.Leads directory path folder)
    (hwrite : tree.write directory other bytes = (after, complete)) :
    after.Leads directory path folder :=
  have hsame := isDirectory_of_write hwrite
  ⟨followAll_mono (fun location hthere => (hsame location).trans hthere) h.1,
    (hsame folder).trans h.2⟩

/-- A later tree has the files of an earlier one, and the room for them. -/
structure Keeps (tree after : FileTree) : Prop where
  files : after.files = tree.files
  room : after.room = tree.room

theorem Keeps.refl (tree : FileTree) : tree.Keeps tree := ⟨rfl, rfl⟩

theorem Keeps.trans {between : FileTree} (h : tree.Keeps between) (hlater : between.Keeps after) :
    tree.Keeps after :=
  ⟨hlater.files.trans h.files, hlater.room.trans h.room⟩

theorem Keeps.file? (h : tree.Keeps after) (location : Location) :
    after.file? location = tree.file? location := congrArg (List.lookup location) h.files

/-- Making a directory changes no file, and the path leads to a directory in the end. -/
theorem makeDirectory_ok (h : tree.makeDirectory directory path = .ok after) :
    tree.Keeps after ∧ ∃ place, after.Leads directory path place := by
  rw [makeDirectory] at h
  split at h
  · cases h
  · dsimp only at h
    split at h
    · cases h
    · next location hlocation =>
      split at h
      · next hthere =>
        cases h
        exact ⟨.refl tree, location, followAll_of_filter hthere hlocation, hthere⟩
      · split at h
        · cases h
        · cases h
          have hthere : isDirectory { tree with directories := location :: tree.directories }
              location = true := by
            simp [isDirectory]
          refine ⟨⟨rfl, rfl⟩, location, followAll_of_filter hthere (followAll_mono ?_ hlocation), hthere⟩
          intro other hother
          rw [isDirectory, Bool.or_eq_true] at hother ⊢
          exact hother.imp_right fun hmem => by simpa using .inr (by simpa using hmem)

end FileTree

/-! ## Scripts -/

namespace Script

variable {α β : Type} {directory : Location} {instant : DateTime} {tree : FileTree}

/-- Where a run ends, without what it says on the way. -/
def Outcome.ending (outcome : Outcome α) : FileTree × Except String α :=
  (outcome.tree, outcome.result)

theorem ending_bind (script : Script α) (next : α → Script β) :
    ((script >>= next).run directory instant tree).ending =
      match (script.run directory instant tree).ending with
      | (middle, .ok a) => ((next a).run directory instant middle).ending
      | (middle, .error message) => (middle, .error message) := by
  rw [run_bind]
  obtain ⟨middle, messages, result⟩ := script.run directory instant tree
  cases result <;> rfl

@[simp] theorem ending_pure (a : α) :
    ((pure a : Script α).run directory instant tree).ending = (tree, .ok a) := rfl

@[simp] theorem ending_info (message : String) :
    ((info message).run directory instant tree).ending = (tree, .ok ()) := rfl

@[simp] theorem ending_debug (message : String) :
    ((debug message).run directory instant tree).ending = (tree, .ok ()) := rfl

@[simp] theorem ending_time : (time.run directory instant tree).ending = (tree, .ok instant) := rfl

theorem ending_writeOr (message path text : String) :
    ((writeOr message path text).run directory instant tree).ending =
      match tree.write directory path text.toUTF8 with
      | (after, true) => (after, .ok ())
      | (after, false) => (after, .error message) := by
  rw [writeOr, run]
  rcases tree.write directory path text.toUTF8 with ⟨after, _ | _⟩ <;> rfl

/-! ### Making directories -/

/-- Making sure of directories changes no file, and when that works the first path leads to a
    directory. -/
theorem ending_ensureDirectory (paths : List String) (directory : Location) (instant : DateTime)
    (tree : FileTree) :
    ∃ made there, ((ensureDirectory paths).run directory instant tree).ending = (made, .ok there) ∧
      tree.Keeps made ∧
      (there = true → ∀ path ∈ paths.head?, ∃ place, made.Leads directory path place) := by
  induction paths generalizing tree with
  | nil => exact ⟨tree, true, rfl, .refl tree, by simp⟩
  | cons path above ih =>
    rw [ensureDirectory, run]
    cases hmake : tree.makeDirectory directory path with
    | ok made =>
      obtain ⟨hkeeps, hleads⟩ := FileTree.makeDirectory_ok hmake
      exact ⟨made, true, rfl, hkeeps, by simpa using hleads⟩
    | error fault =>
      cases fault with
      | refused => exact ⟨tree, false, rfl, .refl tree, by simp⟩
      | missing =>
        obtain ⟨made, there, hrun, hkeeps, -⟩ := ih tree
        simp only [ending_bind, hrun]
        cases there with
        | false => exact ⟨made, false, rfl, hkeeps, by simp⟩
        | true =>
          simp only [if_true, run]
          cases hagain : made.makeDirectory directory path with
          | error fault => exact ⟨made, false, rfl, hkeeps, by simp⟩
          | ok last =>
            obtain ⟨hlast, hleads⟩ := FileTree.makeDirectory_ok hagain
            exact ⟨last, true, rfl, hkeeps.trans hlast, by simpa using hleads⟩

end Script

end FirmwareGen
