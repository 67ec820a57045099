-- SUMMARY: Runs of composed scripts, and reading a file that was written.
import FirmwareGen.Storage.Script
import Mathlib.Tactic.Common
/-!
# Runs

A run of one script after another goes on where the first one ends, if it ends with a result, and is
over where it fails. A file that was written as a whole is read back.
-/

namespace FirmwareGen

/-! ## File trees -/

namespace FileTree

variable {tree after : FileTree} {directory place last : Location} {path : String} {bytes : ByteArray}

theorem file?_setFile (location : Location) (bytes : ByteArray) :
    (tree.setFile location bytes).file? location = some bytes := by
  rw [file?, setFile, List.lookup_cons_self]

theorem read_eq_some_iff : tree.read directory path = some bytes ↔
    ∃ place, tree.locate directory path = .ok place ∧ tree.file? place = some bytes := by
  rw [read]
  cases tree.locate directory path <;> simp

/-! ### Following paths -/

theorem isDirectory_of_follow {component : String} {next : Location}
    (h : tree.follow place component = .ok next) : tree.isDirectory place = true := by
  by_contra hno
  rw [follow, if_pos (by simpa using hno)] at h
  split at h <;> cases h

theorem follow_of_isDirectory {component : String} (h : tree.isDirectory place = true) :
    tree.follow place component =
      if Path.isIdle component then .ok place
      else if component = ".." then .ok place.dropLast
      else if isName component then .ok (place ++ [component])
      else .error .refused := by
  rw [follow, if_neg (by simp [h])]

/-- Where all directories still are, paths lead where they led. -/
theorem followAll_mono (hstill : ∀ location, tree.isDirectory location = true →
      after.isDirectory location = true) {components : List String}
    (h : tree.followAll place components = .ok last) :
    after.followAll place components = .ok last := by
  induction components generalizing place with
  | nil => exact h
  | cons component components ih =>
    rw [followAll] at h ⊢
    cases hstep : tree.follow place component with
    | error fault => rw [hstep] at h; cases h
    | ok next =>
      have hplace := isDirectory_of_follow hstep
      rw [hstep] at h
      rw [follow_of_isDirectory hplace] at hstep
      rw [follow_of_isDirectory (hstill place hplace), hstep]
      exact ih h

/-- Where all directories still are, the places of paths are the same. -/
theorem locate_mono (hstill : ∀ location, tree.isDirectory location = true →
      after.isDirectory location = true) (hlocate : tree.locate directory path = .ok place) :
    after.locate directory path = .ok place := by
  rw [locate] at hlocate ⊢
  split at hlocate
  · cases hlocate
  · next hpath =>
    split at hlocate
    · cases hlocate
    · next hlong =>
      rw [if_neg hpath, if_neg hlong]
      exact followAll_mono hstill hlocate

/-! ### Writing -/

/-- What writing to a path does. It leaves everything as it is, or it opens the file at the place of
    the path: then all bytes are in it, or those that there was room for. -/
inductive Writing (tree : FileTree) (directory : Location) (path : String) (bytes : ByteArray) :
    FileTree × Bool → Prop
  | refused : Writing tree directory path bytes (tree, false)
  | cut {place : Location} {count : Nat} (located : tree.locate directory path = .ok place)
      (room : tree.room place = .bytes count) (short : count < bytes.size) :
    Writing tree directory path bytes (tree.setFile place (bytes.extract 0 count), false)
  | whole {place : Location} (located : tree.locate directory path = .ok place) :
    Writing tree directory path bytes (tree.setFile place bytes, true)

theorem writing_write (tree : FileTree) (directory : Location) (path : String) (bytes : ByteArray) :
    Writing tree directory path bytes (tree.write directory path bytes) := by
  rw [write]
  cases hlocate : tree.locate directory path with
  | error fault => exact .refused
  | ok location =>
    dsimp only
    split
    · exact .refused
    · cases hroom : tree.room location with
      | closed => exact .refused
      | bytes count =>
        dsimp only
        split
        · exact .whole hlocate
        · next hsize => exact .cut hlocate hroom (Nat.lt_of_not_le hsize)
      | ample => exact .whole hlocate

theorem writing_of_write {outcome : FileTree × Bool}
    (hwrite : tree.write directory path bytes = outcome) :
    Writing tree directory path bytes outcome :=
  hwrite ▸ writing_write tree directory path bytes

variable {complete : Bool}

/-- Writing leaves the directories as they are. -/
theorem isDirectory_of_write (hwrite : tree.write directory path bytes = (after, complete))
    (location : Location) : after.isDirectory location = tree.isDirectory location := by
  cases writing_of_write hwrite <;> rfl

theorem locate_of_write {folder : Location} {other : String}
    (hwrite : tree.write directory path bytes = (after, complete))
    (hlocate : tree.locate folder other = .ok place) : after.locate folder other = .ok place :=
  locate_mono (fun location h => (isDirectory_of_write hwrite location).trans h) hlocate

/-- What was written to a path as a whole is read there. -/
theorem read_of_write (hwrite : tree.write directory path bytes = (after, true)) :
    after.read directory path = some bytes := by
  cases writing_of_write hwrite with
  | whole located =>
    exact read_eq_some_iff.2 ⟨_, locate_of_write hwrite located, file?_setFile _ bytes⟩

end FileTree

/-! ## Scripts -/

namespace Script

variable {α β : Type}

/-- Goes on from where a run ended, unless it failed. -/
def Outcome.andThen (outcome : Outcome α) (next : FileTree → α → Outcome β) : Outcome β :=
  match outcome.result with
  | .ok a =>
    let last := next outcome.tree a
    { last with messages := outcome.messages ++ last.messages }
  | .error message =>
    { tree := outcome.tree, messages := outcome.messages, result := .error message }

theorem andThen_saying (outcome : Outcome α) (message : Message)
    (next : FileTree → α → Outcome β) :
    (outcome.saying message).andThen next = (outcome.andThen next).saying message := by
  obtain ⟨tree, messages, result⟩ := outcome
  cases result <;> rfl

/-- A script in two parts runs as one after the other. -/
theorem run_bind (script : Script α) (next : α → Script β) (directory : Location)
    (instant : DateTime) (tree : FileTree) :
    (script >>= next).run directory instant tree =
      (script.run directory instant tree).andThen fun tree a =>
        (next a).run directory instant tree := by
  change (script.bind next).run directory instant tree = _
  induction script generalizing tree with
  | done a => rfl
  | fail message => rfl
  | readText path rest ih => exact ih _ tree
  | makeDirectory path rest ih =>
    rw [Script.bind, run, run]
    cases tree.makeDirectory directory path with
    | error fault => exact ih (some fault) tree
    | ok after => exact ih none after
  | writeText path text rest ih =>
    rw [Script.bind, run, run]
    exact ih _ _
  | askTime rest ih => exact ih instant tree
  | report level message rest ih =>
    rw [Script.bind, run, run, ih, andThen_saying]
  | print text rest ih =>
    rw [Script.bind, run, run, ih, andThen_saying]

/-- A file that can be written as a whole is there afterwards. -/
theorem run_writeOr {message path text : String} {directory : Location} {instant : DateTime}
    {tree after : FileTree} (hwrite : tree.write directory path text.toUTF8 = (after, true)) :
    (writeOr message path text).run directory instant tree =
      { tree := after, messages := [], result := .ok () } := by
  rw [writeOr, run, hwrite]
  rfl

end Script

end FirmwareGen
