-- SUMMARY: Writing files into a directory in turn, up to the first that cannot be written.
import FirmwareGen.Command.Run
import FirmwareGen.Proofs.Storage.Changes
/-!
# Writing files in turn

Files are written into a directory one after the other, up to the first that cannot be written as a
whole. Nothing is taken back then: the files in front of it are there, it is as it was or cut off, and
no other file has changed.
-/

namespace FirmwareGen.Command

variable {outDir : String} {directory folder location place : Location} {instant : DateTime}
  {tree between after : FileTree} {files written : List (String × String)} {file : String × String}

theorem ending_writeFile (file : String × String) :
    ((writeFile outDir file).run directory instant tree).ending =
      match tree.write directory (Path.join outDir file.1) file.2.toUTF8 with
      | (after, true) => (after, .ok ())
      | (after, false) => (after, .error ("failed to write " ++ Path.join outDir file.1)) := by
  simp only [writeFile, Script.ending_bind, Script.ending_writeOr]
  rcases tree.write directory (Path.join outDir file.1) file.2.toUTF8 with ⟨after, _ | _⟩ <;> rfl

/-- Files are written into a directory in turn, each as a whole. -/
inductive WroteAll (outDir : String) (directory : Location) :
    FileTree → List (String × String) → FileTree → Prop
  | nil {tree : FileTree} : WroteAll outDir directory tree [] tree
  | cons {tree between after : FileTree} {file : String × String} {files : List (String × String)}
      (first : tree.write directory (Path.join outDir file.1) file.2.toUTF8 = (between, true))
      (others : WroteAll outDir directory between files after) :
    WroteAll outDir directory tree (file :: files) after

/-- The ways in which writing files in turn ends. -/
inductive WriteEnding (outDir : String) (directory : Location) (tree : FileTree)
    (files : List (String × String)) : FileTree × Except String Unit → Prop
  | complete {after : FileTree} (wrote : WroteAll outDir directory tree files after) :
    WriteEnding outDir directory tree files (after, .ok ())
  | halted {between after : FileTree} {written : List (String × String)} {file : String × String}
      (front : written ++ [file] <+: files) (wrote : WroteAll outDir directory tree written between)
      (broken : between.write directory (Path.join outDir file.1) file.2.toUTF8 = (after, false)) :
    WriteEnding outDir directory tree files
      (after, .error ("failed to write " ++ Path.join outDir file.1))

theorem writeEnding_each (files : List (String × String)) (tree : FileTree) :
    WriteEnding outDir directory tree files
      ((each (writeFile outDir) files).run directory instant tree).ending := by
  induction files generalizing tree with
  | nil => exact .complete .nil
  | cons file files ih =>
    simp only [each, Script.ending_bind, ending_writeFile]
    rcases hwrite : tree.write directory (Path.join outDir file.1) file.2.toUTF8 with ⟨between, _ | _⟩
    · exact .halted (List.prefix_append [file] files) .nil hwrite
    · -- The rest starts from the tree behind the first file.
      have hrest := ih between
      dsimp only
      generalize ((each (writeFile outDir) files).run directory instant between).ending = ending
        at hrest ⊢
      cases hrest with
      | complete wrote => exact .complete (.cons hwrite wrote)
      | halted front wrote broken =>
        exact .halted (List.cons_prefix_cons.2 ⟨rfl, front⟩) (.cons hwrite wrote) broken

/-! ## What is kept -/

namespace WroteAll

theorem locate (h : WroteAll outDir directory tree files after) {path : String}
    (hlocate : tree.locate folder path = .ok place) : after.locate folder path = .ok place := by
  induction h with
  | nil => exact hlocate
  | cons first _ ih => exact ih (FileTree.locate_of_write first hlocate)

theorem leads (h : WroteAll outDir directory tree files after)
    (hleads : tree.Leads directory outDir folder) : after.Leads directory outDir folder := by
  induction h with
  | nil => exact hleads
  | cons first _ ih => exact ih (hleads.write first)

theorem room (h : WroteAll outDir directory tree files after) : after.room = tree.room := by
  induction h with
  | nil => rfl
  | cons first _ ih => exact ih.trans (FileTree.room_of_write first)

/-- A file at which none of the paths leads is kept. -/
theorem file? (h : WroteAll outDir directory tree files after)
    (helsewhere : ∀ file ∈ files,
      after.locate directory (Path.join outDir file.1) ≠ .ok location) :
    after.file? location = tree.file? location := by
  induction h with
  | nil => rfl
  | cons first others ih =>
    obtain ⟨hfirst, hothers⟩ := List.forall_mem_cons.1 helsewhere
    exact (ih hothers).trans (FileTree.file?_of_write first fun h => hfirst (others.locate h))

end WroteAll

/-- A file that is changed lies where one of the paths leads to in the end. -/
theorem WriteEnding.locate_of_changed {result : Except String Unit}
    (h : WriteEnding outDir directory tree files (after, result))
    (hchanged : after.file? location ≠ tree.file? location) :
    ∃ file ∈ files, after.locate directory (Path.join outDir file.1) = .ok location := by
  by_contra hnone
  push Not at hnone
  cases h with
  | complete wrote => exact hchanged (wrote.file? hnone)
  | halted front wrote broken =>
    have hlast := FileTree.file?_of_write broken (hnone _ (front.subset (by simp)))
    refine hchanged (hlast.trans (wrote.file? fun file hfile hlocate => ?_))
    exact hnone file (front.subset (List.mem_append_left _ hfile))
      (FileTree.locate_of_write broken hlocate)

theorem WriteEnding.leads {result : Except String Unit}
    (h : WriteEnding outDir directory tree files (after, result))
    (hleads : tree.Leads directory outDir folder) : after.Leads directory outDir folder := by
  cases h with
  | complete wrote => exact wrote.leads hleads
  | halted _ wrote broken => exact (wrote.leads hleads).write broken

/-! ## What is there -/

/-- The paths of two files do not lead to one place. -/
def Apart (outDir : String) (directory : Location) (tree : FileTree)
    (file other : String × String) : Prop :=
  ∀ place, tree.locate directory (Path.join outDir file.1) = .ok place →
    tree.locate directory (Path.join outDir other.1) ≠ .ok place

theorem Apart.of_write {other : String × String} {path : String} {bytes : ByteArray}
    {complete : Bool} (hwrite : tree.write directory path bytes = (after, complete))
    (h : Apart outDir directory after file other) : Apart outDir directory tree file other :=
  fun place hfile hother =>
    h place (FileTree.locate_of_write hwrite hfile) (FileTree.locate_of_write hwrite hother)

/-- Where no two paths lead to one place, all the texts are there. -/
theorem WroteAll.read (h : WroteAll outDir directory tree files after)
    (hapart : files.Pairwise (Apart outDir directory after)) :
    ∀ file ∈ files, after.read directory (Path.join outDir file.1) = some file.2.toUTF8 := by
  induction h with
  | nil => simp
  | cons first others ih =>
    obtain ⟨hfirst, hothers⟩ := List.pairwise_cons.1 hapart
    refine List.forall_mem_cons.2 ⟨?_, ih hothers⟩
    obtain ⟨place, hplace, hbytes⟩ := FileTree.read_eq_some_iff.1 (FileTree.read_of_write first)
    refine FileTree.read_eq_some_iff.2 ⟨place, others.locate hplace, ?_⟩
    exact (others.file? fun other hother => hfirst other hother place (others.locate hplace)).trans
      hbytes

/-- What is left where some files were written and the next one was not: they are there as a whole,
    and apart from it. It is as it was, or the room at its place gave out behind the bytes it has. No
    other file has changed. -/
structure Halted (outDir : String) (directory : Location) (written : List (String × String))
    (file : String × String) (before after : FileTree) : Prop where
  whole : ∀ earlier ∈ written,
    after.read directory (Path.join outDir earlier.1) = some earlier.2.toUTF8
  apart : ∀ earlier ∈ written,
    after.locate directory (Path.join outDir earlier.1) ≠
      after.locate directory (Path.join outDir file.1)
  begun : ∀ location, after.locate directory (Path.join outDir file.1) = .ok location →
    after.file? location = before.file? location ∨
      ∃ count < file.2.toUTF8.size, before.room location = .bytes count ∧
        after.file? location = some (file.2.toUTF8.extract 0 count)
  others : ∀ location, (∀ other ∈ written ++ [file],
      after.locate directory (Path.join outDir other.1) ≠ .ok location) →
    after.file? location = before.file? location

/-- The files in front of the broken one are there afterwards, at places to which its path does not
    lead. -/
theorem exists_place_of_broken (hwrote : WroteAll outDir directory tree written between)
    (hbroken : between.write directory (Path.join outDir file.1) file.2.toUTF8 = (after, false))
    (hapart : (written ++ [file]).Pairwise (Apart outDir directory after))
    {earlier : String × String} (hearlier : earlier ∈ written) :
    ∃ place, after.locate directory (Path.join outDir earlier.1) = .ok place ∧
      after.file? place = some earlier.2.toUTF8 ∧
      after.locate directory (Path.join outDir file.1) ≠ .ok place := by
  obtain ⟨hwritten, -, hfile⟩ := List.pairwise_append.1 hapart
  -- Paths keep their places, so what is apart in the last tree was apart before it.
  have hread := hwrote.read (hwritten.imp fun h => h.of_write hbroken) earlier hearlier
  obtain ⟨place, hplace, hbytes⟩ := FileTree.read_eq_some_iff.1 hread
  have hlocate := FileTree.locate_of_write hbroken hplace
  have hne := hfile earlier hearlier file List.mem_cons_self place hlocate
  exact ⟨place, hlocate, (FileTree.file?_of_write hbroken hne).trans hbytes, hne⟩

theorem halted_of_broken (hwrote : WroteAll outDir directory tree written between)
    (hbroken : between.write directory (Path.join outDir file.1) file.2.toUTF8 = (after, false))
    (hapart : (written ++ [file]).Pairwise (Apart outDir directory after)) :
    Halted outDir directory written file tree after where
  whole earlier hearlier := by
    obtain ⟨place, hlocate, hbytes, -⟩ := exists_place_of_broken hwrote hbroken hapart hearlier
    exact FileTree.read_eq_some_iff.2 ⟨place, hlocate, hbytes⟩
  apart earlier hearlier := by
    obtain ⟨place, hlocate, -, hne⟩ := exists_place_of_broken hwrote hbroken hapart hearlier
    rw [hlocate]
    exact hne.symm
  begun location hlocate := by
    have hkept : between.file? location = tree.file? location := by
      refine hwrote.file? fun earlier hearlier h => ?_
      have hfile := (List.pairwise_append.1 hapart).2.2 earlier hearlier file List.mem_cons_self
      exact hfile location (FileTree.locate_of_write hbroken h) hlocate
    rw [← hkept, ← hwrote.room]
    exact FileTree.file?_of_write_false hbroken hlocate
  others location helsewhere := by
    obtain ⟨hwritten, hfile⟩ := List.forall_mem_append.1 helsewhere
    refine (FileTree.file?_of_write hbroken (hfile file List.mem_cons_self)).trans ?_
    exact hwrote.file? fun other hother h =>
      hwritten other hother (FileTree.locate_of_write hbroken h)

/-- Making directories first leaves the same. -/
theorem Halted.of_keeps {made : FileTree} (hkeeps : tree.Keeps made)
    (h : Halted outDir directory written file made after) :
    Halted outDir directory written file tree after where
  whole := h.whole
  apart := h.apart
  begun location hlocate := by
    rw [← hkeeps.room, ← hkeeps.file?]
    exact h.begun location hlocate
  others location helsewhere := (h.others location helsewhere).trans (hkeeps.file? location)

end FirmwareGen.Command
