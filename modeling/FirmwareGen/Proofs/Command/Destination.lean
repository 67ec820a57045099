-- SUMMARY: Where the files of modulators lie that a run creates or changes.
import FirmwareGen.Proofs.Command.Emission
/-!
# Where files are written

The files of modulators are named after the first of them. They lie right in the folder of the run as
long as that name has no slash. A slash is kept: behind it the files lie deeper, and in front of all it
takes them out of the folder.
-/

namespace FirmwareGen.Command

variable {directory location : Location} {instant : DateTime} {tree after : FileTree}
  {pair : FilePair} {outDir : String}

/-! ## What changes -/

/-- What writing a pair changes lies where the header or the source leads to in the end. -/
theorem locate_of_emission {result : Except String Unit}
    (hemission : Emission pair outDir directory tree (after, result))
    (hchanged : after.file? location ≠ tree.file? location) :
    ∃ folder, after.Leads directory outDir folder ∧
      ∃ file ∈ pair.files, after.locate directory (Path.join outDir file.1) = .ok location := by
  cases hemission with
  | unmade keeps => exact absurd (keeps.file? location) hchanged
  | started prepared writes =>
    rw [← prepared.keeps.file? location] at hchanged
    exact ⟨_, writes.leads prepared.leads, writes.locate_of_changed hchanged⟩

/-! ## Places of files -/

/-- Where a file lies that is named after some name: right in a folder, deeper in it, or where the name
    leads from the root, whatever the folder is. -/
inductive Placed (name : String) (folder : Location) : Location → Prop
  | inside (plain : '/' ∉ name.toList) (file : String) : Placed name folder (folder ++ [file])
  | deeper (slash : '/' ∈ name.toList) (relative : Path.isAbsolute name = false)
      (inner : List String) (further : inner ≠ []) (file : String) :
    Placed name folder (folder ++ (inner ++ [file]))
  | outside (absolute : Path.isAbsolute name = true) {letter : Char}
      (hletter : letter = 'h' ∨ letter = 'c') :
    Placed name folder (Path.steps (Path.fileOf (Naming.fileStem name) letter))

open Naming in
theorem placed_of_locate {fallback : String} (hdot : '.' ∉ fallback.toList)
    (hslash : '/' ∉ fallback.toList) {modulators : List Modulator} {letter : Char}
    (hletter : letter = 'h' ∨ letter = 'c') {folder : Location}
    (hleads : tree.Leads directory outDir folder)
    (h : tree.locate directory
      (Path.join outDir (Path.fileOf (baseFileName fallback modulators) letter)) = .ok location) :
    Placed (leadingName modulators) folder location := by
  have hbase := dot_not_mem_baseFileName hdot modulators
  obtain ⟨front, last, hcomponents, hsteps⟩ := Path.steps_fileOf hbase
  obtain ⟨hup, hfile⟩ := hsteps letter (by rcases hletter with rfl | rfl <;> decide)
    (by rcases hletter with rfl | rfl <;> decide)
  have hplace := FileTree.eq_of_locate_join hleads hup h
  rw [Path.isAbsolute_fileOf] at hplace
  by_cases hname : '/' ∈ (leadingName modulators).toList
  · have hstem : baseFileName fallback modulators = fileStem (leadingName modulators) :=
      baseFileName_of_slash hname
    rw [hstem, isAbsolute_fileStem] at hplace
    cases habsolute : Path.isAbsolute (leadingName modulators) with
    | true =>
      rw [habsolute, if_pos rfl, List.nil_append] at hplace
      rw [hplace]
      exact .outside habsolute hletter
    | false =>
      rw [habsolute, if_neg Bool.false_ne_true, ← hstem, hfile] at hplace
      rw [hplace]
      refine .deeper hname habsolute _ (Path.steps_front_ne_nil hbase ?_ ?_ hcomponents) _
      · rwa [slash_mem_baseFileName_iff hslash]
      · rw [hstem, isAbsolute_fileStem, habsolute]
  · have hplain : '/' ∉ (baseFileName fallback modulators).toList := by
      rwa [slash_mem_baseFileName_iff hslash]
    have hlast : [] ++ [baseFileName fallback modulators] = front ++ [last] := by
      rw [← hcomponents, Path.components_of_not_mem hplain, List.nil_append]
    rw [Path.isAbsolute_of_not_mem hplain, if_neg Bool.false_ne_true, hfile,
      ← (List.append_inj' hlast rfl).1, List.filter_nil, List.nil_append] at hplace
    rw [hplace]
    exact .inside hname _

/-- A file that a run for modulators creates or changes lies right in the folder of the run if the
    name of the first modulator has no slash. Otherwise it lies deeper, or the folder plays no part. -/
theorem placed_of_changed {config outDir : String} {check : Bool} {directory location : Location}
    {instant : DateTime} {tree : FileTree}
    (hchanged :
      ((perform (.generate .modulators config outDir check)).run directory instant tree).tree.file?
        location ≠ tree.file? location) :
    ∃ set folder,
      ((loadRecord ModulatorSet.schema config).run directory instant tree).result = .ok set ∧
      ((perform (.generate .modulators config outDir check)).run directory instant tree).tree.Leads
        directory outDir folder ∧
      Placed (Naming.leadingName set.modulators) folder location := by
  rcases unchanged_or_emission .modulators config outDir check directory instant tree with
    hsame | ⟨pair, -, hgenerated, hemission⟩
  · exact absurd (congrArg (FileTree.file? · location) hsame) hchanged
  · obtain ⟨set, hload, rfl⟩ := exists_of_map_eq_ok hgenerated
    obtain ⟨folder, hleads, file, hfile, hlocate⟩ := locate_of_emission hemission hchanged
    refine ⟨set, folder, (congrArg Prod.snd (ending_loadRecord _ config)).trans hload, hleads, ?_⟩
    rw [FilePair.files, List.mem_cons, List.mem_singleton] at hfile
    rcases hfile with rfl | rfl
    · exact placed_of_locate (by decide) (by decide) (.inl rfl) hleads hlocate
    · exact placed_of_locate (by decide) (by decide) (.inr rfl) hleads hlocate

/-- A folder with another one in it, beside the document of a modulator. -/
def nestedTree (document : String) : FileTree where
  directories := [["o"], ["o", "sub"]]
  files := [(["m.json"], document.toUTF8)]

def nestedRun (document : String) : Script.Outcome Unit :=
  (perform (.generate .modulators "m.json" "o" false)).run [] quotedInstant (nestedTree document)

/-- The document of a modulator with a slash in its name. -/
def slashedDocument : String := "\x7b\"modulators\":[\x7b\"name\":\"sub/X\"\x7d]\x7d"

/-- The document of a modulator with a slash in front of its name. -/
def rootedDocument : String := "\x7b\"modulators\":[\x7b\"name\":\"/X\"\x7d]\x7d"

theorem placed_of_changed_slashedDocument :
    (nestedRun slashedDocument).tree.file? ["o", "sub", "x.h"] ≠
        (nestedTree slashedDocument).file? ["o", "sub", "x.h"] ∧
      ∃ set folder,
        ((loadRecord ModulatorSet.schema "m.json").run [] quotedInstant
          (nestedTree slashedDocument)).result = .ok set ∧
        (nestedRun slashedDocument).tree.Leads [] "o" folder ∧
        Placed (Naming.leadingName set.modulators) folder ["o", "sub", "x.h"] := by
  have hchanged : (nestedRun slashedDocument).tree.file? ["o", "sub", "x.h"] ≠
      (nestedTree slashedDocument).file? ["o", "sub", "x.h"] := by
    decide +kernel
  exact ⟨hchanged, placed_of_changed hchanged⟩

/-- Files need not be written right into the folder, nor into the folder at all. -/
theorem astray_nestedRun :
    ((nestedRun slashedDocument).tree.Leads [] "o" ["o"] ∧
      (nestedTree slashedDocument).file? ["o", "sub", "x.h"] = none ∧
      ((nestedRun slashedDocument).tree.file? ["o", "sub", "x.h"]).isSome = true) ∧
    (nestedRun rootedDocument).tree.Leads [] "o" ["o"] ∧
      (nestedTree rootedDocument).file? ["x.h"] = none ∧
      ((nestedRun rootedDocument).tree.file? ["x.h"]).isSome = true := by
  simp only [FileTree.Leads]
  decide +kernel

end FirmwareGen.Command
