-- SUMMARY: Generated files are frames around sections, which keep appends of modulators.
import FirmwareGen.Proofs.Modulators.Lines
import Mathlib.Data.List.Perm.Basic
/-!
# Sections of generated drivers

Each of the two files is a frame around sections that go through the modulators in order; the frame
has the base name and the time, and one enumeration is shared. What a modulator puts into the
sections is the same whatever other modulators there are, and the sections of two lists of modulators
in a row are those of the one followed by those of the other.
-/

namespace FirmwareGen.Modulators

open C

/-! ## Contents -/

/-- The parts of the two files that go through the modulators. -/
inductive Section
  | modeEnums | dutyLimits | adcDefinitions | phaseStructs | configStructs | prototypes
  | helperDeclarations | instances | initFunctions | controlFunctions | interruptHandlers
  deriving DecidableEq, Repr

/-- What one driver puts into a section. -/
def Section.items : Section → DriverPlan → List Item
  | modeEnums => DriverPlan.modeEnum
  | dutyLimits => DriverPlan.dutyLimits
  | adcDefinitions => DriverPlan.adcDefinitions
  | phaseStructs => DriverPlan.phaseStruct
  | configStructs => DriverPlan.configStruct
  | prototypes => DriverPlan.prototypes
  | helperDeclarations => DriverPlan.helperDeclarations
  | instances => DriverPlan.configInstance
  | initFunctions => DriverPlan.initFunction
  | controlFunctions => DriverPlan.controlFunctions
  | interruptHandlers => DriverPlan.interruptHandlers

/-- What modulators put into their two files: the texts of the sections and the enumerators of the
    enumeration that they share. -/
@[ext]
structure Content where
  text : Section → String
  enumerators : List String

namespace Content

def empty : Content := ⟨fun _ => "", []⟩

/-- Each section of the one followed by that of the other. -/
def append (front back : Content) : Content where
  text part := front.text part ++ back.text part
  enumerators := front.enumerators ++ back.enumerators

instance : Append Content := ⟨append⟩

@[simp] theorem text_append (front back : Content) (part : Section) :
    (front ++ back).text part = front.text part ++ back.text part := rfl

@[simp] theorem enumerators_append (front back : Content) :
    (front ++ back).enumerators = front.enumerators ++ back.enumerators := rfl

/-- Contents one behind the other. -/
def joined : List Content → Content
  | [] => empty
  | content :: contents => content ++ joined contents

end Content

/-- What the sections have of some modulators. -/
def contentOf (scheme : NamingScheme) (modulators : List Modulator) : Content where
  text part := Listing.text layout ((plansOf scheme modulators).flatMap part.items)
  enumerators := phaseEnumerators (plansOf scheme modulators)

/-- What the sections have of each modulator by itself. -/
def contentsOf (scheme : NamingScheme) (modulators : List Modulator) : List Content :=
  modulators.map fun modulator => contentOf scheme [modulator]

/-! ## Frames -/

/-- Lines, each with its line end. -/
def unlines (lines : List String) : String := String.join (lines.map (· ++ "\n"))

/-- The enumeration of all phases: one enumerator a line, with commas between them; nothing if there
    is no enumerator. -/
def phaseEnumeration : List String → String
  | [] => ""
  | enumerators =>
    "typedef enum \x7b\n" ++ ",\n".intercalate (enumerators.map ("    " ++ ·)) ++
      "\n\x7d modulator_phase_t;\n\n"

/-- The lines at the top of both files. -/
def topLines (base kind stamp : String) : List String :=
  ["/*", " * " ++ base ++ " - Generated " ++ kind ++ " File", " * Generated: " ++ stamp, " */", ""]

def headerAround (base stamp : String) (content : Content) : String :=
  unlines (topLines base "Header" stamp ++
    ["#ifndef " ++ Naming.includeGuard base, "#define " ++ Naming.includeGuard base, "",
     "#include <stdint.h>", "#include <stdbool.h>", "",
     "/* Modulator Configuration Enums and Defines */", ""]) ++
  content.text .modeEnums ++ unlines [""] ++
  phaseEnumeration content.enumerators ++
  content.text .dutyLimits ++ content.text .adcDefinitions ++ content.text .phaseStructs ++
  content.text .configStructs ++ content.text .prototypes ++
  unlines ["", "#endif /* " ++ Naming.includeGuard base ++ " */"]

def sourceAround (base stamp : String) (content : Content) : String :=
  unlines (topLines base "Source" stamp ++
    ["#include \"" ++ base ++ ".h\"", "#include <math.h>", "", "/* Static helper functions */"]) ++
  content.text .helperDeclarations ++ unlines [""] ++
  content.text .instances ++ content.text .initFunctions ++ content.text .controlFunctions ++
  content.text .interruptHandlers

/-- The two files around some content. -/
def filesAround (base stamp : String) (content : Content) : FilePair :=
  FilePair.ofBase base (headerAround base stamp content) (sourceAround base stamp content)

/-! ## Contents of lists of modulators -/

theorem unlines_append (front back : List String) :
    unlines (front ++ back) = unlines front ++ unlines back := by
  rw [unlines, List.map_append, String.join_append, unlines, unlines]

theorem text_listing_append (front back : Listing) :
    Listing.text layout (front ++ back) = Listing.text layout front ++ Listing.text layout back := by
  show unlines ((front ++ back).flatMap (Item.lines layout)) = _
  rw [List.flatMap_append, unlines_append]
  rfl

section Contents

variable (scheme : NamingScheme)

theorem contentOf_append (front back : List Modulator) :
    contentOf scheme (front ++ back) = contentOf scheme front ++ contentOf scheme back := by
  have hplans : plansOf scheme (front ++ back) = plansOf scheme front ++ plansOf scheme back :=
    List.map_append
  ext1
  · funext part
    simp only [contentOf, Content.text_append, hplans, List.flatMap_append, text_listing_append]
  · simp only [contentOf, Content.enumerators_append, hplans, phaseEnumerators, List.flatMap_append]

/-- What modulators put into their files is what each of them alone puts there. -/
theorem contentOf_eq_joined (modulators : List Modulator) :
    contentOf scheme modulators = Content.joined (contentsOf scheme modulators) := by
  induction modulators with
  | nil => rfl
  | cons modulator modulators ih =>
    rw [contentsOf, List.map_cons, Content.joined, ← contentsOf, ← ih, ← contentOf_append]
    rfl

end Contents

/-! ## Files around contents -/

theorem unlines_enumeratorLines {enumerators : List String} (h : enumerators ≠ []) :
    unlines (enumeratorLines enumerators) =
      ",\n".intercalate (enumerators.map ("    " ++ ·)) ++ "\n" := by
  have hindent : indent 1 = "    " := by simp [indent]
  have hcomma : "," ++ "\n" = ",\n" := by decide
  induction enumerators with
  | nil => contradiction
  | cons enumerator rest ih =>
    cases rest with
    | nil => simp [enumeratorLines, unlines, hindent]
    | cons next rest =>
      have hlines : enumeratorLines (enumerator :: next :: rest) =
          [indent 1 ++ enumerator ++ ","] ++ enumeratorLines (next :: rest) := by
        simp [enumeratorLines]
      rw [hlines, unlines_append, ih (by simp)]
      simp only [String.intercalate_cons_cons, unlines, List.map_cons, List.map_nil, String.join_cons,
        String.join_nil, hindent, String.append_empty, String.append_assoc, ← hcomma]

theorem text_phaseEnum (plans : List DriverPlan) :
    Listing.text layout (phaseEnum plans) = phaseEnumeration (phaseEnumerators plans) := by
  unfold phaseEnum
  cases henumerators : phaseEnumerators plans with
  | nil => rfl
  | cons first rest =>
    have hlines : Listing.lines layout [.enumeration (first :: rest) "modulator_phase_t", .blank] =
        ["typedef enum \x7b"] ++ enumeratorLines (first :: rest) ++ ["\x7d modulator_phase_t;", ""] := by
      simp [Listing.lines, Item.lines]
    show unlines (Listing.lines layout _) = _
    rw [hlines, unlines_append, unlines_append, unlines_enumeratorLines (by simp)]
    simp only [phaseEnumeration, String.append_assoc]
    rfl

example : phaseEnumeration ["BUCK_A", "BOOST_B"] =
    "typedef enum \x7b\n    BUCK_A,\n    BOOST_B\n\x7d modulator_phase_t;\n\n" := by decide

section Frames

variable (base stamp : String) (scheme : NamingScheme) (modulators : List Modulator)

theorem lines_banner (kind : String) :
    Listing.lines layout (banner base kind stamp) = topLines base kind stamp := by
  have hstamp : " * " ++ "Generated: " = " * Generated: " := by decide
  simp [banner, topLines, Listing.lines, Item.lines, toString_text, String.append_assoc]
  rw [← String.append_assoc, hstamp]

theorem text_header :
    Listing.text layout (header base stamp (plansOf scheme modulators)) =
      headerAround base stamp (contentOf scheme modulators) := by
  have hfront : Listing.text layout (banner base "Header" stamp ++
      [.unlessDefined (Naming.includeGuard base), .marker (Naming.includeGuard base), .blank,
       .systemInclude "stdint.h", .systemInclude "stdbool.h", .blank] ++
      [.comment "Modulator Configuration Enums and Defines", .blank]) =
      unlines (topLines base "Header" stamp ++
        ["#ifndef " ++ Naming.includeGuard base, "#define " ++ Naming.includeGuard base, "",
         "#include <stdint.h>", "#include <stdbool.h>", "",
         "/* Modulator Configuration Enums and Defines */", ""]) := by
    show unlines (Listing.lines layout _) = _
    rw [← lines_banner]
    simp [Listing.lines, Item.lines]
  simp only [header, headerSections, text_listing_append, text_phaseEnum] at hfront ⊢
  simp only [← String.append_assoc] at hfront ⊢
  rw [hfront]
  rfl

theorem text_source :
    Listing.text layout (source base stamp (plansOf scheme modulators)) =
      sourceAround base stamp (contentOf scheme modulators) := by
  have hfront : Listing.text layout (banner base "Source" stamp ++
      [.ownInclude (base ++ ".h"), .systemInclude "math.h", .blank] ++
      [.comment "Static helper functions"]) =
      unlines (topLines base "Source" stamp ++
        ["#include \"" ++ base ++ ".h\"", "#include <math.h>", "",
         "/* Static helper functions */"]) := by
    show unlines (Listing.lines layout _) = _
    rw [← lines_banner]
    simp [Listing.lines, Item.lines, String.append_assoc]
  simp only [source, sourceSections, text_listing_append] at hfront ⊢
  simp only [← String.append_assoc] at hfront ⊢
  rw [hfront]
  rfl

end Frames

/-! ## Composition -/

section Composition

variable {ρ : Type} (scheme : NamingScheme) (clock : TimeSource ρ) (state : ρ)

theorem files_generate_eq_around (modulators : List Modulator) :
    (generate scheme clock modulators state).1 =
      filesAround (Naming.baseFileName scheme.fallbackBaseName modulators)
        (clock.read state).1.timestamp (contentOf scheme modulators) := by
  rw [files_generate, text_header, text_source]
  rfl

/-- How the files of modulators are put together. -/
structure Composed : Prop where
  /-- The files of any modulators are frames around what the sections have of these. -/
  around : ∀ modulators,
    (generate scheme clock modulators state).1 =
      filesAround (Naming.baseFileName scheme.fallbackBaseName modulators)
        (clock.read state).1.timestamp (contentOf scheme modulators)
  /-- Each section of two lists in a row is that of the first list followed by that of the other, and
      the first list names the files. -/
  append : ∀ front back, front ≠ [] →
    (generate scheme clock (front ++ back) state).1 =
      filesAround (Naming.baseFileName scheme.fallbackBaseName front)
        (clock.read state).1.timestamp (contentOf scheme front ++ contentOf scheme back)
  /-- What the sections have of a modulator is the same whatever other modulators there are. -/
  alone : ∀ modulators, contentOf scheme modulators = Content.joined (contentsOf scheme modulators)
  /-- Another order of the modulators behind the first one is another order of what the sections have
      of them, the same in all sections, and nothing else. -/
  reordered : ∀ first others others', others.Perm others' →
    (contentsOf scheme others).Perm (contentsOf scheme others') ∧
      ∀ list ∈ [others, others'],
        (generate scheme clock (first :: list) state).1 =
          filesAround (Naming.baseFileName scheme.fallbackBaseName [first])
            (clock.read state).1.timestamp
            (contentOf scheme [first] ++ Content.joined (contentsOf scheme list))

theorem baseFileName_append (fallback : String) {front : List Modulator} (h : front ≠ [])
    (back : List Modulator) :
    Naming.baseFileName fallback (front ++ back) = Naming.baseFileName fallback front := by
  cases front with
  | nil => contradiction
  | cons first rest => rfl

/-- The files of modulators are put together from what each modulator gives, modulator by modulator in
    each section. -/
theorem composed_generate : Composed scheme clock state := by
  have happend : ∀ front back, front ≠ [] →
      (generate scheme clock (front ++ back) state).1 =
        filesAround (Naming.baseFileName scheme.fallbackBaseName front)
          (clock.read state).1.timestamp (contentOf scheme front ++ contentOf scheme back) := by
    intro front back hfront
    rw [files_generate_eq_around, contentOf_append, baseFileName_append _ hfront]
  refine ⟨files_generate_eq_around scheme clock state, happend, contentOf_eq_joined scheme, ?_⟩
  intro first others others' hperm
  refine ⟨hperm.map _, fun list _ => ?_⟩
  rw [← contentOf_eq_joined]
  exact happend [first] list (List.cons_ne_nil _ _)

end Composition

end FirmwareGen.Modulators
