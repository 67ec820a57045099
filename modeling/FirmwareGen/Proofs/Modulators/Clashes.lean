-- SUMMARY: Which phases have the same name in generated files.
import FirmwareGen.Proofs.Modulators.Declarations
import FirmwareGen.Proofs.Modulators.Interrupts
import FirmwareGen.Proofs.Text.Removal
import Mathlib.Data.List.Infix
import Mathlib.Data.List.Nodup
/-!
# Names that phases share

The enumerator of a phase is put together from the stem of the modulator and the tag of the phase, with
an underscore between them. Both may have underscores of their own, so two phases may get the same
enumerator although neither stems nor tags are the same. The name of an interrupt service routine has
the tag without the fragments, which may be all that two tags differ in.
-/

namespace FirmwareGen.Modulators

open C Text

/-! ## Lines as they are laid out -/

section Layout

variable {ρ : Type} (clock : TimeSource ρ) (modulators : List Modulator) (now : ρ)

/-- The lines of a header, of which one is several lines of the file if a free text is. -/
def headerLines : List String :=
  Listing.lines layout (header (Naming.baseFileName ({} : NamingScheme).fallbackBaseName modulators)
    (clock.read now).1.timestamp (plansOf {} modulators))

/-- The lines of a source, of which one is several lines of the file if a free text is. -/
def sourceLines : List String :=
  Listing.lines layout (source (Naming.baseFileName ({} : NamingScheme).fallbackBaseName modulators)
    (clock.read now).1.timestamp (plansOf {} modulators))

theorem header_generate : (generate {} clock modulators now).1.header =
    String.join ((headerLines clock modulators now).map (· ++ "\n")) := by
  rw [files_generate, FilePair.header_ofBase]
  rfl

theorem source_generate : (generate {} clock modulators now).1.source =
    String.join ((sourceLines clock modulators now).map (· ++ "\n")) := by
  rw [files_generate, FilePair.source_ofBase]
  rfl

end Layout

/-! ## Enumerators -/

/-- The phases that have an enumerator, with their modulators in front of them. -/
def enumeratedPhases (modulators : List Modulator) : List (Modulator × Phase) :=
  modulators.flatMap fun modulator => modulator.activePhases.map (modulator, ·)

/-- A PWM resource with one marker, which stands in front of a tag. -/
def Marked (pwm : String) : Prop :=
  ∃ tag, pwm = "PWM_" ++ tag ∧ tag ≠ "" ∧ ¬ "PWM_".toList <:+: tag.toList

instance (pwm : String) : Decidable (Marked pwm) :=
  decidable_of_iff
    (∃ tag ∈ afterPattern? "PWM_".toList pwm.toList, tag ≠ [] ∧ ¬ "PWM_".toList <:+: tag) <| by
    simp only [Option.mem_def, afterPattern?_eq_some_iff]
    constructor
    · rintro ⟨tag, hpwm, hne, habsent⟩
      refine ⟨String.ofList tag, ?_, by simpa using hne, (String.toList_ofList (l := tag)).symm ▸ habsent⟩
      exact String.toList_inj.1 (by rw [hpwm, String.toList_append, String.toList_ofList (l := tag)])
    · rintro ⟨tag, rfl, hne, habsent⟩
      exact ⟨tag.toList, String.toList_append, by simpa using hne, habsent⟩

/-- Modulators that are told apart by their stems, and their phases by PWM resources with one marker
    each. -/
structure Distinct (modulators : List Modulator) : Prop where
  stems : (modulators.map fun modulator => NamingScheme.symbolStem {} modulator.name).Nodup
  pwms : ((enumeratedPhases modulators).map fun active => active.2.pwm).Nodup
  marked : ∀ active ∈ enumeratedPhases modulators, Marked active.2.pwm

theorem distinct_iff {modulators : List Modulator} :
    Distinct modulators ↔
      (modulators.map fun modulator => NamingScheme.symbolStem {} modulator.name).Nodup ∧
        ((enumeratedPhases modulators).map fun active => active.2.pwm).Nodup ∧
        ∀ active ∈ enumeratedPhases modulators, Marked active.2.pwm :=
  ⟨fun h => ⟨h.stems, h.pwms, h.marked⟩, fun h => ⟨h.1, h.2.1, h.2.2⟩⟩

instance (modulators : List Modulator) : Decidable (Distinct modulators) :=
  decidable_of_iff _ distinct_iff.symm

/-- The stem of the second phase's modulator goes on where that of the first one's ends, and takes up
    the front of the first phase's tag. -/
def Meets (first second : Modulator × Phase) : Prop :=
  ∃ rest tag, NamingScheme.symbolStem {} second.1.name =
      NamingScheme.symbolStem {} first.1.name ++ "_" ++ rest ∧
    first.2.pwm = "PWM_" ++ rest ++ "_" ++ tag ∧ second.2.pwm = "PWM_" ++ tag

def enumeratorOf (active : Modulator × Phase) : String :=
  NamingScheme.symbolStem {} active.1.name ++ "_" ++ NamingScheme.phaseTag {} active.2.pwm

theorem phaseEnumerators_plansOf (modulators : List Modulator) :
    phaseEnumerators (plansOf {} modulators) = (enumeratedPhases modulators).map enumeratorOf := by
  rw [phaseEnumerators, plansOf, List.flatMap_map, enumeratedPhases, List.map_flatMap]
  refine List.flatMap_congr fun modulator _ => ?_
  simp only [DriverPlan.ofModulator, List.map_map]
  rfl

theorem phaseTag_marked {tag : String} (h : ¬ "PWM_".toList <:+: tag.toList) :
    NamingScheme.phaseTag {} ("PWM_" ++ tag) = tag :=
  remove_append h

namespace Distinct

variable {modulators : List Modulator} {first second : Modulator × Phase}

/-- The PWM resource is the tag with the marker in front of it. -/
theorem pwm_eq (h : Distinct modulators) (hfirst : first ∈ enumeratedPhases modulators) :
    first.2.pwm = "PWM_" ++ NamingScheme.phaseTag {} first.2.pwm := by
  obtain ⟨tag, hpwm, -, habsent⟩ := h.marked first hfirst
  rw [hpwm, phaseTag_marked habsent]

theorem eq_of_tag (h : Distinct modulators) (hfirst : first ∈ enumeratedPhases modulators)
    (hsecond : second ∈ enumeratedPhases modulators)
    (htag : NamingScheme.phaseTag {} first.2.pwm = NamingScheme.phaseTag {} second.2.pwm) :
    first = second := by
  refine List.inj_on_of_nodup_map h.pwms hfirst hsecond ?_
  rw [h.pwm_eq hfirst, h.pwm_eq hsecond, htag]

theorem phaseTag_eq (h : Distinct modulators) (hfirst : first ∈ enumeratedPhases modulators)
    {tag : String} (hpwm : first.2.pwm = "PWM_" ++ tag) :
    NamingScheme.phaseTag {} first.2.pwm = tag :=
  (String.append_right_inj "PWM_").1 ((h.pwm_eq hfirst).symm.trans hpwm)

/-- What meets has the same enumerator. -/
theorem enumerator_eq_of_meets (h : Distinct modulators)
    (hfirst : first ∈ enumeratedPhases modulators) (hsecond : second ∈ enumeratedPhases modulators)
    (hmeets : Meets first second) : enumeratorOf first = enumeratorOf second := by
  obtain ⟨rest, tag, hstem, hpwm, hpwm'⟩ := hmeets
  rw [String.append_assoc, String.append_assoc] at hpwm
  rw [enumeratorOf, enumeratorOf, h.phaseTag_eq hfirst hpwm, h.phaseTag_eq hsecond hpwm', hstem]
  simp only [String.append_assoc]

/-- A stem that is longer than another goes on with the front of the tag. -/
theorem meets_of_append (h : Distinct modulators) (hfirst : first ∈ enumeratedPhases modulators)
    (hsecond : second ∈ enumeratedPhases modulators) {more : List Char}
    (hstem : (NamingScheme.symbolStem {} second.1.name).toList =
      (NamingScheme.symbolStem {} first.1.name).toList ++ more)
    (htag : '_' :: (NamingScheme.phaseTag {} first.2.pwm).toList =
      more ++ '_' :: (NamingScheme.phaseTag {} second.2.pwm).toList) :
    first = second ∨ Meets first second := by
  cases more with
  | nil => exact .inl (h.eq_of_tag hfirst hsecond (by simpa [String.toList_inj] using htag))
  | cons c rest =>
    obtain ⟨rfl, hrest⟩ := List.cons_eq_cons.1 htag
    refine .inr ⟨String.ofList rest, NamingScheme.phaseTag {} second.2.pwm, ?_, ?_,
      h.pwm_eq hsecond⟩
    · simp [← String.toList_inj, hstem]
    · rw [h.pwm_eq hfirst]
      simp [← String.toList_inj, hrest]

theorem eq_or_meets (h : Distinct modulators) (hfirst : first ∈ enumeratedPhases modulators)
    (hsecond : second ∈ enumeratedPhases modulators)
    (henumerator : enumeratorOf first = enumeratorOf second) :
    first = second ∨ Meets first second ∨ Meets second first := by
  have hchars := congrArg String.toList henumerator
  simp only [enumeratorOf, String.append_assoc, String.toList_append] at hchars
  rcases List.append_eq_append_iff.1 hchars with ⟨more, hstem, htag⟩ | ⟨more, hstem, htag⟩
  · exact (h.meets_of_append hfirst hsecond hstem htag).imp_right .inl
  · exact (h.meets_of_append hsecond hfirst hstem htag).imp Eq.symm .inr

/-- A stem is shorter than one that goes on from it. -/
theorem ne_of_meets (hmeets : Meets first second) : first ≠ second := by
  rintro rfl
  obtain ⟨rest, tag, hstem, -⟩ := hmeets
  have hlength := congrArg (fun text => text.toList.length) hstem
  simp at hlength

end Distinct

/-- The stem of one modulator goes on from that of the other, but not with the front of a tag. -/
def nested : List Modulator :=
  [{ name := "A", phases := [{ pwm := "PWM_B" }] },
   { name := "A B", phases := [{ pwm := "PWM_C" }, { pwm := "PWM_D" }] }]

theorem symbolStem_nested :
    NamingScheme.symbolStem {} "A" = "A" ∧ NamingScheme.symbolStem {} "A B" = "A_B" := by
  decide

/-- The stem of one modulator goes on from that of the other with the front of a tag. -/
def meeting : List Modulator :=
  [{ name := "A", phases := [{ pwm := "PWM_B_C" }] },
   { name := "A B", phases := [{ pwm := "PWM_C" }] }]

section Routines

variable {ρ : Type} (clock : TimeSource ρ) (modulators : List Modulator) (now : ρ)

/-- The routines that a header declares, each without its last word. -/
def declaredRoutines : List String :=
  (headerLines clock modulators now).filterMap (between? "void " "_Controller(void);")

/-- The routines that a source defines, each without its last word. -/
def definedRoutines : List String :=
  (sourceLines clock modulators now).filterMap (between? "void " "_Controller(void)")

theorem declaredRoutines_eq :
    declaredRoutines clock modulators now = (interruptPhases modulators).map (routineStem {}) := by
  rw [declaredRoutines, headerLines, declared_header]
  exact flatMap_isrPhases fun _ _ => rfl

theorem definedRoutines_eq :
    definedRoutines clock modulators now = (interruptPhases modulators).map (routineStem {}) := by
  rw [definedRoutines, sourceLines, defined_source]
  exact flatMap_isrPhases fun _ _ => rfl

end Routines

/-- The routines of one modulator are told apart by the short names of the phases. -/
theorem routineStem_eq_iff {modulator : Modulator} {first second : Modulator × Phase}
    (hfirst : first ∈ interruptPhases [modulator]) (hsecond : second ∈ interruptPhases [modulator]) :
    routineStem {} first = routineStem {} second ↔
      NamingScheme.phaseName {} first.2.pwm = NamingScheme.phaseName {} second.2.pwm := by
  have howner : ∀ isr ∈ interruptPhases [modulator], isr.1 = modulator := by
    intro isr hisr
    simp only [interruptPhases, List.flatMap_singleton, List.mem_map] at hisr
    obtain ⟨phase, -, rfl⟩ := hisr
    rfl
  rw [routineStem, routineStem, howner first hfirst, howner second hsecond,
    String.append_right_inj]

theorem count_routineStem {modulator : Modulator} {isr : Modulator × Phase}
    (hisr : isr ∈ interruptPhases [modulator]) :
    ((interruptPhases [modulator]).map (routineStem {})).count (routineStem {} isr) =
      ((interruptPhases [modulator]).map fun other => NamingScheme.phaseName {} other.2.pwm).count
        (NamingScheme.phaseName {} isr.2.pwm) := by
  rw [List.count_eq_countP, List.count_eq_countP, List.countP_map, List.countP_map]
  refine List.countP_congr fun other hother => ?_
  simpa using routineStem_eq_iff hother hisr

/-- The routine of a phase is declared and defined once for each phase with its short name, so exactly
    once just if the short names are all different. -/
theorem count_routines {ρ : Type} (clock : TimeSource ρ) (modulator : Modulator) (now : ρ) :
    (generate {} clock [modulator] now).1.header =
        String.join ((headerLines clock [modulator] now).map (· ++ "\n")) ∧
    (generate {} clock [modulator] now).1.source =
        String.join ((sourceLines clock [modulator] now).map (· ++ "\n")) ∧
    let isrs := interruptPhases [modulator]
    let names := isrs.map fun isr => NamingScheme.phaseName {} isr.2.pwm
    let declared := declaredRoutines clock [modulator] now
    let defined := definedRoutines clock [modulator] now
    (∀ isr ∈ isrs,
      declared.count (routineStem {} isr) = names.count (NamingScheme.phaseName {} isr.2.pwm) ∧
        defined.count (routineStem {} isr) = names.count (NamingScheme.phaseName {} isr.2.pwm)) ∧
    ((∀ isr ∈ isrs, declared.count (routineStem {} isr) = 1 ∧
        defined.count (routineStem {} isr) = 1) ↔ names.Nodup) := by
  refine ⟨header_generate clock [modulator] now, source_generate clock [modulator] now, ?_⟩
  intro isrs names declared defined
  have hcount : ∀ isr ∈ isrs,
      declared.count (routineStem {} isr) = names.count (NamingScheme.phaseName {} isr.2.pwm) ∧
        defined.count (routineStem {} isr) = names.count (NamingScheme.phaseName {} isr.2.pwm) := by
    intro isr hisr
    rw [show declared = _ from declaredRoutines_eq clock [modulator] now,
      show defined = _ from definedRoutines_eq clock [modulator] now]
    exact ⟨count_routineStem hisr, count_routineStem hisr⟩
  refine ⟨hcount, ?_⟩
  rw [List.nodup_iff_count_eq_one, List.forall_mem_map]
  refine forall₂_congr fun isr hisr => ?_
  rw [(hcount isr hisr).1, (hcount isr hisr).2, and_self]

/-- Two phases of one modulator that differ in a fragment. -/
def innerOuter : Modulator :=
  { name := "Buck 1"
    phases :=
      [{ pwm := "PWM_A_INNER", generateIsr := true },
       { pwm := "PWM_A_OUTER", generateIsr := true }] }

theorem phaseName_innerOuter :
    NamingScheme.phaseName {} "PWM_A_INNER" = "A" ∧ NamingScheme.phaseName {} "PWM_A_OUTER" = "A" := by
  have hpwm : "PWM_A_INNER" = "PWM_" ++ "A_INNER" ∧ "PWM_A_OUTER" = "PWM_" ++ "A_OUTER" := by decide
  have htag : NamingScheme.phaseTag {} "PWM_A_INNER" = "A_INNER" := by
    rw [hpwm.1]
    exact phaseTag_marked (by decide +kernel)
  have htag' : NamingScheme.phaseTag {} "PWM_A_OUTER" = "A_OUTER" := by
    rw [hpwm.2]
    exact phaseTag_marked (by decide +kernel)
  simp [NamingScheme.phaseName, htag, htag', remove, removeChars, removeFrom, afterPattern?]

/-- Both routines have the same name. -/
theorem clash_innerOuter :
    (innerOuter.activePhases.map Phase.pwm).Nodup ∧
      declaredRoutines (.fixed ⟨2024, 2, 29, 12, 0, 0, 0⟩) [innerOuter] () =
        ["buck_1_A", "buck_1_A"] ∧
      definedRoutines (.fixed ⟨2024, 2, 29, 12, 0, 0, 0⟩) [innerOuter] () =
        ["buck_1_A", "buck_1_A"] ∧
      ∀ isr ∈ interruptPhases [innerOuter], routineStem {} isr = "buck_1_A" := by
  have hstem : Naming.instanceName "Buck 1" = "buck_1" := by decide +kernel
  have hroutines : (interruptPhases [innerOuter]).map (routineStem {}) = ["buck_1_A", "buck_1_A"] := by
    simp [interruptPhases, innerOuter, routineStem, hstem, phaseName_innerOuter]
  have hall : ∀ isr ∈ interruptPhases [innerOuter], routineStem {} isr = "buck_1_A" := by
    intro isr hisr
    simpa [hroutines] using List.mem_map_of_mem (f := routineStem {}) hisr
  rw [declaredRoutines_eq, definedRoutines_eq, hroutines]
  exact ⟨by decide, rfl, rfl, hall⟩

end FirmwareGen.Modulators
