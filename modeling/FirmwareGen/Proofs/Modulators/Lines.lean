-- SUMMARY: The generated files of modulators are cut into the lines that were laid out.
import FirmwareGen.Proofs.Modulators.Texts
/-!
# Lines of generated drivers

As long as no free text that is emitted has a line feed, no text of a plan has one, and the two
generated files have just the lines of their listings.
-/

namespace FirmwareGen

open Text

/-! ## Free texts -/

/-- The free texts of a modulator that are emitted have no line feeds. -/
structure Modulator.OneLine (modulator : Modulator) : Prop where
  name : Text.OneLine modulator.name
  frequency : Text.OneLine modulator.frequency
  dutyCycle : Text.OneLine modulator.dutyCycle
  pwm : ∀ phase ∈ modulator.phases, Text.OneLine phase.pwm
  phaseShift : ∀ phase ∈ modulator.phases, Text.OneLine phase.phaseShift

theorem Modulator.oneLine_iff {modulator : Modulator} :
    modulator.OneLine ↔ modulator.Within .oneLine := by
  constructor
  · rintro ⟨hname, hfrequency, hduty, hpwm, hshift⟩
    simp only [← Vocabulary.within_oneLine] at hname hfrequency hduty hpwm hshift
    exact ⟨hname, hfrequency, hduty, hpwm, hshift⟩
  · rintro ⟨hname, hfrequency, hduty, hpwm, hshift⟩
    simp only [Vocabulary.within_oneLine] at hname hfrequency hduty hpwm hshift
    exact ⟨hname, hfrequency, hduty, hpwm, hshift⟩

/-- The texts of a scheme that stand in for names have no line feeds. -/
structure NamingScheme.OneLine (scheme : NamingScheme) : Prop where
  fallbackBaseName : Text.OneLine scheme.fallbackBaseName
  fallbackSymbol : Text.OneLine scheme.fallbackSymbol

theorem NamingScheme.oneLine_iff {scheme : NamingScheme} :
    scheme.OneLine ↔ scheme.Within .oneLine := by
  constructor
  · rintro ⟨hbase, hsymbol⟩
    exact ⟨Vocabulary.within_oneLine.2 hbase, Vocabulary.within_oneLine.2 hsymbol⟩
  · rintro ⟨hbase, hsymbol⟩
    exact ⟨Vocabulary.within_oneLine.1 hbase, Vocabulary.within_oneLine.1 hsymbol⟩

theorem NamingScheme.oneLine_preset : NamingScheme.OneLine {} :=
  oneLine_iff.2 (within_preset .oneLine)

theorem oneLine_interleaved : ∀ modulator ∈ interleaved, modulator.OneLine :=
  fun modulator hmodulator => Modulator.oneLine_iff.2 (within_interleaved .oneLine modulator hmodulator)

namespace Modulators

open C

/-! ## Plans -/

/-- The texts of an active phase have no line feeds. -/
structure PhasePlan.OneLine (phase : PhasePlan) : Prop where
  pwm : Text.OneLine phase.pwm
  enumerator : Text.OneLine phase.enumerator
  name : Text.OneLine phase.name
  phaseShift : Text.OneLine phase.phase.phaseShift

/-- The texts of a driver have no line feeds, and its stem has neither capitals nor blanks. -/
structure DriverPlan.Tidy (plan : DriverPlan) : Prop where
  stem_plain : Plain plan.stem
  title : Text.OneLine plan.title
  symbol : Text.OneLine plan.symbol
  stem : Text.OneLine plan.stem
  duty : Text.OneLine plan.duty
  frequency : Text.OneLine plan.frequency
  phases : ∀ phase ∈ plan.phases, phase.OneLine

theorem tidy_ofModulator {scheme : NamingScheme} (hscheme : scheme.OneLine) {modulator : Modulator}
    (h : modulator.OneLine) : (DriverPlan.ofModulator scheme modulator).Tidy := by
  obtain ⟨htitle, hsymbol, hstem, hduty, hfrequency, hphases⟩ :=
    within_ofModulator (NamingScheme.oneLine_iff.1 hscheme) (Modulator.oneLine_iff.1 h)
  simp only [Vocabulary.within_oneLine] at htitle hsymbol hstem hduty hfrequency
  refine ⟨Naming.plain_instanceName _, htitle, hsymbol, hstem, hduty, hfrequency, ?_⟩
  intro phase hphase
  obtain ⟨hpwm, henumerator, hname, hshift⟩ := hphases phase hphase
  simp only [Vocabulary.within_oneLine] at hpwm henumerator hname hshift
  exact ⟨hpwm, henumerator, hname, hshift⟩

/-! ## Generated files -/

section Generated

variable {ρ : Type} {scheme : NamingScheme} {modulators : List Modulator}

theorem tidy_plansOf (hscheme : scheme.OneLine) (h : ∀ modulator ∈ modulators, modulator.OneLine) :
    ∀ plan ∈ plansOf scheme modulators, plan.Tidy := by
  intro plan hplan
  obtain ⟨modulator, hmodulator, rfl⟩ := List.mem_map.1 hplan
  exact tidy_ofModulator hscheme (h modulator hmodulator)

/-- The two files that a call generates, line by line. -/
theorem lines_generate (hscheme : scheme.OneLine)
    (h : ∀ modulator ∈ modulators, modulator.OneLine) (clock : TimeSource ρ) (state : ρ) :
    ∃ base stamp,
      lines (generate scheme clock modulators state).1.header =
        Listing.lines layout (header base stamp (plansOf scheme modulators)) ∧
      lines (generate scheme clock modulators state).1.source =
        Listing.lines layout (source base stamp (plansOf scheme modulators)) ∧
      (generate scheme clock modulators state).1.headerName = base ++ ".h" := by
  have hscheme := NamingScheme.oneLine_iff.1 hscheme
  have hmodulators := fun modulator hmodulator => Modulator.oneLine_iff.1 (h modulator hmodulator)
  have hbase := within_baseFileName hscheme hmodulators
  have hstamp := Vocabulary.within_timestamp .oneLine (clock.read state).1
  have hplans := within_plansOf hscheme hmodulators
  refine ⟨Naming.baseFileName scheme.fallbackBaseName modulators, (clock.read state).1.timestamp,
    ?_, ?_, ?_⟩
  · rw [files_generate, FilePair.header_ofBase]
    exact lines_text layout fun item hitem =>
      item.unbroken_of_within (within_header hbase hstamp hplans item hitem)
  · rw [files_generate, FilePair.source_ofBase]
    exact lines_text layout fun item hitem =>
      item.unbroken_of_within (within_source hbase hstamp hplans item hitem)
  · rw [files_generate, FilePair.headerName_ofBase]

end Generated

end Modulators

end FirmwareGen
