-- SUMMARY: Only a part of a modulator shows in its driver; edits of the rest change nothing.
import FirmwareGen.Modulators.Generate
import Mathlib.Data.List.Forall2
import Mathlib.Logic.Relation
/-!
# What a driver shows of a modulator

A driver is generated from the name, the frequency and the duty cycle of a modulator and from a part
of each active phase. Modulators that agree in these are generated alike, so that placeholders and
all other fields can be edited without a change to the files.
-/

namespace FirmwareGen

/-! ## Parts that show -/

/-- What a driver shows of an active phase. A trigger of the converter shows only in an interrupt
    service routine. -/
structure ShownPhase where
  pwm : String
  phaseShift : String
  generateIsr : Bool
  triggerAdc : Option Bool
  deriving DecidableEq, Repr

def Phase.shown (phase : Phase) : ShownPhase where
  pwm := phase.pwm
  phaseShift := phase.phaseShift
  generateIsr := phase.generateIsr
  triggerAdc := if phase.generateIsr then some phase.triggerAdc else none

/-- The phase that is preset in all that does not show. -/
def ShownPhase.phase (shown : ShownPhase) : Phase where
  pwm := shown.pwm
  phaseShift := shown.phaseShift
  generateIsr := shown.generateIsr
  triggerAdc := shown.triggerAdc.getD false

namespace Modulator

/-- Two modulators that agree in all that their drivers show. -/
structure Alike (modulator other : Modulator) : Prop where
  name_eq : modulator.name = other.name
  frequency_eq : modulator.frequency = other.frequency
  dutyCycle_eq : modulator.dutyCycle = other.dutyCycle
  phases_eq : modulator.activePhases.map Phase.shown = other.activePhases.map Phase.shown

/-- One edit of a modulator that its driver does not show. -/
inductive Edit : Modulator → Modulator → Prop
  /-- A phase without a PWM resource is put anywhere among the phases. -/
  | placeholder (modulator : Modulator) (front back : List Phase) (phase : Phase)
      (hphases : modulator.phases = front ++ back) (hpwm : phase.pwm = "") :
      Edit modulator { modulator with phases := front ++ phase :: back }
  | settings (modulator : Modulator) (id : UInt32) (deadtime : String) (groupNumber : UInt8)
      (triggerStart triggerStop triggerSwap : String) :
      Edit modulator
        { modulator with id, deadtime, groupNumber, triggerStart, triggerStop, triggerSwap }
  | phase (modulator : Modulator) (front back : List Phase) (phase : Phase)
      (hphases : modulator.phases = front ++ phase :: back) (id : UInt32) (aliasName : String)
      (isrTrigger : IsrTrigger) (adcTrigger : AdcTrigger) (alignment : PwmAlignment)
      (groupNumber : Int32) (isInverted : Bool) :
      Edit modulator
        { modulator with
          phases := front ++
            { phase with
              id, aliasName, isrTrigger, adcTrigger, alignment, groupNumber, isInverted } :: back }

namespace Alike

theorem refl (modulator : Modulator) : modulator.Alike modulator := ⟨rfl, rfl, rfl, rfl⟩

variable {modulator other third : Modulator}

theorem symm (h : modulator.Alike other) : other.Alike modulator :=
  ⟨h.name_eq.symm, h.frequency_eq.symm, h.dutyCycle_eq.symm, h.phases_eq.symm⟩

theorem trans (h : modulator.Alike other) (h' : other.Alike third) : modulator.Alike third :=
  ⟨h.name_eq.trans h'.name_eq, h.frequency_eq.trans h'.frequency_eq,
    h.dutyCycle_eq.trans h'.dutyCycle_eq, h.phases_eq.trans h'.phases_eq⟩

end Alike

theorem Edit.alike {modulator edited : Modulator} (h : Edit modulator edited) :
    modulator.Alike edited := by
  cases h with
  | placeholder front back phase hphases hpwm =>
    refine ⟨rfl, rfl, rfl, ?_⟩
    have hinactive : phase.isActive = false := by simp [Phase.isActive, hpwm]
    simp [activePhases, hphases, hinactive]
  | settings => exact ⟨rfl, rfl, rfl, rfl⟩
  | phase front back phase hphases id aliasName isrTrigger adcTrigger alignment groupNumber
      isInverted =>
    refine ⟨rfl, rfl, rfl, ?_⟩
    simp only [activePhases, hphases, List.filter_append, List.filter_cons, Phase.isActive,
      List.map_append]
    congr 1
    split <;> rfl

/-- Any number of edits, made or undone, leave what shows of a modulator. -/
theorem alike_of_edits {modulator edited : Modulator}
    (h : Relation.EqvGen Edit modulator edited) : modulator.Alike edited := by
  induction h with
  | rel modulator edited hedit => exact hedit.alike
  | refl modulator => exact .refl modulator
  | symm modulator edited _ ih => exact ih.symm
  | trans modulator between edited _ _ hfirst hsecond => exact hfirst.trans hsecond

end Modulator

namespace Modulators

open C

/-! ## Plans of what shows -/

/-- The plan of a phase that is preset in all that does not show. -/
def PhasePlan.bared (plan : PhasePlan) : PhasePlan :=
  { plan with phase := plan.phase.shown.phase }

def DriverPlan.bared (plan : DriverPlan) : DriverPlan :=
  { plan with phases := plan.phases.map PhasePlan.bared }

/-- Modulators that agree in what shows have the same plans, up to what does not show. -/
theorem bared_ofModulator {modulator other : Modulator} (h : modulator.Alike other)
    (scheme : NamingScheme) :
    (DriverPlan.ofModulator scheme modulator).bared =
      (DriverPlan.ofModulator scheme other).bared := by
  have hphases : ∀ (symbol : String) (phases : List Phase),
      (phases.map (PhasePlan.ofPhase scheme symbol)).map PhasePlan.bared =
        (phases.map Phase.shown).map fun shown =>
          (PhasePlan.ofPhase scheme symbol shown.phase) := by
    intro symbol phases
    rw [List.map_map, List.map_map]
    rfl
  simp only [DriverPlan.ofModulator, DriverPlan.bared, hphases, h.name_eq, h.frequency_eq,
    h.dutyCycle_eq, h.phases_eq]

namespace DriverPlan

variable (plan : DriverPlan)

theorem isrPhases_bared : plan.bared.isrPhases = plan.isrPhases.map PhasePlan.bared := by
  rw [isrPhases, isrPhases, bared, List.filter_map]
  rfl

theorem prototypes_bared : plan.bared.prototypes = plan.prototypes := by
  rw [prototypes, isrPhases_bared, List.map_map]
  rfl

theorem adcDefinitions_bared : plan.bared.adcDefinitions = plan.adcDefinitions := by
  rw [adcDefinitions, adcDefinitions, bared, List.flatMap_map]
  rfl

theorem initFunction_bared : plan.bared.initFunction = plan.initFunction := by
  have hsetups : ∀ input, plan.bared.triggerSetups input = plan.triggerSetups input := by
    intro input
    rw [triggerSetups, triggerSetups, bared, List.map_map]
    rfl
  have hcounters : plan.bared.phases.flatMap counterSetup = plan.phases.flatMap counterSetup := by
    rw [bared, List.flatMap_map]
    rfl
  simp only [initFunction, initBody, hsetups, hcounters]
  rfl

theorem controlFunctions_bared : plan.bared.controlFunctions = plan.controlFunctions := by
  have hrefresh : plan.bared.dutyRefresh = plan.dutyRefresh := by
    simp only [dutyRefresh, bared]
    cases plan.phases <;> rfl
  have hperiods : plan.bared.phases.map plan.bared.periodUpdate =
      plan.phases.map plan.periodUpdate := by
    rw [bared, List.map_map]
    rfl
  have hcases : plan.bared.phases.map plan.bared.dutyCase = plan.phases.map plan.dutyCase := by
    rw [bared, List.map_map]
    rfl
  have hdeadtimes : ∀ deadtime, plan.bared.phases.map (deadtimeUpdate deadtime) =
      plan.phases.map (deadtimeUpdate deadtime) := by
    intro deadtime
    rw [bared, List.map_map]
    rfl
  simp only [controlFunctions, setFswBody, setDutyBody, deadtimeFunction, hrefresh, hperiods, hcases,
    hdeadtimes]
  rfl

/-- Where there is a routine, the trigger of the converter shows. -/
theorem controllerFunction_bared {phase : PhasePlan} (h : phase ∈ plan.isrPhases) :
    plan.bared.controllerFunction phase.bared = plan.controllerFunction phase := by
  have htrigger : phase.bared.phase.triggerAdc = phase.phase.triggerAdc := by
    have hroutine : phase.phase.generateIsr = true := (List.mem_filter.1 h).2
    simp [PhasePlan.bared, Phase.shown, ShownPhase.phase, hroutine]
  have hclear : dmaClear phase.bared = dmaClear phase := by
    rw [dmaClear, dmaClear, htrigger]
    rfl
  simp only [controllerFunction, controllerBody, hclear]
  rfl

theorem interruptHandlers_bared : plan.bared.interruptHandlers = plan.interruptHandlers := by
  have hroutines : plan.bared.isrPhases.flatMap plan.bared.controllerFunction =
      plan.isrPhases.flatMap plan.controllerFunction := by
    rw [isrPhases_bared, List.flatMap_map]
    exact List.flatMap_congr fun phase hphase => plan.controllerFunction_bared hphase
  have hremarks : plan.bared.phases.flatMap phaseShiftRemark =
      plan.phases.flatMap phaseShiftRemark := by
    rw [bared, List.flatMap_map]
    rfl
  simp only [interruptHandlers, hroutines, hremarks]
  rfl

end DriverPlan

/-! ## Files -/

section Files

variable (base stamp : String) (plans : List DriverPlan)

theorem header_bared : header base stamp (plans.map DriverPlan.bared) = header base stamp plans := by
  have henumerators : ∀ plan : DriverPlan,
      plan.bared.phases.map (·.enumerator) = plan.phases.map (·.enumerator) := by
    intro plan
    rw [DriverPlan.bared, List.map_map]
    rfl
  have hphases : phaseEnum (plans.map DriverPlan.bared) = phaseEnum plans := by
    simp only [phaseEnum, phaseEnumerators, List.flatMap_map, henumerators]
  simp only [header, headerSections, List.flatMap_map, hphases, DriverPlan.adcDefinitions_bared,
    DriverPlan.prototypes_bared]
  rfl

theorem source_bared : source base stamp (plans.map DriverPlan.bared) = source base stamp plans := by
  simp only [source, sourceSections, List.flatMap_map, DriverPlan.initFunction_bared,
    DriverPlan.controlFunctions_bared, DriverPlan.interruptHandlers_bared]
  rfl

end Files

section Generate

variable {ρ : Type} {modulators others : List Modulator}

theorem baseFileName_congr (h : List.Forall₂ Modulator.Alike modulators others)
    (fallback : String) :
    Naming.baseFileName fallback modulators = Naming.baseFileName fallback others := by
  cases h with
  | nil => rfl
  | cons hfirst _ => rw [Naming.baseFileName, Naming.baseFileName, hfirst.name_eq]

/-- Modulators that agree in what shows are generated alike. -/
theorem generate_eq_of_alike (h : List.Forall₂ Modulator.Alike modulators others)
    (scheme : NamingScheme) (clock : TimeSource ρ) (state : ρ) :
    generate scheme clock modulators state = generate scheme clock others state := by
  have hplans : (modulators.map (DriverPlan.ofModulator scheme)).map DriverPlan.bared =
      (others.map (DriverPlan.ofModulator scheme)).map DriverPlan.bared := by
    rw [List.map_map, List.map_map]
    induction h with
    | nil => rfl
    | cons hfirst _ ih => exact congrArg₂ List.cons (bared_ofModulator hfirst scheme) ih
  have hfiles : ∀ stamp, (Batch.ofModulators scheme modulators).files stamp =
      (Batch.ofModulators scheme others).files stamp := by
    intro stamp
    simp only [Batch.files, Batch.headerPieces, Batch.sourcePieces, Batch.ofModulators,
      baseFileName_congr h]
    rw [← header_bared, ← source_bared, hplans, header_bared, source_bared]
  simp only [generate, hfiles]

end Generate

/-- The files of modulators depend on no more than what shows of these; so they are the same after
    edits of the rest. -/
theorem generate_congr {ρ : Type} (scheme : NamingScheme) (clock : TimeSource ρ) (state : ρ)
    (modulators : List Modulator) :
    (∀ others, List.Forall₂ Modulator.Alike modulators others →
      generate scheme clock modulators state = generate scheme clock others state) ∧
      ∀ edited, List.Forall₂ (Relation.EqvGen Modulator.Edit) modulators edited →
        generate scheme clock modulators state = generate scheme clock edited state := by
  constructor
  · intro others hothers
    exact generate_eq_of_alike hothers scheme clock state
  · intro edited hedited
    apply generate_eq_of_alike
    exact hedited.imp fun _ _ => Modulator.alike_of_edits

/-- Two phases, the first of them with a routine. -/
def bareDriver : Modulator where
  name := "Buck 1"
  phases :=
    [{ pwm := "PWM_A", generateIsr := true, triggerAdc := true }, { pwm := "PWM_B", phaseShift := "90" }]

/-- The same phases behind a placeholder, with settings that do not show. -/
def dressedDriver : Modulator where
  id := 7
  name := "Buck 1"
  deadtime := "20"
  phases :=
    [{ id := 1, generateIsr := true },
     { id := 2, aliasName := "a", pwm := "PWM_A", generateIsr := true, triggerAdc := true,
       alignment := .left },
     { pwm := "PWM_B", phaseShift := "90", triggerAdc := true, groupNumber := -3 }]

theorem generate_congr_dressedDriver :
    List.Forall₂ Modulator.Alike [bareDriver] [dressedDriver] ∧
      generate {} (.fixed ⟨2024, 2, 29, 12, 0, 0, 0⟩) [bareDriver] () =
        generate {} (.fixed ⟨2024, 2, 29, 12, 0, 0, 0⟩) [dressedDriver] () := by
  have halike : bareDriver.Alike dressedDriver := ⟨rfl, rfl, rfl, by decide⟩
  have hlists : List.Forall₂ Modulator.Alike [bareDriver] [dressedDriver] := .cons halike .nil
  exact ⟨hlists, (generate_congr {} _ () [bareDriver]).1 [dressedDriver] hlists⟩

end Modulators

end FirmwareGen
