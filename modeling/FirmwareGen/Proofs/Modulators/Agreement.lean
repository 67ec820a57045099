-- SUMMARY: What a source uses is what its header defines.
import FirmwareGen.Proofs.Modulators.Actions
import FirmwareGen.Proofs.Modulators.Declarations
import FirmwareGen.Proofs.Modulators.Interrupts
/-!
# Agreement of header and source

The two files of a call are laid out apart from each other, but the names in them are the same: the
labels, the enumerators, the macros, the constants and the types that the source uses are those that
the header defines, and the source includes that header.
-/

namespace FirmwareGen

open Text

namespace NamingScheme

variable (scheme : NamingScheme) (modulator : Modulator)

def maxDutyMacro : String := scheme.symbolStem modulator.name ++ "_MAX_DUTY"

def minDutyMacro : String := scheme.symbolStem modulator.name ++ "_MIN_DUTY"

/-- The constant for the mode that a modulator starts in. -/
def openLoop : String := scheme.symbolStem modulator.name ++ "_openLoop"

end NamingScheme

namespace Modulators

open C

/-- The labels of the duty functions of a source, in order. -/
def phaseLabels (source : List String) : List String :=
  (bodiesOf "_setDuty(modulator_phase_t phase, float duty)" source).flatMap fun body =>
    (arms body).map Arm.label

/-- Two files that go together. -/
structure Agrees (scheme : NamingScheme) (modulators : List Modulator)
    (header source : List String) (headerName : String) : Prop where
  /-- The labels are the enumerators of the phases, with a comma behind each but the last; if there
  is none, the enumeration is left out. -/
  enumeration : enumerations header =
    if phaseLabels source = [] then []
    else [enumerationBlock (phaseLabels source) "modulator_phase_t"]
  enumerators : declaredEnumerators header = phaseLabels source
  /-- Under each label the compare register of the phase is written that the label is named after. -/
  compares : (bodiesOf "_setDuty(modulator_phase_t phase, float duty)" source).map
      (fun body => (arms body).map fun arm =>
        (arm.label, callsOf "Cy_TCPWM_PWM_SetCompare0BufVal" arm.body)) =
    modulators.map fun modulator => modulator.activePhases.map fun phase =>
      (scheme.enumerator modulator phase,
        [counterArguments phase.pwm ++ ", compare + " ++
          phaseMember (Naming.instanceName modulator.name) "compareValueOffset"])
  /-- A duty function is given a declared phase, if it is not given that of the caller. -/
  duties : ∀ name, ∀ arguments ∈ callsOf (Naming.instanceName name ++ "_setDuty") source,
    arguments = "phase, duty" ∨ ∃ enumerator ∈ declaredEnumerators header,
      arguments = enumerator ++ ", " ++ phaseMember (Naming.instanceName name) "duty"
  controllers : ∀ name,
    ∀ arguments ∈ callsOf (Naming.instanceName name ++ "_CurrentController") source,
      ∃ enumerator ∈ declaredEnumerators header, arguments = enumerator ++ ", err"
  /-- The macros that the interrupt service routines read. -/
  currents : ∀ body ∈ bodiesOf "_Controller(void)" source, ∀ name,
    ∀ macroName ∈ body.filterMap (filtered? (Naming.instanceName name)),
      ∃ value, "#define " ++ macroName ++ " " ++ value ∈ header
  /-- The macros that the duty functions keep the duty cycle between. -/
  limits : (bodiesOf "_setDuty(modulator_phase_t phase, float duty)" source).map
      (List.filterMap DriverPlan.limit?) =
    modulators.map fun modulator =>
      [scheme.maxDutyMacro modulator, scheme.maxDutyMacro modulator,
       scheme.minDutyMacro modulator, scheme.minDutyMacro modulator]
  limitMacros : ∀ modulator ∈ modulators,
    "#define " ++ scheme.maxDutyMacro modulator ++ " 0.97f" ∈ header ∧
      "#define " ++ scheme.minDutyMacro modulator ++ " 0.03f" ∈ header
  /-- The constants that the modes are set to. -/
  modes : ∀ name, callsOf (Naming.instanceName name ++ "_setMode") source =
    (modulators.filter fun modulator =>
      Naming.instanceName name = Naming.instanceName modulator.name).map scheme.openLoop
  modeConstants : ∀ modulator ∈ modulators,
    "typedef enum \x7b" ++ scheme.symbolStem modulator.name ++ "_disabled, " ++
      scheme.openLoop modulator ++ ", " ++ scheme.symbolStem modulator.name ++ "_currentControl\x7d " ++
        scheme.symbolStem modulator.name ++ "_mode_t;" ∈ header
  /-- The configuration objects, with their types in front. -/
  objects : source.filterMap configured? = modulators.map fun modulator =>
    Naming.instanceName modulator.name ++ "_config_t " ++ Naming.instanceName modulator.name ++
      "_config"
  objectTypes : ∀ modulator ∈ modulators, ∃ body,
    { head := "typedef struct " ++ Naming.instanceName modulator.name ++ "_config_t", body,
      tail := "\x7d " ++ Naming.instanceName modulator.name ++ "_config_t;" } ∈ blocks header
  included : source.filterMap (between? "#include \"" "\"") = [headerName]

section Files

variable {base stamp : String} {scheme : NamingScheme} {modulators : List Modulator}

/-! ## Phases -/

/-- The labels of the duty functions are the enumerators of the phases. -/
theorem phaseLabels_source :
    phaseLabels (Listing.lines layout (source base stamp (plansOf scheme modulators))) =
      phaseEnumerators (plansOf scheme modulators) := by
  have hbodies : ∀ plan : DriverPlan,
      (arms (plan.setDutyBody.flatMap (Statement.lines layout))).map Arm.label =
        plan.phases.map (·.enumerator) := by
    intro plan
    rw [DriverPlan.arms_setDutyBody, List.map_map]
    rfl
  have hending : "_setDuty(modulator_phase_t phase, float duty)" = Role.setDuty.ending := rfl
  rw [phaseLabels, hending, bodiesOf_source_of_singleton (fun _ => rfl), List.flatMap_map,
    phaseEnumerators]
  simp only [hbodies]

theorem compares_source (h : ∀ plan ∈ plansOf scheme modulators, plan.Tidy) :
    (bodiesOf Role.setDuty.ending
        (Listing.lines layout (source base stamp (plansOf scheme modulators)))).map
          (fun body => (arms body).map fun arm =>
            (arm.label, callsOf "Cy_TCPWM_PWM_SetCompare0BufVal" arm.body)) =
      modulators.map fun modulator => modulator.activePhases.map fun phase =>
        (scheme.enumerator modulator phase,
          [counterArguments phase.pwm ++ ", compare + " ++
            phaseMember (Naming.instanceName modulator.name) "compareValueOffset"]) := by
  rw [bodiesOf_source_of_singleton (fun _ => rfl), List.map_map, plansOf, List.map_map]
  refine List.map_congr_left fun modulator hmodulator => ?_
  have hplan : (DriverPlan.ofModulator scheme modulator).Tidy :=
    h _ (List.mem_map.2 ⟨modulator, hmodulator, rfl⟩)
  simp only [Function.comp_apply, DriverPlan.arms_setDutyBody, List.map_map,
    DriverPlan.arm_dutyCase, Function.comp_def, hplan.callsOf_dutySteps]
  exact phases_ofModulator _ modulator

section Plans

variable {plans : List DriverPlan}

theorem enumerator_mem {plan : DriverPlan} (hplan : plan ∈ plans) {phase : PhasePlan}
    (hphase : phase ∈ plan.phases) :
    phase.enumerator ∈ declaredEnumerators (Listing.lines layout (header base stamp plans)) := by
  rw [declaredEnumerators_header]
  exact List.mem_flatMap.2 ⟨plan, hplan, List.mem_map.2 ⟨phase, hphase, rfl⟩⟩

theorem duties_source (h : ∀ plan ∈ plans, plan.Tidy) (name : String) :
    ∀ arguments ∈ callsOf (Naming.instanceName name ++ "_setDuty")
        (Listing.lines layout (source base stamp plans)),
      arguments = "phase, duty" ∨
        ∃ enumerator ∈ declaredEnumerators (Listing.lines layout (header base stamp plans)),
          arguments = enumerator ++ ", " ++ phaseMember (Naming.instanceName name) "duty" := by
  have hname : Naming.instanceName name ++ "_setDuty" =
      Naming.instanceName name ++ "_" ++ "setDuty" := by
    rw [String.append_assoc]
    rfl
  intro arguments hmem
  rw [hname] at hmem
  obtain ⟨plan, hplan, hstem, role, hcall⟩ :=
    exists_driverCall h (by simp [DriverPlan.actions]) hmem
  cases role with
  | setFsw =>
    right
    obtain ⟨first, hfirst, heq⟩ := List.mem_map.1 hcall
    rw [Option.mem_toList] at hfirst
    cases heq
    refine ⟨first.enumerator, enumerator_mem hplan (List.mem_of_mem_head? hfirst), ?_⟩
    rw [hstem]
  | currentController =>
    left
    simpa [DriverPlan.driverCalls] using hcall
  | _ => simp [DriverPlan.driverCalls] at hcall

theorem controllers_source (h : ∀ plan ∈ plans, plan.Tidy) (name : String) :
    ∀ arguments ∈ callsOf (Naming.instanceName name ++ "_CurrentController")
        (Listing.lines layout (source base stamp plans)),
      ∃ enumerator ∈ declaredEnumerators (Listing.lines layout (header base stamp plans)),
        arguments = enumerator ++ ", err" := by
  have hname : Naming.instanceName name ++ "_CurrentController" =
      Naming.instanceName name ++ "_" ++ "CurrentController" := by
    rw [String.append_assoc]
    rfl
  intro arguments hmem
  rw [hname] at hmem
  obtain ⟨plan, hplan, -, role, hcall⟩ :=
    exists_driverCall h (by simp [DriverPlan.actions]) hmem
  cases role with
  | controller =>
    obtain ⟨phase, hphase, heq⟩ := List.mem_map.1 hcall
    cases heq
    exact ⟨phase.enumerator, enumerator_mem hplan (List.mem_filter.1 hphase).1, rfl⟩
  | _ => simp [DriverPlan.driverCalls] at hcall

/-! ## Macros, constants and types -/

theorem currents_source (h : ∀ plan ∈ plans, plan.Tidy) :
    ∀ body ∈ bodiesOf Role.controller.ending (Listing.lines layout (source base stamp plans)),
      ∀ name, ∀ macroName ∈ body.filterMap (filtered? (Naming.instanceName name)),
        ∃ value, "#define " ++ macroName ++ " " ++ value ∈
          Listing.lines layout (header base stamp plans) := by
  intro body hbody name macroName hread
  rw [bodiesOf_source] at hbody
  obtain ⟨statements, hstatements, rfl⟩ := List.mem_map.1 hbody
  obtain ⟨plan, hplan, hmem⟩ := List.mem_flatMap.1 hstatements
  obtain ⟨phase, hphase, rfl⟩ := List.mem_map.1 hmem
  rw [filtered_controllerBody (h plan hplan)] at hread
  split at hread
  · rw [List.mem_singleton] at hread
    have hline : "#define " ++ plan.currentMacro phase ++ " (" ++ plan.results ++ ".ADC_res[0])" ∈
        Listing.lines layout (header base stamp plans) :=
      current_header hplan (List.mem_filter.1 hphase).1
    have hvalue : "#define " ++ macroName ++ " " ++ ("(" ++ plan.results ++ ".ADC_res[0])") =
        "#define " ++ plan.currentMacro phase ++ " (" ++ plan.results ++ ".ADC_res[0])" := by
      simp [hread, ← String.toList_inj]
    exact ⟨_, hvalue ▸ hline⟩
  · cases hread

end Plans

theorem limits_source :
    (bodiesOf Role.setDuty.ending
        (Listing.lines layout (source base stamp (plansOf scheme modulators)))).map
          (List.filterMap DriverPlan.limit?) =
      modulators.map fun modulator =>
        [scheme.maxDutyMacro modulator, scheme.maxDutyMacro modulator,
         scheme.minDutyMacro modulator, scheme.minDutyMacro modulator] := by
  rw [bodiesOf_source_of_singleton (fun _ => rfl), List.map_map, plansOf, List.map_map]
  refine List.map_congr_left fun modulator _ => ?_
  have hmax : (DriverPlan.ofModulator scheme modulator).maxDutyMacro =
      scheme.maxDutyMacro modulator := rfl
  have hmin : (DriverPlan.ofModulator scheme modulator).minDutyMacro =
      scheme.minDutyMacro modulator := rfl
  rw [Function.comp_apply, Function.comp_apply, DriverPlan.limits_setDutyBody, hmax, hmin]

theorem modes_source (h : ∀ plan ∈ plansOf scheme modulators, plan.Tidy) (name : String) :
    callsOf (Naming.instanceName name ++ "_setMode")
        (Listing.lines layout (source base stamp (plansOf scheme modulators))) =
      (modulators.filter fun modulator =>
        Naming.instanceName name = Naming.instanceName modulator.name).map scheme.openLoop := by
  have hstem : ∀ modulator : Modulator, (DriverPlan.ofModulator scheme modulator).stem =
      Naming.instanceName modulator.name := fun _ => rfl
  have hopen : ∀ modulator : Modulator, (DriverPlan.ofModulator scheme modulator).openLoop =
      scheme.openLoop modulator := fun _ => rfl
  rw [callsOf_setMode h, plansOf, List.filter_map, List.map_map]
  simp only [Function.comp_def, hstem, hopen]

theorem limitMacros_header {modulator : Modulator} (hmem : modulator ∈ modulators) :
    "#define " ++ scheme.maxDutyMacro modulator ++ " 0.97f" ∈
        Listing.lines layout (header base stamp (plansOf scheme modulators)) ∧
      "#define " ++ scheme.minDutyMacro modulator ++ " 0.03f" ∈
        Listing.lines layout (header base stamp (plansOf scheme modulators)) := by
  have hplan : DriverPlan.ofModulator scheme modulator ∈ plansOf scheme modulators :=
    List.mem_map.2 ⟨modulator, hmem, rfl⟩
  have hmax : "#define " ++ (DriverPlan.ofModulator scheme modulator).maxDutyMacro ++ " " ++ maxDuty =
      "#define " ++ scheme.maxDutyMacro modulator ++ " 0.97f" := by
    simp [DriverPlan.maxDutyMacro, NamingScheme.maxDutyMacro, DriverPlan.ofModulator, maxDuty,
      ← String.toList_inj]
  have hmin : "#define " ++ (DriverPlan.ofModulator scheme modulator).minDutyMacro ++ " " ++ minDuty =
      "#define " ++ scheme.minDutyMacro modulator ++ " 0.03f" := by
    simp [DriverPlan.minDutyMacro, NamingScheme.minDutyMacro, DriverPlan.ofModulator, minDuty,
      ← String.toList_inj]
  rw [← hmax, ← hmin]
  exact limits_header hplan

theorem modeConstants_header {modulator : Modulator} (hmem : modulator ∈ modulators) :
    "typedef enum \x7b" ++ scheme.symbolStem modulator.name ++ "_disabled, " ++
        scheme.openLoop modulator ++ ", " ++ scheme.symbolStem modulator.name ++
          "_currentControl\x7d " ++ scheme.symbolStem modulator.name ++ "_mode_t;" ∈
      Listing.lines layout (header base stamp (plansOf scheme modulators)) := by
  have hplan : DriverPlan.ofModulator scheme modulator ∈ plansOf scheme modulators :=
    List.mem_map.2 ⟨modulator, hmem, rfl⟩
  have hsymbol : (DriverPlan.ofModulator scheme modulator).symbol =
      scheme.symbolStem modulator.name := rfl
  have hopen : (DriverPlan.ofModulator scheme modulator).openLoop = scheme.openLoop modulator := rfl
  rw [← hsymbol, ← hopen]
  exact modes_header hplan

theorem configTypes_header {modulator : Modulator} (hmem : modulator ∈ modulators) :
    ∃ body,
      { head := "typedef struct " ++ Naming.instanceName modulator.name ++ "_config_t", body,
        tail := "\x7d " ++ Naming.instanceName modulator.name ++ "_config_t;" } ∈
        blocks (Listing.lines layout (header base stamp (plansOf scheme modulators))) := by
  have hplan : DriverPlan.ofModulator scheme modulator ∈ plansOf scheme modulators :=
    List.mem_map.2 ⟨modulator, hmem, rfl⟩
  have htype : (DriverPlan.ofModulator scheme modulator).configType =
      Naming.instanceName modulator.name ++ "_config_t" := rfl
  have hend : "\x7d " ++ (Naming.instanceName modulator.name ++ "_config_t") ++ ";" =
      "\x7d " ++ Naming.instanceName modulator.name ++ "_config_t;" := by
    simp [← String.toList_inj]
  rw [← hend, String.append_assoc, ← htype]
  exact configType_header hplan

theorem objects_source (h : ∀ plan ∈ plansOf scheme modulators, plan.Tidy) :
    (Listing.lines layout (source base stamp (plansOf scheme modulators))).filterMap configured? =
      modulators.map fun modulator =>
        Naming.instanceName modulator.name ++ "_config_t " ++ Naming.instanceName modulator.name ++
          "_config" := by
  rw [configured_source h, plansOf, List.map_map]
  refine List.map_congr_left fun modulator _ => ?_
  simp [DriverPlan.configType, DriverPlan.configObject, DriverPlan.ofModulator, ← String.toList_inj]

/-- What a source uses of modulators is defined in its header. -/
theorem agrees_of_tidy (h : ∀ plan ∈ plansOf scheme modulators, plan.Tidy) :
    Agrees scheme modulators
      (Listing.lines layout (header base stamp (plansOf scheme modulators)))
      (Listing.lines layout (source base stamp (plansOf scheme modulators))) (base ++ ".h") := by
  refine
    { enumeration := ?_
      enumerators := declaredEnumerators_header.trans phaseLabels_source.symm
      compares := compares_source h
      duties := duties_source h
      controllers := controllers_source h
      currents := currents_source h
      limits := limits_source
      limitMacros := fun _ hmem => limitMacros_header hmem
      modes := modes_source h
      modeConstants := fun _ hmem => modeConstants_header hmem
      objects := objects_source h
      objectTypes := fun _ hmem => configTypes_header hmem
      included := included_source }
  rw [phaseLabels_source]
  exact enumerations_header

end Files

/-- The two files of a call go together. -/
theorem agrees_generate {ρ : Type} {scheme : NamingScheme} {modulators : List Modulator}
    (hscheme : scheme.OneLine) (h : ∀ modulator ∈ modulators, modulator.OneLine)
    (clock : TimeSource ρ) (state : ρ) :
    Agrees scheme modulators (lines (generate scheme clock modulators state).1.header)
      (lines (generate scheme clock modulators state).1.source)
      (generate scheme clock modulators state).1.headerName := by
  obtain ⟨base, stamp, hheader, hsource, hname⟩ := lines_generate hscheme h clock state
  rw [hheader, hsource, hname]
  exact agrees_of_tidy (tidy_plansOf hscheme h)

theorem agrees_generate_interleaved :
    (NamingScheme.OneLine {} ∧ ∀ modulator ∈ interleaved, modulator.OneLine) ∧
      Agrees {} interleaved
        (lines (generate {} (.fixed ⟨2024, 2, 29, 12, 0, 0, 0⟩) interleaved ()).1.header)
        (lines (generate {} (.fixed ⟨2024, 2, 29, 12, 0, 0, 0⟩) interleaved ()).1.source)
        (generate {} (.fixed ⟨2024, 2, 29, 12, 0, 0, 0⟩) interleaved ()).1.headerName :=
  ⟨⟨NamingScheme.oneLine_preset, oneLine_interleaved⟩,
    agrees_generate NamingScheme.oneLine_preset oneLine_interleaved _ _⟩

end Modulators

end FirmwareGen
