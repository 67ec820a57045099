-- SUMMARY: Every active phase is driven everywhere, once and in order.
import FirmwareGen.Proofs.Modulators.Duty
import FirmwareGen.Proofs.Modulators.Macros
import Mathlib.Data.List.Forall2
/-!
# Coverage of phases

The parts of the generated files that are written phase by phase all go through the phases that have
a PWM resource, in declaration order: none is missing, none is repeated, and no placeholder is among
them. What is said is said of the lines of the files.
-/

namespace FirmwareGen

open Text

/-! ## Names of phases -/

namespace NamingScheme

variable (scheme : NamingScheme) (modulator : Modulator) (phase : Phase)

/-- The enumerator of a phase. -/
def enumerator : String := scheme.symbolStem modulator.name ++ "_" ++ scheme.phaseTag phase.pwm

/-- The macro that reads the current of a phase. -/
def currentMacro : String :=
  scheme.symbolStem modulator.name ++ "_I_" ++ scheme.phaseName phase.pwm

/-- The macro that reads the voltage of the flying capacitor of a phase. -/
def voltageMacro : String :=
  scheme.symbolStem modulator.name ++ "_VFC_" ++ scheme.phaseName phase.pwm

end NamingScheme

namespace Modulators

open C

/-! ## Parts of a source -/

/-- A part of a source that is written phase by phase: the calls of one function, which stand in the
functions of one kind. -/
structure PhasePart where
  /-- How the first lines of these functions end. -/
  ending : String
  callee : String
  /-- How the arguments of the calls end. -/
  back : String
  arguments : Modulator → Phase → String

namespace PhasePart

/-- The arguments of the calls of a part, in order. -/
def read (part : PhasePart) (lines : List String) : List String :=
  (callsOf part.callee lines).filter (endsWith part.back)

/-- A part goes through the active phases of all modulators. -/
structure Covers (part : PhasePart) (modulators : List Modulator) (source : List String) : Prop where
  /-- There is one function for each modulator, with one call for each active phase. -/
  functions : (bodiesOf part.ending source).map part.read =
    modulators.map fun modulator => modulator.activePhases.map (part.arguments modulator)
  /-- The source has no other calls of this kind. -/
  all : part.read source =
    modulators.flatMap fun modulator => modulator.activePhases.map (part.arguments modulator)

/-- The counters are set up. -/
def init : PhasePart where
  ending := "_init(void)"
  callee := "Cy_TCPWM_PWM_Init"
  back := ""
  arguments _ phase := counterArguments phase.pwm ++ ", &" ++ phase.pwm ++ "_config"

def enable : PhasePart where
  ending := "_init(void)"
  callee := "Cy_TCPWM_PWM_Enable"
  back := ""
  arguments _ phase := counterArguments phase.pwm

/-- An input of the counters is set up for a trigger line. -/
def input (name line : String) : PhasePart where
  ending := "_init(void)"
  callee := "Cy_TCPWM_InputTriggerSetup"
  back := triggerSource name line
  arguments _ phase := counterArguments phase.pwm ++ triggerSource name line

def period : PhasePart where
  ending := "_setFsw(uint32_t fsw)"
  callee := "Cy_TCPWM_PWM_SetPeriod1"
  back := ""
  arguments modulator phase := counterArguments phase.pwm ++ ", " ++
    phaseMember (Naming.instanceName modulator.name) "period"

def compare : PhasePart where
  ending := "_setDuty(modulator_phase_t phase, float duty)"
  callee := "Cy_TCPWM_PWM_SetCompare0BufVal"
  back := ""
  arguments modulator phase := counterArguments phase.pwm ++ ", compare + " ++
    phaseMember (Naming.instanceName modulator.name) "compareValueOffset"

def deadtimePos : PhasePart where
  ending := "_setDeadtimePos(uint32_t deadtime)"
  callee := "Cy_TCPWM_PWM_PWMDeadTime"
  back := ""
  arguments _ phase := counterArguments phase.pwm ++ ", deadtime"

def deadtimeNeg : PhasePart where
  ending := "_setDeadtimeNeg(uint32_t deadtime)"
  callee := "Cy_TCPWM_PWM_PWMDeadTimeN"
  back := ""
  arguments _ phase := counterArguments phase.pwm ++ ", deadtime"

end PhasePart

/-- The parts of a source that are written phase by phase. -/
def phaseParts : List PhasePart :=
  [.init, .enable, .input "CY_TCPWM_INPUT_TR_STOP_OR_KILL" "(5)",
   .input "CY_TCPWM_INPUT_TR_INDEX_OR_SWAP" "(6)", .input "CY_TCPWM_INPUT_TR_START" "(4)",
   .period, .compare, .deadtimePos, .deadtimeNeg]

/-- Two files that drive every active phase of some modulators, once and in order. -/
structure Covered (scheme : NamingScheme) (modulators : List Modulator)
    (header source : List String) : Prop where
  parts : ∀ part ∈ phaseParts, part.Covers modulators source
  /-- The case blocks of the duty functions. -/
  cases : (bodiesOf "_setDuty(modulator_phase_t phase, float duty)" source).map
      (fun body => (arms body).map Arm.label) =
    modulators.map fun modulator => modulator.activePhases.map (scheme.enumerator modulator)
  currents : header.filterMap (between? "#define " ".ADC_res[0])") =
    modulators.flatMap fun modulator => modulator.activePhases.map fun phase =>
      scheme.currentMacro modulator phase ++ " (" ++
        Naming.instanceName modulator.name ++ "_config." ++ Naming.instanceName modulator.name
  voltages : header.filterMap (between? "#define " ".ADC_res[1])") =
    modulators.flatMap fun modulator => modulator.activePhases.map fun phase =>
      scheme.voltageMacro modulator phase ++ " (" ++
        Naming.instanceName modulator.name ++ "_config." ++ Naming.instanceName modulator.name
  /-- The duty function is called on the first active phase when the frequency is set, and the duty
  function of no other modulator is. -/
  refresh : List.Forall₂
    (fun modulator body => ∀ name, callsOf (Naming.instanceName name ++ "_setDuty") body =
      if Naming.instanceName name = Naming.instanceName modulator.name then
        modulator.activePhases.head?.toList.map fun phase =>
          scheme.enumerator modulator phase ++ ", " ++
            phaseMember (Naming.instanceName modulator.name) "duty"
      else [])
    modulators (bodiesOf "_setFsw(uint32_t fsw)" source)

/-! ## Calls of parts -/

section Parts

variable {base stamp : String} {scheme : NamingScheme} {modulators : List Modulator}

/-- A part that is written once for each driver, by a kind of function that alone calls its
function. -/
theorem PhasePart.covers {part : PhasePart} (role : Role) (hending : part.ending = role.ending)
    (hrole : role ≠ .controller) {cs : List Char} (hname : part.callee = String.ofList ('C' :: cs))
    (hcallee : Callable part.callee) (hmem : part.callee ∈ role.callees)
    (hne : part.callee ≠ "Cy_TrigMux_SwTrigger")
    (hcalls : ∀ modulator, (DriverPlan.ofModulator scheme modulator).Tidy →
      (((DriverPlan.ofModulator scheme modulator).calls role).filterMap
        (select part.callee)).filter (endsWith part.back) =
          modulator.activePhases.map (part.arguments modulator))
    (h : ∀ plan ∈ plansOf scheme modulators, plan.Tidy) :
    part.Covers modulators
      (Listing.lines layout (source base stamp (plansOf scheme modulators))) := by
  have hplans : ∀ modulator ∈ modulators, (DriverPlan.ofModulator scheme modulator).Tidy :=
    fun modulator hmem => h _ (List.mem_map.2 ⟨modulator, hmem, rfl⟩)
  constructor
  · have hread : part.read = List.filter (endsWith part.back) ∘ callsOf part.callee := rfl
    rw [hending, hread, ← List.map_map, callsOf_bodies_of_ne hcallee h hrole, List.map_map, plansOf,
      List.map_map]
    exact List.map_congr_left fun modulator hmem => hcalls modulator (hplans modulator hmem)
  · have hnone : ∀ plan : DriverPlan, plan.Tidy → ∀ other, other ≠ role →
        (plan.calls other).filterMap (select part.callee) = [] := by
      intro plan hplan other hother
      have hothers : part.callee ∉ other.callees := fun h =>
        hother (Role.eq_of_mem_callees hne hmem h)
      rw [hname] at hothers ⊢
      exact hplan.filterMap_select_of_not_mem hothers
    rw [PhasePart.read, callsOf_source_of_role hcallee h hnone, List.filter_flatMap, plansOf,
      List.flatMap_map]
    exact List.flatMap_congr fun modulator hmem => hcalls modulator (hplans modulator hmem)

theorem endsWith_empty (text : String) : endsWith "" text = true := by
  simp [endsWith]

theorem filter_endsWith_empty (texts : List String) : texts.filter (endsWith "") = texts :=
  List.filter_eq_self.2 fun text _ => endsWith_empty text

/-- The active phases of a modulator are those of its plan. -/
theorem phases_ofModulator {α : Type} (f : PhasePlan → α) (modulator : Modulator) :
    (DriverPlan.ofModulator scheme modulator).phases.map f =
      modulator.activePhases.map fun phase =>
        f (PhasePlan.ofPhase scheme (scheme.symbolStem modulator.name) phase) := by
  rw [DriverPlan.ofModulator, List.map_map]
  rfl

/-- The calls that set up one input are those that end with its trigger line. -/
theorem filter_triggerSource_self (name line : String) (phases : List PhasePlan) :
    (phases.map fun phase => counterArguments phase.pwm ++ triggerSource name line).filter
        (endsWith (triggerSource name line)) =
      phases.map fun phase => counterArguments phase.pwm ++ triggerSource name line := by
  rw [List.filter_eq_self]
  intro text htext
  obtain ⟨phase, -, rfl⟩ := List.mem_map.1 htext
  exact endsWith_append_self _ _

theorem filter_triggerSource_of_ne {xs ys : List Char} (hlength : xs.length = ys.length)
    (hne : xs ≠ ys) (name other : String) (phases : List PhasePlan) :
    (phases.map fun phase => counterArguments phase.pwm ++
        triggerSource other (String.ofList ys)).filter
          (endsWith (triggerSource name (String.ofList xs))) = [] := by
  rw [List.filter_eq_nil_iff]
  intro text htext
  obtain ⟨phase, -, rfl⟩ := List.mem_map.1 htext
  have hend : counterArguments phase.pwm ++ triggerSource other (String.ofList ys) =
      counterArguments phase.pwm ++
        (", " ++ other ++ ", CY_TCPWM_INPUT_RISINGEDGE, CY_TCPWM_INPUT_TRIG") ++
          String.ofList ys := by
    rw [triggerSource, ← String.append_assoc]
  rw [hend, triggerSource, endsWith_append_ofList hlength hne]
  decide

theorem arguments_inputs :
    killInput.arguments = triggerSource "CY_TCPWM_INPUT_TR_STOP_OR_KILL" "(5)" ∧
      swapInput.arguments = triggerSource "CY_TCPWM_INPUT_TR_INDEX_OR_SWAP" "(6)" ∧
      startInput.arguments = triggerSource "CY_TCPWM_INPUT_TR_START" "(4)" := by
  have hkill : "(" ++ toString 5 ++ ")" = "(5)" := by decide
  have hswap : "(" ++ toString 6 ++ ")" = "(6)" := by decide
  have hstart : "(" ++ toString 4 ++ ")" = "(4)" := by decide
  simp only [TriggerInput.arguments, killInput, swapInput, startInput, hkill, hswap, hstart,
    and_self]

/-- The inputs of the counters are set up one by one, each for all active phases. -/
theorem covers_inputs (base stamp : String) (h : ∀ plan ∈ plansOf scheme modulators, plan.Tidy) :
    ∀ part ∈ [PhasePart.input "CY_TCPWM_INPUT_TR_STOP_OR_KILL" "(5)",
      .input "CY_TCPWM_INPUT_TR_INDEX_OR_SWAP" "(6)", .input "CY_TCPWM_INPUT_TR_START" "(4)"],
      part.Covers modulators
        (Listing.lines layout (source base stamp (plansOf scheme modulators))) := by
  have hmem : "Cy_TCPWM_InputTriggerSetup" ∈ Role.init.callees := by decide
  obtain ⟨hkill, hswap, hstart⟩ := arguments_inputs
  have hcalls : ∀ plan : DriverPlan, plan.Tidy →
      (plan.calls .init).filterMap (select "Cy_TCPWM_InputTriggerSetup") =
        (plan.phases.map fun phase => counterArguments phase.pwm ++
          triggerSource "CY_TCPWM_INPUT_TR_STOP_OR_KILL" "(5)") ++
        (plan.phases.map fun phase => counterArguments phase.pwm ++
          triggerSource "CY_TCPWM_INPUT_TR_INDEX_OR_SWAP" "(6)") ++
        (plan.phases.map fun phase => counterArguments phase.pwm ++
          triggerSource "CY_TCPWM_INPUT_TR_START" "(4)") := by
    intro plan hplan
    rw [hplan.select_inputs]
    simp only [List.flatMap_cons, List.flatMap_nil, List.append_nil, List.append_assoc, hkill,
      hswap, hstart]
  simp only [List.forall_mem_cons]
  refine ⟨?_, ?_, ?_, List.forall_mem_nil _⟩ <;>
    refine PhasePart.covers .init rfl (by simp) rfl (callable_ofList rfl rfl) hmem (by decide) ?_ h <;>
    intro modulator hplan <;>
    simp only [PhasePart.input, hcalls _ hplan, List.filter_append, filter_triggerSource_self]
  · rw [filter_triggerSource_of_ne (by rfl) (by decide),
      filter_triggerSource_of_ne (by rfl) (by decide),
      List.append_nil, List.append_nil]
    exact phases_ofModulator _ modulator
  · rw [filter_triggerSource_of_ne (by rfl) (by decide),
      filter_triggerSource_of_ne (by rfl) (by decide),
      List.append_nil, List.nil_append]
    exact phases_ofModulator _ modulator
  · rw [filter_triggerSource_of_ne (by rfl) (by decide),
      filter_triggerSource_of_ne (by rfl) (by decide),
      List.nil_append]
    exact phases_ofModulator _ modulator

/-- A part whose arguments are not told by their ends. -/
theorem covers_of_select {part : PhasePart} (role : Role) (hending : part.ending = role.ending)
    (hrole : role ≠ .controller) (hback : part.back = "") {cs : List Char}
    (hname : part.callee = String.ofList ('C' :: cs)) (hcallee : Callable part.callee)
    (hmem : part.callee ∈ role.callees) (hne : part.callee ≠ "Cy_TrigMux_SwTrigger")
    (hcalls : ∀ modulator, (DriverPlan.ofModulator scheme modulator).Tidy →
      ((DriverPlan.ofModulator scheme modulator).calls role).filterMap (select part.callee) =
        modulator.activePhases.map (part.arguments modulator))
    (h : ∀ plan ∈ plansOf scheme modulators, plan.Tidy) :
    part.Covers modulators
      (Listing.lines layout (source base stamp (plansOf scheme modulators))) := by
  refine PhasePart.covers role hending hrole hname hcallee hmem hne ?_ h
  intro modulator hplan
  rw [hback, filter_endsWith_empty]
  exact hcalls modulator hplan

/-- Every part goes through all active phases. -/
theorem covers_phaseParts (h : ∀ plan ∈ plansOf scheme modulators, plan.Tidy) :
    ∀ part ∈ phaseParts, part.Covers modulators
      (Listing.lines layout (source base stamp (plansOf scheme modulators))) := by
  have hinputs := covers_inputs base stamp h
  simp only [List.forall_mem_cons] at hinputs
  obtain ⟨hkill, hswap, hstart, -⟩ := hinputs
  simp only [phaseParts, List.forall_mem_cons]
  refine ⟨?_, ?_, hkill, hswap, hstart, ?_, ?_, ?_, ?_, List.forall_mem_nil _⟩
  · exact covers_of_select .init rfl (by simp) rfl rfl (callable_ofList rfl rfl) (by decide)
      (by decide) (fun modulator hplan => hplan.select_init.trans (phases_ofModulator _ modulator)) h
  · exact covers_of_select .init rfl (by simp) rfl rfl (callable_ofList rfl rfl) (by decide)
      (by decide) (fun modulator hplan => hplan.select_enable.trans (phases_ofModulator _ modulator)) h
  · exact covers_of_select .setFsw rfl (by simp) rfl rfl (callable_ofList rfl rfl) (by decide)
      (by decide) (fun modulator hplan => hplan.select_setFsw.trans (phases_ofModulator _ modulator)) h
  · exact covers_of_select .setDuty rfl (by simp) rfl rfl (callable_ofList rfl rfl) (by decide)
      (by decide)
      (fun modulator _ => (DriverPlan.select_setDuty _).trans (phases_ofModulator _ modulator)) h
  · refine covers_of_select .setDeadtimePos rfl (by simp) rfl rfl (callable_ofList rfl rfl)
      (by decide) (by decide) (fun modulator _ => ?_) h
    rw [DriverPlan.calls_setDeadtimePos]
    exact (filterMap_select_map _ _ _).trans (phases_ofModulator _ modulator)
  · refine covers_of_select .setDeadtimeNeg rfl (by simp) rfl rfl (callable_ofList rfl rfl)
      (by decide) (by decide) (fun modulator _ => ?_) h
    rw [DriverPlan.calls_setDeadtimeNeg]
    exact (filterMap_select_map _ _ _).trans (phases_ofModulator _ modulator)

/-- The labels of the duty functions are the enumerators of the active phases. -/
theorem labels_source :
    (bodiesOf Role.setDuty.ending
        (Listing.lines layout (source base stamp (plansOf scheme modulators)))).map
          (fun body => (arms body).map Arm.label) =
      modulators.map fun modulator => modulator.activePhases.map (scheme.enumerator modulator) := by
  rw [bodiesOf_source_of_singleton (fun _ => rfl), List.map_map, plansOf, List.map_map]
  refine List.map_congr_left fun modulator _ => ?_
  simp only [Function.comp_apply, DriverPlan.arms_setDutyBody, List.map_map]
  exact phases_ofModulator _ modulator

/-- What a function that sets the frequency calls of the duty functions. -/
theorem callsOf_setFswBody {plan : DriverPlan} (h : plan.Tidy) (name : String) :
    callsOf (Naming.instanceName name ++ "_setDuty")
        (plan.setFswBody.flatMap (Statement.lines layout)) =
      if Naming.instanceName name = plan.stem then
        plan.phases.head?.toList.map fun first =>
          first.enumerator ++ ", " ++ phaseMember plan.stem "duty"
      else [] := by
  have hplain := Naming.plain_instanceName name
  have hcallee : Callable (Naming.instanceName name ++ "_setDuty") :=
    callable_plain_append hplain (callable_ofList rfl rfl)
  have hperiod : "Cy_TCPWM_PWM_SetPeriod1" ≠ Naming.instanceName name ++ "_setDuty" :=
    (plain_append_ne_ofList hplain (by decide)).symm
  have hname : plan.function "setDuty" = plan.stem ++ "_setDuty" := by
    simp [DriverPlan.function, String.append_assoc]
  have hcalls : plan.setFswBody.flatMap Statement.calls = plan.calls .setFsw := by
    rw [DriverPlan.calls, DriverPlan.bodies, List.flatMap_singleton]
  rw [callsOf_body hcallee h.tame_setFswBody, hcalls, DriverPlan.calls_setFsw,
    List.filterMap_append, filterMap_select_map_of_ne hperiod, List.nil_append,
    DriverPlan.refreshCalls, hname]
  split
  · next heq => rw [heq, filterMap_select_map]
  · next hne =>
    refine filterMap_select_map_of_ne (fun heq => hne ?_) _ _
    exact (String.append_left_inj _).1 heq.symm

/-- The frequency functions refresh the duty cycle on their first active phases. -/
theorem refresh_source (h : ∀ plan ∈ plansOf scheme modulators, plan.Tidy) :
    List.Forall₂
      (fun modulator body => ∀ name, callsOf (Naming.instanceName name ++ "_setDuty") body =
        if Naming.instanceName name = Naming.instanceName modulator.name then
          modulator.activePhases.head?.toList.map fun phase =>
            scheme.enumerator modulator phase ++ ", " ++
              phaseMember (Naming.instanceName modulator.name) "duty"
        else [])
      modulators
      (bodiesOf Role.setFsw.ending
        (Listing.lines layout (source base stamp (plansOf scheme modulators)))) := by
  rw [bodiesOf_source_of_singleton (fun _ => rfl), plansOf, List.map_map,
    List.forall₂_map_right_iff, List.forall₂_same]
  intro modulator hmodulator name
  have hplan : (DriverPlan.ofModulator scheme modulator).Tidy :=
    h _ (List.mem_map.2 ⟨modulator, hmodulator, rfl⟩)
  have hfirst : (DriverPlan.ofModulator scheme modulator).phases.head? =
      modulator.activePhases.head?.map
        (PhasePlan.ofPhase scheme (scheme.symbolStem modulator.name)) := List.head?_map
  rw [Function.comp_apply, callsOf_setFswBody hplan, hfirst, Option.toList_map, List.map_map]
  rfl

/-- The macros of the currents and of the voltages go through all active phases. -/
theorem conversions_header :
    (Listing.lines layout (header base stamp (plansOf scheme modulators))).filterMap
        (between? "#define " ".ADC_res[0])") =
      (modulators.flatMap fun modulator => modulator.activePhases.map fun phase =>
        scheme.currentMacro modulator phase ++ " (" ++
          Naming.instanceName modulator.name ++ "_config." ++ Naming.instanceName modulator.name) ∧
    (Listing.lines layout (header base stamp (plansOf scheme modulators))).filterMap
        (between? "#define " ".ADC_res[1])") =
      modulators.flatMap fun modulator => modulator.activePhases.map fun phase =>
        scheme.voltageMacro modulator phase ++ " (" ++
          Naming.instanceName modulator.name ++ "_config." ++ Naming.instanceName modulator.name := by
  have hresults : ∀ (modulator : Modulator) (text : String),
      text ++ " (" ++ (DriverPlan.ofModulator scheme modulator).results =
        text ++ " (" ++ Naming.instanceName modulator.name ++ "_config." ++
          Naming.instanceName modulator.name := by
    intro modulator text
    simp only [DriverPlan.results, DriverPlan.ofModulator, String.append_assoc]
  constructor
  · rw [currents_header, plansOf, List.flatMap_map]
    simp only [hresults, phases_ofModulator]
    rfl
  · rw [voltages_header, plansOf, List.flatMap_map]
    simp only [hresults, phases_ofModulator]
    rfl

end Parts

/-- Every active phase is driven by every part of the generated files. -/
theorem covered_generate {ρ : Type} {scheme : NamingScheme} {modulators : List Modulator}
    (hscheme : scheme.OneLine) (h : ∀ modulator ∈ modulators, modulator.OneLine)
    (clock : TimeSource ρ) (state : ρ) :
    Covered scheme modulators (lines (generate scheme clock modulators state).1.header)
      (lines (generate scheme clock modulators state).1.source) := by
  obtain ⟨base, stamp, hheader, hsource, -⟩ := lines_generate hscheme h clock state
  have hplans := tidy_plansOf hscheme h
  rw [hheader, hsource]
  exact
    { parts := covers_phaseParts hplans
      cases := labels_source
      currents := conversions_header.1
      voltages := conversions_header.2
      refresh := refresh_source hplans }

theorem covered_generate_interleaved :
    (NamingScheme.OneLine {} ∧ ∀ modulator ∈ interleaved, modulator.OneLine) ∧
      Covered {} interleaved
        (lines (generate {} (.fixed ⟨2024, 2, 29, 12, 0, 0, 0⟩) interleaved ()).1.header)
        (lines (generate {} (.fixed ⟨2024, 2, 29, 12, 0, 0, 0⟩) interleaved ()).1.source) :=
  ⟨⟨NamingScheme.oneLine_preset, oneLine_interleaved⟩,
    covered_generate NamingScheme.oneLine_preset oneLine_interleaved _ _⟩

end Modulators

end FirmwareGen
