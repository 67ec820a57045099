-- SUMMARY: The listings of modulators are made of the vocabulary of their free texts.
import FirmwareGen.Modulators.Generate
import FirmwareGen.Proofs.C.Texts
import FirmwareGen.Proofs.Naming.Stems
/-!
# Texts of generated drivers

The free texts of a design are copied into names, values and comments. Whatever vocabulary they are
made of, all texts of a plan and of the two listings are made of it.
-/

namespace FirmwareGen

open Text

/-! ## Free texts -/

/-- The free texts of a modulator that are emitted are made of a vocabulary. -/
structure Modulator.Within (v : Vocabulary) (modulator : Modulator) : Prop where
  name : Text.Within v.letter modulator.name
  frequency : Text.Within v.letter modulator.frequency
  dutyCycle : Text.Within v.letter modulator.dutyCycle
  pwm : ∀ phase ∈ modulator.phases, Text.Within v.letter phase.pwm
  phaseShift : ∀ phase ∈ modulator.phases, Text.Within v.letter phase.phaseShift

/-- The texts of a scheme that stand in for names are made of a vocabulary. -/
structure NamingScheme.Within (v : Vocabulary) (scheme : NamingScheme) : Prop where
  fallbackBaseName : Text.Within v.letter scheme.fallbackBaseName
  fallbackSymbol : Text.Within v.letter scheme.fallbackSymbol

theorem NamingScheme.within_preset (v : Vocabulary) : NamingScheme.Within v {} :=
  ⟨v.fixed rfl, v.fixed rfl⟩

/-- Two modulators, with placeholders in front of and between the phases that are driven. -/
def interleaved : List Modulator :=
  [{ name := "Boost Leg"
     phases :=
      [{ generateIsr := true, triggerAdc := true },
       { pwm := "PWM_A_INNER", generateIsr := true, triggerAdc := true },
       { pwm := "PWM_A_OUTER", phaseShift := "90" }] },
   { name := "Idle", phases := [{ triggerAdc := true }] },
   { name := "buck", frequency := "100e3"
     phases :=
      [{ pwm := "PWM_B" }, {}, { pwm := "PWM_C", generateIsr := true }] }]

theorem within_interleaved (v : Vocabulary) : ∀ modulator ∈ interleaved, modulator.Within v := by
  have hphase : ∀ modulator ∈ interleaved, ∀ phase ∈ modulator.phases,
      Text.Within v.letter phase.pwm ∧ Text.Within v.letter phase.phaseShift := by
    simp [interleaved]
    and_intros <;> exact v.fixed rfl
  have hfields : ∀ modulator ∈ interleaved, Text.Within v.letter modulator.name ∧
      Text.Within v.letter modulator.frequency ∧ Text.Within v.letter modulator.dutyCycle := by
    simp [interleaved]
    and_intros <;> exact v.fixed rfl
  intro modulator hmodulator
  obtain ⟨hname, hfrequency, hduty⟩ := hfields modulator hmodulator
  exact ⟨hname, hfrequency, hduty, fun phase hmem => (hphase modulator hmodulator phase hmem).1,
    fun phase hmem => (hphase modulator hmodulator phase hmem).2⟩

namespace Modulators

open C

variable {v : Vocabulary}

/-! ## Plans -/

theorem toString_text (text : String) : toString text = text := rfl

/-- The texts of an active phase are made of a vocabulary. -/
structure PhasePlan.Within (v : Vocabulary) (phase : PhasePlan) : Prop where
  pwm : Text.Within v.letter phase.pwm
  enumerator : Text.Within v.letter phase.enumerator
  name : Text.Within v.letter phase.name
  phaseShift : Text.Within v.letter phase.phase.phaseShift

/-- The texts of a driver are made of a vocabulary. -/
structure DriverPlan.Within (v : Vocabulary) (plan : DriverPlan) : Prop where
  title : Text.Within v.letter plan.title
  symbol : Text.Within v.letter plan.symbol
  stem : Text.Within v.letter plan.stem
  duty : Text.Within v.letter plan.duty
  frequency : Text.Within v.letter plan.frequency
  phases : ∀ phase ∈ plan.phases, phase.Within v

theorem within_ofModulator {scheme : NamingScheme} (hscheme : scheme.Within v)
    {modulator : Modulator} (h : modulator.Within v) :
    (DriverPlan.ofModulator scheme modulator).Within v := by
  have hsymbol : Text.Within v.letter (scheme.symbolStem modulator.name) :=
    NamingScheme.within_symbolStem hscheme.fallbackSymbol h.name
  refine ⟨h.name, hsymbol, Naming.within_instanceName h.name, ?_, ?_, ?_⟩
  · show Text.Within v.letter (dutyToken modulator.dutyCycle)
    unfold dutyToken
    split
    · exact v.fixed rfl
    · exact within_append.2 ⟨h.dutyCycle, v.fixed rfl⟩
  · show Text.Within v.letter (frequencyToken modulator.frequency)
    unfold frequencyToken
    split
    · exact v.fixed rfl
    · exact h.frequency
  · intro plan hplan
    obtain ⟨phase, hphase, rfl⟩ := List.mem_map.1 hplan
    have hmem : phase ∈ modulator.phases := (List.mem_filter.1 hphase).1
    have hpwm := h.pwm phase hmem
    refine ⟨hpwm, ?_, NamingScheme.within_phaseName hpwm, h.phaseShift phase hmem⟩
    simp [PhasePlan.ofPhase, within_append, hsymbol, NamingScheme.within_phaseTag hpwm]
    exact v.fixed rfl

/-! ## Headers -/

namespace DriverPlan

variable {plan : DriverPlan}

theorem Within.names (h : plan.Within v) :
    Text.Within v.letter plan.modeType ∧ Text.Within v.letter plan.phaseConfigType ∧
      Text.Within v.letter plan.configType ∧ Text.Within v.letter plan.configObject ∧
      Text.Within v.letter plan.maxDutyMacro ∧ Text.Within v.letter plan.minDutyMacro ∧
      Text.Within v.letter plan.openLoop := by
  have hsymbol := h.symbol
  have hstem := h.stem
  simp [modeType, phaseConfigType, configType, configObject, maxDutyMacro, minDutyMacro,
    openLoop, within_append, hsymbol, hstem]
  and_intros <;> exact v.fixed rfl

theorem Within.within_function (h : plan.Within v) {action : String} :
    Text.Within v.letter (plan.function action) ↔ Text.Within v.letter action := by
  have hseparator : Text.Within v.letter "_" := v.fixed rfl
  simp [DriverPlan.function, within_append, h.stem, hseparator]

theorem Within.within_setting (h : plan.Within v) {field : String} :
    (plan.setting field).Within v ↔ Text.Within v.letter field := by
  have hobject : Text.Within v.letter plan.configObject := within_append.2 ⟨h.stem, v.fixed rfl⟩
  simp [setting, config, Expr.Within, hobject]

theorem Within.within_phaseSetting (h : plan.Within v) {field : String} :
    (plan.phaseSetting field).Within v ↔ Text.Within v.letter field := by
  have hobject : Text.Within v.letter plan.configObject := within_append.2 ⟨h.stem, v.fixed rfl⟩
  simp [phaseSetting, phaseState, setting, config, Expr.Within, hobject, h.stem]

theorem Within.macros (h : plan.Within v) {phase : PhasePlan} (hphase : phase.Within v) :
    Text.Within v.letter (plan.currentMacro phase) ∧ Text.Within v.letter (plan.voltageMacro phase) ∧
      Text.Within v.letter (plan.controller phase) := by
  simp [currentMacro, voltageMacro, controller, DriverPlan.function, within_append,
    h.symbol, h.stem, hphase.name]
  and_intros <;> exact v.fixed rfl

theorem Within.isrPhases (h : plan.Within v) : ∀ phase ∈ plan.isrPhases, phase.Within v :=
  fun phase hphase => h.phases phase (List.mem_filter.1 hphase).1

theorem Within.within_signature (h : plan.Within v) {action : String} (haction : Text.Within v.letter action)
    {parameters : List Parameter} (hparameters : ∀ p ∈ parameters, p.Within v) :
    (plan.signature action parameters).Within v :=
  ⟨v.fixed rfl, h.within_function.2 haction, hparameters⟩

theorem Within.within_controllerSignature (h : plan.Within v) {phase : PhasePlan}
    (hphase : phase.Within v) : (plan.controllerSignature phase).Within v :=
  ⟨v.fixed rfl, (h.macros hphase).2.2, List.forall_mem_nil _⟩

theorem Within.within_adcMacros (h : plan.Within v) {phase : PhasePlan} (hphase : phase.Within v) :
    ∀ item ∈ plan.adcMacros phase, item.Within v := by
  obtain ⟨hcurrent, hvoltage, -⟩ := h.macros hphase
  have hsetting : (plan.phaseSetting "ADC_res").Within v := h.within_phaseSetting.2 (v.fixed rfl)
  simp [adcMacros, Item.Within, Expr.Within, hcurrent, hvoltage, hsetting]

theorem Within.within_types (h : plan.Within v) :
    ∀ item ∈ plan.modeEnum ++ plan.dutyLimits ++ plan.phaseStruct ++ plan.configStruct,
      item.Within v := by
  obtain ⟨hmode, hphaseConfig, hconfig, hobject, hmax, hmin, hopen⟩ := h.names
  simp [modeEnum, dutyLimits, phaseStruct, configStruct, Item.Within, Expr.Within,
    within_append, hmode, hphaseConfig, hconfig, hobject, hmax, hmin, hopen, h.title, h.symbol,
    h.stem]
  and_intros <;> exact v.fixed rfl

theorem Within.within_offeredSignatures (h : plan.Within v) :
    ∀ signature ∈ plan.offeredSignatures, signature.Within v := by
  simp [offeredSignatures, setDutySignature, signature, Signature.Within,
    Parameter.Within, h.within_function, h.names.1]
  and_intros <;> exact v.fixed rfl

theorem Within.within_prototypes (h : plan.Within v) : ∀ item ∈ plan.prototypes, item.Within v := by
  intro item hitem
  simp only [prototypes, List.mem_append, List.mem_cons, List.mem_map, List.not_mem_nil,
    or_false] at hitem
  rcases hitem with ((rfl | ⟨signature, hsignature, rfl⟩) | rfl | ⟨phase, hphase, rfl⟩) | rfl
  · exact within_append.2 ⟨h.title, v.fixed rfl⟩
  · exact h.within_offeredSignatures signature hsignature
  · trivial
  · exact h.within_controllerSignature (h.isrPhases phase hphase)
  · trivial

theorem Within.within_adcDefinitions (h : plan.Within v) :
    ∀ item ∈ plan.adcDefinitions, item.Within v := by
  intro item hitem
  simp only [adcDefinitions, List.mem_append, List.mem_cons, List.mem_flatMap, List.not_mem_nil,
    or_false] at hitem
  rcases hitem with (rfl | ⟨phase, hphase, hmem⟩) | rfl
  · exact within_append.2 ⟨h.title, v.fixed rfl⟩
  · exact h.within_adcMacros (h.phases phase hphase) item hmem
  · trivial

theorem Within.within_enumerators (h : plan.Within v) :
    ∀ enumerator ∈ plan.phases.map (·.enumerator), Text.Within v.letter enumerator := by
  intro enumerator henumerator
  obtain ⟨phase, hphase, rfl⟩ := List.mem_map.1 henumerator
  exact (h.phases phase hphase).enumerator

end DriverPlan

section Header

variable {base stamp : String} {plans : List DriverPlan}

/-- What all drivers' parts of a section have, the section has. -/
theorem flatMap_none {α β : Type} (xs : List α) : xs.flatMap (fun _ => ([] : List β)) = [] :=
  List.flatMap_eq_nil_iff.2 fun _ _ => rfl

theorem within_phaseEnum (h : ∀ plan ∈ plans, plan.Within v) :
    ∀ item ∈ phaseEnum plans, item.Within v := by
  have henumerators : ∀ enumerator ∈ phaseEnumerators plans, Text.Within v.letter enumerator :=
    List.forall_mem_flatMap.2 fun plan hplan => (h plan hplan).within_enumerators
  unfold phaseEnum
  split
  · exact List.forall_mem_nil _
  · rw [List.forall_mem_cons, List.forall_mem_singleton]
    exact ⟨⟨henumerators, v.fixed rfl⟩, trivial⟩

theorem within_headerSections (h : ∀ plan ∈ plans, plan.Within v) :
    ∀ item ∈ headerSections plans, item.Within v := by
  have htypes := fun plan hplan => (h plan hplan).within_types
  simp only [List.forall_mem_append] at htypes
  simp only [headerSections, List.forall_mem_append]
  refine ⟨⟨⟨⟨⟨⟨⟨⟨?_, ?_⟩, ?_⟩, within_phaseEnum h⟩, ?_⟩, ?_⟩, ?_⟩, ?_⟩, ?_⟩
  · simp [Item.Within]
    exact v.fixed rfl
  · exact List.forall_mem_flatMap.2 fun plan hplan => (htypes plan hplan).1.1.1
  · simp [Item.Within]
  · exact List.forall_mem_flatMap.2 fun plan hplan => (htypes plan hplan).1.1.2
  · exact List.forall_mem_flatMap.2 fun plan hplan => (h plan hplan).within_adcDefinitions
  · exact List.forall_mem_flatMap.2 fun plan hplan => (htypes plan hplan).1.2
  · exact List.forall_mem_flatMap.2 fun plan hplan => (htypes plan hplan).2
  · exact List.forall_mem_flatMap.2 fun plan hplan => (h plan hplan).within_prototypes

theorem within_banner {kind : String} (hbase : Text.Within v.letter base) (hkind : Text.Within v.letter kind)
    (hstamp : Text.Within v.letter stamp) : ∀ item ∈ banner base kind stamp, item.Within v := by
  simp [banner, Item.Within, within_append, toString_text, hbase, hkind, hstamp]
  and_intros <;> exact v.fixed rfl

theorem within_header (hbase : Text.Within v.letter base) (hstamp : Text.Within v.letter stamp)
    (h : ∀ plan ∈ plans, plan.Within v) : ∀ item ∈ header base stamp plans, item.Within v := by
  have hguard : Text.Within v.letter (Naming.includeGuard base) := Naming.within_includeGuard hbase
  simp only [header, List.forall_mem_append]
  refine ⟨⟨⟨within_banner hbase (v.fixed rfl) hstamp, ?_⟩, within_headerSections h⟩, ?_⟩
  · simp [Item.Within, hguard]
    and_intros <;> exact v.fixed rfl
  · simp [Item.Within, hguard]

end Header

/-! ## Sources -/

namespace DriverPlan

variable {plan : DriverPlan}

theorem within_call {callee : String} (hcallee : Text.Within v.letter callee) {arguments : List Expr}
    (h : Expr.AllWithin v arguments) : (callStatement callee arguments).Within v := by
  simp [callStatement, callLine, Statement.Within, Simple.Within, Expr.Within, hcallee, h]

theorem within_triggerSetup {phase : PhasePlan} (h : phase.Within v) {input : TriggerInput}
    (hinput : Text.Within v.letter input.input) : (triggerSetup input phase).Within v := by
  have hline : Text.Within v.letter input.line.repr := v.within_numeral input.line
  refine within_call (v.fixed rfl) ?_
  simp [pwmCounter, Expr.AllWithin, Expr.Within, within_append, h.pwm, hinput, hline]
  and_intros <;> exact v.fixed rfl

theorem within_counterSetup {phase : PhasePlan} (h : phase.Within v) :
    ∀ statement ∈ counterSetup phase, statement.Within v := by
  simp [counterSetup, callStatement, callLine, pwmCounter, Statement.Within,
    Simple.Within, Expr.AllWithin, Expr.Within, within_append, h.pwm]
  and_intros <;> exact v.fixed rfl

theorem Within.within_triggerSetups (h : plan.Within v) (input : TriggerInput)
    (hpurpose : v.remark input.purpose) (hinput : Text.Within v.letter input.input) :
    ∀ statement ∈ plan.triggerSetups input, statement.Within v := by
  intro statement hstatement
  simp only [triggerSetups, List.mem_append, List.mem_cons, List.mem_map, List.not_mem_nil,
    or_false] at hstatement
  rcases hstatement with (rfl | ⟨phase, hphase, rfl⟩) | rfl
  · exact hpurpose
  · exact within_triggerSetup (h.phases phase hphase) hinput
  · trivial

theorem Within.within_initBody (h : plan.Within v) :
    ∀ statement ∈ plan.initBody, statement.Within v := by
  have hcounters : ∀ statement ∈ plan.phases.flatMap counterSetup, statement.Within v :=
    List.forall_mem_flatMap.2 fun phase hphase => within_counterSetup (h.phases phase hphase)
  have hkill := h.within_triggerSetups killInput (v.fixedRemark rfl) (v.fixed rfl)
  have hswap := h.within_triggerSetups swapInput (v.fixedRemark rfl) (v.fixed rfl)
  have hstart := h.within_triggerSetups startInput (v.fixedRemark rfl) (v.fixed rfl)
  simp only [initBody, List.forall_mem_append]
  refine ⟨⟨⟨⟨⟨⟨?_, hcounters⟩, ?_⟩, hkill⟩, hswap⟩, hstart⟩, ?_⟩
  · simp [assignStatement, blankStatement, Statement.Within, Simple.Within,
      Expr.Within, Expr.AllWithin, h.within_setting, h.within_phaseSetting, h.duty,
      h.frequency]
    and_intros <;> exact v.fixed rfl
  · simp [blankStatement, Statement.Within, Simple.Within]
  · simp [callStatement, callLine, Statement.Within, Simple.Within, Expr.Within,
      Expr.AllWithin, h.within_function, h.within_setting, h.names.2.2.2.2.2.2]
    and_intros <;> exact v.fixed rfl

theorem Within.within_dutyCase (h : plan.Within v) {phase : PhasePlan} (hphase : phase.Within v) :
    (plan.dutyCase phase).Within v := by
  simp [dutyCase, Case.Within, callLine, pwmCounter, Simple.Within, Expr.AllWithin,
    Expr.Within, within_append, hphase.enumerator, hphase.pwm, h.within_phaseSetting]
  and_intros <;> exact v.fixed rfl

theorem Within.within_setDutyBody (h : plan.Within v) :
    ∀ statement ∈ plan.setDutyBody, statement.Within v := by
  have hcases : ∀ case ∈ plan.phases.map plan.dutyCase, case.Within v := by
    intro case hcase
    obtain ⟨phase, hphase, rfl⟩ := List.mem_map.1 hcase
    exact h.within_dutyCase (h.phases phase hphase)
  obtain ⟨-, -, -, -, hmax, hmin, -⟩ := h.names
  have hswitch : (Statement.switch (.name "phase") (plan.phases.map plan.dutyCase)).Within v := by
    rw [Statement.Within, Expr.Within]
    exact ⟨v.fixed rfl, hcases⟩
  simp only [setDutyBody, List.forall_mem_cons]
  refine ⟨?_, trivial, ?_, trivial, hswitch, trivial, ?_⟩
  · simp [Statement.Within, Simple.Within]
    and_intros <;> exact v.fixed rfl
  · simp [Statement.Within, Simple.Within, Expr.Within, hmax, hmin]
    exact v.fixed rfl
  · simp [fireTrigger, callStatement, callLine, Statement.Within, Simple.Within,
      Expr.Within, Expr.AllWithin]
    and_intros <;> exact v.fixed rfl

theorem Within.within_setFswBody (h : plan.Within v) :
    ∀ statement ∈ plan.setFswBody, statement.Within v := by
  have hperiods : ∀ statement ∈ plan.phases.map plan.periodUpdate, statement.Within v := by
    intro statement hstatement
    obtain ⟨phase, hphase, rfl⟩ := List.mem_map.1 hstatement
    simp [periodUpdate, callStatement, callLine, pwmCounter, Statement.Within,
      Simple.Within, Expr.AllWithin, Expr.Within, within_append,
      (h.phases phase hphase).pwm, h.within_phaseSetting]
    and_intros <;> exact v.fixed rfl
  have hrefresh : ∀ statement ∈ plan.dutyRefresh, statement.Within v := by
    unfold dutyRefresh
    split
    · exact List.forall_mem_nil _
    · next first rest hphases =>
      have hfirst := h.phases first (by rw [hphases]; exact List.mem_cons_self)
      simp [callStatement, callLine, Statement.Within, Simple.Within, Expr.Within,
        Expr.AllWithin, h.within_function, hfirst.enumerator, h.within_phaseSetting]
      and_intros <;> exact v.fixed rfl
  simp only [setFswBody, List.forall_mem_append]
  refine ⟨⟨⟨?_, hperiods⟩, ?_⟩, hrefresh⟩
  · simp [assignStatement, blankStatement, Statement.Within, Simple.Within,
      Expr.Within, h.within_setting, h.within_phaseSetting]
    and_intros <;> first | exact v.fixed rfl | exact v.fixedRemark rfl
  · simp [blankStatement, remarkStatement, Statement.Within, Simple.Within]
    exact v.fixedRemark rfl

theorem Within.within_deadtimeFunction (h : plan.Within v) (deadtime : Deadtime)
    (haction : Text.Within v.letter deadtime.action) (hcallee : Text.Within v.letter deadtime.callee)
    (hfield : Text.Within v.letter deadtime.field) :
    ∀ item ∈ plan.deadtimeFunction deadtime, item.Within v := by
  have hupdates : ∀ statement ∈ plan.phases.map (deadtimeUpdate deadtime), statement.Within v := by
    intro statement hstatement
    obtain ⟨phase, hphase, rfl⟩ := List.mem_map.1 hstatement
    refine within_call hcallee ?_
    simp [pwmCounter, Expr.AllWithin, Expr.Within, within_append,
      (h.phases phase hphase).pwm]
    and_intros <;> exact v.fixed rfl
  have hsetting := h.within_setting.2 hfield
  have hsignature : (plan.signature deadtime.action [⟨"uint32_t", "deadtime"⟩]).Within v :=
    h.within_signature haction
      (List.forall_mem_singleton.2 ⟨v.fixed rfl, v.fixed rfl⟩)
  simp only [deadtimeFunction, List.forall_mem_cons, Item.Within, List.forall_mem_append]
  refine ⟨⟨hsignature, hupdates, ?_⟩, trivial, List.forall_mem_nil _⟩
  simp [assignStatement, Statement.Within, Simple.Within, Expr.Within, hsetting]
  exact v.fixed rfl

theorem Within.within_startBody (h : plan.Within v) :
    ∀ statement ∈ plan.startBody ++ plan.stopBody, statement.Within v := by
  simp [startBody, stopBody, fireTrigger, callStatement, callLine, assignStatement,
    Statement.Within, Simple.Within, Expr.Within, Expr.AllWithin, h.within_setting]
  and_intros <;> exact v.fixed rfl

theorem within_bannerLine {text : String} (h : Text.Within v.letter text) :
    (Item.banner [text]).Within v := List.forall_mem_singleton.2 h

theorem Within.within_controlFunctions (h : plan.Within v) :
    ∀ item ∈ plan.controlFunctions, item.Within v := by
  have hbodies := h.within_startBody
  rw [List.forall_mem_append] at hbodies
  have hfsw : ∀ p ∈ [Parameter.mk "uint32_t" "fsw"], p.Within v := by
    simp [Parameter.Within]
    and_intros <;> exact v.fixed rfl
  have hduty : ∀ p ∈ [Parameter.mk "modulator_phase_t" "phase", Parameter.mk "float" "duty"],
      p.Within v := by
    simp [Parameter.Within]
    and_intros <;> exact v.fixed rfl
  have htitle : ∀ front back, Text.Within v.letter front → Text.Within v.letter back →
      (Item.banner [front ++ plan.title ++ back]).Within v := fun front back hfront hback =>
    within_bannerLine (within_append.2 ⟨within_append.2 ⟨hfront, h.title⟩, hback⟩)
  simp only [controlFunctions, List.forall_mem_append, List.forall_mem_cons]
  refine ⟨⟨⟨within_bannerLine (within_append.2 ⟨v.fixed rfl, h.title⟩),
    ⟨h.within_signature (v.fixed rfl) (List.forall_mem_nil _), hbodies.1⟩, trivial,
    within_bannerLine (within_append.2 ⟨v.fixed rfl, h.title⟩),
    ⟨h.within_signature (v.fixed rfl) (List.forall_mem_nil _), hbodies.2⟩, trivial,
    htitle "Set " " switching frequency" (v.fixed rfl) (v.fixed rfl),
    ⟨h.within_signature (v.fixed rfl) hfsw, h.within_setFswBody⟩, trivial,
    htitle "Set " " duty cycle for specific phase" (v.fixed rfl) (v.fixed rfl),
    ⟨h.within_signature (v.fixed rfl) hduty, h.within_setDutyBody⟩, trivial,
    List.forall_mem_nil _⟩,
    h.within_deadtimeFunction positiveDeadtime (v.fixed rfl) (v.fixed rfl) (v.fixed rfl)⟩,
    h.within_deadtimeFunction negativeDeadtime (v.fixed rfl) (v.fixed rfl) (v.fixed rfl)⟩

theorem Within.within_currentControllerBody (h : plan.Within v) :
    ∀ statement ∈ plan.currentControllerBody, statement.Within v := by
  simp [currentControllerBody, scaledOutput, assignStatement, blankStatement,
    callStatement, callLine, Statement.Within, Simple.Within, Expr.Within, Expr.AllWithin,
    h.within_setting, h.within_function]
  and_intros <;> first | exact v.fixed rfl | exact v.fixedRemark rfl

theorem Within.within_controllerBody (h : plan.Within v) {phase : PhasePlan} (hphase : phase.Within v) :
    ∀ statement ∈ plan.controllerBody phase, statement.Within v := by
  have hclear : ∀ statement ∈ dmaClear phase, statement.Within v := by
    unfold dmaClear
    split
    · refine List.forall_mem_singleton.2 (within_call (v.fixed rfl) ?_)
      simp [Expr.AllWithin, Expr.Within, within_append, hphase.name]
      and_intros <;> exact v.fixed rfl
    · exact List.forall_mem_nil _
  simp only [controllerBody, List.forall_mem_append]
  refine ⟨⟨?_, hclear⟩, ?_⟩
  · simp [remarkStatement, blankStatement, assignStatement, callStatement, callLine,
      Statement.Within, Simple.Within, Expr.Within, Expr.AllWithin, h.within_function,
      h.within_phaseSetting, (h.macros hphase).1, hphase.enumerator]
    and_intros <;> first | exact v.fixed rfl | exact v.fixedRemark rfl
  · simp [remarkStatement, blankStatement, Statement.Within, Simple.Within]
    exact v.fixedRemark rfl

theorem Within.within_controllerFunction (h : plan.Within v) {phase : PhasePlan}
    (hphase : phase.Within v) : ∀ item ∈ plan.controllerFunction phase, item.Within v := by
  simp only [controllerFunction, List.forall_mem_cons]
  refine ⟨?_, ⟨h.within_controllerSignature hphase, h.within_controllerBody hphase⟩, trivial,
    List.forall_mem_nil _⟩
  simp [Item.Within, within_append, toString_text, h.title, hphase.name]
  and_intros <;> exact v.fixed rfl

theorem within_phaseShiftRemark {phase : PhasePlan} (h : phase.Within v) :
    ∀ statement ∈ phaseShiftRemark phase, statement.Within v := by
  unfold phaseShiftRemark
  split
  · exact List.forall_mem_nil _
  · refine List.forall_mem_singleton.2 (v.remark_letters _ ?_)
    simp [within_append, toString_text, h.pwm, h.phaseShift]
    and_intros <;> exact v.fixed rfl

theorem Within.within_helperSignature (h : plan.Within v) {action : String}
    (haction : Text.Within v.letter action) {parameters : List Parameter}
    (hparameters : ∀ p ∈ parameters, p.Within v) :
    (plan.helperSignature action parameters).Within v :=
  ⟨v.fixed rfl, h.within_function.2 haction, hparameters⟩

theorem Within.within_interruptHandlers (h : plan.Within v) :
    ∀ item ∈ plan.interruptHandlers, item.Within v := by
  have hcontroller : ∀ p ∈ [Parameter.mk "modulator_phase_t" "phase", Parameter.mk "int32_t" "err"],
      p.Within v := by
    simp [Parameter.Within]
    and_intros <;> exact v.fixed rfl
  have hremarks : ∀ statement ∈ plan.phases.flatMap phaseShiftRemark, statement.Within v :=
    List.forall_mem_flatMap.2 fun phase hphase => within_phaseShiftRemark (h.phases phase hphase)
  have hcontrollers : ∀ item ∈ plan.isrPhases.flatMap plan.controllerFunction, item.Within v :=
    List.forall_mem_flatMap.2 fun phase hphase =>
      h.within_controllerFunction (h.isrPhases phase hphase)
  simp only [interruptHandlers, List.forall_mem_append, List.forall_mem_cons]
  refine ⟨⟨⟨?_, ⟨h.within_helperSignature (v.fixed rfl) hcontroller,
    h.within_currentControllerBody⟩, trivial, List.forall_mem_nil _⟩, hcontrollers⟩,
    ?_, ⟨h.within_helperSignature (v.fixed rfl) (List.forall_mem_nil _), ?_⟩, trivial,
    ⟨h.within_helperSignature (v.fixed rfl) (List.forall_mem_nil _), ?_⟩, trivial,
    List.forall_mem_nil _⟩
  · exact within_bannerLine (within_append.2 ⟨h.title, v.fixed rfl⟩)
  · exact within_bannerLine (within_append.2 ⟨h.title, v.fixed rfl⟩)
  · simp [remarkStatement, Statement.Within, Simple.Within]
    and_intros <;> exact v.fixedRemark rfl
  · refine List.forall_mem_append.2 ⟨?_, hremarks⟩
    simp [remarkStatement, Statement.Within, Simple.Within]
    and_intros <;> exact v.fixedRemark rfl

theorem Within.within_configInstance (h : plan.Within v) :
    ∀ item ∈ plan.helperDeclarations ++ plan.configInstance, item.Within v := by
  obtain ⟨-, -, hconfig, hobject, -⟩ := h.names
  simp only [helperDeclarations, configInstance, List.forall_mem_append, List.forall_mem_cons]
  refine ⟨⟨h.within_helperSignature (v.fixed rfl) (List.forall_mem_nil _),
    h.within_helperSignature (v.fixed rfl) (List.forall_mem_nil _), List.forall_mem_nil _⟩,
    within_append.2 ⟨h.title, v.fixed rfl⟩, ⟨hconfig, hobject, v.fixed rfl, ?_⟩, trivial,
    List.forall_mem_nil _⟩
  simp [Expr.Within]
  exact v.fixed rfl

theorem Within.within_initFunction (h : plan.Within v) :
    ∀ item ∈ plan.initFunction, item.Within v := by
  simp only [initFunction, List.forall_mem_cons]
  refine ⟨?_, ⟨h.within_signature (v.fixed rfl) (List.forall_mem_nil _), h.within_initBody⟩,
    trivial, List.forall_mem_nil _⟩
  simp [Item.Within, within_append, toString_text, h.title]
  and_intros <;> exact v.fixed rfl

end DriverPlan

section Source

variable {base stamp : String} {plans : List DriverPlan}

theorem within_source (hbase : Text.Within v.letter base) (hstamp : Text.Within v.letter stamp)
    (h : ∀ plan ∈ plans, plan.Within v) : ∀ item ∈ source base stamp plans, item.Within v := by
  have hinstance := fun plan hplan => (h plan hplan).within_configInstance
  simp only [List.forall_mem_append] at hinstance
  simp only [source, sourceSections, List.forall_mem_append]
  refine ⟨⟨within_banner hbase (v.fixed rfl) hstamp, ?_⟩, ⟨⟨⟨⟨⟨?_, ?_⟩, ?_⟩, ?_⟩, ?_⟩, ?_⟩, ?_⟩
  · simp [Item.Within, within_append, hbase]
    and_intros <;> exact v.fixed rfl
  · simp [Item.Within]
    exact v.fixed rfl
  · exact List.forall_mem_flatMap.2 fun plan hplan => (hinstance plan hplan).1
  · simp [Item.Within]
  · exact List.forall_mem_flatMap.2 fun plan hplan => (hinstance plan hplan).2
  · exact List.forall_mem_flatMap.2 fun plan hplan => (h plan hplan).within_initFunction
  · exact List.forall_mem_flatMap.2 fun plan hplan => (h plan hplan).within_controlFunctions
  · exact List.forall_mem_flatMap.2 fun plan hplan => (h plan hplan).within_interruptHandlers

end Source

/-! ## Generated files -/

/-- The plans that files are generated from. -/
def plansOf (scheme : NamingScheme) (modulators : List Modulator) : List DriverPlan :=
  modulators.map (DriverPlan.ofModulator scheme)

section Stamped

variable {ρ : Type} (scheme : NamingScheme) (clock : TimeSource ρ) (modulators : List Modulator)
  (state : ρ)

theorem files_generate :
    (generate scheme clock modulators state).1 =
      FilePair.ofBase (Naming.baseFileName scheme.fallbackBaseName modulators)
        (Listing.text layout (header (Naming.baseFileName scheme.fallbackBaseName modulators)
          (clock.read state).1.timestamp (plansOf scheme modulators)))
        (Listing.text layout (source (Naming.baseFileName scheme.fallbackBaseName modulators)
          (clock.read state).1.timestamp (plansOf scheme modulators))) := by
  unfold Listing.text plansOf
  rfl

end Stamped

section Generated

variable {scheme : NamingScheme} {modulators : List Modulator}

theorem within_baseFileName (hscheme : scheme.Within v)
    (h : ∀ modulator ∈ modulators, modulator.Within v) :
    Text.Within v.letter (Naming.baseFileName scheme.fallbackBaseName modulators) :=
  Naming.within_baseFileName hscheme.fallbackBaseName fun modulator hmodulator =>
    (h modulator hmodulator).name

theorem within_plansOf (hscheme : scheme.Within v)
    (h : ∀ modulator ∈ modulators, modulator.Within v) :
    ∀ plan ∈ plansOf scheme modulators, plan.Within v := by
  intro plan hplan
  obtain ⟨modulator, hmodulator, rfl⟩ := List.mem_map.1 hplan
  exact within_ofModulator hscheme (h modulator hmodulator)

end Generated

end Modulators

end FirmwareGen
