-- SUMMARY: Which names in the generated files of modulators are identifiers of C.
import FirmwareGen.Proofs.Modulators.Lines
import FirmwareGen.Proofs.Naming.Identifiers
/-!
# Names of generated drivers

Every name in the files of a driver is fixed, begins with its symbol, or has an ending behind its stem,
behind a PWM resource or behind the short name of a phase. So it is an identifier, with one exception:
the member that the phases share has the stem as its name, without anything behind it.
-/

namespace FirmwareGen.Modulators

open C Text

/-! ## Plans -/

/-- The texts of an active phase are fit to be parts of identifiers. -/
structure PhasePlan.Worded (phase : PhasePlan) : Prop where
  pwm : IsStem phase.pwm
  enumerator : IsIdentifier phase.enumerator
  name : ∀ c ∈ phase.name.toList, isWordChar c = true

theorem isStem_append_name {cs : List Char} (hstart : cs.head?.any isWordStart = true)
    (hchars : cs.all isWordChar = true) {phase : PhasePlan} (hphase : phase.Worded) :
    IsStem (String.ofList cs ++ phase.name) := by
  cases cs with
  | nil => cases hstart
  | cons c cs =>
    constructor
    · simpa using hstart
    · intro d hd
      rw [String.toList_append, String.toList_ofList, List.mem_append] at hd
      exact hd.elim (List.all_eq_true.1 hchars d) (hphase.name d)

/-- The texts of a driver are fit to be parts of identifiers. -/
structure DriverPlan.Worded (plan : DriverPlan) : Prop where
  stem : IsStem plan.stem
  symbol : IsCapitalStem plan.symbol
  phases : ∀ phase ∈ plan.phases, phase.Worded

theorem worded_ofModulator {modulator : Modulator} (hname : Worded modulator.name)
    (hpwm : ∀ phase ∈ modulator.activePhases, IsStem phase.pwm) :
    (DriverPlan.ofModulator {} modulator).Worded := by
  have hsymbol := Naming.isCapitalStem_symbolStem hname
  refine ⟨Naming.isStem_instanceName hname, hsymbol, fun plan hplan => ?_⟩
  obtain ⟨phase, hphase, rfl⟩ := List.mem_map.1 hplan
  have hphase := hpwm phase hphase
  refine ⟨hphase, ?_, fun c hc => hphase.chars c (NamingScheme.mem_of_mem_phaseName hc)⟩
  rw [PhasePlan.ofPhase, String.append_assoc]
  refine hsymbol.isIdentifier_append fun c hc => ?_
  rw [String.toList_append, List.mem_append] at hc
  rcases hc with hc | hc
  · exact List.all_eq_true.1 rfl c hc
  · exact hphase.chars c (mem_of_mem_remove hc)

/-! ## Statements -/

@[simp] theorem names_callLine (callee : String) (arguments : List Expr) :
    (callLine callee arguments).names = callee :: Expr.listNames arguments := by
  rw [callLine, Simple.names_evaluate, Expr.names]

@[simp] theorem names_callStatement (callee : String) (arguments : List Expr) :
    (callStatement callee arguments).names = callee :: Expr.listNames arguments :=
  names_callLine callee arguments

@[simp] theorem names_assignStatement (target value : Expr) :
    (assignStatement target value).names = target.names ++ value.names := rfl

@[simp] theorem names_blankStatement : blankStatement.names = [] := rfl

@[simp] theorem names_remarkStatement (text : String) : (remarkStatement text).names = [] := rfl

namespace DriverPlan

variable {plan : DriverPlan}

/-- The names of a driver are identifiers, or the stem of the driver by itself. -/
def Admits (plan : DriverPlan) (name : String) : Prop := IsIdentifier name ∨ name = plan.stem

theorem admits_ofList {cs : List Char} (hstart : cs.head?.any isWordStart = true)
    (hchars : cs.all isWordChar = true) (hfree : reservedWords.contains cs = false) :
    plan.Admits (String.ofList cs) := .inl (isIdentifier_ofList hstart hchars hfree)

theorem admits_stem : plan.Admits plan.stem := .inr rfl

/-! ### Fixed names -/

theorem admits_typeNames :
    plan.Admits "bool" ∧ plan.Admits "uint8_t" ∧ plan.Admits "uint16_t" ∧ plan.Admits "uint32_t" ∧
      plan.Admits "int32_t" ∧ plan.Admits "modulator_phase_t" := by
  and_intros <;> exact admits_ofList rfl rfl rfl

theorem admits_memberNames :
    plan.Admits "duty" ∧ plan.Admits "period" ∧ plan.Admits "Iref" ∧
      plan.Admits "compareValueOffset" ∧ plan.Admits "ADC_res" ∧ plan.Admits "currentFilt" ∧
      plan.Admits "Kp" ∧ plan.Admits "deadtimePos" ∧ plan.Admits "deadtimeNeg" ∧
      plan.Admits "mode" ∧ plan.Admits "isRunning" ∧ plan.Admits "fsw" ∧
      plan.Admits "clockFreq" := by
  and_intros <;> exact admits_ofList rfl rfl rfl

theorem admits_localNames :
    plan.Admits "phase" ∧ plan.Admits "deadtime" ∧ plan.Admits "current" ∧ plan.Admits "compare" ∧
      plan.Admits "err" ∧ plan.Admits "VL" ∧ plan.Admits "VIN_temp" ∧ plan.Admits "true" ∧
      plan.Admits "false" := by
  and_intros <;> exact admits_ofList rfl rfl rfl

/-- The functions that all drivers call. -/
theorem admits_callees :
    plan.Admits "Cy_TrigMux_SwTrigger" ∧ plan.Admits "Cy_TCPWM_InputTriggerSetup" ∧
      plan.Admits "Cy_TCPWM_PWM_Init" ∧ plan.Admits "Cy_TCPWM_PWM_Enable" ∧
      plan.Admits "Cy_SysClk_ClkHfGetFrequency" ∧ plan.Admits "Cy_TCPWM_PWM_SetPeriod1" ∧
      plan.Admits "Cy_TCPWM_PWM_SetCompare0BufVal" ∧ plan.Admits "Cy_TCPWM_PWM_PWMDeadTime" ∧
      plan.Admits "Cy_TCPWM_PWM_PWMDeadTimeN" ∧ plan.Admits "Cy_DMA_Channel_ClearInterrupt" ∧
      plan.Admits "CY_TCPWM_INPUT_TRIG" ∧ plan.Admits "moving_average" := by
  and_intros <;> exact admits_ofList rfl rfl rfl

theorem admits_triggerNames :
    plan.Admits "CY_TCPWM_INPUT_TR_STOP_OR_KILL" ∧ plan.Admits "CY_TCPWM_INPUT_TR_INDEX_OR_SWAP" ∧
      plan.Admits "CY_TCPWM_INPUT_TR_START" ∧ plan.Admits "CY_TCPWM_INPUT_RISINGEDGE" ∧
      plan.Admits "TRIG_OUT_MUX_10_TCPWM0_TR_IN4" ∧ plan.Admits "TRIG_OUT_MUX_10_TCPWM0_TR_IN5" ∧
      plan.Admits "TRIG_OUT_MUX_10_TCPWM0_TR_IN6" ∧ plan.Admits "CY_TRIGGER_TWO_CYCLES" ∧
      plan.Admits "CY_TRIGGER_DEACTIVATE" ∧ plan.Admits "CY_TRIGGER_INFINITE" := by
  and_intros <;> exact admits_ofList rfl rfl rfl

namespace Worded

/-! ### Composed names -/

theorem admits_symbol (h : plan.Worded) {cs : List Char} (hcs : cs.all isWordChar = true) :
    plan.Admits (plan.symbol ++ String.ofList cs) := by
  refine .inl (h.symbol.isIdentifier_append ?_)
  rw [String.toList_ofList]
  exact List.all_eq_true.1 hcs

theorem admits_stem_append (h : plan.Worded) {cs : List Char}
    (hstart : cs.head?.any isWordStart = true) (hchars : cs.all isWordChar = true)
    (hfree : reservedWords.any cs.isSuffixOf = false) :
    plan.Admits (plan.stem ++ String.ofList cs) :=
  .inl (h.stem.isIdentifier_append (isEnding_ofList hstart hchars hfree))

theorem admits_function (h : plan.Worded) {cs : List Char} (hchars : cs.all isWordChar = true)
    (hfree : reservedWords.any ('_' :: cs).isSuffixOf = false) :
    plan.Admits (plan.function (String.ofList cs)) := by
  have hending : "_" ++ String.ofList cs = String.ofList ('_' :: cs) := by
    rw [String.ofList_cons]
    rfl
  rw [function, String.append_assoc, hending]
  exact h.admits_stem_append rfl hchars hfree

theorem names (h : plan.Worded) :
    plan.Admits plan.modeType ∧ plan.Admits plan.phaseConfigType ∧ plan.Admits plan.configType ∧
      plan.Admits plan.configObject ∧ plan.Admits plan.maxDutyMacro ∧
      plan.Admits plan.minDutyMacro ∧ plan.Admits plan.openLoop ∧
      plan.Admits (plan.symbol ++ "_disabled") ∧ plan.Admits (plan.symbol ++ "_currentControl") :=
  ⟨h.admits_symbol rfl, h.admits_symbol rfl, h.admits_stem_append rfl rfl rfl,
    h.admits_stem_append rfl rfl rfl, h.admits_symbol rfl, h.admits_symbol rfl, h.admits_symbol rfl,
    h.admits_symbol rfl, h.admits_symbol rfl⟩

theorem functions (h : plan.Worded) :
    plan.Admits (plan.function "init") ∧ plan.Admits (plan.function "startAll") ∧
      plan.Admits (plan.function "stopAll") ∧ plan.Admits (plan.function "setFsw") ∧
      plan.Admits (plan.function "setDuty") ∧ plan.Admits (plan.function "setDeadtime") ∧
      plan.Admits (plan.function "setDeadtimeNeg") ∧ plan.Admits (plan.function "setDeadtimePos") ∧
      plan.Admits (plan.function "setMode") ∧ plan.Admits (plan.function "setCurrent") ∧
      plan.Admits (plan.function "init_DMA_ISR") ∧ plan.Admits (plan.function "updatePhaseShift") ∧
      plan.Admits (plan.function "CurrentController") := by
  and_intros <;> exact h.admits_function rfl rfl

/-- The names that stand for an active phase. -/
theorem phaseNames (h : plan.Worded) {phase : PhasePlan} (hphase : phase.Worded) :
    plan.Admits phase.enumerator ∧ plan.Admits (phase.pwm ++ "_HW") ∧
      plan.Admits (phase.pwm ++ "_NUM") ∧ plan.Admits (phase.pwm ++ "_config") ∧
      plan.Admits (plan.currentMacro phase) ∧ plan.Admits (plan.voltageMacro phase) ∧
      plan.Admits (plan.controller phase) ∧ plan.Admits ("DMA_" ++ phase.name ++ "_HW") ∧
      plan.Admits ("DMA_" ++ phase.name ++ "_CHANNEL") := by
  have hpwm {cs : List Char} (hstart : cs.head?.any isWordStart = true)
      (hchars : cs.all isWordChar = true) (hfree : reservedWords.any cs.isSuffixOf = false) :
      plan.Admits (phase.pwm ++ String.ofList cs) :=
    .inl (hphase.pwm.isIdentifier_append (isEnding_ofList hstart hchars hfree))
  have hchannel {cs : List Char} (hstart : cs.head?.any isWordStart = true)
      (hchars : cs.all isWordChar = true) (hfree : reservedWords.any cs.isSuffixOf = false) :
      plan.Admits ("DMA_" ++ phase.name ++ String.ofList cs) :=
    .inl ((isStem_append_name rfl rfl hphase).isIdentifier_append (isEnding_ofList hstart hchars hfree))
  have hmacro {cs : List Char} (hcs : cs.all isWordChar = true) :
      plan.Admits (plan.symbol ++ String.ofList cs ++ phase.name) := by
    rw [String.append_assoc]
    refine .inl (h.symbol.isIdentifier_append fun c hc => ?_)
    rw [String.toList_append, String.toList_ofList, List.mem_append] at hc
    exact hc.elim (List.all_eq_true.1 hcs c) (hphase.name c)
  have hcontroller : plan.Admits (plan.controller phase) := by
    have hstem : IsStem (plan.stem ++ "_" ++ phase.name) := by
      rw [String.append_assoc]
      exact h.stem.append (isStem_append_name rfl rfl hphase)
    rw [controller, function, ← String.append_assoc]
    exact .inl (hstem.isIdentifier_append (isEnding_ofList rfl rfl rfl))
  exact ⟨.inl hphase.enumerator, hpwm rfl rfl rfl, hpwm rfl rfl rfl, hpwm rfl rfl rfl, hmacro rfl,
    hmacro rfl, hcontroller, hchannel rfl rfl rfl, hchannel rfl rfl rfl⟩

/-! ### Headers -/

theorem admits_types (h : plan.Worded) :
    ∀ item ∈ plan.modeEnum ++ plan.dutyLimits ++ plan.phaseStruct ++ plan.configStruct,
      ∀ name ∈ item.names, plan.Admits name := by
  simp [modeEnum, dutyLimits, phaseStruct, configStruct, Item.names, Expr.names,
    Member.names, or_imp, forall_and, forall_mem_typeNames, typeNames_fixed, h.names, admits_stem,
    admits_typeNames, admits_memberNames]

theorem admits_setting (h : plan.Worded) {field : String} :
    (∀ name ∈ (plan.setting field).names, plan.Admits name) ↔ plan.Admits field := by
  simp [setting, config, Expr.names, h.names]

theorem admits_phaseSetting (h : plan.Worded) {field : String} :
    (∀ name ∈ (plan.phaseSetting field).names, plan.Admits name) ↔ plan.Admits field := by
  simp [phaseSetting, phaseState, setting, config, Expr.names, or_imp, forall_and, h.names,
    admits_stem]

theorem admits_offeredSignatures (h : plan.Worded) :
    ∀ signature ∈ plan.offeredSignatures, ∀ name ∈ signature.names, plan.Admits name := by
  simp [offeredSignatures, setDutySignature, signature, Signature.names, Parameter.names, or_imp,
    forall_and, forall_mem_typeNames, typeNames_fixed, h.names, h.functions, admits_typeNames,
    admits_memberNames, admits_localNames]

theorem admits_initBody (h : plan.Worded) :
    ∀ statement ∈ plan.initBody, ∀ name ∈ statement.names, plan.Admits name := by
  have hcounters : ∀ statement ∈ plan.phases.flatMap counterSetup, ∀ name ∈ statement.names,
      plan.Admits name := by
    refine List.forall_mem_flatMap.2 fun phase hphase => ?_
    simp [counterSetup, pwmCounter, Expr.listNames, Expr.names, h.phaseNames (h.phases phase hphase),
      admits_callees]
  have htriggers (input : TriggerInput) (hinput : plan.Admits input.input) :
      ∀ statement ∈ plan.triggerSetups input, ∀ name ∈ statement.names, plan.Admits name := by
    have hsetups : ∀ statement ∈ plan.phases.map (triggerSetup input), ∀ name ∈ statement.names,
        plan.Admits name := by
      rw [List.forall_mem_map]
      intro phase hphase
      simp [triggerSetup, pwmCounter, Expr.listNames, Expr.names,
        h.phaseNames (h.phases phase hphase), admits_callees, admits_triggerNames, hinput]
    simp only [triggerSetups, List.forall_mem_append, List.forall_mem_cons]
    exact ⟨⟨by simp, hsetups⟩, by simp, List.forall_mem_nil _⟩
  simp only [initBody, List.forall_mem_append]
  refine ⟨⟨⟨⟨⟨⟨?_, hcounters⟩, ?_⟩, htriggers _ ?_⟩, htriggers _ ?_⟩, htriggers _ ?_⟩, ?_⟩
  · simp [h.admits_setting, h.admits_phaseSetting, admits_memberNames, Expr.names, Expr.listNames,
      or_imp, forall_and, admits_callees]
  · simp
  · simp [killInput, admits_triggerNames]
  · simp [swapInput, admits_triggerNames]
  · simp [startInput, admits_triggerNames]
  · simp [h.admits_setting, h.functions, h.names, Expr.names, Expr.listNames, admits_memberNames]

theorem admits_startBody (h : plan.Worded) :
    ∀ statement ∈ plan.startBody ++ plan.stopBody, ∀ name ∈ statement.names, plan.Admits name := by
  simp [startBody, stopBody, fireTrigger, h.admits_setting, Expr.names, Expr.listNames, or_imp,
    forall_and, admits_callees, admits_triggerNames, admits_memberNames, admits_localNames]

theorem admits_setFswBody (h : plan.Worded) :
    ∀ statement ∈ plan.setFswBody, ∀ name ∈ statement.names, plan.Admits name := by
  have hperiods : ∀ statement ∈ plan.phases.map plan.periodUpdate, ∀ name ∈ statement.names,
      plan.Admits name := by
    rw [List.forall_mem_map]
    intro phase hphase
    simp [periodUpdate, pwmCounter, Expr.listNames, Expr.names, or_imp, forall_and,
      h.phaseNames (h.phases phase hphase), h.admits_phaseSetting, admits_callees,
      admits_memberNames]
  have hrefresh : ∀ statement ∈ plan.dutyRefresh, ∀ name ∈ statement.names, plan.Admits name := by
    unfold dutyRefresh
    split
    · exact List.forall_mem_nil _
    · next first rest hphases =>
      have hfirst := h.phases first (by rw [hphases]; exact List.mem_cons_self)
      simp [Expr.listNames, Expr.names, or_imp, forall_and, h.functions, h.phaseNames hfirst,
        h.admits_phaseSetting, admits_memberNames]
  simp only [setFswBody, List.forall_mem_append]
  refine ⟨⟨⟨?_, hperiods⟩, ?_⟩, hrefresh⟩
  · simp [Expr.names, or_imp, forall_and, h.admits_setting, h.admits_phaseSetting,
      admits_memberNames]
  · simp

theorem admits_setDutyBody (h : plan.Worded) :
    ∀ statement ∈ plan.setDutyBody, ∀ name ∈ statement.names, plan.Admits name := by
  have hcases : ∀ name ∈ (plan.phases.map plan.dutyCase).flatMap Case.names, plan.Admits name := by
    refine List.forall_mem_flatMap.2 ?_
    rw [List.forall_mem_map]
    intro phase hphase
    simp [dutyCase, Case.names, pwmCounter, Expr.listNames, Expr.names, or_imp, forall_and,
      h.phaseNames (h.phases phase hphase), h.admits_phaseSetting, admits_callees,
      admits_memberNames, admits_localNames]
  simp only [setDutyBody, List.forall_mem_cons]
  refine ⟨?_, ?_, ?_, ?_, ?_, ?_, ?_, List.forall_mem_nil _⟩
  · simp [or_imp, forall_and, typeNames_fixed, admits_typeNames, admits_localNames]
  · simp
  · simp [Expr.names, or_imp, forall_and, h.names, admits_memberNames]
  · simp
  · rw [Statement.names_switch, List.forall_mem_append]
    exact ⟨by simp [Expr.names, admits_localNames], hcases⟩
  · simp
  · simp [fireTrigger, Expr.listNames, Expr.names, admits_callees, admits_triggerNames]

theorem admits_currentControllerBody (h : plan.Worded) :
    ∀ statement ∈ plan.currentControllerBody, ∀ name ∈ statement.names, plan.Admits name := by
  simp [currentControllerBody, scaledOutput, Expr.names, Expr.listNames, or_imp,
    forall_and, typeNames_fixed, h.functions, h.admits_setting, admits_memberNames,
    admits_localNames]

theorem admits_controllerBody (h : plan.Worded) {phase : PhasePlan} (hphase : phase.Worded) :
    ∀ statement ∈ plan.controllerBody phase, ∀ name ∈ statement.names, plan.Admits name := by
  have hclear : ∀ statement ∈ dmaClear phase, ∀ name ∈ statement.names, plan.Admits name := by
    unfold dmaClear
    split
    · simp [Expr.listNames, Expr.names, h.phaseNames hphase, admits_callees]
    · exact List.forall_mem_nil _
  simp only [controllerBody, List.forall_mem_append]
  refine ⟨⟨?_, hclear⟩, by simp⟩
  simp [Expr.listNames, Expr.names, or_imp, forall_and, typeNames_fixed, h.functions,
    h.phaseNames hphase, h.admits_phaseSetting, admits_callees, admits_memberNames,
    admits_typeNames, admits_localNames]

/-! ### Items of the header -/

theorem admits_adcDefinitions (h : plan.Worded) :
    ∀ item ∈ plan.adcDefinitions, ∀ name ∈ item.names, plan.Admits name := by
  have hmacros : ∀ item ∈ plan.phases.flatMap plan.adcMacros, ∀ name ∈ item.names,
      plan.Admits name := by
    refine List.forall_mem_flatMap.2 fun phase hphase => ?_
    simp [adcMacros, Item.names, Expr.names, h.phaseNames (h.phases phase hphase),
      h.admits_phaseSetting, admits_memberNames]
  simp only [adcDefinitions, List.forall_mem_append, List.forall_mem_cons]
  exact ⟨⟨List.forall_mem_nil _, hmacros⟩, List.forall_mem_nil _, List.forall_mem_nil _⟩

theorem admits_controllerSignature (h : plan.Worded) {phase : PhasePlan} (hphase : phase.Worded) :
    ∀ name ∈ (plan.controllerSignature phase).names, plan.Admits name := by
  simp [controllerSignature, Signature.names, typeNames_fixed, h.phaseNames hphase]

theorem isrPhases (h : plan.Worded) : ∀ phase ∈ plan.isrPhases, phase.Worded :=
  fun phase hphase => h.phases phase (List.mem_filter.1 hphase).1

theorem admits_prototypes (h : plan.Worded) :
    ∀ item ∈ plan.prototypes, ∀ name ∈ item.names, plan.Admits name := by
  have hoffered : ∀ item ∈ plan.offeredSignatures.map Item.prototype, ∀ name ∈ item.names,
      plan.Admits name := by
    rw [List.forall_mem_map]
    exact h.admits_offeredSignatures
  have hcontrollers : ∀ item ∈ plan.isrPhases.map
      (fun phase => Item.prototype (plan.controllerSignature phase)), ∀ name ∈ item.names,
      plan.Admits name := by
    rw [List.forall_mem_map]
    exact fun phase hphase => h.admits_controllerSignature (h.isrPhases phase hphase)
  simp only [prototypes, List.forall_mem_append, List.forall_mem_cons]
  exact ⟨⟨⟨List.forall_mem_nil _, hoffered⟩, List.forall_mem_nil _, hcontrollers⟩,
    List.forall_mem_nil _, List.forall_mem_nil _⟩

/-! ### Items of the source -/

theorem admits_definition {signature : Signature} {body : List Statement}
    (hsignature : ∀ name ∈ signature.names, plan.Admits name)
    (hbody : ∀ statement ∈ body, ∀ name ∈ statement.names, plan.Admits name) :
    ∀ name ∈ (Item.definition signature body).names, plan.Admits name := by
  rw [Item.names, List.forall_mem_append]
  exact ⟨hsignature, List.forall_mem_flatMap.2 hbody⟩

/-- The functions that only the source knows. -/
theorem admits_helperSignatures (h : plan.Worded) :
    ∀ signature ∈ [plan.helperSignature "init_DMA_ISR" [], plan.helperSignature "updatePhaseShift" [],
        plan.helperSignature "CurrentController"
          [⟨"modulator_phase_t", "phase"⟩, ⟨"int32_t", "err"⟩]],
      ∀ name ∈ signature.names, plan.Admits name := by
  simp [helperSignature, Signature.names, Parameter.names, or_imp, forall_and, typeNames_fixed,
    h.functions, admits_typeNames, admits_localNames]

theorem admits_configInstance (h : plan.Worded) :
    ∀ item ∈ plan.helperDeclarations ++ plan.configInstance, ∀ name ∈ item.names,
      plan.Admits name := by
  have hhelpers := h.admits_helperSignatures
  simp only [List.forall_mem_cons] at hhelpers
  obtain ⟨hdma, hshift, -⟩ := hhelpers
  simp only [helperDeclarations, configInstance, List.forall_mem_append, List.forall_mem_cons]
  refine ⟨⟨hdma, hshift, List.forall_mem_nil _⟩, List.forall_mem_nil _, ?_, List.forall_mem_nil _,
    List.forall_mem_nil _⟩
  simp [Item.names, Expr.names, or_imp, forall_and, forall_mem_typeNames, h.names, admits_memberNames]

theorem admits_initFunction (h : plan.Worded) :
    ∀ item ∈ plan.initFunction, ∀ name ∈ item.names, plan.Admits name := by
  have hsignature := h.admits_offeredSignatures (plan.signature "init" []) (by simp [offeredSignatures])
  simp only [initFunction, List.forall_mem_cons]
  exact ⟨List.forall_mem_nil _, admits_definition hsignature h.admits_initBody,
    List.forall_mem_nil _, List.forall_mem_nil _⟩

theorem admits_deadtimeFunction (h : plan.Worded) (deadtime : Deadtime)
    (hoffered : plan.signature deadtime.action [⟨"uint32_t", "deadtime"⟩] ∈ plan.offeredSignatures)
    (hcallee : plan.Admits deadtime.callee) (hfield : plan.Admits deadtime.field) :
    ∀ item ∈ plan.deadtimeFunction deadtime, ∀ name ∈ item.names, plan.Admits name := by
  have hupdates : ∀ statement ∈ plan.phases.map (deadtimeUpdate deadtime), ∀ name ∈ statement.names,
      plan.Admits name := by
    rw [List.forall_mem_map]
    intro phase hphase
    simp [deadtimeUpdate, pwmCounter, Expr.listNames, Expr.names, hcallee,
      h.phaseNames (h.phases phase hphase), admits_localNames]
  have hassign : ∀ name ∈ (assignStatement (plan.setting deadtime.field) (.name "deadtime")).names,
      plan.Admits name := by
    simp [Expr.names, or_imp, forall_and, h.admits_setting, hfield, admits_localNames]
  simp only [deadtimeFunction, List.forall_mem_cons]
  exact ⟨admits_definition (h.admits_offeredSignatures _ hoffered)
      (List.forall_mem_append.2 ⟨hupdates, List.forall_mem_singleton.2 hassign⟩),
    List.forall_mem_nil _, List.forall_mem_nil _⟩

theorem admits_controlFunctions (h : plan.Worded) :
    ∀ item ∈ plan.controlFunctions, ∀ name ∈ item.names, plan.Admits name := by
  obtain ⟨hstart, hstop⟩ := List.forall_mem_append.1 h.admits_startBody
  have hsignature (signature : Signature) (hmem : signature ∈ plan.offeredSignatures) :=
    h.admits_offeredSignatures signature hmem
  simp only [controlFunctions, List.forall_mem_append, List.forall_mem_cons]
  refine ⟨⟨⟨List.forall_mem_nil _, admits_definition (hsignature _ ?_) hstart, List.forall_mem_nil _,
    List.forall_mem_nil _, admits_definition (hsignature _ ?_) hstop, List.forall_mem_nil _,
    List.forall_mem_nil _, admits_definition (hsignature _ ?_) h.admits_setFswBody,
    List.forall_mem_nil _, List.forall_mem_nil _,
    admits_definition (hsignature _ ?_) h.admits_setDutyBody, List.forall_mem_nil _,
    List.forall_mem_nil _⟩,
    h.admits_deadtimeFunction positiveDeadtime ?_ ?_ ?_⟩,
    h.admits_deadtimeFunction negativeDeadtime ?_ ?_ ?_⟩
  all_goals simp [offeredSignatures, positiveDeadtime, negativeDeadtime, admits_callees,
    admits_memberNames]

theorem admits_controllerFunction (h : plan.Worded) {phase : PhasePlan} (hphase : phase.Worded) :
    ∀ item ∈ plan.controllerFunction phase, ∀ name ∈ item.names, plan.Admits name := by
  simp only [controllerFunction, List.forall_mem_cons]
  exact ⟨List.forall_mem_nil _,
    admits_definition (h.admits_controllerSignature hphase) (h.admits_controllerBody hphase),
    List.forall_mem_nil _, List.forall_mem_nil _⟩

theorem admits_interruptHandlers (h : plan.Worded) :
    ∀ item ∈ plan.interruptHandlers, ∀ name ∈ item.names, plan.Admits name := by
  have hhelpers := h.admits_helperSignatures
  simp only [List.forall_mem_cons] at hhelpers
  obtain ⟨hdma, hshift, hcontroller, -⟩ := hhelpers
  have hcontrollers : ∀ item ∈ plan.isrPhases.flatMap plan.controllerFunction, ∀ name ∈ item.names,
      plan.Admits name :=
    List.forall_mem_flatMap.2 fun phase hphase => h.admits_controllerFunction (h.isrPhases phase hphase)
  have hremarks : ∀ statement ∈ plan.phases.flatMap phaseShiftRemark, ∀ name ∈ statement.names,
      plan.Admits name := by
    refine List.forall_mem_flatMap.2 fun phase _ => ?_
    unfold phaseShiftRemark
    split <;> simp
  simp only [interruptHandlers, List.forall_mem_append, List.forall_mem_cons]
  exact ⟨⟨⟨List.forall_mem_nil _, admits_definition hcontroller h.admits_currentControllerBody,
      List.forall_mem_nil _, List.forall_mem_nil _⟩, hcontrollers⟩, List.forall_mem_nil _,
    admits_definition hdma (by simp), List.forall_mem_nil _,
    admits_definition hshift (List.forall_mem_append.2 ⟨by simp, hremarks⟩), List.forall_mem_nil _,
    List.forall_mem_nil _⟩

end Worded

/-- The stem stands by itself where the configuration object has the part that the phases share. -/
theorem stem_mem_configStruct (plan : DriverPlan) :
    ∃ item ∈ plan.configStruct, plan.stem ∈ item.names := by
  simp [configStruct, Item.names, Member.names]

end DriverPlan

/-! ## Listings -/

section Listings

variable {base stamp : String} {plans : List DriverPlan}

/-- The names of some drivers are identifiers, or stems by themselves. -/
def Admitted (plans : List DriverPlan) (name : String) : Prop :=
  IsIdentifier name ∨ ∃ plan ∈ plans, name = plan.stem

/-- What the parts of all drivers have, the section of these parts has. -/
theorem admitted_section {part : DriverPlan → List Item}
    (h : ∀ plan ∈ plans, ∀ item ∈ part plan, ∀ name ∈ item.names, plan.Admits name) :
    ∀ item ∈ plans.flatMap part, ∀ name ∈ item.names, Admitted plans name :=
  List.forall_mem_flatMap.2 fun plan hplan item hitem name hname =>
    (h plan hplan item hitem name hname).imp_right fun heq => ⟨plan, hplan, heq⟩

theorem admitted_phaseEnum (h : ∀ plan ∈ plans, plan.Worded) :
    ∀ item ∈ phaseEnum plans, ∀ name ∈ item.names, Admitted plans name := by
  have henumerators : ∀ enumerator ∈ phaseEnumerators plans, Admitted plans enumerator := by
    refine List.forall_mem_flatMap.2 fun plan hplan => List.forall_mem_map.2 fun phase hphase => ?_
    exact .inl ((h plan hplan).phases phase hphase).enumerator
  unfold phaseEnum
  split
  · exact List.forall_mem_nil _
  · rw [List.forall_mem_cons, List.forall_mem_singleton]
    refine ⟨?_, List.forall_mem_nil _⟩
    rw [Item.names, List.forall_mem_append, List.forall_mem_singleton]
    exact ⟨henumerators, .inl (isIdentifier_ofList rfl rfl rfl)⟩

theorem admitted_header (hguard : IsIdentifier (Naming.includeGuard base))
    (h : ∀ plan ∈ plans, plan.Worded) :
    ∀ item ∈ header base stamp plans, ∀ name ∈ item.names, Admitted plans name := by
  have htypes := fun plan hplan => (h plan hplan).admits_types
  simp only [List.forall_mem_append] at htypes
  have hsections : ∀ item ∈ headerSections plans, ∀ name ∈ item.names, Admitted plans name := by
    simp only [headerSections, List.forall_mem_append]
    refine ⟨⟨⟨⟨⟨⟨⟨⟨by simp [Item.names], ?_⟩, by simp [Item.names]⟩, admitted_phaseEnum h⟩, ?_⟩, ?_⟩,
      ?_⟩, ?_⟩, ?_⟩
    · exact admitted_section fun plan hplan => (htypes plan hplan).1.1.1
    · exact admitted_section fun plan hplan => (htypes plan hplan).1.1.2
    · exact admitted_section fun plan hplan => (h plan hplan).admits_adcDefinitions
    · exact admitted_section fun plan hplan => (htypes plan hplan).1.2
    · exact admitted_section fun plan hplan => (htypes plan hplan).2
    · exact admitted_section fun plan hplan => (h plan hplan).admits_prototypes
  have hname : Admitted plans (Naming.includeGuard base) := .inl hguard
  simp only [header, List.forall_mem_append]
  exact ⟨⟨⟨by simp [banner, Item.names], by simp [Item.names, hname]⟩, hsections⟩,
    by simp [Item.names]⟩

theorem admitted_source (h : ∀ plan ∈ plans, plan.Worded) :
    ∀ item ∈ source base stamp plans, ∀ name ∈ item.names, Admitted plans name := by
  have hinstance := fun plan hplan => (h plan hplan).admits_configInstance
  simp only [List.forall_mem_append] at hinstance
  simp only [source, sourceSections, List.forall_mem_append]
  refine ⟨⟨by simp [banner, Item.names], by simp [Item.names]⟩, ⟨⟨⟨⟨⟨by simp [Item.names], ?_⟩,
    by simp [Item.names]⟩, ?_⟩, ?_⟩, ?_⟩, ?_⟩
  · exact admitted_section fun plan hplan => (hinstance plan hplan).1
  · exact admitted_section fun plan hplan => (hinstance plan hplan).2
  · exact admitted_section fun plan hplan => (h plan hplan).admits_initFunction
  · exact admitted_section fun plan hplan => (h plan hplan).admits_controlFunctions
  · exact admitted_section fun plan hplan => (h plan hplan).admits_interruptHandlers

theorem stem_mem_header {plan : DriverPlan} (hplan : plan ∈ plans) :
    plan.stem ∈ Listing.names (header base stamp plans) := by
  obtain ⟨item, hitem, hstem⟩ := plan.stem_mem_configStruct
  refine List.mem_flatMap.2 ⟨item, ?_, hstem⟩
  have hmem := List.mem_flatMap.2 ⟨plan, hplan, hitem⟩
  simp [header, headerSections, hmem]

end Listings

/-! ## Generated files -/

/-- The listing of the header of some modulators. -/
def headerListing (modulators : List Modulator) (stamp : String) : Listing :=
  header (Batch.ofModulators {} modulators).base stamp (plansOf {} modulators)

/-- The listing of the source of some modulators. -/
def sourceListing (modulators : List Modulator) (stamp : String) : Listing :=
  source (Batch.ofModulators {} modulators).base stamp (plansOf {} modulators)

/-- Which of the names in the files of some modulators are identifiers: all but, it may be, the stems of
    the modulators, and all of them if no name is empty or spells a reserved word. -/
structure WellNamed (modulators : List Modulator) (names : List String) : Prop where
  isIdentifier_or_stem : ∀ name ∈ names,
    IsIdentifier name ∨ ∃ modulator ∈ modulators, name = Naming.instanceName modulator.name
  isIdentifier_iff : (∀ name ∈ names, IsIdentifier name) ↔
    ∀ modulator ∈ modulators,
      modulator.name ≠ "" ∧ (Text.lower modulator.name).toList ∉ reservedWords

section Generated

variable {modulators : List Modulator}

theorem isIdentifier_or_stem_of_admitted {name : String}
    (h : Admitted (plansOf {} modulators) name) :
    IsIdentifier name ∨ ∃ modulator ∈ modulators, name = Naming.instanceName modulator.name := by
  refine h.imp_right ?_
  rintro ⟨plan, hplan, rfl⟩
  obtain ⟨modulator, hmodulator, rfl⟩ := List.mem_map.1 hplan
  exact ⟨modulator, hmodulator, rfl⟩

theorem wellNamed_listings (stamp : String)
    (hnames : ∀ modulator ∈ modulators, Worded modulator.name)
    (hpwm : ∀ modulator ∈ modulators, ∀ phase ∈ modulator.activePhases, IsStem phase.pwm) :
    WellNamed modulators
      ((headerListing modulators stamp).names ++ (sourceListing modulators stamp).names) := by
  have hplans : ∀ plan ∈ plansOf {} modulators, plan.Worded := by
    refine List.forall_mem_map.2 fun modulator hmodulator => ?_
    exact worded_ofModulator (hnames modulator hmodulator) (hpwm modulator hmodulator)
  have hguard : IsIdentifier (Naming.includeGuard (Batch.ofModulators {} modulators).base) :=
    (Naming.isCapitalStem_upper_baseFileName hnames).isIdentifier_append (List.all_eq_true.1 rfl)
  have hall : ∀ name ∈ (headerListing modulators stamp).names ++ (sourceListing modulators stamp).names,
      IsIdentifier name ∨ ∃ modulator ∈ modulators, name = Naming.instanceName modulator.name := by
    rw [List.forall_mem_append]
    constructor
    · intro name hname
      exact isIdentifier_or_stem_of_admitted
        (List.forall_mem_flatMap.2 (admitted_header hguard hplans) name hname)
    · intro name hname
      exact isIdentifier_or_stem_of_admitted
        (List.forall_mem_flatMap.2 (admitted_source hplans) name hname)
  refine ⟨hall, fun h modulator hmodulator => ?_, fun h name hname => ?_⟩
  · rw [← Naming.isIdentifier_instanceName_iff (hnames modulator hmodulator)]
    have hplan : DriverPlan.ofModulator {} modulator ∈ plansOf {} modulators :=
      List.mem_map_of_mem hmodulator
    have hstem : (DriverPlan.ofModulator {} modulator).stem ∈ (headerListing modulators stamp).names :=
      stem_mem_header hplan
    exact h _ (List.mem_append_left _ hstem)
  · obtain hidentifier | ⟨modulator, hmodulator, rfl⟩ := hall name hname
    · exact hidentifier
    · exact (Naming.isIdentifier_instanceName_iff (hnames modulator hmodulator)).2
        (h modulator hmodulator)

/-- The names in the files that are generated for worded names, with resources that can begin a
    name. -/
theorem wellNamed_generate {ρ : Type} (clock : TimeSource ρ) (now : ρ)
    (hnames : ∀ modulator ∈ modulators, Worded modulator.name)
    (hpwm : ∀ modulator ∈ modulators, ∀ phase ∈ modulator.activePhases, IsStem phase.pwm) :
    ∃ stamp,
      (generate {} clock modulators now).1.header =
        Listing.text layout (headerListing modulators stamp) ∧
      (generate {} clock modulators now).1.source =
        Listing.text layout (sourceListing modulators stamp) ∧
      WellNamed modulators
        ((headerListing modulators stamp).names ++ (sourceListing modulators stamp).names) := by
  refine ⟨(clock.read now).1.timestamp, ?_, ?_, wellNamed_listings _ hnames hpwm⟩
  · rw [files_generate, FilePair.header_ofBase]
    rfl
  · rw [files_generate, FilePair.source_ofBase]
    rfl

end Generated

theorem worded_interleaved : (∀ modulator ∈ interleaved, Worded modulator.name) ∧
    ∀ modulator ∈ interleaved, ∀ phase ∈ modulator.activePhases, IsStem phase.pwm := by
  constructor
  · simp only [interleaved, List.forall_mem_cons]
    exact ⟨worded_ofList rfl rfl, worded_ofList rfl rfl, worded_ofList rfl rfl,
      List.forall_mem_nil _⟩
  · have hpwm : ∀ modulator ∈ interleaved, ∀ phase ∈ modulator.phases, IsStem phase.pwm := by
      simp [interleaved]
      and_intros <;> exact isStem_ofList rfl rfl
    exact fun modulator hmodulator phase hphase =>
      hpwm modulator hmodulator phase (List.mem_filter.1 hphase).1

theorem wellNamed_generate_interleaved :
    ((∀ modulator ∈ interleaved, Worded modulator.name) ∧
      ∀ modulator ∈ interleaved, ∀ phase ∈ modulator.activePhases, IsStem phase.pwm) ∧
    ∃ stamp,
      (generate {} (.fixed ⟨2024, 2, 29, 12, 0, 0, 0⟩) interleaved ()).1.header =
        Listing.text layout (headerListing interleaved stamp) ∧
      (generate {} (.fixed ⟨2024, 2, 29, 12, 0, 0, 0⟩) interleaved ()).1.source =
        Listing.text layout (sourceListing interleaved stamp) ∧
      WellNamed interleaved
        ((headerListing interleaved stamp).names ++ (sourceListing interleaved stamp).names) :=
  ⟨worded_interleaved, wellNamed_generate _ _ worded_interleaved.1 worded_interleaved.2⟩

/-- A modulator without a name. -/
def unnamed : List Modulator := [{ phases := [{ pwm := "PWM_A" }] }]

/-- A blank name may be empty, and then the part that the phases share is a member without a name. -/
theorem nameless_member_unnamed :
    ((∀ modulator ∈ unnamed, Worded modulator.name) ∧
      ∀ modulator ∈ unnamed, ∀ phase ∈ modulator.activePhases, IsStem phase.pwm) ∧
    ∃ stamp,
      (generate {} (.fixed ⟨2024, 2, 29, 12, 0, 0, 0⟩) unnamed ()).1.header =
        Listing.text layout (headerListing unnamed stamp) ∧
      "    MODULATOR_phaseConfig_t ;" ∈ Listing.lines layout (headerListing unnamed stamp) ∧
      "" ∈ (headerListing unnamed stamp).names ∧ ¬ IsIdentifier "" := by
  refine ⟨⟨?_, ?_⟩, (⟨2024, 2, 29, 12, 0, 0, 0⟩ : DateTime).timestamp, ?_, ?_, ?_,
    fun h => h.nonempty rfl⟩
  · exact List.forall_mem_singleton.2 (.blank (by simp))
  · refine List.forall_mem_singleton.2 fun phase hphase => ?_
    rw [List.mem_singleton.1 (List.mem_filter.1 hphase).1]
    exact isStem_ofList rfl rfl
  · rw [files_generate, FilePair.header_ofBase]
    rfl
  · decide +kernel
  · decide +kernel

end FirmwareGen.Modulators
