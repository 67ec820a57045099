-- SUMMARY: Which functions of generated drivers are declared, called and defined.
import FirmwareGen.Proofs.C.Callees
import FirmwareGen.Proofs.Modulators.Routines
/-!
# Linking generated drivers

The header of a driver offers functions of which the source defines all but three, and the source calls
one of these three. All other functions of a driver that are called are defined.
-/

namespace FirmwareGen.Modulators

open C Text

/-! ## Functions of a driver -/

/-- The functions that drivers call and do not bring with them. -/
def libraryFunctions : List String :=
  ["Cy_TrigMux_SwTrigger", "Cy_SysClk_ClkHfGetFrequency", "Cy_TCPWM_InputTriggerSetup",
   "CY_TCPWM_INPUT_TRIG", "Cy_TCPWM_PWM_Init", "Cy_TCPWM_PWM_Enable", "Cy_TCPWM_PWM_SetPeriod1",
   "Cy_TCPWM_PWM_SetCompare0BufVal", "Cy_TCPWM_PWM_PWMDeadTime", "Cy_TCPWM_PWM_PWMDeadTimeN",
   "Cy_DMA_Channel_ClearInterrupt", "moving_average"]

/-- The functions of a driver that its source calls. -/
def calledActions : List String :=
  ["setFsw", "updatePhaseShift", "init_DMA_ISR", "setMode", "setDeadtimePos", "setDeadtimeNeg",
   "setDuty", "CurrentController"]

/-- The functions that a driver offers without a definition. -/
def looseActions : List String := ["setDeadtime", "setMode", "setCurrent"]

namespace DriverPlan

variable (plan : DriverPlan)

/-- The functions that are offered and not defined. -/
def looseSignatures : List Signature :=
  [plan.signature "setDeadtime" [⟨"uint8_t", "deadtime"⟩],
   plan.signature "setMode" [⟨plan.modeType, "mode"⟩],
   plan.signature "setCurrent" [⟨"float", "current"⟩]]

/-- The functions that are offered and defined. -/
def controlSignatures : List Signature :=
  [plan.signature "init" [],
   plan.signature "startAll" [],
   plan.signature "stopAll" [],
   plan.signature "setFsw" [⟨"uint32_t", "fsw"⟩],
   plan.setDutySignature,
   plan.signature "setDeadtimeNeg" [⟨"uint32_t", "deadtime"⟩],
   plan.signature "setDeadtimePos" [⟨"uint32_t", "deadtime"⟩]]

/-- The functions that only the source knows. -/
def helperSignatures : List Signature :=
  [plan.helperSignature "CurrentController"
     [⟨"modulator_phase_t", "phase"⟩, ⟨"int32_t", "err"⟩],
   plan.helperSignature "init_DMA_ISR" [],
   plan.helperSignature "updatePhaseShift" []]

def routineSignatures : List Signature := plan.isrPhases.map plan.controllerSignature

theorem declaredFunctions_prototypes :
    declaredFunctions plan.prototypes = plan.offeredSignatures ++ plan.routineSignatures := by
  have hdeclared : ∀ signatures : List Signature,
      (signatures.map Item.prototype).filterMap Item.prototype? = signatures := by
    intro signatures
    rw [List.filterMap_map]
    exact List.filterMap_some
  have hroutines : plan.isrPhases.map (fun phase => Item.prototype (plan.controllerSignature phase)) =
      plan.routineSignatures.map Item.prototype := by
    rw [routineSignatures, List.map_map]
    rfl
  rw [declaredFunctions, prototypes, hroutines]
  simp [List.filterMap_cons, Item.prototype?, hdeclared]

theorem mem_offeredSignatures {signature : Signature} :
    signature ∈ plan.offeredSignatures ↔
      signature ∈ plan.controlSignatures ∨ signature ∈ plan.looseSignatures := by
  simp only [offeredSignatures, controlSignatures, looseSignatures, List.mem_cons, List.not_mem_nil,
    or_false]
  tauto

theorem definedFunctions_interruptHandlers :
    definedFunctions plan.interruptHandlers =
      plan.helperSignatures.take 1 ++ plan.routineSignatures ++ plan.helperSignatures.drop 1 := by
  have hroutines : definedFunctions (plan.isrPhases.flatMap plan.controllerFunction) =
      plan.routineSignatures := by
    rw [definedFunctions_flatMap, routineSignatures, List.map_eq_flatMap]
    rfl
  rw [interruptHandlers, definedFunctions_append, definedFunctions_append, hroutines]
  rfl

theorem mem_definedFunctions {signature : Signature} :
    signature ∈ definedFunctions plan.initFunction ∨ signature ∈ definedFunctions plan.controlFunctions ∨
        signature ∈ definedFunctions plan.interruptHandlers ↔
      signature ∈ plan.controlSignatures ∨ signature ∈ plan.helperSignatures ∨
        signature ∈ plan.routineSignatures := by
  have hinit : definedFunctions plan.initFunction = [plan.signature "init" []] := rfl
  have hcontrol : definedFunctions plan.controlFunctions =
      [plan.signature "startAll" [], plan.signature "stopAll" [],
       plan.signature "setFsw" [⟨"uint32_t", "fsw"⟩], plan.setDutySignature,
       plan.signature "setDeadtimePos" [⟨"uint32_t", "deadtime"⟩],
       plan.signature "setDeadtimeNeg" [⟨"uint32_t", "deadtime"⟩]] := rfl
  rw [definedFunctions_interruptHandlers, hinit, hcontrol]
  simp only [controlSignatures, helperSignatures, List.mem_append, List.mem_cons, List.not_mem_nil,
    or_false, List.take, List.drop]
  tauto

/-! ### Names -/

/-- How the names of the defined functions end. -/
def definedEndings : List String :=
  ["_init", "_startAll", "_stopAll", "_setFsw", "_setDuty", "_setDeadtimeNeg", "_setDeadtimePos",
   "_CurrentController", "_init_DMA_ISR", "_updatePhaseShift", "_Controller"]

theorem ending_of_defined {signature : Signature}
    (h : signature ∈ plan.controlSignatures ∨ signature ∈ plan.helperSignatures ∨
      signature ∈ plan.routineSignatures) :
    ∃ front, ∃ ending ∈ definedEndings, signature.name = front ++ ending := by
  have hname : ∀ action ending, "_" ++ action = ending → plan.function action = plan.stem ++ ending := by
    rintro action _ rfl
    rw [DriverPlan.function, String.append_assoc]
  rcases h with h | h | h
  · simp only [controlSignatures, setDutySignature, List.mem_cons, List.not_mem_nil, or_false] at h
    refine ⟨plan.stem, ?_⟩
    rcases h with rfl | rfl | rfl | rfl | rfl | rfl | rfl <;>
      exact ⟨_, by simp [definedEndings], hname _ _ rfl⟩
  · simp only [helperSignatures, List.mem_cons, List.not_mem_nil, or_false] at h
    refine ⟨plan.stem, ?_⟩
    rcases h with rfl | rfl | rfl <;>
      exact ⟨_, by simp [definedEndings], hname _ _ rfl⟩
  · obtain ⟨phase, -, rfl⟩ := List.mem_map.1 h
    refine ⟨plan.stem ++ "_" ++ phase.name, "_Controller", by simp [definedEndings], ?_⟩
    simp only [controllerSignature, Signature.name, controller, DriverPlan.function, String.append_assoc]

/-- No function is defined under the name of one of the three. -/
theorem name_ne_of_loose {signature : Signature}
    (h : signature ∈ plan.controlSignatures ∨ signature ∈ plan.helperSignatures ∨
      signature ∈ plan.routineSignatures) {action : String} (haction : action ∈ looseActions)
    (other : DriverPlan) : signature.name ≠ other.function action := by
  obtain ⟨front, ending, hending, hname⟩ := plan.ending_of_defined h
  have hends : ∀ action ∈ looseActions, ∀ ending ∈ definedEndings,
      endsWith ending ("_" ++ action) = false ∧ endsWith ("_" ++ action) ending = false := by
    decide
  obtain ⟨hother, hback⟩ := hends action haction ending hending
  rw [hname, DriverPlan.function, String.append_assoc]
  exact append_ne_append hother hback front other.stem

/-! ### Calls -/

/-- What a driver calls is a library function or a function of its own. -/
def Resolves (callee : String) : Prop :=
  callee ∈ libraryFunctions ∨ ∃ action ∈ calledActions, callee = plan.function action

/-- Each of some calls is resolved. -/
def Links (callees : List String) : Prop := ∀ callee ∈ callees, plan.Resolves callee

variable {plan}

@[simp] theorem callees_setting (field : String) : (plan.setting field).callees = [] := by
  simp [setting, config, Expr.callees]

@[simp] theorem callees_phaseSetting (field : String) : (plan.phaseSetting field).callees = [] := by
  simp [phaseSetting, phaseState, setting, config, Expr.callees]

@[simp] theorem callees_pwmCounter (phase : PhasePlan) (more : List Expr) :
    Expr.listCallees (pwmCounter phase ++ more) = Expr.listCallees more := by
  simp [pwmCounter, Expr.listCallees, Expr.callees]

@[simp] theorem callees_callLine (callee : String) (arguments : List Expr) :
    (callLine callee arguments).callees = callee :: Expr.listCallees arguments := by
  rw [callLine, Simple.callees, Expr.callees]

@[simp] theorem callees_callStatement (callee : String) (arguments : List Expr) :
    (callStatement callee arguments).callees = callee :: Expr.listCallees arguments :=
  callees_callLine callee arguments

@[simp] theorem callees_assignStatement (target value : Expr) :
    (assignStatement target value).callees = target.callees ++ value.callees := rfl

@[simp] theorem callees_blankStatement : blankStatement.callees = [] := rfl

@[simp] theorem callees_remarkStatement (text : String) : (remarkStatement text).callees = [] := rfl

@[simp] theorem links_nil : plan.Links [] := List.forall_mem_nil _

@[simp] theorem links_cons {callee : String} {callees : List String} :
    plan.Links (callee :: callees) ↔ plan.Resolves callee ∧ plan.Links callees := List.forall_mem_cons

@[simp] theorem links_append {xs ys : List String} :
    plan.Links (xs ++ ys) ↔ plan.Links xs ∧ plan.Links ys := List.forall_mem_append

theorem links_flatMap {α : Type} {elements : List α} {f : α → List String}
    (h : ∀ element ∈ elements, plan.Links (f element)) : plan.Links (elements.flatMap f) :=
  List.forall_mem_flatMap.2 h

theorem links_bodies {α : Type} {elements : List α} {f : α → List Statement}
    (h : ∀ element ∈ elements, plan.Links (bodyCallees (f element))) :
    plan.Links (bodyCallees (elements.flatMap f)) := by
  rw [bodyCallees, List.flatMap_assoc]
  exact links_flatMap h

theorem links_statements {α : Type} {elements : List α} {f : α → Statement}
    (h : ∀ element ∈ elements, plan.Links (f element).callees) :
    plan.Links (bodyCallees (elements.map f)) := by
  rw [bodyCallees, List.flatMap_map]
  exact links_flatMap h

theorem links_triggerSetups (input : TriggerInput) :
    plan.Links (bodyCallees (plan.triggerSetups input)) := by
  have hsetups : plan.Links (bodyCallees (plan.phases.map (triggerSetup input))) :=
    links_statements fun phase _ => by
      simp [triggerSetup, Expr.listCallees, Expr.callees, Resolves, libraryFunctions]
  simp [triggerSetups, hsetups]

theorem links_initBody : plan.Links (bodyCallees plan.initBody) := by
  have hcounters : plan.Links (bodyCallees (plan.phases.flatMap counterSetup)) :=
    links_bodies fun phase _ => by
      simp [counterSetup, pwmCounter, Expr.listCallees, Expr.callees, Resolves, libraryFunctions]
  simp [initBody, hcounters, links_triggerSetups, Expr.listCallees, Expr.callees, Resolves,
    libraryFunctions, calledActions]

theorem links_setFswBody : plan.Links (bodyCallees plan.setFswBody) := by
  have hperiods : plan.Links (bodyCallees (plan.phases.map plan.periodUpdate)) :=
    links_statements fun phase _ => by
      simp [periodUpdate, Expr.listCallees, Resolves, libraryFunctions]
  have hrefresh : plan.Links (bodyCallees plan.dutyRefresh) := by
    unfold dutyRefresh
    split <;> simp [Expr.listCallees, Expr.callees, Resolves, calledActions]
  simp [setFswBody, hperiods, hrefresh, Expr.callees]

theorem links_setDutyBody : plan.Links (bodyCallees plan.setDutyBody) := by
  have hcases : plan.Links ((plan.phases.map plan.dutyCase).flatMap Case.callees) := by
    rw [List.flatMap_map]
    exact links_flatMap fun phase _ => by
      simp [dutyCase, Case.callees, Expr.listCallees, Expr.callees, Resolves, libraryFunctions]
  simp [setDutyBody, hcases, fireTrigger, Expr.listCallees, Expr.callees, Resolves, libraryFunctions]

theorem links_deadtimeFunction {deadtime : Deadtime} (h : deadtime.callee ∈ libraryFunctions) :
    plan.Links (Listing.callees (plan.deadtimeFunction deadtime)) := by
  have hupdates : plan.Links (bodyCallees (plan.phases.map (deadtimeUpdate deadtime))) :=
    links_statements fun phase _ => by
      simp [deadtimeUpdate, Expr.listCallees, Expr.callees, Resolves, h]
  simp [deadtimeFunction, Item.callees, hupdates, Expr.callees]

theorem links_controlFunctions : plan.Links (Listing.callees plan.controlFunctions) := by
  have hpositive : plan.Links (Listing.callees (plan.deadtimeFunction positiveDeadtime)) :=
    links_deadtimeFunction (by simp [positiveDeadtime, libraryFunctions])
  have hnegative : plan.Links (Listing.callees (plan.deadtimeFunction negativeDeadtime)) :=
    links_deadtimeFunction (by simp [negativeDeadtime, libraryFunctions])
  simp [controlFunctions, Item.callees, links_setFswBody, links_setDutyBody, hpositive, hnegative,
    startBody, stopBody, fireTrigger, Expr.listCallees, Expr.callees, Resolves, libraryFunctions]

theorem links_controllerBody (phase : PhasePlan) :
    plan.Links (bodyCallees (plan.controllerBody phase)) := by
  have hclear : plan.Links (bodyCallees (dmaClear phase)) := by
    unfold dmaClear
    split <;> simp [Expr.listCallees, Expr.callees, Resolves, libraryFunctions]
  simp [controllerBody, hclear, Expr.listCallees, Expr.callees, Resolves, calledActions,
    libraryFunctions]

theorem links_interruptHandlers : plan.Links (Listing.callees plan.interruptHandlers) := by
  have hcontrollers : plan.Links (Listing.callees (plan.isrPhases.flatMap plan.controllerFunction)) := by
    rw [callees_flatMap]
    exact links_flatMap fun phase _ => by
      simp [controllerFunction, Item.callees, links_controllerBody]
  have hcurrent : plan.Links (bodyCallees plan.currentControllerBody) := by
    simp [currentControllerBody, scaledOutput, Expr.listCallees, Expr.callees, Resolves,
      calledActions]
  have hshifts : plan.Links (bodyCallees (plan.phases.flatMap phaseShiftRemark)) :=
    links_bodies fun phase _ => by
      unfold phaseShiftRemark
      split <;> simp
  simp [interruptHandlers, Item.callees, hcontrollers, hcurrent, hshifts]

end DriverPlan

/-! ## Functions of the files -/

section Files

variable {base stamp : String} {plans : List DriverPlan} {signature : Signature}

theorem declaredFunctions_headerFront : declaredFunctions (headerFront base stamp plans) = [] := by
  have hmode : ∀ plan : DriverPlan, declaredFunctions plan.modeEnum = [] := fun _ => rfl
  have hlimits : ∀ plan : DriverPlan, declaredFunctions plan.dutyLimits = [] := fun _ => rfl
  have hphase : ∀ plan : DriverPlan, declaredFunctions plan.phaseStruct = [] := fun _ => rfl
  have hconfig : ∀ plan : DriverPlan, declaredFunctions plan.configStruct = [] := fun _ => rfl
  have hadc : ∀ plan : DriverPlan, declaredFunctions plan.adcDefinitions = [] := by
    intro plan
    have hmacros : declaredFunctions (plan.phases.flatMap plan.adcMacros) = [] := by
      rw [declaredFunctions_flatMap]
      exact flatMap_none plan.phases
    rw [DriverPlan.adcDefinitions, ← List.singleton_append, declaredFunctions_append,
      declaredFunctions_append, hmacros]
    rfl
  have hphases : declaredFunctions (phaseEnum plans) = [] := by
    unfold phaseEnum
    split <;> rfl
  simp only [headerFront, declaredFunctions_append, declaredFunctions_flatMap, hmode, hlimits, hphase,
    hconfig, hadc, hphases, flatMap_none]
  rfl

theorem mem_declaredFunctions_header :
    signature ∈ declaredFunctions (header base stamp plans) ↔
      ∃ plan ∈ plans, signature ∈ plan.controlSignatures ∨ signature ∈ plan.looseSignatures ∨
        signature ∈ plan.routineSignatures := by
  have hback : declaredFunctions [.blank, .endGuard (Naming.includeGuard base)] = [] := rfl
  rw [header_eq]
  simp only [declaredFunctions_append, declaredFunctions_headerFront, hback, declaredFunctions_flatMap,
    DriverPlan.declaredFunctions_prototypes, List.nil_append, List.append_nil, List.mem_flatMap,
    List.mem_append, DriverPlan.mem_offeredSignatures, or_assoc]

theorem mem_definedFunctions_source :
    signature ∈ definedFunctions (source base stamp plans) ↔
      ∃ plan ∈ plans, signature ∈ plan.controlSignatures ∨ signature ∈ plan.helperSignatures ∨
        signature ∈ plan.routineSignatures := by
  have hfront : definedFunctions (sourceFront base stamp plans) = [] := by
    have hhelpers : ∀ plan : DriverPlan, definedFunctions plan.helperDeclarations = [] := fun _ => rfl
    have hinstance : ∀ plan : DriverPlan, definedFunctions plan.configInstance = [] := fun _ => rfl
    simp only [sourceFront, definedFunctions_append, definedFunctions_flatMap, hhelpers, hinstance,
      flatMap_none]
    rfl
  rw [source_eq]
  simp only [definedFunctions_append, definedFunctions_flatMap, hfront, List.nil_append, List.mem_append,
    List.mem_flatMap, ← DriverPlan.mem_definedFunctions]
  constructor
  · rintro ((⟨plan, hplan, h⟩ | ⟨plan, hplan, h⟩) | ⟨plan, hplan, h⟩)
    · exact ⟨plan, hplan, .inl h⟩
    · exact ⟨plan, hplan, .inr (.inl h)⟩
    · exact ⟨plan, hplan, .inr (.inr h)⟩
  · rintro ⟨plan, hplan, h | h | h⟩
    · exact .inl (.inl ⟨plan, hplan, h⟩)
    · exact .inl (.inr ⟨plan, hplan, h⟩)
    · exact .inr ⟨plan, hplan, h⟩

theorem callees_sourceFront : Listing.callees (sourceFront base stamp plans) = [] := by
  have hhelpers : ∀ plan : DriverPlan, Listing.callees plan.helperDeclarations = [] := fun _ => rfl
  have hinstance : ∀ plan : DriverPlan, Listing.callees plan.configInstance = [] := fun _ => by
    simp [DriverPlan.configInstance, Item.callees, Expr.callees]
  simp only [sourceFront, callees_append, callees_flatMap, hhelpers, hinstance, flatMap_none]
  rfl

/-- What a source calls is called by one of the drivers. -/
theorem resolves_source :
    ∀ callee ∈ Listing.callees (source base stamp plans), ∃ plan ∈ plans, plan.Resolves callee := by
  have hpart : ∀ {part : DriverPlan → List Item},
      (∀ plan : DriverPlan, plan.Links (Listing.callees (part plan))) →
      ∀ callee ∈ Listing.callees (plans.flatMap part), ∃ plan ∈ plans, plan.Resolves callee := by
    intro part hlinks callee hcallee
    rw [callees_flatMap] at hcallee
    obtain ⟨plan, hplan, hmem⟩ := List.mem_flatMap.1 hcallee
    exact ⟨plan, hplan, hlinks plan callee hmem⟩
  have hinit : ∀ plan : DriverPlan, plan.Links (Listing.callees plan.initFunction) := fun plan => by
    simp [DriverPlan.initFunction, Item.callees, DriverPlan.links_initBody]
  rw [source_eq]
  simp only [callees_append, callees_sourceFront, List.nil_append, List.forall_mem_append]
  exact ⟨⟨hpart hinit, hpart fun _ => DriverPlan.links_controlFunctions⟩,
    hpart fun _ => DriverPlan.links_interruptHandlers⟩

end Files

/-! ## Linking -/

/-- The names that a source defines. -/
def definedNames (listing : Listing) : List String := (definedFunctions listing).map Signature.name

/-- A header and a source that link, apart from three functions of each driver. -/
structure NearlyLinked (plans : List DriverPlan) (header source : Listing) : Prop where
  /-- A function that is declared is defined with the same signature, unless it is one of the three. -/
  defined : ∀ signature ∈ declaredFunctions header,
    signature ∈ definedFunctions source ↔ ¬∃ plan ∈ plans, signature ∈ plan.looseSignatures
  /-- The three are declared, and nothing is defined under their names. -/
  loose : ∀ plan ∈ plans, ∀ signature ∈ plan.looseSignatures,
    signature ∈ declaredFunctions header ∧ signature.name ∉ definedNames source
  /-- What is called is a library function or a function of a driver, which is defined unless it sets
      the mode. -/
  called : ∀ callee ∈ Listing.callees source,
    callee ∈ libraryFunctions ∨ ∃ plan ∈ plans, ∃ action ∈ calledActions,
      callee = plan.function action ∧ (callee ∈ definedNames source ↔ action ≠ "setMode")
  /-- Each driver calls the function that sets its mode. -/
  modeSet : ∀ plan ∈ plans, plan.function "setMode" ∈ Listing.callees source

section Files

variable {base stamp : String} {plans : List DriverPlan}

theorem looseActions_names {plan : DriverPlan} {signature : Signature}
    (h : signature ∈ plan.looseSignatures) : ∃ action ∈ looseActions, signature.name = plan.function action := by
  simp only [DriverPlan.looseSignatures, List.mem_cons, List.not_mem_nil, or_false] at h
  rcases h with rfl | rfl | rfl <;> exact ⟨_, by simp [looseActions], rfl⟩

theorem function_notMem_definedNames {action : String} (h : action ∈ looseActions) (plan : DriverPlan) :
    plan.function action ∉ definedNames (source base stamp plans) := by
  intro hmem
  obtain ⟨signature, hsignature, hname⟩ := List.mem_map.1 hmem
  obtain ⟨other, -, hdefined⟩ := mem_definedFunctions_source.1 hsignature
  exact other.name_ne_of_loose hdefined h plan hname

theorem function_mem_definedNames {plan : DriverPlan} (hplan : plan ∈ plans) {action : String}
    (h : action ∈ calledActions) (hmode : action ≠ "setMode") :
    plan.function action ∈ definedNames (source base stamp plans) := by
  have hnamed : ∃ signature, (signature ∈ plan.controlSignatures ∨ signature ∈ plan.helperSignatures) ∧
      signature.name = plan.function action := by
    simp only [calledActions, List.mem_cons, List.not_mem_nil, or_false] at h
    simp only [DriverPlan.controlSignatures, DriverPlan.helperSignatures]
    rcases h with rfl | rfl | rfl | rfl | rfl | rfl | rfl | rfl
    · exact ⟨plan.signature "setFsw" [⟨"uint32_t", "fsw"⟩], by simp, rfl⟩
    · exact ⟨plan.helperSignature "updatePhaseShift" [], by simp, rfl⟩
    · exact ⟨plan.helperSignature "init_DMA_ISR" [], by simp, rfl⟩
    · contradiction
    · exact ⟨plan.signature "setDeadtimePos" [⟨"uint32_t", "deadtime"⟩], by simp, rfl⟩
    · exact ⟨plan.signature "setDeadtimeNeg" [⟨"uint32_t", "deadtime"⟩], by simp, rfl⟩
    · exact ⟨plan.setDutySignature, by simp, rfl⟩
    · exact ⟨_, .inr List.mem_cons_self, rfl⟩
  obtain ⟨signature, hsignature, hname⟩ := hnamed
  exact hname ▸ List.mem_map_of_mem (mem_definedFunctions_source.2
    ⟨plan, hplan, hsignature.elim .inl (.inr ∘ .inl)⟩)

theorem setMode_mem_callees {plan : DriverPlan} (hplan : plan ∈ plans) :
    plan.function "setMode" ∈ Listing.callees (source base stamp plans) := by
  have hinit : plan.function "setMode" ∈ Listing.callees plan.initFunction := by
    simp [DriverPlan.initFunction, Item.callees, DriverPlan.initBody]
  rw [source_eq]
  simp only [callees_append, callees_flatMap, List.mem_append, List.mem_flatMap]
  exact .inl (.inl (.inr ⟨plan, hplan, hinit⟩))

theorem nearlyLinked_files : NearlyLinked plans (header base stamp plans) (source base stamp plans) := by
  have hloose : ∀ plan : DriverPlan, ∀ signature ∈ plan.looseSignatures,
      signature.name ∉ definedNames (source base stamp plans) := by
    intro plan signature hsignature
    obtain ⟨action, haction, hname⟩ := looseActions_names hsignature
    exact hname ▸ function_notMem_definedNames haction plan
  refine ⟨fun signature hdeclared => ⟨?_, ?_⟩, fun plan hplan signature hsignature => ⟨?_, ?_⟩,
    fun callee hcallee => ?_, fun plan hplan => setMode_mem_callees hplan⟩
  · rintro hdefined ⟨plan, -, hsignature⟩
    exact hloose plan signature hsignature (List.mem_map_of_mem hdefined)
  · intro hnone
    obtain ⟨plan, hplan, h | h | h⟩ := mem_declaredFunctions_header.1 hdeclared
    · exact mem_definedFunctions_source.2 ⟨plan, hplan, .inl h⟩
    · exact absurd ⟨plan, hplan, h⟩ hnone
    · exact mem_definedFunctions_source.2 ⟨plan, hplan, .inr (.inr h)⟩
  · exact mem_declaredFunctions_header.2 ⟨plan, hplan, .inr (.inl hsignature)⟩
  · exact hloose plan signature hsignature
  · obtain ⟨plan, hplan, hlibrary | ⟨action, haction, rfl⟩⟩ := resolves_source callee hcallee
    · exact .inl hlibrary
    · refine .inr ⟨plan, hplan, action, haction, rfl, ?_, function_mem_definedNames hplan haction⟩
      rintro hdefined rfl
      exact function_notMem_definedNames (by simp [looseActions]) plan hdefined

end Files

/-- The files of drivers link apart from three functions of each driver, of which one is called. -/
theorem nearlyLinked_generate {ρ : Type} (scheme : NamingScheme) (clock : TimeSource ρ) (state : ρ)
    (modulators : List Modulator) :
    ∃ base stamp,
      (generate scheme clock modulators state).1.header =
        Listing.text layout (header base stamp (plansOf scheme modulators)) ∧
      (generate scheme clock modulators state).1.source =
        Listing.text layout (source base stamp (plansOf scheme modulators)) ∧
      NearlyLinked (plansOf scheme modulators)
        (header base stamp (plansOf scheme modulators))
        (source base stamp (plansOf scheme modulators)) := by
  refine ⟨Naming.baseFileName scheme.fallbackBaseName modulators, (clock.read state).1.timestamp, ?_,
    ?_, nearlyLinked_files⟩
  · rw [files_generate, FilePair.header_ofBase]
  · rw [files_generate, FilePair.source_ofBase]

/-- One modulator with one phase. -/
def singlePhase : List Modulator := [{ name := "Buck 1", phases := [{ pwm := "PWM_A" }] }]

theorem names_singlePhase :
    Naming.instanceName "Buck 1" = "buck_1" ∧ NamingScheme.symbolStem {} "Buck 1" = "BUCK_1" := by
  decide

/-- The mode of this driver is set by a function that is declared and called, but not defined. -/
theorem modeUnset_singlePhase :
    (∀ modulator ∈ singlePhase, modulator.OneLine) ∧
      (singlePhase.map fun modulator => Naming.instanceName modulator.name).Nodup ∧
      ∃ base stamp,
        (generate {} (.fixed ⟨2024, 2, 29, 12, 0, 0, 0⟩) singlePhase ()).1.header =
          Listing.text layout (header base stamp (plansOf {} singlePhase)) ∧
        (generate {} (.fixed ⟨2024, 2, 29, 12, 0, 0, 0⟩) singlePhase ()).1.source =
          Listing.text layout (source base stamp (plansOf {} singlePhase)) ∧
        .function .plain "void" "buck_1_setMode" [⟨"BUCK_1_mode_t", "mode"⟩] ∈
          declaredFunctions (header base stamp (plansOf {} singlePhase)) ∧
        "buck_1_setMode" ∈ Listing.callees (source base stamp (plansOf {} singlePhase)) ∧
        "buck_1_setMode" ∉ definedNames (source base stamp (plansOf {} singlePhase)) := by
  have hline : ∀ modulator ∈ singlePhase, modulator.OneLine := by
    exact List.forall_mem_singleton.2 ⟨oneLine_ofList rfl, oneLine_ofList rfl, oneLine_ofList rfl,
      List.forall_mem_singleton.2 (oneLine_ofList rfl), List.forall_mem_singleton.2 (oneLine_ofList rfl)⟩
  set plan := DriverPlan.ofModulator {} { name := "Buck 1", phases := [{ pwm := "PWM_A" }] }
  have hplan : plan ∈ plansOf {} singlePhase := List.mem_singleton_self plan
  have hfunction : plan.function "setMode" = "buck_1_setMode" := by
    have hstem : plan.stem = "buck_1" := names_singlePhase.1
    rw [DriverPlan.function, hstem]
    decide
  have hsignature : plan.signature "setMode" [⟨plan.modeType, "mode"⟩] =
      .function .plain "void" "buck_1_setMode" [⟨"BUCK_1_mode_t", "mode"⟩] := by
    have hsymbol : plan.symbol = "BUCK_1" := names_singlePhase.2
    have hmode : plan.modeType = "BUCK_1_mode_t" := by
      rw [DriverPlan.modeType, hsymbol]
      decide
    rw [DriverPlan.signature, hfunction, hmode]
  refine ⟨hline, List.pairwise_singleton _ _, Naming.baseFileName "modulator_config" singlePhase,
    DateTime.timestamp ⟨2024, 2, 29, 12, 0, 0, 0⟩, ?_, ?_, ?_, ?_, ?_⟩
  · rw [files_generate, FilePair.header_ofBase]
    rfl
  · rw [files_generate, FilePair.source_ofBase]
    rfl
  · rw [← hsignature]
    exact (nearlyLinked_files.loose plan hplan _ (by simp [DriverPlan.looseSignatures])).1
  · exact hfunction ▸ nearlyLinked_files.modeSet plan hplan
  · exact hfunction ▸ function_notMem_definedNames (by simp [looseActions]) plan

end FirmwareGen.Modulators
