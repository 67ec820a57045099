-- SUMMARY: What the functions of a driver call, in the source as it is written.
import FirmwareGen.Proofs.Modulators.Quiet
/-!
# Calls of generated drivers

The calls that are read from the lines of a generated source are those of the bodies that the
drivers were given, function by function and in the order of the drivers.
-/

namespace FirmwareGen.Modulators

open C Text

namespace DriverPlan

/-- A driver's functions of one kind, with what they call in the order in which it is written. -/
def calls (plan : DriverPlan) (role : Role) : List (String × String) :=
  (plan.bodies role).flatMap fun body => body.flatMap Statement.calls

end DriverPlan

/-! ## Calls of bodies -/

/-- The counter block and the counter number of a PWM resource, as arguments are written. -/
def counterArguments (pwm : String) : String := pwm ++ "_HW, " ++ pwm ++ "_NUM"

/-- What is written behind the counter when an input is set up for a trigger line. -/
def triggerSource (name line : String) : String :=
  ", " ++ name ++ ", CY_TCPWM_INPUT_RISINGEDGE, CY_TCPWM_INPUT_TRIG" ++ line

def TriggerInput.arguments (input : TriggerInput) : String :=
  triggerSource input.input ("(" ++ toString input.line ++ ")")

/-- A member of the part of a configuration object that the phases share, as it is written. -/
def phaseMember (stem field : String) : String := stem ++ "_config." ++ stem ++ "." ++ field

/-- A trigger output and how it is fired, as arguments are written. -/
def triggerArguments (line mode : String) : String :=
  Expr.printList [.name ("TRIG_OUT_MUX_10_TCPWM0_TR_" ++ line), .name mode]

@[simp] theorem call?_callLine (callee : String) (arguments : List Expr) :
    (callLine callee arguments).call? = some (callee, Expr.printList arguments) := rfl

@[simp] theorem calls_call (callee : String) (arguments : List Expr) :
    (callStatement callee arguments).calls = [(callee, Expr.printList arguments)] := rfl

@[simp] theorem calls_assign (target value : Expr) : (assignStatement target value).calls = [] := rfl

@[simp] theorem calls_blank : blankStatement.calls = [] := rfl

@[simp] theorem calls_remark (text : String) : (remarkStatement text).calls = [] := rfl

@[simp] theorem calls_trigger (line mode : String) :
    (fireTrigger line mode).calls = [("Cy_TrigMux_SwTrigger", triggerArguments line mode)] := rfl

theorem printList_counter (phase : PhasePlan) :
    Expr.printList (pwmCounter phase) = counterArguments phase.pwm := by
  simp [pwmCounter, counterArguments, Expr.printList, Expr.print, ← String.toList_inj]

theorem printList_counter_append (phase : PhasePlan) (argument : Expr) (rest : List Expr) :
    Expr.printList (pwmCounter phase ++ argument :: rest) =
      counterArguments phase.pwm ++ ", " ++ Expr.printList (argument :: rest) := by
  simp [pwmCounter, counterArguments, Expr.printList, Expr.print, ← String.toList_inj]

theorem flatMap_calls_map {α : Type} {statement : α → Statement} {call : α → String × String}
    (h : ∀ x, (statement x).calls = [call x]) (xs : List α) :
    (xs.map statement).flatMap Statement.calls = xs.map call := by
  rw [List.flatMap_map, List.map_eq_flatMap]
  simp only [h]

namespace DriverPlan

variable (plan : DriverPlan)

theorem print_setting (field : String) :
    (plan.setting field).print = plan.stem ++ "_config." ++ field := by
  simp [setting, config, configObject, Expr.print, ← String.toList_inj]

theorem print_phaseSetting (field : String) :
    (plan.phaseSetting field).print = phaseMember plan.stem field := by
  simp [phaseSetting, phaseState, phaseMember, Expr.print, print_setting]

theorem calls_counterSetup (phase : PhasePlan) :
    (counterSetup phase).flatMap Statement.calls =
      [("Cy_TCPWM_PWM_Init", counterArguments phase.pwm ++ ", &" ++ phase.pwm ++ "_config"),
       ("Cy_TCPWM_PWM_Enable", counterArguments phase.pwm)] := by
  have hconfig : Expr.printList [.unary .addressOf (.name (phase.pwm ++ "_config"))] =
      "&" ++ (phase.pwm ++ "_config") := rfl
  simp only [counterSetup, List.flatMap_cons, calls_call, printList_counter,
    printList_counter_append, hconfig, List.flatMap_nil, List.append_nil, List.cons_append,
    List.nil_append]
  simp [← String.toList_inj]

theorem calls_triggerSetups (input : TriggerInput) :
    (plan.triggerSetups input).flatMap Statement.calls = plan.phases.map fun phase =>
      ("Cy_TCPWM_InputTriggerSetup", counterArguments phase.pwm ++ input.arguments) := by
  have hphase : ∀ phase, (triggerSetup input phase).calls =
      [("Cy_TCPWM_InputTriggerSetup", counterArguments phase.pwm ++ input.arguments)] := by
    intro phase
    simp only [triggerSetup, calls_call, printList_counter_append, Expr.printList, Expr.print]
    simp [TriggerInput.arguments, triggerSource, ← String.toList_inj]
  rw [triggerSetups, List.flatMap_append, List.flatMap_cons, flatMap_calls_map hphase]
  simp

theorem calls_init :
    plan.calls .init =
      plan.phases.flatMap (fun phase =>
        [("Cy_TCPWM_PWM_Init", counterArguments phase.pwm ++ ", &" ++ phase.pwm ++ "_config"),
         ("Cy_TCPWM_PWM_Enable", counterArguments phase.pwm)]) ++
      [killInput, swapInput, startInput].flatMap (fun input => plan.phases.map fun phase =>
        ("Cy_TCPWM_InputTriggerSetup", counterArguments phase.pwm ++ input.arguments)) ++
      [(plan.function "setFsw", (plan.setting "fsw").print),
       (plan.function "updatePhaseShift", ""),
       (plan.function "init_DMA_ISR", ""),
       (plan.function "setMode", plan.openLoop),
       (plan.function "setDeadtimePos", (plan.setting "deadtimePos").print),
       (plan.function "setDeadtimeNeg", (plan.setting "deadtimeNeg").print)] := by
  have hcounters : (plan.phases.flatMap counterSetup).flatMap Statement.calls =
      plan.phases.flatMap fun phase =>
        [("Cy_TCPWM_PWM_Init", counterArguments phase.pwm ++ ", &" ++ phase.pwm ++ "_config"),
         ("Cy_TCPWM_PWM_Enable", counterArguments phase.pwm)] := by
    rw [List.flatMap_assoc]
    simp only [calls_counterSetup]
  rw [calls, bodies, List.flatMap_singleton, initBody]
  simp only [List.flatMap_append, hcounters, calls_triggerSetups]
  simp only [List.flatMap_cons, List.flatMap_nil, calls_assign, calls_blank, calls_call,
    Expr.printList, Expr.print, List.append_nil, List.nil_append, List.cons_append,
    List.append_assoc]

theorem calls_startAll :
    plan.calls .startAll =
      [("Cy_TrigMux_SwTrigger", triggerArguments "IN4" "CY_TRIGGER_TWO_CYCLES"),
       ("Cy_TrigMux_SwTrigger", triggerArguments "IN5" "CY_TRIGGER_DEACTIVATE")] := by
  simp [calls, bodies, startBody]

theorem calls_stopAll :
    plan.calls .stopAll =
      [("Cy_TrigMux_SwTrigger", triggerArguments "IN5" "CY_TRIGGER_INFINITE")] := by
  simp [calls, bodies, stopBody]

/-- The call that recomputes the duty cycle, if there is an active phase. -/
def refreshCalls (plan : DriverPlan) : List (String × String) :=
  plan.phases.head?.toList.map fun first =>
    (plan.function "setDuty", first.enumerator ++ ", " ++ phaseMember plan.stem "duty")

theorem calls_dutyRefresh :
    plan.dutyRefresh.flatMap Statement.calls = plan.refreshCalls := by
  unfold dutyRefresh refreshCalls
  cases plan.phases with
  | nil => rfl
  | cons first rest => simp [Expr.printList, Expr.print, print_phaseSetting]

theorem calls_setFsw :
    plan.calls .setFsw =
      plan.phases.map (fun phase =>
        ("Cy_TCPWM_PWM_SetPeriod1",
          counterArguments phase.pwm ++ ", " ++ phaseMember plan.stem "period")) ++
      plan.refreshCalls := by
  have hperiod : ∀ phase, (plan.periodUpdate phase).calls =
      [("Cy_TCPWM_PWM_SetPeriod1",
        counterArguments phase.pwm ++ ", " ++ phaseMember plan.stem "period")] := by
    intro phase
    rw [periodUpdate, calls_call, printList_counter_append, Expr.printList, print_phaseSetting]
  simp [calls, bodies, setFswBody, flatMap_calls_map hperiod, calls_dutyRefresh]

theorem calls_setDuty :
    plan.calls .setDuty =
      plan.phases.map (fun phase =>
        ("Cy_TCPWM_PWM_SetCompare0BufVal",
          counterArguments phase.pwm ++ ", compare + " ++
            phaseMember plan.stem "compareValueOffset")) ++
      [("Cy_TrigMux_SwTrigger", triggerArguments "IN6" "CY_TRIGGER_TWO_CYCLES")] := by
  have hcase : ∀ phase, (plan.dutyCase phase).body.filterMap Simple.call? =
      [("Cy_TCPWM_PWM_SetCompare0BufVal",
        counterArguments phase.pwm ++ ", compare + " ++
          phaseMember plan.stem "compareValueOffset")] := by
    intro phase
    simp [dutyCase, List.filterMap_cons, printList_counter_append, Expr.printList, Expr.print,
      print_phaseSetting, BinaryOp.symbol, ← String.toList_inj]
  simp [calls, bodies, setDutyBody, List.flatMap_map, hcase, ← List.map_eq_flatMap]

theorem calls_deadtimeBody (deadtime : Deadtime) :
    (plan.deadtimeBody deadtime).flatMap Statement.calls =
      plan.phases.map fun phase =>
        (deadtime.callee, counterArguments phase.pwm ++ ", deadtime") := by
  have hupdate : ∀ phase, (deadtimeUpdate deadtime phase).calls =
      [(deadtime.callee, counterArguments phase.pwm ++ ", deadtime")] := by
    intro phase
    simp [deadtimeUpdate, printList_counter_append, Expr.printList, Expr.print,
      ← String.toList_inj]
  simp [deadtimeBody, flatMap_calls_map hupdate]

theorem calls_setDeadtimePos :
    plan.calls .setDeadtimePos = plan.phases.map fun phase =>
      ("Cy_TCPWM_PWM_PWMDeadTime", counterArguments phase.pwm ++ ", deadtime") := by
  simp only [calls, bodies, List.flatMap_singleton, calls_deadtimeBody, positiveDeadtime]

theorem calls_setDeadtimeNeg :
    plan.calls .setDeadtimeNeg = plan.phases.map fun phase =>
      ("Cy_TCPWM_PWM_PWMDeadTimeN", counterArguments phase.pwm ++ ", deadtime") := by
  simp only [calls, bodies, List.flatMap_singleton, calls_deadtimeBody, negativeDeadtime]

theorem calls_currentController :
    plan.calls .currentController = [(plan.function "setDuty", "phase, duty")] := by
  simp [calls, bodies, currentControllerBody, Expr.printList, Expr.print]

theorem calls_controllerBody (phase : PhasePlan) :
    (plan.controllerBody phase).flatMap Statement.calls =
      (plan.function "CurrentController", phase.enumerator ++ ", err") ::
        if phase.phase.triggerAdc then
          [("Cy_DMA_Channel_ClearInterrupt",
            "DMA_" ++ phase.name ++ "_HW, DMA_" ++ phase.name ++ "_CHANNEL")]
        else [] := by
  have hclear : (dmaClear phase).flatMap Statement.calls =
      if phase.phase.triggerAdc then
        [("Cy_DMA_Channel_ClearInterrupt",
          "DMA_" ++ phase.name ++ "_HW, DMA_" ++ phase.name ++ "_CHANNEL")]
      else [] := by
    unfold dmaClear
    split <;> simp [Expr.printList, Expr.print, ← String.toList_inj]
  simp [controllerBody, hclear, Expr.printList, Expr.print, String.append_assoc]

theorem calls_controller :
    plan.calls .controller = plan.isrPhases.flatMap fun phase =>
      (plan.controllerBody phase).flatMap Statement.calls := by
  rw [calls, bodies, List.flatMap_map]

theorem calls_initDmaIsr : plan.calls .initDmaIsr = [] := rfl

theorem calls_updatePhaseShift : plan.calls .updatePhaseShift = [] := by
  have hremark : ∀ phase, (phaseShiftRemark phase).flatMap Statement.calls = [] := by
    intro phase
    unfold phaseShiftRemark
    split <;> rfl
  simp [calls, bodies, phaseShiftBody, List.flatMap_assoc, hremark, flatMap_none]

end DriverPlan

/-! ## Calls of a source -/

namespace DriverPlan

variable (plan : DriverPlan)

theorem calls_initFunction : plan.initFunction.flatMap Item.calls = plan.calls .init := by
  simp [initFunction, calls, bodies, Item.calls]

theorem calls_controlFunctions :
    plan.controlFunctions.flatMap Item.calls =
      [Role.startAll, .stopAll, .setFsw, .setDuty, .setDeadtimePos, .setDeadtimeNeg].flatMap
        plan.calls := by
  simp [controlFunctions, deadtimeFunction, deadtimeBody, calls, bodies, Item.calls]

theorem calls_interruptHandlers :
    plan.interruptHandlers.flatMap Item.calls =
      [Role.currentController, .controller, .initDmaIsr, .updatePhaseShift].flatMap
        plan.calls := by
  simp [interruptHandlers, controllerFunction, initDmaBody, phaseShiftBody, calls, bodies,
    Item.calls, List.flatMap_assoc, List.flatMap_map]

end DriverPlan

section Source

variable {base stamp : String} {plans : List DriverPlan} {callee : String}

/-- The calls of a function in a source, section by section. -/
theorem callsOf_source (hcallee : Callable callee) (h : ∀ plan ∈ plans, plan.Tidy) :
    callsOf callee (Listing.lines layout (source base stamp plans)) =
      (Role.sections.flatMap fun roles => plans.flatMap fun plan =>
        roles.flatMap plan.calls).filterMap (select callee) := by
  have hhelpers : ∀ plan : DriverPlan, plan.helperDeclarations.flatMap Item.calls = [] :=
    fun _ => rfl
  have hinstance : ∀ plan : DriverPlan, plan.configInstance.flatMap Item.calls = [] := fun _ => rfl
  rw [callsOf_lines hcallee (tame_source h)]
  congr 1
  simp [source, sourceSections, banner, Role.sections, Item.calls, List.flatMap_assoc, hhelpers,
    hinstance, flatMap_none, DriverPlan.calls_initFunction, DriverPlan.calls_controlFunctions,
    DriverPlan.calls_interruptHandlers]

/-- A call in a source stands in some function of some driver. -/
theorem exists_of_mem_callsOf (hcallee : Callable callee) (h : ∀ plan ∈ plans, plan.Tidy)
    {arguments : String}
    (hmem : arguments ∈ callsOf callee (Listing.lines layout (source base stamp plans))) :
    ∃ plan ∈ plans, ∃ role, (callee, arguments) ∈ plan.calls role := by
  rw [callsOf_source hcallee h, List.mem_filterMap] at hmem
  obtain ⟨⟨name, text⟩, hcall, hselect⟩ := hmem
  obtain ⟨rfl, rfl⟩ : name = callee ∧ text = arguments := by simpa [select] using hselect
  obtain ⟨roles, -, hroles⟩ := List.mem_flatMap.1 hcall
  obtain ⟨plan, hplan, hplans⟩ := List.mem_flatMap.1 hroles
  obtain ⟨role, -, hrole⟩ := List.mem_flatMap.1 hplans
  exact ⟨plan, hplan, role, hrole⟩

theorem flatMap_of_only {α β : Type} [DecidableEq α] {x : α} {f : α → List β}
    (h : ∀ y, y ≠ x → f y = []) {ys : List α} (hys : ys.Nodup) :
    ys.flatMap f = if x ∈ ys then f x else [] := by
  induction ys with
  | nil => rfl
  | cons y ys ih =>
    rw [List.nodup_cons] at hys
    rw [List.flatMap_cons, ih hys.2]
    by_cases hy : y = x
    · subst hy
      simp [hys.1]
    · simp [h y hy, Ne.symm hy]

/-- What only one kind of function calls is called driver by driver, in order. -/
theorem callsOf_source_of_role (hcallee : Callable callee) (h : ∀ plan ∈ plans, plan.Tidy)
    {role : Role}
    (hrole : ∀ plan : DriverPlan, plan.Tidy → ∀ other, other ≠ role →
      (plan.calls other).filterMap (select callee) = []) :
    callsOf callee (Listing.lines layout (source base stamp plans)) =
      plans.flatMap fun plan => (plan.calls role).filterMap (select callee) := by
  have hsection : ∀ roles ∈ Role.sections,
      (plans.flatMap fun plan => roles.flatMap plan.calls).filterMap (select callee) =
        if role ∈ roles then plans.flatMap fun plan => (plan.calls role).filterMap (select callee)
        else [] := by
    intro roles hroles
    have hnodup : ∀ roles ∈ Role.sections, roles.Nodup := by decide
    have hplan : ∀ plan ∈ plans, (roles.flatMap plan.calls).filterMap (select callee) =
        if role ∈ roles then (plan.calls role).filterMap (select callee) else [] := by
      intro plan hmem
      rw [List.filterMap_flatMap]
      exact flatMap_of_only (hrole plan (h plan hmem)) (hnodup roles hroles)
    rw [List.filterMap_flatMap, List.flatMap_congr hplan]
    split
    · rfl
    · exact flatMap_none plans
  have hsections : ∀ found : List String,
      (Role.sections.flatMap fun roles => if role ∈ roles then found else []) = found := by
    intro found
    cases role <;> simp [Role.sections]
  rw [callsOf_source hcallee h, List.filterMap_flatMap, List.flatMap_congr hsection, hsections]

/-- What the functions of one kind call, function by function. -/
theorem callsOf_bodies (hcallee : Callable callee) (h : ∀ plan ∈ plans, plan.Tidy) (role : Role) :
    (bodiesOf role.ending (Listing.lines layout (source base stamp plans))).map (callsOf callee) =
      (plans.flatMap (·.bodies role)).map fun body =>
        (body.flatMap Statement.calls).filterMap (select callee) := by
  rw [bodiesOf_source, List.map_map]
  refine List.map_congr_left fun body hbody => ?_
  obtain ⟨plan, hplan, hmem⟩ := List.mem_flatMap.1 hbody
  exact callsOf_body hcallee ((h plan hplan).tame_bodies role body hmem)

end Source

/-! ## Calls of library functions -/

/-- The library functions that a kind of function calls. -/
def Role.callees : Role → List String
  | .init => ["Cy_TCPWM_PWM_Init", "Cy_TCPWM_PWM_Enable", "Cy_TCPWM_InputTriggerSetup"]
  | .startAll | .stopAll => ["Cy_TrigMux_SwTrigger"]
  | .setFsw => ["Cy_TCPWM_PWM_SetPeriod1"]
  | .setDuty => ["Cy_TCPWM_PWM_SetCompare0BufVal", "Cy_TrigMux_SwTrigger"]
  | .setDeadtimePos => ["Cy_TCPWM_PWM_PWMDeadTime"]
  | .setDeadtimeNeg => ["Cy_TCPWM_PWM_PWMDeadTimeN"]
  | .currentController | .initDmaIsr | .updatePhaseShift => []
  | .controller => ["Cy_DMA_Channel_ClearInterrupt"]

/-- All but the trigger are called by one kind of function. -/
theorem Role.eq_of_mem_callees {role other : Role} {callee : String}
    (hne : callee ≠ "Cy_TrigMux_SwTrigger") (h : callee ∈ role.callees)
    (hother : callee ∈ other.callees) : other = role := by
  have hshared : ∀ callee ∈ role.callees, callee ∈ other.callees →
      other = role ∨ callee = "Cy_TrigMux_SwTrigger" := by
    cases role <;> cases other <;> decide
  exact (hshared callee h hother).resolve_right hne

namespace DriverPlan

variable {plan : DriverPlan}

/-- What is called is a library function or a function of the driver. -/
theorem mem_callees_or_function {role : Role} {call : String × String}
    (h : call ∈ plan.calls role) :
    call.1 ∈ role.callees ∨ ∃ action, call.1 = plan.function action := by
  cases role with
  | init =>
    simp only [calls_init, List.mem_append, List.mem_flatMap, List.mem_map, List.mem_cons,
      List.not_mem_nil, or_false] at h
    rcases h with (⟨phase, -, rfl | rfl⟩ | ⟨input, -, phase, -, rfl⟩) |
      rfl | rfl | rfl | rfl | rfl | rfl
    · simp [Role.callees]
    · simp [Role.callees]
    · simp [Role.callees]
    all_goals exact .inr ⟨_, rfl⟩
  | startAll =>
    simp only [calls_startAll, List.mem_cons, List.not_mem_nil, or_false] at h
    rcases h with rfl | rfl <;> simp [Role.callees]
  | stopAll =>
    simp only [calls_stopAll, List.mem_cons, List.not_mem_nil, or_false] at h
    simp [h, Role.callees]
  | setFsw =>
    simp only [calls_setFsw, refreshCalls, List.mem_append, List.mem_map] at h
    rcases h with ⟨phase, -, rfl⟩ | ⟨phase, -, rfl⟩
    · simp [Role.callees]
    · exact .inr ⟨_, rfl⟩
  | setDuty =>
    simp only [calls_setDuty, List.mem_append, List.mem_map, List.mem_cons, List.not_mem_nil,
      or_false] at h
    rcases h with ⟨phase, -, rfl⟩ | rfl <;> simp [Role.callees]
  | setDeadtimePos =>
    rw [calls_setDeadtimePos] at h
    obtain ⟨phase, -, rfl⟩ := List.mem_map.1 h
    simp [Role.callees]
  | setDeadtimeNeg =>
    rw [calls_setDeadtimeNeg] at h
    obtain ⟨phase, -, rfl⟩ := List.mem_map.1 h
    simp [Role.callees]
  | currentController =>
    rw [calls_currentController, List.mem_singleton] at h
    exact .inr ⟨_, by rw [h]⟩
  | controller =>
    rw [calls_controller] at h
    obtain ⟨phase, -, hcall⟩ := List.mem_flatMap.1 h
    rw [calls_controllerBody, List.mem_cons] at hcall
    rcases hcall with rfl | hclear
    · exact .inr ⟨_, rfl⟩
    · split at hclear
      · rw [List.mem_singleton] at hclear
        simp [hclear, Role.callees]
      · cases hclear
  | initDmaIsr =>
    rw [calls_initDmaIsr] at h
    cases h
  | updatePhaseShift =>
    rw [calls_updatePhaseShift] at h
    cases h

/-- No function of a driver begins with a capital. -/
theorem Tidy.function_ne (h : plan.Tidy) {cs : List Char} (action : String) :
    plan.function action ≠ String.ofList ('C' :: cs) := by
  intro heq
  have hlist := congrArg String.toList heq
  rw [DriverPlan.function, String.append_assoc, String.toList_append, String.toList_ofList] at hlist
  cases hstem : plan.stem.toList with
  | nil => simp [hstem] at hlist
  | cons c rest =>
    rw [hstem, List.cons_append, List.cons.injEq] at hlist
    have hplain := h.stem_plain c (by rw [hstem]; exact List.mem_cons_self)
    rw [hlist.1] at hplain
    exact absurd hplain (by decide)

/-- A library function is called by no function of a kind that does not name it. -/
theorem Tidy.filterMap_select_of_not_mem (h : plan.Tidy) {role : Role} {cs : List Char}
    (hrole : String.ofList ('C' :: cs) ∉ role.callees) :
    (plan.calls role).filterMap (select (String.ofList ('C' :: cs))) = [] := by
  rw [List.filterMap_eq_nil_iff]
  intro call hcall
  rw [select, if_neg]
  intro heq
  rcases mem_callees_or_function hcall with hmem | ⟨action, haction⟩
  · exact hrole (heq ▸ hmem)
  · exact h.function_ne action (haction ▸ heq)

/-- A function of a driver is no library function. -/
theorem Tidy.select_function (h : plan.Tidy) {cs : List Char} (action arguments : String) :
    select (String.ofList ('C' :: cs)) (plan.function action, arguments) = none := by
  rw [select, if_neg (h.function_ne action)]

theorem Tidy.select_refreshCalls (h : plan.Tidy) {cs : List Char} :
    plan.refreshCalls.filterMap (select (String.ofList ('C' :: cs))) = [] := by
  rw [refreshCalls]
  exact filterMap_select_map_of_ne (h.function_ne "setDuty") _ _

/-- The library functions that start a driver. -/
theorem Tidy.select_calls_init (h : plan.Tidy) {cs : List Char} :
    (plan.calls .init).filterMap (select (String.ofList ('C' :: cs))) =
      (plan.phases.flatMap fun phase =>
        (if "Cy_TCPWM_PWM_Init" = String.ofList ('C' :: cs) then
          [counterArguments phase.pwm ++ ", &" ++ phase.pwm ++ "_config"] else []) ++
        (if "Cy_TCPWM_PWM_Enable" = String.ofList ('C' :: cs) then
          [counterArguments phase.pwm] else [])) ++
      [killInput, swapInput, startInput].flatMap fun input =>
        if "Cy_TCPWM_InputTriggerSetup" = String.ofList ('C' :: cs) then
          plan.phases.map fun phase => counterArguments phase.pwm ++ input.arguments
        else [] := by
  have hinput : ∀ input : TriggerInput,
      (plan.phases.map fun phase => ("Cy_TCPWM_InputTriggerSetup",
        counterArguments phase.pwm ++ input.arguments)).filterMap
          (select (String.ofList ('C' :: cs))) =
        if "Cy_TCPWM_InputTriggerSetup" = String.ofList ('C' :: cs) then
          plan.phases.map fun phase => counterArguments phase.pwm ++ input.arguments
        else [] := by
    intro input
    split
    · next heq => rw [← heq, filterMap_select_map]
    · next hne => rw [filterMap_select_map_of_ne hne]
  rw [calls_init, List.filterMap_append, List.filterMap_append, filterMap_select_pairs,
    List.filterMap_flatMap]
  simp only [hinput, List.filterMap_cons, h.select_function, List.filterMap_nil, List.append_nil]

theorem Tidy.select_init (h : plan.Tidy) :
    (plan.calls .init).filterMap (select "Cy_TCPWM_PWM_Init") =
      plan.phases.map fun phase =>
        counterArguments phase.pwm ++ ", &" ++ phase.pwm ++ "_config" := by
  refine h.select_calls_init.trans ?_
  have henable : "Cy_TCPWM_PWM_Enable" ≠ "Cy_TCPWM_PWM_Init" := by simp
  have hinput : "Cy_TCPWM_InputTriggerSetup" ≠ "Cy_TCPWM_PWM_Init" := by simp
  simp only [henable, hinput, if_false, if_true, List.append_nil, List.map_eq_flatMap, flatMap_none]

theorem Tidy.select_enable (h : plan.Tidy) :
    (plan.calls .init).filterMap (select "Cy_TCPWM_PWM_Enable") =
      plan.phases.map fun phase => counterArguments phase.pwm := by
  refine h.select_calls_init.trans ?_
  have hinit : "Cy_TCPWM_PWM_Init" ≠ "Cy_TCPWM_PWM_Enable" := by simp
  have hinput : "Cy_TCPWM_InputTriggerSetup" ≠ "Cy_TCPWM_PWM_Enable" := by simp
  simp only [hinit, hinput, if_false, if_true, List.append_nil, List.nil_append,
    List.map_eq_flatMap, flatMap_none]

theorem Tidy.select_inputs (h : plan.Tidy) :
    (plan.calls .init).filterMap (select "Cy_TCPWM_InputTriggerSetup") =
      [killInput, swapInput, startInput].flatMap fun input =>
        plan.phases.map fun phase => counterArguments phase.pwm ++ input.arguments := by
  refine h.select_calls_init.trans ?_
  have hinit : "Cy_TCPWM_PWM_Init" ≠ "Cy_TCPWM_InputTriggerSetup" := by simp
  have henable : "Cy_TCPWM_PWM_Enable" ≠ "Cy_TCPWM_InputTriggerSetup" := by simp
  simp only [hinit, henable, if_false, if_true, List.append_nil, flatMap_none, List.nil_append]

theorem Tidy.select_setFsw (h : plan.Tidy) :
    (plan.calls .setFsw).filterMap (select "Cy_TCPWM_PWM_SetPeriod1") =
      plan.phases.map fun phase =>
        counterArguments phase.pwm ++ ", " ++ phaseMember plan.stem "period" := by
  have hrefresh : plan.refreshCalls.filterMap (select "Cy_TCPWM_PWM_SetPeriod1") = [] :=
    h.select_refreshCalls
  rw [calls_setFsw, List.filterMap_append, hrefresh, filterMap_select_map, List.append_nil]

theorem select_setDuty (plan : DriverPlan) :
    (plan.calls .setDuty).filterMap (select "Cy_TCPWM_PWM_SetCompare0BufVal") =
      plan.phases.map fun phase => counterArguments phase.pwm ++ ", compare + " ++
        phaseMember plan.stem "compareValueOffset" := by
  have htrigger : "Cy_TrigMux_SwTrigger" ≠ "Cy_TCPWM_PWM_SetCompare0BufVal" := by simp
  rw [calls_setDuty, List.filterMap_append, filterMap_select_map,
    List.filterMap_cons_none (select_of_ne htrigger _), List.filterMap_nil, List.append_nil]

theorem bodies_singleton (plan : DriverPlan) {role : Role} (hrole : role ≠ .controller) :
    ∃ body, plan.bodies role = [body] := by
  cases role with
  | controller => exact absurd rfl hrole
  | _ => exact ⟨_, rfl⟩

end DriverPlan

section Source

variable {base stamp : String} {plans : List DriverPlan} {callee : String}

/-- There is one function of most kinds for each driver. -/
theorem callsOf_bodies_of_ne (hcallee : Callable callee) (h : ∀ plan ∈ plans, plan.Tidy)
    {role : Role} (hrole : role ≠ .controller) :
    (bodiesOf role.ending (Listing.lines layout (source base stamp plans))).map (callsOf callee) =
      plans.map fun plan => (plan.calls role).filterMap (select callee) := by
  have hplan : ∀ plan : DriverPlan, ((plan.bodies role).map fun body =>
      (body.flatMap Statement.calls).filterMap (select callee)) =
        [(plan.calls role).filterMap (select callee)] := by
    intro plan
    obtain ⟨body, hbody⟩ := plan.bodies_singleton hrole
    rw [DriverPlan.calls, hbody, List.flatMap_singleton, List.map_singleton]
  rw [callsOf_bodies hcallee h, List.map_flatMap, List.map_eq_flatMap]
  simp only [hplan]

end Source

end FirmwareGen.Modulators
