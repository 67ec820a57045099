-- SUMMARY: What the functions of a driver call of each other.
import FirmwareGen.Proofs.C.Heads
import FirmwareGen.Proofs.Modulators.Calls
/-!
# Calls between functions of a driver

The functions of a driver call library functions and functions of their own driver. The latter are
told from the former, and from each other, by their capitals, so what is called of a driver is known
from the stem of its functions.
-/

namespace FirmwareGen.Modulators

open C Text

namespace DriverPlan

/-- The functions of a driver that it calls itself, without the stem. -/
def actions : List String :=
  ["setFsw", "updatePhaseShift", "init_DMA_ISR", "setMode", "setDeadtimePos", "setDeadtimeNeg",
   "setDuty", "CurrentController"]

/-- What a kind of function calls of its own driver, in order. -/
def driverCalls (plan : DriverPlan) : Role → List (String × String)
  | .init =>
    [("setFsw", (plan.setting "fsw").print), ("updatePhaseShift", ""), ("init_DMA_ISR", ""),
     ("setMode", plan.openLoop), ("setDeadtimePos", (plan.setting "deadtimePos").print),
     ("setDeadtimeNeg", (plan.setting "deadtimeNeg").print)]
  | .setFsw => plan.phases.head?.toList.map fun first =>
    ("setDuty", first.enumerator ++ ", " ++ phaseMember plan.stem "duty")
  | .currentController => [("setDuty", "phase, duty")]
  | .controller => plan.isrPhases.map fun phase =>
    ("CurrentController", phase.enumerator ++ ", err")
  | _ => []

/-! ## Functions of a driver and library functions -/

theorem callees_head (role : Role) : ∀ callee ∈ role.callees, callee.toList.head? = some 'C' := by
  cases role <;> simp [Role.callees]

theorem plain_instance (name : String) : Plain (Naming.instanceName name ++ "_") :=
  plain_append (Naming.plain_instanceName name) (plain_ofList rfl)

theorem callees_ne {role : Role} {callee : String} (h : callee ∈ role.callees)
    (name action : String) : callee ≠ Naming.instanceName name ++ "_" ++ action := by
  rintro rfl
  have hhead := callees_head role _ h
  cases hlist : (Naming.instanceName name ++ "_").toList with
  | nil => simp at hlist
  | cons c rest =>
    rw [String.toList_append, hlist, List.cons_append, List.head?_cons, Option.some.injEq] at hhead
    have hc := plain_instance name c (by rw [hlist]; exact List.mem_cons_self)
    rw [hhead] at hc
    exact absurd hc (by decide)

/-- Of what is called, only functions of the driver are looked for. -/
theorem filterMap_select_calls (plan : DriverPlan) {role : Role} {callee : String}
    (hne : ∀ library ∈ role.callees, library ≠ callee) :
    (plan.calls role).filterMap (select callee) =
      ((plan.driverCalls role).map fun call => (plan.function call.1, call.2)).filterMap
        (select callee) := by
  cases role with
  | init =>
    have hinit : "Cy_TCPWM_PWM_Init" ≠ callee := hne _ (by simp [Role.callees])
    have henable : "Cy_TCPWM_PWM_Enable" ≠ callee := hne _ (by simp [Role.callees])
    have hinput : "Cy_TCPWM_InputTriggerSetup" ≠ callee := hne _ (by simp [Role.callees])
    have hinputs : ∀ input : TriggerInput, (plan.phases.map fun phase =>
        ("Cy_TCPWM_InputTriggerSetup", counterArguments phase.pwm ++ input.arguments)).filterMap
          (select callee) = [] := fun input => filterMap_select_map_of_ne hinput _ _
    rw [calls_init, List.filterMap_append, List.filterMap_append, filterMap_select_pairs,
      List.filterMap_flatMap]
    simp only [hinit, henable, hinputs, if_false, List.append_nil, flatMap_none, List.nil_append]
    rfl
  | startAll =>
    have htrigger : "Cy_TrigMux_SwTrigger" ≠ callee := hne _ (by simp [Role.callees])
    rw [calls_startAll, List.filterMap_cons_none (select_of_ne htrigger _),
      List.filterMap_cons_none (select_of_ne htrigger _)]
    rfl
  | stopAll =>
    have htrigger : "Cy_TrigMux_SwTrigger" ≠ callee := hne _ (by simp [Role.callees])
    rw [calls_stopAll, List.filterMap_cons_none (select_of_ne htrigger _)]
    rfl
  | setFsw =>
    have hperiod : "Cy_TCPWM_PWM_SetPeriod1" ≠ callee := hne _ (by simp [Role.callees])
    rw [calls_setFsw, List.filterMap_append, filterMap_select_map_of_ne hperiod, List.nil_append,
      refreshCalls, driverCalls, List.map_map]
    rfl
  | setDuty =>
    have hcompare : "Cy_TCPWM_PWM_SetCompare0BufVal" ≠ callee := hne _ (by simp [Role.callees])
    have htrigger : "Cy_TrigMux_SwTrigger" ≠ callee := hne _ (by simp [Role.callees])
    rw [calls_setDuty, List.filterMap_append, filterMap_select_map_of_ne hcompare,
      List.filterMap_cons_none (select_of_ne htrigger _)]
    rfl
  | setDeadtimePos =>
    rw [calls_setDeadtimePos, filterMap_select_map_of_ne (hne _ (by simp [Role.callees]))]
    rfl
  | setDeadtimeNeg =>
    rw [calls_setDeadtimeNeg, filterMap_select_map_of_ne (hne _ (by simp [Role.callees]))]
    rfl
  | currentController => rw [calls_currentController]; rfl
  | controller =>
    have hdma : "Cy_DMA_Channel_ClearInterrupt" ≠ callee := hne _ (by simp [Role.callees])
    rw [calls_controller, driverCalls, List.map_map, List.map_eq_flatMap, List.filterMap_flatMap,
      List.filterMap_flatMap]
    refine List.flatMap_congr fun phase _ => ?_
    rw [calls_controllerBody]
    split
    · rw [List.filterMap_cons, List.filterMap_cons_none (select_of_ne hdma _)]
      rfl
    · rfl
  | initDmaIsr => rw [calls_initDmaIsr]; rfl
  | updatePhaseShift => rw [calls_updatePhaseShift]; rfl

/-! ## Functions of one driver and of another -/

theorem mem_actions (plan : DriverPlan) (role : Role) :
    ∀ call ∈ plan.driverCalls role, call.1 ∈ actions := by
  cases role with
  | init => simp [driverCalls, actions]
  | setFsw => simp [driverCalls, actions]
  | currentController => simp [driverCalls, actions]
  | controller => simp [driverCalls, actions]
  | _ => exact List.forall_mem_nil _

theorem callable_actions : ∀ action ∈ actions, Callable action := by decide

/-- The stem and the name of a function are told apart. -/
theorem Tidy.function_eq_iff {plan : DriverPlan} (h : plan.Tidy) {name action other : String}
    (haction : action ∈ actions) (hother : other ∈ actions) :
    plan.function action = Naming.instanceName name ++ "_" ++ other ↔
      Naming.instanceName name = plan.stem ∧ action = other := by
  have hcapital : ∀ a ∈ actions, ∀ b ∈ actions, a ≠ b →
      fromCapital a.toList ≠ fromCapital b.toList := by decide
  constructor
  · intro heq
    have hsame : action = other := by
      by_contra hne
      have hplan : Plain (plan.stem ++ "_") := h.plain_append rfl
      have happend := plain_append_ne hplan (plain_instance name) (hcapital _ haction _ hother hne)
      simp only [String.ofList_toList] at happend
      exact happend heq
    subst hsame
    rw [DriverPlan.function, String.append_left_inj, String.append_left_inj] at heq
    exact ⟨heq.symm, rfl⟩
  · rintro ⟨hstem, rfl⟩
    rw [DriverPlan.function, hstem]

/-- What is called of a driver is called by its own functions. -/
theorem Tidy.filterMap_select_function {plan : DriverPlan} (h : plan.Tidy) (role : Role)
    (name : String) {action : String} (haction : action ∈ actions) :
    (plan.calls role).filterMap (select (Naming.instanceName name ++ "_" ++ action)) =
      if Naming.instanceName name = plan.stem then
        (plan.driverCalls role).filterMap (select action)
      else [] := by
  have hselect : ∀ call ∈ plan.driverCalls role,
      select (Naming.instanceName name ++ "_" ++ action) (plan.function call.1, call.2) =
        if Naming.instanceName name = plan.stem then select action call else none := by
    intro call hcall
    have hiff : plan.function call.1 = Naming.instanceName name ++ "_" ++ action ↔
        Naming.instanceName name = plan.stem ∧ call.1 = action :=
      h.function_eq_iff (plan.mem_actions role call hcall) haction
    simp only [select, hiff]
    by_cases hstem : Naming.instanceName name = plan.stem <;> simp [hstem]
  rw [plan.filterMap_select_calls fun library hlibrary => callees_ne hlibrary name action,
    List.filterMap_map]
  refine (List.filterMap_congr hselect).trans ?_
  split
  · rfl
  · exact List.filterMap_eq_nil_iff.2 fun _ _ => rfl

end DriverPlan

section Source

variable {base stamp : String} {plans : List DriverPlan}

theorem callable_action (name : String) {action : String} (haction : action ∈ DriverPlan.actions) :
    Callable (Naming.instanceName name ++ "_" ++ action) :=
  callable_plain_append (DriverPlan.plain_instance name) (DriverPlan.callable_actions _ haction)

/-- A call of a driver in a source stands in a function of a driver with the same stem. -/
theorem exists_driverCall (h : ∀ plan ∈ plans, plan.Tidy) {name action arguments : String}
    (haction : action ∈ DriverPlan.actions)
    (hmem : arguments ∈ callsOf (Naming.instanceName name ++ "_" ++ action)
      (Listing.lines layout (source base stamp plans))) :
    ∃ plan ∈ plans, Naming.instanceName name = plan.stem ∧
      ∃ role, (action, arguments) ∈ plan.driverCalls role := by
  obtain ⟨plan, hplan, role, hcall⟩ := exists_of_mem_callsOf (callable_action name haction) h hmem
  have hselected : arguments ∈ (plan.calls role).filterMap
      (select (Naming.instanceName name ++ "_" ++ action)) :=
    List.mem_filterMap.2 ⟨_, hcall, select_self _ _⟩
  rw [(h plan hplan).filterMap_select_function role name haction] at hselected
  split at hselected
  · next hstem =>
    obtain ⟨⟨other, text⟩, hother, hselect⟩ := List.mem_filterMap.1 hselected
    obtain ⟨rfl, rfl⟩ : other = action ∧ text = arguments := by simpa [select] using hselect
    exact ⟨plan, hplan, hstem, role, hother⟩
  · cases hselected

/-- Drivers start in open loop. -/
theorem callsOf_setMode (h : ∀ plan ∈ plans, plan.Tidy) (name : String) :
    callsOf (Naming.instanceName name ++ "_setMode")
        (Listing.lines layout (source base stamp plans)) =
      (plans.filter fun plan => Naming.instanceName name = plan.stem).map (·.openLoop) := by
  have haction : "setMode" ∈ DriverPlan.actions := by simp [DriverPlan.actions]
  have hname : Naming.instanceName name ++ "_setMode" =
      Naming.instanceName name ++ "_" ++ "setMode" := by
    rw [String.append_assoc]
    rfl
  have hothers : ∀ plan : DriverPlan, plan.Tidy → ∀ other, other ≠ Role.init →
      (plan.calls other).filterMap (select (Naming.instanceName name ++ "_" ++ "setMode")) = [] := by
    intro plan hplan other hother
    have hnone : (plan.driverCalls other).filterMap (select "setMode") = [] := by
      cases other <;> simp [DriverPlan.driverCalls, select] at hother ⊢
    rw [hplan.filterMap_select_function other name haction, hnone]
    split <;> rfl
  rw [hname, callsOf_source_of_role (callable_action name haction) h hothers,
    map_filter_eq_flatMap]
  refine List.flatMap_congr fun plan hplan => ?_
  have hinit : (plan.driverCalls .init).filterMap (select "setMode") = [plan.openLoop] := by
    simp [DriverPlan.driverCalls, select]
  rw [(h plan hplan).filterMap_select_function .init name haction, hinit]

end Source

end FirmwareGen.Modulators
