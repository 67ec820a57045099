-- SUMMARY: Every call in the source of some drivers can be read from its lines.
import FirmwareGen.Proofs.Modulators.Functions
/-!
# Quiet lines of generated drivers

Stems have neither capitals nor blanks, so each line of a driver either calls a function whose name
can be read or is settled by its first word, whatever the names of modulators and phases are.
-/

namespace FirmwareGen.Modulators

open C Text

/-! ## Bodies that can be read -/

namespace DriverPlan

variable {plan : DriverPlan}

theorem Tidy.plain_append (h : plan.Tidy) {cs : List Char} (hcs : cs.all isPlain = true) :
    Plain (plan.stem ++ String.ofList cs) := Text.plain_append h.stem_plain (plain_ofList hcs)

theorem Tidy.callable_function (h : plan.Tidy) {action : String} (haction : Callable action) :
    Callable (plan.function action) := by
  have hplain : Plain (plan.stem ++ "_") := h.plain_append rfl
  exact callable_plain_append hplain haction

/-- An assignment to a member of the configuration object is no call. -/
theorem Tidy.tame_setting (h : plan.Tidy) {cs : List Char} (hcs : cs.contains '(' = false)
    (op : AssignOp) (value : Expr) (remark : Option String) :
    (Simple.assign op (plan.setting (String.ofList cs)) value remark).Tame := by
  have hplain : Plain (plan.stem ++ "_config.") := h.plain_append rfl
  have hsettles := settles_plain_ofList hplain (append_ofList_ne_empty (List.cons_ne_nil _ _) _) hcs
  refine Simple.tame_assign ?_ op value remark
  simpa [setting, config, configObject, Expr.print, String.append_assoc] using hsettles

theorem Tidy.tame_phaseSetting (h : plan.Tidy) {cs : List Char} (hcs : cs.contains '(' = false)
    (op : AssignOp) (value : Expr) (remark : Option String) :
    (Simple.assign op (plan.phaseSetting (String.ofList cs)) value remark).Tame := by
  have hobject : Plain (plan.stem ++ "_config.") := h.plain_append rfl
  have hdot : Plain (plan.stem ++ ".") := h.plain_append rfl
  have hplain : Plain (plan.stem ++ "_config." ++ plan.stem ++ ".") := by
    rw [String.append_assoc]
    exact Text.plain_append hobject hdot
  have hsettles := settles_plain_ofList hplain (append_ofList_ne_empty (List.cons_ne_nil _ _) _) hcs
  refine Simple.tame_assign ?_ op value remark
  simpa [phaseSetting, phaseState, setting, config, configObject, Expr.print,
    String.append_assoc] using hsettles

theorem tame_call {callee : String} (h : Callable callee) (arguments : List Expr) :
    (callStatement callee arguments).Tame layout := h

theorem tame_remark (text : String) : (remarkStatement text).Tame layout :=
  Simple.tame_lineComment text

theorem tame_blank : blankStatement.Tame layout := Simple.tame_blank

theorem Tidy.tame_initBody (h : plan.Tidy) :
    ∀ statement ∈ plan.initBody, statement.Tame layout := by
  have hcounters : ∀ statement ∈ plan.phases.flatMap counterSetup, statement.Tame layout :=
    List.forall_mem_flatMap.2 fun phase _ => List.forall_mem_cons.2
      ⟨tame_call (callable_ofList rfl rfl) _,
        List.forall_mem_singleton.2 (tame_call (callable_ofList rfl rfl) _)⟩
  have htriggers : ∀ input, ∀ statement ∈ plan.triggerSetups input, statement.Tame layout := by
    intro input statement hstatement
    simp only [triggerSetups, List.mem_append, List.mem_cons, List.mem_map, List.not_mem_nil,
      or_false] at hstatement
    rcases hstatement with (rfl | ⟨phase, -, rfl⟩) | rfl
    · exact tame_remark _
    · exact tame_call (callable_ofList rfl rfl) _
    · exact tame_blank
  simp only [initBody, List.forall_mem_append, List.forall_mem_cons]
  refine ⟨⟨⟨⟨⟨⟨?_, hcounters⟩, tame_blank, List.forall_mem_nil _⟩, htriggers _⟩, htriggers _⟩,
    htriggers _⟩, ?_⟩
  · exact ⟨h.tame_setting rfl _ _ _, h.tame_setting rfl _ _ _, h.tame_phaseSetting rfl _ _ _,
      h.tame_setting rfl _ _ _, tame_blank, h.tame_setting rfl _ _ _,
      h.tame_phaseSetting rfl _ _ _, tame_blank, List.forall_mem_nil _⟩
  · exact ⟨h.callable_function (callable_ofList rfl rfl),
      h.callable_function (callable_ofList rfl rfl),
      h.callable_function (callable_ofList rfl rfl),
      h.callable_function (callable_ofList rfl rfl),
      h.callable_function (callable_ofList rfl rfl),
      h.callable_function (callable_ofList rfl rfl), List.forall_mem_nil _⟩

theorem Tidy.tame_startBody (h : plan.Tidy) :
    ∀ statement ∈ plan.startBody ++ plan.stopBody, statement.Tame layout := by
  simp only [startBody, stopBody, fireTrigger, List.forall_mem_append, List.forall_mem_cons]
  exact ⟨⟨tame_call (callable_ofList rfl rfl) _, tame_call (callable_ofList rfl rfl) _,
    h.tame_setting rfl _ _ _, List.forall_mem_nil _⟩, tame_call (callable_ofList rfl rfl) _,
    h.tame_setting rfl _ _ _, List.forall_mem_nil _⟩

theorem Tidy.tame_setFswBody (h : plan.Tidy) :
    ∀ statement ∈ plan.setFswBody, statement.Tame layout := by
  have hperiods : ∀ statement ∈ plan.phases.map plan.periodUpdate, statement.Tame layout := by
    intro statement hstatement
    obtain ⟨phase, -, rfl⟩ := List.mem_map.1 hstatement
    exact tame_call (callable_ofList rfl rfl) _
  have hrefresh : ∀ statement ∈ plan.dutyRefresh, statement.Tame layout := by
    unfold dutyRefresh
    split
    · exact List.forall_mem_nil _
    · exact List.forall_mem_singleton.2 (h.callable_function (callable_ofList rfl rfl))
  simp only [setFswBody, List.forall_mem_append, List.forall_mem_cons]
  exact ⟨⟨⟨⟨h.tame_phaseSetting rfl _ _ _, h.tame_setting rfl _ _ _, tame_blank,
    List.forall_mem_nil _⟩, hperiods⟩, tame_blank, tame_remark _, List.forall_mem_nil _⟩, hrefresh⟩

theorem Tidy.tame_dutyCase (h : plan.Tidy) (phase : PhasePlan) :
    ∀ line ∈ (plan.dutyCase phase).body, line.Tame := by
  simp only [dutyCase, List.forall_mem_cons]
  exact ⟨h.tame_phaseSetting rfl _ _ _, Simple.tame_assign_name (settles_word rfl rfl) _ _ _,
    Simple.tame_call (callable_ofList rfl rfl) _, Simple.tame_leave, List.forall_mem_nil _⟩

theorem tame_trigger (line mode : String) : (fireTrigger line mode).Tame layout :=
  tame_call (callable_ofList rfl rfl) _

theorem Tidy.tame_setDutyBody (h : plan.Tidy) :
    ∀ statement ∈ plan.setDutyBody, statement.Tame layout := by
  have hcondition : Quiet (layout.keyword "if"
      (.binary .greater (.name "duty") (.name plan.maxDutyMacro))) := by
    have hline : layout.keyword "if" (.binary .greater (.name "duty") (.name plan.maxDutyMacro)) =
        "if(duty " ++ ("> " ++ plan.maxDutyMacro ++ ")") := by
      simp [Layout.keyword, layout, Expr.print, BinaryOp.symbol, ← String.toList_inj]
    rw [hline]
    exact quiet_append (settles_ofList rfl rfl) _
  have hcases : ∀ case ∈ plan.phases.map plan.dutyCase, ∀ line ∈ case.body, line.Tame := by
    intro case hcase
    obtain ⟨phase, -, rfl⟩ := List.mem_map.1 hcase
    exact h.tame_dutyCase phase
  have hassign : ∀ value, (Simple.assign .set (.name "duty") value none).Tame := fun value =>
    Simple.tame_assign_name (settles_word rfl rfl) _ _ _
  simp only [setDutyBody, List.forall_mem_cons]
  refine ⟨Simple.tame_declare (settles_word rfl rfl) _ _ _, tame_blank, ⟨⟨hcondition, hassign _⟩,
    List.forall_mem_singleton.2 (hassign _), ?_⟩, tame_blank, ⟨?_, hcases⟩, tame_blank,
    tame_trigger _ _, List.forall_mem_nil _⟩
  · intro line hline
    cases hline
  · exact (by decide : Quiet "switch(phase)")

theorem Tidy.tame_deadtimeBody (h : plan.Tidy) {deadtime : Deadtime}
    (hcallee : Callable deadtime.callee) {cs : List Char} (hcs : cs.contains '(' = false)
    (hfield : deadtime.field = String.ofList cs) :
    ∀ statement ∈ plan.deadtimeBody deadtime, statement.Tame layout := by
  have hupdates : ∀ statement ∈ plan.phases.map (deadtimeUpdate deadtime),
      statement.Tame layout := by
    intro statement hstatement
    obtain ⟨phase, -, rfl⟩ := List.mem_map.1 hstatement
    exact tame_call hcallee _
  refine List.forall_mem_append.2 ⟨hupdates, List.forall_mem_singleton.2 ?_⟩
  rw [hfield]
  exact h.tame_setting hcs _ _ _

theorem Tidy.tame_currentControllerBody (h : plan.Tidy) :
    ∀ statement ∈ plan.currentControllerBody, statement.Tame layout := by
  have hfloat : Settles "float " := settles_ofList rfl rfl
  have hduty : ∀ value remark, (Simple.assign .set (.name "duty") value remark).Tame :=
    fun value remark => Simple.tame_assign_name (settles_word rfl rfl) _ _ _
  simp only [currentControllerBody, List.forall_mem_cons]
  refine ⟨Simple.tame_declare (settles_word rfl rfl) _ _ _,
    Simple.tame_declare (settles_word rfl rfl) _ _ _,
    Simple.tame_declare (settles_word rfl rfl) _ _ _, tame_blank,
    Simple.tame_assign_name (settles_word rfl rfl) _ _ _, ⟨⟨?_, hduty _ _⟩, List.forall_mem_nil _, ?_⟩,
    tame_blank, h.callable_function (callable_ofList rfl rfl), List.forall_mem_nil _⟩
  · exact (by decide : Quiet "if(VIN_temp > 0)")
  · intro line hline
    cases hline
    exact hduty _ _

theorem Tidy.tame_controllerBody (h : plan.Tidy) (phase : PhasePlan) :
    ∀ statement ∈ plan.controllerBody phase, statement.Tame layout := by
  have hclear : ∀ statement ∈ dmaClear phase, statement.Tame layout := by
    unfold dmaClear
    split
    · exact List.forall_mem_singleton.2 (tame_call (callable_ofList rfl rfl) _)
    · exact List.forall_mem_nil _
  simp only [controllerBody, List.forall_mem_append, List.forall_mem_cons]
  exact ⟨⟨⟨tame_remark _, tame_blank, h.tame_phaseSetting rfl _ _ _, tame_blank,
    Simple.tame_declare (settles_word rfl rfl) _ _ _,
    h.callable_function (callable_ofList rfl rfl), List.forall_mem_nil _⟩, hclear⟩, tame_blank,
    tame_remark _, List.forall_mem_nil _⟩

theorem tame_phaseShiftBody (plan : DriverPlan) :
    ∀ statement ∈ plan.phaseShiftBody, statement.Tame layout := by
  have hremarks : ∀ statement ∈ plan.phases.flatMap phaseShiftRemark, statement.Tame layout := by
    refine List.forall_mem_flatMap.2 fun phase _ => ?_
    unfold phaseShiftRemark
    split
    · exact List.forall_mem_nil _
    · exact List.forall_mem_singleton.2 (tame_remark _)
  exact List.forall_mem_append.2 ⟨List.forall_mem_cons.2
    ⟨tame_remark _, List.forall_mem_singleton.2 (tame_remark _)⟩, hremarks⟩

/-- The calls of every function of a driver can be read. -/
theorem Tidy.tame_bodies (h : plan.Tidy) (role : Role) :
    ∀ body ∈ plan.bodies role, ∀ statement ∈ body, statement.Tame layout := by
  have hstart := List.forall_mem_append.1 h.tame_startBody
  cases role with
  | init => exact List.forall_mem_singleton.2 h.tame_initBody
  | startAll => exact List.forall_mem_singleton.2 hstart.1
  | stopAll => exact List.forall_mem_singleton.2 hstart.2
  | setFsw => exact List.forall_mem_singleton.2 h.tame_setFswBody
  | setDuty => exact List.forall_mem_singleton.2 h.tame_setDutyBody
  | setDeadtimePos =>
    exact List.forall_mem_singleton.2 (h.tame_deadtimeBody (callable_ofList rfl rfl) rfl rfl)
  | setDeadtimeNeg =>
    exact List.forall_mem_singleton.2 (h.tame_deadtimeBody (callable_ofList rfl rfl) rfl rfl)
  | currentController => exact List.forall_mem_singleton.2 h.tame_currentControllerBody
  | controller =>
    intro body hbody
    obtain ⟨phase, -, rfl⟩ := List.mem_map.1 hbody
    exact h.tame_controllerBody phase
  | initDmaIsr =>
    exact List.forall_mem_singleton.2 (List.forall_mem_cons.2 ⟨tame_remark _,
      List.forall_mem_cons.2 ⟨tame_remark _, List.forall_mem_singleton.2 (tame_remark _)⟩⟩)
  | updatePhaseShift => exact List.forall_mem_singleton.2 plan.tame_phaseShiftBody

end DriverPlan

/-! ## Sources that can be read -/

section Source

variable {base stamp : String} {plans : List DriverPlan}

theorem settles_void : Settles ("void" ++ " ") := settles_word rfl rfl

namespace DriverPlan

variable {plan : DriverPlan}

theorem tame_signature (action : String) (parameters : List Parameter) {body : List Statement}
    (hbody : ∀ statement ∈ body, statement.Tame layout) :
    Item.Tame layout (.definition (plan.signature action parameters) body) :=
  Item.tame_definition settles_void _ _ _ hbody

theorem tame_helperSignature (action : String) (parameters : List Parameter)
    {body : List Statement} (hbody : ∀ statement ∈ body, statement.Tame layout) :
    Item.Tame layout (.definition (plan.helperSignature action parameters) body) :=
  Item.tame_definition settles_void _ _ _ hbody

theorem Tidy.tame_initFunction (h : plan.Tidy) : ∀ item ∈ plan.initFunction, item.Tame layout := by
  simp only [initFunction, List.forall_mem_cons]
  exact ⟨Item.tame_banner _, tame_signature _ _ h.tame_initBody, Item.tame_blank,
    List.forall_mem_nil _⟩

theorem Tidy.tame_controlFunctions (h : plan.Tidy) :
    ∀ item ∈ plan.controlFunctions, item.Tame layout := by
  have hstart := List.forall_mem_append.1 h.tame_startBody
  have hpositive := h.tame_bodies .setDeadtimePos
  have hnegative := h.tame_bodies .setDeadtimeNeg
  simp only [bodies, List.forall_mem_singleton] at hpositive hnegative
  simp only [controlFunctions, deadtimeFunction, List.forall_mem_append, List.forall_mem_cons]
  exact ⟨⟨⟨Item.tame_banner _, tame_signature _ _ hstart.1, Item.tame_blank, Item.tame_banner _,
    tame_signature _ _ hstart.2, Item.tame_blank, Item.tame_banner _,
    tame_signature _ _ h.tame_setFswBody, Item.tame_blank, Item.tame_banner _,
    tame_signature _ _ h.tame_setDutyBody, Item.tame_blank, List.forall_mem_nil _⟩,
    tame_signature _ _ hpositive, Item.tame_blank, List.forall_mem_nil _⟩,
    tame_signature _ _ hnegative, Item.tame_blank, List.forall_mem_nil _⟩

theorem Tidy.tame_interruptHandlers (h : plan.Tidy) :
    ∀ item ∈ plan.interruptHandlers, item.Tame layout := by
  have hcontrollers : ∀ item ∈ plan.isrPhases.flatMap plan.controllerFunction,
      item.Tame layout := by
    refine List.forall_mem_flatMap.2 fun phase _ => ?_
    simp only [controllerFunction, List.forall_mem_cons]
    exact ⟨Item.tame_banner _, Item.tame_definition settles_void _ _ _ (h.tame_controllerBody phase),
      Item.tame_blank, List.forall_mem_nil _⟩
  have hdma := h.tame_bodies .initDmaIsr
  simp only [bodies, List.forall_mem_singleton] at hdma
  simp only [interruptHandlers, List.forall_mem_append, List.forall_mem_cons]
  exact ⟨⟨⟨Item.tame_banner _, tame_helperSignature _ _ h.tame_currentControllerBody,
    Item.tame_blank, List.forall_mem_nil _⟩, hcontrollers⟩, Item.tame_banner _,
    tame_helperSignature _ _ hdma, Item.tame_blank, tame_helperSignature _ _ plan.tame_phaseShiftBody,
    Item.tame_blank, List.forall_mem_nil _⟩

theorem Tidy.tame_configInstance (h : plan.Tidy) :
    ∀ item ∈ plan.helperDeclarations ++ plan.configInstance, item.Tame layout := by
  have hplain : Plain (plan.stem ++ "_") := h.plain_append rfl
  have hsettles : Settles (plan.stem ++ "_" ++ "config_t" ++ " ") :=
    settles_plain_ofList hplain (append_ofList_ne_empty (List.cons_ne_nil _ _) _) rfl
  have htype : plan.configType = plan.stem ++ "_" ++ "config_t" := by
    simp [configType, ← String.toList_inj]
  rw [← htype] at hsettles
  simp only [helperDeclarations, configInstance, List.forall_mem_append, List.forall_mem_cons]
  exact ⟨⟨Item.tame_prototype settles_void _ _ _, Item.tame_prototype settles_void _ _ _,
    List.forall_mem_nil _⟩, Item.tame_comment _, Item.tame_object hsettles _ _ _, Item.tame_blank,
    List.forall_mem_nil _⟩

end DriverPlan

/-- Every call in a source can be read. -/
theorem tame_source (h : ∀ plan ∈ plans, plan.Tidy) :
    ∀ item ∈ source base stamp plans, item.Tame layout := by
  have hinstance := fun plan hplan => (h plan hplan).tame_configInstance
  simp only [List.forall_mem_append] at hinstance
  simp only [source, sourceSections, banner, List.forall_mem_append, List.forall_mem_cons]
  exact ⟨⟨⟨Item.tame_banner _, Item.tame_blank, List.forall_mem_nil _⟩, Item.tame_ownInclude _,
    Item.tame_systemInclude _, Item.tame_blank, List.forall_mem_nil _⟩,
    ⟨⟨⟨⟨⟨⟨Item.tame_comment _, List.forall_mem_nil _⟩,
      List.forall_mem_flatMap.2 fun plan hplan => (hinstance plan hplan).1⟩, Item.tame_blank,
      List.forall_mem_nil _⟩, List.forall_mem_flatMap.2 fun plan hplan => (hinstance plan hplan).2⟩,
      List.forall_mem_flatMap.2 fun plan hplan => (h plan hplan).tame_initFunction⟩,
      List.forall_mem_flatMap.2 fun plan hplan => (h plan hplan).tame_controlFunctions⟩,
      List.forall_mem_flatMap.2 fun plan hplan => (h plan hplan).tame_interruptHandlers⟩

end Source

end FirmwareGen.Modulators
