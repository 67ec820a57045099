-- SUMMARY: The duty functions of drivers, line by line, and their cases.
import FirmwareGen.Proofs.C.Cases
import FirmwareGen.Proofs.Modulators.Calls
/-!
# Duty functions

The duty function of a driver clamps the duty cycle and then has one case for each active phase, which
writes the compare register of that phase.
-/

namespace FirmwareGen.Modulators

open C Text

namespace DriverPlan

variable (plan : DriverPlan)

/-- The lines of a duty function in front of its cases. -/
def clampLines : List String :=
  ["    uint16_t compare;", "",
   "    if(duty > " ++ plan.maxDutyMacro ++ ")", "        duty = " ++ plan.maxDutyMacro ++ ";",
   "    else if(duty < " ++ plan.minDutyMacro ++ ")", "        duty = " ++ plan.minDutyMacro ++ ";",
   "", "    switch(phase)", "    \x7b"]

/-- The lines of a duty function behind its cases. -/
def fireLines : List String :=
  ["    \x7d", "", "    Cy_TrigMux_SwTrigger(" ++ triggerArguments "IN6" "CY_TRIGGER_TWO_CYCLES" ++ ");"]

theorem lines_setDutyBody :
    plan.setDutyBody.flatMap (Statement.lines layout) =
      plan.clampLines ++ (plan.phases.map plan.dutyCase).flatMap Case.lines ++ fireLines := by
  have hdeclare : Statement.lines layout (.simple (.declare "uint16_t" "compare" none none)) =
      ["    uint16_t compare;"] := by
    simp [Statement.lines, Simple.line, Simple.print, indent, printRemark]
  have hblank : Statement.lines layout blankStatement = [""] := rfl
  have hbranch : Statement.lines layout (.branch
      (.binary .greater (.name "duty") (.name plan.maxDutyMacro),
        .assign .set (.name "duty") (.name plan.maxDutyMacro) none)
      [(.binary .less (.name "duty") (.name plan.minDutyMacro),
        .assign .set (.name "duty") (.name plan.minDutyMacro) none)] none) =
      ["    if(duty > " ++ plan.maxDutyMacro ++ ")", "        duty = " ++ plan.maxDutyMacro ++ ";",
       "    else if(duty < " ++ plan.minDutyMacro ++ ")",
       "        duty = " ++ plan.minDutyMacro ++ ";"] := by
    simp [Statement.lines, Simple.line, Simple.print, indent, printRemark, Layout.keyword, layout,
      Expr.print, BinaryOp.symbol, AssignOp.symbol, ← String.toList_inj]
  have hswitch : ∀ cases, Statement.lines layout (.switch (.name "phase") cases) =
      ["    switch(phase)", "    \x7b"] ++ cases.flatMap Case.lines ++ ["    \x7d"] := by
    intro cases
    simp [Statement.lines, Layout.keyword, layout, Expr.print, indent]
  have htrigger : Statement.lines layout (fireTrigger "IN6" "CY_TRIGGER_TWO_CYCLES") =
      ["    Cy_TrigMux_SwTrigger(" ++ triggerArguments "IN6" "CY_TRIGGER_TWO_CYCLES" ++ ");"] := by
    simp [fireTrigger, callStatement, callLine, Statement.lines, Simple.line, Simple.print,
      Expr.print, indent, triggerArguments, ← String.toList_inj]
  simp only [setDutyBody, List.flatMap_cons, List.flatMap_nil, hdeclare, hblank, hbranch, hswitch,
    htrigger, clampLines, fireLines, List.append_assoc, List.cons_append, List.nil_append]

theorem caseLabel?_clampLines : ∀ line ∈ plan.clampLines, caseLabel? line = none := by
  simp only [clampLines, List.forall_mem_cons, caseLabel?, String.append_assoc]
  exact ⟨between?_ofList rfl _, between?_ofList rfl _, between?_ofList_append rfl rfl _ _,
    between?_ofList_append rfl rfl _ _, between?_ofList_append rfl rfl _ _,
    between?_ofList_append rfl rfl _ _, between?_ofList rfl _, between?_ofList rfl _,
    between?_ofList rfl _, List.forall_mem_nil _⟩

theorem caseLabel?_fireLines : ∀ line ∈ fireLines, caseLabel? line = none := by
  simp only [fireLines, List.forall_mem_cons, caseLabel?, String.append_assoc]
  exact ⟨between?_ofList rfl _, between?_ofList rfl _, between?_ofList_append rfl rfl _ _,
    List.forall_mem_nil _⟩

/-- The cases that are read from a duty function are those of the active phases. -/
theorem arms_setDutyBody :
    arms (plan.setDutyBody.flatMap (Statement.lines layout)) =
      plan.phases.map fun phase => (plan.dutyCase phase).arm := by
  have hleave : ∀ case ∈ plan.phases.map plan.dutyCase, Simple.leave ∈ case.body := by
    intro case hcase
    obtain ⟨phase, -, rfl⟩ := List.mem_map.1 hcase
    simp [dutyCase]
  rw [lines_setDutyBody, arms_cases hleave plan.caseLabel?_clampLines caseLabel?_fireLines,
    List.map_map]
  rfl

/-- What a case of a duty function does before it leaves the switch. -/
def dutySteps (phase : PhasePlan) : List Simple :=
  [.assign .set (plan.phaseSetting "duty") (.name "duty") none,
   .assign .set (.name "compare")
     (.binary .sub (plan.phaseSetting "period")
       (.binary .mul (plan.phaseSetting "period") (.name "duty"))) none,
   callLine "Cy_TCPWM_PWM_SetCompare0BufVal"
     (pwmCounter phase ++
       [Expr.binary .add (.name "compare") (plan.phaseSetting "compareValueOffset")])]

theorem line_ne_leaveLine {line : Simple} {c : Char} (hc : c ∈ line.print.toList)
    (hbreak : c ∉ ['b', 'r', 'e', 'a', 'k', ';']) (h : line ≠ .blank) :
    line.line 3 ≠ leaveLine := by
  have hline : line.line 3 = indent 3 ++ line.print := by
    cases line with
    | blank => exact absurd rfl h
    | _ => rfl
  have hleave : leaveLine = indent 3 ++ "break;" := by simp [indent, leaveLine]
  rw [hline, hleave]
  intro heq
  have hprint : line.print = "break;" := by simpa [← String.toList_inj] using heq
  rw [hprint] at hc
  exact hbreak (by simpa using hc)

theorem arm_dutyCase (phase : PhasePlan) :
    (plan.dutyCase phase).arm =
      { label := phase.enumerator, body := (plan.dutySteps phase).map (Simple.line 3) } := by
  have hassign : ∀ target value,
      (Simple.assign .set target value none).line 3 ≠ leaveLine := fun target value =>
    line_ne_leaveLine (c := ' ') (by simp [Simple.print]) (by decide) (by simp)
  have hcall : ∀ callee arguments, (callLine callee arguments).line 3 ≠ leaveLine :=
    fun callee arguments =>
      line_ne_leaveLine (c := '(') (by simp [callLine, Simple.print, Expr.print]) (by decide)
        (by simp [callLine])
  simp [Case.arm, dutyCase, dutySteps, hassign, hcall, leaveLine_eq]

theorem Tidy.callsOf_dutySteps {plan : DriverPlan} (h : plan.Tidy) (phase : PhasePlan) :
    callsOf "Cy_TCPWM_PWM_SetCompare0BufVal" ((plan.dutySteps phase).map (Simple.line 3)) =
      [counterArguments phase.pwm ++ ", compare + " ++
        phaseMember plan.stem "compareValueOffset"] := by
  have htame : ∀ line ∈ plan.dutySteps phase, line.Tame := fun line hline =>
    h.tame_dutyCase phase line (by
      simp only [dutySteps, dutyCase, List.mem_cons, List.not_mem_nil, or_false] at hline ⊢
      rcases hline with rfl | rfl | rfl <;> simp)
  rw [callsOf_map_line (callable_ofList rfl rfl) htame]
  simp [dutySteps, List.filterMap_cons, select_self, printList_counter_append, Expr.printList,
    Expr.print, BinaryOp.symbol, print_phaseSetting, ← String.toList_inj]

/-! ### Limits -/

/-- The macro that a line of a duty function compares or assigns a duty cycle to. -/
def limit? (line : String) : Option String :=
  (between? "    if(duty > " ")" line).or
    ((between? "        duty = " ";" line).or (between? "    else if(duty < " ")" line))

theorem limit?_of_none {line : String} (hmax : between? "    if(duty > " ")" line = none)
    (hset : between? "        duty = " ";" line = none)
    (hmin : between? "    else if(duty < " ")" line = none) : limit? line = none := by
  rw [limit?, hmax, hset, hmin]
  rfl

theorem limit?_blank : limit? "" = none :=
  limit?_of_none (between?_ofList rfl _) (between?_ofList rfl _) (between?_ofList rfl _)

theorem limits_clampLines :
    plan.clampLines.filterMap limit? =
      [plan.maxDutyMacro, plan.maxDutyMacro, plan.minDutyMacro, plan.minDutyMacro] := by
  have hdeclare : limit? "    uint16_t compare;" = none := limit?_of_none (between?_ofList rfl _)
    (between?_ofList rfl _) (between?_ofList rfl _)
  have hswitch : limit? "    switch(phase)" = none := limit?_of_none (between?_ofList rfl _)
    (between?_ofList rfl _) (between?_ofList rfl _)
  have hopen : limit? "    \x7b" = none := limit?_of_none (between?_ofList rfl _)
    (between?_ofList rfl _) (between?_ofList rfl _)
  have hmax : limit? ("    if(duty > " ++ plan.maxDutyMacro ++ ")") = some plan.maxDutyMacro := by
    rw [limit?, between?_append]
    rfl
  have hset : ∀ name, limit? ("        duty = " ++ name ++ ";") = some name := by
    intro name
    have hother : between? "    if(duty > " ")" ("        duty = " ++ name ++ ";") = none := by
      rw [String.append_assoc]
      exact between?_ofList_append rfl rfl _ _
    rw [limit?, hother, between?_append]
    rfl
  have hmin : limit? ("    else if(duty < " ++ plan.minDutyMacro ++ ")") =
      some plan.minDutyMacro := by
    have hother : between? "    if(duty > " ")" ("    else if(duty < " ++ plan.minDutyMacro ++ ")") =
        none := by
      rw [String.append_assoc]
      exact between?_ofList_append rfl rfl _ _
    have hassign : between? "        duty = " ";"
        ("    else if(duty < " ++ plan.minDutyMacro ++ ")") = none := by
      rw [String.append_assoc]
      exact between?_ofList_append rfl rfl _ _
    rw [limit?, hother, hassign, between?_append]
    rfl
  simp only [clampLines, List.filterMap_cons_none hdeclare, List.filterMap_cons_none limit?_blank,
    List.filterMap_cons_none hswitch, List.filterMap_cons_none hopen, List.filterMap_cons_some hmax,
    List.filterMap_cons_some (hset _), List.filterMap_cons_some hmin, List.filterMap_nil]

/-- Lines of cases are indented further, and labels are named otherwise. -/
theorem limit?_case (case : Case) : ∀ line ∈ case.lines, limit? line = none := by
  have hlabel : limit? (indent 2 ++ "case " ++ case.label ++ ":") = none := by
    have hindent : indent 2 ++ "case " = "        case " := by simp [indent]
    rw [hindent, String.append_assoc]
    exact limit?_of_none (between?_ofList_append rfl rfl _ _) (between?_ofList_append rfl rfl _ _)
      (between?_ofList_append rfl rfl _ _)
  have hline : ∀ text, limit? (indent 3 ++ text) = none := by
    intro text
    have hindent : indent 3 = "            " := by simp [indent]
    rw [hindent]
    exact limit?_of_none (between?_ofList_append rfl rfl _ _) (between?_ofList_append rfl rfl _ _)
      (between?_ofList_append rfl rfl _ _)
  refine Case.forall_lines.2 ⟨hlabel, fun line _ => ?_⟩
  cases line with
  | blank => exact limit?_blank
  | _ => exact hline _

/-- A duty function keeps the duty cycle between the limits of its driver. -/
theorem limits_setDutyBody :
    (plan.setDutyBody.flatMap (Statement.lines layout)).filterMap limit? =
      [plan.maxDutyMacro, plan.maxDutyMacro, plan.minDutyMacro, plan.minDutyMacro] := by
  have hcases : ((plan.phases.map plan.dutyCase).flatMap Case.lines).filterMap limit? = [] := by
    rw [List.filterMap_eq_nil_iff]
    exact List.forall_mem_flatMap.2 fun case _ => limit?_case case
  have hfire : fireLines.filterMap limit? = [] := by
    rw [List.filterMap_eq_nil_iff]
    simp only [fireLines, List.forall_mem_cons, String.append_assoc]
    exact ⟨limit?_of_none (between?_ofList rfl _) (between?_ofList rfl _) (between?_ofList rfl _),
      limit?_blank, limit?_of_none (between?_ofList_append rfl rfl _ _)
        (between?_ofList_append rfl rfl _ _) (between?_ofList_append rfl rfl _ _), List.forall_mem_nil _⟩
  rw [lines_setDutyBody, List.filterMap_append, List.filterMap_append, limits_clampLines, hcases,
    hfire, List.append_nil, List.append_nil]

end DriverPlan

end FirmwareGen.Modulators
