-- SUMMARY: Interrupt service routines are declared, defined and served phase by phase.
import FirmwareGen.Proofs.Modulators.Coverage
import FirmwareGen.Proofs.Modulators.Influence
import FirmwareGen.Proofs.Modulators.Routines
/-!
# Interrupt service routines

The phases that are driven and want an interrupt service routine have one: the header declares it, the
source defines it, and its body is about that phase. No other function has the attributes of an
interrupt service routine.
-/

namespace FirmwareGen

open Text

/-- The phases with an interrupt service routine, with their modulators in front of them. -/
def interruptPhases (modulators : List Modulator) : List (Modulator × Phase) :=
  modulators.flatMap fun modulator =>
    (modulator.phases.filter fun phase => phase.pwm != "" && phase.generateIsr).map (modulator, ·)

/-- A phase that triggers the converter only if it has an interrupt service routine. -/
def Phase.withoutIdleTrigger (phase : Phase) : Phase :=
  { phase with triggerAdc := phase.triggerAdc && phase.generateIsr }

def Modulator.withoutIdleTriggers (modulator : Modulator) : Modulator :=
  { modulator with phases := modulator.phases.map Phase.withoutIdleTrigger }

namespace Modulators

open C

/-- The name of the interrupt service routine of a phase, without its last word. -/
def routineStem (scheme : NamingScheme) (isr : Modulator × Phase) : String :=
  Naming.instanceName isr.1.name ++ "_" ++ scheme.phaseName isr.2.pwm

/-- The macro whose conversion result a line filters into the current of a modulator. -/
def filtered? (stem line : String) : Option String :=
  between? ("    " ++ phaseMember stem "currentFilt" ++ " = moving_average(") ");" line

/-- The body of an interrupt service routine is about one phase. -/
structure Serves (scheme : NamingScheme) (isr : Modulator × Phase) (body : List String) : Prop where
  /-- It passes the enumerator of the phase to the current controller, and calls no other one. -/
  current : ∀ name, callsOf (Naming.instanceName name ++ "_CurrentController") body =
    if Naming.instanceName name = Naming.instanceName isr.1.name then
      [scheme.enumerator isr.1 isr.2 ++ ", err"]
    else []
  /-- It filters the current of the phase, and no other one. -/
  reading : ∀ name, body.filterMap (filtered? (Naming.instanceName name)) =
    if Naming.instanceName name = Naming.instanceName isr.1.name then
      [scheme.currentMacro isr.1 isr.2]
    else []
  /-- It clears the interrupt of the channel if the phase triggers the converter. -/
  clearing : callsOf "Cy_DMA_Channel_ClearInterrupt" body =
    if isr.2.triggerAdc then
      ["DMA_" ++ scheme.phaseName isr.2.pwm ++ "_HW, DMA_" ++ scheme.phaseName isr.2.pwm ++ "_CHANNEL"]
    else []

/-- Two files with interrupt service routines for just the phases that have one. -/
structure Gated (scheme : NamingScheme) (modulators : List Modulator)
    (header source : List String) : Prop where
  prototypes : header.filterMap (between? "void " "_Controller(void);") =
    (interruptPhases modulators).map (routineStem scheme)
  definitions : source.filterMap (between? "void " "_Controller(void)") =
    (interruptPhases modulators).map (routineStem scheme)
  /-- Behind each line of attributes in the header there is one of these prototypes. -/
  headerAttributes : attributed header = (interruptPhases modulators).map fun isr =>
    some ("void " ++ routineStem scheme isr ++ "_Controller(void);")
  /-- Behind each line of attributes in the source one of these definitions begins. -/
  sourceAttributes : attributed source = (interruptPhases modulators).map fun isr =>
    some ("void " ++ routineStem scheme isr ++ "_Controller(void)")
  bodies : List.Forall₂ (Serves scheme) (interruptPhases modulators)
    (bodiesOf "_Controller(void)" source)

/-! ## Phases of plans -/

section Phases

variable {scheme : NamingScheme} {modulators : List Modulator}

theorem isrPhases_ofModulator (modulator : Modulator) :
    (DriverPlan.ofModulator scheme modulator).isrPhases =
      (modulator.phases.filter fun phase => phase.pwm != "" && phase.generateIsr).map
        (PhasePlan.ofPhase scheme (scheme.symbolStem modulator.name)) := by
  rw [DriverPlan.isrPhases, DriverPlan.ofModulator, List.filter_map, Modulator.activePhases,
    List.filter_filter]
  congr 1
  refine List.filter_congr fun phase _ => ?_
  exact Bool.and_comm _ _

/-- What is done for each routine of the plans is done for each phase with a routine. -/
theorem flatMap_isrPhases {α : Type} {f : DriverPlan → PhasePlan → α}
    {g : Modulator × Phase → α}
    (h : ∀ modulator phase, f (DriverPlan.ofModulator scheme modulator)
      (PhasePlan.ofPhase scheme (scheme.symbolStem modulator.name) phase) = g (modulator, phase)) :
    ((plansOf scheme modulators).flatMap fun plan => plan.isrPhases.map (f plan)) =
      (interruptPhases modulators).map g := by
  rw [plansOf, List.flatMap_map, interruptPhases, List.map_flatMap]
  refine List.flatMap_congr fun modulator _ => ?_
  rw [isrPhases_ofModulator, List.map_map, List.map_map]
  exact List.map_congr_left fun phase _ => h modulator phase

end Phases

/-! ## Bodies of routines -/

theorem phaseMember_injective {stem other field : String}
    (h : phaseMember stem field = phaseMember other field) : stem = other := by
  have hlist := congrArg String.toList h
  simp only [phaseMember, String.toList_append, List.append_assoc] at hlist
  have hlength : stem.toList.length = other.toList.length := by
    have hall := congrArg List.length hlist
    simp only [List.length_append] at hall
    omega
  exact String.toList_injective (List.append_inj_left hlist hlength)

theorem plain_phaseMember {stem : String} (hstem : Plain stem) {cs : List Char}
    (hcs : cs.all isPlain = true) : Plain (phaseMember stem (String.ofList cs)) := by
  have hconfig : Plain "_config." := plain_ofList rfl
  have hdot : Plain "." := plain_ofList rfl
  exact plain_append (plain_append (plain_append (plain_append hstem hconfig) hstem) hdot)
    (plain_ofList hcs)

theorem phaseMember_ne_empty (stem : String) {cs : List Char} (h : cs ≠ []) :
    phaseMember stem (String.ofList cs) ≠ "" := append_ofList_ne_empty h _

/-- What a reader of filtered currents looks for, up to its first capital. -/
theorem currentFilt_eq (stem rest : String) :
    "    " ++ phaseMember stem "currentFilt" ++ rest =
      indent 1 ++ (phaseMember stem "current" ++ ("Filt" ++ rest)) := by
  simp [phaseMember, indent, ← String.toList_inj]

section Readings

variable {name : String}

/-- A line with another first capital filters no current. -/
theorem filtered?_of_capital {line : String}
    (h : (fromCapital (dropIndent line)).head? ≠ some 'F') :
    filtered? (Naming.instanceName name) line = none := by
  have hfront : fromCapital (dropIndent ("    " ++ phaseMember (Naming.instanceName name)
      "currentFilt" ++ " = moving_average(")) = ("Filt" ++ " = moving_average(").toList := by
    have hplain : Plain (phaseMember (Naming.instanceName name) "current") :=
      plain_phaseMember (Naming.plain_instanceName name) rfl
    rw [currentFilt_eq, dropIndent_indent,
      dropIndent_plain hplain (phaseMember_ne_empty _ (List.cons_ne_nil _ _)),
      fromCapital_plain hplain]
    simp [fromCapital, isPlain]
  refine between?_of_capital ?_ ?_ <;> rw [hfront]
  · simp
  · simpa using h

theorem filtered?_currentFilt {stem : String} (hstem : Plain stem) (macroName : String) :
    filtered? (Naming.instanceName name)
        ("    " ++ phaseMember stem "currentFilt" ++ " = moving_average(" ++ macroName ++ ");") =
      if Naming.instanceName name = stem then some macroName else none := by
  split
  · next heq => rw [heq, filtered?, between?_append]
  · next hne =>
    refine between?_eq_none fun rest heq => hne ?_
    have hplain : ∀ {text : String}, Plain text → Plain (phaseMember text "current") :=
      fun htext => plain_phaseMember htext rfl
    rw [String.append_assoc, String.append_assoc, currentFilt_eq, currentFilt_eq] at heq
    have hlist : (phaseMember stem "current").toList ++ 'F' :: ("ilt".toList ++
        (" = moving_average(" ++ (macroName ++ ");")).toList) =
        (phaseMember (Naming.instanceName name) "current").toList ++ 'F' :: ("ilt".toList ++
          (" = moving_average(".toList ++ rest)) := by
      simpa [indent] using heq
    exact (phaseMember_injective (plain_unique (hplain hstem)
      (hplain (Naming.plain_instanceName name)) (by decide) hlist)).symm

theorem filtered?_remark (text : String) :
    filtered? (Naming.instanceName name) ((Simple.lineComment text).line 1) = none := by
  refine filtered?_of_capital ?_
  rw [Simple.line, Simple.print, dropIndent_indent]
  · simp [dropIndent, fromCapital, isPlain]
  · simp

theorem filtered?_blank : filtered? (Naming.instanceName name) (Simple.line 1 .blank) = none :=
  filtered?_of_capital (by simp [Simple.line, dropIndent, fromCapital])

theorem filtered?_error (value : Option Expr) :
    filtered? (Naming.instanceName name) ((Simple.declare "int32_t" "err" value none).line 1) =
      none := by
  refine filtered?_of_capital ?_
  rw [Simple.line, dropIndent_indent]
  · cases value <;> simp [Simple.print, dropIndent, fromCapital, isPlain]
  · simp

theorem filtered?_call {callee : String} (hcallee : Callable callee)
    (hhead : (fromCapital callee.toList).head? ≠ some 'F') (arguments : List Expr) :
    filtered? (Naming.instanceName name) ((callLine callee arguments).line 1) = none := by
  have hprint : Simple.print (callLine callee arguments) =
      callee ++ ("(" ++ Expr.printList arguments ++ ");") := by
    simp [callLine, Simple.print, Expr.print, ← String.toList_inj]
  refine filtered?_of_capital ?_
  rw [Simple.line, dropIndent_indent, hprint, dropIndent_callable hcallee,
    fromCapital_append hcallee.1, List.head?_append_of_ne_nil _ hcallee.1]
  · exact hhead
  · simp [callLine]

/-- A routine filters the current of its phase, once. -/
theorem filtered_controllerBody {plan : DriverPlan} (h : plan.Tidy) (phase : PhasePlan) :
    ((plan.controllerBody phase).flatMap (Statement.lines layout)).filterMap
        (filtered? (Naming.instanceName name)) =
      if Naming.instanceName name = plan.stem then [plan.currentMacro phase] else [] := by
  have hsimple : ∀ line, filtered? (Naming.instanceName name) (line.line 1) = none →
      (Statement.lines layout (.simple line)).filterMap
        (filtered? (Naming.instanceName name)) = [] :=
    fun line hline => List.filterMap_cons_none hline
  have hfilter : Statement.lines layout (assignStatement (plan.phaseSetting "currentFilt")
      (.call "moving_average" [.name (plan.currentMacro phase)])) =
      ["    " ++ phaseMember plan.stem "currentFilt" ++ " = moving_average(" ++
        plan.currentMacro phase ++ ");"] := by
    simp [assignStatement, Statement.lines, Simple.line, Simple.print, AssignOp.symbol, indent,
      DriverPlan.print_phaseSetting, Expr.print, Expr.printList, printRemark, ← String.toList_inj]
  have hread : filtered? (Naming.instanceName name) ("    " ++ phaseMember plan.stem "currentFilt" ++
      " = moving_average(" ++ plan.currentMacro phase ++ ");") =
        if Naming.instanceName name = plan.stem then some (plan.currentMacro phase) else none :=
    filtered?_currentFilt h.stem_plain _
  have hcontroller : filtered? (Naming.instanceName name)
      ((callLine (plan.function "CurrentController") [.name phase.enumerator, .name "err"]).line 1) =
        none := by
    refine filtered?_call (h.callable_function (callable_ofList rfl rfl)) ?_ _
    rw [DriverPlan.function, String.append_assoc, String.toList_append,
      fromCapital_plain h.stem_plain]
    simp [fromCapital, isPlain]
  have hclear : ((DriverPlan.dmaClear phase).flatMap (Statement.lines layout)).filterMap
      (filtered? (Naming.instanceName name)) = [] := by
    unfold DriverPlan.dmaClear
    split
    · rw [List.flatMap_singleton]
      exact hsimple _ (filtered?_call (callable_ofList rfl rfl) (by simp [fromCapital, isPlain]) _)
    · rfl
  simp only [DriverPlan.controllerBody, List.flatMap_append, List.flatMap_cons, List.flatMap_nil,
    List.filterMap_append, remarkStatement, blankStatement, callStatement,
    hsimple _ (filtered?_remark _), hsimple _ filtered?_blank, hsimple _ (filtered?_error _),
    hsimple _ hcontroller, hclear, hfilter, filterMap_singleton, hread, List.append_nil,
    List.nil_append]
  split <;> rfl

end Readings

/-- What a routine calls of the current controllers. -/
theorem callsOf_controllerBody {plan : DriverPlan} (h : plan.Tidy) (phase : PhasePlan)
    (name : String) :
    callsOf (Naming.instanceName name ++ "_CurrentController")
        ((plan.controllerBody phase).flatMap (Statement.lines layout)) =
      if Naming.instanceName name = plan.stem then [phase.enumerator ++ ", err"] else [] := by
  have hplain := Naming.plain_instanceName name
  have hcallee : Callable (Naming.instanceName name ++ "_CurrentController") :=
    callable_plain_append hplain (callable_ofList rfl rfl)
  have hdma : "Cy_DMA_Channel_ClearInterrupt" ≠ Naming.instanceName name ++ "_CurrentController" :=
    (plain_append_ne_ofList hplain (by decide)).symm
  have hname : plan.function "CurrentController" = plan.stem ++ "_CurrentController" := by
    simp [DriverPlan.function, String.append_assoc]
  have hclear : ((if phase.phase.triggerAdc then
      [("Cy_DMA_Channel_ClearInterrupt",
        "DMA_" ++ phase.name ++ "_HW, DMA_" ++ phase.name ++ "_CHANNEL")]
      else []).filterMap (select (Naming.instanceName name ++ "_CurrentController"))) = [] := by
    split
    · exact List.filterMap_cons_none (select_of_ne hdma _)
    · rfl
  rw [callsOf_body hcallee (h.tame_controllerBody phase), DriverPlan.calls_controllerBody, hname]
  by_cases heq : Naming.instanceName name = plan.stem
  · rw [if_pos heq, ← heq, List.filterMap_cons_some (select_self _ _), hclear]
  · have hother : plan.stem ++ "_CurrentController" ≠
        Naming.instanceName name ++ "_CurrentController" := fun hsame =>
      heq ((String.append_left_inj _).1 hsame.symm)
    rw [if_neg heq, List.filterMap_cons_none (select_of_ne hother _), hclear]

theorem clears_controllerBody {plan : DriverPlan} (h : plan.Tidy) (phase : PhasePlan) :
    callsOf "Cy_DMA_Channel_ClearInterrupt"
        ((plan.controllerBody phase).flatMap (Statement.lines layout)) =
      if phase.phase.triggerAdc then
        ["DMA_" ++ phase.name ++ "_HW, DMA_" ++ phase.name ++ "_CHANNEL"]
      else [] := by
  have hcontroller : select "Cy_DMA_Channel_ClearInterrupt"
      (plan.function "CurrentController", phase.enumerator ++ ", err") = none :=
    h.select_function _ _
  rw [callsOf_body (callable_ofList rfl rfl) (h.tame_controllerBody phase),
    DriverPlan.calls_controllerBody, List.filterMap_cons_none hcontroller]
  split
  · rw [filterMap_singleton, select_self, Option.toList_some]
  · rfl

section Bodies

variable {base stamp : String} {scheme : NamingScheme} {modulators : List Modulator}

/-- The routines of a source are about the phases with a routine, one by one. -/
theorem serves_source (h : ∀ plan ∈ plansOf scheme modulators, plan.Tidy) :
    List.Forall₂ (Serves scheme) (interruptPhases modulators)
      (bodiesOf Role.controller.ending
        (Listing.lines layout (source base stamp (plansOf scheme modulators)))) := by
  have hbodies : ((plansOf scheme modulators).flatMap (·.bodies .controller)).map
      (fun body => body.flatMap (Statement.lines layout)) =
        (interruptPhases modulators).map fun isr =>
          ((DriverPlan.ofModulator scheme isr.1).controllerBody
            (PhasePlan.ofPhase scheme (scheme.symbolStem isr.1.name) isr.2)).flatMap
              (Statement.lines layout) := by
    simp only [DriverPlan.bodies, List.map_flatMap, List.map_map]
    exact flatMap_isrPhases fun modulator phase => rfl
  rw [bodiesOf_source, hbodies, List.forall₂_map_right_iff, List.forall₂_same]
  rintro ⟨modulator, phase⟩ hmem
  obtain ⟨_, hmodulator, hphase⟩ := List.mem_flatMap.1 hmem
  obtain ⟨_, -, heq⟩ := List.mem_map.1 hphase
  cases heq
  have hplan : (DriverPlan.ofModulator scheme modulator).Tidy :=
    h _ (List.mem_map.2 ⟨modulator, hmodulator, rfl⟩)
  exact
    { current := callsOf_controllerBody hplan _
      reading := fun name => filtered_controllerBody hplan _
      clearing := clears_controllerBody hplan _ }

end Bodies

/-! ## Triggers without routines -/

theorem alike_withoutIdleTriggers (modulator : Modulator) :
    modulator.withoutIdleTriggers.Alike modulator := by
  have hshown : ∀ phase : Phase, phase.withoutIdleTrigger.shown = phase.shown := by
    intro phase
    cases hroutine : phase.generateIsr <;>
      simp [Phase.withoutIdleTrigger, Phase.shown, hroutine]
  have hactive : modulator.withoutIdleTriggers.activePhases =
      modulator.activePhases.map Phase.withoutIdleTrigger := by
    rw [Modulator.activePhases, Modulator.activePhases, Modulator.withoutIdleTriggers,
      List.filter_map]
    rfl
  refine ⟨rfl, rfl, rfl, ?_⟩
  rw [hactive, List.map_map]
  exact List.map_congr_left fun phase _ => hshown phase

/-- The triggers of phases without a routine are not generated. -/
theorem generate_withoutIdleTriggers {ρ : Type} {scheme : NamingScheme}
    {modulators : List Modulator} (clock : TimeSource ρ) (state : ρ) :
    generate scheme clock (modulators.map Modulator.withoutIdleTriggers) state =
      generate scheme clock modulators state := by
  apply generate_eq_of_alike
  rw [List.forall₂_map_left_iff, List.forall₂_same]
  exact fun modulator _ => alike_withoutIdleTriggers modulator

/-- Just the phases that want an interrupt service routine have one in both files, and it is theirs;
the trigger of a phase without one changes nothing. -/
theorem gated_generate {ρ : Type} {scheme : NamingScheme} {modulators : List Modulator}
    (hscheme : scheme.OneLine) (h : ∀ modulator ∈ modulators, modulator.OneLine)
    (clock : TimeSource ρ) (state : ρ) :
    Gated scheme modulators (lines (generate scheme clock modulators state).1.header)
        (lines (generate scheme clock modulators state).1.source) ∧
      ∀ others : List Modulator,
        others.map Modulator.withoutIdleTriggers = modulators.map Modulator.withoutIdleTriggers →
          generate scheme clock others state = generate scheme clock modulators state := by
  obtain ⟨base, stamp, hheader, hsource, -⟩ := lines_generate hscheme h clock state
  constructor
  · rw [hheader, hsource]
    exact
      { prototypes := declared_header.trans (flatMap_isrPhases fun _ _ => rfl)
        definitions := defined_source.trans (flatMap_isrPhases fun _ _ => rfl)
        headerAttributes := attributed_header.trans (flatMap_isrPhases fun _ _ => rfl)
        sourceAttributes := attributed_source.trans (flatMap_isrPhases fun _ _ => rfl)
        bodies := serves_source (tidy_plansOf hscheme h) }
  · intro others hothers
    rw [← generate_withoutIdleTriggers, hothers, generate_withoutIdleTriggers]

theorem gated_generate_interleaved :
    (NamingScheme.OneLine {} ∧ ∀ modulator ∈ interleaved, modulator.OneLine) ∧
      Gated {} interleaved
        (lines (generate {} (.fixed ⟨2024, 2, 29, 12, 0, 0, 0⟩) interleaved ()).1.header)
        (lines (generate {} (.fixed ⟨2024, 2, 29, 12, 0, 0, 0⟩) interleaved ()).1.source) :=
  ⟨⟨NamingScheme.oneLine_preset, oneLine_interleaved⟩,
    (gated_generate NamingScheme.oneLine_preset oneLine_interleaved _ _).1⟩

end Modulators

end FirmwareGen
