-- SUMMARY: The source file of modulators.
import FirmwareGen.Modulators.Header
/-!
# Sources of modulator drivers

Bodies are built from parts that go through the active phases of a driver, so that each phase is set
up, driven and controlled in the same order everywhere.
-/

namespace FirmwareGen.Modulators

open C

/-! ## Statements -/

/-- A call as a line of a body. -/
def callLine (callee : String) (arguments : List Expr) : Simple :=
  .evaluate (.call callee arguments)

def callStatement (callee : String) (arguments : List Expr) : Statement :=
  .simple (callLine callee arguments)

def assignStatement (target value : Expr) : Statement :=
  .simple (.assign .set target value none)

def blankStatement : Statement := .simple .blank

def remarkStatement (text : String) : Statement := .simple (.lineComment text)

/-- The counter block and the counter number of a PWM resource. -/
def pwmCounter (phase : PhasePlan) : List Expr :=
  [.name (phase.pwm ++ "_HW"), .name (phase.pwm ++ "_NUM")]

/-- A call that fires a trigger output. -/
def fireTrigger (line mode : String) : Statement :=
  callStatement "Cy_TrigMux_SwTrigger" [.name ("TRIG_OUT_MUX_10_TCPWM0_TR_" ++ line), .name mode]

/-- An input of a PWM counter and the trigger line that it is set up for. -/
structure TriggerInput where
  purpose : String
  input : String
  line : Nat

def killInput : TriggerInput := ⟨"Set up the kill input", "CY_TCPWM_INPUT_TR_STOP_OR_KILL", 5⟩

def swapInput : TriggerInput :=
  ⟨"Setup swap functionality for variable fsw", "CY_TCPWM_INPUT_TR_INDEX_OR_SWAP", 6⟩

def startInput : TriggerInput :=
  ⟨"Setup start trigger for synchronized operation", "CY_TCPWM_INPUT_TR_START", 4⟩

/-- The set-up of a trigger input of one phase. -/
def triggerSetup (input : TriggerInput) (phase : PhasePlan) : Statement :=
  callStatement "Cy_TCPWM_InputTriggerSetup"
    (pwmCounter phase ++
      [.name input.input, .name "CY_TCPWM_INPUT_RISINGEDGE",
       .call "CY_TCPWM_INPUT_TRIG" [.literal (toString input.line)]])

/-- The start-up of the counter of one phase. -/
def counterSetup (phase : PhasePlan) : List Statement :=
  [callStatement "Cy_TCPWM_PWM_Init"
    (pwmCounter phase ++ [.unary .addressOf (.name (phase.pwm ++ "_config"))]),
   callStatement "Cy_TCPWM_PWM_Enable" (pwmCounter phase)]

namespace DriverPlan

/-! ## Declarations and start-up -/

/-- A function that only the source knows. -/
def helperSignature (plan : DriverPlan) (action : String) (parameters : List Parameter) :
    Signature :=
  .function .staticInline "void" (plan.function action) parameters

def helperDeclarations (plan : DriverPlan) : List Item :=
  [.prototype (plan.helperSignature "init_DMA_ISR" []),
   .prototype (plan.helperSignature "updatePhaseShift" [])]

def configInstance (plan : DriverPlan) : List Item :=
  [.comment (plan.title ++ " Configuration Instance"),
   .object plan.configType plan.configObject "Kp" (.literal "1.0f"),
   .blank]

/-- The set-up of a trigger input of all phases. -/
def triggerSetups (plan : DriverPlan) (input : TriggerInput) : List Statement :=
  remarkStatement input.purpose :: plan.phases.map (triggerSetup input) ++ [blankStatement]

def initBody (plan : DriverPlan) : List Statement :=
  [assignStatement (plan.setting "deadtimePos") (.literal (toString defaultDeadtime)),
   assignStatement (plan.setting "deadtimeNeg") (.literal (toString defaultDeadtime)),
   assignStatement (plan.phaseSetting "duty") (.literal plan.duty),
   assignStatement (plan.setting "fsw") (.literal plan.frequency),
   blankStatement,
   assignStatement (plan.setting "clockFreq")
     (.call "Cy_SysClk_ClkHfGetFrequency" [.literal "3"]),
   assignStatement (plan.phaseSetting "compareValueOffset") (.literal "0"),
   blankStatement] ++
  plan.phases.flatMap counterSetup ++
  [blankStatement] ++
  plan.triggerSetups killInput ++
  plan.triggerSetups swapInput ++
  plan.triggerSetups startInput ++
  [callStatement (plan.function "setFsw") [plan.setting "fsw"],
   callStatement (plan.function "updatePhaseShift") [],
   callStatement (plan.function "init_DMA_ISR") [],
   callStatement (plan.function "setMode") [.name plan.openLoop],
   callStatement (plan.function "setDeadtimePos") [plan.setting "deadtimePos"],
   callStatement (plan.function "setDeadtimeNeg") [plan.setting "deadtimeNeg"]]

def initFunction (plan : DriverPlan) : List Item :=
  [.banner [s!"Initialize {plan.title} configuration",
      "Sets the interrupt handler called by the ADC interrupt."],
   .definition (plan.signature "init" []) plan.initBody,
   .blank]

/-! ## Control -/

def startBody (plan : DriverPlan) : List Statement :=
  [fireTrigger "IN4" "CY_TRIGGER_TWO_CYCLES",
   fireTrigger "IN5" "CY_TRIGGER_DEACTIVATE",
   assignStatement (plan.setting "isRunning") (.name "true")]

def stopBody (plan : DriverPlan) : List Statement :=
  [fireTrigger "IN5" "CY_TRIGGER_INFINITE",
   assignStatement (plan.setting "isRunning") (.name "false")]

/-- The call that recomputes the duty cycle, on the first phase. -/
def dutyRefresh (plan : DriverPlan) : List Statement :=
  match plan.phases with
  | [] => []
  | first :: _ =>
    [callStatement (plan.function "setDuty") [.name first.enumerator, plan.phaseSetting "duty"]]

def periodUpdate (plan : DriverPlan) (phase : PhasePlan) : Statement :=
  callStatement "Cy_TCPWM_PWM_SetPeriod1" (pwmCounter phase ++ [plan.phaseSetting "period"])

/-- The period is the clock over twice the frequency, as counting is aligned to the center. -/
def setFswBody (plan : DriverPlan) : List Statement :=
  [.simple (.assign .set (plan.phaseSetting "period")
     (.binary .div (plan.setting "clockFreq") (.group (.packed .mul (.literal "2") (.name "fsw"))))
     (some "(2*fsw because of center aligned modulation)")),
   assignStatement (plan.setting "fsw") (.name "fsw"),
   blankStatement] ++
  plan.phases.map plan.periodUpdate ++
  [blankStatement,
   remarkStatement "When we change the frequency we also need to recalculate the duty cycle"] ++
  plan.dutyRefresh

/-- What the duty function does for one phase. -/
def dutyCase (plan : DriverPlan) (phase : PhasePlan) : Case where
  label := phase.enumerator
  body :=
    [.assign .set (plan.phaseSetting "duty") (.name "duty") none,
     .assign .set (.name "compare")
       (.binary .sub (plan.phaseSetting "period")
         (.binary .mul (plan.phaseSetting "period") (.name "duty"))) none,
     callLine "Cy_TCPWM_PWM_SetCompare0BufVal"
       (pwmCounter phase ++
         [.binary .add (.name "compare") (plan.phaseSetting "compareValueOffset")]),
     .leave]

def setDutyBody (plan : DriverPlan) : List Statement :=
  [.simple (.declare "uint16_t" "compare" none none),
   blankStatement,
   .branch
     (.binary .greater (.name "duty") (.name plan.maxDutyMacro),
      .assign .set (.name "duty") (.name plan.maxDutyMacro) none)
     [(.binary .less (.name "duty") (.name plan.minDutyMacro),
       .assign .set (.name "duty") (.name plan.minDutyMacro) none)]
     none,
   blankStatement,
   .switch (.name "phase") (plan.phases.map plan.dutyCase),
   blankStatement,
   fireTrigger "IN6" "CY_TRIGGER_TWO_CYCLES"]

/-- One of the two dead times of a driver. -/
structure Deadtime where
  action : String
  callee : String
  field : String

def positiveDeadtime : Deadtime := ⟨"setDeadtimePos", "Cy_TCPWM_PWM_PWMDeadTime", "deadtimePos"⟩

def negativeDeadtime : Deadtime := ⟨"setDeadtimeNeg", "Cy_TCPWM_PWM_PWMDeadTimeN", "deadtimeNeg"⟩

def deadtimeUpdate (deadtime : Deadtime) (phase : PhasePlan) : Statement :=
  callStatement deadtime.callee (pwmCounter phase ++ [.name "deadtime"])

def deadtimeFunction (plan : DriverPlan) (deadtime : Deadtime) : List Item :=
  [.definition (plan.signature deadtime.action [⟨"uint32_t", "deadtime"⟩])
    (plan.phases.map (deadtimeUpdate deadtime) ++
      [assignStatement (plan.setting deadtime.field) (.name "deadtime")]),
   .blank]

def controlFunctions (plan : DriverPlan) : List Item :=
  [.banner [s!"Start {plan.title}"],
   .definition (plan.signature "startAll" []) plan.startBody,
   .blank,
   .banner [s!"Stop {plan.title}"],
   .definition (plan.signature "stopAll" []) plan.stopBody,
   .blank,
   .banner [s!"Set {plan.title} switching frequency"],
   .definition (plan.signature "setFsw" [⟨"uint32_t", "fsw"⟩]) plan.setFswBody,
   .blank,
   .banner [s!"Set {plan.title} duty cycle for specific phase"],
   .definition plan.setDutySignature plan.setDutyBody,
   .blank] ++
  plan.deadtimeFunction positiveDeadtime ++
  plan.deadtimeFunction negativeDeadtime

/-! ## Interrupts -/

/-- The input voltage and the controller output, added in parentheses and scaled. -/
def scaledOutput : Expr :=
  .binary .div (.group (.binary .add (.name "VIN_temp") (.name "VL"))) (.literal "400.0f")

def currentControllerBody (plan : DriverPlan) : List Statement :=
  [.simple (.declare "float" "duty" none none),
   .simple (.declare "float" "VL" none none),
   .simple (.declare "float" "VIN_temp" (some (.literal "1.0f"))
     (some "TODO: Replace with actual input voltage reading")),
   blankStatement,
   assignStatement (.name "VL") (.binary .mul (.name "err") (plan.setting "Kp")),
   .branch
     (.binary .greater (.name "VIN_temp") (.literal "0"),
      .assign .set (.name "duty") scaledOutput (some "TODO: Adjust divisor based on VDC"))
     []
     (some (.assign .set (.name "duty") (.binary .add (.literal "1.0f") scaledOutput) none)),
   blankStatement,
   callStatement (plan.function "setDuty") [.name "phase", .name "duty"]]

/-- The line that clears the DMA interrupt, for a phase that triggers the converter. -/
def dmaClear (phase : PhasePlan) : List Statement :=
  if phase.phase.triggerAdc then
    [callStatement "Cy_DMA_Channel_ClearInterrupt"
      [.name ("DMA_" ++ phase.name ++ "_HW"), .name ("DMA_" ++ phase.name ++ "_CHANNEL")]]
  else []

def controllerBody (plan : DriverPlan) (phase : PhasePlan) : List Statement :=
  [remarkStatement "elapsed_time_start(0); // Uncomment if using performance measurement",
   blankStatement,
   assignStatement (plan.phaseSetting "currentFilt")
     (.call "moving_average" [.name (plan.currentMacro phase)]),
   blankStatement,
   .simple (.declare "int32_t" "err"
     (some (.binary .sub (plan.phaseSetting "Iref") (plan.phaseSetting "currentFilt"))) none),
   callStatement (plan.function "CurrentController") [.name phase.enumerator, .name "err"]] ++
  dmaClear phase ++
  [blankStatement,
   remarkStatement "elapsed_time_stop(0); // Uncomment if using performance measurement"]

def controllerFunction (plan : DriverPlan) (phase : PhasePlan) : List Item :=
  [.banner [s!"{plan.title} {phase.name} Controller ISR",
      "Function is called by interrupt to control the phase current and flying cap",
      "voltage via a simple P controller.",
      "Duty cycle is updated at the rate of the PWM."],
   .definition (plan.controllerSignature phase) (plan.controllerBody phase),
   .blank]

/-- The remark on the phase shift of a phase, if it gives one. -/
def phaseShiftRemark (phase : PhasePlan) : List Statement :=
  if phase.phase.phaseShift = "" then []
  else [remarkStatement s!"Set phase shift for {phase.pwm}: {phase.phase.phaseShift}"]

def interruptHandlers (plan : DriverPlan) : List Item :=
  [.banner [s!"{plan.title} Current Controller Helper Function"],
   .definition
     (plan.helperSignature "CurrentController"
       [⟨"modulator_phase_t", "phase"⟩, ⟨"int32_t", "err"⟩])
     plan.currentControllerBody,
   .blank] ++
  plan.isrPhases.flatMap plan.controllerFunction ++
  [.banner [s!"{plan.title} helper function implementations - customize as needed"],
   .definition (plan.helperSignature "init_DMA_ISR" [])
     [remarkStatement "TODO: Initialize DMA and ISR configurations",
      remarkStatement "Configure DMA channels for ADC data transfer",
      remarkStatement "Set up interrupt priorities and handlers"],
   .blank,
   .definition (plan.helperSignature "updatePhaseShift" [])
     ([remarkStatement "TODO: Implement phase shift calculations",
       remarkStatement "Set initial phase shifts for synchronized operation"] ++
      plan.phases.flatMap phaseShiftRemark),
   .blank]

end DriverPlan

/-! ## The source -/

/-- The sections below the inclusions. -/
def sourceSections (plans : List DriverPlan) : List Item :=
  [.comment "Static helper functions"] ++
  plans.flatMap DriverPlan.helperDeclarations ++ [.blank] ++
  plans.flatMap DriverPlan.configInstance ++
  plans.flatMap DriverPlan.initFunction ++
  plans.flatMap DriverPlan.controlFunctions ++
  plans.flatMap DriverPlan.interruptHandlers

/-- The source of some drivers. -/
def source (base stamp : String) (plans : List DriverPlan) : Listing :=
  banner base "Source" stamp ++
  [.ownInclude (base ++ ".h"), .systemInclude "math.h", .blank] ++
  sourceSections plans

end FirmwareGen.Modulators
