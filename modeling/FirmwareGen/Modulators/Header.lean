-- SUMMARY: The header file of modulators.
import FirmwareGen.Modulators.Plan
/-!
# Headers of modulator drivers

Each section goes through the modulators in order. The one section that they share is the
enumeration of all phases.
-/

namespace FirmwareGen.Modulators

open C

/-- The comment at the top of a file: the base name, the kind of file and the time. -/
def banner (base kind stamp : String) : List Item :=
  [.banner [s!"{base} - Generated {kind} File", s!"Generated: {stamp}"], .blank]

/-! ## Parts of one driver -/

namespace DriverPlan

def modeEnum (plan : DriverPlan) : List Item :=
  [.shortEnum [plan.symbol ++ "_disabled", plan.openLoop, plan.symbol ++ "_currentControl"]
    plan.modeType]

def dutyLimits (plan : DriverPlan) : List Item :=
  [.comment (plan.title ++ " Duty Cycle Limits"),
   .constant plan.maxDutyMacro 1 (.literal maxDuty),
   .constant plan.minDutyMacro 1 (.literal minDuty),
   .blank]

/-- The macros that read the conversion results of a phase. -/
def adcMacros (plan : DriverPlan) (phase : PhasePlan) : List Item :=
  [.constant (plan.currentMacro phase) 1 (.group (.index (plan.phaseSetting "ADC_res") 0)),
   .constant (plan.voltageMacro phase) 1 (.group (.index (plan.phaseSetting "ADC_res") 1))]

def adcDefinitions (plan : DriverPlan) : List Item :=
  .comment (plan.title ++ " ADC Definitions") :: plan.phases.flatMap plan.adcMacros ++ [.blank]

def phaseStruct (plan : DriverPlan) : List Item :=
  [.comment (plan.title ++ " Phase Configuration Structure"),
   .structType plan.phaseConfigType
    [{ type := "float", name := "duty" },
     { type := "uint16_t", name := "period" },
     { type := "uint32_t", name := "Iref" },
     { type := "int32_t", name := "compareValueOffset" },
     { type := "uint32_t", name := "ADC_res", length := some 2 },
     { type := "uint32_t", name := "currentFilt" }],
   .blank]

def configStruct (plan : DriverPlan) : List Item :=
  [.comment (plan.title ++ " Configuration Structure"),
   .structType plan.configType
    [{ type := plan.phaseConfigType, name := plan.stem },
     { type := "float", name := "Kp" },
     { type := "uint32_t", name := "deadtimePos" },
     { type := "uint32_t", name := "deadtimeNeg" },
     { type := plan.modeType, name := "mode" },
     { type := "bool", name := "isRunning" },
     { type := "uint32_t", name := "fsw" },
     { type := "uint32_t", name := "clockFreq" }],
   .blank,
   .declaredObject plan.configType plan.configObject,
   .blank]

/-- A driver function without result. -/
def signature (plan : DriverPlan) (action : String) (parameters : List Parameter) : Signature :=
  .function .plain "void" (plan.function action) parameters

def setDutySignature (plan : DriverPlan) : Signature :=
  plan.signature "setDuty" [⟨"modulator_phase_t", "phase"⟩, ⟨"float", "duty"⟩]

def controllerSignature (plan : DriverPlan) (phase : PhasePlan) : Signature :=
  .function .interrupt "void" (plan.controller phase) []

/-- The functions that the driver offers. -/
def offeredSignatures (plan : DriverPlan) : List Signature :=
  [plan.signature "init" [],
   plan.signature "startAll" [],
   plan.signature "stopAll" [],
   plan.signature "setFsw" [⟨"uint32_t", "fsw"⟩],
   plan.setDutySignature,
   plan.signature "setDeadtime" [⟨"uint8_t", "deadtime"⟩],
   plan.signature "setDeadtimeNeg" [⟨"uint32_t", "deadtime"⟩],
   plan.signature "setDeadtimePos" [⟨"uint32_t", "deadtime"⟩],
   plan.signature "setMode" [⟨plan.modeType, "mode"⟩],
   plan.signature "setCurrent" [⟨"float", "current"⟩]]

def prototypes (plan : DriverPlan) : List Item :=
  .comment (plan.title ++ " Function Prototypes") :: plan.offeredSignatures.map .prototype ++
    .blank :: plan.isrPhases.map (fun phase => .prototype (plan.controllerSignature phase)) ++
    [.blank]

end DriverPlan

/-! ## The header -/

/-- The enumerators of all phases, driver by driver. -/
def phaseEnumerators (plans : List DriverPlan) : List String :=
  plans.flatMap fun plan => plan.phases.map (·.enumerator)

/-- The enumeration of all phases, left out if there is none. -/
def phaseEnum (plans : List DriverPlan) : List Item :=
  match phaseEnumerators plans with
  | [] => []
  | enumerators => [.enumeration enumerators "modulator_phase_t", .blank]

/-- The sections between the two lines of the guard. -/
def headerSections (plans : List DriverPlan) : List Item :=
  [.comment "Modulator Configuration Enums and Defines", .blank] ++
  plans.flatMap DriverPlan.modeEnum ++ [.blank] ++
  phaseEnum plans ++
  plans.flatMap DriverPlan.dutyLimits ++
  plans.flatMap DriverPlan.adcDefinitions ++
  plans.flatMap DriverPlan.phaseStruct ++
  plans.flatMap DriverPlan.configStruct ++
  plans.flatMap DriverPlan.prototypes

/-- The header of some drivers. -/
def header (base stamp : String) (plans : List DriverPlan) : Listing :=
  let guard := Naming.includeGuard base
  banner base "Header" stamp ++
  [.unlessDefined guard, .marker guard, .blank,
   .systemInclude "stdint.h", .systemInclude "stdbool.h", .blank] ++
  headerSections plans ++
  [.blank, .endGuard guard]

end FirmwareGen.Modulators
