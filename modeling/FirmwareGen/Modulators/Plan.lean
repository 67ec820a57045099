-- SUMMARY: What is generated for modulators: names, active phases and settings.
import FirmwareGen.C.Syntax
import FirmwareGen.Naming.Scheme
/-!
# Driver plans

Every identifier of a modulator driver is resolved once, before header and source are laid out. A
plan keeps the active phases in declaration order; the phases with an interrupt service routine are
a part of them.
-/

namespace FirmwareGen.Modulators

/-! ## Constants of the generated drivers -/

/-- The upper bound of a duty cycle. -/
def maxDuty : String := "0.97f"

/-- The lower bound of a duty cycle. -/
def minDuty : String := "0.03f"

/-- The duty cycle for a modulator that gives none. -/
def defaultDutyCycle : String := "0.5f"

/-- The switching frequency for a modulator that gives none. -/
def defaultFrequency : String := "80e3"

/-- The dead time that drivers start with. -/
def defaultDeadtime : Nat := 20

/-! ## Plans -/

/-- An active phase with its identifiers. -/
structure PhasePlan where
  phase : Phase
  /-- The enumerator of the phase. -/
  enumerator : String
  /-- The short name in ADC macros, controllers and DMA channels. -/
  name : String
  deriving DecidableEq, Repr

def PhasePlan.pwm (plan : PhasePlan) : String := plan.phase.pwm

/-- A modulator with its identifiers. -/
structure DriverPlan where
  /-- The name as typed, for comments. -/
  title : String
  /-- The stem of types, macros and enumerators. -/
  symbol : String
  /-- The stem of variables and functions. -/
  stem : String
  duty : String
  frequency : String
  phases : List PhasePlan
  deriving DecidableEq, Repr

def PhasePlan.ofPhase (scheme : NamingScheme) (symbol : String) (phase : Phase) : PhasePlan where
  phase := phase
  enumerator := symbol ++ "_" ++ scheme.phaseTag phase.pwm
  name := scheme.phaseName phase.pwm

def dutyToken (typed : String) : String :=
  if Text.isBlank typed then defaultDutyCycle else typed ++ "f"

def frequencyToken (typed : String) : String :=
  if Text.isBlank typed then defaultFrequency else typed

namespace DriverPlan

def ofModulator (scheme : NamingScheme) (modulator : Modulator) : DriverPlan where
  title := modulator.name
  symbol := scheme.symbolStem modulator.name
  stem := Naming.instanceName modulator.name
  duty := dutyToken modulator.dutyCycle
  frequency := frequencyToken modulator.frequency
  phases := modulator.activePhases.map
    (PhasePlan.ofPhase scheme (scheme.symbolStem modulator.name))

/-- The phases with an interrupt service routine. -/
def isrPhases (plan : DriverPlan) : List PhasePlan := plan.phases.filter (·.phase.generateIsr)

/-! ## Composed identifiers -/

def modeType (plan : DriverPlan) : String := plan.symbol ++ "_mode_t"
def phaseConfigType (plan : DriverPlan) : String := plan.symbol ++ "_phaseConfig_t"
def configType (plan : DriverPlan) : String := plan.stem ++ "_config_t"
def configObject (plan : DriverPlan) : String := plan.stem ++ "_config"
def maxDutyMacro (plan : DriverPlan) : String := plan.symbol ++ "_MAX_DUTY"
def minDutyMacro (plan : DriverPlan) : String := plan.symbol ++ "_MIN_DUTY"
def openLoop (plan : DriverPlan) : String := plan.symbol ++ "_openLoop"

/-- A function of the driver. -/
def function (plan : DriverPlan) (action : String) : String := plan.stem ++ "_" ++ action

def currentMacro (plan : DriverPlan) (phase : PhasePlan) : String :=
  plan.symbol ++ "_I_" ++ phase.name

def voltageMacro (plan : DriverPlan) (phase : PhasePlan) : String :=
  plan.symbol ++ "_VFC_" ++ phase.name

def controller (plan : DriverPlan) (phase : PhasePlan) : String :=
  plan.function (phase.name ++ "_Controller")

/-- The configuration object of the driver. -/
def config (plan : DriverPlan) : C.Expr := .name plan.configObject

/-- A member of the configuration object. -/
def setting (plan : DriverPlan) (field : String) : C.Expr := .member plan.config field

/-- The part of the configuration object that the phases share. -/
def phaseState (plan : DriverPlan) : C.Expr := plan.setting plan.stem

/-- A member of the part that the phases share. -/
def phaseSetting (plan : DriverPlan) (field : String) : C.Expr := .member plan.phaseState field

end DriverPlan

end FirmwareGen.Modulators
