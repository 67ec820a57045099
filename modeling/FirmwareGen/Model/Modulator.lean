-- SUMMARY: Modulators and their phases, with the presets of every field.
import FirmwareGen.Model.Choice
/-!
# Modulators

A modulator is one power-conversion channel driven by PWM outputs, its phases. The switching
frequency, the dead time and the duty cycle are kept as typed, because they are emitted as tokens
of C. A phase without a PWM resource is a placeholder and contributes no code.
-/

namespace FirmwareGen

/-! ## Choices -/

/-- The event of the PWM counter that raises the interrupt of a phase. -/
inductive IsrTrigger
  | periodMatch | compare0Match | compare1Match
  deriving DecidableEq, Repr

instance : Choice IsrTrigger where
  all := [.periodMatch, .compare0Match, .compare1Match]
  name
    | .periodMatch => "PeriodMatch"
    | .compare0Match => "Compare0Match"
    | .compare1Match => "Compare1Match"
  preset := .periodMatch
  mem_all a := by cases a <;> simp
  name_injective a b := by cases a <;> cases b <;> simp

/-- The trigger line that starts the conversion of a phase current. -/
inductive AdcTrigger
  | tr0 | tr1 | tr2 | tr3 | tr4 | tr5 | tr6 | tr7
  deriving DecidableEq, Repr

instance : Choice AdcTrigger where
  all := [.tr0, .tr1, .tr2, .tr3, .tr4, .tr5, .tr6, .tr7]
  name
    | .tr0 => "TR0"
    | .tr1 => "TR1"
    | .tr2 => "TR2"
    | .tr3 => "TR3"
    | .tr4 => "TR4"
    | .tr5 => "TR5"
    | .tr6 => "TR6"
    | .tr7 => "TR7"
  preset := .tr0
  mem_all a := by cases a <;> simp
  name_injective a b := by cases a <;> cases b <;> simp

/-- Where in the period the active part of a PWM output lies. -/
inductive PwmAlignment
  | left | right | center
  deriving DecidableEq, Repr

instance : Choice PwmAlignment where
  all := [.left, .right, .center]
  name
    | .left => "LeftAligned"
    | .right => "RightAligned"
    | .center => "CenterAligned"
  preset := .center
  mem_all a := by cases a <;> simp
  name_injective a b := by cases a <;> cases b <;> simp

/-! ## Phases and modulators -/

/-- One physical PWM output. -/
structure Phase where
  id : UInt32 := 0
  aliasName : String := ""
  /-- The PWM resource, such as `PWM_A_INNER`. -/
  pwm : String := ""
  /-- Advisory only: it is emitted as a comment. -/
  phaseShift : String := ""
  generateIsr : Bool := false
  isrTrigger : IsrTrigger := Choice.preset
  triggerAdc : Bool := false
  adcTrigger : AdcTrigger := Choice.preset
  alignment : PwmAlignment := Choice.preset
  groupNumber : Int32 := 0
  isInverted : Bool := false
  deriving DecidableEq, Repr

def Phase.isActive (phase : Phase) : Bool := phase.pwm != ""

/-- One power-conversion channel. -/
structure Modulator where
  id : UInt32 := 0
  /-- Free text, from which every generated identifier is derived. -/
  name : String := ""
  /-- Switching frequency as typed. -/
  frequency : String := ""
  deadtime : String := ""
  /-- Nominal duty cycle as typed. -/
  dutyCycle : String := ""
  /-- Synchronisation group. -/
  groupNumber : UInt8 := 0
  triggerStart : String := ""
  triggerStop : String := ""
  triggerSwap : String := ""
  phases : List Phase := []
  deriving DecidableEq, Repr

/-- The phases that contribute code, in declaration order. -/
def Modulator.activePhases (modulator : Modulator) : List Phase :=
  modulator.phases.filter (·.isActive)

/-- The modulators of one configuration document. -/
structure ModulatorSet where
  modulators : List Modulator := []
  deriving DecidableEq, Repr

end FirmwareGen
