-- SUMMARY: The peripherals of a board, with the presets of every field.
import FirmwareGen.Model.Choice
/-!
# Boards

A board is what a microcontroller project configures beside its modulators: the clock, the pins,
the timers and the serial peripherals.
-/

namespace FirmwareGen

/-! ## Choices -/

inductive PinMode
  | input | output | bidirectional | analog
  deriving DecidableEq, Repr

instance : Choice PinMode where
  all := [.input, .output, .bidirectional, .analog]
  name
    | .input => "Input"
    | .output => "Output"
    | .bidirectional => "Bidirectional"
    | .analog => "Analog"
  preset := .input
  mem_all a := by cases a <;> simp
  name_injective a b := by cases a <;> cases b <;> simp

inductive PinDrive
  | standard | highDrive | openDrain
  deriving DecidableEq, Repr

instance : Choice PinDrive where
  all := [.standard, .highDrive, .openDrain]
  name
    | .standard => "Standard"
    | .highDrive => "HighDrive"
    | .openDrain => "OpenDrain"
  preset := .standard
  mem_all a := by cases a <;> simp
  name_injective a b := by cases a <;> cases b <;> simp

inductive TimerMode
  | oneShot | continuous | pwm
  deriving DecidableEq, Repr

instance : Choice TimerMode where
  all := [.oneShot, .continuous, .pwm]
  name
    | .oneShot => "OneShot"
    | .continuous => "Continuous"
    | .pwm => "Pwm"
  preset := .continuous
  mem_all a := by cases a <;> simp
  name_injective a b := by cases a <;> cases b <;> simp

inductive Parity
  | none | even | odd
  deriving DecidableEq, Repr

instance : Choice Parity where
  all := [.none, .even, .odd]
  name
    | .none => "None"
    | .even => "Even"
    | .odd => "Odd"
  preset := .none
  mem_all a := by cases a <;> simp
  name_injective a b := by cases a <;> cases b <;> simp

/-- Clock polarity and phase of an SPI bus. -/
inductive SpiMode
  | mode0 | mode1 | mode2 | mode3
  deriving DecidableEq, Repr

instance : Choice SpiMode where
  all := [.mode0, .mode1, .mode2, .mode3]
  name
    | .mode0 => "Mode0"
    | .mode1 => "Mode1"
    | .mode2 => "Mode2"
    | .mode3 => "Mode3"
  preset := .mode0
  mem_all a := by cases a <;> simp
  name_injective a b := by cases a <;> cases b <;> simp

/-- The number of a mode: twice the clock polarity plus the clock phase. -/
def SpiMode.index : SpiMode → Nat
  | .mode0 => 0
  | .mode1 => 1
  | .mode2 => 2
  | .mode3 => 3

/-! ## Peripherals -/

structure ClockSettings where
  /-- In hertz. -/
  mainFrequency : UInt32 := 24000000
  usesCrystal : Bool := false
  /-- In hertz. -/
  crystalFrequency : UInt32 := 24000000
  deriving DecidableEq, Repr

structure Pin where
  name : String := ""
  portNumber : UInt32 := 0
  number : UInt32 := 0
  mode : PinMode := Choice.preset
  drive : PinDrive := Choice.preset
  pullUp : Bool := false
  pullDown : Bool := false
  /-- Emitted as a comment below the macros of the pin unless it is empty. -/
  comment : String := ""
  deriving DecidableEq, Repr

structure Timer where
  name : String := ""
  period : UInt32 := 1000
  mode : TimerMode := Choice.preset
  enableInterrupt : Bool := false
  /-- The function that the interrupt service routine calls; empty for the one named after the
      timer. -/
  interruptHandler : String := ""
  deriving DecidableEq, Repr

structure Uart where
  name : String := ""
  baudRate : UInt32 := 9600
  dataBits : UInt8 := 8
  parity : Parity := Choice.preset
  stopBits : UInt8 := 1
  txPin : String := ""
  rxPin : String := ""
  deriving DecidableEq, Repr

structure I2c where
  name : String := ""
  clockFrequency : UInt32 := 100000
  sclPin : String := ""
  sdaPin : String := ""
  isMaster : Bool := true
  slaveAddress : UInt8 := 0x50
  deriving DecidableEq, Repr

structure Spi where
  name : String := ""
  clockFrequency : UInt32 := 1000000
  mode : SpiMode := Choice.preset
  mosiPin : String := ""
  misoPin : String := ""
  sclkPin : String := ""
  csPin : String := ""
  deriving DecidableEq, Repr

structure Board where
  projectName : String := "PsocProject"
  version : String := "1.0.0"
  clock : ClockSettings := {}
  pins : List Pin := []
  timers : List Timer := []
  uarts : List Uart := []
  i2cs : List I2c := []
  spis : List Spi := []
  deriving DecidableEq, Repr

end FirmwareGen
