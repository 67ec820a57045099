-- SUMMARY: The header file of a board.
import FirmwareGen.C.Syntax
import FirmwareGen.Model.Board
import FirmwareGen.Naming.Identifier
import FirmwareGen.Text.Numeral
/-!
# Headers of board configurations

The macros of the clock, the pins and the peripherals, and the prototypes of the functions that the
source defines. The section of an empty list is left out.
-/

namespace FirmwareGen.Board

open C

/-- The base name of the two files. -/
def baseName : String := "psoc_config"

def guardName : String := "PSOC_CONFIG_H"

/-- The comment at the top of a file. -/
def banner (board : Board) (kind stamp : String) : List Item :=
  [.banner [s!"{board.projectName} - Generated {kind} File", s!"Version: {board.version}",
      s!"Generated: {stamp}"],
   .blank]

/-! ## Parts of a board -/

def outputPins (board : Board) : List Pin := board.pins.filter (·.mode = .output)

def inputPins (board : Board) : List Pin := board.pins.filter (·.mode = .input)

def interruptTimers (board : Board) : List Timer := board.timers.filter (·.enableInterrupt)

/-! ## Definitions -/

/-- An unsigned decimal literal. -/
def unsigned (n : Nat) : Expr := .literal (toString n ++ "u")

/-- A macro of a peripheral, whose value stands in the usual column. -/
def setting (name suffix : String) (value : Expr) : Item :=
  .constant (Naming.macroName name ++ suffix) 4 value

def clockSection (clock : ClockSettings) : List Item :=
  [.comment "Clock Configuration",
   .constant "MAIN_CLOCK_FREQ_HZ" 4 (unsigned clock.mainFrequency.toNat)] ++
  (if clock.usesCrystal then
    [.constant "EXTERNAL_CRYSTAL_FREQ_HZ" 4 (unsigned clock.crystalFrequency.toNat),
     .constant "USE_EXTERNAL_CRYSTAL" 4 (.literal "1")]
   else [.constant "USE_EXTERNAL_CRYSTAL" 4 (.literal "0")]) ++
  [.blank]

def portMacro (pin : Pin) : String := Naming.macroName pin.name ++ "_PORT"
def numberMacro (pin : Pin) : String := Naming.macroName pin.name ++ "_PIN"
def maskMacro (pin : Pin) : String := Naming.macroName pin.name ++ "_MASK"

def pinMacros (pin : Pin) : List Item :=
  [.constant (portMacro pin) 4 (.name s!"P{pin.portNumber.toNat}"),
   .constant (numberMacro pin) 5 (.literal (toString pin.number.toNat)),
   .constant (maskMacro pin) 4
    (.group (.binary .shiftLeft (.literal "1u") (.literal (toString pin.number.toNat))))] ++
  (if pin.comment = "" then [] else [.lineComment pin.comment]) ++
  [.blank]

def timerMacros (timer : Timer) : List Item :=
  setting timer.name "_PERIOD" (unsigned timer.period.toNat) ::
  (if timer.enableInterrupt then [setting timer.name "_INTERRUPT_ENABLED" (.literal "1")] else [])

def uartMacros (uart : Uart) : List Item :=
  [setting uart.name "_BAUD_RATE" (unsigned uart.baudRate.toNat),
   setting uart.name "_DATA_BITS" (unsigned uart.dataBits.toNat),
   setting uart.name "_STOP_BITS" (unsigned uart.stopBits.toNat)]

def i2cMacros (i2c : I2c) : List Item :=
  setting i2c.name "_CLOCK_FREQ" (unsigned i2c.clockFrequency.toNat) ::
  (if i2c.isMaster then []
   else [setting i2c.name "_SLAVE_ADDR" (.literal (Text.hexByte i2c.slaveAddress))])

def spiMacros (spi : Spi) : List Item :=
  [setting spi.name "_CLOCK_FREQ" (unsigned spi.clockFrequency.toNat),
   setting spi.name "_MODE" (unsigned spi.mode.index)]

/-- The section of a list under a title, left out if the list is empty. -/
def listSection {α : Type} (title : String) (macros : α → List Item) (closing : List Item)
    (elements : List α) : List Item :=
  match elements with
  | [] => []
  | elements => .comment title :: elements.flatMap macros ++ closing

/-! ## Prototypes -/

def initSignature : Signature := .function .plain "void" "PsocConfig_Init" []

/-- The name of the interrupt service routine of a timer. -/
def isrName (timer : Timer) : String := Naming.cIdentifier timer.name ++ "_ISR"

def handlerSignature (timer : Timer) : Signature := .handler (isrName timer)

def writeSignature (pin : Pin) : Signature :=
  .function .plain "void" (Naming.cIdentifier pin.name ++ "_Write") [⟨"uint8", "value"⟩]

def readSignature (pin : Pin) : Signature :=
  .function .plain "uint8" (Naming.cIdentifier pin.name ++ "_Read") []

/-- The functions of a board in the order in which they are declared and defined. -/
def signatures (board : Board) : List Signature :=
  initSignature :: board.interruptTimers.map handlerSignature ++
    board.outputPins.map writeSignature ++ board.inputPins.map readSignature

/-! ## The header -/

def headerSections (board : Board) : List Item :=
  clockSection board.clock ++
  listSection "Pin Definitions" pinMacros [] board.pins ++
  listSection "Timer Definitions" timerMacros [.blank] board.timers ++
  listSection "UART Definitions" uartMacros [.blank] board.uarts ++
  listSection "I2C Definitions" i2cMacros [.blank] board.i2cs ++
  listSection "SPI Definitions" spiMacros [.blank] board.spis ++
  .comment "Function Prototypes" :: board.signatures.map .prototype ++ [.blank]

def header (board : Board) (stamp : String) : Listing :=
  board.banner "Header" stamp ++
  [.unlessDefined guardName, .marker guardName, .blank, .systemInclude "project.h", .blank] ++
  board.headerSections ++
  [.blank, .endGuard guardName]

end FirmwareGen.Board
