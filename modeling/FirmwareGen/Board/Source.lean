-- SUMMARY: The source file of a board.
import FirmwareGen.Board.Header
/-!
# Sources of board configurations

The start-up function, which starts every peripheral in a fixed order, the interrupt service
routines of the timers, and the functions that write and read the pins.
-/

namespace FirmwareGen.Board

open C

/-! ## Start-up -/

def callLine (callee : String) (arguments : List Expr) : Statement :=
  .simple (.evaluate (.call callee arguments))

def initRemark (name : String) : Statement := .simple (.comment s!"Initialize {name}")

def blankLine : Statement := .simple .blank

/-- The call that starts a peripheral. -/
def startCall (name : String) : Statement := callLine (Naming.cIdentifier name ++ "_Start") []

def startTimer (timer : Timer) : List Statement :=
  [initRemark timer.name, startCall timer.name] ++
  (if timer.enableInterrupt then
    [callLine (isrName timer ++ "_StartEx") [.name (isrName timer)]] else []) ++
  [blankLine]

def startSerial (name : String) : List Statement := [initRemark name, startCall name, blankLine]

/-- The register that drives a pin. -/
def dataRegister (pin : Pin) : Expr := .name (portMacro pin ++ "_DR")

/-- The register that senses a pin. -/
def stateRegister (pin : Pin) : Expr := .name (portMacro pin ++ "_PS")

def pinMask (pin : Pin) : Expr := .name (maskMacro pin)

/-- Drives a pin low. -/
def clearPin (pin : Pin) (remark : Option String) : Simple :=
  .assign .bitAnd (dataRegister pin) (.unary .complement (pinMask pin)) remark

/-- Drives a pin high. -/
def raisePin (pin : Pin) : Simple := .assign .bitOr (dataRegister pin) (pinMask pin) none

def startPin (pin : Pin) : List Statement :=
  initRemark pin.name ::
  (if pin.mode = .output then [.simple (clearPin pin (some "Set initial state to low"))] else []) ++
  [blankLine]

/-- The names of the serial peripherals in the order in which they are started. -/
def serialNames (board : Board) : List String :=
  board.uarts.map (·.name) ++ board.i2cs.map (·.name) ++ board.spis.map (·.name)

def initBody (board : Board) : List Statement :=
  [.simple (.comment "Enable global interrupts"),
   .simple (.evaluate (.name "CyGlobalIntEnable")),
   blankLine] ++
  board.timers.flatMap startTimer ++
  board.serialNames.flatMap startSerial ++
  board.pins.flatMap startPin

/-- A function with a remark above it. -/
def remarked (remark : String) (signature : Signature) (body : List Statement) : List Item :=
  [.banner [remark], .definition signature body, .blank]

def initFunction (board : Board) : List Item :=
  remarked "Initialize all PSOC components" initSignature board.initBody

/-! ## Handlers and accessors -/

/-- The function that the interrupt service routine of a timer calls. -/
def userHandler (timer : Timer) : String :=
  if timer.interruptHandler = "" then Naming.cIdentifier timer.name ++ "_Handler"
  else timer.interruptHandler

def handlerBody (timer : Timer) : List Statement :=
  [.simple (.comment "Clear the interrupt"),
   callLine (Naming.cIdentifier timer.name ++ "_ReadStatusRegister") [],
   blankLine,
   .simple (.comment "Call user handler"),
   callLine (userHandler timer) []]

def writeBody (pin : Pin) : List Statement :=
  [.branch (.name "value", raisePin pin) [] (some (clearPin pin none))]

def readBody (pin : Pin) : List Statement :=
  [.simple (.result (.choice (.group (.binary .bitAnd (stateRegister pin) (pinMask pin)))
    (.literal "1u") (.literal "0u")))]

def timerHandler (timer : Timer) : List Item :=
  remarked s!"{timer.name} interrupt service routine" (handlerSignature timer) (handlerBody timer)

def writeFunction (pin : Pin) : List Item :=
  remarked s!"Write to {pin.name}" (writeSignature pin) (writeBody pin)

def readFunction (pin : Pin) : List Item :=
  remarked s!"Read from {pin.name}" (readSignature pin) (readBody pin)

/-! ## The source -/

def sourceSections (board : Board) : List Item :=
  board.initFunction ++
  board.interruptTimers.flatMap timerHandler ++
  board.outputPins.flatMap writeFunction ++
  board.inputPins.flatMap readFunction

def source (board : Board) (stamp : String) : Listing :=
  board.banner "Source" stamp ++ [.ownInclude (baseName ++ ".h"), .blank] ++ board.sourceSections

end FirmwareGen.Board
