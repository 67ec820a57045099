-- SUMMARY: Only a part of a board shows in its files.
import FirmwareGen.Board.Generate
import Mathlib.Data.List.Basic
/-!
# What the files show of a board

The files of a board are generated from a part of each of its peripherals. Pull resistors, drive modes,
the pins of serial buses, parity and the like do not show, and some settings show only beside others:
the frequency of a crystal that is used, the handler of an interrupt that is enabled, the address of a
slave. So boards that agree in what shows are generated alike.
-/

namespace FirmwareGen

/-! ## Parts that show -/

/-- The clock that is preset in all that does not show. -/
def ClockSettings.shown (clock : ClockSettings) : ClockSettings where
  mainFrequency := clock.mainFrequency
  usesCrystal := clock.usesCrystal
  crystalFrequency := if clock.usesCrystal then clock.crystalFrequency else 24000000

/-- Of a mode it shows only whether it is output, input or neither of them. -/
def PinMode.shown : PinMode → PinMode
  | .input => .input
  | .output => .output
  | .bidirectional | .analog => .analog

/-- The pin that is preset in all that does not show. -/
def Pin.shown (pin : Pin) : Pin where
  name := pin.name
  portNumber := pin.portNumber
  number := pin.number
  mode := pin.mode.shown
  comment := pin.comment

/-- The timer that is preset in all that does not show. -/
def Timer.shown (timer : Timer) : Timer where
  name := timer.name
  period := timer.period
  enableInterrupt := timer.enableInterrupt
  interruptHandler := if timer.enableInterrupt then timer.interruptHandler else ""

/-- The UART that is preset in all that does not show. -/
def Uart.shown (uart : Uart) : Uart where
  name := uart.name
  baudRate := uart.baudRate
  dataBits := uart.dataBits
  stopBits := uart.stopBits

/-- The I2C bus that is preset in all that does not show. -/
def I2c.shown (i2c : I2c) : I2c where
  name := i2c.name
  clockFrequency := i2c.clockFrequency
  isMaster := i2c.isMaster
  slaveAddress := if i2c.isMaster then 0x50 else i2c.slaveAddress

/-- The SPI bus that is preset in all that does not show. -/
def Spi.shown (spi : Spi) : Spi where
  name := spi.name
  clockFrequency := spi.clockFrequency
  mode := spi.mode

namespace Board

open C

/-- Two boards that agree in all that their files show. -/
structure Alike (board other : Board) : Prop where
  projectName : board.projectName = other.projectName
  version : board.version = other.version
  clock : board.clock.shown = other.clock.shown
  pins : board.pins.map Pin.shown = other.pins.map Pin.shown
  timers : board.timers.map Timer.shown = other.timers.map Timer.shown
  uarts : board.uarts.map Uart.shown = other.uarts.map Uart.shown
  i2cs : board.i2cs.map I2c.shown = other.i2cs.map I2c.shown
  spis : board.spis.map Spi.shown = other.spis.map Spi.shown

/-- The board that is preset in all that does not show. -/
def shown (board : Board) : Board where
  projectName := board.projectName
  version := board.version
  clock := board.clock.shown
  pins := board.pins.map Pin.shown
  timers := board.timers.map Timer.shown
  uarts := board.uarts.map Uart.shown
  i2cs := board.i2cs.map I2c.shown
  spis := board.spis.map Spi.shown

theorem Alike.shown_eq {board other : Board} (h : board.Alike other) :
    board.shown = other.shown := by
  simp only [shown, h.projectName, h.version, h.clock, h.pins, h.timers, h.uarts, h.i2cs, h.spis]

/-! ## Lists -/

theorem listSection_map {α : Type} (f : α → α) (macros : α → List Item)
    (h : ∀ a, macros (f a) = macros a) (title : String) (closing : List Item) (xs : List α) :
    listSection title macros closing (xs.map f) = listSection title macros closing xs := by
  cases xs with
  | nil => rfl
  | cons a xs => simp only [listSection, List.map_cons, List.flatMap_cons, List.flatMap_map, h]

theorem filter_map_eq {α : Type} (f : α → α) (p : α → Bool) (h : ∀ a, p (f a) = p a)
    (xs : List α) : (xs.map f).filter p = (xs.filter p).map f := by
  have hp : p ∘ f = p := funext h
  rw [List.filter_map, hp]

/-! ## Peripherals -/

theorem mode_shown_eq_output_iff (pin : Pin) : pin.shown.mode = .output ↔ pin.mode = .output := by
  show pin.mode.shown = _ ↔ _
  cases pin.mode <;> decide

theorem mode_shown_eq_input_iff (pin : Pin) : pin.shown.mode = .input ↔ pin.mode = .input := by
  show pin.mode.shown = _ ↔ _
  cases pin.mode <;> decide

theorem clockSection_shown (clock : ClockSettings) :
    clockSection clock.shown = clockSection clock := by
  cases huses : clock.usesCrystal <;> simp [clockSection, ClockSettings.shown, huses]

theorem i2cMacros_shown (i2c : I2c) : i2cMacros i2c.shown = i2cMacros i2c := by
  cases hmaster : i2c.isMaster <;> simp [i2cMacros, I2c.shown, hmaster]

theorem startPin_shown (pin : Pin) : startPin pin.shown = startPin pin := by
  simp only [startPin, mode_shown_eq_output_iff]
  rfl

/-- The handler shows where there is a routine. -/
theorem timerHandler_shown {timer : Timer} (h : timer.enableInterrupt = true) :
    timerHandler timer.shown = timerHandler timer := by
  simp only [timerHandler, handlerBody, userHandler, Timer.shown, h, if_true]
  rfl

variable (board : Board)

theorem outputPins_shown : board.shown.outputPins = board.outputPins.map Pin.shown :=
  filter_map_eq Pin.shown _ (fun pin => decide_eq_decide.2 (mode_shown_eq_output_iff pin)) _

theorem inputPins_shown : board.shown.inputPins = board.inputPins.map Pin.shown :=
  filter_map_eq Pin.shown _ (fun pin => decide_eq_decide.2 (mode_shown_eq_input_iff pin)) _

theorem interruptTimers_shown :
    board.shown.interruptTimers = board.interruptTimers.map Timer.shown :=
  filter_map_eq Timer.shown _ (fun _ => rfl) _

/-! ## Files -/

theorem signatures_shown : board.shown.signatures = board.signatures := by
  simp only [signatures, interruptTimers_shown, outputPins_shown, inputPins_shown, List.map_map]
  rfl

theorem header_shown (stamp : String) : board.shown.header stamp = board.header stamp := by
  simp only [header, headerSections, signatures_shown]
  simp only [shown, clockSection_shown,
    listSection_map I2c.shown i2cMacros i2cMacros_shown,
    listSection_map Pin.shown pinMacros fun _ => rfl,
    listSection_map Timer.shown timerMacros fun _ => rfl,
    listSection_map Uart.shown uartMacros fun _ => rfl,
    listSection_map Spi.shown spiMacros fun _ => rfl]
  rfl

theorem initBody_shown : board.shown.initBody = board.initBody := by
  have hnames : board.shown.serialNames = board.serialNames := by
    simp only [serialNames, shown, List.map_map]
    rfl
  simp only [initBody, hnames]
  simp only [shown, List.flatMap_map, startPin_shown]
  rfl

theorem source_shown (stamp : String) : board.shown.source stamp = board.source stamp := by
  have hhandlers : board.shown.interruptTimers.flatMap timerHandler =
      board.interruptTimers.flatMap timerHandler := by
    rw [interruptTimers_shown, List.flatMap_map]
    exact List.flatMap_congr fun timer htimer => timerHandler_shown (List.mem_filter.1 htimer).2
  simp only [source, sourceSections, initFunction, initBody_shown, hhandlers, outputPins_shown,
    inputPins_shown, List.flatMap_map]
  rfl

/-- Boards that agree in what shows are generated alike. -/
theorem generate_eq_of_alike {ρ : Type} {board other : Board} (h : board.Alike other)
    (clock : TimeSource ρ) (state : ρ) :
    board.generate clock state = other.generate clock state := by
  have hfiles : ∀ stamp, board.files stamp = other.files stamp := by
    intro stamp
    simp only [files, headerText, sourceText]
    rw [← header_shown board, ← source_shown board, h.shown_eq, header_shown, source_shown]
  simp only [generate, hfiles]

end Board

end FirmwareGen
