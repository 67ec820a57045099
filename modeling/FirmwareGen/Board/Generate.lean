-- SUMMARY: Generating the files of a board.
import FirmwareGen.Board.Source
import FirmwareGen.C.Printer
import FirmwareGen.Calendar.TimeSource
import FirmwareGen.Output.Files
/-!
# Generating board configurations

The clock is read once a call, whether a call generates both files or one of them.
-/

namespace FirmwareGen.Board

open C

def layout : Layout where
  spacedKeywords := true
  blockRemarks := false

def headerText (board : Board) (stamp : String) : String :=
  Listing.text layout (board.header stamp)

def sourceText (board : Board) (stamp : String) : String :=
  Listing.text layout (board.source stamp)

/-- The two files of a board at a time. -/
def files (board : Board) (stamp : String) : FilePair :=
  FilePair.ofBase baseName (board.headerText stamp) (board.sourceText stamp)

/-- One line on what a board has. -/
def summary (board : Board) : String :=
  s!"peripherals for '{board.projectName}': {board.pins.length} pin(s), " ++
    s!"{board.timers.length} timer(s), {board.uarts.length} UART(s), " ++
    s!"{board.i2cs.length} I2C(s), {board.spis.length} SPI(s)"

/-! ## Entry points -/

def generate {ρ : Type} (clock : TimeSource ρ) (board : Board) : StateM ρ FilePair := do
  let stamp ← clock.timestamp
  return board.files stamp

def generateHeader {ρ : Type} (clock : TimeSource ρ) (board : Board) : StateM ρ String := do
  let stamp ← clock.timestamp
  return board.headerText stamp

def generateSource {ρ : Type} (clock : TimeSource ρ) (board : Board) : StateM ρ String := do
  let stamp ← clock.timestamp
  return board.sourceText stamp

end FirmwareGen.Board
