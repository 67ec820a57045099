-- SUMMARY: The generated files of a board are cut into the lines that were laid out.
import FirmwareGen.Proofs.Board.Texts
/-!
# Lines of board configurations

As long as no free text of a board that is emitted has a line feed, the two generated files have just
the lines of their listings.
-/

namespace FirmwareGen

open Text

/-- The free texts of a board that are emitted have no line feeds. -/
structure Board.OneLine (board : Board) : Prop where
  projectName : Text.OneLine board.projectName
  version : Text.OneLine board.version
  pins : ∀ pin ∈ board.pins, Text.OneLine pin.name ∧ Text.OneLine pin.comment
  timers : ∀ timer ∈ board.timers,
    Text.OneLine timer.name ∧ Text.OneLine timer.interruptHandler
  uarts : ∀ uart ∈ board.uarts, Text.OneLine uart.name
  i2cs : ∀ i2c ∈ board.i2cs, Text.OneLine i2c.name
  spis : ∀ spi ∈ board.spis, Text.OneLine spi.name

namespace Board

open C

section Files

variable {board : Board}

theorem oneLine_iff : board.OneLine ↔ board.Within .oneLine := by
  constructor
  · rintro ⟨hproject, hversion, hpins, htimers, huarts, hi2cs, hspis⟩
    simp only [← Vocabulary.within_oneLine] at hproject hversion hpins htimers huarts hi2cs hspis
    exact ⟨hproject, hversion, hpins, htimers, huarts, hi2cs, hspis⟩
  · rintro ⟨hproject, hversion, hpins, htimers, huarts, hi2cs, hspis⟩
    simp only [Vocabulary.within_oneLine] at hproject hversion hpins htimers huarts hi2cs hspis
    exact ⟨hproject, hversion, hpins, htimers, huarts, hi2cs, hspis⟩

/-! ## Generated files -/

theorem files_generate {ρ : Type} (clock : TimeSource ρ) (state : ρ) :
    (board.generate clock state).1 = board.files (clock.read state).1.timestamp := rfl

/-- The two files of an instant, line by line. -/
theorem lines_files (h : board.OneLine) (instant : DateTime) :
    lines (board.files instant.timestamp).header =
        Listing.lines layout (board.header instant.timestamp) ∧
      lines (board.files instant.timestamp).source =
        Listing.lines layout (board.source instant.timestamp) := by
  have hboard := oneLine_iff.1 h
  have hstamp := Vocabulary.within_timestamp .oneLine instant
  constructor
  · rw [files, FilePair.header_ofBase, headerText]
    exact lines_text layout fun item hitem =>
      item.unbroken_of_within (within_header hboard hstamp item hitem)
  · rw [files, FilePair.source_ofBase, sourceText]
    exact lines_text layout fun item hitem =>
      item.unbroken_of_within (within_source hboard hstamp item hitem)

/-- The two files that a call generates, line by line. -/
theorem lines_generate {ρ : Type} (h : board.OneLine) (clock : TimeSource ρ) (state : ρ) :
    ∃ stamp,
      lines (board.generate clock state).1.header = Listing.lines layout (board.header stamp) ∧
      lines (board.generate clock state).1.source = Listing.lines layout (board.source stamp) := by
  rw [files_generate]
  exact ⟨_, lines_files h (clock.read state).1⟩

end Files

end Board

end FirmwareGen
