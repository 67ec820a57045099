-- SUMMARY: The generated files are well bracketed, and the headers are guarded.
import FirmwareGen.Proofs.Board.Agreement
import FirmwareGen.Proofs.C.Brackets
import FirmwareGen.Proofs.C.Guards
import FirmwareGen.Proofs.Modulators.Lines
/-!
# Brackets of generated files

The fixed texts of all listings are well bracketed. So as long as no free text that is emitted has
punctuation, all brackets, comments and literals of the generated files are closed, and nothing but
the guard of a header is conditional. Nothing is asked of what names are derived to: case mapping
introduces no punctuation.
-/

namespace FirmwareGen

open C Text.Vocabulary

/-- Brackets and comments of both files are closed, and the header has one guard around it. -/
structure FilePair.WellFormed (pair : FilePair) : Prop where
  header : WellBracketed pair.header
  source : WellBracketed pair.source
  guarded : Guarded pair.header

namespace Modulators

theorem isGuard_banner (base kind stamp : String) :
    ∀ item ∈ banner base kind stamp, item.isGuard = false := by
  simp [banner, Item.isGuard]

theorem isGuard_headerSections (plans : List DriverPlan) :
    ∀ item ∈ headerSections plans, item.isGuard = false := by
  have hphases : ∀ item ∈ phaseEnum plans, item.isGuard = false := by
    unfold phaseEnum
    split <;> simp [Item.isGuard]
  simp only [headerSections, List.forall_mem_append]
  refine ⟨⟨⟨⟨⟨⟨⟨⟨?_, ?_⟩, ?_⟩, hphases⟩, ?_⟩, ?_⟩, ?_⟩, ?_⟩, ?_⟩
  · simp [Item.isGuard]
  · exact List.forall_mem_flatMap.2 fun plan _ => by simp [DriverPlan.modeEnum, Item.isGuard]
  · simp [Item.isGuard]
  · exact List.forall_mem_flatMap.2 fun plan _ => by simp [DriverPlan.dutyLimits, Item.isGuard]
  · refine List.forall_mem_flatMap.2 fun plan _ => ?_
    simp only [DriverPlan.adcDefinitions, List.forall_mem_append, List.forall_mem_cons]
    exact ⟨⟨rfl, List.forall_mem_flatMap.2 fun phase _ => by
      simp [DriverPlan.adcMacros, Item.isGuard]⟩, rfl, List.forall_mem_nil _⟩
  · exact List.forall_mem_flatMap.2 fun plan _ => by simp [DriverPlan.phaseStruct, Item.isGuard]
  · exact List.forall_mem_flatMap.2 fun plan _ => by simp [DriverPlan.configStruct, Item.isGuard]
  · refine List.forall_mem_flatMap.2 fun plan _ => ?_
    simp only [DriverPlan.prototypes, List.forall_mem_append, List.forall_mem_cons,
      List.forall_mem_map]
    exact ⟨⟨⟨rfl, fun _ _ => rfl⟩, rfl, fun _ _ => rfl⟩, rfl, List.forall_mem_nil _⟩

theorem guarded_header {base stamp : String} {plans : List DriverPlan}
    (h : ∀ item ∈ header base stamp plans, item.Within unpunctuated) :
    Guarded (Listing.text layout (header base stamp plans)) := by
  have hparts : header base stamp plans = banner base "Header" stamp ++
      [.unlessDefined (Naming.includeGuard base)] ++
      ([.marker (Naming.includeGuard base), .blank, .systemInclude "stdint.h",
        .systemInclude "stdbool.h", .blank] ++ headerSections plans ++ [.blank]) ++
      [.endGuard (Naming.includeGuard base)] := by
    simp [header]
  rw [hparts] at h ⊢
  refine guarded_text layout h (isGuard_banner _ _ _) ?_
  simp only [List.forall_mem_append]
  exact ⟨⟨by simp [Item.isGuard], isGuard_headerSections plans⟩, by simp [Item.isGuard]⟩

variable {ρ : Type} {scheme : NamingScheme} {modulators : List Modulator}

theorem closed_generate (hscheme : scheme.Within unpunctuated)
    (h : ∀ modulator ∈ modulators, modulator.Within unpunctuated) (clock : TimeSource ρ)
    (state : ρ) : (generate scheme clock modulators state).1.WellFormed := by
  have hbase := within_baseFileName hscheme h
  have hstamp := unpunctuated.within_timestamp (clock.read state).1
  have hplans := within_plansOf hscheme h
  have hheader := within_header hbase hstamp hplans
  rw [files_generate]
  constructor
  · rw [FilePair.header_ofBase]
    exact wellBracketed_text layout hheader
  · rw [FilePair.source_ofBase]
    exact wellBracketed_text layout (within_source hbase hstamp hplans)
  · rw [FilePair.header_ofBase]
    exact guarded_header hheader

end Modulators

namespace Board

theorem isGuard_listSection {α : Type} {title : String} {macros : α → List Item}
    {closing : List Item} {elements : List α}
    (h : ∀ element ∈ elements, ∀ item ∈ macros element, item.isGuard = false)
    (hclosing : ∀ item ∈ closing, item.isGuard = false) :
    ∀ item ∈ listSection title macros closing elements, item.isGuard = false := by
  unfold listSection
  split
  · exact List.forall_mem_nil _
  · rw [List.forall_mem_append, List.forall_mem_cons, List.forall_mem_flatMap]
    exact ⟨⟨rfl, h⟩, hclosing⟩

theorem isGuard_headerSections (board : Board) :
    ∀ item ∈ board.headerSections, item.isGuard = false := by
  have hblank : ∀ item ∈ [Item.blank], item.isGuard = false := List.forall_mem_singleton.2 rfl
  simp only [headerSections, List.forall_mem_append, List.forall_mem_cons, List.forall_mem_map]
  refine ⟨⟨⟨⟨⟨⟨⟨?_, ?_⟩, ?_⟩, ?_⟩, ?_⟩, ?_⟩, rfl, fun _ _ => rfl⟩, rfl, List.forall_mem_nil _⟩
  · unfold clockSection
    split <;> simp [Item.isGuard]
  · refine isGuard_listSection (fun pin _ => ?_) (List.forall_mem_nil _)
    unfold pinMacros
    split <;> simp [Item.isGuard]
  · refine isGuard_listSection (fun timer _ => ?_) hblank
    unfold timerMacros
    split <;> simp [setting, Item.isGuard]
  · exact isGuard_listSection (fun uart _ => by simp [uartMacros, setting, Item.isGuard]) hblank
  · refine isGuard_listSection (fun i2c _ => ?_) hblank
    unfold i2cMacros
    split <;> simp [setting, Item.isGuard]
  · exact isGuard_listSection (fun spi _ => by simp [spiMacros, setting, Item.isGuard]) hblank

theorem guarded_header {board : Board} {stamp : String}
    (h : ∀ item ∈ board.header stamp, item.Within unpunctuated) :
    Guarded (Listing.text layout (board.header stamp)) := by
  have hparts : board.header stamp = board.banner "Header" stamp ++ [.unlessDefined guardName] ++
      ([.marker guardName, .blank, .systemInclude "project.h", .blank] ++ board.headerSections ++
        [.blank]) ++ [.endGuard guardName] := by
    simp [header]
  rw [hparts] at h ⊢
  refine guarded_text layout h (by simp [banner, Item.isGuard]) ?_
  simp only [List.forall_mem_append]
  exact ⟨⟨by simp [Item.isGuard], isGuard_headerSections board⟩, by simp [Item.isGuard]⟩

theorem closed_generate {ρ : Type} {board : Board} (h : board.Within unpunctuated)
    (clock : TimeSource ρ) (state : ρ) : (board.generate clock state).1.WellFormed := by
  have hstamp := unpunctuated.within_timestamp (clock.read state).1
  have hheader := within_header h hstamp
  rw [files_generate, files]
  constructor
  · rw [FilePair.header_ofBase]
    exact wellBracketed_text layout hheader
  · rw [FilePair.source_ofBase]
    exact wellBracketed_text layout (within_source h hstamp)
  · rw [FilePair.header_ofBase]
    exact guarded_header hheader

end Board

/-! ## Both kinds of files -/

/-- The four generated files are well formed, whatever is generated from texts without punctuation. -/
theorem wellFormed_generate {ρ : Type} (clock : TimeSource ρ) (state : ρ) :
    (∀ scheme modulators, NamingScheme.Within unpunctuated scheme →
        (∀ modulator ∈ modulators, modulator.Within unpunctuated) →
        (Modulators.generate scheme clock modulators state).1.WellFormed) ∧
      ∀ board : Board, board.Within unpunctuated → (board.generate clock state).1.WellFormed :=
  ⟨fun _ _ hscheme h => Modulators.closed_generate hscheme h clock state,
    fun _ h => Board.closed_generate h clock state⟩

theorem wellFormed_interleaved_mixedBoard :
    (Modulators.generate {} (.fixed ⟨2024, 2, 29, 12, 0, 0, 0⟩) interleaved ()).1.WellFormed ∧
      (Board.mixedBoard.generate (.fixed ⟨2024, 2, 29, 12, 0, 0, 0⟩) ()).1.WellFormed :=
  ⟨(wellFormed_generate _ ()).1 _ _ (NamingScheme.within_preset _) (within_interleaved _),
    (wellFormed_generate _ ()).2 _ (Board.within_mixedBoard _)⟩

end FirmwareGen
