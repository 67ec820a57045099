-- SUMMARY: Enumerations with one enumerator a line, read back from the lines of a listing.
import FirmwareGen.Proofs.C.Blocks
/-!
# Enumerations

An enumeration is a block whose first line is always the same. There is a comma behind each of its
enumerators but the last, so the enumerators are read back whatever characters they have.
-/

namespace FirmwareGen.C

open Text

/-! ## Reading enumerators -/

/-- The enumerations in some lines. -/
def enumerations (lines : List String) : List Block :=
  (blocks lines).filter fun block => block.head == enumHead

/-- The enumerators of an enumeration. -/
def Block.enumerators (block : Block) : List String :=
  block.body.dropLast.filterMap (between? "    " ",") ++
    block.body.getLast?.toList.filterMap (between? "    " "")

/-- The enumerators that some lines declare. -/
def declaredEnumerators (lines : List String) : List String :=
  (enumerations lines).flatMap Block.enumerators

/-- Enumerators, one a line, with a comma behind each but the last. -/
def separated (enumerators : List String) : List String :=
  enumerators.dropLast.map (fun enumerator => "    " ++ enumerator ++ ",") ++
    enumerators.getLast?.toList.map ("    " ++ ·)

/-- An enumeration as a block. -/
def enumerationBlock (enumerators : List String) (name : String) : Block where
  head := enumHead
  body := separated enumerators
  tail := "\x7d " ++ name ++ ";"

/-! ## Enumerations of a listing -/

theorem enumeratorLines_eq (enumerators : List String) :
    enumeratorLines enumerators = separated enumerators := by
  have hindent : indent 1 = "    " := by simp [indent]
  induction enumerators with
  | nil => rfl
  | cons enumerator rest ih =>
    cases rest with
    | nil => simp [enumeratorLines, separated, hindent]
    | cons next rest =>
      rw [enumeratorLines, ih, hindent]
      · simp [separated]
      · simp

theorem enumerators_block (enumerators : List String) (name : String) :
    (enumerationBlock enumerators name).enumerators = enumerators := by
  have hlast : ∀ enumerator, between? "    " "" ("    " ++ enumerator) = some enumerator := by
    intro enumerator
    have hempty := between?_append "    " enumerator ""
    rwa [String.append_empty] at hempty
  rcases List.eq_nil_or_concat enumerators with rfl | ⟨front, last, rfl⟩
  · rfl
  · simp [Block.enumerators, enumerationBlock, separated, List.filterMap_map, hlast]

def Item.enumeration? : Item → Option Block
  | .enumeration enumerators name => some (enumerationBlock enumerators name)
  | _ => none

/-- Structures and functions are no enumerations. -/
theorem enumerations_lines (layout : Layout) (listing : Listing) :
    enumerations (Listing.lines layout listing) = listing.filterMap Item.enumeration? := by
  have hstruct : ∀ name, "typedef struct " ++ name ≠ enumHead := by
    intro name
    simp [enumHead, ← String.toList_inj]
  have hfunction : ∀ signature : Signature, signature.headLine ≠ enumHead := fun signature =>
    (passive_headLine signature).2
  rw [enumerations, blocks_lines]
  induction listing with
  | nil => rfl
  | cons item listing ih =>
    cases item with
    | enumeration enumerators name =>
      simpa [Item.block?, Item.enumeration?, enumerationBlock, enumeratorLines_eq] using ih
    | structType name members =>
      rw [List.filterMap_cons_none (f := Item.enumeration?) rfl]
      simpa [Item.block?, hstruct] using ih
    | definition signature body =>
      rw [List.filterMap_cons_none (f := Item.enumeration?) rfl]
      simpa [Item.block?, hfunction] using ih
    | _ => exact ih

end FirmwareGen.C
