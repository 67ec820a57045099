-- SUMMARY: The lines behind the attributes of interrupt service routines.
import FirmwareGen.Proofs.C.Heads
/-!
# Attributes

The attributes of an interrupt service routine are a line of their own. A reader of a file finds the
line behind each of them, which declares or defines the routine.
-/

namespace FirmwareGen.C

open Text

/-- The line behind each line of attributes, if there is one. -/
def attributed : List String → List (Option String)
  | [] => []
  | line :: rest =>
    if line = interruptAttributes then rest.head? :: attributed rest else attributed rest

/-- Some lines give the lines behind their attributes, whatever comes behind them. -/
def Attributes (lines : List String) (found : List (Option String)) : Prop :=
  ∀ rest, attributed (lines ++ rest) = found ++ attributed rest

theorem attributes_nil : Attributes [] [] := fun _ => rfl

theorem attributes_append {xs ys : List String} {found further : List (Option String)}
    (hxs : Attributes xs found) (hys : Attributes ys further) :
    Attributes (xs ++ ys) (found ++ further) := by
  intro rest
  rw [List.append_assoc, hxs, hys, List.append_assoc]

theorem attributes_of_not_mem {lines : List String} (h : interruptAttributes ∉ lines) :
    Attributes lines [] := by
  intro rest
  induction lines with
  | nil => rfl
  | cons line lines ih =>
    rw [List.mem_cons, not_or] at h
    rw [List.cons_append, attributed, if_neg (Ne.symm h.1), ih h.2]

theorem attributes_pair {line : String} (h : line ≠ interruptAttributes) :
    Attributes [interruptAttributes, line] [some line] := by
  intro rest
  simp [attributed, h]

theorem attributed_of_attributes {lines : List String} {found : List (Option String)}
    (h : Attributes lines found) : attributed lines = found := by
  have hnil := h []
  rwa [List.append_nil, attributed, List.append_nil] at hnil

/-! ## Attributes of listings -/

section Listings

variable {layout : Layout}

theorem attributes_listing_append {xs ys : Listing} {found further : List (Option String)}
    (hxs : Attributes (Listing.lines layout xs) found)
    (hys : Attributes (Listing.lines layout ys) further) :
    Attributes (Listing.lines layout (xs ++ ys)) (found ++ further) := by
  rw [Listing.lines, List.flatMap_append]
  exact attributes_append hxs hys

theorem attributes_flatMap {α : Type} {xs : List α} {f : α → Listing} {g : α → List (Option String)}
    (h : ∀ x ∈ xs, Attributes (Listing.lines layout (f x)) (g x)) :
    Attributes (Listing.lines layout (xs.flatMap f)) (xs.flatMap g) := by
  induction xs with
  | nil => exact attributes_nil
  | cons x xs ih =>
    rw [List.forall_mem_cons] at h
    rw [List.flatMap_cons, List.flatMap_cons]
    exact attributes_listing_append h.1 (ih h.2)

theorem interruptAttributes_head : interruptAttributes.toList.head? = some '_' := by
  simp [interruptAttributes]

/-- Items whose lines begin otherwise have no attributes. -/
theorem attributes_of_heads {listing : Listing} (h : ∀ item ∈ listing, '_' ∉ item.heads) :
    Attributes (Listing.lines layout listing) [] := by
  refine attributes_of_not_mem fun hmem => ?_
  obtain ⟨item, hitem, hline⟩ := List.mem_flatMap.1 hmem
  exact h item hitem (begins_item layout item _ hline _ interruptAttributes_head)

/-- Items without attributes may stand around a part of a listing. -/
theorem attributes_between {front inner back : Listing} {found : List (Option String)}
    (hfront : ∀ item ∈ front, '_' ∉ item.heads)
    (h : Attributes (Listing.lines layout inner) found)
    (hback : ∀ item ∈ back, '_' ∉ item.heads) :
    Attributes (Listing.lines layout (front ++ inner ++ back)) found := by
  have hall := attributes_listing_append
    (attributes_listing_append (attributes_of_heads hfront) h) (attributes_of_heads hback)
  rwa [List.nil_append, List.append_nil] at hall

/-- Only the first line of a routine stands behind attributes. -/
theorem attributes_routine {result name : String} {parameters : List Parameter}
    (h : ∀ rest, result ++ " " ++ rest ≠ interruptAttributes) (body : List Statement) :
    Attributes (Listing.lines layout
        [.definition (.function .interrupt result name parameters) body])
      [some (Signature.function .interrupt result name parameters).headLine] := by
  have hhead : (Signature.function .interrupt result name parameters).headLine ≠
      interruptAttributes := by
    simpa [Signature.headLine, String.append_assoc] using
      h (name ++ "(" ++ printParameters parameters ++ ")")
  have hbody : interruptAttributes ∉
      "\x7b" :: (body.flatMap (Statement.lines layout) ++ ["\x7d"]) := by
    intro hmem
    simp only [List.mem_cons, List.mem_append, List.not_mem_nil, or_false] at hmem
    rcases hmem with heq | hline | heq
    · exact absurd (congrArg (·.toList.head?) heq) (by simp [interruptAttributes_head])
    · exact absurd (indented_body layout body _ hline _ interruptAttributes_head) (by decide)
    · exact absurd (congrArg (·.toList.head?) heq) (by simp [interruptAttributes_head])
  have hlines : Listing.lines layout
      [.definition (.function .interrupt result name parameters) body] =
        [interruptAttributes, (Signature.function .interrupt result name parameters).headLine] ++
          ("\x7b" :: (body.flatMap (Statement.lines layout) ++ ["\x7d"])) := by
    simp [Listing.lines, Item.lines, Signature.attributeLines]
  rw [hlines]
  exact attributes_append (attributes_pair hhead) (attributes_of_not_mem hbody)

end Listings

end FirmwareGen.C
