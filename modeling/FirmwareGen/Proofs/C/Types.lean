-- SUMMARY: The types that a listing declares and uses, in the order in which they are named.
import FirmwareGen.C.Syntax
import Mathlib.Tactic.Common
/-!
# Declarations and uses of types

A type is declared by a type definition and used where an object, a member, a parameter or a result
is given that type. C reads a listing once, from its beginning, so a use has to stand behind the
declaration.
-/

namespace FirmwareGen.C

/-! ## Types that are named -/

/-- A place where a type is named. -/
inductive Mention
  | use (type : String)
  | typedef (name : String)
  deriving DecidableEq, Repr

def Signature.mentions : Signature → List Mention
  | .function _ result _ parameters => .use result :: parameters.map (.use ·.type)
  | .handler _ => []

/-- The types that an item names, in the order of its text. The tag of a structure is no type by
    itself, and the bodies of functions declare locals of types that C provides. -/
def Item.mentions : Item → List Mention
  | .shortEnum _ name => [.typedef name]
  | .enumeration _ name => [.typedef name]
  | .structType name members => members.map (.use ·.type) ++ [.typedef name]
  | .declaredObject type _ => [.use type]
  | .object type _ _ _ => [.use type]
  | .prototype signature => signature.mentions
  | .definition signature _ => signature.mentions
  | _ => []

def Listing.mentions (listing : Listing) : List Mention := listing.flatMap Item.mentions

/-! ## Declarations before uses -/

/-- Each use of a type comes after a declaration of it. -/
def DeclaredBeforeUse (type : String) (mentions : List Mention) : Prop :=
  ∀ before after, mentions = before ++ .use type :: after → .typedef type ∈ before

section

variable {type : String} {xs ys : List Mention}

theorem declaredBeforeUse_of_notMem (h : .use type ∉ xs) : DeclaredBeforeUse type xs := by
  rintro before after rfl
  simp at h

theorem not_declaredBeforeUse (hused : .use type ∈ xs) (htypedef : .typedef type ∉ xs) :
    ¬ DeclaredBeforeUse type xs := by
  obtain ⟨before, after, rfl⟩ := List.append_of_mem hused
  intro hdeclared
  exact htypedef (List.mem_append_left _ (hdeclared before after rfl))

/-- What is declared in front does not matter behind. -/
theorem DeclaredBeforeUse.append (hxs : DeclaredBeforeUse type xs)
    (hys : .typedef type ∈ xs ∨ DeclaredBeforeUse type ys) : DeclaredBeforeUse type (xs ++ ys) := by
  intro before after heq
  rcases List.append_eq_append_iff.1 heq with ⟨mid, rfl, hmid⟩ | ⟨mid, rfl, hmid⟩
  · rcases hys with htypedef | hys
    · exact List.mem_append_left _ htypedef
    · exact List.mem_append_right _ (hys mid after hmid)
  · cases mid with
    | nil =>
      rcases hys with htypedef | hys
      · simpa using htypedef
      · exact absurd (hys [] after hmid.symm) List.not_mem_nil
    | cons mention mid =>
      rw [List.cons_append, List.cons.injEq] at hmid
      obtain ⟨rfl, -⟩ := hmid
      exact hxs before mid rfl

theorem declaredBeforeUse_flatMap {α : Type} {elements : List α} {f : α → List Mention}
    (h : ∀ element ∈ elements, DeclaredBeforeUse type (f element)) :
    DeclaredBeforeUse type (elements.flatMap f) := by
  induction elements with
  | nil => exact declaredBeforeUse_of_notMem List.not_mem_nil
  | cons element elements ih =>
    rw [List.forall_mem_cons] at h
    rw [List.flatMap_cons]
    exact DeclaredBeforeUse.append h.1 (.inr (ih h.2))

end

end FirmwareGen.C
