-- SUMMARY: Finite choices that are known by name.
/-!
# Choices

A choice is a finite enumeration whose values are written by name in documents: pin modes, trigger
sources and the like. Its names tell its values apart, so reading by exact name inverts writing.
-/

namespace FirmwareGen

class Choice (α : Type) where
  /-- Every value, in declaration order. -/
  all : List α
  name : α → String
  /-- The value of a record in which the choice is left out. -/
  preset : α
  mem_all : ∀ a : α, a ∈ all
  name_injective : ∀ a b : α, name a = name b → a = b

namespace Choice

/-- The one way in which reading a choice fails. -/
inductive ReadError
  | unknownName

def ReadError.message : ReadError → String
  | .unknownName => "Matching variant not found"

/-- The value of exactly this name. -/
def named? (α : Type) [Choice α] (text : String) : Option α :=
  (all : List α).find? fun a => name a == text

def read (α : Type) [Choice α] (text : String) : Except ReadError α :=
  match named? α text with
  | some a => .ok a
  | none => .error .unknownName

theorem named?_eq_some_iff {α : Type} [Choice α] {text : String} {a : α} :
    named? α text = some a ↔ name a = text := by
  constructor
  · intro h
    simpa using List.find?_some h
  · intro h
    cases hf : named? α text with
    | none =>
      have := List.find?_eq_none.1 hf a (mem_all a)
      simp [h] at this
    | some b =>
      have hb : name b = text := by simpa using List.find?_some hf
      rw [name_injective b a (hb.trans h.symm)]

@[simp] theorem named?_name {α : Type} [Choice α] (a : α) : named? α (name a) = some a :=
  named?_eq_some_iff.2 rfl

end Choice

end FirmwareGen
