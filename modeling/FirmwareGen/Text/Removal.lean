-- SUMMARY: Removing every occurrence of a pattern from a text in one pass.
/-!
# Removing a pattern

One pass from left to right deletes the occurrences of a pattern that do not overlap. What is left
is not searched again, so occurrences that only form by a deletion stay.
-/

namespace FirmwareGen.Text

/-- What follows `pattern` at the front of a text. -/
def afterPattern? : List Char → List Char → Option (List Char)
  | [], text => some text
  | _ :: _, [] => none
  | p :: ps, c :: rest => if p = c then afterPattern? ps rest else none

theorem afterPattern?_eq_some_iff {pattern text rest : List Char} :
    afterPattern? pattern text = some rest ↔ text = pattern ++ rest := by
  induction pattern generalizing text with
  | nil => simp [afterPattern?]
  | cons p ps ih =>
    cases text with
    | nil => simp [afterPattern?]
    | cons c cs =>
      by_cases h : p = c
      · subst h; simp [afterPattern?, ih]
      · simp [afterPattern?, h, Ne.symm h]

/-- Deletes the occurrences of the pattern `p :: ps`. -/
def removeFrom (p : Char) (ps : List Char) : List Char → List Char
  | [] => []
  | c :: rest =>
    match _h : afterPattern? (p :: ps) (c :: rest) with
    | some after => removeFrom p ps after
    | none => c :: removeFrom p ps rest
termination_by text => text.length
decreasing_by
  · rw [afterPattern?_eq_some_iff] at _h
    rw [_h]; simp only [List.cons_append, List.length_cons, List.length_append]; omega
  · simp

/-- Deletes the occurrences of a pattern; the empty pattern occurs nowhere. -/
def removeChars : List Char → List Char → List Char
  | [], text => text
  | p :: ps, text => removeFrom p ps text

def remove (pattern text : String) : String :=
  String.ofList (removeChars pattern.toList text.toList)

@[simp] theorem removeChars_nil (text : List Char) : removeChars [] text = text := rfl

@[simp] theorem remove_empty (text : String) : remove "" text = text := by
  simp [remove]

end FirmwareGen.Text
