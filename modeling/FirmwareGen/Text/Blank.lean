-- SUMMARY: White space of Unicode, texts without anything else, and trimming.
/-!
# Blank text

White space in the sense of the Unicode property `White_Space`, and trimming. A text is blank when
nothing is left of it after trimming. The narrower ASCII class is kept apart: it has the form feed
but not the vertical tab.
-/

namespace FirmwareGen.Text

/-- Inclusive ranges of the code points with the property `White_Space`. -/
def blankRanges : List (Nat × Nat) :=
  [(0x09, 0x0D), (0x20, 0x20), (0x85, 0x85), (0xA0, 0xA0), (0x1680, 0x1680), (0x2000, 0x200A),
   (0x2028, 0x2029), (0x202F, 0x202F), (0x205F, 0x205F), (0x3000, 0x3000)]

/-- Whether a code point lies in one of some inclusive ranges. -/
def inRanges (ranges : List (Nat × Nat)) (c : Char) : Bool :=
  ranges.any fun r => decide (r.1 ≤ c.toNat) && decide (c.toNat ≤ r.2)

def isBlankChar (c : Char) : Bool := inRanges blankRanges c

/-- Space, tab, line feed, carriage return and form feed. -/
def isAsciiBlank (c : Char) : Bool :=
  c == ' ' || c == '\t' || c == '\n' || c == '\r' || c == '\x0c'

/-- Removes the blank characters at both ends. -/
def trim (text : List Char) : List Char :=
  ((text.dropWhile isBlankChar).reverse.dropWhile isBlankChar).reverse

def isBlank (text : String) : Bool := (trim text.toList).isEmpty

/-! ## Laws -/

theorem trim_eq_nil_iff {text : List Char} : trim text = [] ↔ ∀ c ∈ text, isBlankChar c = true := by
  have key : ∀ l : List Char, l.dropWhile isBlankChar = [] ↔ ∀ c ∈ l, isBlankChar c = true := by
    intro l
    induction l with
    | nil => simp
    | cons c rest ih =>
      by_cases hc : isBlankChar c = true
      · simp [hc, ih]
      · simp [hc]
  constructor
  · intro h
    have h' : (text.dropWhile isBlankChar).reverse.dropWhile isBlankChar = [] := by
      simpa [trim] using h
    rw [key] at h'
    cases hd : text.dropWhile isBlankChar with
    | nil => exact (key text).1 hd
    | cons c rest =>
      have hc : isBlankChar c = true := h' c (by simp [hd])
      have hne : text.dropWhile isBlankChar ≠ [] := by simp [hd]
      have hhead := List.head_dropWhile_not isBlankChar hne
      simp [hd, hc] at hhead
  · intro h
    simp [trim, (key text).2 h]

/-- A text is blank exactly when all its characters are. -/
theorem isBlank_iff {text : String} :
    isBlank text = true ↔ ∀ c ∈ text.toList, isBlankChar c = true := by
  rw [isBlank, List.isEmpty_iff, trim_eq_nil_iff]

@[simp] theorem isBlank_empty : isBlank "" = true := by simp [isBlank, trim]

end FirmwareGen.Text
