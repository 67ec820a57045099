-- SUMMARY: Vocabularies: which characters names are made of, and which texts are remarks.
import FirmwareGen.Calendar.DateTime
import FirmwareGen.Proofs.Text.CaseMap
import FirmwareGen.Proofs.Text.Lines
import FirmwareGen.Proofs.Text.Numeral
/-!
# Vocabularies

What generated texts avoid, they avoid because every part avoids it: the fixed texts, the numerals
and the names. A vocabulary says what the parts may be made of. It is closed under all that names
are derived by, so that one walk over a listing serves every vocabulary.
-/

namespace FirmwareGen.Text

/-- All characters of a text are accepted. -/
def Within (accepts : Char → Bool) (text : String) : Prop := ∀ c ∈ text.toList, accepts c = true

theorem within_append {accepts : Char → Bool} {a b : String} :
    Within accepts (a ++ b) ↔ Within accepts a ∧ Within accepts b := by
  simp only [Within, String.toList_append, List.forall_mem_append]

/-! ## Brackets -/

/-- The bracket that closes an opening bracket. -/
def closer? : Char → Option Char
  | '(' => some ')'
  | '[' => some ']'
  | '\x7b' => some '\x7d'
  | _ => none

/-- The closing brackets that are due, innermost first, behind one more character. Nothing stands for a
    closing bracket that is not the next one due. -/
def bracket (due : List Char) (c : Char) : Option (List Char) :=
  match closer? c with
  | some closer => some (closer :: due)
  | none =>
    if c = ')' ∨ c = ']' ∨ c = '\x7d' then
      match due with
      | [] => none
      | closer :: rest => if c = closer then some rest else none
    else some due

/-- The closing brackets that are due behind some characters. -/
def nest (due text : List Char) : Option (List Char) := text.foldlM bracket due

theorem bracket_of_not_mem {c : Char} (hc : c ∉ punctuation) (due : List Char) :
    bracket due c = some due := by
  simp only [punctuation, List.mem_cons, List.not_mem_nil, or_false, not_or] at hc
  have hopening : closer? c = none := by
    unfold closer?
    split <;> simp_all
  unfold bracket
  rw [hopening]
  exact if_neg (by tauto)

/-- Text without brackets leaves the due ones as they are. -/
theorem nest_of_not_mem {text : List Char} (h : ∀ c ∈ text, c ∉ punctuation) (due : List Char) :
    nest due text = some due := by
  induction text with
  | nil => rfl
  | cons c text ih =>
    rw [List.forall_mem_cons] at h
    rw [nest, List.foldlM_cons, bracket_of_not_mem h.1]
    exact ih h.2

/-- A text whose brackets nest, without line feeds, backslashes and hashes. -/
def selfContained (text : List Char) : Bool :=
  text.all (fun c => c != '\n' && c != '\\' && c != '#') && nest [] text == some []

def SelfContained (text : String) : Prop := selfContained text.toList = true

theorem SelfContained.not_mem {text : String} (h : SelfContained text) :
    ∀ c ∈ text.toList, c ≠ '\n' ∧ c ≠ '\\' ∧ c ≠ '#' := by
  rw [SelfContained, selfContained, Bool.and_eq_true, List.all_eq_true] at h
  intro c hc
  have hchar := h.1 c hc
  simp only [Bool.and_eq_true, bne_iff_ne] at hchar
  exact ⟨hchar.1.1, hchar.1.2, hchar.2⟩

theorem SelfContained.nest {text : String} (h : SelfContained text) :
    Text.nest [] text.toList = some [] := by
  rw [SelfContained, selfContained, Bool.and_eq_true] at h
  exact eq_of_beq h.2

theorem selfContained_of_not_mem {text : String} (h : ∀ c ∈ text.toList, c ∉ punctuation) :
    SelfContained text := by
  rw [SelfContained, selfContained, Bool.and_eq_true, List.all_eq_true, nest_of_not_mem h]
  refine ⟨fun c hc => ?_, rfl⟩
  have hmark := h c hc
  simp only [punctuation, List.mem_cons, not_or] at hmark
  simp [hmark]

/-! ## Vocabularies -/

/-- The characters of the fixed names, of numerals and of timestamps. -/
def isFixed (c : Char) : Bool := c.isAlphanum || ['_', ' ', '-', '+', '.', ':'].contains c

/-- What the parts of a generated line are made of. -/
structure Vocabulary where
  /-- The characters of names, values and block comments. -/
  letter : Char → Bool
  /-- The texts of comments that end with their line. -/
  remark : String → Prop
  letter_fixed : ∀ c, isFixed c = true → letter c = true
  letter_lineFeed : letter '\n' = false
  letter_upper : ∀ text, Within letter text → Within letter (upper text)
  letter_lower : ∀ text, Within letter text → Within letter (lower text)
  remark_letters : ∀ text, Within letter text → remark text
  remark_selfContained : ∀ text, SelfContained text → remark text
  remark_oneLine : ∀ text, remark text → OneLine text

namespace Vocabulary

variable (v : Vocabulary)

theorem oneLine_of_within {text : String} (h : Within v.letter text) : OneLine text := by
  intro hmem
  have hletter := h _ hmem
  rw [v.letter_lineFeed] at hletter
  cases hletter

/-- For literals, as `oneLine_ofList`. -/
theorem fixed {cs : List Char} (h : cs.all isFixed = true) : Within v.letter (String.ofList cs) := by
  intro c hc
  rw [String.toList_ofList] at hc
  exact v.letter_fixed c (List.all_eq_true.1 h c hc)

/-- For literals, as `oneLine_ofList`. -/
theorem fixedRemark {cs : List Char} (h : selfContained cs = true) : v.remark (String.ofList cs) :=
  v.remark_selfContained _ (by rwa [SelfContained, String.toList_ofList])

theorem isFixed_of_isDigit {c : Char} (h : c.isDigit = true) : isFixed c = true := by
  simp [isFixed, Char.isAlphanum, h]

theorem within_numeral (n : Nat) : Within v.letter (toString n) := by
  intro c hc
  rw [Nat.toString_eq_repr, Nat.toList_repr] at hc
  exact v.letter_fixed c (isFixed_of_isDigit (Nat.isDigit_of_mem_toDigits (by decide) (by decide) hc))

theorem isFixed_of_mem_lastDigits {base width n : Nat} (hpos : 0 < base) (hbase : base ≤ 16) {c : Char}
    (h : c ∈ lastDigits base width n) : isFixed c = true ∧ isFixed c.toUpper = true := by
  have hdigits : ∀ m < 16, isFixed (Nat.digitChar m) = true ∧ isFixed (Nat.digitChar m).toUpper = true := by
    decide
  induction width generalizing n with
  | zero => cases h
  | succ width ih =>
    rw [lastDigits, List.mem_append, List.mem_singleton] at h
    rcases h with h | rfl
    · exact ih h
    · exact hdigits _ (Nat.lt_of_lt_of_le (Nat.mod_lt n hpos) hbase)

theorem within_hexByte (byte : UInt8) : Within v.letter (hexByte byte) := by
  rw [hexByte, within_append]
  refine ⟨v.fixed rfl, fun c hc => ?_⟩
  rw [String.toList_ofList] at hc
  obtain ⟨d, hd, rfl⟩ := List.mem_map.1 hc
  exact v.letter_fixed _ (isFixed_of_mem_lastDigits (by decide) (by decide) hd).2

theorem isFixed_of_mem_yearText {year : Int} {c : Char} (h : c ∈ DateTime.yearText year) :
    isFixed c = true := by
  unfold DateTime.yearText at h
  split at h
  · exact (isFixed_of_mem_lastDigits (by decide) (by decide) h).1
  · rw [List.mem_cons] at h
    rcases h with rfl | h
    · split <;> decide
    · unfold padded at h
      split at h
      · exact (isFixed_of_mem_lastDigits (by decide) (by decide) h).1
      · exact isFixed_of_isDigit (Nat.isDigit_of_mem_toDigits (by decide) (by decide) h)

theorem within_timestamp (t : DateTime) : Within v.letter t.timestamp := by
  intro c hc
  rw [DateTime.timestamp, String.toList_ofList] at hc
  refine v.letter_fixed c ?_
  have hdigits : ∀ n, c ∈ lastDigits 10 2 n → isFixed c = true := fun n h =>
    (isFixed_of_mem_lastDigits (by decide) (by decide) h).1
  simp only [DateTime.timestampChars, List.mem_append, List.mem_cons] at hc
  rcases hc with (((((hyear | rfl | h) | rfl | h) | rfl | h) | rfl | h) | rfl | h)
  · exact isFixed_of_mem_yearText hyear
  all_goals first | exact hdigits _ h | decide

/-! ## Two vocabularies -/

/-- Texts without line feeds. -/
def oneLine : Vocabulary where
  letter := (· != '\n')
  remark := OneLine
  letter_fixed c hc := by
    rw [bne_iff_ne]
    rintro rfl
    exact absurd hc (by decide)
  letter_lineFeed := rfl
  letter_upper text h c hc := by
    rw [bne_iff_ne]
    rintro rfl
    exact absurd (h _ (punctuation_of_mem_upper (by decide) hc)) (by decide)
  letter_lower text h c hc := by
    rw [bne_iff_ne]
    rintro rfl
    exact absurd (h _ (punctuation_of_mem_lower (by decide) hc)) (by decide)
  remark_letters text h := fun hmem => absurd (h _ hmem) (by decide)
  remark_selfContained text h := fun hmem => (h.not_mem _ hmem).1 rfl
  remark_oneLine _ h := h

theorem within_oneLine {text : String} : Within oneLine.letter text ↔ OneLine text := by
  refine ⟨oneLine.oneLine_of_within, fun h c hc => ?_⟩
  rw [oneLine, bne_iff_ne]
  rintro rfl
  exact h hc

/-- Names without punctuation, and remarks whose brackets nest. -/
def unpunctuated : Vocabulary where
  letter c := !punctuation.contains c
  remark := SelfContained
  letter_fixed c hc := by
    have hmarks : punctuation.all (!isFixed ·) = true := by decide
    rw [Bool.not_eq_true', List.contains_eq_mem, decide_eq_false_iff_not]
    intro hmem
    have hmark := List.all_eq_true.1 hmarks c hmem
    simp [hc] at hmark
  letter_lineFeed := rfl
  letter_upper text h c hc := by
    rw [Bool.not_eq_true', List.contains_eq_mem, decide_eq_false_iff_not]
    intro hmem
    have hletter := h c (punctuation_of_mem_upper hmem hc)
    simp [hmem] at hletter
  letter_lower text h c hc := by
    rw [Bool.not_eq_true', List.contains_eq_mem, decide_eq_false_iff_not]
    intro hmem
    have hletter := h c (punctuation_of_mem_lower hmem hc)
    simp [hmem] at hletter
  remark_letters text h := selfContained_of_not_mem fun c hc => by simpa using h c hc
  remark_selfContained _ h := h
  remark_oneLine text h := fun hmem => (h.not_mem _ hmem).1 rfl

theorem not_mem_punctuation {text : String} (h : Within unpunctuated.letter text) :
    ∀ c ∈ text.toList, c ∉ punctuation := fun c hc => by simpa [unpunctuated] using h c hc

end Vocabulary

end FirmwareGen.Text
