-- SUMMARY: Decimal numerals are read back, and which texts are read as integers.
import FirmwareGen.Text.Blank
import FirmwareGen.Text.Numeral
import Mathlib.Tactic.Common
/-!
# Reading numerals

The digits of a number denote it, and a decimal integer has no white space that trimming could
take away. Just the texts that write an integer are read as one, whatever zeros stand in front.
-/

namespace FirmwareGen.Text

/-! ## Digits -/

theorem isDigit_of_mem_toDigits {n : Nat} : ∀ c ∈ Nat.toDigits 10 n, c.isDigit = true :=
  fun _ hc => Nat.isDigit_of_mem_toDigits (by decide) (by decide) hc

theorem toNat_of_isDigit {c : Char} (h : c.isDigit = true) : 48 ≤ c.toNat ∧ c.toNat ≤ 57 := by
  simpa [Char.isDigit, UInt32.le_iff_toNat_le] using h

theorem digitValue?_of_isDigit {c : Char} (h : c.isDigit = true) :
    digitValue? 10 c = some (c.toNat - 48) := by
  have hrange := toNat_of_isDigit h
  simp only [digitValue?, if_pos hrange]
  rw [if_pos (by omega)]

theorem isBlankChar_of_isDigit {c : Char} (h : c.isDigit = true) : isBlankChar c = false := by
  have hrange := toNat_of_isDigit h
  rw [isBlankChar, inRanges, List.any_eq_false]
  simp only [blankRanges, List.forall_mem_cons, Bool.and_eq_true, decide_eq_true_eq]
  refine ⟨?_, ?_, ?_, ?_, ?_, ?_, ?_, ?_, ?_, ?_, by simp⟩ <;> omega

/-- Reading digits computes their value. -/
theorem readDigits?_of_isDigit {digits : List Char} (h : ∀ c ∈ digits, c.isDigit = true)
    (start : Nat) : readDigits? 10 start digits = some (Nat.ofDigitChars 10 digits start) := by
  induction digits generalizing start with
  | nil => rw [readDigits?, Nat.ofDigitChars_nil]
  | cons c digits ih =>
    rw [List.forall_mem_cons] at h
    rw [readDigits?, digitValue?_of_isDigit h.1]
    simp only [ih h.2, Nat.ofDigitChars_cons, Nat.mul_comm start]
    rfl

theorem isDigit_of_digitValue? {c : Char} {d : Nat} (h : digitValue? 10 c = some d) :
    c.isDigit = true := by
  -- The other characters have no value, or that of a letter.
  have hrange : 48 ≤ c.toNat ∧ c.toNat ≤ 57 := by
    simp only [digitValue?] at h
    split_ifs at h <;> omega
  simpa [Char.isDigit, UInt32.le_iff_toNat_le] using hrange

theorem readDigits?_eq_some_iff {digits : List Char} {start n : Nat} :
    readDigits? 10 start digits = some n ↔
      (∀ c ∈ digits, c.isDigit = true) ∧ Nat.ofDigitChars 10 digits start = n := by
  constructor
  · intro h
    have hdigits : ∀ c ∈ digits, c.isDigit = true := by
      induction digits generalizing start with
      | nil => exact List.forall_mem_nil _
      | cons c digits ih =>
        rw [readDigits?] at h
        split at h
        · next d hd => exact List.forall_mem_cons.2 ⟨isDigit_of_digitValue? hd, ih h⟩
        · cases h
    rw [readDigits?_of_isDigit hdigits] at h
    exact ⟨hdigits, Option.some.inj h⟩
  · rintro ⟨hdigits, rfl⟩
    exact readDigits?_of_isDigit hdigits start

theorem readNat?_toDigits (n : Nat) : readNat? 10 (Nat.toDigits 10 n) = some n := by
  have hread := readDigits?_of_isDigit (isDigit_of_mem_toDigits (n := n)) 0
  rw [Nat.ofDigitChars_ten_toDigits] at hread
  cases hcons : Nat.toDigits 10 n with
  | nil => exact absurd hcons Nat.toDigits_ne_nil
  | cons c rest => rwa [hcons] at hread

/-! ## Integers -/

theorem toList_toString_ofNat (n : Nat) :
    (toString (Int.ofNat n)).toList = Nat.toDigits 10 n := by
  rw [Int.toString_eq_repr, Int.repr, Nat.toList_repr]

theorem toList_toString_negSucc (n : Nat) :
    (toString (Int.negSucc n)).toList = '-' :: Nat.toDigits 10 (n + 1) := by
  rw [Int.toString_eq_repr, Int.repr, String.toList_append, Nat.toList_repr]
  rfl

theorem trim_eq_self {text : List Char} (h : ∀ c ∈ text, isBlankChar c = false) :
    trim text = text := by
  have hkept : ∀ {xs : List Char}, (∀ c ∈ xs, isBlankChar c = false) →
      xs.dropWhile isBlankChar = xs := by
    intro xs hxs
    cases xs with
    | nil => rfl
    | cons c xs => rw [List.dropWhile_cons_of_neg (by simp [hxs c List.mem_cons_self])]
  unfold trim
  rw [hkept h, hkept (by simpa using h), List.reverse_reverse]

/-- A decimal integer is read back. -/
theorem readInt?_toString (n : Int) : readInt? (trim (toString n).toList) = some n := by
  cases n with
  | ofNat n =>
    rw [toList_toString_ofNat,
      trim_eq_self fun c hc => isBlankChar_of_isDigit (isDigit_of_mem_toDigits c hc)]
    have hplain : ∀ c ∈ ['-', '+'], c ∉ Nat.toDigits 10 n := by
      intro c hc hmem
      have hdigit := isDigit_of_mem_toDigits c hmem
      simp only [List.mem_cons, List.not_mem_nil, or_false] at hc
      rcases hc with rfl | rfl <;> cases hdigit
    unfold readInt?
    split
    · next heq => exact absurd (heq ▸ List.mem_cons_self) (hplain '-' (by decide))
    · next heq => exact absurd (heq ▸ List.mem_cons_self) (hplain '+' (by decide))
    · rw [readNat?_toDigits]
      rfl
  | negSucc n =>
    have hblank : ∀ c ∈ '-' :: Nat.toDigits 10 (n + 1), isBlankChar c = false := by
      rw [List.forall_mem_cons]
      exact ⟨by decide, fun c hc => isBlankChar_of_isDigit (isDigit_of_mem_toDigits c hc)⟩
    rw [toList_toString_negSucc, trim_eq_self hblank, readInt?, readNat?_toDigits]
    rfl

/-! ## Written integers -/

/-- One or more decimal digits. -/
def IsDecimal (digits : List Char) : Prop := digits ≠ [] ∧ ∀ c ∈ digits, c.isDigit = true

/-- A text that writes an integer: an optional sign, and one or more digits, zeros in front among
    them. -/
inductive WritesInt : List Char → Int → Prop
  | plain {digits : List Char} (h : IsDecimal digits) :
    WritesInt digits (Nat.ofDigitChars 10 digits 0)
  | plus {digits : List Char} (h : IsDecimal digits) :
    WritesInt ('+' :: digits) (Nat.ofDigitChars 10 digits 0)
  | minus {digits : List Char} (h : IsDecimal digits) :
    WritesInt ('-' :: digits) (-(Nat.ofDigitChars 10 digits 0 : Nat))

theorem readNat?_eq_some_iff {digits : List Char} {n : Nat} :
    readNat? 10 digits = some n ↔ IsDecimal digits ∧ Nat.ofDigitChars 10 digits 0 = n := by
  cases digits with
  | nil => simp [readNat?, IsDecimal]
  | cons c digits => simp [readNat?, IsDecimal, readDigits?_eq_some_iff]

theorem readInt?_eq_some_iff {text : List Char} {n : Int} :
    readInt? text = some n ↔ WritesInt text n := by
  constructor
  · intro h
    unfold readInt? at h
    split at h
    all_goals
      obtain ⟨value, hvalue, rfl⟩ := Option.map_eq_some_iff.1 h
      obtain ⟨number, hnumber, hcast⟩ := Option.bind_eq_some_iff.1 hvalue
      cases hcast
      obtain ⟨hdigits, rfl⟩ := readNat?_eq_some_iff.1 hnumber
    · exact .minus hdigits
    · exact .plus hdigits
    · exact .plain hdigits
  · intro h
    cases h with
    | @plain digits hdigits =>
      have hread := readNat?_eq_some_iff.2 ⟨hdigits, rfl⟩
      unfold readInt?
      split
      · exact absurd (hdigits.2 '-' List.mem_cons_self) (by decide)
      · exact absurd (hdigits.2 '+' List.mem_cons_self) (by decide)
      · rw [hread]
        rfl
    | plus hdigits => rw [readInt?, readNat?_eq_some_iff.2 ⟨hdigits, rfl⟩]; rfl
    | minus hdigits => rw [readInt?, readNat?_eq_some_iff.2 ⟨hdigits, rfl⟩]; rfl

end FirmwareGen.Text
