-- SUMMARY: Numerals of a fixed width are in the order of their numbers, and padded ones are read back.
import FirmwareGen.Proofs.Text.Numeral
/-!
# Numerals of a fixed width

Filled up with zeros to one width, numerals are in the order of the numbers that they denote, as texts
are in the order of their first difference. So are texts of several such numerals, each behind the
same mark. Without a common width a numeral still denotes its number.
-/

namespace FirmwareGen.Text

/-! ## Order of texts -/

/-- Texts are compared by their fronts, if these are of one length. -/
theorem append_lt_append_iff {α : Type} [LT α] [Std.Irrefl ((· < ·) : α → α → Prop)]
    {front front' rest rest' : List α} (h : front.length = front'.length) :
    front ++ rest < front' ++ rest' ↔ front < front' ∨ front = front' ∧ rest < rest' := by
  induction front generalizing front' with
  | nil =>
    rw [List.eq_nil_of_length_eq_zero h.symm]
    simp [List.lt_irrefl]
  | cons c front ih =>
    obtain _ | ⟨d, front'⟩ := front'
    · cases h
    · rw [List.cons_append, List.cons_append, List.cons_lt_cons_iff, List.cons_lt_cons_iff,
        ih (Nat.succ.inj h), List.cons.injEq]
      tauto

/-! ## Digits -/

theorem digitChar_lt_iff {a b : Nat} (ha : a < 10) (hb : b < 10) :
    Nat.digitChar a < Nat.digitChar b ↔ a < b := by
  have hall : ∀ a < 10, ∀ b < 10, (Nat.digitChar a < Nat.digitChar b ↔ a < b) := by decide
  exact hall a ha b hb

theorem toNat_digitChar_sub {a : Nat} (ha : a < 10) : (Nat.digitChar a).toNat - '0'.toNat = a := by
  have hall : ∀ a < 10, (Nat.digitChar a).toNat - '0'.toNat = a := by decide
  exact hall a ha

theorem isDigit_of_mem_lastDigits {width n : Nat} :
    ∀ c ∈ lastDigits 10 width n, c.isDigit = true := by
  induction width generalizing n with
  | zero => exact List.forall_mem_nil _
  | succ width ih =>
    rw [lastDigits, List.forall_mem_append, List.forall_mem_singleton, Nat.isDigit_digitChar,
      decide_eq_true_eq]
    exact ⟨ih, Nat.mod_lt _ (by decide)⟩

theorem pow_ten_succ (width : Nat) : Nat.pow 10 (width + 1) = 10 * Nat.pow 10 width :=
  Nat.mul_comm (Nat.pow 10 width) 10

theorem ofDigitChars_lastDigits (width n : Nat) :
    Nat.ofDigitChars 10 (lastDigits 10 width n) 0 = n % Nat.pow 10 width := by
  induction width generalizing n with
  | zero => exact (Nat.ofDigitChars_nil ..).trans (Nat.mod_one n).symm
  | succ width ih =>
    rw [lastDigits, Nat.ofDigitChars_append, ih, Nat.ofDigitChars_cons, Nat.ofDigitChars_nil,
      toNat_digitChar_sub (Nat.mod_lt _ (by decide)), pow_ten_succ, Nat.mod_mul, Nat.add_comm]

theorem lastDigits_inj {width n m : Nat} (hn : n < Nat.pow 10 width) (hm : m < Nat.pow 10 width) :
    lastDigits 10 width n = lastDigits 10 width m ↔ n = m := by
  constructor
  · intro heq
    have hread := congrArg (Nat.ofDigitChars 10 · 0) heq
    simpa only [ofDigitChars_lastDigits, Nat.mod_eq_of_lt hn, Nat.mod_eq_of_lt hm] using hread
  · rintro rfl
    rfl

theorem lastDigits_lt_iff {width n m : Nat} (hn : n < Nat.pow 10 width) (hm : m < Nat.pow 10 width) :
    lastDigits 10 width n < lastDigits 10 width m ↔ n < m := by
  induction width generalizing n m with
  | zero =>
    rw [Nat.lt_one_iff.1 hn, Nat.lt_one_iff.1 hm]
    simp [lastDigits]
  | succ width ih =>
    rw [pow_ten_succ] at hn hm
    have hn' := Nat.div_lt_of_lt_mul hn
    have hm' := Nat.div_lt_of_lt_mul hm
    rw [lastDigits, lastDigits, append_lt_append_iff (by simp), ih hn' hm', lastDigits_inj hn' hm',
      List.cons_lt_cons_iff,
      digitChar_lt_iff (Nat.mod_lt _ (by decide)) (Nat.mod_lt _ (by decide))]
    simp only [List.lt_irrefl, and_false, or_false]
    omega

/-! ## Padding -/

theorem isDecimal_padded {width : Nat} (hwidth : width ≠ 0) (n : Nat) : IsDecimal (padded width n) := by
  rw [padded]
  split
  · refine ⟨fun hnil => hwidth ?_, isDigit_of_mem_lastDigits⟩
    rw [← length_lastDigits 10 width n, hnil, List.length_nil]
  · exact ⟨Nat.toDigits_ne_nil, isDigit_of_mem_toDigits⟩

theorem ofDigitChars_padded (width n : Nat) : Nat.ofDigitChars 10 (padded width n) 0 = n := by
  rw [padded]
  split
  · next hlt => rw [ofDigitChars_lastDigits, Nat.mod_eq_of_lt hlt]
  · exact Nat.ofDigitChars_ten_toDigits

/-! ## Fields -/

/-- Numbers of two digits, each behind a mark. -/
def fieldsText : List Char → List Nat → List Char
  | mark :: marks, n :: values => mark :: lastDigits 10 2 n ++ fieldsText marks values
  | _, _ => []

/-- As many numbers as marks, with two digits at most. -/
inductive Fit : List Char → List Nat → Prop
  | nil : Fit [] []
  | cons {mark : Char} {marks : List Char} {n : Nat} {values : List Nat} (bound : n < 100)
      (fit : Fit marks values) : Fit (mark :: marks) (n :: values)

namespace Fit

variable {marks : List Char} {values values' : List Nat}

theorem length_fieldsText (h : Fit marks values) :
    (fieldsText marks values).length = 3 * marks.length := by
  induction h with
  | nil => rfl
  | cons _ _ ih =>
    rw [fieldsText, List.length_append, List.length_cons, length_lastDigits, ih, List.length_cons]
    omega

theorem fieldsText_inj (h : Fit marks values) (h' : Fit marks values') :
    fieldsText marks values = fieldsText marks values' ↔ values = values' := by
  induction h generalizing values' with
  | nil => cases h'; exact iff_of_true rfl rfl
  | cons bound _ ih =>
    obtain _ | ⟨bound', fit'⟩ := h'
    constructor
    · intro heq
      obtain ⟨hfirst, hrest⟩ := List.append_inj heq (by simp)
      rw [List.cons_inj_right, lastDigits_inj bound bound'] at hfirst
      rw [hfirst, (ih fit').1 hrest]
    · rintro ⟨⟩
      rfl

/-- Texts of fields with the same marks are in the order of the numbers. -/
theorem fieldsText_lt_iff (h : Fit marks values) (h' : Fit marks values') :
    fieldsText marks values < fieldsText marks values' ↔ values < values' := by
  induction h generalizing values' with
  | nil => cases h'; simp [fieldsText]
  | cons bound _ ih =>
    obtain _ | ⟨bound', fit'⟩ := h'
    rw [fieldsText, fieldsText, List.cons_append, List.cons_append, List.cons_lt_cons_iff,
      append_lt_append_iff (by simp), lastDigits_lt_iff bound bound', lastDigits_inj bound bound',
      ih fit', List.cons_lt_cons_iff]
    simp

end Fit

end FirmwareGen.Text
