-- SUMMARY: Written JSON strings and integers are read back.
import FirmwareGen.Document.Json.Printer
import FirmwareGen.Document.Json.Reader
import FirmwareGen.Proofs.Text.Numeral
import Mathlib.Data.List.TakeDrop
/-!
# Reading written strings and numbers

Reading stops where a written string or integer ends, whatever follows it: a string ends with its
quote, an integer in front of every character that could not carry it on. Characters are read back
whether they were written as they are, with a short escape or by their number.
-/

namespace FirmwareGen.Document.Json

/-! ## Characters -/

/-- The three ways of writing a character: a short escape, its number, or as it is. -/
theorem escapeChar_cases (c : Char) :
    (∃ e, e ≠ 'u' ∧ escaped? e = some c ∧ escapeChar c = ['\\', e]) ∨
    (c.toNat < 0x20 ∧ escapeChar c = ['\\', 'u', '0', '0'] ++ Text.lastDigits 16 2 c.toNat) ∨
    (0x20 ≤ c.toNat ∧ c ≠ '"' ∧ c ≠ '\\' ∧ escapeChar c = [c]) := by
  have hshort : ∀ {c e : Char}, e ≠ 'u' → escaped? e = some c → escapeChar c = ['\\', e] →
      ∃ e, e ≠ 'u' ∧ escaped? e = some c ∧ escapeChar c = ['\\', e] :=
    fun hne hread hwrite => ⟨_, hne, hread, hwrite⟩
  by_cases hquote : c = '"'
  · subst hquote
    exact .inl (hshort (by decide) rfl rfl)
  by_cases hslash : c = '\\'
  · subst hslash
    exact .inl (hshort (by decide) rfl rfl)
  by_cases hback : c = '\x08'
  · subst hback
    exact .inl (hshort (by decide) rfl rfl)
  by_cases htab : c = '\t'
  · subst htab
    exact .inl (hshort (by decide) rfl rfl)
  by_cases hline : c = '\n'
  · subst hline
    exact .inl (hshort (by decide) rfl rfl)
  by_cases hform : c = '\x0c'
  · subst hform
    exact .inl (hshort (by decide) rfl rfl)
  by_cases hreturn : c = '\r'
  · subst hreturn
    exact .inl (hshort (by decide) rfl rfl)
  rw [escapeChar, if_neg hquote, if_neg hslash, if_neg hback, if_neg htab, if_neg hline,
    if_neg hform, if_neg hreturn]
  by_cases hcontrol : c.toNat < 0x20
  · exact .inr (.inl ⟨hcontrol, if_pos hcontrol⟩)
  · exact .inr (.inr ⟨by omega, hquote, hslash, if_neg hcontrol⟩)

theorem readMarks_short {e c : Char} (hne : e ≠ 'u') (hread : escaped? e = some c)
    (text : List Char) :
    readMarks ('\\' :: e :: text) =
      (readMarks text).map fun (marks, rest) => (.char c :: marks, rest) := by
  rw [readMarks, hread]
  intro _ _ _ _ _ heq
  exact absurd heq hne

theorem readMarks_plain {c : Char} (hspace : 0x20 ≤ c.toNat) (hquote : c ≠ '"') (hslash : c ≠ '\\')
    (text : List Char) :
    readMarks (c :: text) =
      (readMarks text).map fun (marks, rest) => (.char c :: marks, rest) := by
  have hplain : ¬(decide (c.toNat < 0x20) || c == '\\') = true := by
    rw [Bool.or_eq_true, decide_eq_true_iff, beq_iff_eq]
    rintro (hcontrol | heq)
    · omega
    · exact hslash heq
  rw [readMarks, if_neg hplain]
  · exact hquote
  · intro _ _ _ _ _ heq
    exact absurd heq hslash
  · intro _ _ heq
    exact absurd heq hslash

theorem hexUnit?_lastDigits {n : Nat} (hn : n < 0x20) :
    ∃ a b, Text.lastDigits 16 2 n = [a, b] ∧ hexUnit? '0' '0' a b = some n := by
  have hall : ∀ n < 0x20,
      hexUnit? '0' '0' (Nat.digitChar (n / 16 % 16)) (Nat.digitChar (n % 16)) = some n := by
    decide
  exact ⟨_, _, rfl, hall n hn⟩

theorem readMarks_numbered {n : Nat} (hn : n < 0x20) (text : List Char) :
    readMarks (['\\', 'u', '0', '0'] ++ Text.lastDigits 16 2 n ++ text) =
      (readMarks text).map fun (marks, rest) => (.unit n :: marks, rest) := by
  obtain ⟨a, b, hdigits, hread⟩ := hexUnit?_lastDigits hn
  rw [hdigits]
  change readMarks ('\\' :: 'u' :: '0' :: '0' :: a :: b :: text) = _
  rw [readMarks, hread]

/-- A number below that of the space is no surrogate. -/
theorem spell?_unit {n : Nat} (hn : n < 0x20) (marks : List Mark) :
    spell? (.unit n :: marks) = (spell? marks).map (Char.ofNat n :: ·) := by
  have hhigh : isHighSurrogate n = false := by
    rw [isHighSurrogate, Bool.and_eq_false_iff, decide_eq_false_iff_not]
    exact .inl (by omega)
  have hlow : isLowSurrogate n = false := by
    rw [isLowSurrogate, Bool.and_eq_false_iff, decide_eq_false_iff_not]
    exact .inl (by omega)
  rw [spell?.eq_def]
  simp [hhigh, hlow]

/-- A written character is read as one element, which spells it. -/
theorem readMarks_escapeChar (c : Char) :
    ∃ mark, (∀ text, readMarks (escapeChar c ++ text) =
        (readMarks text).map fun (marks, rest) => (mark :: marks, rest)) ∧
      ∀ marks, spell? (mark :: marks) = (spell? marks).map (c :: ·) := by
  obtain ⟨e, hne, hread, hwrite⟩ | ⟨hcontrol, hwrite⟩ | ⟨hspace, hquote, hslash, hwrite⟩ :=
    escapeChar_cases c
  · rw [hwrite]
    exact ⟨.char c, readMarks_short hne hread, fun _ => rfl⟩
  · rw [hwrite]
    refine ⟨.unit c.toNat, readMarks_numbered hcontrol, fun marks => ?_⟩
    rw [spell?_unit hcontrol, Char.ofNat_toNat]
  · rw [hwrite]
    exact ⟨.char c, readMarks_plain hspace hquote hslash, fun _ => rfl⟩

/-! ## Strings -/

theorem readMarks_flatMap (text rest : List Char) :
    ∃ marks, readMarks (text.flatMap escapeChar ++ '"' :: rest) = some (marks, rest) ∧
      spell? marks = some text := by
  induction text with
  | nil => exact ⟨[], by simp [readMarks], rfl⟩
  | cons c text ih =>
    obtain ⟨marks, hread, hspell⟩ := ih
    obtain ⟨mark, hmark, hchar⟩ := readMarks_escapeChar c
    refine ⟨mark :: marks, ?_, ?_⟩
    · rw [List.flatMap_cons, List.append_assoc, hmark, hread, Option.map_some]
    · rw [hchar, hspell, Option.map_some]

/-- A written string is read up to its closing quote. -/
theorem readText_quoted (text : String) (rest : List Char) :
    readText (text.toList.flatMap escapeChar ++ '"' :: rest) = some (.string text, rest) := by
  obtain ⟨marks, hread, hspell⟩ := readMarks_flatMap text.toList rest
  simp only [readText, hread, Option.map_some, hspell, String.ofList_toList]

/-! ## Integers -/

/-- Whether a text cannot carry on an integer in front of it. -/
def EndsInteger (rest : List Char) : Prop :=
  ∀ c ∈ rest.head?, c.isDigit = false ∧ c ≠ '.' ∧ c ≠ 'e' ∧ c ≠ 'E'

theorem exists_toDigits_eq_cons (n : Nat) :
    ∃ c digits, Nat.toDigits 10 n = c :: digits ∧ c.isDigit = true := by
  obtain ⟨c, digits, heq⟩ := List.exists_cons_of_ne_nil (Nat.toDigits_ne_nil (n := n) (b := 10))
  exact ⟨c, digits, heq, Text.isDigit_of_mem_toDigits c (heq ▸ List.mem_cons_self)⟩

theorem head?_toDigits {n : Nat} (hn : 0 < n) : (Nat.toDigits 10 n).head? ≠ some '0' := by
  induction n using Nat.strongRecOn with
  | ind n ih =>
    by_cases hsmall : n < 10
    · have hall : ∀ n < 10, 0 < n → Nat.digitChar n ≠ '0' := by decide
      rw [Nat.toDigits_of_lt_base hsmall]
      simpa using hall n hsmall hn
    · have hquotient : (Nat.toDigits 10 (n / 10)).head? ≠ some '0' := by
        apply ih <;> omega
      obtain ⟨c, digits, hcons, -⟩ := exists_toDigits_eq_cons (n / 10)
      rw [Nat.toDigits_of_base_le (by decide) (by omega), hcons]
      rwa [hcons] at hquotient

theorem spanDigits_toDigits (n : Nat) {rest : List Char} (hrest : EndsInteger rest) :
    spanDigits (Nat.toDigits 10 n ++ rest) = (Nat.toDigits 10 n, rest) := by
  have hnone : rest.takeWhile Char.isDigit = [] ∧ rest.dropWhile Char.isDigit = rest := by
    cases rest with
    | nil => exact ⟨rfl, rfl⟩
    | cons c rest =>
      have hc := (hrest c rfl).1
      simp [hc]
  have hdigits : ∀ c ∈ Nat.toDigits 10 n, c.isDigit = true := Text.isDigit_of_mem_toDigits
  rw [spanDigits, List.span_eq_takeWhile_dropWhile, List.takeWhile_append_of_pos hdigits,
    List.dropWhile_append_of_pos hdigits, hnone.1, hnone.2, List.append_nil]

theorem readWhole_toDigits (n : Nat) {rest : List Char} (hrest : EndsInteger rest) :
    readWhole (Nat.toDigits 10 n ++ rest) = some (Nat.toDigits 10 n, rest) := by
  rw [readWhole, spanDigits_toDigits n hrest]
  split
  · next heq => exact absurd (congrArg Prod.fst heq) Nat.toDigits_ne_nil
  · next heq =>
    have hhead := congrArg Prod.fst heq
    rcases Nat.eq_zero_or_pos n with rfl | hn
    · cases hhead
    · exact absurd (congrArg List.head? hhead) (head?_toDigits hn)
  · next heq => rw [← heq]

theorem readFraction_of_endsInteger {rest : List Char} (hrest : EndsInteger rest) :
    readFraction rest = some ([], rest) := by
  cases rest with
  | nil => rfl
  | cons c rest =>
    obtain ⟨-, hpoint, -, -⟩ := hrest c rfl
    rw [readFraction]
    intro _ heq
    exact hpoint (List.cons.inj heq).1

theorem readExponent_of_endsInteger {rest : List Char} (hrest : EndsInteger rest) :
    readExponent rest = some ([], rest) := by
  cases rest with
  | nil => rfl
  | cons c rest =>
    obtain ⟨-, -, hsmall, hcapital⟩ := hrest c rfl
    simp [readExponent, hsmall, hcapital]

theorem readMagnitude_toDigits (negative : Bool) (n : Nat) {rest : List Char}
    (hrest : EndsInteger rest) :
    readMagnitude negative (Nat.toDigits 10 n ++ rest) =
      some (numberValue negative (Nat.toDigits 10 n) [] [], rest) := by
  rw [readMagnitude, readWhole_toDigits n hrest]
  simp only [readFraction_of_endsInteger hrest, readExponent_of_endsInteger hrest]

/-- A written integer is read up to where it ends. -/
theorem readNumber_toString (n : Int) {rest : List Char} (hrest : EndsInteger rest) :
    readNumber ((toString n).toList ++ rest) = some (.int n, rest) := by
  cases n with
  | ofNat n =>
    have hvalue : numberValue false (Nat.toDigits 10 n) [] [] = .int n := by
      rw [numberValue]
      simp only [List.isEmpty_nil, Bool.and_self, if_true, Text.readNat?_toDigits]
      cases n <;> rfl
    rw [Text.toList_toString_ofNat, readNumber, readMagnitude_toDigits false n hrest, hvalue]
    · rfl
    · intro text heq
      obtain ⟨c, digits, hcons, hdigit⟩ := exists_toDigits_eq_cons n
      rw [hcons] at heq
      rw [(List.cons.inj heq).1] at hdigit
      cases hdigit
  | negSucc n =>
    have hvalue : numberValue true (Nat.toDigits 10 (n + 1)) [] [] = .int (.negSucc n) := by
      rw [numberValue]
      simp only [List.isEmpty_nil, Bool.and_self, if_true, Text.readNat?_toDigits]
      rfl
    rw [Text.toList_toString_negSucc, List.cons_append, readNumber,
      readMagnitude_toDigits true (n + 1) hrest, hvalue]

end FirmwareGen.Document.Json
