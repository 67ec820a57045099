-- SUMMARY: Removing a pattern leaves the parts of a text between its leftmost occurrences.
import FirmwareGen.Text.Removal
import Mathlib.Tactic.Common
/-!
# Removing a pattern, step by step

The pass goes on behind an occurrence of the pattern and passes over any other character. So a text
without the pattern stays as it is. There is one way to divide a text at leftmost occurrences of a
pattern, and the pass leaves the parts.
-/

namespace FirmwareGen.Text

variable {p c : Char} {ps text rest : List Char}

/-- An occurrence in front is deleted. -/
theorem removeFrom_pattern : removeFrom p ps (p :: ps ++ rest) = removeFrom p ps rest := by
  rw [List.cons_append, removeFrom]
  split
  · next after hafter =>
    have heq := afterPattern?_eq_some_iff.1 hafter
    rw [List.cons_append, List.cons_inj_right, List.append_cancel_left_eq] at heq
    rw [heq]
  · next hnone =>
    have hsome : afterPattern? (p :: ps) (p :: (ps ++ rest)) = some rest :=
      afterPattern?_eq_some_iff.2 rfl
    rw [hsome] at hnone
    cases hnone

/-- A character at which no occurrence begins stays. -/
theorem removeFrom_cons (h : ¬ p :: ps <+: c :: rest) :
    removeFrom p ps (c :: rest) = c :: removeFrom p ps rest := by
  rw [removeFrom]
  split
  · next after hafter => exact absurd ⟨after, (afterPattern?_eq_some_iff.1 hafter).symm⟩ h
  · rfl

theorem removeFrom_of_absent (h : ¬ p :: ps <:+: text) : removeFrom p ps text = text := by
  induction text with
  | nil => rw [removeFrom]
  | cons c rest ih =>
    rw [removeFrom_cons fun hfront => h hfront.isInfix,
      ih fun hrest => h (hrest.trans (List.suffix_cons c rest).isInfix)]

/-- A pattern in front of a text without it is all that is removed. -/
theorem remove_append {pattern text : String} (h : ¬ pattern.toList <:+: text.toList) :
    remove pattern (pattern ++ text) = text := by
  rw [remove, String.toList_append]
  cases hpattern : pattern.toList with
  | nil => exact absurd (hpattern ▸ List.nil_infix) h
  | cons p ps =>
    rw [hpattern] at h
    rw [removeChars, removeFrom_pattern, removeFrom_of_absent h, String.ofList_toList]

/-! ## Division at the occurrences -/

/-- The parts of a text around occurrences of a pattern: each occurrence is the leftmost one in what
    follows the one before, and the last part has none. -/
inductive Divided (pattern : List Char) : List Char → List (List Char) → Prop
  | last {text : List Char} (absent : ¬ pattern <:+: text) : Divided pattern text [text]
  | cut {part rest : List Char} {parts : List (List Char)}
      (leftmost : ∀ before after, part ++ pattern ++ rest = before ++ pattern ++ after →
        part.length ≤ before.length)
      (divided : Divided pattern rest parts) :
      Divided pattern (part ++ pattern ++ rest) (part :: parts)

namespace Divided

variable {pattern : List Char} {parts others : List (List Char)}

theorem ne_nil (h : Divided pattern text parts) : parts ≠ [] := by
  cases h <;> exact List.cons_ne_nil _ _

/-- A text is spelled by its parts with the pattern between them. -/
theorem spelled (h : Divided pattern text parts) : text = pattern.intercalate parts := by
  induction h with
  | last => rw [List.intercalate_singleton]
  | cut _ divided ih =>
    cases divided with
    | last => rw [List.intercalate_cons_cons, List.intercalate_singleton]
    | cut => rw [List.intercalate_cons_cons, ← ih]

/-- Leftmost occurrences leave no choice. -/
theorem unique (h : Divided pattern text parts) (hother : Divided pattern text others) :
    parts = others := by
  induction h generalizing others with
  | @last text absent =>
    cases hother with
    | last => rfl
    | cut => exact absurd (List.infix_append _ _ _) absent
  | @cut part rest parts leftmost divided ih =>
    generalize htext : part ++ pattern ++ rest = text at hother
    cases hother with
    | last absent => exact absurd (htext ▸ List.infix_append _ _ _) absent
    | @cut part' rest' others leftmost' divided' =>
      have hlength : part.length = part'.length :=
        Nat.le_antisymm (leftmost _ _ htext) (leftmost' _ _ htext.symm)
      rw [List.append_assoc, List.append_assoc] at htext
      obtain ⟨hpart, hrest⟩ := List.append_inj htext hlength
      rw [List.append_cancel_left_eq] at hrest
      subst hpart hrest
      rw [ih divided']

/-- A character at which no occurrence begins belongs to the first part. -/
theorem cons {part : List Char} (hfront : ¬ pattern <+: c :: text)
    (h : Divided pattern text (part :: parts)) : Divided pattern (c :: text) ((c :: part) :: parts) := by
  cases h with
  | last absent =>
    refine .last fun hoccurs => ?_
    exact (List.infix_cons_iff.1 hoccurs).elim hfront absent
  | @cut _ rest _ leftmost divided =>
    change Divided pattern (c :: part ++ pattern ++ _) _
    refine .cut (fun before after htext => ?_) divided
    cases before with
    | nil => exact absurd ⟨after, by simpa using htext.symm⟩ hfront
    | cons d before =>
      simp only [List.cons_append, List.cons.injEq] at htext
      exact Nat.succ_le_succ (leftmost before after htext.2)

/-- What adds up along a text is what its parts have and, for each part but one, what the pattern has. -/
theorem size_add (h : Divided pattern text parts) (size : List Char → Nat)
    (hsize : ∀ xs ys, size (xs ++ ys) = size xs + size ys) :
    size text + size pattern = size parts.flatten + parts.length * size pattern := by
  induction h with
  | last => simp
  | cut _ _ ih =>
    rw [hsize, hsize, List.flatten_cons, hsize, List.length_cons, Nat.succ_mul]
    omega

/-- A text in which the pattern occurs has two parts at least. -/
theorem two_le_length (h : Divided pattern text parts) (hoccurs : pattern <:+: text) :
    2 ≤ parts.length := by
  cases h with
  | last absent => exact absurd hoccurs absent
  | cut _ divided => exact Nat.succ_le_succ (List.length_pos_iff.2 divided.ne_nil)

end Divided

/-- The pass deletes the occurrences at which the text divides. -/
theorem exists_divided (p : Char) (ps text : List Char) :
    ∃ parts, Divided (p :: ps) text parts ∧ removeFrom p ps text = parts.flatten := by
  induction text using removeFrom.induct p ps with
  | case1 => exact ⟨[[]], .last (by simp), by rw [removeFrom]; rfl⟩
  | case2 c text rest hafter ih =>
    obtain ⟨parts, hdivided, hrest⟩ := ih
    rw [afterPattern?_eq_some_iff.1 hafter, removeFrom_pattern, hrest]
    have hcut : Divided (p :: ps) ([] ++ (p :: ps) ++ rest) ([] :: parts) :=
      .cut (fun _ _ _ => Nat.zero_le _) hdivided
    exact ⟨[] :: parts, hcut, rfl⟩
  | case3 c text hafter ih =>
    have hfront : ¬ p :: ps <+: c :: text := by
      rintro ⟨rest, hrest⟩
      rw [afterPattern?_eq_some_iff.2 hrest.symm] at hafter
      cases hafter
    obtain ⟨parts, hdivided, hrest⟩ := ih
    obtain ⟨part, parts, rfl⟩ := List.exists_cons_of_ne_nil hdivided.ne_nil
    rw [removeFrom_cons hfront, hrest]
    exact ⟨(c :: part) :: parts, hdivided.cons hfront, rfl⟩

/-- What is left of a text without the occurrences of a pattern. -/
def Removed (pattern text rest : String) : Prop :=
  ∃ parts, Divided pattern.toList text.toList parts ∧ rest.toList = parts.flatten

theorem removed_remove {pattern : String} (hpattern : pattern ≠ "") (text : String) :
    Removed pattern text (remove pattern text) := by
  obtain ⟨p, ps, hcons⟩ := List.exists_cons_of_ne_nil (mt String.toList_eq_nil_iff.1 hpattern)
  obtain ⟨parts, hdivided, hrest⟩ := exists_divided p ps text.toList
  refine ⟨parts, hcons ▸ hdivided, ?_⟩
  rw [remove, String.toList_ofList, hcons, removeChars, hrest]

theorem removed_iff {pattern text rest : String} (hpattern : pattern ≠ "") :
    Removed pattern text rest ↔ rest = remove pattern text := by
  constructor
  · rintro ⟨parts, hdivided, hrest⟩
    obtain ⟨others, hothers, hremove⟩ := removed_remove hpattern text
    rw [← String.toList_inj, hrest, hremove, hdivided.unique hothers]
  · rintro rfl
    exact removed_remove hpattern text

-- Occurrences may overlap, and a removal may form new ones.
example : remove "aba" "ababa" = "ba" ∧ remove "ab" "aabb" = "ab" := by decide +kernel

/-- A text in which the pattern does not occur stays. -/
theorem remove_of_absent {pattern text : String} (h : ¬ pattern.toList <:+: text.toList) :
    remove pattern text = text := by
  rw [remove]
  cases hpattern : pattern.toList with
  | nil => exact absurd (hpattern ▸ List.nil_infix) h
  | cons p ps => rw [removeChars, removeFrom_of_absent (hpattern ▸ h), String.ofList_toList]

/-- A text in which the pattern occurs loses it a positive number of times. -/
theorem exists_size_eq {pattern text : String} (hpattern : pattern ≠ "")
    (hoccurs : pattern.toList <:+: text.toList) :
    ∃ count, 0 < count ∧ ∀ size : String → Nat, (∀ s t, size (s ++ t) = size s + size t) →
      size text = size (remove pattern text) + count * size pattern := by
  obtain ⟨parts, hdivided, hrest⟩ := removed_remove hpattern text
  have htwo := hdivided.two_le_length hoccurs
  refine ⟨parts.length - 1, by omega, fun size hsize => ?_⟩
  have hsum := hdivided.size_add (fun cs => size (String.ofList cs)) fun xs ys => by
    rw [String.ofList_append, hsize]
  simp only [← hrest, String.ofList_toList] at hsum
  rw [Nat.sub_mul, Nat.one_mul]
  have hle : size pattern ≤ parts.length * size pattern := Nat.le_mul_of_pos_left _ (by omega)
  omega

end FirmwareGen.Text
