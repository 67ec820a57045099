-- SUMMARY: Stems are free of separators and are their own stems, and blank names alone have none.
import FirmwareGen.Proofs.Naming.Identifiers
import FirmwareGen.Proofs.Text.Settled
/-!
# Sanitised names

Each stem of a name is free of the separators of its kind, and taking the stem of a stem changes
nothing. The two steps of a stem do not disturb each other: what case mapping yields is settled, and
underscores are settled too. The stem of symbols is empty for a blank name alone, so that a fallback
stands in for no other.
-/

namespace FirmwareGen.Naming

open Text

/-- A way to take stems of names that leaves none of some separators and that changes no stem. -/
structure Sanitises (separators : List Char) (stem : String → String) : Prop where
  separated : ∀ name, ∀ c ∈ separators, c ∉ (stem name).toList
  idempotent : ∀ name, stem (stem name) = stem name

/-- A mapping of case that yields settled characters and keeps a text of them; the underscore is
    settled. -/
structure Settles (recase : String → String) (Settled : Char → Prop) : Prop where
  settled : ∀ {text : String} {c : Char}, c ∈ (recase text).toList → Settled c
  keeps : ∀ {text : String}, (∀ c ∈ text.toList, Settled c) → recase text = text
  underscore : Settled '_'

theorem settles_lower : Settles lower fun c => lowerChar c = [c] where
  settled := lowerChar_of_mem_lower
  keeps := lower_of_settled
  underscore := lowerChar_ascii (by decide)

theorem settles_upper : Settles upper fun c => upperChar c = [c] where
  settled := upperChar_of_mem_upper
  keeps := upper_of_settled
  underscore := upperChar_ascii (by decide)

section

variable {separators : List Char} {recase : String → String} {Settled : Char → Prop}

theorem not_mem_underscored (hunderscore : '_' ∉ separators) (text : String) {c : Char}
    (hc : c ∈ separators) : c ∉ (underscored separators text).toList := by
  rw [underscored, String.toList_ofList, List.mem_map]
  rintro ⟨d, -, heq⟩
  split at heq
  · exact hunderscore (heq ▸ hc)
  · next hkept => exact hkept (heq ▸ hc)

/-- A stem in one case stays in that case. -/
theorem Settles.recase_underscored (h : Settles recase Settled) (name : String) :
    recase (underscored separators (recase name)) = underscored separators (recase name) := by
  refine h.keeps fun c hc => ?_
  rw [underscored, String.toList_ofList] at hc
  obtain ⟨d, hd, rfl⟩ := List.mem_map.1 hc
  split
  · exact h.underscore
  · exact h.settled hd

theorem Settles.sanitises (h : Settles recase Settled) (hunderscore : '_' ∉ separators) :
    Sanitises separators fun name => underscored separators (recase name) where
  separated name _ := not_mem_underscored hunderscore _
  idempotent name := by
    rw [h.recase_underscored]
    exact underscored_of_not_mem fun _ => not_mem_underscored hunderscore _

end

/-! ## Symbols -/

theorem isBlank_symbolStem {name : String} (h : isBlank name = false) :
    isBlank (underscored [' ', '-'] (upper name)) = false := by
  rw [Bool.eq_false_iff, ne_eq, isBlank_iff] at h ⊢
  simp only [not_forall, Bool.not_eq_true] at h
  obtain ⟨c, hc, hblank⟩ := h
  obtain ⟨d, hd, hkept⟩ := exists_mem_upper hc hblank
  intro hall
  have hmem : (if d ∈ [' ', '-'] then '_' else d) ∈ (underscored [' ', '-'] (upper name)).toList := by
    rw [underscored, String.toList_ofList]
    exact List.mem_map_of_mem hd
  have hmapped := hall _ hmem
  split at hmapped
  · exact absurd hmapped (by decide)
  · rw [hkept] at hmapped
    cases hmapped

theorem symbolStem_eq_empty_iff {name : String} : symbolStem name = "" ↔ isBlank name = true := by
  rw [symbolStem]
  split
  · next hblank => exact iff_of_true rfl hblank
  · next hname =>
    have hstem := isBlank_symbolStem (Bool.not_eq_true _ ▸ hname)
    refine iff_of_false (fun hempty => ?_) hname
    rw [hempty, isBlank_empty] at hstem
    cases hstem

theorem sanitises_symbolStem : Sanitises [' ', '-'] symbolStem where
  separated name c hc := by
    rw [symbolStem]
    split
    · exact List.not_mem_nil
    · exact not_mem_underscored (by decide) _ hc
  idempotent name := by
    by_cases hname : isBlank name = true
    · rw [symbolStem_eq_empty_iff.2 hname, symbolStem_eq_empty_iff.2 isBlank_empty]
    · have hstem : symbolStem name = underscored [' ', '-'] (upper name) := if_neg hname
      have hkept := isBlank_symbolStem (Bool.not_eq_true _ ▸ hname)
      rw [hstem, symbolStem, hkept, if_neg Bool.false_ne_true]
      exact (settles_upper.sanitises (by decide)).idempotent name

/-! ## Stems -/

/-- All four kinds of stems are sanitised. A name without a symbol of its own is blank, and a scheme
    has its fallback stand in just for such a name. -/
theorem sanitises_stems :
    Sanitises [' ', '-', '.'] fileStem ∧ Sanitises [' ', '-'] symbolStem ∧
      Sanitises [' '] instanceName ∧ Sanitises [' '] macroName ∧
      (∀ name, symbolStem name = "" ↔ isBlank name = true) ∧
      ∀ (scheme : NamingScheme) (name : String), scheme.symbolStem name =
        if isBlank name = true then scheme.fallbackSymbol else symbolStem name :=
  ⟨settles_lower.sanitises (by decide), sanitises_symbolStem, settles_lower.sanitises (by decide),
    settles_upper.sanitises (by decide), fun _ => symbolStem_eq_empty_iff,
    fun _ _ => if_congr symbolStem_eq_empty_iff rfl rfl⟩

end FirmwareGen.Naming
