-- SUMMARY: Derived names stay in a vocabulary; what stems of functions and of files do not have.
import FirmwareGen.Naming.Scheme
import FirmwareGen.Proofs.Text.Vocabulary
import FirmwareGen.Storage.Path
/-!
# Stems of generated names

Nothing that names are derived by introduces a character outside the vocabulary of the names. The
stem of a modulator's functions is in lower case and has no blank, whatever the name of the modulator
is. The stem of its files has no dot, but it keeps the slashes of the name.
-/

namespace FirmwareGen

open Text

/-! ## Names in a vocabulary -/

theorem Text.mem_removeFrom {p c : Char} {ps text : List Char} (h : c ∈ removeFrom p ps text) :
    c ∈ text := by
  induction text using removeFrom.induct p ps with
  | case1 => rwa [removeFrom] at h
  | case2 d rest after hafter ih =>
    rw [removeFrom] at h
    split at h
    · next found hfound =>
      rw [hafter] at hfound
      cases hfound
      rw [afterPattern?_eq_some_iff.1 hafter]
      exact List.mem_append_right _ (ih h)
    · next hnone => rw [hafter] at hnone; cases hnone
  | case3 d rest hafter ih =>
    rw [removeFrom] at h
    split at h
    · next hfound => rw [hafter] at hfound; cases hfound
    · rw [List.mem_cons] at h ⊢
      exact h.imp_right ih

theorem Text.mem_of_mem_remove {pattern text : String} {c : Char}
    (h : c ∈ (remove pattern text).toList) : c ∈ text.toList := by
  rw [remove, String.toList_ofList] at h
  cases hpattern : pattern.toList with
  | nil =>
    rw [hpattern, removeChars] at h
    exact h
  | cons p ps =>
    rw [hpattern, removeChars] at h
    exact mem_removeFrom h

theorem Text.within_remove {accepts : Char → Bool} {text : String} (h : Within accepts text)
    (pattern : String) : Within accepts (remove pattern text) :=
  fun c hc => h c (mem_of_mem_remove hc)

namespace Naming

variable {v : Vocabulary} {name : String}

theorem within_underscored (h : Within v.letter name) (separators : List Char) :
    Within v.letter (underscored separators name) := by
  intro c hc
  rw [underscored, String.toList_ofList] at hc
  obtain ⟨d, hd, rfl⟩ := List.mem_map.1 hc
  split
  · exact v.letter_fixed _ (by decide)
  · exact h d hd

theorem within_fileStem (h : Within v.letter name) : Within v.letter (fileStem name) :=
  within_underscored (v.letter_lower name h) _

theorem within_instanceName (h : Within v.letter name) : Within v.letter (instanceName name) :=
  within_underscored (v.letter_lower name h) _

theorem within_symbolStem (h : Within v.letter name) : Within v.letter (symbolStem name) := by
  unfold symbolStem
  split
  · exact v.fixed rfl
  · exact within_underscored (v.letter_upper name h) _

theorem within_macroName (h : Within v.letter name) : Within v.letter (macroName name) :=
  within_underscored (v.letter_upper name h) _

theorem within_cIdentifier (h : Within v.letter name) : Within v.letter (cIdentifier name) :=
  within_underscored h _

theorem within_includeGuard {base : String} (h : Within v.letter base) :
    Within v.letter (includeGuard base) :=
  within_append.2 ⟨v.letter_upper base h, v.fixed rfl⟩

theorem within_baseFileName {fallback : String} (hfallback : Within v.letter fallback)
    {modulators : List Modulator} (h : ∀ modulator ∈ modulators, Within v.letter modulator.name) :
    Within v.letter (baseFileName fallback modulators) := by
  cases modulators with
  | nil => exact hfallback
  | cons first rest =>
    rw [baseFileName]
    split
    · exact hfallback
    · exact within_fileStem (h first List.mem_cons_self)

end Naming

namespace NamingScheme

variable {v : Vocabulary} {scheme : NamingScheme} {pwm : String}

theorem within_symbolStem (hfallback : Within v.letter scheme.fallbackSymbol) {name : String}
    (h : Within v.letter name) : Within v.letter (scheme.symbolStem name) := by
  simp only [symbolStem]
  split
  · exact hfallback
  · exact Naming.within_symbolStem h

theorem mem_of_mem_phaseName {c : Char} (h : c ∈ (scheme.phaseName pwm).toList) :
    c ∈ pwm.toList := by
  unfold phaseName at h
  suffices htag : c ∈ (scheme.phaseTag pwm).toList from mem_of_mem_remove htag
  generalize scheme.phaseTag pwm = tag at h ⊢
  generalize scheme.phaseFragments = fragments at h
  induction fragments generalizing tag with
  | nil => exact h
  | cons fragment fragments ih => exact mem_of_mem_remove (ih (remove fragment tag) h)

theorem within_phaseTag (h : Within v.letter pwm) : Within v.letter (scheme.phaseTag pwm) :=
  within_remove h _

theorem within_phaseName (h : Within v.letter pwm) : Within v.letter (scheme.phaseName pwm) :=
  fun c hc => h c (mem_of_mem_phaseName hc)

end NamingScheme

/-! ## Stems of functions -/

/-- A modulator's functions have a stem without capitals and blanks. -/
theorem Naming.plain_instanceName (name : String) : Plain (instanceName name) := by
  intro c hc
  rw [instanceName, underscored, String.toList_ofList] at hc
  obtain ⟨d, hd, heq⟩ := List.mem_map.1 hc
  split at heq
  · rw [← heq]
    decide
  · next hblank =>
    rw [List.mem_singleton] at hblank
    rw [← heq]
    simp [isPlain, isUpper_of_mem_lower hd, hblank]

/-! ## Stems of files -/

namespace Naming

theorem mem_underscored {separators : List Char} {text : String} {c : Char} (hc : c ≠ '_')
    (hkept : c ∉ separators) : c ∈ (underscored separators text).toList ↔ c ∈ text.toList := by
  rw [underscored, String.toList_ofList, List.mem_map]
  constructor
  · rintro ⟨d, hd, heq⟩
    split at heq
    · exact absurd heq (Ne.symm hc)
    · exact heq ▸ hd
  · exact fun hmem => ⟨c, hmem, if_neg hkept⟩

theorem dot_not_mem_fileStem (name : String) : '.' ∉ (fileStem name).toList := by
  rw [fileStem, underscored, String.toList_ofList, List.mem_map]
  rintro ⟨c, -, heq⟩
  split at heq
  · exact absurd heq (by decide)
  · next hkept => exact hkept (by simp [heq])

theorem dot_not_mem_baseFileName {fallback : String} (hfallback : '.' ∉ fallback.toList)
    (modulators : List Modulator) : '.' ∉ (baseFileName fallback modulators).toList := by
  cases modulators with
  | nil => exact hfallback
  | cons first rest =>
    rw [baseFileName]
    split
    · exact hfallback
    · exact dot_not_mem_fileStem first.name

theorem lowerChar_slash : lowerChar '/' = ['/'] := by decide

theorem slash_mem_fileStem_iff {name : String} :
    '/' ∈ (fileStem name).toList ↔ '/' ∈ name.toList := by
  rw [fileStem, mem_underscored (by decide) (by decide)]
  constructor
  · exact mem_of_mem_lower (by decide) (by decide)
  · intro hmem
    rw [lower, String.toList_ofList]
    exact mem_lowerAfter_of_mem lowerChar_slash (by decide) hmem

theorem isAbsolute_fileStem (name : String) :
    Path.isAbsolute (fileStem name) = Path.isAbsolute name := by
  have hhead : (fileStem name).toList.head? = some '/' ↔ (lower name).toList.head? = some '/' := by
    rw [fileStem, underscored, String.toList_ofList, List.head?_map, Option.map_eq_some_iff]
    constructor
    · rintro ⟨c, hc, heq⟩
      split at heq
      · exact absurd heq (by decide)
      · exact heq ▸ hc
    · exact fun hc => ⟨'/', hc, if_neg (by decide)⟩
  rw [Path.isAbsolute, Path.isAbsolute, Bool.eq_iff_iff, beq_iff_eq, beq_iff_eq, hhead,
    head?_lower_eq_iff lowerChar_slash (by decide) (by decide)]

/-- The name of the first modulator, after which the files are named. -/
def leadingName : List Modulator → String
  | [] => ""
  | first :: _ => first.name

/-- The fallback stands in for names without slashes only. -/
theorem baseFileName_cases (fallback : String) (modulators : List Modulator) :
    baseFileName fallback modulators = fileStem (leadingName modulators) ∨
      baseFileName fallback modulators = fallback ∧ '/' ∉ (leadingName modulators).toList := by
  cases modulators with
  | nil => exact .inr ⟨rfl, by simp [leadingName]⟩
  | cons first rest =>
    rw [baseFileName, leadingName]
    split
    · next hblank =>
      exact .inr ⟨rfl, fun hslash => absurd (isBlank_iff.1 hblank '/' hslash) (by decide)⟩
    · exact .inl rfl

theorem slash_mem_baseFileName_iff {fallback : String} (hfallback : '/' ∉ fallback.toList)
    (modulators : List Modulator) :
    '/' ∈ (baseFileName fallback modulators).toList ↔ '/' ∈ (leadingName modulators).toList := by
  rcases baseFileName_cases fallback modulators with hstem | ⟨hstem, hslash⟩
  · rw [hstem, slash_mem_fileStem_iff]
  · rw [hstem]
    exact iff_of_false hfallback hslash

/-- A name with a slash is kept. -/
theorem baseFileName_of_slash {fallback : String} {modulators : List Modulator}
    (hslash : '/' ∈ (leadingName modulators).toList) :
    baseFileName fallback modulators = fileStem (leadingName modulators) :=
  (baseFileName_cases fallback modulators).resolve_right fun h => h.2 hslash

end Naming

end FirmwareGen
