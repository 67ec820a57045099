-- SUMMARY: Which identifiers are derived from names of letters, digits, blanks and underscores.
import FirmwareGen.Proofs.C.Names
import FirmwareGen.Proofs.Naming.Stems
/-!
# Identifiers derived from plain names

A name that is a sequence of words, or blank, becomes part of identifiers in two ways. In capitals it
begins with a letter, since something stands in for a blank name. In lower case it may be empty, and it
may be a word that C reserves.
-/

namespace FirmwareGen

open C Text

/-! ## Words -/

/-- A text of letters, digits, blanks and underscores that begins with no digit; it may be empty. -/
structure Spaced (text : String) : Prop where
  start : ∀ c ∈ text.toList.head?, isWordStart c = true ∨ c = ' '
  chars : ∀ c ∈ text.toList, isWordChar c = true ∨ c = ' '

/-- Letters and digits come in ranges of ASCII characters. -/
theorem toNat_lt_of_isAlphanum {c : Char} (h : c.isAlphanum = true) : c.toNat < 128 := by
  have range {last : Char} (hlast : last.toNat < 128) (hle : c.val ≤ last.val) : c.toNat < 128 :=
    Nat.lt_of_le_of_lt (UInt32.le_iff_toNat_le.1 hle) hlast
  rcases Bool.or_eq_true_iff.1 h with halpha | hdigit
  · rcases Bool.or_eq_true_iff.1 halpha with hupper | hlower
    · have hin : 'A'.val ≤ c.val ∧ c.val ≤ 'Z'.val := of_decide_eq_true hupper
      exact range (by decide) hin.2
    · have hle : c.val ≤ 'z'.val := of_decide_eq_true (Bool.and_eq_true_iff.1 hlower).2
      exact range (by decide) hle
  · have hle : c.val ≤ '9'.val := of_decide_eq_true (Bool.and_eq_true_iff.1 hdigit).2
    exact range (by decide) hle

theorem toNat_lt_of_isWordChar {c : Char} (h : isWordChar c = true) : c.toNat < 128 := by
  rcases Bool.or_eq_true_iff.1 h with hword | hunderscore
  · exact toNat_lt_of_isAlphanum hword
  · rw [eq_of_beq hunderscore]
    decide

namespace Spaced

variable {text : String}

theorem ascii (h : Spaced text) : ∀ c ∈ text.toList, c.toNat < 128 := by
  intro c hc
  rcases h.chars c hc with hword | rfl
  · exact toNat_lt_of_isWordChar hword
  · decide

/-- Mapping characters to ones of the same kind keeps a text spaced. -/
theorem map {f : Char → Char} (h : Spaced text)
    (hstart : ∀ c, c.toNat < 128 → isWordStart c = true → isWordStart (f c) = true)
    (hchars : ∀ c, c.toNat < 128 → isWordChar c = true → isWordChar (f c) = true)
    (hblank : f ' ' = ' ') : Spaced (String.ofList (text.toList.map f)) := by
  constructor
  · intro c hc
    rw [String.toList_ofList, List.head?_map] at hc
    obtain ⟨d, hd, rfl⟩ := Option.map_eq_some_iff.1 hc
    rcases h.start d hd with hword | rfl
    · exact .inl (hstart d (h.ascii d (List.mem_of_mem_head? hd)) hword)
    · exact .inr hblank
  · intro c hc
    rw [String.toList_ofList] at hc
    obtain ⟨d, hd, rfl⟩ := List.mem_map.1 hc
    rcases h.chars d hd with hword | rfl
    · exact .inl (hchars d (h.ascii d hd) hword)
    · exact .inr hblank

theorem lower (h : Spaced text) : Spaced (Text.lower text) := by
  rw [lower_ascii h.ascii]
  refine h.map (fun c => ?_) (fun c => ?_) (by decide)
  · exact fun hc => forall_ascii (p := fun c => isWordStart c = true → isWordStart c.toLower = true)
      (by decide) hc
  · exact fun hc => forall_ascii (p := fun c => isWordChar c = true → isWordChar c.toLower = true)
      (by decide) hc

theorem upper (h : Spaced text) : Spaced (Text.upper text) := by
  rw [upper_ascii h.ascii]
  refine h.map (fun c => ?_) (fun c => ?_) (by decide)
  · exact fun hc => forall_ascii (p := fun c => isWordStart c = true → isWordStart c.toUpper = true)
      (by decide) hc
  · exact fun hc => forall_ascii (p := fun c => isWordChar c = true → isWordChar c.toUpper = true)
      (by decide) hc

/-- Without its blanks a spaced text is a stem. -/
theorem isStem_underscored (h : Spaced text) {separators : List Char} (hblank : ' ' ∈ separators) :
    IsStem (Naming.underscored separators text) := by
  constructor
  · intro c hc
    rw [Naming.underscored, String.toList_ofList, List.head?_map] at hc
    obtain ⟨d, hd, rfl⟩ := Option.map_eq_some_iff.1 hc
    split
    · decide
    · next hkept => exact (h.start d hd).resolve_right fun heq => hkept (heq ▸ hblank)
  · intro c hc
    rw [Naming.underscored, String.toList_ofList] at hc
    obtain ⟨d, hd, rfl⟩ := List.mem_map.1 hc
    split
    · decide
    · next hkept => exact (h.chars d hd).resolve_right fun heq => hkept (heq ▸ hblank)

theorem isStem (h : Spaced text) (hblank : ' ' ∉ text.toList) : IsStem text where
  start c hc := (h.start c hc).resolve_right fun heq => hblank (heq ▸ List.mem_of_mem_head? hc)
  chars c hc := (h.chars c hc).resolve_right fun heq => hblank (heq ▸ hc)

end Spaced

namespace C.IsStem

variable {text : String}

theorem spaced (h : IsStem text) : Spaced text where
  start c hc := .inl (h.start c hc)
  chars c hc := .inl (h.chars c hc)

theorem upper (h : IsStem text) : IsStem (Text.upper text) := by
  refine h.spaced.upper.isStem fun hmem => ?_
  rw [upper_ascii h.spaced.ascii, String.toList_ofList] at hmem
  obtain ⟨c, hc, heq⟩ := List.mem_map.1 hmem
  have hkept := forall_ascii (p := fun c => c.toUpper = ' ' → c = ' ') (by decide)
    (h.spaced.ascii c hc) heq
  exact absurd (h.chars c hc) (by rw [hkept]; decide)

end C.IsStem

/-! ## Names of modulators -/

/-- A name that is blank, or begins with a letter and goes on with letters, digits, blanks and
    underscores. -/
inductive Worded (name : String) : Prop
  | blank (blank : ∀ c ∈ name.toList, c = ' ')
  | word (start : ∃ c, name.toList.head? = some c ∧ c.isAlpha = true)
      (chars : ∀ c ∈ name.toList, isWordChar c = true ∨ c = ' ')

theorem Worded.spaced {name : String} (h : Worded name) : Spaced name := by
  cases h with
  | blank hblank =>
    exact ⟨fun c hc => .inr (hblank c (List.mem_of_mem_head? hc)), fun c hc => .inr (hblank c hc)⟩
  | word start chars =>
    obtain ⟨c, hc, halpha⟩ := start
    refine ⟨fun d hd => .inl ?_, chars⟩
    rw [hc, Option.mem_some] at hd
    rw [← hd, isWordStart, halpha, Bool.true_or]

theorem worded_ofList {cs : List Char} (hstart : cs.head?.any Char.isAlpha = true)
    (hchars : (cs.all fun c => isWordChar c || c == ' ') = true) : Worded (String.ofList cs) := by
  refine .word ?_ ?_
  · rw [Option.any_eq_true] at hstart
    simpa using hstart
  · simpa using hchars

namespace Naming

theorem isStem_instanceName {name : String} (h : Worded name) : IsStem (instanceName name) :=
  h.spaced.lower.isStem_underscored (by decide)

theorem head?_underscored (separators : List Char) (text : String) :
    (underscored separators text).toList.head? =
      text.toList.head?.map fun c => if c ∈ separators then '_' else c := by
  rw [underscored, String.toList_ofList, List.head?_map]

theorem underscored_of_not_mem {separators : List Char} {text : String}
    (h : ∀ c ∈ separators, c ∉ text.toList) : underscored separators text = text := by
  have hchars : text.toList.map (fun c => if c ∈ separators then '_' else c) = text.toList :=
    (List.map_congr_left fun c hc => if_neg fun hmem => h c hmem hc).trans (List.map_id' _)
  rw [underscored, hchars, String.ofList_toList]

/-- Reserved words have no blanks, and underscores only beside capitals. So a stem in lower case is
    reserved just if the name in lower case is. -/
theorem instanceName_mem_reservedWords {name : String} :
    (instanceName name).toList ∈ reservedWords ↔ (Text.lower name).toList ∈ reservedWords := by
  have hwords : ∀ word ∈ reservedWords, ' ' ∉ word ∧
      ('_' ∈ word → word.any Char.isUpper = true) := by decide
  by_cases hblank : ' ' ∈ (Text.lower name).toList
  · have hunderscore : '_' ∈ (instanceName name).toList := by
      rw [instanceName, underscored, String.toList_ofList]
      exact List.mem_map.2 ⟨' ', hblank, rfl⟩
    refine iff_of_false (fun hmem => ?_) fun hmem => (hwords _ hmem).1 hblank
    obtain ⟨c, hc, hcapital⟩ := List.any_eq_true.1 ((hwords _ hmem).2 hunderscore)
    have hplain := plain_instanceName name c hc
    simp [isPlain, hcapital] at hplain
  · rw [instanceName, underscored_of_not_mem (by simpa using hblank)]

/-- The stem of a modulator's functions is an identifier of its own, unless the name is empty or
    spells a reserved word. -/
theorem isIdentifier_instanceName_iff {name : String} (h : Worded name) :
    IsIdentifier (instanceName name) ↔ name ≠ "" ∧ (Text.lower name).toList ∉ reservedWords := by
  have hempty : instanceName name = "" ↔ name = "" := by
    rw [instanceName, underscored, lower_ascii h.spaced.ascii, String.toList_ofList,
      String.ofList_eq_empty_iff, List.map_eq_nil_iff, List.map_eq_nil_iff, String.toList_eq_nil_iff]
  rw [← instanceName_mem_reservedWords]
  exact ⟨fun hname => ⟨fun heq => hname.nonempty (hempty.2 heq), hname.free⟩,
    fun hname => ⟨isStem_instanceName h, fun heq => hname.1 (hempty.1 heq), hname.2⟩⟩

/-! ### Stems in capitals -/

theorem isBlank_of_forall_eq {name : String} (h : ∀ c ∈ name.toList, c = ' ') :
    Text.isBlank name = true := isBlank_iff.2 fun c hc => by rw [h c hc]; decide

theorem isBlank_of_head {name : String} {c : Char} (hhead : name.toList.head? = some c)
    (halpha : c.isAlpha = true) (hascii : c.toNat < 128) : Text.isBlank name = false := by
  rw [Bool.eq_false_iff, ne_eq, isBlank_iff]
  intro hblank
  have hkept := forall_ascii (p := fun c => c.isAlpha = true → isBlankChar c = false) (by decide)
    hascii halpha
  rw [hblank c (List.mem_of_mem_head? hhead)] at hkept
  cases hkept

/-- The symbol of a modulator begins with a capital, whether its name or the fallback gives it. -/
theorem isCapitalStem_symbolStem {name : String} (h : Worded name) :
    IsCapitalStem (({} : NamingScheme).symbolStem name) := by
  have hspaced := h.spaced
  cases h with
  | blank hblank =>
    rw [NamingScheme.symbolStem, symbolStem, if_pos (isBlank_of_forall_eq hblank), if_pos rfl]
    exact ⟨isStem_ofList rfl rfl, 'M', by decide, by decide⟩
  | word start chars =>
    obtain ⟨c, hhead, halpha⟩ := start
    have hascii := hspaced.ascii c (List.mem_of_mem_head? hhead)
    have hfirst : (underscored [' ', '-'] (Text.upper name)).toList.head? =
        some (if c.toUpper ∈ [' ', '-'] then '_' else c.toUpper) := by
      rw [head?_underscored, upper_ascii hspaced.ascii, String.toList_ofList, List.head?_map, hhead]
      rfl
    have hstem : underscored [' ', '-'] (Text.upper name) ≠ "" := by
      intro hempty
      rw [hempty] at hfirst
      cases hfirst
    have hcapital := forall_ascii (p := fun c => c.isAlpha = true →
      (if c.toUpper ∈ [' ', '-'] then '_' else c.toUpper).isUpper = true) (by decide) hascii halpha
    rw [NamingScheme.symbolStem, symbolStem, isBlank_of_head hhead halpha hascii]
    rw [if_neg Bool.false_ne_true, if_neg hstem]
    exact ⟨hspaced.upper.isStem_underscored (by decide), _, hfirst, hcapital⟩

theorem isCapitalStem_upper_fileStem {name : String} (h : Worded name)
    (hname : Text.isBlank name = false) : IsCapitalStem (Text.upper (fileStem name)) := by
  have hspaced := h.spaced
  have hstem : IsStem (fileStem name) := hspaced.lower.isStem_underscored (by decide)
  cases h with
  | blank hblank =>
    rw [isBlank_of_forall_eq hblank] at hname
    cases hname
  | word start chars =>
    obtain ⟨c, hhead, halpha⟩ := start
    have hascii := hspaced.ascii c (List.mem_of_mem_head? hhead)
    have hfirst : (Text.upper (fileStem name)).toList.head? =
        some (if c.toLower ∈ [' ', '-', '.'] then '_' else c.toLower).toUpper := by
      rw [upper_ascii hstem.spaced.ascii, String.toList_ofList, List.head?_map, fileStem,
        head?_underscored, lower_ascii hspaced.ascii, String.toList_ofList, List.head?_map, hhead]
      rfl
    have hcapital := forall_ascii (p := fun c => c.isAlpha = true →
      (if c.toLower ∈ [' ', '-', '.'] then '_' else c.toLower).toUpper.isUpper = true)
      (by decide) hascii halpha
    exact ⟨hstem.upper, _, hfirst, hcapital⟩

theorem isCapitalStem_upper_baseFileName {modulators : List Modulator}
    (h : ∀ modulator ∈ modulators, Worded modulator.name) :
    IsCapitalStem (Text.upper (baseFileName ({} : NamingScheme).fallbackBaseName modulators)) := by
  have hfallback : IsCapitalStem (Text.upper ({} : NamingScheme).fallbackBaseName) :=
    ⟨IsStem.upper (isStem_ofList rfl rfl), 'M', by decide +kernel, by decide⟩
  cases modulators with
  | nil => exact hfallback
  | cons first rest =>
    rw [baseFileName]
    split
    · exact hfallback
    · next hname =>
      exact isCapitalStem_upper_fileStem (h first List.mem_cons_self) (Bool.not_eq_true _ ▸ hname)

end Naming

end FirmwareGen
