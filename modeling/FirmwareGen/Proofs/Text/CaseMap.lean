-- SUMMARY: Which characters case mapping cannot yield.
import FirmwareGen.Text.CaseMap
import Mathlib.Tactic.Common
/-!
# Images of case mapping

No image in the case tables is one of the marks that code is punctuated with. So mapping the case of
a text introduces no bracket, no mark of a comment and no line feed, and a text in lower case has no
ASCII capital.
-/

namespace FirmwareGen.Text

/-! ## Images -/

/-- All images in the tables lie above a bound. -/
def ImagesAbove (bound : Nat) (runs : List CaseRun) (expansions : List (Nat × List Nat)) : Bool :=
  (runs.all fun run => decide (bound < run.image)) &&
    expansions.all fun expansion => expansion.2.all fun n => decide (bound < n)

theorem toNat_ofNat (n : Nat) : (Char.ofNat n).toNat = n ∨ Char.ofNat n = '\x00' := by
  by_cases h : n.isValidChar
  · left
    have hvalid : Char.ofNat n = Char.ofNatAux n h := dif_pos h
    rw [hvalid]
    rfl
  · right
    exact dif_neg h

/-- A character is its own image, or the tables give the codes of its image. -/
theorem mem_caseImage_cases {runs : List CaseRun} {expansions : List (Nat × List Nat)} {c d : Char}
    (hd : d ∈ caseImage runs expansions c) :
    (caseImage runs expansions c = [c] ∧ d = c) ∨ ∃ n, d = Char.ofNat n ∧
      ((∃ run ∈ runs, run.image? c.toNat = some n) ∨ ∃ expansion ∈ expansions, n ∈ expansion.2) := by
  unfold caseImage at hd ⊢
  split at hd
  · next image himage =>
    obtain ⟨before, after, hsplit, -⟩ := List.lookup_eq_some_iff.1 himage
    obtain ⟨n, hn, rfl⟩ := List.mem_map.1 hd
    exact .inr ⟨n, rfl, .inr ⟨(c.toNat, image), by simp [hsplit], hn⟩⟩
  · split at hd
    · next n hn =>
      exact .inr ⟨n, List.mem_singleton.1 hd, .inl (List.exists_of_findSome?_eq_some hn)⟩
    · exact .inl ⟨rfl, List.mem_singleton.1 hd⟩

theorem CaseRun.image?_eq_some_iff {run : CaseRun} {n m : Nat} :
    run.image? n = some m ↔ run.first ≤ n ∧ n ≤ run.last ∧ (n - run.first) % run.stride = 0 ∧
      m = run.image + (n - run.first) := by
  rw [image?]
  split <;> simp_all [eq_comm]

/-- A character of an image is the character itself or has a code that one of the tables gives. -/
theorem exists_of_mem_caseImage {runs : List CaseRun} {expansions : List (Nat × List Nat)}
    {c d : Char} (hd : d ∈ caseImage runs expansions c) :
    d = c ∨ ∃ n, d = Char.ofNat n ∧
      ((∃ run ∈ runs, run.image ≤ n ∧ n ≤ run.image + (run.last - run.first)) ∨
        ∃ expansion ∈ expansions, n ∈ expansion.2) := by
  rcases mem_caseImage_cases hd with ⟨-, heq⟩ | ⟨n, heq, ⟨run, hrun, himage⟩ | himage⟩
  · exact .inl heq
  · have hrange := CaseRun.image?_eq_some_iff.1 himage
    exact .inr ⟨n, heq, .inl ⟨run, hrun, by omega, by omega⟩⟩
  · exact .inr ⟨n, heq, .inr himage⟩

/-- Without empty expansions every character has an image. -/
theorem caseImage_ne_nil {runs : List CaseRun} {expansions : List (Nat × List Nat)}
    (h : ∀ expansion ∈ expansions, expansion.2 ≠ []) (c : Char) : caseImage runs expansions c ≠ [] := by
  rw [caseImage]
  split
  · next image himage =>
    obtain ⟨before, after, hsplit, -⟩ := List.lookup_eq_some_iff.1 himage
    simpa using h (c.toNat, image) (by simp [hsplit])
  · split <;> simp

/-- A character of an image is the character itself or lies above the bound. -/
theorem mem_caseImage {bound : Nat} {runs : List CaseRun} {expansions : List (Nat × List Nat)}
    (h : ImagesAbove bound runs expansions = true) {c d : Char}
    (hd : d ∈ caseImage runs expansions c) : d = c ∨ bound < d.toNat ∨ d = '\x00' := by
  simp only [ImagesAbove, Bool.and_eq_true, List.all_eq_true, decide_eq_true_eq] at h
  obtain ⟨hruns, hexpansions⟩ := h
  rcases exists_of_mem_caseImage hd with heq | ⟨n, rfl, himage⟩
  · exact .inl heq
  · have hn : bound < n := by
      rcases himage with ⟨run, hrun, hfrom, -⟩ | ⟨expansion, hmem, hn⟩
      · exact Nat.lt_of_lt_of_le (hruns run hrun) hfrom
      · exact hexpansions expansion hmem n hn
    rcases toNat_ofNat n with heq | heq
    · exact .inr (.inl (by rw [heq]; exact hn))
    · exact .inr (.inr heq)

/-- Every image in the tables that is in ASCII is a letter. -/
def ImagesLettered (runs : List CaseRun) (expansions : List (Nat × List Nat)) : Bool :=
  (runs.all fun run => Nat.ble 128 run.image ||
      (Nat.ble 65 run.image && Nat.ble (run.image + (run.last - run.first)) 90) ||
      (Nat.ble 97 run.image && Nat.ble (run.image + (run.last - run.first)) 122)) &&
    expansions.all fun expansion => expansion.2.all fun n =>
      Nat.ble 128 n || (Nat.ble 65 n && Nat.ble n 90) || (Nat.ble 97 n && Nat.ble n 122)

/-- A character of an image is the character itself, a letter or outside of ASCII. -/
theorem letter_of_mem_caseImage {runs : List CaseRun} {expansions : List (Nat × List Nat)}
    (h : ImagesLettered runs expansions = true) {c d : Char}
    (hd : d ∈ caseImage runs expansions c) :
    d = c ∨ (128 ≤ d.toNat ∨ 65 ≤ d.toNat ∧ d.toNat ≤ 90 ∨ 97 ≤ d.toNat ∧ d.toNat ≤ 122) ∨
      d = '\x00' := by
  simp only [ImagesLettered, Bool.and_eq_true, Bool.or_eq_true, List.all_eq_true, Nat.ble_eq] at h
  obtain ⟨hruns, hexpansions⟩ := h
  rcases exists_of_mem_caseImage hd with heq | ⟨n, rfl, himage⟩
  · exact .inl heq
  · have hn : 128 ≤ n ∨ 65 ≤ n ∧ n ≤ 90 ∨ 97 ≤ n ∧ n ≤ 122 := by
      rcases himage with ⟨run, hrun, hfrom, hto⟩ | ⟨expansion, hmem, hn⟩
      · have hrange := hruns run hrun
        omega
      · have hrange := hexpansions expansion hmem n hn
        omega
    rcases toNat_ofNat n with heq | heq
    · exact .inr (.inl (by rwa [heq]))
    · exact .inr (.inr heq)

/-! ## Lower case -/

theorem imagesAbove_lower : ImagesAbove 90 lowerRuns lowerExpansions = true := by decide

/-- What lower-casing makes of a text is sigmas and images of its characters. -/
theorem mem_lowerAfter {before text : List Char} {d : Char} (h : d ∈ lowerAfter before text) :
    d = 'ς' ∨ d = 'σ' ∨ ∃ c ∈ text, d ∈ lowerChar c := by
  induction text generalizing before with
  | nil => cases h
  | cons c text ih =>
    rw [lowerAfter, List.mem_append] at h
    rcases h with h | h
    · split at h
      · rw [List.mem_singleton] at h
        unfold lowerSigma at h
        split at h
        · exact .inl h
        · exact .inr (.inl h)
      · exact .inr (.inr ⟨c, List.mem_cons_self, h⟩)
    · rcases ih h with hfinal | hsigma | ⟨e, he, hd⟩
      · exact .inl hfinal
      · exact .inr (.inl hsigma)
      · exact .inr (.inr ⟨e, List.mem_cons_of_mem _ he, hd⟩)

/-- Lower-casing yields no character up to the capitals that the text did not have. -/
theorem mem_of_mem_lower {d : Char} (hlow : d.toNat ≤ 90) (hzero : d ≠ '\x00') {text : String}
    (h : d ∈ (lower text).toList) : d ∈ text.toList := by
  rw [lower, String.toList_ofList] at h
  rcases mem_lowerAfter h with rfl | rfl | ⟨c, hc, hmem⟩
  · exact absurd hlow (by decide)
  · exact absurd hlow (by decide)
  · rcases mem_caseImage imagesAbove_lower hmem with rfl | habove | hnul
    · exact hc
    · omega
    · exact absurd hnul hzero

/-- A character without case stays. -/
theorem mem_lowerAfter_of_mem {c : Char} (hc : lowerChar c = [c]) (hsigma : c ≠ 'Σ')
    {before text : List Char} (h : c ∈ text) : c ∈ lowerAfter before text := by
  induction text generalizing before with
  | nil => cases h
  | cons d text ih =>
    rw [lowerAfter, List.mem_append]
    rcases List.mem_cons.1 h with rfl | h
    · exact .inl (by simp [hsigma, hc])
    · exact .inr (ih h)

theorem lowerChar_ne_nil (c : Char) : lowerChar c ≠ [] := caseImage_ne_nil (by decide) c

/-- A character without case stands in front of a text in lower case just if it stood there before. -/
theorem head?_lower_eq_iff {c : Char} (hc : lowerChar c = [c]) (hlow : c.toNat ≤ 90)
    (hzero : c ≠ '\x00') (text : String) :
    (lower text).toList.head? = some c ↔ text.toList.head? = some c := by
  rw [lower, String.toList_ofList, lowerChars]
  cases text.toList with
  | nil => rfl
  | cons d rest =>
    by_cases hsigma : d = 'Σ'
    · subst hsigma
      have hnone : c ≠ 'ς' ∧ c ≠ 'σ' ∧ c ≠ 'Σ' := by
        refine ⟨?_, ?_, ?_⟩ <;> (rintro rfl; exact absurd hlow (by decide))
      rw [lowerAfter, if_pos rfl, lowerSigma]
      split <;> simp [Ne.symm hnone.1, Ne.symm hnone.2.1, Ne.symm hnone.2.2]
    · rw [lowerAfter, if_neg hsigma, List.head?_cons, Option.some.injEq]
      cases himage : lowerChar d with
      | nil => exact absurd himage (lowerChar_ne_nil d)
      | cons first more =>
        rw [List.cons_append, List.head?_cons, Option.some.injEq]
        constructor
        · rintro rfl
          have hmem : first ∈ lowerChar d := by simp [himage]
          rcases mem_caseImage imagesAbove_lower hmem with heq | habove | hnul
          · exact heq.symm
          · omega
          · exact absurd hnul hzero
        · rintro rfl
          rw [hc, List.cons_eq_cons] at himage
          exact himage.1.symm

theorem isUpper_iff {c : Char} : c.isUpper = true ↔ 65 ≤ c.toNat ∧ c.toNat ≤ 90 := by
  have hrange : c.isUpper = decide (c.val ≥ 'A'.val ∧ c.val ≤ 'Z'.val) := rfl
  rw [hrange, decide_eq_true_eq, ge_iff_le, UInt32.le_iff_toNat_le, UInt32.le_iff_toNat_le]
  rfl

theorem lowerChar_capital {c : Char} (h : c.isUpper = true) :
    ∀ d ∈ lowerChar c, d.isUpper = false := by
  have hall : ((List.range 26).all fun n =>
      (lowerChar (Char.ofNat (65 + n))).all fun d => !d.isUpper) = true := by
    decide
  have hrange := isUpper_iff.1 h
  have hcode : 65 + (c.toNat - 65) = c.toNat := by omega
  have hc := List.all_eq_true.1 hall (c.toNat - 65) (List.mem_range.2 (by omega))
  rw [hcode, Char.ofNat_toNat, List.all_eq_true] at hc
  intro d hd
  simpa using hc d hd

/-- A text in lower case has no capital of ASCII. -/
theorem isUpper_of_mem_lower {text : String} {d : Char} (h : d ∈ (lower text).toList) :
    d.isUpper = false := by
  rw [lower, String.toList_ofList] at h
  rcases mem_lowerAfter h with rfl | rfl | ⟨c, -, hmem⟩
  · decide
  · decide
  · by_cases hc : c.isUpper = true
    · exact lowerChar_capital hc d hmem
    · rcases mem_caseImage imagesAbove_lower hmem with rfl | habove | rfl
      · simpa using hc
      · rw [Bool.eq_false_iff, ne_eq, isUpper_iff]
        omega
      · decide

/-! ## Punctuation -/

/-- The brackets, quotes and marks of comments and directives, and the line feed. -/
def punctuation : List Char :=
  ['(', ')', '[', ']', '\x7b', '\x7d', '/', '*', '"', '\x27', '\\', '#', '\n']

theorem imagesLettered_upper : ImagesLettered upperRuns upperExpansions = true := by decide

theorem imagesLettered_lower : ImagesLettered lowerRuns lowerExpansions = true := by decide

/-- Punctuation is in no image but its own. -/
theorem eq_of_mem_caseImage {runs : List CaseRun} {expansions : List (Nat × List Nat)}
    (h : ImagesLettered runs expansions = true) {c d : Char} (hd : d ∈ punctuation)
    (hmem : d ∈ caseImage runs expansions c) : d = c := by
  have hcodes : punctuation.all (fun d => Nat.blt 0 d.toNat && Nat.blt d.toNat 128 &&
      !(Nat.ble 65 d.toNat && Nat.ble d.toNat 90) &&
      !(Nat.ble 97 d.toNat && Nat.ble d.toNat 122)) = true := by decide
  have hcode := List.all_eq_true.1 hcodes d hd
  simp only [Bool.and_eq_true, Bool.not_eq_true', Nat.blt_eq,
    Nat.ble_eq, ← Bool.not_eq_true] at hcode
  rcases letter_of_mem_caseImage h hmem with heq | hletter | rfl
  · exact heq
  · omega
  · exact absurd hcode.1.1.1 (by decide)

/-- Upper-casing yields no punctuation that the text did not have. -/
theorem punctuation_of_mem_upper {d : Char} (hd : d ∈ punctuation) {text : String}
    (h : d ∈ (upper text).toList) : d ∈ text.toList := by
  rw [upper, String.toList_ofList] at h
  obtain ⟨c, hc, hmem⟩ := List.mem_flatMap.1 h
  exact eq_of_mem_caseImage imagesLettered_upper hd hmem ▸ hc

/-- Lower-casing yields no punctuation that the text did not have. -/
theorem punctuation_of_mem_lower {d : Char} (hd : d ∈ punctuation) {text : String}
    (h : d ∈ (lower text).toList) : d ∈ text.toList := by
  rw [lower, String.toList_ofList] at h
  rcases mem_lowerAfter h with rfl | rfl | ⟨c, hc, hmem⟩
  · exact absurd hd (by decide)
  · exact absurd hd (by decide)
  · exact eq_of_mem_caseImage imagesLettered_lower hd hmem ▸ hc

/-! ## ASCII -/

/-- What holds for each code of ASCII holds for each character of ASCII. -/
theorem forall_ascii {p : Char → Prop} (h : ∀ n < 128, p (Char.ofNat n)) {c : Char}
    (hc : c.toNat < 128) : p c := by
  have hcode := h c.toNat hc
  rwa [Char.ofNat_toNat] at hcode

/-- Below a bound only the first run of a table counts, if the others and the expansions begin at
    the bound. -/
theorem caseImage_of_lt {bound : Nat} {first : CaseRun} {rest : List CaseRun}
    {expansions : List (Nat × List Nat)} (hrest : rest.all (bound ≤ ·.first) = true)
    (hexpansions : expansions.all (bound ≤ ·.1) = true) {c : Char} (hc : c.toNat < bound) :
    caseImage (first :: rest) expansions c = caseImage [first] [] c := by
  simp only [List.all_eq_true, decide_eq_true_eq] at hrest hexpansions
  have hlookup : expansions.lookup c.toNat = none := by
    rw [List.lookup_eq_none_iff]
    intro expansion hmem
    have hbound := hexpansions expansion hmem
    exact bne_iff_ne.2 (by omega)
  have hruns : rest.findSome? (·.image? c.toNat) = none := by
    rw [List.findSome?_eq_none_iff]
    intro run hmem
    have hbound := hrest run hmem
    exact if_neg (by omega)
  rw [caseImage, hlookup, caseImage, List.lookup_nil, List.findSome?_cons, List.findSome?_cons, hruns]
  rfl

theorem upperChar_ascii {c : Char} (h : c.toNat < 128) : upperChar c = [c.toUpper] := by
  rw [upperChar, upperRuns, caseImage_of_lt (by decide) (by decide) h]
  exact forall_ascii (p := fun c => caseImage _ [] c = [c.toUpper]) (by decide +kernel) h

theorem lowerChar_ascii {c : Char} (h : c.toNat < 128) : lowerChar c = [c.toLower] := by
  rw [lowerChar, lowerRuns, caseImage_of_lt (by decide) (by decide) h]
  exact forall_ascii (p := fun c => caseImage _ [] c = [c.toLower]) (by decide +kernel) h

theorem upper_ascii {text : String} (h : ∀ c ∈ text.toList, c.toNat < 128) :
    upper text = String.ofList (text.toList.map Char.toUpper) := by
  rw [upper, upperChars]
  generalize text.toList = chars at h
  congr 1
  induction chars with
  | nil => rfl
  | cons c chars ih =>
    rw [List.forall_mem_cons] at h
    rw [List.flatMap_cons, upperChar_ascii h.1, ih h.2, List.map_cons]
    rfl

theorem lower_ascii {text : String} (h : ∀ c ∈ text.toList, c.toNat < 128) :
    lower text = String.ofList (text.toList.map Char.toLower) := by
  have hafter : ∀ (before chars : List Char), (∀ c ∈ chars, c.toNat < 128) →
      lowerAfter before chars = chars.map Char.toLower := by
    intro before chars hchars
    induction chars generalizing before with
    | nil => rfl
    | cons c chars ih =>
      rw [List.forall_mem_cons] at hchars
      have hsigma : c ≠ 'Σ' := by
        rintro rfl
        exact absurd hchars.1 (by decide)
      rw [lowerAfter, if_neg hsigma, lowerChar_ascii hchars.1, ih _ hchars.2, List.map_cons]
      rfl
  rw [lower, lowerChars, hafter [] text.toList h]

end FirmwareGen.Text
