-- SUMMARY: Case mapping leaves its own images as they are and makes no text blank.
import FirmwareGen.Proofs.Text.CaseMap
/-!
# Settled characters

A character is settled if case mapping leaves it as it is. The images in the case tables lie clear of
the characters that the tables have images for, so a text in one case is settled. They lie clear of
white space, too.
-/

namespace FirmwareGen.Text

/-! ## Runs -/

/-- The codes that a run has images for. -/
def CaseRun.Has (run : CaseRun) (n : Nat) : Prop :=
  run.first ≤ n ∧ n ≤ run.last ∧ (n - run.first) % run.stride = 0

/-- Whether the codes of a run are all even or all odd. -/
def CaseRun.alternates (run : CaseRun) : Bool := run.stride == 2 || run.first == run.last

/-- Whether the images of a run are no codes of another: they lie apart, or one has even and the other
    odd codes. -/
def CaseRun.clearOf (run other : CaseRun) : Bool :=
  Nat.blt (run.image + (run.last - run.first)) other.first || Nat.blt other.last run.image ||
    (run.alternates && other.alternates && (run.image + other.first) % 2 == 1)

/-- The run of one code that is its own image. -/
def CaseRun.single (n : Nat) : CaseRun := ⟨n, n, 1, n⟩

theorem CaseRun.image?_eq_none_iff {run : CaseRun} {n : Nat} :
    run.image? n = none ↔ ¬ run.Has n := by
  rw [image?, Has]
  split <;> simp_all

theorem CaseRun.even_of_alternates {run : CaseRun} (h : run.alternates = true) {n : Nat}
    (hn : run.Has n) : (n - run.first) % 2 = 0 := by
  obtain ⟨hfirst, hlast, hstride⟩ := hn
  rcases Bool.or_eq_true_iff.1 h with htwo | hone
  · rwa [eq_of_beq htwo] at hstride
  · have hcode := eq_of_beq hone
    omega

theorem CaseRun.not_has_of_clearOf {run other : CaseRun} (h : run.clearOf other = true) {n m : Nat}
    (himage : run.image? n = some m) : ¬ other.Has m := by
  intro hother
  obtain ⟨hfirst, hlast, hstride, rfl⟩ := image?_eq_some_iff.1 himage
  simp only [clearOf, Bool.or_eq_true, Bool.and_eq_true, Nat.blt_eq, beq_iff_eq] at h
  rcases h with (hbelow | habove) | ⟨⟨hrun, halternates⟩, hodd⟩
  · have hcode := hother.1
    omega
  · have hcode := hother.2.1
    omega
  · have hfrom := even_of_alternates hrun ⟨hfirst, hlast, hstride⟩
    have hto := even_of_alternates halternates hother
    have hcode := hother.1
    omega

/-! ## Tables -/

/-- Whether no image of the tables is one of some codes. -/
def ImagesClear (codes runs : List CaseRun) (expansions : List (Nat × List Nat)) : Bool :=
  (runs.all fun run => codes.all run.clearOf) &&
    expansions.all fun expansion => expansion.2.all fun n => codes.all (CaseRun.single n).clearOf

/-- The codes that the tables have images for. -/
def sources (runs : List CaseRun) (expansions : List (Nat × List Nat)) : List CaseRun :=
  runs ++ expansions.map fun expansion => .single expansion.1

variable {codes runs : List CaseRun} {expansions : List (Nat × List Nat)} {c d : Char}

theorem mem_caseImage_clear (h : ImagesClear codes runs expansions = true)
    (hd : d ∈ caseImage runs expansions c) :
    (caseImage runs expansions c = [c] ∧ d = c) ∨ (∀ code ∈ codes, ¬ code.Has d.toNat) ∨
      d = '\x00' := by
  simp only [ImagesClear, Bool.and_eq_true, List.all_eq_true] at h
  obtain ⟨hruns, hexpansions⟩ := h
  rcases mem_caseImage_cases hd with hself | ⟨n, rfl, himage⟩
  · exact .inl hself
  · have hclear : ∀ code ∈ codes, ¬ code.Has n := by
      intro code hcode
      rcases himage with ⟨run, hrun, himage⟩ | ⟨expansion, hmem, hn⟩
      · exact CaseRun.not_has_of_clearOf (hruns run hrun code hcode) himage
      · have hsingle : (CaseRun.single n).image? n = some n := by
          simp [CaseRun.image?, CaseRun.single]
        exact CaseRun.not_has_of_clearOf (hexpansions expansion hmem n hn code hcode) hsingle
    rcases toNat_ofNat n with hcode | hzero
    · exact .inr (.inl (by rwa [hcode]))
    · exact .inr (.inr hzero)

theorem caseImage_of_not_has (h : ∀ source ∈ sources runs expansions, ¬ source.Has c.toNat) :
    caseImage runs expansions c = [c] := by
  simp only [sources, List.forall_mem_append, List.forall_mem_map] at h
  have hlookup : expansions.lookup c.toNat = none := by
    rw [List.lookup_eq_none_iff]
    intro expansion hmem
    refine bne_iff_ne.2 fun heq => h.2 expansion hmem ?_
    exact ⟨Nat.le_of_eq heq.symm, Nat.le_of_eq heq, Nat.mod_one _⟩
  have hruns : runs.findSome? (·.image? c.toNat) = none := by
    rw [List.findSome?_eq_none_iff]
    exact fun run hrun => CaseRun.image?_eq_none_iff.2 (h.1 run hrun)
  rw [caseImage, hlookup, hruns]

/-- If the images are clear of what has images, the images are settled. -/
theorem caseImage_of_mem (h : ImagesClear (sources runs expansions) runs expansions = true)
    (hzero : caseImage runs expansions '\x00' = ['\x00']) (hd : d ∈ caseImage runs expansions c) :
    caseImage runs expansions d = [d] := by
  rcases mem_caseImage_clear h hd with ⟨hself, rfl⟩ | hclear | rfl
  · exact hself
  · exact caseImage_of_not_has hclear
  · exact hzero

/-! ## Lower case -/

theorem imagesClear_lower :
    ImagesClear (sources lowerRuns lowerExpansions) lowerRuns lowerExpansions = true := by
  decide +kernel

theorem lowerChar_of_mem (hd : d ∈ lowerChar c) : lowerChar d = [d] :=
  caseImage_of_mem imagesClear_lower (lowerChar_ascii (by decide)) hd

/-- A text in lower case is settled. -/
theorem lowerChar_of_mem_lower {text : String} (h : d ∈ (lower text).toList) : lowerChar d = [d] := by
  rw [lower, String.toList_ofList] at h
  rcases mem_lowerAfter h with rfl | rfl | ⟨c, -, hmem⟩
  · decide +kernel
  · decide +kernel
  · exact lowerChar_of_mem hmem

theorem lowerAfter_of_settled {before text : List Char} (h : ∀ c ∈ text, lowerChar c = [c]) :
    lowerAfter before text = text := by
  have hsigma : lowerChar 'Σ' ≠ ['Σ'] := by decide +kernel
  induction text generalizing before with
  | nil => rfl
  | cons c text ih =>
    rw [List.forall_mem_cons] at h
    have hc : c ≠ 'Σ' := by
      rintro rfl
      exact hsigma h.1
    rw [lowerAfter, if_neg hc, h.1, ih h.2, List.singleton_append]

theorem lower_of_settled {text : String} (h : ∀ c ∈ text.toList, lowerChar c = [c]) :
    lower text = text := by
  rw [lower, lowerChars, lowerAfter_of_settled h, String.ofList_toList]

/-! ## Upper case -/

theorem imagesClear_upper :
    ImagesClear (sources upperRuns upperExpansions) upperRuns upperExpansions = true := by
  decide +kernel

theorem upperChar_of_mem (hd : d ∈ upperChar c) : upperChar d = [d] :=
  caseImage_of_mem imagesClear_upper (upperChar_ascii (by decide)) hd

/-- A text in upper case is settled. -/
theorem upperChar_of_mem_upper {text : String} (h : d ∈ (upper text).toList) : upperChar d = [d] := by
  rw [upper, String.toList_ofList] at h
  obtain ⟨c, -, hmem⟩ := List.mem_flatMap.1 h
  exact upperChar_of_mem hmem

theorem upper_of_settled {text : String} (h : ∀ c ∈ text.toList, upperChar c = [c]) :
    upper text = text := by
  have hchars : ∀ {chars : List Char}, (∀ c ∈ chars, upperChar c = [c]) → upperChars chars = chars := by
    intro chars hchars
    rw [upperChars]
    induction chars with
    | nil => rfl
    | cons c chars ih =>
      rw [List.forall_mem_cons] at hchars
      rw [List.flatMap_cons, hchars.1, ih hchars.2, List.singleton_append]
  rw [upper, hchars h, String.ofList_toList]

/-! ## White space -/

theorem imagesClear_blank : ImagesClear (blankRanges.map fun range => ⟨range.1, range.2, 1, range.1⟩)
    upperRuns upperExpansions = true := by
  decide +kernel

/-- White space is in no image but its own. -/
theorem eq_of_isBlankChar_of_mem_upperChar (hd : d ∈ upperChar c) (hblank : isBlankChar d = true) :
    d = c := by
  rcases mem_caseImage_clear imagesClear_blank hd with ⟨-, heq⟩ | hclear | rfl
  · exact heq
  · simp only [List.forall_mem_map] at hclear
    obtain ⟨range, hrange, hcode⟩ := List.any_eq_true.1 hblank
    simp only [Bool.and_eq_true, decide_eq_true_eq] at hcode
    exact absurd ⟨hcode.1, hcode.2, Nat.mod_one _⟩ (hclear range hrange)
  · exact absurd hblank (by decide)

/-- A character other than white space has an image of such characters. -/
theorem exists_mem_upper {text : String} (hc : c ∈ text.toList) (hblank : isBlankChar c = false) :
    ∃ d ∈ (upper text).toList, isBlankChar d = false := by
  have himage : upperChar c ≠ [] := caseImage_ne_nil (by decide) c
  obtain ⟨d, hd⟩ := List.exists_mem_of_ne_nil _ himage
  refine ⟨d, ?_, ?_⟩
  · rw [upper, String.toList_ofList]
    exact List.mem_flatMap.2 ⟨c, hc, hd⟩
  · by_contra hkept
    rw [Bool.not_eq_false] at hkept
    rw [eq_of_isBlankChar_of_mem_upperChar hd hkept, hblank] at hkept
    cases hkept

end FirmwareGen.Text
