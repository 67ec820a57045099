-- SUMMARY: What a naming scheme removes from PWM resources, and where.
import FirmwareGen.Naming.Scheme
import FirmwareGen.Proofs.Text.Removal
import Mathlib.Data.Set.Function
/-!
# Tags and short names of phases

The tag of a phase is its PWM resource without the marker, and the short name is the tag without the
fragments. Both are determined by leftmost occurrences, so that neither overlaps nor occurrences that
form only by a removal leave a choice.
-/

namespace FirmwareGen

open Text

/-! ## Fragments -/

/-- What is left of a text without some patterns, removed one after the other. -/
inductive Text.RemovedAll : List String → String → String → Prop
  | nil (text : String) : RemovedAll [] text text
  | cons {pattern text rest last : String} {patterns : List String}
      (removed : Removed pattern text rest) (removedAll : RemovedAll patterns rest last) :
      RemovedAll (pattern :: patterns) text last

theorem Text.removedAll_iff {patterns : List String} (hpatterns : ∀ pattern ∈ patterns, pattern ≠ "")
    {text last : String} :
    RemovedAll patterns text last ↔
      last = patterns.foldl (fun text pattern => remove pattern text) text := by
  induction patterns generalizing text with
  | nil =>
    constructor
    · rintro ⟨⟩
      rfl
    · rintro rfl
      exact .nil _
  | cons pattern patterns ih =>
    rw [List.forall_mem_cons] at hpatterns
    rw [List.foldl_cons, ← ih hpatterns.2]
    constructor
    · rintro (_ | ⟨removed, removedAll⟩)
      rwa [(removed_iff hpatterns.1).1 removed] at removedAll
    · exact .cons (removed_remove hpatterns.1 text)

namespace NamingScheme

variable (scheme : NamingScheme)

/-- Empty fragments remove nothing. -/
theorem phaseName_eq (pwm : String) :
    scheme.phaseName pwm =
      (scheme.phaseFragments.filter (· ≠ "")).foldl (fun text pattern => remove pattern text)
        (scheme.phaseTag pwm) := by
  rw [phaseName]
  generalize scheme.phaseTag pwm = tag
  induction scheme.phaseFragments generalizing tag with
  | nil => rfl
  | cons fragment fragments ih =>
    by_cases hempty : fragment = ""
    · rw [List.foldl_cons, hempty, remove_empty, List.filter_cons_of_neg (by simp), ih]
    · rw [List.foldl_cons, List.filter_cons_of_pos (by simpa using hempty), List.foldl_cons, ih]

/-! ## Tags -/

variable {scheme} {pwm : String}

theorem phaseTag_of_marker_eq (hmarker : scheme.pwmMarker = "") : scheme.phaseTag pwm = pwm := by
  rw [phaseTag, hmarker, remove_empty]

/-- A tag lacks the characters of the marker as often as the marker was removed. -/
theorem length_phaseTag (hmarker : scheme.pwmMarker ≠ "")
    (hoccurs : scheme.pwmMarker.toList <:+: pwm.toList) :
    ∃ count, 0 < count ∧
      pwm.length = (scheme.phaseTag pwm).length + count * scheme.pwmMarker.length ∧
      pwm.utf8ByteSize = (scheme.phaseTag pwm).utf8ByteSize +
        count * scheme.pwmMarker.utf8ByteSize := by
  obtain ⟨count, hcount, hsize⟩ := exists_size_eq hmarker hoccurs
  exact ⟨count, hcount, hsize _ String.length_append,
    hsize _ fun _ _ => String.utf8ByteSize_append⟩

theorem phaseTag_eq_self_iff :
    scheme.phaseTag pwm = pwm ↔
      scheme.pwmMarker = "" ∨ ¬ scheme.pwmMarker.toList <:+: pwm.toList := by
  constructor
  · intro hself
    by_contra! hmarked
    obtain ⟨count, hcount, hlength, -⟩ := length_phaseTag hmarked.1 hmarked.2
    have hmarker : 0 < scheme.pwmMarker.length := by
      rw [Nat.pos_iff_ne_zero, ne_eq, String.length_eq_zero_iff]
      exact hmarked.1
    have hremoved := Nat.mul_pos hcount hmarker
    rw [hself] at hlength
    omega
  · rintro (hmarker | habsent)
    · exact phaseTag_of_marker_eq hmarker
    · exact remove_of_absent habsent

/-- What a scheme makes of PWM resources. -/
structure Shortens (scheme : NamingScheme) : Prop where
  /-- A resource divides at the marker in one way, and the parts make up its tag. -/
  divided : scheme.pwmMarker ≠ "" → ∀ pwm : String, ∃ parts,
    (∀ others, Divided scheme.pwmMarker.toList pwm.toList others ↔ others = parts) ∧
      pwm.toList = scheme.pwmMarker.toList.intercalate parts ∧
      (scheme.phaseTag pwm).toList = parts.flatten
  kept : ∀ pwm : String, scheme.phaseTag pwm = pwm ↔
    scheme.pwmMarker = "" ∨ ¬ scheme.pwmMarker.toList <:+: pwm.toList
  /-- Any other tag is shorter, in characters and in bytes, by so many markers. -/
  shorter : ∀ pwm : String, scheme.phaseTag pwm ≠ pwm → ∃ count, 0 < count ∧
    pwm.length = (scheme.phaseTag pwm).length + count * scheme.pwmMarker.length ∧
    pwm.utf8ByteSize = (scheme.phaseTag pwm).utf8ByteSize +
      count * scheme.pwmMarker.utf8ByteSize
  fragments : ∀ pwm name : String,
    RemovedAll (scheme.phaseFragments.filter (· ≠ "")) (scheme.phaseTag pwm) name ↔
      name = scheme.phaseName pwm
  marked : ∀ text : String, ¬ scheme.pwmMarker.toList <:+: text.toList →
    scheme.phaseTag (scheme.pwmMarker ++ text) = text
  injective : Set.InjOn scheme.phaseTag {pwm | ∃ text : String,
    ¬ scheme.pwmMarker.toList <:+: text.toList ∧ pwm = scheme.pwmMarker ++ text}

/-- The marker and then the fragments are removed in one pass each, from left to right, and nothing
    else is. -/
theorem shortens_scheme (scheme : NamingScheme) : Shortens scheme where
  divided hmarker pwm := by
    obtain ⟨parts, hdivided, htag⟩ := removed_remove hmarker pwm
    refine ⟨parts, fun others => ⟨fun hothers => hothers.unique hdivided, ?_⟩, hdivided.spelled, htag⟩
    rintro rfl
    exact hdivided
  kept _ := phaseTag_eq_self_iff
  shorter pwm hother := by
    rw [ne_eq, phaseTag_eq_self_iff, not_or, not_not] at hother
    exact length_phaseTag hother.1 hother.2
  fragments pwm name := by
    rw [phaseName_eq, removedAll_iff]
    intro pattern hpattern
    simpa using (List.mem_filter.1 hpattern).2
  marked _ := remove_append
  injective := by
    rintro _ ⟨text, htext, rfl⟩ _ ⟨other, hother, rfl⟩ htag
    rw [phaseTag, phaseTag, remove_append htext, remove_append hother] at htag
    rw [htag]

end NamingScheme

end FirmwareGen
