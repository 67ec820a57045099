-- SUMMARY: What a header declares for its source.
import FirmwareGen.Proofs.C.Enumerations
import FirmwareGen.Proofs.Modulators.Macros
/-!
# Declarations of generated headers

The enumeration of the phases, the macros, the constants for the modes and the types of the
configuration objects, as they are found in the lines of a header.
-/

namespace FirmwareGen.Modulators

open C Text

section Header

variable {base stamp : String} {plans : List DriverPlan}

/-! ## The enumeration of the phases -/

/-- A header has no other enumeration over several lines. -/
theorem enumerations_header :
    enumerations (Listing.lines layout (header base stamp plans)) =
      if phaseEnumerators plans = [] then []
      else [enumerationBlock (phaseEnumerators plans) "modulator_phase_t"] := by
  have hmode : ∀ plan : DriverPlan, plan.modeEnum.filterMap Item.enumeration? = [] := fun _ => rfl
  have hlimits : ∀ plan : DriverPlan, plan.dutyLimits.filterMap Item.enumeration? = [] :=
    fun _ => rfl
  have hphase : ∀ plan : DriverPlan, plan.phaseStruct.filterMap Item.enumeration? = [] :=
    fun _ => rfl
  have hconfig : ∀ plan : DriverPlan, plan.configStruct.filterMap Item.enumeration? = [] :=
    fun _ => rfl
  have hadc : ∀ plan : DriverPlan, plan.adcDefinitions.filterMap Item.enumeration? = [] := by
    intro plan
    have hmacros : ∀ phase, (plan.adcMacros phase).filterMap Item.enumeration? = [] := fun _ => rfl
    have hcomment : ∀ text listing, List.filterMap Item.enumeration? (.comment text :: listing) =
        listing.filterMap Item.enumeration? := fun _ _ => rfl
    rw [DriverPlan.adcDefinitions, List.cons_append, hcomment, List.filterMap_append,
      List.filterMap_flatMap]
    simp only [hmacros, flatMap_none, List.nil_append]
    rfl
  have hprototypes : ∀ plan : DriverPlan, plan.prototypes.filterMap Item.enumeration? = [] := by
    intro plan
    rw [List.filterMap_eq_nil_iff]
    intro item hitem
    simp only [DriverPlan.prototypes, List.mem_append, List.mem_cons, List.mem_map, List.not_mem_nil,
      or_false] at hitem
    rcases hitem with ((rfl | ⟨signature, -, rfl⟩) | rfl | ⟨phase, -, rfl⟩) | rfl <;> rfl
  have hphases : (phaseEnum plans).filterMap Item.enumeration? =
      if phaseEnumerators plans = [] then []
      else [enumerationBlock (phaseEnumerators plans) "modulator_phase_t"] := by
    unfold phaseEnum
    split
    · next hnone => rw [if_pos hnone]; rfl
    · next hsome => rw [if_neg hsome]; rfl
  rw [enumerations_lines]
  simp only [header, headerSections, banner, List.filterMap_append, List.filterMap_flatMap, hmode,
    hlimits, hphase, hconfig, hadc, hprototypes, hphases, flatMap_none, List.append_nil]
  simp [List.filterMap_cons, Item.enumeration?]

theorem declaredEnumerators_header :
    declaredEnumerators (Listing.lines layout (header base stamp plans)) = phaseEnumerators plans := by
  rw [declaredEnumerators, enumerations_header]
  split
  · next hnone => rw [hnone]; rfl
  · rw [List.flatMap_singleton, enumerators_block]

/-! ## Single lines and structures -/

/-- The parts of a header that define what the source uses. -/
def headerParts : List (DriverPlan → List Item) :=
  [DriverPlan.modeEnum, DriverPlan.dutyLimits, DriverPlan.adcDefinitions, DriverPlan.configStruct]

theorem mem_header {plan : DriverPlan} (hplan : plan ∈ plans) {part : DriverPlan → List Item}
    (hpart : part ∈ headerParts) {item : Item} (hitem : item ∈ part plan) :
    item ∈ header base stamp plans := by
  have hflat : item ∈ plans.flatMap part := List.mem_flatMap.2 ⟨plan, hplan, hitem⟩
  simp only [headerParts, List.mem_cons, List.not_mem_nil, or_false] at hpart
  simp only [header, headerSections, List.mem_append]
  rcases hpart with rfl | rfl | rfl | rfl <;> simp [hflat]

theorem line_mem_header {plan : DriverPlan} (hplan : plan ∈ plans) {part : DriverPlan → List Item}
    (hpart : part ∈ headerParts) {item : Item} (hitem : item ∈ part plan) {line : String}
    (hline : line ∈ item.lines layout) :
    line ∈ Listing.lines layout (header base stamp plans) :=
  List.mem_flatMap.2 ⟨item, mem_header hplan hpart hitem, hline⟩

/-- The limits of the duty cycle are macros for constants. -/
theorem limits_header {plan : DriverPlan} (hplan : plan ∈ plans) :
    "#define " ++ plan.maxDutyMacro ++ " " ++ maxDuty ∈
        Listing.lines layout (header base stamp plans) ∧
      "#define " ++ plan.minDutyMacro ++ " " ++ minDuty ∈
        Listing.lines layout (header base stamp plans) := by
  have hpart : DriverPlan.dutyLimits ∈ headerParts := by simp [headerParts]
  have hmax : Item.constant plan.maxDutyMacro 1 (.literal maxDuty) ∈ plan.dutyLimits := by
    simp [DriverPlan.dutyLimits]
  have hmin : Item.constant plan.minDutyMacro 1 (.literal minDuty) ∈ plan.dutyLimits := by
    simp [DriverPlan.dutyLimits]
  constructor
  · refine line_mem_header hplan hpart hmax ?_
    rw [lines_limit]
    exact List.mem_singleton_self _
  · refine line_mem_header hplan hpart hmin ?_
    rw [lines_limit]
    exact List.mem_singleton_self _

/-- The current of an active phase is read by a macro. -/
theorem current_header {plan : DriverPlan} (hplan : plan ∈ plans) {phase : PhasePlan}
    (hphase : phase ∈ plan.phases) :
    "#define " ++ plan.currentMacro phase ++ " (" ++ plan.results ++ ".ADC_res[0])" ∈
      Listing.lines layout (header base stamp plans) := by
  have hpart : DriverPlan.adcDefinitions ∈ headerParts := by simp [headerParts]
  have hread : Item.constant (plan.currentMacro phase) 1
      (.group (.index (plan.phaseSetting "ADC_res") 0)) ∈ plan.phases.flatMap plan.adcMacros :=
    List.mem_flatMap.2 ⟨phase, hphase, List.mem_cons_self⟩
  have hadc : Item.constant (plan.currentMacro phase) 1
      (.group (.index (plan.phaseSetting "ADC_res") 0)) ∈ plan.adcDefinitions :=
    List.mem_append_left _ (List.mem_cons_of_mem _ hread)
  refine line_mem_header hplan hpart hadc ?_
  rw [(lines_conversion plan (plan.currentMacro phase)).1, List.mem_singleton]
  simp only [String.append_assoc]

/-- The constants for the modes of a driver stand on one line. -/
theorem modes_header {plan : DriverPlan} (hplan : plan ∈ plans) :
    "typedef enum \x7b" ++ plan.symbol ++ "_disabled, " ++ plan.openLoop ++ ", " ++ plan.symbol ++
        "_currentControl\x7d " ++ plan.symbol ++ "_mode_t;" ∈
      Listing.lines layout (header base stamp plans) := by
  have hpart : DriverPlan.modeEnum ∈ headerParts := by simp [headerParts]
  refine line_mem_header hplan hpart (List.mem_singleton_self _) ?_
  rw [Item.lines, String.intercalate_cons_cons, String.intercalate_cons_cons,
    String.intercalate_singleton, List.mem_singleton]
  simp [DriverPlan.modeType, ← String.toList_inj]

/-- The type of a configuration object is a structure. -/
theorem configType_header {plan : DriverPlan} (hplan : plan ∈ plans) :
    ∃ body, { head := "typedef struct " ++ plan.configType, body,
              tail := "\x7d " ++ plan.configType ++ ";" } ∈
      blocks (Listing.lines layout (header base stamp plans)) := by
  have hpart : DriverPlan.configStruct ∈ headerParts := by simp [headerParts]
  obtain ⟨members, hstruct⟩ : ∃ members,
      Item.structType plan.configType members ∈ plan.configStruct :=
    ⟨_, List.mem_cons_of_mem _ List.mem_cons_self⟩
  rw [blocks_lines]
  exact ⟨_, List.mem_filterMap.2 ⟨_, mem_header hplan hpart hstruct, rfl⟩⟩

end Header

end FirmwareGen.Modulators
