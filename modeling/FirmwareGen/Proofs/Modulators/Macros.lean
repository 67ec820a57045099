-- SUMMARY: The macros of a header that read conversion results, read back from its lines.
import FirmwareGen.Proofs.C.Heads
import FirmwareGen.Proofs.Modulators.Lines
import Mathlib.Data.List.Basic
/-!
# Macros of generated headers

Of the macros of a header, those that read a conversion result are told by their last characters.
-/

namespace FirmwareGen.Modulators

open C Text

namespace DriverPlan

/-- Prototypes are lines of C or stand behind the line with the attributes. -/
theorem heads_prototypes (plan : DriverPlan) {c : Char} (h : c ∉ ['/', 'v', '_']) :
    ∀ item ∈ plan.prototypes, c ∉ item.heads := by
  simp only [List.mem_cons, List.not_mem_nil, or_false, not_or] at h
  intro item hitem
  simp only [prototypes, List.mem_append, List.mem_cons, List.mem_map, List.not_mem_nil,
    or_false] at hitem
  rcases hitem with ((rfl | ⟨signature, hsignature, rfl⟩) | rfl | ⟨phase, -, rfl⟩) | rfl
  · simp [Item.heads, h.1]
  · simp only [offeredSignatures, setDutySignature, List.mem_cons, List.not_mem_nil, or_false]
      at hsignature
    rcases hsignature with rfl | rfl | rfl | rfl | rfl | rfl | rfl | rfl | rfl | rfl <;>
      simp [DriverPlan.signature, Item.heads, Signature.heads, h.2.1]
  · simp [Item.heads]
  · simp [controllerSignature, Item.heads, Signature.heads, h.2.1, h.2.2]
  · simp [Item.heads]

end DriverPlan

section Macros

variable {base stamp : String} {plans : List DriverPlan} {back : String}

theorem define_of_head (line : String) (h : line.toList.head? ≠ some '#') :
    between? "#define " back line = none :=
  between?_of_head (by simp) back line h

/-- Directives other than macros with values are not read. -/
theorem scan_guards (hback : endsWith back "_H" = false) (hback' : endsWith "_H" back = false)
    (guard : String) :
    scan layout (between? "#define " back)
        [.unlessDefined (guard ++ "_H"), .marker (guard ++ "_H"), .blank,
         .systemInclude "stdint.h", .systemInclude "stdbool.h", .blank] = [] ∧
      scan layout (between? "#define " back) [.blank, .endGuard (guard ++ "_H")] = [] := by
  have hblank : between? "#define " back "" = none := define_of_head "" (by simp)
  have hifndef : between? "#define " back ("#ifndef " ++ (guard ++ "_H")) = none :=
    between?_ofList_append rfl rfl _ _
  have hmarker : between? "#define " back ("#define " ++ (guard ++ "_H")) = none := by
    rw [← String.append_assoc]
    exact between?_of_endsWith (endsWith_append_eq_false hback hback' _)
  have hinclude : ∀ file, between? "#define " back ("#include <" ++ file ++ ">") = none := by
    intro file
    rw [String.append_assoc]
    exact between?_ofList_append rfl rfl _ _
  have hendif : between? "#define " back ("#endif /* " ++ (guard ++ "_H") ++ " */") = none := by
    rw [String.append_assoc]
    exact between?_ofList_append rfl rfl _ _
  constructor
  · simp only [scan, Item.lines, List.flatMap_cons, List.flatMap_nil, List.filterMap_cons,
      List.filterMap_nil, hblank, hifndef, hmarker, hinclude, List.append_nil]
  · simp only [scan, Item.lines, layout, if_true, List.flatMap_cons, List.flatMap_nil,
      List.filterMap_cons, List.filterMap_nil, hblank, hendif, List.append_nil]

/-- The macros of a header with a value are the limits and those that read conversion results. -/
theorem scan_header (hback : endsWith back "_H" = false) (hback' : endsWith "_H" back = false) :
    scan layout (between? "#define " back) (header base stamp plans) =
      (plans.flatMap fun plan => scan layout (between? "#define " back) plan.dutyLimits) ++
      plans.flatMap fun plan => scan layout (between? "#define " back) plan.adcDefinitions := by
  have hnil : ∀ {listing : Listing}, (∀ item ∈ listing, '#' ∉ item.heads) →
      scan layout (between? "#define " back) listing = [] :=
    fun h => scan_eq_nil define_of_head h
  have hbanner : scan layout (between? "#define " back) (banner base "Header" stamp) = [] :=
    hnil (by simp [banner, Item.heads])
  have htitle : scan layout (between? "#define " back)
      [.comment "Modulator Configuration Enums and Defines", .blank] = [] :=
    hnil (by simp [Item.heads])
  have hblank : scan layout (between? "#define " back) [.blank] = [] := hnil (by simp [Item.heads])
  have hmode : ∀ plan : DriverPlan, scan layout (between? "#define " back) plan.modeEnum = [] :=
    fun plan => hnil (by simp [DriverPlan.modeEnum, Item.heads])
  have hphases : scan layout (between? "#define " back) (phaseEnum plans) = [] := by
    refine hnil ?_
    unfold phaseEnum
    split <;> simp [Item.heads]
  have hstruct : ∀ plan : DriverPlan, scan layout (between? "#define " back) plan.phaseStruct = [] :=
    fun plan => hnil (by simp [DriverPlan.phaseStruct, Item.heads])
  have hconfig : ∀ plan : DriverPlan, scan layout (between? "#define " back) plan.configStruct = [] :=
    fun plan => hnil (by simp [DriverPlan.configStruct, Item.heads])
  have hprototypes : ∀ plan : DriverPlan, scan layout (between? "#define " back) plan.prototypes = [] :=
    fun plan => hnil (plan.heads_prototypes (by decide))
  obtain ⟨hopen, hclose⟩ := scan_guards hback hback' (upper base)
  simp only [header, headerSections, Naming.includeGuard, scan_append, scan_flatMap, hopen, hclose,
    hbanner, htitle, hblank, hmode, hphases, hstruct, hconfig, hprototypes, flatMap_none,
    List.append_nil, List.nil_append]

/-- Where a driver keeps the conversion results of its phases. -/
def DriverPlan.results (plan : DriverPlan) : String := plan.stem ++ "_config." ++ plan.stem

/-- The macro for one of the two conversion results of a phase. -/
theorem lines_conversion (plan : DriverPlan) (macroName : String) :
    (Item.constant macroName 1 (.group (.index (plan.phaseSetting "ADC_res") 0))).lines layout =
        ["#define " ++ (macroName ++ " (" ++ plan.results) ++ ".ADC_res[0])"] ∧
      (Item.constant macroName 1 (.group (.index (plan.phaseSetting "ADC_res") 1))).lines layout =
        ["#define " ++ (macroName ++ " (" ++ plan.results) ++ ".ADC_res[1])"] := by
  have hzero : Nat.toDigits 10 0 = ['0'] := rfl
  have hone : Nat.toDigits 10 1 = ['1'] := rfl
  constructor <;>
    simp [Item.lines, Expr.print, DriverPlan.phaseSetting, DriverPlan.phaseState,
      DriverPlan.setting, DriverPlan.config, DriverPlan.configObject, DriverPlan.results, hzero,
      hone, ← String.toList_inj]

theorem lines_limit (macroName value : String) :
    (Item.constant macroName 1 (.literal value)).lines layout =
      ["#define " ++ macroName ++ " " ++ value] := by
  simp [Item.lines, Expr.print]

theorem filterMap_singleton {α β : Type} (read : α → Option β) (x : α) :
    [x].filterMap read = (read x).toList := by
  cases hread : read x <;> simp [hread]

theorem scan_limits (back : String) (plan : DriverPlan) :
    scan layout (between? "#define " back) plan.dutyLimits =
      (between? "#define " back ("#define " ++ plan.maxDutyMacro ++ " " ++ maxDuty)).toList ++
        (between? "#define " back ("#define " ++ plan.minDutyMacro ++ " " ++ minDuty)).toList := by
  have hcomment : ∀ text, (Item.lines layout (.comment text)).filterMap
      (between? "#define " back) = [] := fun text =>
    List.filterMap_cons_none (define_of_head _ (by simp))
  have hblank : (Item.lines layout .blank).filterMap (between? "#define " back) = [] :=
    List.filterMap_cons_none (define_of_head _ (by simp))
  simp only [scan, DriverPlan.dutyLimits, List.flatMap_cons, List.flatMap_nil, hcomment, hblank,
    lines_limit, filterMap_singleton, List.nil_append, List.append_nil]

theorem scan_conversions (back : String) (plan : DriverPlan) :
    scan layout (between? "#define " back) plan.adcDefinitions =
      plan.phases.flatMap fun phase =>
        (between? "#define " back ("#define " ++
          (plan.currentMacro phase ++ " (" ++ plan.results) ++ ".ADC_res[0])")).toList ++
        (between? "#define " back ("#define " ++
          (plan.voltageMacro phase ++ " (" ++ plan.results) ++ ".ADC_res[1])")).toList := by
  have hcomment : ∀ text, scan layout (between? "#define " back) [.comment text] = [] := fun text =>
    scan_eq_nil define_of_head (by simp [Item.heads])
  have hblank : scan layout (between? "#define " back) [.blank] = [] :=
    scan_eq_nil define_of_head (by simp [Item.heads])
  have hadc : plan.adcDefinitions = [.comment (plan.title ++ " ADC Definitions")] ++
      plan.phases.flatMap plan.adcMacros ++ [.blank] := rfl
  rw [hadc, scan_append, scan_append, hcomment, hblank, scan_flatMap, List.nil_append,
    List.append_nil]
  refine List.flatMap_congr fun phase _ => ?_
  simp only [scan, DriverPlan.adcMacros, List.flatMap_cons, List.flatMap_nil,
    (lines_conversion plan _).1, (lines_conversion plan _).2, filterMap_singleton, List.append_nil]

/-- The macros of a header that end in a way, where the guard and the limits do not. -/
theorem filterMap_defines (hback : endsWith back "_H" = false) (hback' : endsWith "_H" back = false)
    (hmax : ∀ text, endsWith back (text ++ maxDuty) = false)
    (hmin : ∀ text, endsWith back (text ++ minDuty) = false) :
    (Listing.lines layout (header base stamp plans)).filterMap (between? "#define " back) =
      plans.flatMap fun plan => plan.phases.flatMap fun phase =>
        (between? "#define " back ("#define " ++
          (plan.currentMacro phase ++ " (" ++ plan.results) ++ ".ADC_res[0])")).toList ++
        (between? "#define " back ("#define " ++
          (plan.voltageMacro phase ++ " (" ++ plan.results) ++ ".ADC_res[1])")).toList := by
  have hlimits : ∀ plan : DriverPlan,
      scan layout (between? "#define " back) plan.dutyLimits = [] := by
    intro plan
    rw [scan_limits, between?_of_endsWith (hmax _), between?_of_endsWith (hmin _)]
    rfl
  rw [filterMap_lines, scan_header hback hback']
  simp only [hlimits, scan_conversions, flatMap_none, List.nil_append]

/-- The macros of the currents, in the order of the phases. -/
theorem currents_header :
    (Listing.lines layout (header base stamp plans)).filterMap
        (between? "#define " ".ADC_res[0])") =
      plans.flatMap fun plan => plan.phases.map fun phase =>
        plan.currentMacro phase ++ " (" ++ plan.results := by
  have hother : ∀ text, between? "#define " ".ADC_res[0])" (text ++ ".ADC_res[1])") = none :=
    fun text => between?_of_endsWith (endsWith_append_eq_false ((endsWith_ofList _ _).trans rfl)
      ((endsWith_ofList _ _).trans rfl) text)
  rw [filterMap_defines ((endsWith_ofList _ _).trans rfl) ((endsWith_ofList _ _).trans rfl)
    (endsWith_append_eq_false ((endsWith_ofList _ _).trans rfl) ((endsWith_ofList _ _).trans rfl))
    (endsWith_append_eq_false ((endsWith_ofList _ _).trans rfl) ((endsWith_ofList _ _).trans rfl))]
  simp only [hother, between?_append, Option.toList_none, Option.toList_some, List.append_nil,
    ← List.map_eq_flatMap]

/-- The macros of the voltages, in the order of the phases. -/
theorem voltages_header :
    (Listing.lines layout (header base stamp plans)).filterMap
        (between? "#define " ".ADC_res[1])") =
      plans.flatMap fun plan => plan.phases.map fun phase =>
        plan.voltageMacro phase ++ " (" ++ plan.results := by
  have hother : ∀ text, between? "#define " ".ADC_res[1])" (text ++ ".ADC_res[0])") = none :=
    fun text => between?_of_endsWith (endsWith_append_eq_false ((endsWith_ofList _ _).trans rfl)
      ((endsWith_ofList _ _).trans rfl) text)
  rw [filterMap_defines ((endsWith_ofList _ _).trans rfl) ((endsWith_ofList _ _).trans rfl)
    (endsWith_append_eq_false ((endsWith_ofList _ _).trans rfl) ((endsWith_ofList _ _).trans rfl))
    (endsWith_append_eq_false ((endsWith_ofList _ _).trans rfl) ((endsWith_ofList _ _).trans rfl))]
  simp only [hother, between?_append, Option.toList_none, Option.toList_some, List.nil_append,
    ← List.map_eq_flatMap]

end Macros

end FirmwareGen.Modulators
