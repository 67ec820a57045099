-- SUMMARY: The header of modulators declares its types before it uses them, up to the phase type.
import FirmwareGen.Proofs.C.Types
import FirmwareGen.Proofs.Modulators.Lines
/-!
# Types of generated headers

A header declares the types of its modes, phases and configurations in sections of their own, in front
of the sections that use them. The type of the phases is used by each driver but declared only if there
is a phase.
-/

namespace FirmwareGen.Modulators

open C Text

/-- The types that the headers of the C library provide. -/
def providedTypes : List String :=
  ["void", "float", "bool", "uint8_t", "uint16_t", "uint32_t", "int32_t"]

/-- The enumeration of all phases. -/
def phaseType : String := "modulator_phase_t"

/-! ## Types that the parts of a driver name -/

namespace DriverPlan

variable (plan : DriverPlan)

theorem mentions_dutyLimits : Listing.mentions plan.dutyLimits = [] := rfl

theorem mentions_adcDefinitions : Listing.mentions plan.adcDefinitions = [] := by
  have hmacros : (plan.phases.flatMap plan.adcMacros).flatMap Item.mentions = [] := by
    rw [List.flatMap_assoc]
    exact flatMap_none plan.phases
  simp [Listing.mentions, adcDefinitions, Item.mentions, hmacros]

theorem mentions_phaseStruct :
    Listing.mentions plan.phaseStruct =
      ["float", "uint16_t", "uint32_t", "int32_t", "uint32_t", "uint32_t"].map .use ++
        [.typedef plan.phaseConfigType] := rfl

theorem mentions_configStruct :
    Listing.mentions plan.configStruct =
      [plan.phaseConfigType, "float", "uint32_t", "uint32_t", plan.modeType, "bool", "uint32_t",
        "uint32_t"].map .use ++ [.typedef plan.configType, .use plan.configType] := rfl

theorem mentions_prototypes :
    Listing.mentions plan.prototypes =
      ["void", "void", "void", "void", "uint32_t", "void", phaseType, "float", "void", "uint8_t",
        "void", "uint32_t", "void", "uint32_t", "void", plan.modeType, "void", "float"].map .use ++
        plan.isrPhases.map fun _ => .use "void" := by
  have hroutines : (plan.isrPhases.map fun phase =>
      Item.prototype (plan.controllerSignature phase)).flatMap Item.mentions =
        plan.isrPhases.map fun _ => .use "void" := by
    rw [List.flatMap_map, List.map_eq_flatMap]
    rfl
  simp only [Listing.mentions, prototypes, List.flatMap_append, List.flatMap_cons, hroutines]
  simp [offeredSignatures, signature, setDutySignature, Item.mentions, Signature.mentions, phaseType]

end DriverPlan

/-! ## Types of a header -/

section Header

variable {base stamp : String} {plans : List DriverPlan} {type : String}

/-- The header names types in its sections alone. -/
theorem mentions_header :
    Listing.mentions (header base stamp plans) =
      plans.map (fun plan => .typedef plan.modeType) ++ Listing.mentions (phaseEnum plans) ++
        plans.flatMap (fun plan => Listing.mentions plan.phaseStruct) ++
        plans.flatMap (fun plan => Listing.mentions plan.configStruct) ++
        plans.flatMap (fun plan => Listing.mentions plan.prototypes) := by
  have hsection : ∀ part : DriverPlan → List Item,
      (plans.flatMap part).flatMap Item.mentions = plans.flatMap fun plan => Listing.mentions (part plan) :=
    fun part => List.flatMap_assoc
  have hmodes : (plans.flatMap fun plan => Listing.mentions plan.modeEnum) =
      plans.map fun plan => Mention.typedef plan.modeType := List.map_eq_flatMap.symm
  rw [Listing.mentions]
  simp only [header, headerSections, List.flatMap_append, hsection, hmodes,
    DriverPlan.mentions_dutyLimits, DriverPlan.mentions_adcDefinitions, flatMap_none]
  simp [banner, Item.mentions, Listing.mentions]

theorem mentions_phaseEnum :
    Listing.mentions (phaseEnum plans) =
      if phaseEnumerators plans = [] then [] else [.typedef phaseType] := by
  unfold phaseEnum
  split <;> simp_all [Listing.mentions, Item.mentions, phaseType]

/-- Prototypes use types that are provided, the type of the phases and that of the modes. -/
theorem use_mem_prototypes {plan : DriverPlan} (h : .use type ∈ Listing.mentions plan.prototypes) :
    type ∈ providedTypes ∨ type = phaseType ∨ type = plan.modeType := by
  rw [DriverPlan.mentions_prototypes] at h
  simp only [List.mem_append, List.mem_map, Mention.use.injEq, exists_eq_right] at h
  rcases h with h | ⟨_, _, rfl⟩
  · simp [providedTypes] at h ⊢
    grind
  · simp [providedTypes]

/-- The part of one driver declares its configuration type before the object of that type. -/
theorem declaredBeforeUse_configStruct {plan : DriverPlan} (hprovided : type ∉ providedTypes)
    (hmode : type ≠ plan.modeType) (hconfig : type ≠ plan.phaseConfigType) :
    DeclaredBeforeUse type (Listing.mentions plan.configStruct) := by
  have hobject : DeclaredBeforeUse type
      ([.typedef plan.configType] ++ [.use plan.configType]) := by
    refine DeclaredBeforeUse.append (declaredBeforeUse_of_notMem (by simp)) ?_
    by_cases htype : type = plan.configType
    · exact .inl (by simp [htype])
    · exact .inr (declaredBeforeUse_of_notMem (by simpa using htype))
  rw [DriverPlan.mentions_configStruct]
  refine DeclaredBeforeUse.append (declaredBeforeUse_of_notMem ?_) (.inr hobject)
  simp [providedTypes] at hprovided ⊢
  grind

/-- Each type that is not provided is declared before it is used, apart from the type of the
    phases. -/
theorem declaredBeforeUse_header (hprovided : type ∉ providedTypes) (hphase : type ≠ phaseType) :
    DeclaredBeforeUse type (Listing.mentions (header base stamp plans)) := by
  rw [mentions_header]
  set modes := plans.map fun plan => Mention.typedef plan.modeType
  set structs := plans.flatMap fun plan => Listing.mentions plan.phaseStruct
  have htypes : DeclaredBeforeUse type (modes ++ Listing.mentions (phaseEnum plans) ++ structs) := by
    refine declaredBeforeUse_of_notMem ?_
    simp only [modes, structs, List.mem_append, List.mem_map, List.mem_flatMap, not_or]
    refine ⟨⟨by simp, by rw [mentions_phaseEnum]; split <;> simp⟩, ?_⟩
    rintro ⟨plan, -, huse⟩
    simp [DriverPlan.mentions_phaseStruct] at huse
    simp [providedTypes] at hprovided
    grind
  refine DeclaredBeforeUse.append (DeclaredBeforeUse.append htypes ?_) ?_
  · by_cases htypedef : .typedef type ∈ modes ++ structs
    · left
      simp only [List.mem_append] at htypedef ⊢
      exact htypedef.imp_left .inl
    · right
      rw [List.mem_append, not_or] at htypedef
      refine declaredBeforeUse_flatMap fun plan hplan => declaredBeforeUse_configStruct hprovided ?_ ?_
      · rintro rfl
        exact htypedef.1 (List.mem_map_of_mem hplan)
      · rintro rfl
        exact htypedef.2 (List.mem_flatMap.2 ⟨plan, hplan, by simp [DriverPlan.mentions_phaseStruct]⟩)
  · by_cases htypedef : .typedef type ∈ modes
    · exact .inl (by simp [htypedef])
    · right
      refine declaredBeforeUse_of_notMem fun huse => ?_
      obtain ⟨plan, hplan, huse⟩ := List.mem_flatMap.1 huse
      rcases use_mem_prototypes huse with h | h | h
      · exact hprovided h
      · exact hphase h
      · exact htypedef (List.mem_map.2 ⟨plan, hplan, by rw [h]⟩)

theorem typedef_phaseType_notMem (h : phaseEnumerators plans = []) :
    .typedef phaseType ∉ Listing.mentions (header base stamp plans) := by
  have hmode : ∀ plan : DriverPlan, plan.modeType ≠ phaseType := fun plan =>
    append_ne_of_endsWith (by decide) plan.symbol
  have hphaseConfig : ∀ plan : DriverPlan, phaseType ≠ plan.phaseConfigType := fun plan =>
    (append_ne_of_endsWith (by decide) plan.symbol).symm
  have hconfig : ∀ plan : DriverPlan, phaseType ≠ plan.configType := fun plan =>
    (append_ne_of_endsWith (by decide) plan.stem).symm
  rw [mentions_header, mentions_phaseEnum, if_pos h]
  simp [DriverPlan.mentions_phaseStruct, DriverPlan.mentions_configStruct,
    DriverPlan.mentions_prototypes, hmode, hphaseConfig, hconfig]

/-- The type of the phases is used by each driver, but declared only if there is a phase. -/
theorem declaredBeforeUse_phaseType :
    DeclaredBeforeUse phaseType (Listing.mentions (header base stamp plans)) ↔
      plans = [] ∨ ∃ plan ∈ plans, plan.phases ≠ [] := by
  have hphases : phaseEnumerators plans = [] ↔ ¬∃ plan ∈ plans, plan.phases ≠ [] := by
    simp [phaseEnumerators]
  by_cases henumerators : phaseEnumerators plans = []
  · rw [or_iff_left (hphases.1 henumerators)]
    constructor
    · intro hdeclared
      by_contra hplans
      obtain ⟨plan, hplan⟩ := List.exists_mem_of_ne_nil plans hplans
      refine not_declaredBeforeUse ?_ (typedef_phaseType_notMem henumerators) hdeclared
      rw [mentions_header]
      exact List.mem_append_right _
        (List.mem_flatMap.2 ⟨plan, hplan, by simp [DriverPlan.mentions_prototypes]⟩)
    · rintro rfl
      refine declaredBeforeUse_of_notMem ?_
      rw [mentions_header, mentions_phaseEnum, if_pos henumerators]
      simp
  · refine iff_of_true ?_ (.inr (not_not.1 (mt hphases.2 henumerators)))
    rw [mentions_header, mentions_phaseEnum, if_neg henumerators]
    refine DeclaredBeforeUse.append (DeclaredBeforeUse.append (DeclaredBeforeUse.append ?_ ?_) ?_) ?_
    · exact declaredBeforeUse_of_notMem (by simp)
    all_goals exact .inl (by simp)

end Header

/-! ## Generated headers -/

/-- In a generated header each use of a mode type, of a phase configuration type or of a configuration
    type comes after a declaration of that type. Each use of the type of the phases does if and only if
    there is no modulator, or one with an active phase. -/
theorem declaredBeforeUse_generate {ρ : Type} (scheme : NamingScheme) (clock : TimeSource ρ) (state : ρ)
    (modulators : List Modulator) :
    ∃ base stamp,
      (generate scheme clock modulators state).1.header =
        Listing.text layout (header base stamp (plansOf scheme modulators)) ∧
      (∀ stem, ∀ ending ∈ ["_mode_t", "_phaseConfig_t", "_config_t"],
        DeclaredBeforeUse (stem ++ ending)
          (Listing.mentions (header base stamp (plansOf scheme modulators)))) ∧
      (DeclaredBeforeUse "modulator_phase_t"
          (Listing.mentions (header base stamp (plansOf scheme modulators))) ↔
        modulators = [] ∨ ∃ modulator ∈ modulators, modulator.activePhases ≠ []) := by
  refine ⟨_, _, by rw [files_generate, FilePair.header_ofBase], fun stem ending hending => ?_, ?_⟩
  · have hother : ∀ type ∈ phaseType :: providedTypes, endsWith ending type = false := by
      revert ending
      decide
    have hne : ∀ type ∈ phaseType :: providedTypes, stem ++ ending ≠ type := fun type htype =>
      append_ne_of_endsWith (hother type htype) stem
    exact declaredBeforeUse_header (fun hmem => hne _ (List.mem_cons_of_mem _ hmem) rfl)
      (hne _ List.mem_cons_self)
  · refine declaredBeforeUse_phaseType.trans ?_
    simp [plansOf, DriverPlan.ofModulator]

end FirmwareGen.Modulators
