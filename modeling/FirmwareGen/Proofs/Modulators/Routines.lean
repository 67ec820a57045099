-- SUMMARY: Interrupt service routines in the lines of the generated files.
import FirmwareGen.Proofs.C.Attributes
import FirmwareGen.Proofs.Modulators.Functions
import FirmwareGen.Proofs.Modulators.Macros
import FirmwareGen.Proofs.Modulators.Preamble
/-!
# Lines of interrupt service routines

A routine is told by the end of the line that declares or defines it, and by the attributes in front
of that line. Both files have these lines just for the phases of the plans that have a routine, in
order.
-/

namespace FirmwareGen.Modulators

open C Text

/-! ## Lines of a driver -/

theorem void_of_head (back line : String) (h : line.toList.head? ≠ some 'v') :
    between? "void " back line = none :=
  between?_of_head (by simp) back line h

namespace DriverPlan

variable (plan : DriverPlan)

/-- The name of the routine of a phase, without its last word. -/
def routine (phase : PhasePlan) : String := plan.stem ++ "_" ++ phase.name

theorem headLine_controller (phase : PhasePlan) :
    (plan.controllerSignature phase).headLine = "void " ++ plan.routine phase ++ "_Controller(void)" := by
  simp only [headLine_controllerSignature, routine, Role.ending, String.append_assoc]

theorem prototypeLine_controller (phase : PhasePlan) :
    (plan.controllerSignature phase).prototypeLine =
      "void " ++ plan.routine phase ++ "_Controller(void);" := by
  have hline : (plan.controllerSignature phase).prototypeLine =
      (plan.controllerSignature phase).headLine ++ ";" := rfl
  have hend : "_Controller(void)" ++ ";" = "_Controller(void);" := by decide
  rw [hline, headLine_controller, String.append_assoc, hend]

theorem lines_prototype (phase : PhasePlan) :
    Item.lines layout (.prototype (plan.controllerSignature phase)) =
      [interruptAttributes, "void " ++ plan.routine phase ++ "_Controller(void);"] := by
  rw [← prototypeLine_controller]
  rfl

theorem void_ne_attributes (rest : String) : "void " ++ rest ≠ interruptAttributes := by
  intro heq
  have hhead := congrArg (fun text => text.toList.head?) heq
  simp [interruptAttributes_head] at hhead

/-! ### Declarations -/

/-- The ends of the lines that declare the functions that a driver offers. -/
def offeredEndings : List String :=
  ["_init(void);", "_startAll(void);", "_stopAll(void);", " fsw);", " duty);", " deadtime);",
   " mode);", " current);"]

theorem exists_offeredEnding : ∀ signature ∈ plan.offeredSignatures,
    ∃ text, ∃ last ∈ offeredEndings, signature.prototypeLine = text ++ last := by
  have hline : ∀ action parameters, (plan.signature action parameters).prototypeLine =
      "void " ++ plan.stem ++ ("_" ++ action ++ "(" ++ printParameters parameters ++ ")") ++ ";" := by
    intro action parameters
    rw [← headLine_signature]
    rfl
  have hnone : ∀ action last, last ∈ offeredEndings → "_" ++ action ++ "(void);" = last →
      ∃ text, ∃ last ∈ offeredEndings,
        (plan.signature action []).prototypeLine = text ++ last := by
    intro action last hlast heq
    refine ⟨"void " ++ plan.stem, last, hlast, ?_⟩
    rw [hline, ← heq]
    simp [printParameters, ← String.toList_inj]
  have hone : ∀ action type name, " " ++ name ++ ");" ∈ offeredEndings →
      ∃ text, ∃ last ∈ offeredEndings,
        (plan.signature action [⟨type, name⟩]).prototypeLine = text ++ last := by
    intro action type name hlast
    refine ⟨"void " ++ plan.stem ++ "_" ++ action ++ "(" ++ type, _, hlast, ?_⟩
    rw [hline]
    simp [printParameters, Parameter.print, ← String.toList_inj]
  have hduty : ∃ text, ∃ last ∈ offeredEndings,
      plan.setDutySignature.prototypeLine = text ++ last := by
    refine ⟨"void " ++ plan.stem ++ "_setDuty(modulator_phase_t phase, float", " duty);",
      by simp [offeredEndings], ?_⟩
    rw [setDutySignature, hline]
    simp [printParameters, Parameter.print, ← String.toList_inj]
  simp only [offeredSignatures, List.forall_mem_cons]
  refine ⟨hnone _ _ ?_ rfl, hnone _ _ ?_ rfl, hnone _ _ ?_ rfl, hone _ _ _ ?_, hduty,
    hone _ _ _ ?_, hone _ _ _ ?_, hone _ _ _ ?_, hone _ _ _ ?_, hone _ _ _ ?_,
    List.forall_mem_nil _⟩ <;>
    simp [offeredEndings]

/-- No other function of a driver is declared as a routine is. -/
theorem between?_offered : ∀ signature ∈ plan.offeredSignatures,
    between? "void " "_Controller(void);" signature.prototypeLine = none := by
  have hends : ∀ last ∈ offeredEndings, endsWith "_Controller(void);" last = false ∧
      endsWith last "_Controller(void);" = false := by decide
  intro signature hsignature
  obtain ⟨text, last, hlast, heq⟩ := plan.exists_offeredEnding signature hsignature
  rw [heq]
  exact between?_of_endsWith (endsWith_append_eq_false (hends last hlast).1 (hends last hlast).2 text)

/-- The routines that a driver declares are those of its phases. -/
theorem scan_prototypes :
    scan layout (between? "void " "_Controller(void);") plan.prototypes =
      plan.isrPhases.map plan.routine := by
  have hnil : ∀ {listing : Listing}, (∀ item ∈ listing, 'v' ∉ item.heads) →
      scan layout (between? "void " "_Controller(void);") listing = [] :=
    fun h => scan_eq_nil (void_of_head _) h
  have hoffered : scan layout (between? "void " "_Controller(void);")
      (plan.offeredSignatures.map .prototype) = [] := by
    rw [scan, List.flatMap_map, List.flatMap_eq_nil_iff]
    intro signature hsignature
    have hattributes : signature.attributeLines = [] := by
      simp only [offeredSignatures, setDutySignature, List.mem_cons, List.not_mem_nil, or_false]
        at hsignature
      rcases hsignature with rfl | rfl | rfl | rfl | rfl | rfl | rfl | rfl | rfl | rfl <;> rfl
    rw [Item.lines, hattributes, List.nil_append,
      List.filterMap_cons_none (plan.between?_offered signature hsignature), List.filterMap_nil]
  have hroutines : scan layout (between? "void " "_Controller(void);")
      (plan.isrPhases.map fun phase => .prototype (plan.controllerSignature phase)) =
        plan.isrPhases.map plan.routine := by
    have hattributes : between? "void " "_Controller(void);" interruptAttributes = none :=
      void_of_head _ _ (by simp [interruptAttributes_head])
    rw [scan, List.flatMap_map, List.map_eq_flatMap]
    refine List.flatMap_congr fun phase _ => ?_
    rw [lines_prototype, List.filterMap_cons_none hattributes,
      List.filterMap_cons_some (between?_append _ _ _), List.filterMap_nil]
  have hsplit : plan.prototypes = [.comment (plan.title ++ " Function Prototypes")] ++
      plan.offeredSignatures.map .prototype ++ [.blank] ++
        plan.isrPhases.map (fun phase => .prototype (plan.controllerSignature phase)) ++
          [.blank] := by
    simp [prototypes]
  rw [hsplit, scan_append, scan_append, scan_append, scan_append, hoffered, hroutines,
    hnil (by simp [Item.heads]), hnil (by simp [Item.heads])]
  simp

/-! ### Definitions -/

section Definitions

variable {plan}

theorem filterMap_definition_of_ne (kind : Role) (hkind : kind ≠ .controller)
    {signature : Signature} {front : String} (h : signature.headLine = front ++ kind.ending)
    (body : List Statement) :
    (Item.lines layout (.definition signature body)).filterMap
      (between? "void " Role.controller.ending) = [] := by
  have hends : endsWith Role.controller.ending (front ++ kind.ending) = false := by
    rw [Role.endsWith_append_ending, decide_eq_false hkind]
  rw [filterMap_definition (void_of_head _) (by decide), h, between?_of_endsWith hends]
  rfl

theorem filterMap_banner (back : String) (texts : List String) :
    (Item.lines layout (.banner texts)).filterMap (between? "void " back) = [] :=
  filterMap_item_eq_nil (void_of_head back) (by simp [Item.heads])

theorem filterMap_blank (back : String) :
    (Item.lines layout .blank).filterMap (between? "void " back) = [] :=
  filterMap_item_eq_nil (void_of_head back) (by simp [Item.heads])

end Definitions

theorem scan_initFunction :
    scan layout (between? "void " Role.controller.ending) plan.initFunction = [] := by
  have hinit := filterMap_definition_of_ne .init (by decide)
    (plan.headLine_signature "init" []) plan.initBody
  simp only [initFunction, scan_cons, scan_nil, filterMap_banner, filterMap_blank, hinit,
    List.append_nil]

theorem scan_deadtimeFunction (deadtime : Deadtime) (kind : Role) (hkind : kind ≠ .controller)
    (h : "_" ++ deadtime.action ++ "(" ++ printParameters [⟨"uint32_t", "deadtime"⟩] ++ ")" =
      kind.ending) :
    scan layout (between? "void " Role.controller.ending) (plan.deadtimeFunction deadtime) = [] := by
  have hhead := plan.headLine_signature deadtime.action [⟨"uint32_t", "deadtime"⟩]
  rw [h] at hhead
  simp only [deadtimeFunction, scan_cons, scan_nil, filterMap_blank,
    filterMap_definition_of_ne kind hkind hhead, List.append_nil]

theorem scan_controlFunctions :
    scan layout (between? "void " Role.controller.ending) plan.controlFunctions = [] := by
  have hstart := filterMap_definition_of_ne .startAll (by decide)
    (plan.headLine_signature "startAll" []) plan.startBody
  have hstop := filterMap_definition_of_ne .stopAll (by decide)
    (plan.headLine_signature "stopAll" []) plan.stopBody
  have hfsw := filterMap_definition_of_ne .setFsw (by decide)
    (plan.headLine_signature "setFsw" [⟨"uint32_t", "fsw"⟩]) plan.setFswBody
  have hduty := filterMap_definition_of_ne .setDuty (by decide)
    (plan.headLine_signature "setDuty" [⟨"modulator_phase_t", "phase"⟩, ⟨"float", "duty"⟩])
    plan.setDutyBody
  have hpos := plan.scan_deadtimeFunction positiveDeadtime .setDeadtimePos (by decide) rfl
  have hneg := plan.scan_deadtimeFunction negativeDeadtime .setDeadtimeNeg (by decide) rfl
  simp only [controlFunctions, setDutySignature, scan_append, scan_cons, scan_nil, filterMap_banner,
    filterMap_blank, hstart, hstop, hfsw, hduty, hpos, hneg, List.append_nil]

theorem scan_controllerFunction (phase : PhasePlan) :
    scan layout (between? "void " Role.controller.ending) (plan.controllerFunction phase) =
      [plan.routine phase] := by
  have hroutine : between? "void " Role.controller.ending (plan.controllerSignature phase).headLine =
      some (plan.routine phase) := by
    rw [headLine_controller]
    exact between?_append _ _ _
  simp only [controllerFunction, scan_cons, scan_nil, filterMap_banner, filterMap_blank,
    filterMap_definition (void_of_head _) (by decide), hroutine, Option.toList_some,
    List.nil_append, List.append_nil]

/-- The routines that a driver defines are those of its phases. -/
theorem scan_interruptHandlers :
    scan layout (between? "void " Role.controller.ending) plan.interruptHandlers =
      plan.isrPhases.map plan.routine := by
  have hcurrent := filterMap_definition_of_ne .currentController (by decide)
    (plan.headLine_helperSignature "CurrentController"
      [⟨"modulator_phase_t", "phase"⟩, ⟨"int32_t", "err"⟩]) plan.currentControllerBody
  have hdma := fun body => filterMap_definition_of_ne .initDmaIsr (by decide)
    (plan.headLine_helperSignature "init_DMA_ISR" []) body
  have hshift := fun body => filterMap_definition_of_ne .updatePhaseShift (by decide)
    (plan.headLine_helperSignature "updatePhaseShift" []) body
  simp only [interruptHandlers, scan_append, scan_cons, scan_nil, scan_flatMap, filterMap_banner,
    filterMap_blank, hcurrent, hdma, hshift, scan_controllerFunction, List.nil_append,
    List.append_nil, ← List.map_eq_flatMap]

/-! ### Attributes -/

theorem attributes_prototypes :
    Attributes (Listing.lines layout plan.prototypes) (plan.isrPhases.map fun phase =>
      some ("void " ++ plan.routine phase ++ "_Controller(void);")) := by
  have hoffered : ∀ item ∈ (.comment (plan.title ++ " Function Prototypes") ::
      plan.offeredSignatures.map .prototype ++ [.blank] : Listing), '_' ∉ item.heads := by
    simp [offeredSignatures, setDutySignature, signature, Item.heads, Signature.heads]
  have hroutine : ∀ phase ∈ plan.isrPhases,
      Attributes (Listing.lines layout [.prototype (plan.controllerSignature phase)])
        [some ("void " ++ plan.routine phase ++ "_Controller(void);")] := by
    intro phase _
    rw [Listing.lines, List.flatMap_singleton, lines_prototype]
    refine attributes_pair ?_
    rw [String.append_assoc]
    exact void_ne_attributes _
  have hroutines := attributes_flatMap hroutine
  rw [← List.map_eq_flatMap, ← List.map_eq_flatMap] at hroutines
  have hsplit : plan.prototypes =
      (.comment (plan.title ++ " Function Prototypes") :: plan.offeredSignatures.map .prototype ++
        [.blank]) ++
      plan.isrPhases.map (fun phase => .prototype (plan.controllerSignature phase)) ++ [.blank] := by
    simp [prototypes]
  rw [hsplit]
  exact attributes_between hoffered hroutines (by simp [Item.heads])

theorem attributes_controllerFunction (phase : PhasePlan) :
    Attributes (Listing.lines layout (plan.controllerFunction phase))
      [some ("void " ++ plan.routine phase ++ "_Controller(void)")] := by
  have hroutine : Attributes (Listing.lines layout
      [.definition (plan.controllerSignature phase) (plan.controllerBody phase)])
        [some (plan.controllerSignature phase).headLine] :=
    attributes_routine void_ne_attributes _
  rw [headLine_controller] at hroutine
  obtain ⟨texts, hsplit⟩ : ∃ texts, plan.controllerFunction phase = [.banner texts] ++
      [.definition (plan.controllerSignature phase) (plan.controllerBody phase)] ++ [.blank] :=
    ⟨_, rfl⟩
  rw [hsplit]
  refine attributes_between ?_ hroutine ?_ <;> simp [Item.heads]

theorem attributes_interruptHandlers :
    Attributes (Listing.lines layout plan.interruptHandlers) (plan.isrPhases.map fun phase =>
      some ("void " ++ plan.routine phase ++ "_Controller(void)")) := by
  have hroutines : Attributes (Listing.lines layout (plan.isrPhases.flatMap plan.controllerFunction))
      (plan.isrPhases.flatMap fun phase =>
        [some ("void " ++ plan.routine phase ++ "_Controller(void)")]) :=
    attributes_flatMap fun phase _ => plan.attributes_controllerFunction phase
  rw [interruptHandlers, List.map_eq_flatMap]
  refine attributes_between ?_ hroutines ?_ <;> simp [helperSignature, Item.heads, Signature.heads]

end DriverPlan

/-! ## Lines of the files -/

section Files

variable {base stamp : String} {plans : List DriverPlan}

/-- The items of a header in front of its prototypes. -/
def headerFront (base stamp : String) (plans : List DriverPlan) : Listing :=
  banner base "Header" stamp ++
  [.unlessDefined (Naming.includeGuard base), .marker (Naming.includeGuard base), .blank,
   .systemInclude "stdint.h", .systemInclude "stdbool.h", .blank] ++
  ([.comment "Modulator Configuration Enums and Defines", .blank] ++
   plans.flatMap DriverPlan.modeEnum ++ [.blank] ++ phaseEnum plans ++
   plans.flatMap DriverPlan.dutyLimits ++ plans.flatMap DriverPlan.adcDefinitions ++
   plans.flatMap DriverPlan.phaseStruct ++ plans.flatMap DriverPlan.configStruct)

theorem header_eq :
    header base stamp plans = headerFront base stamp plans ++ plans.flatMap DriverPlan.prototypes ++
      [.blank, .endGuard (Naming.includeGuard base)] := by
  simp only [header, headerFront, headerSections, List.append_assoc]

/-- In front of the prototypes there are comments, directives and types. -/
theorem heads_headerFront {c : Char} (h : c ∉ ['/', ' ', '#', 't', '\x7b', '\x7d', 'e']) :
    ∀ item ∈ headerFront base stamp plans, c ∉ item.heads := by
  simp only [List.mem_cons, List.not_mem_nil, or_false, not_or] at h
  obtain ⟨hslash, hblank, hsharp, htype, hopen, hclose, hextern⟩ := h
  have hphases : ∀ item ∈ phaseEnum plans, c ∉ item.heads := by
    unfold phaseEnum
    split <;> simp [Item.heads, htype, hblank, hclose]
  have hadc : ∀ plan : DriverPlan, ∀ item ∈ plan.adcDefinitions, c ∉ item.heads := by
    intro plan
    have hmacros : ∀ item ∈ plan.phases.flatMap plan.adcMacros, c ∉ item.heads :=
      List.forall_mem_flatMap.2 fun phase _ => by simp [DriverPlan.adcMacros, Item.heads, hsharp]
    simp only [DriverPlan.adcDefinitions, List.forall_mem_append, List.forall_mem_cons]
    exact ⟨⟨by simp [Item.heads, hslash], hmacros⟩, by simp [Item.heads], List.forall_mem_nil _⟩
  simp only [headerFront, List.forall_mem_append]
  refine ⟨⟨?_, ?_⟩, ⟨⟨⟨⟨⟨⟨⟨?_, ?_⟩, ?_⟩, hphases⟩, ?_⟩, ?_⟩, ?_⟩, ?_⟩⟩
  · simp [banner, Item.heads, hslash, hblank]
  · simp [Item.heads, hsharp]
  · simp [Item.heads, hslash]
  · exact List.forall_mem_flatMap.2 fun plan _ => by simp [DriverPlan.modeEnum, Item.heads, htype]
  · simp [Item.heads]
  · exact List.forall_mem_flatMap.2 fun plan _ => by
      simp [DriverPlan.dutyLimits, Item.heads, hslash, hsharp]
  · exact List.forall_mem_flatMap.2 fun plan _ => hadc plan
  · exact List.forall_mem_flatMap.2 fun plan _ => by
      simp [DriverPlan.phaseStruct, Item.heads, hslash, htype, hopen, hblank, hclose]
  · exact List.forall_mem_flatMap.2 fun plan _ => by
      simp [DriverPlan.configStruct, Item.heads, hslash, htype, hopen, hblank, hclose, hextern]

/-- The attributes in a header stand in front of the routines that it declares. -/
theorem attributed_header :
    attributed (Listing.lines layout (header base stamp plans)) =
      plans.flatMap fun plan => plan.isrPhases.map fun phase =>
        some ("void " ++ plan.routine phase ++ "_Controller(void);") := by
  have hprototypes : Attributes (Listing.lines layout (plans.flatMap DriverPlan.prototypes))
      (plans.flatMap fun plan => plan.isrPhases.map fun phase =>
        some ("void " ++ plan.routine phase ++ "_Controller(void);")) :=
    attributes_flatMap fun plan _ => plan.attributes_prototypes
  rw [header_eq]
  exact attributed_of_attributes
    (attributes_between (heads_headerFront (by decide)) hprototypes (by simp [Item.heads]))

theorem declared_header :
    (Listing.lines layout (header base stamp plans)).filterMap
        (between? "void " "_Controller(void);") =
      plans.flatMap fun plan => plan.isrPhases.map plan.routine := by
  have hfront : scan layout (between? "void " "_Controller(void);")
      (headerFront base stamp plans) = [] :=
    scan_eq_nil (void_of_head _) (heads_headerFront (c := 'v') (by decide))
  have hback : scan layout (between? "void " "_Controller(void);")
      [.blank, .endGuard (Naming.includeGuard base)] = [] :=
    scan_eq_nil (void_of_head _) (by simp [Item.heads])
  rw [filterMap_lines, header_eq, scan_append, scan_append, hfront, hback, scan_flatMap,
    List.nil_append, List.append_nil]
  simp only [DriverPlan.scan_prototypes]

/-! ### Sources -/

/-- The attributes in a source stand in front of the routines that it defines. -/
theorem attributed_source :
    attributed (Listing.lines layout (source base stamp plans)) =
      plans.flatMap fun plan => plan.isrPhases.map fun phase =>
        some ("void " ++ plan.routine phase ++ "_Controller(void)") := by
  have hfront : Attributes (Listing.lines layout (sourceFront base stamp plans)) [] := by
    refine attributes_of_not_mem fun hmem => ?_
    rcases begins_or_closes_sourceFront (c := '_') (by decide) _ hmem with hhead | ⟨text, heq⟩
    · exact hhead interruptAttributes_head
    · have hlast := congrArg (fun line => line.toList.getLast?) heq
      simp [interruptAttributes] at hlast
  have hinit : ∀ item ∈ plans.flatMap DriverPlan.initFunction, '_' ∉ item.heads :=
    List.forall_mem_flatMap.2 fun plan _ => by
      simp [DriverPlan.initFunction, DriverPlan.signature, Item.heads, Signature.heads]
  have hcontrol : ∀ item ∈ plans.flatMap DriverPlan.controlFunctions, '_' ∉ item.heads :=
    List.forall_mem_flatMap.2 fun plan _ => by
      simp [DriverPlan.controlFunctions, DriverPlan.deadtimeFunction, DriverPlan.setDutySignature,
        DriverPlan.signature, Item.heads, Signature.heads]
  have hhandlers : Attributes (Listing.lines layout (plans.flatMap DriverPlan.interruptHandlers))
      (plans.flatMap fun plan => plan.isrPhases.map fun phase =>
        some ("void " ++ plan.routine phase ++ "_Controller(void)")) :=
    attributes_flatMap fun plan _ => plan.attributes_interruptHandlers
  have hall := attributes_listing_append (attributes_listing_append
    (attributes_listing_append hfront (attributes_of_heads hinit)) (attributes_of_heads hcontrol))
    hhandlers
  rw [← source_eq] at hall
  exact attributed_of_attributes hall

theorem defined_source :
    (Listing.lines layout (source base stamp plans)).filterMap
        (between? "void " "_Controller(void)") =
      plans.flatMap fun plan => plan.isrPhases.map plan.routine := by
  have hfront : scan layout (between? "void " Role.controller.ending)
      (sourceFront base stamp plans) = [] := by
    rw [← filterMap_lines, List.filterMap_eq_nil_iff]
    intro line hline
    rcases begins_or_closes_sourceFront (c := 'v') (by decide) line hline with hhead | ⟨text, rfl⟩
    · exact void_of_head _ line hhead
    · exact between?_of_endsWith (endsWith_append_eq_false ((endsWith_ofList _ _).trans rfl)
        ((endsWith_ofList _ _).trans rfl) text)
  have hending : "_Controller(void)" = Role.controller.ending := rfl
  rw [hending, filterMap_lines, source_eq, scan_append, scan_append, scan_append, hfront]
  simp only [scan_flatMap, DriverPlan.scan_initFunction, DriverPlan.scan_controlFunctions,
    DriverPlan.scan_interruptHandlers, flatMap_none, List.nil_append]

end Files

end FirmwareGen.Modulators
