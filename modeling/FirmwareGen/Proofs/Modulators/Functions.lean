-- SUMMARY: The functions of drivers, told apart by the ends of their first lines.
import FirmwareGen.Proofs.C.Blocks
import FirmwareGen.Proofs.C.Quiet
import FirmwareGen.Proofs.Modulators.Lines
/-!
# Functions of generated drivers

A function is found by how its first line ends, as its name starts with free text. No end of one
kind of function is an end of another kind, so the bodies that are read are the bodies that the
drivers were given.
-/

namespace FirmwareGen.Modulators

open C Text

/-! ## Kinds of functions -/

/-- The functions that are defined for a driver. There is a controller for each phase that has an
interrupt service routine. -/
inductive Role
  | init | startAll | stopAll | setFsw | setDuty | setDeadtimePos | setDeadtimeNeg
  | currentController | controller | initDmaIsr | updatePhaseShift
  deriving DecidableEq

namespace Role

/-- How the first line of a function ends. -/
def ending : Role → String
  | init => "_init(void)"
  | startAll => "_startAll(void)"
  | stopAll => "_stopAll(void)"
  | setFsw => "_setFsw(uint32_t fsw)"
  | setDuty => "_setDuty(modulator_phase_t phase, float duty)"
  | setDeadtimePos => "_setDeadtimePos(uint32_t deadtime)"
  | setDeadtimeNeg => "_setDeadtimeNeg(uint32_t deadtime)"
  | currentController => "_CurrentController(modulator_phase_t phase, int32_t err)"
  | controller => "_Controller(void)"
  | initDmaIsr => "_init_DMA_ISR(void)"
  | updatePhaseShift => "_updatePhaseShift(void)"

theorem endsWith_ending_of_ne {r s : Role} (h : r ≠ s) : endsWith r.ending s.ending = false := by
  cases r <;> cases s <;>
    first
    | exact absurd rfl h
    | exact (endsWith_ofList _ _).trans rfl

/-- The end of a line tells the kind of function. -/
theorem endsWith_append_ending (r s : Role) (text : String) :
    endsWith r.ending (text ++ s.ending) = decide (s = r) := by
  by_cases h : s = r
  · rw [h, endsWith_append_self, decide_eq_true rfl]
  · rw [decide_eq_false h]
    exact endsWith_append_eq_false (endsWith_ending_of_ne (Ne.symm h)) (endsWith_ending_of_ne h) text

/-- The sections of a source that define functions. -/
def sections : List (List Role) :=
  [[init],
   [startAll, stopAll, setFsw, setDuty, setDeadtimePos, setDeadtimeNeg],
   [currentController, controller, initDmaIsr, updatePhaseShift]]

end Role

/-! ## Bodies -/

namespace DriverPlan

def deadtimeBody (plan : DriverPlan) (deadtime : Deadtime) : List Statement :=
  plan.phases.map (deadtimeUpdate deadtime) ++
    [assignStatement (plan.setting deadtime.field) (.name "deadtime")]

def initDmaBody : List Statement :=
  [remarkStatement "TODO: Initialize DMA and ISR configurations",
   remarkStatement "Configure DMA channels for ADC data transfer",
   remarkStatement "Set up interrupt priorities and handlers"]

def phaseShiftBody (plan : DriverPlan) : List Statement :=
  [remarkStatement "TODO: Implement phase shift calculations",
   remarkStatement "Set initial phase shifts for synchronized operation"] ++
  plan.phases.flatMap phaseShiftRemark

/-- The bodies of the functions of one kind. -/
def bodies (plan : DriverPlan) : Role → List (List Statement)
  | .init => [plan.initBody]
  | .startAll => [plan.startBody]
  | .stopAll => [plan.stopBody]
  | .setFsw => [plan.setFswBody]
  | .setDuty => [plan.setDutyBody]
  | .setDeadtimePos => [plan.deadtimeBody positiveDeadtime]
  | .setDeadtimeNeg => [plan.deadtimeBody negativeDeadtime]
  | .currentController => [plan.currentControllerBody]
  | .controller => plan.isrPhases.map plan.controllerBody
  | .initDmaIsr => [initDmaBody]
  | .updatePhaseShift => [plan.phaseShiftBody]

end DriverPlan

/-- The bodies of the functions of one kind in a listing. -/
def bodiesIn (role : Role) (listing : Listing) : List (List Statement) :=
  ((definitions listing).filter fun function => endsWith role.ending function.1.headLine).map
    Prod.snd

section BodiesIn

variable {role : Role} {listing : Listing}

theorem bodiesOf_ending (layout : Layout) (role : Role) (listing : Listing) :
    bodiesOf role.ending (Listing.lines layout listing) =
      (bodiesIn role listing).map fun body => body.flatMap (Statement.lines layout) := by
  rw [bodiesOf_lines, bodiesIn, List.map_map]
  rfl

@[simp] theorem bodiesIn_nil : bodiesIn role [] = [] := rfl

@[simp] theorem bodiesIn_append (xs ys : Listing) :
    bodiesIn role (xs ++ ys) = bodiesIn role xs ++ bodiesIn role ys := by
  rw [bodiesIn, definitions_append, List.filter_append, List.map_append]
  rfl

theorem bodiesIn_flatMap {α : Type} (xs : List α) (f : α → Listing) :
    bodiesIn role (xs.flatMap f) = xs.flatMap fun x => bodiesIn role (f x) := by
  induction xs with
  | nil => rfl
  | cons x xs ih => rw [List.flatMap_cons, List.flatMap_cons, bodiesIn_append, ih]

theorem bodiesIn_cons_of_none {item : Item} (h : item.definition? = none) :
    bodiesIn role (item :: listing) = bodiesIn role listing := by
  rw [bodiesIn, definitions, List.filterMap_cons_none h]
  rfl

@[simp] theorem bodiesIn_blank : bodiesIn role (.blank :: listing) = bodiesIn role listing :=
  bodiesIn_cons_of_none rfl

@[simp] theorem bodiesIn_banner (texts : List String) :
    bodiesIn role (.banner texts :: listing) = bodiesIn role listing := bodiesIn_cons_of_none rfl

theorem bodiesIn_definition (kind : Role) {signature : Signature} {front : String}
    (h : signature.headLine = front ++ kind.ending) (body : List Statement) :
    bodiesIn role (.definition signature body :: listing) =
      (if kind = role then [body] else []) ++ bodiesIn role listing := by
  have hcons : definitions (.definition signature body :: listing) =
      (signature, body) :: definitions listing := rfl
  rw [bodiesIn, hcons, List.filter_cons, h, Role.endsWith_append_ending]
  by_cases hkind : kind = role <;> simp [hkind, bodiesIn]

end BodiesIn

/-! ## Functions of a driver -/

namespace DriverPlan

theorem headLine_signature (plan : DriverPlan) (action : String) (parameters : List Parameter) :
    (plan.signature action parameters).headLine =
      "void " ++ plan.stem ++ ("_" ++ action ++ "(" ++ printParameters parameters ++ ")") := by
  simp [signature, Signature.headLine, DriverPlan.function, ← String.toList_inj]

theorem headLine_helperSignature (plan : DriverPlan) (action : String)
    (parameters : List Parameter) :
    (plan.helperSignature action parameters).headLine =
      "static inline void " ++ plan.stem ++
        ("_" ++ action ++ "(" ++ printParameters parameters ++ ")") := by
  simp [helperSignature, Signature.headLine, DriverPlan.function, ← String.toList_inj]

theorem headLine_controllerSignature (plan : DriverPlan) (phase : PhasePlan) :
    (plan.controllerSignature phase).headLine =
      "void " ++ plan.stem ++ "_" ++ phase.name ++ Role.controller.ending := by
  simp [controllerSignature, controller, Signature.headLine, DriverPlan.function, Role.ending,
    printParameters, ← String.toList_inj]

variable (plan : DriverPlan) (role : Role)

theorem bodiesIn_initFunction :
    bodiesIn role plan.initFunction = if Role.init = role then [plan.initBody] else [] := by
  rw [initFunction, bodiesIn_banner,
    bodiesIn_definition .init (plan.headLine_signature "init" [])]
  simp

theorem bodiesIn_deadtimeFunction (deadtime : Deadtime) (kind : Role)
    (h : "_" ++ deadtime.action ++ "(" ++ printParameters [⟨"uint32_t", "deadtime"⟩] ++ ")" =
      kind.ending) :
    bodiesIn role (plan.deadtimeFunction deadtime) =
      if kind = role then [plan.deadtimeBody deadtime] else [] := by
  have hhead := plan.headLine_signature deadtime.action [⟨"uint32_t", "deadtime"⟩]
  rw [h] at hhead
  rw [deadtimeFunction, bodiesIn_definition kind hhead, deadtimeBody]
  simp

theorem bodiesIn_controlFunctions :
    bodiesIn role plan.controlFunctions =
      (if Role.startAll = role then [plan.startBody] else []) ++
      (if Role.stopAll = role then [plan.stopBody] else []) ++
      (if Role.setFsw = role then [plan.setFswBody] else []) ++
      (if Role.setDuty = role then [plan.setDutyBody] else []) ++
      (if Role.setDeadtimePos = role then [plan.deadtimeBody positiveDeadtime] else []) ++
      (if Role.setDeadtimeNeg = role then [plan.deadtimeBody negativeDeadtime] else []) := by
  have hduty := plan.headLine_signature "setDuty"
    [⟨"modulator_phase_t", "phase"⟩, ⟨"float", "duty"⟩]
  simp only [controlFunctions, bodiesIn_append, bodiesIn_banner, bodiesIn_blank, bodiesIn_nil,
    bodiesIn_deadtimeFunction plan role positiveDeadtime .setDeadtimePos rfl,
    bodiesIn_deadtimeFunction plan role negativeDeadtime .setDeadtimeNeg rfl,
    bodiesIn_definition .startAll (plan.headLine_signature "startAll" []),
    bodiesIn_definition .stopAll (plan.headLine_signature "stopAll" []),
    bodiesIn_definition .setFsw (plan.headLine_signature "setFsw" [⟨"uint32_t", "fsw"⟩]),
    setDutySignature, bodiesIn_definition .setDuty hduty, List.append_nil, List.append_assoc]

theorem bodiesIn_controllers (phases : List PhasePlan) :
    bodiesIn role (phases.flatMap plan.controllerFunction) =
      if Role.controller = role then phases.map plan.controllerBody else [] := by
  induction phases with
  | nil => simp
  | cons phase phases ih =>
    rw [List.flatMap_cons, bodiesIn_append, ih, controllerFunction, bodiesIn_banner,
      bodiesIn_definition .controller (plan.headLine_controllerSignature phase)]
    by_cases hrole : Role.controller = role <;> simp [hrole]

theorem bodiesIn_interruptHandlers :
    bodiesIn role plan.interruptHandlers =
      (if Role.currentController = role then [plan.currentControllerBody] else []) ++
      (if Role.controller = role then plan.isrPhases.map plan.controllerBody else []) ++
      (if Role.initDmaIsr = role then [initDmaBody] else []) ++
      (if Role.updatePhaseShift = role then [plan.phaseShiftBody] else []) := by
  have hcontroller := plan.headLine_helperSignature "CurrentController"
    [⟨"modulator_phase_t", "phase"⟩, ⟨"int32_t", "err"⟩]
  simp only [interruptHandlers, bodiesIn_append, bodiesIn_controllers, bodiesIn_banner,
    bodiesIn_blank, bodiesIn_nil, bodiesIn_definition .currentController hcontroller,
    bodiesIn_definition .initDmaIsr (plan.headLine_helperSignature "init_DMA_ISR" []),
    bodiesIn_definition .updatePhaseShift (plan.headLine_helperSignature "updatePhaseShift" []),
    initDmaBody, phaseShiftBody, List.append_nil, List.append_assoc]

end DriverPlan

/-! ## Functions of a source -/

/-- The bodies of one kind of function are those of the drivers, in order. -/
theorem bodiesOf_source (role : Role) (base stamp : String) (plans : List DriverPlan) :
    bodiesOf role.ending (Listing.lines layout (source base stamp plans)) =
      (plans.flatMap (·.bodies role)).map fun body => body.flatMap (Statement.lines layout) := by
  have hhelpers : ∀ plan : DriverPlan, bodiesIn role plan.helperDeclarations = [] := fun _ => rfl
  have hinstance : ∀ plan : DriverPlan, bodiesIn role plan.configInstance = [] := fun _ => rfl
  have hbanner : bodiesIn role (banner base "Source" stamp) = [] := rfl
  have hincludes : ∀ file, bodiesIn role
      [.ownInclude file, .systemInclude "math.h", .blank] = [] := fun _ => rfl
  have hcomment : bodiesIn role [.comment "Static helper functions"] = [] := rfl
  rw [bodiesOf_ending]
  congr 1
  simp only [source, sourceSections, bodiesIn_append, bodiesIn_flatMap, hhelpers, hinstance,
    hbanner, hincludes, hcomment, bodiesIn_blank, bodiesIn_nil, List.nil_append,
    DriverPlan.bodiesIn_initFunction, DriverPlan.bodiesIn_controlFunctions,
    DriverPlan.bodiesIn_interruptHandlers]
  -- Every kind of function stands in just one of the three sections of functions.
  cases role <;> simp [DriverPlan.bodies, flatMap_none]

theorem bodiesOf_source_of_singleton {role : Role} {body : DriverPlan → List Statement}
    (h : ∀ plan : DriverPlan, plan.bodies role = [body plan]) (base stamp : String)
    (plans : List DriverPlan) :
    bodiesOf role.ending (Listing.lines layout (source base stamp plans)) =
      plans.map fun plan => (body plan).flatMap (Statement.lines layout) := by
  rw [bodiesOf_source, List.map_flatMap, List.map_eq_flatMap]
  simp only [h, List.map_singleton]

end FirmwareGen.Modulators
