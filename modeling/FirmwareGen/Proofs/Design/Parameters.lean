-- SUMMARY: Parameters are independent, and of each the last one that can be read wins.
import FirmwareGen.Proofs.Design.Selection
/-!
# Parameters of personalities

A parameter sets one field of a phase or none. So parameters of different ids do not get into each
other's way, and of those of one id the last that can be read counts.
-/

namespace FirmwareGen.Design

open Markup

/-! ## Last values -/

/-- A value is replaced by what is given last, if anything is given. -/
def LastGives {α β : Type} (gives : α → β → Prop) (xs : List α) (before after : β) : Prop :=
  (∃ front x back, xs = front ++ x :: back ∧ gives x after ∧ ∀ y ∈ back, ∀ b, ¬ gives y b) ∨
    (∀ x ∈ xs, ∀ b, ¬ gives x b) ∧ after = before

theorem lastGives_getLast? {α β : Type} {gives : α → β → Prop} {read? : α → Option β}
    (h : ∀ x b, read? x = some b ↔ gives x b) (xs : List α) (before : β) :
    LastGives gives xs before ((xs.filterMap read?).getLast?.getD before) := by
  have hnone : ∀ x, read? x = none → ∀ b, ¬ gives x b := by
    intro x hx b hb
    rw [(h x b).2 hb] at hx
    cases hx
  rw [List.getLast?_filterMap]
  cases hlast : xs.reverse.findSome? read? with
  | none =>
    rw [List.findSome?_eq_none_iff] at hlast
    exact .inr ⟨fun x hx => hnone x (hlast x (List.mem_reverse.2 hx)), rfl⟩
  | some b =>
    obtain ⟨back, x, front, hsplit, hx, hback⟩ := List.findSome?_eq_some_iff.1 hlast
    refine .inl ⟨front.reverse, x, back.reverse, ?_, (h x b).1 hx, fun y hy => ?_⟩
    · rw [← List.reverse_reverse xs, hsplit]
      simp
    · exact hnone y (hback y (List.mem_reverse.1 hy))

/-! ## Settings -/

/-- The parameters of an id, and how their values are read. -/
structure Setting (α : Type) where
  id : String
  read? : String → Option α

namespace Setting

def phaseShift : Setting String := ⟨ParameterId.phaseShift, some⟩

def invert : Setting Bool := ⟨ParameterId.invert, fun value => some (value == "true")⟩

def groupNumber : Setting Int32 := ⟨ParameterId.groupNumber, readGroupNumber?⟩

def alignment : Setting PwmAlignment := ⟨ParameterId.alignment, Choice.named? PwmAlignment⟩

variable {α : Type}

/-- What a parameter gives. -/
def given? (setting : Setting α) (parameter : Parameter) : Option α :=
  if parameter.1 = setting.id then setting.read? parameter.2 else none

/-- What is given last. -/
def last? (setting : Setting α) (parameters : List Parameter) : Option α :=
  (parameters.filterMap setting.given?).getLast?

theorem getD_last?_cons (setting : Setting α) (parameter : Parameter)
    (parameters : List Parameter) (before : α) :
    (setting.last? (parameter :: parameters)).getD before =
      (setting.last? parameters).getD ((setting.given? parameter).getD before) := by
  unfold last?
  cases hgiven : setting.given? parameter with
  | none => rw [List.filterMap_cons_none hgiven, Option.getD_none]
  | some a =>
    rw [List.filterMap_cons_some hgiven, List.getLast?_cons, Option.getD_some, Option.getD_some]

end Setting

/-- What a parameter does: each field takes what the parameter gives it. -/
theorem applyParameter_eq (phase : Phase) (parameter : Parameter) :
    applyParameter phase parameter =
      { phase with
        phaseShift := (Setting.phaseShift.given? parameter).getD phase.phaseShift
        isInverted := (Setting.invert.given? parameter).getD phase.isInverted
        groupNumber := (Setting.groupNumber.given? parameter).getD phase.groupNumber
        alignment := (Setting.alignment.given? parameter).getD phase.alignment } := by
  obtain ⟨id, value⟩ := parameter
  unfold applyParameter Setting.given?
  by_cases hshift : id = ParameterId.phaseShift
  · subst hshift
    rfl
  by_cases hinvert : id = ParameterId.invert
  · subst hinvert
    rfl
  have hne : ParameterId.groupNumber ≠ ParameterId.alignment := by decide
  by_cases hgroup : id = ParameterId.groupNumber
  · subst hgroup
    cases hread : readGroupNumber? value <;>
      simp [Setting.phaseShift, Setting.invert, Setting.groupNumber, Setting.alignment, hshift,
        hinvert, hne, hread]
  by_cases halignment : id = ParameterId.alignment
  · subst halignment
    cases hread : Choice.named? PwmAlignment value <;>
      simp [Setting.phaseShift, Setting.invert, Setting.groupNumber, Setting.alignment, hshift,
        hinvert, hgroup, hread]
  · simp [Setting.phaseShift, Setting.invert, Setting.groupNumber, Setting.alignment, hshift,
      hinvert, hgroup, halignment]

theorem foldl_applyParameter (phase : Phase) (parameters : List Parameter) :
    parameters.foldl applyParameter phase =
      { phase with
        phaseShift := (Setting.phaseShift.last? parameters).getD phase.phaseShift
        isInverted := (Setting.invert.last? parameters).getD phase.isInverted
        groupNumber := (Setting.groupNumber.last? parameters).getD phase.groupNumber
        alignment := (Setting.alignment.last? parameters).getD phase.alignment } := by
  induction parameters generalizing phase with
  | nil => rfl
  | cons parameter parameters ih =>
    rw [List.foldl_cons, ih, applyParameter_eq]
    simp only [Setting.getD_last?_cons]

/-! ## Elements -/

/-- The value that an element gives the parameter of an id, if it has that id and a value. -/
def valueOf? (id : String) (element : Element) : Option String :=
  if element.attribute? "id" = some id then (element.attribute? "value").filter (· ≠ "") else none

/-- The values that some elements give the parameter of an id. -/
def valuesOf (id : String) (elements : List Element) : List String :=
  elements.filterMap (valueOf? id)

/-- A phase after the parameters of some elements. -/
def applied (phase : Phase) (elements : List Element) : Phase :=
  (elements.filterMap readParameter?).foldl applyParameter phase

theorem bind_readParameter? {α : Type} {setting : Setting α} (hid : setting.id ≠ "")
    (element : Element) :
    (readParameter? element).bind setting.given? =
      (valueOf? setting.id element).bind setting.read? := by
  unfold readParameter? valueOf?
  cases helement : element.attribute? "id" with
  | none => simp
  | some id =>
    cases hvalue : element.attribute? "value" with
    | none => simp
    | some value =>
      by_cases hempty : value = ""
      · simp [hempty, Option.filter_some]
      · by_cases hmatch : id = setting.id
        · simp [hempty, hmatch, hid, Setting.given?, Option.filter_some]
        · by_cases hblank : id = ""
          · simp [hblank, Ne.symm hid]
          · simp [hempty, hmatch, hblank, Setting.given?]

theorem last?_readParameters {α : Type} {setting : Setting α} (hid : setting.id ≠ "")
    (elements : List Element) :
    setting.last? (elements.filterMap readParameter?) =
      ((valuesOf setting.id elements).filterMap setting.read?).getLast? := by
  rw [Setting.last?, valuesOf, List.filterMap_filterMap, List.filterMap_filterMap]
  simp only [bind_readParameter? hid]

/-- The fields of a phase after the parameters of some elements. -/
theorem applied_eq (phase : Phase) (elements : List Element) :
    applied phase elements =
      { phase with
        phaseShift := ((valuesOf "PhaseShift" elements).filterMap some).getLast?.getD phase.phaseShift
        isInverted := ((valuesOf "InvertPwm" elements).filterMap fun value =>
          some (value == "true")).getLast?.getD phase.isInverted
        groupNumber :=
          ((valuesOf "GroupNumber" elements).filterMap readGroupNumber?).getLast?.getD phase.groupNumber
        alignment := ((valuesOf "PwmAlignment" elements).filterMap
          (Choice.named? PwmAlignment)).getLast?.getD phase.alignment } := by
  rw [applied, foldl_applyParameter, last?_readParameters (by decide),
    last?_readParameters (by decide), last?_readParameters (by decide),
    last?_readParameters (by decide)]
  rfl

/-! ## Settled phases -/

/-- A phase before and after the parameters of some elements. -/
structure Settled (elements : List Element) (before after : Phase) : Prop where
  phaseShift : LastGives (fun value text => text = value) (valuesOf "PhaseShift" elements)
    before.phaseShift after.phaseShift
  isInverted : LastGives (fun value flag => flag = true ↔ value = "true")
    (valuesOf "InvertPwm" elements) before.isInverted after.isInverted
  /-- The number is one of 32 bits, so others are passed over. -/
  groupNumber : LastGives
    (fun value (n : Int32) => Text.WritesInt (Text.trim value.toList) n.toInt)
    (valuesOf "GroupNumber" elements) before.groupNumber after.groupNumber
  alignment : LastGives (fun value alignment => Choice.name alignment = value)
    (valuesOf "PwmAlignment" elements) before.alignment after.alignment
  /-- All other fields are as before. -/
  others : after = { before with
    phaseShift := after.phaseShift
    isInverted := after.isInverted
    groupNumber := after.groupNumber
    alignment := after.alignment }

/-- A group number is read from just the values that write an integer of 32 bits. -/
theorem readGroupNumber?_eq_some_iff {value : String} {n : Int32} :
    readGroupNumber? value = some n ↔ Text.WritesInt (Text.trim value.toList) n.toInt := by
  rw [← Text.readInt?_eq_some_iff, readGroupNumber?]
  constructor
  · intro h
    split at h
    · next number hnumber =>
      split at h
      · next hrange =>
        obtain rfl := Option.some.inj h
        rw [hnumber, Int32.toInt_ofInt_of_le hrange.1 (by omega)]
      · cases h
    · cases h
  · intro h
    rw [h]
    simp only
    rw [if_pos ⟨n.le_toInt, n.toInt_le⟩, Int32.ofInt_toInt]

theorem settled (phase : Phase) (elements : List Element) :
    Settled elements phase (applied phase elements) := by
  rw [applied_eq]
  exact
    { phaseShift := lastGives_getLast? (by simp [eq_comm]) _ _
      isInverted := lastGives_getLast? (fun value flag => by cases flag <;> simp) _ _
      groupNumber := lastGives_getLast? (fun _ _ => readGroupNumber?_eq_some_iff) _ _
      alignment := lastGives_getLast? (fun _ _ => Choice.named?_eq_some_iff) _ _
      others := rfl }

/-! ## Order and further parameters -/

/-- The elements with an id. -/
def withId (id : String) (elements : List Element) : List Element :=
  elements.filter (·.attribute? "id" = some id)

theorem valuesOf_withId (id : String) (elements : List Element) :
    valuesOf id (withId id elements) = valuesOf id elements := by
  rw [valuesOf, withId, List.filterMap_filter, valuesOf]
  refine List.filterMap_congr fun element _ => ?_
  by_cases hid : element.attribute? "id" = some id <;> simp [valueOf?, hid]

theorem applied_congr {elements others : List Element}
    (h : ∀ id, withId id elements = withId id others) (phase : Phase) :
    applied phase elements = applied phase others := by
  have hvalues : ∀ id, valuesOf id elements = valuesOf id others := by
    intro id
    rw [← valuesOf_withId, h, valuesOf_withId]
  simp only [applied_eq, hvalues]

/-- An element that sets a field of a phase. -/
inductive Sets (element : Element) : Prop
  | phaseShift {value : String} (h : valueOf? "PhaseShift" element = some value)
  | isInverted {value : String} (h : valueOf? "InvertPwm" element = some value)
  | groupNumber {value : String} {n : Int32} (h : valueOf? "GroupNumber" element = some value)
    (hn : Text.WritesInt (Text.trim value.toList) n.toInt)
  | alignment {value : String} {alignment : PwmAlignment}
    (h : valueOf? "PwmAlignment" element = some value) (hname : Choice.name alignment = value)

theorem applied_of_not_sets {element : Element} (h : ¬ Sets element) (phase : Phase) :
    applied phase [element] = phase := by
  have hnone : ∀ {α : Type} (id : String) (read? : String → Option α),
      (∀ value a, valueOf? id element = some value → read? value ≠ some a) →
      (valuesOf id [element]).filterMap read? = [] := by
    intro α id read? hread
    unfold valuesOf
    cases hvalue : valueOf? id element with
    | none => rw [List.filterMap_cons_none hvalue]; rfl
    | some value =>
      have hnot : read? value = none :=
        Option.eq_none_iff_forall_ne_some.2 fun a => hread value a hvalue
      rw [List.filterMap_cons_some hvalue, List.filterMap_nil, List.filterMap_cons_none hnot,
        List.filterMap_nil]
  rw [applied_eq, hnone "PhaseShift" _ fun value _ hvalue _ => h (.phaseShift hvalue),
    hnone "InvertPwm" _ fun value _ hvalue _ => h (.isInverted hvalue),
    hnone "GroupNumber" _ fun value n hvalue hn =>
      h (.groupNumber hvalue (readGroupNumber?_eq_some_iff.1 hn)),
    hnone "PwmAlignment" _ fun value a hvalue ha =>
      h (.alignment hvalue (Choice.named?_eq_some_iff.1 ha))]
  rfl

theorem applied_append (phase : Phase) (front back : List Element) :
    applied phase (front ++ back) = applied (applied phase front) back := by
  rw [applied, List.filterMap_append, List.foldl_append, applied, applied]

theorem applied_insert {element : Element} (h : ¬ Sets element) (phase : Phase)
    (front back : List Element) :
    applied phase (front ++ element :: back) = applied phase (front ++ back) := by
  rw [← List.singleton_append, applied_append, applied_append, applied_of_not_sets h,
    applied_append]

/-! ## Imported phases -/

/-- The elements with the parameters of a personality. -/
def parameterElements (personality : Element) : List Element :=
  match personality.child? designSpace "Parameters" with
  | none => []
  | some parameters => parameters.childrenNamed designSpace "Param"

theorem readParameters_eq (personality : Element) :
    readParameters personality = (parameterElements personality).filterMap readParameter? := by
  rw [readParameters, parameterElements]
  cases personality.child? designSpace "Parameters" <;> rfl

/-- The phase of an output: preset but for its number, its resource, its alias and what its parameters
    set. -/
theorem applied_phasesAfter {elements : List Element}
    (h : ∀ element ∈ elements, isPwmPersonality element = true) (last : UInt32) :
    List.Forall₂
      (fun output phase => phase =
        applied { id := phase.id, aliasName := phase.aliasName, pwm := phase.pwm }
          (parameterElements output))
      (elements.filter IsOutput) (phasesAfter last (elements.map Personality.read)) := by
  induction elements generalizing last with
  | nil => exact .nil
  | cons element elements ih =>
    rw [List.forall_mem_cons] at h
    have houtput := @isOutput_iff element
    rw [h.1, Bool.true_and] at houtput
    rw [List.map_cons]
    cases hread : Personality.read element with
    | output location aliasName parameters =>
      rw [hread] at houtput
      rw [List.filter_cons_of_pos (by simpa using houtput.1 rfl), phasesAfter]
      refine .cons ?_ (ih h.2 (last + 1))
      obtain ⟨hid, hpwm, halias⟩ := outputPhase_keeps (last + 1) location aliasName parameters
      obtain ⟨-, -, rfl⟩ := read_eq_output_iff.1 hread
      rw [hid, hpwm, halias, applied, ← readParameters_eq]
      rfl
    | withoutBlock | withoutAlias location =>
      rw [hread] at houtput
      rw [List.filter_cons_of_neg (by simpa using fun hout => Bool.false_ne_true (houtput.2 hout)),
        phasesAfter]
      exact ih h.2 last

/-- Parameters are independent, and of those of one id the last that can be read wins. So it does not
    matter how those of different ids are mixed, nor what else there is. These are the parameters that
    an import applies. -/
theorem settled_applied :
    (∀ phase elements, Settled elements phase (applied phase elements)) ∧
      (∀ phase elements others, (∀ id, withId id elements = withId id others) →
        applied phase elements = applied phase others) ∧
      (∀ phase front element back, ¬ Sets element →
        applied phase (front ++ element :: back) = applied phase (front ++ back)) ∧
      ∀ document root, readDocument document.toList = .ok root →
        ∃ imported, importDesign document = .ok imported ∧
          List.Forall₂
            (fun output phase => phase =
              applied { id := phase.id, aliasName := phase.aliasName, pwm := phase.pwm }
                (parameterElements output))
            (outputs root) imported.phases := by
  refine ⟨settled, fun phase elements others h => applied_congr h phase,
    fun phase front element back h => applied_insert h phase front back,
    fun document root hroot => ⟨Imported.ofRoot root, by rw [importDesign, hroot]; rfl, ?_⟩⟩
  rw [outputs_eq, Imported.ofRoot]
  refine applied_phasesAfter (fun element helement => ?_) 0
  rw [Element.search_eq] at helement
  exact (List.mem_filter.1 helement).2

/-- Parameters that are given twice, with values that cannot be read. -/
def repeatedParameters : List Element :=
  [("GroupNumber", " +07 "), ("PhaseShift", "90"), ("GroupNumber", "2147483648"),
    ("InvertPwm", "true"), ("PwmAlignment", "LeftAligned"), ("PwmAlignment", "left"),
    ("InvertPwm", "True")].map parameterElement

/-- The parameters of `repeatedParameters`, those of one id side by side. -/
def groupedParameters : List Element :=
  [("PhaseShift", "90"), ("InvertPwm", "true"), ("InvertPwm", "True"), ("GroupNumber", " +07 "),
    ("GroupNumber", "2147483648"), ("PwmAlignment", "LeftAligned"),
    ("PwmAlignment", "left")].map parameterElement

theorem withId_map (id : String) (parameters : List Parameter) :
    withId id (parameters.map parameterElement) =
      (parameters.filter (·.1 = id)).map parameterElement := by
  rw [withId, List.filter_map]
  refine congrArg _ (List.filter_congr fun parameter _ => ?_)
  simp [parameterElement, node, Element.attribute?]

def unknownParameter : Element := parameterElement ("Deadtime", "5")

theorem settled_applied_repeatedParameters :
    (∀ id, withId id repeatedParameters = withId id groupedParameters) ∧ ¬ Sets unknownParameter ∧
      Settled repeatedParameters {} { phaseShift := "90", groupNumber := 7, alignment := .left } ∧
      applied {} (unknownParameter :: groupedParameters) =
        { phaseShift := "90", groupNumber := 7, alignment := .left } := by
  have happlied : applied {} repeatedParameters =
      { phaseShift := "90", groupNumber := 7, alignment := .left } := by decide
  have hgrouped : ∀ id, withId id repeatedParameters = withId id groupedParameters := by
    intro id
    rw [repeatedParameters, groupedParameters, withId_map, withId_map]
    congr 1
    by_cases hshift : "PhaseShift" = id
    · subst hshift
      rfl
    by_cases hinvert : "InvertPwm" = id
    · subst hinvert
      rfl
    by_cases hgroup : "GroupNumber" = id
    · subst hgroup
      rfl
    · simp [List.filter_cons, hshift, hinvert, hgroup]
  have hunknown : ¬ Sets unknownParameter := by
    rintro (h | h | h | h) <;> cases h
  obtain ⟨hsettled, hcongr, hinsert, -⟩ := settled_applied
  refine ⟨hgrouped, hunknown, happlied ▸ hsettled {} repeatedParameters, ?_⟩
  exact (hinsert {} [] unknownParameter groupedParameters hunknown).trans
    ((hcongr {} _ _ hgrouped).symm.trans happlied)

end FirmwareGen.Design
