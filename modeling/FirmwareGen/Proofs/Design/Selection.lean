-- SUMMARY: An import yields one phase for each output of a document, numbered in document order.
import FirmwareGen.Proofs.Design.RoundTrip
import Mathlib.Data.List.Forall2
/-!
# Which phases an import yields

An element of a document describes an output if it is a PWM personality whose block has an alias; of
several blocks, lists of aliases and aliases the first one counts. An import yields a phase for each
of these elements, wherever they stand, and nothing else takes a number.
-/

namespace FirmwareGen.Design

open Markup

/-! ## Outputs of a document -/

/-- An element of the design namespace with a local name. -/
def Named (name : String) (element : Element) : Prop :=
  element.space = some designSpace ∧ element.name = name

/-- The first of some elements that has a name of the design namespace. -/
def FirstNamed (name : String) (elements : List Element) (first : Element) : Prop :=
  ∃ before after, elements = before ++ first :: after ∧ Named name first ∧
    ∀ other ∈ before, ¬ Named name other

/-- An element that describes an output: the location of its block, or the empty text, and its
    alias. -/
structure Describes (element : Element) (location aliasName : String) : Prop where
  personality : Named "Personality" element
  template : element.attribute? "template" = some "mxs40pwm_ver2"
  block : ∃ block aliases first,
    FirstNamed "Block" element.children block ∧ FirstNamed "Aliases" block.children aliases ∧
      FirstNamed "Alias" aliases.children first ∧ first.attribute? "value" = some aliasName ∧
        (block.attribute? "location").getD "" = location
  alias_not_blank : Text.isBlank aliasName = false

/-- Whether an element describes an output. -/
def IsOutput (element : Element) : Prop :=
  ∃ location aliasName, Describes element location aliasName

/-- The phase that an element yields if it is the output of this number. -/
structure Yields (number : Nat) (element : Element) (phase : Phase) : Prop where
  /-- Numbers have 32 bits. -/
  id_eq : number < 4294967296 → phase.id.toNat = number
  described : Describes element phase.pwm phase.aliasName

/-! ## First children -/

theorem is_eq_true_iff {element : Element} {name : String} :
    element.is designSpace name = true ↔ Named name element := by
  rw [Element.is, Named, Bool.and_eq_true, beq_iff_eq, beq_iff_eq, and_comm]

theorem child?_eq_some_iff {element child : Element} {name : String} :
    element.child? designSpace name = some child ↔ FirstNamed name element.children child := by
  rw [Element.child?, List.find?_eq_some_iff_append]
  constructor
  · rintro ⟨hchild, before, after, hchildren, hbefore⟩
    refine ⟨before, after, hchildren, is_eq_true_iff.1 hchild, fun other hother hnamed => ?_⟩
    have hnot := hbefore other hother
    rw [is_eq_true_iff.2 hnamed] at hnot
    cases hnot
  · rintro ⟨before, after, hchildren, hchild, hbefore⟩
    refine ⟨is_eq_true_iff.2 hchild, before, after, hchildren, fun other hother => ?_⟩
    rw [Bool.not_eq_true', Bool.eq_false_iff, ne_eq, is_eq_true_iff]
    exact hbefore other hother

theorem isPwmPersonality_iff {element : Element} :
    isPwmPersonality element = true ↔
      Named "Personality" element ∧ element.attribute? "template" = some "mxs40pwm_ver2" := by
  rw [isPwmPersonality, Bool.and_eq_true, is_eq_true_iff, beq_iff_eq, pwmTemplate]

/-- A text that is not blank is the alias of a block exactly if the first alias in its first list of
    aliases has it as its value. -/
theorem readAlias_eq_iff {block : Element} {aliasName : String}
    (h : Text.isBlank aliasName = false) :
    readAlias block = aliasName ↔ ∃ aliases first,
      FirstNamed "Aliases" block.children aliases ∧ FirstNamed "Alias" aliases.children first ∧
        first.attribute? "value" = some aliasName := by
  have hempty : aliasName ≠ "" := by
    rintro rfl
    rw [Text.isBlank_empty] at h
    cases h
  simp only [readAlias, Option.bind_eq_bind]
  constructor
  · intro hread
    cases haliases : block.child? designSpace "Aliases" with
    | none => exact absurd (by simpa [haliases] using hread.symm) hempty
    | some aliases =>
      cases hfirst : aliases.child? designSpace "Alias" with
      | none => exact absurd (by simpa [haliases, hfirst] using hread.symm) hempty
      | some first =>
        cases hvalue : first.attribute? "value" with
        | none => exact absurd (by simpa [haliases, hfirst, hvalue] using hread.symm) hempty
        | some value =>
          have heq : value = aliasName := by simpa [haliases, hfirst, hvalue] using hread
          exact ⟨aliases, first, child?_eq_some_iff.1 haliases, child?_eq_some_iff.1 hfirst,
            heq ▸ hvalue⟩
  · rintro ⟨aliases, first, haliases, hfirst, hvalue⟩
    simp [child?_eq_some_iff.2 haliases, child?_eq_some_iff.2 hfirst, hvalue]

/-! ## Reading outputs -/

theorem read_eq_output_iff {element : Element} {location aliasName : String}
    {parameters : List Parameter} :
    Personality.read element = .output location aliasName parameters ↔
      (∃ block, element.child? designSpace "Block" = some block ∧
        (block.attribute? "location").getD "" = location ∧ readAlias block = aliasName) ∧
        Text.isBlank aliasName = false ∧ readParameters element = parameters := by
  unfold Personality.read
  constructor
  · intro hread
    cases hblock : element.child? designSpace "Block" with
    | none => simp [hblock] at hread
    | some block =>
      cases hblank : Text.isBlank (readAlias block) with
      | true => simp [hblock, hblank] at hread
      | false =>
        simp only [hblock, hblank, Bool.false_eq_true, if_false, Personality.output.injEq] at hread
        obtain ⟨hlocation, halias, hparameters⟩ := hread
        exact ⟨⟨block, rfl, hlocation, halias⟩, halias ▸ hblank, hparameters⟩
  · rintro ⟨⟨block, hblock, rfl, rfl⟩, hblank, rfl⟩
    simp [hblock, hblank]

/-- Among the PWM personalities, those that describe an output are read as one. -/
theorem describes_iff {element : Element} {location aliasName : String} :
    Describes element location aliasName ↔ isPwmPersonality element = true ∧
      ∃ parameters, Personality.read element = .output location aliasName parameters := by
  simp only [read_eq_output_iff, isPwmPersonality_iff]
  constructor
  · rintro ⟨hpersonality, htemplate, ⟨block, aliases, first, hblock, haliases, hfirst, hvalue, rfl⟩,
      hblank⟩
    have halias : readAlias block = aliasName :=
      (readAlias_eq_iff hblank).2 ⟨aliases, first, haliases, hfirst, hvalue⟩
    exact ⟨⟨hpersonality, htemplate⟩, _, ⟨block, child?_eq_some_iff.2 hblock, rfl, halias⟩, hblank,
      rfl⟩
  · rintro ⟨⟨hpersonality, htemplate⟩, _, ⟨block, hblock, hlocation, halias⟩, hblank, -⟩
    obtain ⟨aliases, first, haliases, hfirst, hvalue⟩ := (readAlias_eq_iff hblank).1 halias
    exact ⟨hpersonality, htemplate, ⟨block, aliases, first, child?_eq_some_iff.1 hblock, haliases,
      hfirst, hvalue, hlocation⟩, hblank⟩

/-- A personality from which a phase is made. -/
def Personality.isOutput : Personality → Bool
  | .output .. => true
  | _ => false

theorem isOutput_iff {element : Element} :
    (isPwmPersonality element && (Personality.read element).isOutput) = true ↔ IsOutput element := by
  simp only [IsOutput, describes_iff, Bool.and_eq_true]
  constructor
  · rintro ⟨hpwm, houtput⟩
    cases hread : Personality.read element with
    | withoutBlock => simp [hread, Personality.isOutput] at houtput
    | withoutAlias location => simp [hread, Personality.isOutput] at houtput
    | output location aliasName parameters => exact ⟨location, aliasName, hpwm, parameters, rfl⟩
  · rintro ⟨location, aliasName, hpwm, parameters, hread⟩
    rw [hread]
    exact ⟨hpwm, rfl⟩

instance (element : Element) : Decidable (IsOutput element) := decidable_of_iff _ isOutput_iff

/-- The elements of a document that describe outputs, in document order. -/
def outputs (root : Element) : List Element := root.preorder.filter IsOutput

/-- The search of an import finds all outputs. -/
theorem outputs_eq (root : Element) :
    outputs root = (root.search isPwmPersonality).filter IsOutput := by
  rw [outputs, Element.search_eq, List.filter_filter]
  refine List.filter_congr fun element _ => ?_
  cases hpwm : isPwmPersonality element with
  | true => rw [Bool.and_true]
  | false =>
    rw [Bool.and_false, decide_eq_false_iff_not]
    rintro ⟨location, aliasName, h⟩
    rw [(describes_iff.1 h).1] at hpwm
    cases hpwm

/-! ## Numbering -/

/-- Parameters leave the number, the resource and the alias of a phase alone. -/
theorem applyParameter_keeps (phase : Phase) (parameter : Parameter) :
    (applyParameter phase parameter).id = phase.id ∧
      (applyParameter phase parameter).pwm = phase.pwm ∧
        (applyParameter phase parameter).aliasName = phase.aliasName := by
  unfold applyParameter
  repeat' split
  all_goals exact ⟨rfl, rfl, rfl⟩

theorem outputPhase_keeps (id : UInt32) (location aliasName : String)
    (parameters : List Parameter) :
    (outputPhase id location aliasName parameters).id = id ∧
      (outputPhase id location aliasName parameters).pwm = location ∧
        (outputPhase id location aliasName parameters).aliasName = aliasName := by
  have hfold : ∀ phase : Phase, (parameters.foldl applyParameter phase).id = phase.id ∧
      (parameters.foldl applyParameter phase).pwm = phase.pwm ∧
        (parameters.foldl applyParameter phase).aliasName = phase.aliasName := by
    induction parameters with
    | nil => exact fun phase => ⟨rfl, rfl, rfl⟩
    | cons parameter parameters ih =>
      intro phase
      obtain ⟨hid, hpwm, halias⟩ := applyParameter_keeps phase parameter
      rw [List.foldl_cons, ← hid, ← hpwm, ← halias]
      exact ih (applyParameter phase parameter)
  exact hfold { id, aliasName, pwm := location }

/-- Of some PWM personalities, the outputs are numbered on from the last phase; the others take no
    number. -/
theorem yields_phasesAfter {elements : List Element}
    (h : ∀ element ∈ elements, isPwmPersonality element = true) (last : Nat) :
    List.Forall₂ (fun output phase => Yields output.2 output.1 phase)
      ((elements.filter IsOutput).zipIdx (last + 1))
      (phasesAfter (.ofNat last) (elements.map Personality.read)) := by
  induction elements generalizing last with
  | nil => exact .nil
  | cons element elements ih =>
    rw [List.forall_mem_cons] at h
    by_cases houtput : IsOutput element
    · obtain ⟨location, aliasName, hdescribes⟩ := houtput
      have hnext : UInt32.ofNat last + 1 = UInt32.ofNat (last + 1) := by
        rw [UInt32.ofNat_add]
        rfl
      obtain ⟨-, parameters, hread⟩ := describes_iff.1 hdescribes
      rw [List.filter_cons_of_pos (by simpa using ⟨location, aliasName, hdescribes⟩),
        List.zipIdx_cons, List.map_cons, hread, phasesAfter, hnext]
      obtain ⟨hid, hpwm, halias⟩ :=
        outputPhase_keeps (.ofNat (last + 1)) location aliasName parameters
      refine .cons ⟨fun hnumber => ?_, ?_⟩ (ih h.2 (last + 1))
      · rw [hid, UInt32.toNat_ofNat', Nat.mod_eq_of_lt hnumber]
      · rw [hpwm, halias]
        exact hdescribes
    · have hskipped : phasesAfter (.ofNat last) ((element :: elements).map Personality.read) =
          phasesAfter (.ofNat last) (elements.map Personality.read) := by
        have hnot : (Personality.read element).isOutput = false := by
          rw [← isOutput_iff, h.1, Bool.true_and] at houtput
          exact Bool.eq_false_iff.2 houtput
        rw [List.map_cons]
        cases hread : Personality.read element with
        | output location aliasName parameters => simp [hread, Personality.isOutput] at hnot
        | withoutBlock => rfl
        | withoutAlias location => rfl
      rw [List.filter_cons_of_neg (by simpa using houtput), hskipped]
      exact ih h.2 last

/-! ## Reports -/

/-- A document that cannot be read is reported with a message and without phases; from the tree of
    one that can be read, an import takes the outputs in document order, numbered from one on. -/
theorem phases_importReport (document : String) :
    (∀ error, readDocument document.toList = .error error →
      (importReport document).success = false ∧ (importReport document).phases = [] ∧
        (importReport document).errorMessage = "Error parsing .modus file: " ++ error.message) ∧
    ∀ root, readDocument document.toList = .ok root →
      (importReport document).success = true ∧ (importReport document).errorMessage = "" ∧
        List.Forall₂ (fun output phase => Yields output.2 output.1 phase)
          ((outputs root).zipIdx 1) (importReport document).phases := by
  constructor
  · intro error herror
    rw [importReport, importDesign, herror]
    exact ⟨rfl, rfl, rfl⟩
  · intro root hroot
    rw [importReport, importDesign, hroot]
    refine ⟨rfl, rfl, ?_⟩
    have hfound : ∀ element ∈ root.search isPwmPersonality, isPwmPersonality element = true := by
      intro element helement
      rw [Element.search_eq] at helement
      exact (List.mem_filter.1 helement).2
    rw [outputs_eq]
    exact yields_phasesAfter hfound 0

/-- A personality with another one inside its block, behind two that describe no output. -/
def nestedRoot : Element :=
  node "Design" []
    [node "Personality" [("template", pwmTemplate)] [],
      node "Personality" [] [],
      node "Personality" [("template", pwmTemplate)]
        [node "Block" [("location", "PWM_A")]
          [node "Aliases" [] [node "Alias" [("value", "outer")] []],
            node "Personality" [("template", pwmTemplate)]
              [node "Block" [] [node "Aliases" [] [node "Alias" [("value", "inner")] []]]]]]]

def nestedDocument : String :=
  String.ofList ((nestedRoot.declaring .default designSpace.toList).written .default).print

theorem readDocument_nestedDocument :
    readDocument nestedDocument.toList =
      .ok (nestedRoot.declaring .default designSpace.toList) := by
  have hplain : ∀ x ∈ nestedRoot.preorder, x.IsPlain designSpace.toList := by decide
  rw [nestedDocument, String.toList_ofList]
  exact readDocument_print (by decide) designSpace_bindable escape_designSpace hplain (by decide)

theorem phases_importReport_nestedDocument :
    readDocument nestedDocument.toList = .ok (nestedRoot.declaring .default designSpace.toList) ∧
      (importReport nestedDocument).success = true ∧
        List.Forall₂ (fun output phase => Yields output.2 output.1 phase)
          ((outputs (nestedRoot.declaring .default designSpace.toList)).zipIdx 1)
          (importReport nestedDocument).phases := by
  obtain ⟨hsuccess, -, hphases⟩ :=
    (phases_importReport nestedDocument).2 _ readDocument_nestedDocument
  exact ⟨readDocument_nestedDocument, hsuccess, hphases⟩

end FirmwareGen.Design
