-- SUMMARY: Design files that are written for phases, and that an import reads the phases back.
import FirmwareGen.Design.Import
import FirmwareGen.Proofs.Markup.Trees
import FirmwareGen.Proofs.Text.Numeral
/-!
# Writing and importing design files

A design file is laid out as a tree: personalities, one for each phase, in groups that may be
nested. It is written in the design namespace, bound as the default namespace or to a prefix.
Importing it reads the documented fields of its phases back, in document order.
-/

namespace FirmwareGen.Design

open Markup

/-! ## Personalities of phases -/

/-- An element of the design namespace. -/
def node (name : String) (attributes : List (String × String)) (children : List Element) :
    Element :=
  { space := some designSpace, name, attributes, children }

def aliasElement (phase : Phase) : Element := node "Alias" [("value", phase.aliasName)] []

def blockElement (phase : Phase) : Element :=
  node "Block" [("location", phase.pwm)] [node "Aliases" [] [aliasElement phase]]

/-- A group number in decimal digits, with a sign if it is negative. -/
def decimal (n : Int32) : String := toString n.toInt

def invertText (isInverted : Bool) : String := if isInverted then "true" else "false"

/-- The parameters that document the settings of a phase. -/
def documentedParameters (phase : Phase) : List Parameter :=
  [(ParameterId.phaseShift, phase.phaseShift),
    (ParameterId.invert, invertText phase.isInverted),
    (ParameterId.groupNumber, decimal phase.groupNumber),
    (ParameterId.alignment, Choice.name phase.alignment)]

def parameterElement (parameter : Parameter) : Element :=
  node "Param" [("id", parameter.1), ("value", parameter.2)] []

/-- The personality that documents a phase. -/
def personalityElement (phase : Phase) : Element :=
  node "Personality" [("template", pwmTemplate)]
    [blockElement phase,
      node "Parameters" [] ((documentedParameters phase).map parameterElement)]

/-- What a design file says of a phase: the fields that it does not document are preset. -/
def documentedPhase (id : UInt32) (phase : Phase) : Phase :=
  { id
    aliasName := phase.aliasName
    pwm := phase.pwm
    phaseShift := phase.phaseShift
    alignment := phase.alignment
    groupNumber := phase.groupNumber
    isInverted := phase.isInverted }

/-! ## Layouts -/

/-- How phases are laid out below the root: one by one, in groups of any name and depth. -/
inductive Layout
  | personality (phase : Phase)
  | group (name : String) (parts : List Layout)

namespace Layout

mutual

/-- The phases of a layout in document order. -/
def phases : Layout → List Phase
  | .personality phase => [phase]
  | .group _ parts => phasesAll parts

def phasesAll : List Layout → List Phase
  | [] => []
  | part :: rest => phases part ++ phasesAll rest

end

mutual

def element : Layout → Element
  | .personality phase => personalityElement phase
  | .group name parts => node name [] (elementAll parts)

def elementAll : List Layout → List Element
  | [] => []
  | part :: rest => element part :: elementAll rest

end

mutual

/-- All groups have names without a colon. -/
def NamesPlain : Layout → Prop
  | .personality _ => True
  | .group name parts => isNcName name.toList = true ∧ NamesPlainAll parts

def NamesPlainAll : List Layout → Prop
  | [] => True
  | part :: rest => NamesPlain part ∧ NamesPlainAll rest

end

end Layout

/-- A design file: how its elements are put into the namespace, its root and what is below that. -/
structure DesignFile where
  binding : Binding
  rootName : String
  parts : List Layout

namespace DesignFile

def phases (file : DesignFile) : List Phase := Layout.phasesAll file.parts

/-- The root without the declaration of the namespace. -/
def root (file : DesignFile) : Element := node file.rootName [] (Layout.elementAll file.parts)

/-- The text of a design file, with attribute values escaped. -/
def render (file : DesignFile) : String :=
  String.ofList
    ((file.root.declaring file.binding designSpace.toList).written file.binding).print

/-- A design file that can be read: its names can be told apart from the syntax around them, it is
    not nested too deep, and every phase has an alias. -/
structure Valid (file : DesignFile) : Prop where
  binding_allowed : file.binding.Allowed
  rootName_plain : isNcName file.rootName.toList = true
  names_plain : Layout.NamesPlainAll file.parts
  levels_le : file.root.levels ≤ levelLimit
  alias_not_blank : ∀ phase ∈ file.phases, Text.isBlank phase.aliasName = false

end DesignFile

/-! ## Reading one personality -/

/-! ### Parameters -/

theorem readGroupNumber?_decimal (n : Int32) : readGroupNumber? (decimal n) = some n := by
  rw [readGroupNumber?, decimal, Text.readInt?_toString]
  simp only
  rw [if_pos ⟨n.le_toInt, n.toInt_le⟩, Int32.ofInt_toInt]

theorem decimal_ne_empty (n : Int32) : decimal n ≠ "" := by
  intro h
  have hread := readGroupNumber?_decimal n
  rw [h] at hread
  cases hread

theorem invertText_ne_empty (isInverted : Bool) : invertText isInverted ≠ "" := by
  cases isInverted <;> simp [invertText]

theorem invertText_beq (isInverted : Bool) : (invertText isInverted == "true") = isInverted := by
  cases isInverted <;> rfl

theorem name_alignment_ne_empty (alignment : PwmAlignment) : Choice.name alignment ≠ "" := by
  cases alignment <;> simp [Choice.name]

/-- The parameters that an import sees: those with a value. -/
def shownParameters (phase : Phase) : List Parameter :=
  (documentedParameters phase).filter fun parameter => parameter.2 != ""

theorem readParameter?_parameterElement {parameter : Parameter} (hid : parameter.1 ≠ "") :
    readParameter? (parameterElement parameter) =
      if parameter.2 != "" then some parameter else none := by
  obtain ⟨id, value⟩ := parameter
  have hidOf : (parameterElement (id, value)).attribute? "id" = some id := rfl
  have hvalueOf : (parameterElement (id, value)).attribute? "value" = some value := rfl
  rw [readParameter?, hidOf, hvalueOf]
  by_cases hvalue : value = ""
  · simp [hvalue]
  · simp [hvalue, show id ≠ "" from hid]

theorem readParameters_personalityElement (phase : Phase) :
    readParameters (personalityElement phase) = shownParameters phase := by
  have hchild : (personalityElement phase).child? designSpace "Parameters" =
      some (node "Parameters" [] ((documentedParameters phase).map parameterElement)) := rfl
  have hnamed : ((documentedParameters phase).map parameterElement).filter
      (·.is designSpace "Param") = (documentedParameters phase).map parameterElement := by
    rw [List.filter_eq_self]
    intro element helement
    obtain ⟨parameter, -, rfl⟩ := List.mem_map.1 helement
    rfl
  have hids : ∀ parameter ∈ documentedParameters phase, parameter.1 ≠ "" := by
    simp [documentedParameters, ParameterId.phaseShift, ParameterId.invert, ParameterId.groupNumber,
      ParameterId.alignment]
  rw [readParameters, hchild]
  simp only [Element.childrenNamed, node]
  rw [hnamed, List.filterMap_map, shownParameters, ← List.filterMap_eq_filter]
  exact List.filterMap_congr fun parameter hparameter =>
    readParameter?_parameterElement (hids parameter hparameter)

theorem read_personalityElement {phase : Phase} (h : Text.isBlank phase.aliasName = false) :
    Personality.read (personalityElement phase) =
      .output phase.pwm phase.aliasName (shownParameters phase) := by
  have hblock : (personalityElement phase).child? designSpace "Block" = some (blockElement phase) :=
    rfl
  have halias : readAlias (blockElement phase) = phase.aliasName := rfl
  have hlocation : (blockElement phase).attribute? "location" = some phase.pwm := rfl
  rw [Personality.read, hblock]
  simp only [halias, hlocation, h, readParameters_personalityElement]
  rfl

@[simp] theorem applyParameter_phaseShift (phase : Phase) (value : String) :
    applyParameter phase (ParameterId.phaseShift, value) = { phase with phaseShift := value } := by
  simp [applyParameter]

@[simp] theorem applyParameter_invert (phase : Phase) (value : String) :
    applyParameter phase (ParameterId.invert, value) =
      { phase with isInverted := value == "true" } := by
  simp [applyParameter, ParameterId.phaseShift, ParameterId.invert]

@[simp] theorem applyParameter_groupNumber (phase : Phase) (n : Int32) :
    applyParameter phase (ParameterId.groupNumber, decimal n) =
      { phase with groupNumber := n } := by
  simp [applyParameter, ParameterId.phaseShift, ParameterId.invert, ParameterId.groupNumber,
    readGroupNumber?_decimal]

@[simp] theorem applyParameter_alignment (phase : Phase) (alignment : PwmAlignment) :
    applyParameter phase (ParameterId.alignment, Choice.name alignment) =
      { phase with alignment } := by
  simp [applyParameter, ParameterId.phaseShift, ParameterId.invert, ParameterId.groupNumber,
    ParameterId.alignment]

/-- The parameters of a personality set all documented fields. -/
theorem outputPhase_shownParameters (id : UInt32) (phase : Phase) :
    outputPhase id phase.pwm phase.aliasName (shownParameters phase) =
      documentedPhase id phase := by
  by_cases hshift : phase.phaseShift = ""
  · have hshown : shownParameters phase = (documentedParameters phase).tail := by
      simp [shownParameters, documentedParameters, hshift, invertText_ne_empty, decimal_ne_empty,
        name_alignment_ne_empty]
    rw [hshown]
    simp [outputPhase, documentedParameters, documentedPhase, hshift, invertText_beq]
  · have hshown : shownParameters phase = documentedParameters phase := by
      simp [shownParameters, documentedParameters, hshift, invertText_ne_empty, decimal_ne_empty,
        name_alignment_ne_empty]
    rw [hshown]
    simp [outputPhase, documentedParameters, documentedPhase, invertText_beq]

/-! ## Reading a layout -/

theorem isPwmPersonality_group (name : String) (children : List Element) :
    isPwmPersonality (node name [] children) = false := by
  simp [isPwmPersonality, node, Element.attribute?]

theorem preorder_personalityElement (phase : Phase) :
    (personalityElement phase).preorder =
      [personalityElement phase, blockElement phase, node "Aliases" [] [aliasElement phase],
        aliasElement phase,
        node "Parameters" [] ((documentedParameters phase).map parameterElement)] ++
      (documentedParameters phase).map parameterElement := by
  rfl

/-- The traversal of a personality meets no other one. -/
theorem filter_preorder_personalityElement (phase : Phase) :
    (personalityElement phase).preorder.filter isPwmPersonality = [personalityElement phase] := by
  rfl

mutual

/-- The PWM personalities of a layout are those of its phases, in document order. -/
theorem filter_preorder_element : (layout : Layout) →
    layout.element.preorder.filter isPwmPersonality = layout.phases.map personalityElement
  | .personality phase => by
    rw [Layout.element, Layout.phases, filter_preorder_personalityElement]
    rfl
  | .group name parts => by
    rw [Layout.element, Layout.phases, Element.preorder_eq,
      List.filter_cons_of_neg (by simp [isPwmPersonality_group])]
    exact filter_preorder_elementAll parts

theorem filter_preorder_elementAll : (parts : List Layout) →
    (Element.preorderAll (Layout.elementAll parts)).filter isPwmPersonality =
      (Layout.phasesAll parts).map personalityElement
  | [] => rfl
  | part :: rest => by
    rw [Layout.elementAll, Layout.phasesAll, Element.preorderAll, List.filter_append,
      filter_preorder_element part, filter_preorder_elementAll rest, List.map_append]

end

/-- Personalities of phases with an alias are numbered on from the last phase. -/
theorem phasesAfter_personalities {phases : List Phase}
    (halias : ∀ phase ∈ phases, Text.isBlank phase.aliasName = false) (last : UInt32) :
    phasesAfter last ((phases.map personalityElement).map Personality.read) =
      phases.mapIdx fun i phase => documentedPhase (last + UInt32.ofNat (i + 1)) phase := by
  induction phases generalizing last with
  | nil => rfl
  | cons phase phases ih =>
    rw [List.forall_mem_cons] at halias
    rw [List.map_cons, List.map_cons, read_personalityElement halias.1, phasesAfter,
      outputPhase_shownParameters, ih halias.2, List.mapIdx_cons]
    have hid : ∀ i : Nat, last + 1 + UInt32.ofNat (i + 1) = last + UInt32.ofNat (i + 1 + 1) := by
      intro i
      rw [UInt32.ofNat_add (i + 1) 1, UInt32.add_assoc, UInt32.add_comm 1]
      rfl
    simp only [hid]
    rfl

/-! ## Plain elements -/

/-- Keys of attributes that an element of a design file can have. -/
def PlainKeys (keys : List String) : Prop :=
  (∀ key ∈ keys, isNcName key.toList = true ∧ key.toList ≠ Binding.default.key) ∧ keys.Nodup

instance (keys : List String) : Decidable (PlainKeys keys) := by
  unfold PlainKeys; infer_instance

theorem isPlain_node {name : String} {attributes : List (String × String)} {children : List Element}
    (hname : isNcName name.toList = true) (hkeys : PlainKeys (attributes.map Prod.fst)) :
    (node name attributes children).IsPlain designSpace.toList := by
  obtain ⟨hplain, hnodup⟩ := hkeys
  refine ⟨by rw [String.ofList_toList]; rfl, hname, ?_, ?_, hnodup⟩
  · exact fun entry hentry => (hplain entry.1 (List.mem_map_of_mem hentry)).1
  · exact fun entry hentry => (hplain entry.1 (List.mem_map_of_mem hentry)).2

theorem isPlain_personalityElement (phase : Phase) :
    ∀ x ∈ (personalityElement phase).preorder, x.IsPlain designSpace.toList := by
  intro x hx
  rw [preorder_personalityElement, List.mem_append] at hx
  rcases hx with hx | hx
  · simp only [List.mem_cons, List.not_mem_nil, or_false] at hx
    rcases hx with rfl | rfl | rfl | rfl | rfl
    · exact isPlain_node (by decide) (by decide)
    · exact isPlain_node (by decide) (show PlainKeys ["location"] by decide)
    · exact isPlain_node (by decide) (by decide)
    · exact isPlain_node (by decide) (show PlainKeys ["value"] by decide)
    · exact isPlain_node (by decide) (by decide)
  · obtain ⟨parameter, -, rfl⟩ := List.mem_map.1 hx
    exact isPlain_node (by decide) (show PlainKeys ["id", "value"] by decide)

mutual

theorem isPlain_element : (layout : Layout) → layout.NamesPlain →
    ∀ x ∈ layout.element.preorder, x.IsPlain designSpace.toList
  | .personality phase, _ => by
    rw [Layout.element]
    exact isPlain_personalityElement phase
  | .group name parts, h => by
    rw [Layout.NamesPlain] at h
    rw [Layout.element, Element.preorder_eq, List.forall_mem_cons]
    exact ⟨isPlain_node h.1 (show PlainKeys [] by decide), isPlain_elementAll parts h.2⟩

theorem isPlain_elementAll : (parts : List Layout) → Layout.NamesPlainAll parts →
    ∀ x ∈ Element.preorderAll (Layout.elementAll parts), x.IsPlain designSpace.toList
  | [], _ => by simp [Layout.elementAll, Element.preorderAll]
  | part :: rest, h => by
    rw [Layout.NamesPlainAll] at h
    rw [Layout.elementAll, Element.preorderAll, List.forall_mem_append]
    exact ⟨isPlain_element part h.1, isPlain_elementAll rest h.2⟩

end

/-! ## Round trip -/

theorem designSpace_bindable : Bindable designSpace.toList := by decide

theorem escape_designSpace : Entity.escape designSpace.toList = designSpace.toList := by decide

namespace DesignFile

variable {file : DesignFile}

theorem Valid.isPlain_root (h : file.Valid) :
    ∀ x ∈ file.root.preorder, x.IsPlain designSpace.toList := by
  rw [Element.preorder_eq, List.forall_mem_cons]
  exact ⟨isPlain_node h.rootName_plain (show PlainKeys [] by decide),
    isPlain_elementAll file.parts h.names_plain⟩

/-- A written design file is read as the tree that it was written from. -/
theorem Valid.readDocument_render (h : file.Valid) :
    readDocument file.render.toList =
      .ok (file.root.declaring file.binding designSpace.toList) := by
  rw [render, String.toList_ofList]
  exact readDocument_print h.binding_allowed designSpace_bindable escape_designSpace h.isPlain_root
    h.levels_le

/-- The declaration on the root does not make it a personality. -/
theorem isPwmPersonality_root (file : DesignFile) :
    isPwmPersonality (file.root.declaring file.binding designSpace.toList) = false := by
  have hkey : ("template" == String.ofList file.binding.key) = false := by
    rw [beq_eq_false_iff_ne]
    intro heq
    have hlist := congrArg String.toList heq
    rw [String.toList_ofList] at hlist
    cases hbinding : file.binding <;> simp [hbinding, Binding.key] at hlist
  simp [isPwmPersonality, root, node, Element.declaring, Element.attribute?, hkey]

theorem search_root (file : DesignFile) :
    (file.root.declaring file.binding designSpace.toList).search isPwmPersonality =
      file.phases.map personalityElement := by
  rw [Element.search_eq, Element.preorder_eq,
    List.filter_cons_of_neg (by simp [isPwmPersonality_root])]
  exact filter_preorder_elementAll file.parts

/-- Importing a written design file yields its phases, numbered from one on, with the fields that
    it documents. -/
theorem importDesign_render (h : file.Valid) :
    ∃ imported, importDesign file.render = .ok imported ∧
      imported.phases =
        file.phases.mapIdx fun i phase => documentedPhase (UInt32.ofNat (i + 1)) phase := by
  refine ⟨_, by rw [importDesign, h.readDocument_render]; rfl, ?_⟩
  have hnumbered := phasesAfter_personalities h.alias_not_blank 0
  simp only [UInt32.zero_add] at hnumbered
  rw [Imported.ofRoot, search_root]
  exact hnumbered

/-- Two phases with marks of the syntax in their texts, in a group and under a prefix. -/
def quotedFile : DesignFile where
  binding := .named ['c', 'y']
  rootName := "Design"
  parts :=
    [.group "Personalities"
      [.personality
        { aliasName := " a<b", pwm := "PWM\"0", phaseShift := "90", groupNumber := -7 },
        .personality { aliasName := "&amp;", isInverted := true, alignment := .left }]]

theorem quotedFile_valid : quotedFile.Valid where
  binding_allowed := by decide
  rootName_plain := by decide
  names_plain := ⟨⟨by decide, trivial, trivial, trivial⟩, trivial⟩
  levels_le := by decide
  alias_not_blank := by decide

theorem importDesign_render_quotedFile :
    quotedFile.Valid ∧ ∃ imported, importDesign quotedFile.render = .ok imported ∧
      imported.phases =
        [{ id := 1, aliasName := " a<b", pwm := "PWM\"0", phaseShift := "90", groupNumber := -7 },
          { id := 2, aliasName := "&amp;", isInverted := true, alignment := .left }] := by
  obtain ⟨imported, himport, hphases⟩ := importDesign_render quotedFile_valid
  exact ⟨quotedFile_valid, imported, himport, hphases⟩

end DesignFile

end FirmwareGen.Design
