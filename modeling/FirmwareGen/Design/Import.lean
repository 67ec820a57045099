-- SUMMARY: Reading the phases of a design file from its tree.
import FirmwareGen.Markup.Document
import FirmwareGen.Model.Modulator
import FirmwareGen.Text.Blank
import FirmwareGen.Text.Numeral
/-!
# Importing the phases of a design file

A hardware design file lists configured blocks as personalities. Every PWM personality whose block
has an alias becomes a phase, numbered in document order; its parameters set the fields that they
name. A document that is not well-formed yields nothing; all else that is odd is passed over, with a
note.
-/

namespace FirmwareGen.Design

open Markup

/-- The namespace of every element that is looked at. -/
def designSpace : String := "http://cypress.com/xsd/cydesignfile_v5"

/-- The template of PWM personalities. -/
def pwmTemplate : String := "mxs40pwm_ver2"

namespace ParameterId

def phaseShift : String := "PhaseShift"
def invert : String := "InvertPwm"
def groupNumber : String := "GroupNumber"
def alignment : String := "PwmAlignment"

end ParameterId

/-- What an import passes over. -/
inductive Note
  | personalityWithoutBlock
  | blockWithoutAlias (location : String)
  | ignoredGroupNumber (aliasName value : String)
  | ignoredAlignment (aliasName value : String)
  | ignoredParameter (aliasName id : String)
  deriving DecidableEq, Repr

def Note.message : Note → String
  | .personalityWithoutBlock => "skipping PWM personality without a block"
  | .blockWithoutAlias location => s!"skipping PWM block '{location}' without an alias"
  | .ignoredGroupNumber aliasName value => s!"{aliasName}: ignoring group number '{value}'"
  | .ignoredAlignment aliasName value => s!"{aliasName}: ignoring alignment '{value}'"
  | .ignoredParameter aliasName id => s!"{aliasName}: ignoring parameter '{id}'"

/-! ## Parameters -/

/-- A parameter of a personality: its id and its value. -/
abbrev Parameter := String × String

/-- A group number: between white space, a decimal integer of 32 bits with an optional sign. -/
def readGroupNumber? (value : String) : Option Int32 :=
  match Text.readInt? (Text.trim value.toList) with
  | some n => if -2147483648 ≤ n ∧ n ≤ 2147483647 then some (Int32.ofInt n) else none
  | none => none

/-- Sets the field that a parameter names. A group number or an alignment that cannot be read leaves
    its field as it is. -/
def applyParameter (phase : Phase) (parameter : Parameter) : Phase :=
  let (id, value) := parameter
  if id = ParameterId.phaseShift then { phase with phaseShift := value }
  else if id = ParameterId.invert then { phase with isInverted := value == "true" }
  else if id = ParameterId.groupNumber then
    match readGroupNumber? value with
    | some n => { phase with groupNumber := n }
    | none => phase
  else if id = ParameterId.alignment then
    match Choice.named? PwmAlignment value with
    | some alignment => { phase with alignment }
    | none => phase
  else phase

/-- The note on a parameter that sets nothing. -/
def noteOnParameter (aliasName : String) (parameter : Parameter) : Option Note :=
  let (id, value) := parameter
  if id = ParameterId.phaseShift ∨ id = ParameterId.invert then none
  else if id = ParameterId.groupNumber then
    if (readGroupNumber? value).isSome then none else some (.ignoredGroupNumber aliasName value)
  else if id = ParameterId.alignment then
    if (Choice.named? PwmAlignment value).isSome then none
    else some (.ignoredAlignment aliasName value)
  else some (.ignoredParameter aliasName id)

/-- A parameter counts only if it has both an id and a value. -/
def readParameter? (element : Element) : Option Parameter :=
  match element.attribute? "id", element.attribute? "value" with
  | some id, some value => if id = "" ∨ value = "" then none else some (id, value)
  | _, _ => none

def readParameters (personality : Element) : List Parameter :=
  match personality.child? designSpace "Parameters" with
  | none => []
  | some parameters => (parameters.childrenNamed designSpace "Param").filterMap readParameter?

/-! ## Personalities -/

def isPwmPersonality (element : Element) : Bool :=
  element.is designSpace "Personality" && element.attribute? "template" == some pwmTemplate

/-- What a PWM personality says. -/
inductive Personality
  | withoutBlock
  | withoutAlias (location : String)
  | output (location aliasName : String) (parameters : List Parameter)
  deriving DecidableEq, Repr

/-- The alias of a block: the value of the first alias in its first list of aliases. -/
def readAlias (block : Element) : String :=
  let value := do
    let aliases ← block.child? designSpace "Aliases"
    let first ← aliases.child? designSpace "Alias"
    first.attribute? "value"
  value.getD ""

def Personality.read (element : Element) : Personality :=
  match element.child? designSpace "Block" with
  | none => .withoutBlock
  | some block =>
    let location := (block.attribute? "location").getD ""
    let aliasName := readAlias block
    if Text.isBlank aliasName then .withoutAlias location
    else .output location aliasName (readParameters element)

/-- The phase of an output, numbered `id`. -/
def outputPhase (id : UInt32) (location aliasName : String) (parameters : List Parameter) : Phase :=
  parameters.foldl applyParameter { id, aliasName, pwm := location }

/-- The phases of personalities, numbered on from `last`. -/
def phasesAfter (last : UInt32) : List Personality → List Phase
  | [] => []
  | .output location aliasName parameters :: rest =>
    outputPhase (last + 1) location aliasName parameters :: phasesAfter (last + 1) rest
  | .withoutBlock :: rest => phasesAfter last rest
  | .withoutAlias _ :: rest => phasesAfter last rest

def Personality.notes : Personality → List Note
  | .withoutBlock => [.personalityWithoutBlock]
  | .withoutAlias location => [.blockWithoutAlias location]
  | .output _ aliasName parameters => parameters.filterMap (noteOnParameter aliasName)

/-! ## Design files -/

/-- What an import yields. -/
structure Imported where
  phases : List Phase
  notes : List Note

/-- Imports from the root element of a design file. -/
def Imported.ofRoot (root : Element) : Imported :=
  let personalities := (root.search isPwmPersonality).map Personality.read
  { phases := phasesAfter 0 personalities
    notes := personalities.flatMap Personality.notes }

/-- Imports a design file. -/
def importDesign (document : String) : Except DocumentError Imported :=
  (readDocument document.toList).map Imported.ofRoot

/-- The report of an import that failed. -/
def failureMessage (error : DocumentError) : String :=
  "Error parsing .modus file: " ++ error.message

/-! ## Reports -/

/-- An import in one record. After a failure there is nothing in it but a message. -/
structure Report where
  phases : List Phase := []
  notes : List Note := []
  success : Bool := false
  errorMessage : String := ""
  deriving DecidableEq, Repr

def Report.ofResult : Except DocumentError Imported → Report
  | .ok imported => { phases := imported.phases, notes := imported.notes, success := true }
  | .error e => { errorMessage := failureMessage e }

/-- Imports a design file and reports on it; this never fails. -/
def importReport (document : String) : Report := .ofResult (importDesign document)

end FirmwareGen.Design
