-- SUMMARY: Texts as parts of C identifiers and of file names.
import FirmwareGen.Model.Modulator
import FirmwareGen.Text.CaseMap
/-!
# Identifiers derived from names

Names are free text. Each kind of identifier in the generated code maps the letters of a name to one
case and some separators to underscores.
-/

namespace FirmwareGen.Naming

/-- Replaces some characters by underscores. -/
def underscored (separators : List Char) (text : String) : String :=
  String.ofList (text.toList.map fun c => if c ∈ separators then '_' else c)

/-- The stem of a file name. -/
def fileStem (name : String) : String := underscored [' ', '-', '.'] (Text.lower name)

/-- The stem of enumerators, macros and type names; empty for a blank name. -/
def symbolStem (name : String) : String :=
  if Text.isBlank name then "" else underscored [' ', '-'] (Text.upper name)

/-- The stem of the variables, types and functions of a modulator. -/
def instanceName (name : String) : String := underscored [' '] (Text.lower name)

/-- The stem of the macros of a peripheral. -/
def macroName (name : String) : String := underscored [' '] (Text.upper name)

/-- The stem of the functions of a peripheral. -/
def cIdentifier (name : String) : String := underscored [' '] name

/-- The macro that guards a header against a second inclusion. -/
def includeGuard (baseName : String) : String := Text.upper baseName ++ "_H"

/-- The common stem of the two files of some modulators: the first modulator names them, unless its
    name is blank. -/
def baseFileName (fallback : String) : List Modulator → String
  | [] => fallback
  | first :: _ => if Text.isBlank first.name then fallback else fileStem first.name

end FirmwareGen.Naming
