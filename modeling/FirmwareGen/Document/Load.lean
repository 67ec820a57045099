-- SUMMARY: Choosing the format of a document and reading a record from it.
import FirmwareGen.Document.Json.Reader
import FirmwareGen.Document.Toml.Reader
import FirmwareGen.Storage.Path
/-!
# Loading records from documents

The extension of a path decides the format of a document: JSON for `json` in upper or lower case,
TOML for everything else.
-/

namespace FirmwareGen.Document

/-- Why a document is not loaded. -/
inductive LoadError
  /-- There is no such file, or it is no text. -/
  | unreadable (path : String)
  | malformed (path : String)
  deriving DecidableEq, Repr

def LoadError.message : LoadError → String
  | .unreadable path => "failed to read " ++ path
  | .malformed path => "failed to parse " ++ path

def isJsonPath (path : String) : Bool :=
  match Path.extension? path with
  | none => false
  | some extension => extension.toList.map Char.toLower == "json".toList

/-- Reads a record from the text of the document at a path. -/
def readRecord {σ : Type} (schema : Record σ) (path text : String) : Except LoadError σ :=
  let record :=
    if isJsonPath path then (Json.parse text).bind (schema.codec.decode Json.dialect)
    else (Toml.parse text).bind (schema.codec.decode Toml.dialect)
  match record with
  | some record => .ok record
  | none => .error (.malformed path)

/-- Reads a record from the document at a path, given the text that was read there, if any. -/
def load {σ : Type} (schema : Record σ) (path : String) : Option String → Except LoadError σ
  | none => .error (.unreadable path)
  | some text => readRecord schema path text

end FirmwareGen.Document
