-- SUMMARY: A generated header and source with their names, and what is reported in place of them.
/-!
# Generated files

A generation yields a header and a source of one base name. Forms want the same outcome as one flat
record, which carries no text after a failure.
-/

namespace FirmwareGen

/-- Why a generation stops. -/
inductive GenerateError
  /-- A sink refused a piece of text. -/
  | refused
  deriving DecidableEq, Repr

def GenerateError.message : GenerateError → String
  | .refused =>
    "failed to write generated code: an error occurred when formatting an argument"

/-- The two files of a generation. -/
inductive FileRole
  | header | source
  deriving DecidableEq, Repr

structure FilePair where
  header : String
  source : String
  headerName : String
  sourceName : String
  deriving DecidableEq, Repr

namespace FilePair

/-- The two files of a base name. -/
def ofBase (base header source : String) : FilePair where
  header := header
  source := source
  headerName := base ++ ".h"
  sourceName := base ++ ".c"

@[simp] theorem header_ofBase (base header source : String) :
    (ofBase base header source).header = header := rfl

@[simp] theorem source_ofBase (base header source : String) :
    (ofBase base header source).source = source := rfl

@[simp] theorem headerName_ofBase (base header source : String) :
    (ofBase base header source).headerName = base ++ ".h" := rfl

/-- Names and texts, the header first. -/
def files (pair : FilePair) : List (String × String) :=
  [(pair.headerName, pair.header), (pair.sourceName, pair.source)]

end FilePair

/-- A generation in one record. -/
structure FlatOutcome where
  header : String := ""
  source : String := ""
  headerName : String := ""
  sourceName : String := ""
  success : Bool := false
  errorMessage : String := ""
  deriving DecidableEq, Repr

def FlatOutcome.ofResult : Except GenerateError FilePair → FlatOutcome
  | .ok pair =>
    { header := pair.header
      source := pair.source
      headerName := pair.headerName
      sourceName := pair.sourceName
      success := true }
  | .error e => { errorMessage := e.message }

end FirmwareGen
