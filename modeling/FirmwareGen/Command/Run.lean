-- SUMMARY: The commands of the program as scripts.
import FirmwareGen.Board.Generate
import FirmwareGen.Command.Arguments
import FirmwareGen.Design.Import
import FirmwareGen.Document.Json.Printer
import FirmwareGen.Document.Load
import FirmwareGen.Model.Schema
import FirmwareGen.Modulators.Generate
import FirmwareGen.Storage.Script
/-!
# Commands

Each command as a script: it loads, generates or imports, and writes or prints. With the check
option nothing is written; names and sizes are reported instead.
-/

namespace FirmwareGen.Command

/-- The name and the number of the program's version. -/
def versionText : String := "modgen 0.1.0"

/-! ## Loading and writing -/

/-- Loads a record from a document, or fails. -/
def loadRecord {σ : Type} (schema : Document.Record σ) (path : String) : Script σ :=
  .readText path fun text =>
    match Document.load schema path text with
    | .ok record => .done record
    | .error e => .fail e.message

def reportUnwritten (file : String × String) : Script Unit :=
  .info s!"{file.1}: {file.2.utf8ByteSize} bytes (not written)"

/-- Writes a file into a directory. -/
def writeFile (outDir : String) (file : String × String) : Script Unit := do
  let path := Path.join outDir file.1
  .writeOr ("failed to write " ++ path) path file.2
  .info ("Output written to: " ++ path)

/-- Does one thing after the other. -/
def each {α : Type} (action : α → Script Unit) : List α → Script Unit
  | [] => .done ()
  | a :: rest => do
    action a
    each action rest

/-- Writes generated files into a directory, which is made if need be, or only reports them. -/
def emit (pair : FilePair) (outDir : String) (check : Bool) : Script Unit :=
  if check then each reportUnwritten pair.files
  else do
    .makeDirectoriesOr ("failed to create " ++ outDir) outDir
    each (writeFile outDir) pair.files

/-! ## The commands -/

/-- Loads modulators and generates their files. -/
def modulatorFiles (config : String) : Script FilePair := do
  let set ← loadRecord ModulatorSet.schema config
  .info s!"Generating code for {set.modulators.length} modulator(s) from {config}"
  let instant ← Script.time
  let batch := Modulators.Batch.ofModulators {} set.modulators
  each Script.debug batch.summary
  let pair := batch.files instant.timestamp
  .debug (Modulators.sizeNote pair)
  return pair

/-- Loads a board and generates its files. -/
def boardFiles (config : String) : Script FilePair := do
  let board ← loadRecord Board.schema config
  .info s!"Generating peripheral code for {board.projectName} from {config}"
  let instant ← Script.time
  .debug board.summary
  return board.files instant.timestamp

def generateFiles : Target → String → Script FilePair
  | .modulators => modulatorFiles
  | .board => boardFiles

/-- Imports a design file as a modulator that is named after the file. -/
def importModulator (design : String) : Script Modulator := do
  let text ← Script.readOr ("failed to read " ++ design) design
  let report := Design.importReport text
  if report.success then
    each (fun note => Script.debug (Design.Note.message note)) report.notes
    .info s!"imported {report.phases.length} PWM phase(s)"
    return { id := 1, name := (Path.stem? design).getD "", phases := report.phases }
  else .fail (design ++ ": " ++ report.errorMessage)

/-- The document of a modulator. -/
def modulatorText (modulator : Modulator) : String :=
  Document.Json.print (Modulator.schema.codec.encode modulator)

def perform : Request → Script Unit
  | .generate target config outDir check => do
    emit (← generateFiles target config) outDir check
  | .importDesign design output => do
    let modulator ← importModulator design
    match output with
    | none => .printLine (modulatorText modulator)
    | some path => do
      .writeOr ("failed to write " ++ path) path (modulatorText modulator)
      .info s!"Imported {modulator.phases.length} phase(s) into {path}"

end FirmwareGen.Command
