-- SUMMARY: Reading, writing and reporting as data, with a run on file trees.
import FirmwareGen.Calendar.DateTime
import FirmwareGen.Storage.FileTree
/-!
# Scripts

What a command does to its surroundings, as data: it reads, makes directories, writes, asks for the
time, reports and prints, or it fails with a message. A script runs on a file tree here; the program
runs the same script on the files of the machine.
-/

namespace FirmwareGen

inductive Level
  | info | debug
  deriving DecidableEq, Repr

def Level.label : Level → String
  | .info => "INFO"
  | .debug => "DEBUG"

inductive Script (α : Type) where
  | done (result : α)
  | fail (message : String)
  /-- Reads a file as text; nothing if there is none or it is no UTF-8. -/
  | readText (path : String) (next : Option String → Script α)
  /-- Makes sure of a directory below another one; what went wrong, if anything. -/
  | makeDirectory (path : String) (next : Option PathFault → Script α)
  /-- Writes a file; whether all of it was written. -/
  | writeText (path text : String) (next : Bool → Script α)
  | askTime (next : DateTime → Script α)
  | report (level : Level) (message : String) (next : Script α)
  /-- Prints a line. -/
  | print (text : String) (next : Script α)

namespace Script

def bind {α β : Type} (script : Script α) (continuation : α → Script β) : Script β :=
  match script with
  | .done result => continuation result
  | .fail message => .fail message
  | .readText path next => .readText path fun text => (next text).bind continuation
  | .makeDirectory path next => .makeDirectory path fun fault => (next fault).bind continuation
  | .writeText path text next => .writeText path text fun written =>
      (next written).bind continuation
  | .askTime next => .askTime fun instant => (next instant).bind continuation
  | .report level message next => .report level message (next.bind continuation)
  | .print text next => .print text (next.bind continuation)

instance : Monad Script where
  pure := .done
  bind := bind

/-- Reads a file, or fails with a message. -/
def readOr (message path : String) : Script String :=
  .readText path fun
    | some text => .done text
    | none => .fail message

/-- Makes sure of the directory at the first of some paths, each of which lies below the next one:
    where something is missing, of those behind it before it is tried again. Whether it is there in
    the end. -/
def ensureDirectory : List String → Script Bool
  | [] => .done true
  | path :: above =>
    .makeDirectory path fun
      | none => .done true
      | some .refused => .done false
      | some .missing => do
        if ← ensureDirectory above then
          .makeDirectory path fun fault => .done fault.isNone
        else return false

/-- Makes a directory and those above it, or fails with a message. -/
def makeDirectoriesOr (message path : String) : Script Unit := do
  if ← ensureDirectory (path :: Path.parents path) then return ()
  else .fail message

/-- Writes a file, or fails with a message. What a failing write leaves is not taken back. -/
def writeOr (message path text : String) : Script Unit :=
  .writeText path text fun written => if written then .done () else .fail message

def time : Script DateTime := .askTime .done

def info (message : String) : Script Unit := .report .info message (.done ())

def debug (message : String) : Script Unit := .report .debug message (.done ())

def printLine (text : String) : Script Unit := .print text (.done ())

/-! ## Running on a file tree -/

/-- What a script says while it runs. -/
inductive Message
  | reported (level : Level) (text : String)
  | printed (text : String)
  deriving DecidableEq, Repr

/-- Where a run ends: the tree, the messages, and the result or the message of the failure. -/
structure Outcome (α : Type) where
  tree : FileTree
  messages : List Message
  result : Except String α

def Outcome.saying {α : Type} (message : Message) (outcome : Outcome α) : Outcome α :=
  { outcome with messages := message :: outcome.messages }

/-- Runs a script in a directory of a tree, at one instant. -/
def run {α : Type} (directory : Location) (instant : DateTime) (tree : FileTree) :
    Script α → Outcome α
  | .done result => { tree, messages := [], result := .ok result }
  | .fail message => { tree, messages := [], result := .error message }
  | .readText path next =>
    (next ((tree.read directory path).bind String.fromUTF8?)).run directory instant tree
  | .makeDirectory path next =>
    match tree.makeDirectory directory path with
    | .error fault => (next (some fault)).run directory instant tree
    | .ok tree => (next none).run directory instant tree
  | .writeText path text next =>
    let (tree, written) := tree.write directory path text.toUTF8
    (next written).run directory instant tree
  | .askTime next => (next instant).run directory instant tree
  | .report level message next =>
    (next.run directory instant tree).saying (.reported level message)
  | .print text next => (next.run directory instant tree).saying (.printed text)

end Script

end FirmwareGen
