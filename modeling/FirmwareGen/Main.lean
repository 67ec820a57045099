-- SUMMARY: The program on the files of the machine.
import FirmwareGen.Command.Run
import Std.Time
/-!
# The program

Runs commands on the files of the machine, with the wall clock. Messages go to the standard output,
the message of a failure to the standard error.
-/

namespace FirmwareGen

/-- The wall clock in local time. -/
def wallClock : IO DateTime := do
  let now ← Std.Time.PlainDateTime.now
  return {
    year := now.date.year.toInt
    month := now.date.month.val.toNat
    day := now.date.day.val.toNat
    hour := now.time.hour.val.toNat
    minute := now.time.minute.val.toNat
    second := now.time.second.val.toNat
    nanosecond := now.time.nanosecond.val.toNat }

/-- Whether an action ends without an exception. -/
def succeeds (action : IO Unit) : IO Bool := do
  try
    action
    return true
  catch _ => return false

/-- The text of a file, if there is one and it is text. -/
def readTextFile (path : String) : IO (Option String) := do
  try
    return String.fromUTF8? (← IO.FS.readBinFile path)
  catch _ => return none

/-- Makes sure of a directory below another one. -/
def createDirectory (path : String) : IO (Option PathFault) := do
  try
    IO.FS.createDir path
    return none
  catch fault =>
    match fault with
    | .noFileOrDirectory .. => return some .missing
    | .alreadyExists .. =>
      if ← succeeds (IO.FS.createDirAll path) then return none else return some .refused
    | _ => return some .refused

/-- Runs a script on the machine. -/
def Script.execute {α : Type} (verbose : Bool) : Script α → IO (Except String α)
  | .done result => return .ok result
  | .fail message => return .error message
  | .readText path next => do (next (← readTextFile path)).execute verbose
  | .makeDirectory path next => do
    (next (← createDirectory path)).execute verbose
  | .writeText path text next => do
    (next (← succeeds (IO.FS.writeFile path text))).execute verbose
  | .askTime next => do (next (← wallClock)).execute verbose
  | .report level message next => do
    if verbose || level == .info then IO.println (level.label ++ " " ++ message)
    next.execute verbose
  | .print text next => do
    IO.println text
    next.execute verbose

def usage : String :=
  "Usage: modgen [-v] modulators|peripherals -c FILE [-o DIR] [--check]\n" ++
    "       modgen [-v] import -d FILE [-o FILE]"

end FirmwareGen

open FirmwareGen in
def main (arguments : List String) : IO UInt32 := do
  match Command.readArguments arguments with
  | .showVersion =>
    IO.println Command.versionText
    return 0
  | .showHelp =>
    IO.println usage
    return 0
  | .misuse =>
    IO.eprintln usage
    return 2
  | .invoke invocation =>
    match ← (Command.perform invocation.request).execute invocation.verbose with
    | .ok () => return 0
    | .error message =>
      IO.eprintln ("Error: " ++ message)
      return 1
