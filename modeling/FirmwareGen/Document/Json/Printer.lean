-- SUMMARY: The layout of written JSON documents.
import FirmwareGen.Document.Value
import FirmwareGen.Text.Numeral
/-!
# Writing JSON

The layout of written documents: an entry per line, two spaces deeper than its container, and an
empty container as its two brackets. In strings only the quote, the backslash and the control
characters below the space are escaped.
-/

namespace FirmwareGen.Document.Json

/-- The escape of a character, if it has one, else the character. -/
def escapeChar (c : Char) : List Char :=
  if c = '"' then ['\\', '"']
  else if c = '\\' then ['\\', '\\']
  else if c = '\x08' then ['\\', 'b']
  else if c = '\t' then ['\\', 't']
  else if c = '\n' then ['\\', 'n']
  else if c = '\x0c' then ['\\', 'f']
  else if c = '\r' then ['\\', 'r']
  else if c.toNat < 0x20 then ['\\', 'u', '0', '0'] ++ Text.lastDigits 16 2 c.toNat
  else [c]

def quoted (text : String) : List Char :=
  '"' :: text.toList.flatMap escapeChar ++ ['"']

/-- The line break in front of an entry at some depth. -/
def lineBreak (depth : Nat) : List Char := '\n' :: List.replicate (2 * depth) ' '

mutual

/-- The characters of a value whose first line stands at the given depth. -/
def printValue (depth : Nat) : Value → List Char
  | .null => "null".toList
  | .bool b => (if b then "true" else "false").toList
  | .int n => (toString n).toList
  | .real text => text.toList
  | .string text => quoted text
  | .array [] => "[]".toList
  | .array (item :: items) =>
    '[' :: lineBreak (depth + 1) ++ printValue (depth + 1) item ++ printItems (depth + 1) items ++
      lineBreak depth ++ [']']
  | .object members => printObject depth members
  | .unreadable => "null".toList

/-- The further items of an array. -/
def printItems (depth : Nat) : List Value → List Char
  | [] => []
  | item :: items => ',' :: lineBreak depth ++ printValue depth item ++ printItems depth items

def printObject (depth : Nat) : List (String × Value) → List Char
  | [] => ['\x7b', '\x7d']
  | (key, value) :: members =>
    '\x7b' :: lineBreak (depth + 1) ++ quoted key ++ ':' :: ' ' :: printValue (depth + 1) value ++
      printMembers (depth + 1) members ++ lineBreak depth ++ ['\x7d']

/-- The further members of an object. -/
def printMembers (depth : Nat) : List (String × Value) → List Char
  | [] => []
  | (key, value) :: members =>
    ',' :: lineBreak depth ++ quoted key ++ ':' :: ' ' :: printValue depth value ++
      printMembers depth members

end

def print (value : Value) : String := String.ofList (printValue 0 value)

end FirmwareGen.Document.Json
