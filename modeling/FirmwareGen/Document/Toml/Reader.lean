-- SUMMARY: Keys, values, headings and lines of TOML documents.
import FirmwareGen.Document.Toml.Scalar
import FirmwareGen.Document.Toml.Tree
/-!
# Reading TOML

The lines of a document are assignments and headings. A value may go over several lines only inside
an array or a string. Nesting and the length of keys are limited.
-/

namespace FirmwareGen.Document.Toml

/-- In TOML an array may be longer than the record that it is read as, and the payload of a choice
    is a table or an array without entries. -/
def dialect : Dialect where
  allowsSurplus := true
  isUnit := Value.isVacant

/-- Values nest less deep than this, and keys have fewer parts. -/
def nestingLimit : Nat := 80

def skipBlank (text : List Char) : List Char := text.dropWhile isBlank

/-! ## Keys -/

def isBareKeyChar (c : Char) : Bool := c.isAlphanum || c == '_' || c == '-'

/-- One part of a key. -/
def readSimpleKey (text : List Char) : Option (String × List Char) :=
  let key :=
    match text with
    | '"' :: rest => readBasic (rest.length + 1) rest
    | '\'' :: rest => readLiteral rest
    | text =>
      if (text.takeWhile isBareKeyChar).isEmpty then none
      else some (text.takeWhile isBareKeyChar, text.dropWhile isBareKeyChar)
  key.map fun (chars, rest) => (String.ofList chars, rest)

/-- The parts of a key, with dots between them and blanks around them. -/
def readKeyParts : Nat → List Char → Option (List String × List Char)
  | 0, _ => none
  | fuel + 1, text => do
    let (part, rest) ← readSimpleKey (skipBlank text)
    match skipBlank rest with
    | '.' :: rest => do
      let (parts, rest) ← readKeyParts fuel rest
      return (part :: parts, rest)
    | rest => return ([part], rest)

/-- A key: the path in front of its last part, and that part. -/
def readKey (text : List Char) : Option ((List String × String) × List Char) := do
  let (parts, rest) ← readKeyParts (nestingLimit - 1) text
  let last ← parts.getLast?
  return ((parts.dropLast, last), rest)

/-! ## Gaps -/

/-- Drops a comment, up to the line end or the end of the document. -/
def afterComment? (text : List Char) : Option (List Char) :=
  match text.dropWhile isPlain with
  | [] => some []
  | rest => (afterLineEnd? rest).map fun _ => rest

/-- Drops blanks, comments and line ends. -/
def skipGap : Nat → List Char → Option (List Char)
  | 0, _ => none
  | fuel + 1, text =>
    match skipBlank text with
    | [] => some []
    | '#' :: rest => do skipGap fuel (← afterComment? rest)
    | c :: rest =>
      match afterLineEnd? (c :: rest) with
      | some rest => skipGap fuel rest
      | none => some (c :: rest)

/-- Drops what may follow an assignment or a heading on its line, and the line end. -/
def afterLine? (text : List Char) : Option (List Char) := do
  let rest ←
    match skipBlank text with
    | '#' :: rest => afterComment? rest
    | rest => some rest
  match rest with
  | [] => some []
  | rest => afterLineEnd? rest

/-! ## Values -/

mutual

/-- Reads a value at some depth of nesting. -/
def readValue : Nat → Nat → List Char → Option (Value × List Char)
  | 0, _, _ => none
  | fuel + 1, depth, text =>
    match text with
    | 't' :: 'r' :: 'u' :: 'e' :: rest => some (.bool true, rest)
    | 'f' :: 'a' :: 'l' :: 's' :: 'e' :: rest => some (.bool false, rest)
    | '[' :: rest =>
      if depth + 1 < nestingLimit then do
        let (items, rest) ← readItems fuel (depth + 1) rest
        return (.array items, rest)
      else none
    | '\x7b' :: rest =>
      if depth + 1 < nestingLimit then do
        let (assignments, rest) ←
          match skipBlank rest with
          | '\x7d' :: rest => some ([], rest)
          | rest => readInline fuel (depth + 1) rest
        return (← inlineTable? assignments, rest)
      else none
    | c :: _ =>
      if c = '"' ∨ c = '\'' then
        (readString text).map fun (chars, rest) => (.string (String.ofList chars), rest)
      else readNumber text
    | [] => none

/-- Reads the items of an array up to its closing bracket. A comma may stand behind the last. -/
def readItems : Nat → Nat → List Char → Option (List Value × List Char)
  | 0, _, _ => none
  | fuel + 1, depth, text => do
    match ← skipGap (text.length + 1) text with
    | ']' :: rest => return ([], rest)
    | text =>
      let (item, rest) ← readValue fuel depth text
      match ← skipGap (rest.length + 1) rest with
      | ',' :: rest => do
        let (items, rest) ← readItems fuel depth rest
        return (item :: items, rest)
      | ']' :: rest => return ([item], rest)
      | _ => none

/-- Reads the assignments of an inline table up to its closing brace. -/
def readInline : Nat → Nat → List Char → Option (List Assignment × List Char)
  | 0, _, _ => none
  | fuel + 1, depth, text => do
    let ((path, key), rest) ← readKey text
    let rest ← readChar '=' rest
    let (value, rest) ← readValue fuel depth (skipBlank rest)
    let assignment : Assignment := { path, key, value }
    match skipBlank rest with
    | ',' :: rest => do
      let (assignments, rest) ← readInline fuel depth rest
      return (assignment :: assignments, rest)
    | '\x7d' :: rest => return ([assignment], rest)
    | _ => none

end

/-! ## Documents -/

/-- A line of a document. -/
inductive Line
  | assignment (assignment : Assignment)
  | heading (isListed : Bool) (path : List String) (key : String)

def readAssignment (text : List Char) : Option (Line × List Char) := do
  let ((path, key), rest) ← readKey text
  let rest ← readChar '=' rest
  let (value, rest) ← readValue (rest.length + 1) 0 (skipBlank rest)
  return (.assignment { path, key, value }, ← afterLine? rest)

/-- A heading, after its first bracket. -/
def readHeading (text : List Char) : Option (Line × List Char) :=
  match text with
  | '[' :: text => do
    let ((path, key), rest) ← readKey text
    let rest ← readChar ']' rest
    let rest ← readChar ']' rest
    return (.heading true path key, ← afterLine? rest)
  | text => do
    let ((path, key), rest) ← readKey text
    let rest ← readChar ']' rest
    return (.heading false path key, ← afterLine? rest)

def readLineList : Nat → List Char → Option (List Line)
  | 0, _ => none
  | fuel + 1, text => do
    match ← skipGap (text.length + 1) text with
    | [] => return []
    | '[' :: text =>
      let (line, rest) ← readHeading text
      return line :: (← readLineList fuel rest)
    | text =>
      let (line, rest) ← readAssignment text
      return line :: (← readLineList fuel rest)

/-- The assignments in front of the first heading, and the sections. -/
def groupLines : List Line → List Assignment × List Section
  | [] => ([], [])
  | .assignment assignment :: lines =>
    let (assignments, sections) := groupLines lines
    (assignment :: assignments, sections)
  | .heading isListed path key :: lines =>
    let (assignments, sections) := groupLines lines
    ([], { isListed, path, key, assignments } :: sections)

/-- The value of a TOML document. A byte order mark in front is dropped. -/
def parse (text : String) : Option Value := do
  let chars :=
    match text.toList with
    | '\uFEFF' :: rest => rest
    | chars => chars
  let (assignments, sections) := groupLines (← readLineList (chars.length + 1) chars)
  document? assignments sections

end FirmwareGen.Document.Toml
