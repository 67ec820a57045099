-- SUMMARY: A strict reader of JSON texts.
import FirmwareGen.Document.Record
import FirmwareGen.Text.Numeral
/-!
# Reading JSON

A strict reader of JSON texts over their characters. A string that names half of a surrogate pair
has no value, and neither has an object with such a key: both can be skipped but not read. A number
without fraction and exponent is an integer of any size, except that minus zero is none.
-/

namespace FirmwareGen.Document.Json

/-- In JSON an array is no longer than the record that it is read as, and the payload of a choice
    is null. -/
def dialect : Dialect where
  allowsSurplus := false
  isUnit
    | .null => true
    | _ => false

/-- Drops spaces, tabs and line ends. -/
def skipBlank (text : List Char) : List Char :=
  text.dropWhile fun c => c == ' ' || c == '\t' || c == '\n' || c == '\r'

/-! ## Strings -/

/-- An element of a string: a character, or a UTF-16 code unit given by number. -/
inductive Mark
  | char (c : Char)
  | unit (n : Nat)

def hexUnit? (a b c d : Char) : Option Nat := Text.readNat? 16 [a, b, c, d]

/-- The character of a one-letter escape. -/
def escaped? : Char → Option Char
  | '"' => some '"'
  | '\\' => some '\\'
  | '/' => some '/'
  | 'b' => some '\x08'
  | 'f' => some '\x0c'
  | 'n' => some '\n'
  | 'r' => some '\r'
  | 't' => some '\t'
  | _ => none

/-- Reads the elements of a string up to its closing quote. -/
def readMarks : List Char → Option (List Mark × List Char)
  | [] => none
  | '"' :: rest => some ([], rest)
  | '\\' :: 'u' :: a :: b :: c :: d :: rest =>
    match hexUnit? a b c d with
    | some n => (readMarks rest).map fun (marks, rest) => (.unit n :: marks, rest)
    | none => none
  | '\\' :: c :: rest =>
    match escaped? c with
    | some c => (readMarks rest).map fun (marks, rest) => (.char c :: marks, rest)
    | none => none
  | c :: rest =>
    if c.toNat < 0x20 || c == '\\' then none
    else (readMarks rest).map fun (marks, rest) => (.char c :: marks, rest)

def isHighSurrogate (n : Nat) : Bool := 0xD800 ≤ n && n < 0xDC00

def isLowSurrogate (n : Nat) : Bool := 0xDC00 ≤ n && n < 0xE000

/-- The text that the elements of a string spell, unless a surrogate stands alone. -/
def spell? : List Mark → Option (List Char)
  | [] => some []
  | .char c :: rest => (spell? rest).map (c :: ·)
  | .unit n :: rest =>
    if isHighSurrogate n then
      match rest with
      | .unit m :: rest =>
        if isLowSurrogate m then
          (spell? rest).map (Char.ofNat (0x10000 + (n - 0xD800) * 0x400 + (m - 0xDC00)) :: ·)
        else none
      | _ => none
    else if isLowSurrogate n then none
    else (spell? rest).map (Char.ofNat n :: ·)

/-! ## Numbers -/

/-- Splits a text after its leading decimal digits. -/
def spanDigits (text : List Char) : List Char × List Char := text.span Char.isDigit

/-- The digits of an integer without sign: no zero in front of other digits. -/
def readWhole (text : List Char) : Option (List Char × List Char) :=
  match spanDigits text with
  | ([], _) => none
  | ('0' :: _ :: _, _) => none
  | (digits, rest) => some (digits, rest)

/-- A fraction, which may be missing. -/
def readFraction : List Char → Option (List Char × List Char)
  | '.' :: text =>
    match spanDigits text with
    | ([], _) => none
    | (digits, rest) => some ('.' :: digits, rest)
  | text => some ([], text)

/-- Splits off a sign, which may be missing. -/
def spanSign : List Char → List Char × List Char
  | '+' :: rest => (['+'], rest)
  | '-' :: rest => (['-'], rest)
  | text => ([], text)

/-- An exponent, which may be missing. -/
def readExponent : List Char → Option (List Char × List Char)
  | [] => some ([], [])
  | e :: text =>
    if e == 'e' || e == 'E' then
      let (sign, text) := spanSign text
      match spanDigits text with
      | ([], _) => none
      | (digits, rest) => some (e :: sign ++ digits, rest)
    else some ([], e :: text)

/-- The value of a number in its parts. -/
def numberValue (negative : Bool) (digits fraction exponent : List Char) : Value :=
  let written := (if negative then ['-'] else []) ++ digits ++ fraction ++ exponent
  if fraction.isEmpty && exponent.isEmpty then
    match Text.readNat? 10 digits with
    | some 0 => if negative then .real (String.ofList written) else .int 0
    | some n => .int (if negative then -(n : Int) else n)
    | none => .unreadable
  else .real (String.ofList written)

/-- The parts of a number after its sign. -/
def readMagnitude (negative : Bool) (text : List Char) : Option (Value × List Char) :=
  match readWhole text with
  | none => none
  | some (digits, text) =>
    match readFraction text with
    | none => none
    | some (fraction, text) =>
      match readExponent text with
      | none => none
      | some (exponent, rest) => some (numberValue negative digits fraction exponent, rest)

def readNumber : List Char → Option (Value × List Char)
  | '-' :: rest => readMagnitude true rest
  | text => readMagnitude false text

/-! ## Values -/

/-- Reads a string after its opening quote as a value. -/
def readText (text : List Char) : Option (Value × List Char) :=
  (readMarks text).map fun (marks, rest) =>
    match spell? marks with
    | some chars => (.string (String.ofList chars), rest)
    | none => (.unreadable, rest)

/-- Reads a key and the colon after it. A key has the text that its elements spell, if any. -/
def readKey (text : List Char) : Option (Option String × List Char) :=
  match skipBlank text with
  | '"' :: text =>
    match readMarks text with
    | none => none
    | some (marks, rest) =>
      match skipBlank rest with
      | ':' :: rest => some ((spell? marks).map String.ofList, rest)
      | _ => none
  | _ => none

/-- The object of some members, which has no value if one of its keys has no text. -/
def objectValue (members : List (Option String × Value)) : Value :=
  match members.mapM fun (key, value) => key.map fun key => (key, value) with
  | some members => .object members
  | none => .unreadable

mutual

/-- Reads a value, white space before it included, with nesting of at most `fuel`. -/
def readValue : Nat → List Char → Option (Value × List Char)
  | 0, _ => none
  | fuel + 1, text =>
    match skipBlank text with
    | 'n' :: 'u' :: 'l' :: 'l' :: rest => some (.null, rest)
    | 't' :: 'r' :: 'u' :: 'e' :: rest => some (.bool true, rest)
    | 'f' :: 'a' :: 'l' :: 's' :: 'e' :: rest => some (.bool false, rest)
    | '"' :: rest => readText rest
    | '[' :: rest =>
      match skipBlank rest with
      | ']' :: rest => some (.array [], rest)
      | _ => (readItems fuel rest).map fun (items, rest) => (.array items, rest)
    | '\x7b' :: rest =>
      match skipBlank rest with
      | '\x7d' :: rest => some (.object [], rest)
      | _ => (readMembers fuel rest).map fun (members, rest) => (objectValue members, rest)
    | rest => readNumber rest

/-- Reads the values of an array up to its closing bracket. -/
def readItems : Nat → List Char → Option (List Value × List Char)
  | 0, _ => none
  | fuel + 1, text =>
    match readValue fuel text with
    | none => none
    | some (item, rest) =>
      match skipBlank rest with
      | ',' :: rest => (readItems fuel rest).map fun (items, rest) => (item :: items, rest)
      | ']' :: rest => some ([item], rest)
      | _ => none

/-- Reads the members of an object up to its closing brace. -/
def readMembers : Nat → List Char → Option (List (Option String × Value) × List Char)
  | 0, _ => none
  | fuel + 1, text =>
    match readKey text with
    | none => none
    | some (key, rest) =>
      match readValue fuel rest with
      | none => none
      | some (value, rest) =>
        match skipBlank rest with
        | ',' :: rest =>
          (readMembers fuel rest).map fun (members, rest) => ((key, value) :: members, rest)
        | '\x7d' :: rest => some ([(key, value)], rest)
        | _ => none

end

/-- The value of a JSON text. Every level of nesting takes a character, so the fuel suffices. -/
def parse (text : String) : Option Value :=
  let chars := text.toList
  match readValue (chars.length + 1) chars with
  | some (value, rest) => if (skipBlank rest).isEmpty then some value else none
  | none => none

end FirmwareGen.Document.Json
