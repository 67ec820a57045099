-- SUMMARY: Strings, numbers, dates and times of TOML.
import FirmwareGen.Calendar.DateTime
import FirmwareGen.Document.Value
/-!
# Scalars of TOML

Strings, numbers, dates and times. A reader takes the characters of its scalar from the front of a
text and leaves the rest; what must follow a scalar is for the reader of the document to say.
-/

namespace FirmwareGen.Document.Toml

/-- A character that may stand in comments and in strings: no control character but the tab. -/
def isPlain (c : Char) : Bool := c == '\t' || (0x20 ≤ c.toNat && c.toNat != 0x7F)

def isBlank (c : Char) : Bool := c == ' ' || c == '\t'

/-- Drops a line end at the front. -/
def afterLineEnd? : List Char → Option (List Char)
  | '\n' :: rest => some rest
  | '\r' :: '\n' :: rest => some rest
  | _ => none

/-! ## Strings -/

/-- The character with the code point that some hexadecimal digits give. -/
def codePoint? (digits : List Char) : Option Char :=
  match Text.readNat? 16 digits with
  | some n => if n.isValidChar then some (Char.ofNat n) else none
  | none => none

/-- The escape after a backslash. -/
def readEscape : List Char → Option (Char × List Char)
  | 'b' :: rest => some ('\x08', rest)
  | 't' :: rest => some ('\t', rest)
  | 'n' :: rest => some ('\n', rest)
  | 'f' :: rest => some ('\x0c', rest)
  | 'r' :: rest => some ('\r', rest)
  | '"' :: rest => some ('"', rest)
  | '\\' :: rest => some ('\\', rest)
  | 'u' :: rest =>
    if rest.length < 4 then none else (codePoint? (rest.take 4)).map (·, rest.drop 4)
  | 'U' :: rest =>
    if rest.length < 8 then none else (codePoint? (rest.take 8)).map (·, rest.drop 8)
  | _ => none

/-- A string in double quotes, after the first. -/
def readBasic : Nat → List Char → Option (List Char × List Char)
  | 0, _ => none
  | _, [] => none
  | fuel + 1, c :: rest =>
    if c = '"' then some ([], rest)
    else if c = '\\' then do
      let (c, rest) ← readEscape rest
      let (text, rest) ← readBasic fuel rest
      return (c :: text, rest)
    else if isPlain c then do
      let (text, rest) ← readBasic fuel rest
      return (c :: text, rest)
    else none

/-- A string in single quotes, after the first: nothing is escaped. -/
def readLiteral : List Char → Option (List Char × List Char)
  | [] => none
  | c :: rest =>
    if c = '\'' then some ([], rest)
    else if isPlain c then (readLiteral rest).map fun (text, rest) => (c :: text, rest)
    else none

/-- What a run of quotes in a string of several lines means: up to two are content, three close the
    string, and one or two more in front of the closing ones are content. -/
inductive QuoteRun
  | content (count : Nat)
  | closing (count : Nat)
  | tooLong

def QuoteRun.ofLength (n : Nat) : QuoteRun :=
  if n < 3 then .content n else if n < 6 then .closing (n - 3) else .tooLong

/-- Drops what follows a backslash at the end of a line: blanks, the line end, and then all blanks
    and line ends. -/
def afterContinuation? (text : List Char) : Option (List Char) :=
  (afterLineEnd? (text.dropWhile isBlank)).map (skip text.length)
where
  skip : Nat → List Char → List Char
    | 0, text => text
    | fuel + 1, text =>
      match text with
      | [] => []
      | c :: rest =>
        if isBlank c then skip fuel rest
        else
          match afterLineEnd? (c :: rest) with
          | some rest => skip fuel rest
          | none => c :: rest

/-- A string of several lines between three double or single quotes, after the first three; the
    single ones escape nothing. A line end is kept as a line feed. -/
def readLines (quote : Char) : Nat → List Char → Option (List Char × List Char)
  | 0, _ => none
  | _, [] => none
  | fuel + 1, c :: rest =>
    if c = quote then
      let length := ((c :: rest).takeWhile (· == quote)).length
      let rest := (c :: rest).drop length
      match QuoteRun.ofLength length with
      | .content count => do
        let (text, rest) ← readLines quote fuel rest
        return (List.replicate count quote ++ text, rest)
      | .closing count => some (List.replicate count quote, rest)
      | .tooLong => none
    else
      match afterLineEnd? (c :: rest) with
      | some rest => do
        let (text, rest) ← readLines quote fuel rest
        return ('\n' :: text, rest)
      | none =>
        if c = '\\' ∧ quote = '"' then
          match afterContinuation? rest with
          | some rest => readLines quote fuel rest
          | none => do
            let (c, rest) ← readEscape rest
            let (text, rest) ← readLines quote fuel rest
            return (c :: text, rest)
        else if isPlain c then do
          let (text, rest) ← readLines quote fuel rest
          return (c :: text, rest)
        else none

/-- Drops the line end that may follow the opening quotes of a string of several lines. -/
def skipFirstLineEnd (text : List Char) : List Char := (afterLineEnd? text).getD text

/-- A string of any kind, from its opening quote on. -/
def readString (text : List Char) : Option (List Char × List Char) :=
  match text with
  | '"' :: '"' :: '"' :: rest => readLines '"' (rest.length + 1) (skipFirstLineEnd rest)
  | '\'' :: '\'' :: '\'' :: rest => readLines '\'' (rest.length + 1) (skipFirstLineEnd rest)
  | '"' :: rest => readBasic (rest.length + 1) rest
  | '\'' :: rest => readLiteral rest
  | _ => none

/-! ## Digits -/

/-- One or more digits of a base, with single underscores between digits. The underscores are left
    out of the result. -/
def readDigitRun (base : Nat) : List Char → Option (List Char × List Char)
  | [] => none
  | c :: rest => if (Text.digitValue? base c).isSome then further c rest else none
where
  /-- The run that starts with a digit already taken. -/
  further (first : Char) : List Char → Option (List Char × List Char)
    | '_' :: c :: rest =>
      if (Text.digitValue? base c).isSome then
        (further c rest).map fun (digits, rest) => (first :: digits, rest)
      else none
    | ['_'] => none
    | c :: rest =>
      if (Text.digitValue? base c).isSome then
        (further c rest).map fun (digits, rest) => (first :: digits, rest)
      else some ([first], c :: rest)
    | [] => some ([first], [])

/-- A fixed number of decimal digits, as a number. -/
def readFixed (count : Nat) (text : List Char) : Option (Nat × List Char) :=
  let digits := text.take count
  if digits.length = count && digits.all Char.isDigit then
    (Text.readNat? 10 digits).map (·, text.drop count)
  else none

/-- A fixed number of decimal digits that denote a number up to a limit. -/
def readUpTo (count limit : Nat) (text : List Char) : Option (Nat × List Char) := do
  let (n, rest) ← readFixed count text
  if n ≤ limit then some (n, rest) else none

def readChar (wanted : Char) : List Char → Option (List Char)
  | [] => none
  | c :: rest => if c = wanted then some rest else none

/-! ## Dates and times -/

/-- Reads a date and leaves the rest. -/
def afterDate? (text : List Char) : Option (List Char) := do
  let (year, rest) ← readFixed 4 text
  let rest ← readChar '-' rest
  let (month, rest) ← readUpTo 2 12 rest
  let rest ← readChar '-' rest
  let (day, rest) ← readUpTo 2 31 rest
  if 1 ≤ month ∧ 1 ≤ day ∧ day ≤ DateTime.daysInMonth year month then some rest else none

/-- Reads a time of day, to the second or finer, and leaves the rest. -/
def afterTime? (text : List Char) : Option (List Char) := do
  let (_, rest) ← readUpTo 2 23 text
  let rest ← readChar ':' rest
  let (_, rest) ← readUpTo 2 59 rest
  let rest ← readChar ':' rest
  let (_, rest) ← readUpTo 2 60 rest
  match rest with
  | '.' :: fraction =>
    if (fraction.takeWhile Char.isDigit).isEmpty then some rest
    else some (fraction.dropWhile Char.isDigit)
  | _ => some rest

/-- Reads an offset from universal time, if there is one, and leaves the rest. -/
def afterOffset? : List Char → Option (List Char)
  | [] => some []
  | c :: rest =>
    if c = 'Z' ∨ c = 'z' then some rest
    else if c = '+' ∨ c = '-' then do
      let (_, rest) ← readUpTo 2 23 rest
      let rest ← readChar ':' rest
      let (_, rest) ← readUpTo 2 59 rest
      some rest
    else some (c :: rest)

/-- Reads a date, a time or both, and leaves the rest. -/
def afterDateTime? (text : List Char) : Option (List Char) :=
  match afterDate? text with
  | none => afterTime? text
  | some [] => some []
  | some (c :: rest) =>
    if c = 'T' ∨ c = 't' ∨ c = ' ' then
      match afterTime? rest with
      | some rest => afterOffset? rest
      | none => some (c :: rest)
    else some (c :: rest)

/-- A date or a time is a table with one entry that no record has. -/
def momentValue : Value := .object [("datetime", .unreadable)]

/-! ## Numbers -/

/-- Splits off a sign; whether it is a minus. -/
def spanMinus : List Char → Bool × List Char
  | '-' :: rest => (true, rest)
  | '+' :: rest => (false, rest)
  | text => (false, text)

/-- The digits of a decimal integer without sign: no zero in front of other digits. -/
def readDecimal : List Char → Option (List Char × List Char)
  | '0' :: rest => some (['0'], rest)
  | text => readDigitRun 10 text

/-- The digits of a fraction; none if there is none. -/
def readFraction : List Char → Option (List Char × List Char)
  | '.' :: rest => readDigitRun 10 rest
  | text => some ([], text)

/-- An exponent, if there is one. -/
def readExponent : List Char → Option (Option Int × List Char)
  | [] => some (none, [])
  | e :: text =>
    if e = 'e' ∨ e = 'E' then do
      let (negative, text) := spanMinus text
      let (digits, rest) ← readDigitRun 10 text
      let n ← Text.readNat? 10 digits
      return (some (if negative then -(n : Int) else n), rest)
    else some (none, e :: text)

/-- Whether `mantissa * 10 ^ exponent` rounds to infinity as a number of double precision: it is at
    least the midpoint above the greatest finite one. -/
def overflows (mantissa : Nat) (exponent : Int) : Bool :=
  if mantissa = 0 then false
  else
    let size : Int := (Nat.toDigits 10 mantissa).length + exponent
    if size > 310 then true
    else if size < 308 then false
    else
      let midpoint : Nat := Nat.pow 2 1024 - Nat.pow 2 970
      if 0 ≤ exponent then decide (midpoint ≤ mantissa * Nat.pow 10 exponent.toNat)
      else decide (midpoint * Nat.pow 10 exponent.natAbs ≤ mantissa)

/-- A number with a fraction or an exponent; a positive one must be finite. -/
def readFloat (text : List Char) : Option (Value × List Char) := do
  let (negative, unsigned) := spanMinus text
  match unsigned with
  | 'i' :: 'n' :: 'f' :: rest => return (.real "inf", rest)
  | 'n' :: 'a' :: 'n' :: rest => return (.real "nan", rest)
  | _ =>
    let (whole, rest) ← readDecimal unsigned
    let (fraction, rest) ← readFraction rest
    let (exponent, rest) ← readExponent rest
    if fraction.isEmpty && exponent.isNone then none
    else
      let mantissa ← Text.readNat? 10 (whole ++ fraction)
      if !negative && overflows mantissa (exponent.getD 0 - fraction.length) then none
      else return (.real (String.ofList (text.take (text.length - rest.length))), rest)

/-- An integer of 64 bits. -/
def integerValue (negative : Bool) (base : Nat) (digits : List Char) : Option Value := do
  let n ← Text.readNat? base digits
  let n : Int := if negative then -(n : Int) else n
  if -9223372036854775808 ≤ n ∧ n ≤ 9223372036854775807 then some (.int n) else none

def readInteger (text : List Char) : Option (Value × List Char) :=
  match text with
  | '0' :: 'x' :: text => based 16 text
  | '0' :: 'o' :: text => based 8 text
  | '0' :: 'b' :: text => based 2 text
  | text => do
    let (negative, text) := spanMinus text
    let (digits, rest) ← readDecimal text
    return (← integerValue negative 10 digits, rest)
where
  based (base : Nat) (text : List Char) : Option (Value × List Char) := do
    let (digits, rest) ← readDigitRun base text
    return (← integerValue false base digits, rest)

/-- Whether a text starts like a date or a time. -/
def startsMoment (text : List Char) : Bool :=
  let digits := (text.takeWhile Char.isDigit).length
  match text.drop digits with
  | '-' :: _ => digits == 4
  | ':' :: _ => digits == 2
  | _ => false

/-- A number, a date or a time. -/
def readNumber (text : List Char) : Option (Value × List Char) :=
  if startsMoment text then (afterDateTime? text).map (momentValue, ·)
  else
    match readFloat text with
    | some result => some result
    | none => readInteger text

end FirmwareGen.Document.Toml
