-- SUMMARY: Entities and character references in attribute values.
import FirmwareGen.Text.Numeral
/-!
# Entities in attribute values

Reading replaces the five predefined entities and character references. Offsets in errors count
bytes of UTF-8, because that is how positions in documents are reported. Writing escapes the
five characters that have an entity.
-/

namespace FirmwareGen.Markup

/-- The length of a text in bytes of UTF-8. -/
def byteLength : List Char → Nat
  | [] => 0
  | c :: rest => c.utf8Size + byteLength rest

inductive ReferenceError
  | unexpectedSign
  | noDigits
  | invalidDigit
  | tooLarge
  | zero
  /-- A number that is no character. -/
  | noCharacter (code : Nat)
  deriving DecidableEq, Repr

inductive EscapeError
  /-- An ampersand at byte `start` of a value of `length` bytes starts no entity. -/
  | unterminated (start length : Nat)
  | unknownEntity (start stop : Nat) (name : String)
  | reference (error : ReferenceError)
  deriving DecidableEq, Repr

def ReferenceError.message : ReferenceError → String
  | .unexpectedSign => "unexpected number sign"
  | .noDigits => "cannot parse integer from empty string"
  | .invalidDigit => "invalid digit found in string"
  | .tooLarge => "number too large to fit in target type"
  | .zero => "0x0 character is not permitted in XML"
  | .noCharacter code => s!"`{code}` is not a valid codepoint"

def EscapeError.message : EscapeError → String
  | .unterminated start length =>
    s!"Error while escaping character at range {start}..{length}: Cannot find ';' after '&'"
  | .unknownEntity start stop name => s!"at {start}..{stop}: unrecognized entity `{name}`"
  | .reference error => "invalid character reference: " ++ error.message

namespace Entity

/-! ## Character references -/

/-- The number that digits denote after `value`, below 2 ^ 32. The first fault from the left
    counts. -/
def readCode (base value : Nat) : List Char → Except ReferenceError Nat
  | [] => .ok value
  | c :: rest =>
    match Text.digitValue? base c with
    | none => .error .invalidDigit
    | some d =>
      let value := value * base + d
      if value < 4294967296 then readCode base value rest else .error .tooLarge

/-- An unsigned number. -/
def readUnsigned (base : Nat) : List Char → Except ReferenceError Nat
  | [] => .error .noDigits
  | c :: rest =>
    if c = '+' ∨ c = '-' then .error .unexpectedSign else readCode base 0 (c :: rest)

/-- The character that a reference names by what follows its number sign. -/
def readReference (text : List Char) : Except ReferenceError Char :=
  let code :=
    match text with
    | 'x' :: hex => readUnsigned 16 hex
    | decimal => readUnsigned 10 decimal
  match code with
  | .error e => .error e
  | .ok n =>
    if n = 0 then .error .zero
    else if n.isValidChar then .ok (Char.ofNat n)
    else .error (.noCharacter n)

/-! ## Reading -/

def predefined? (name : List Char) : Option Char :=
  if name = "lt".toList then some '<'
  else if name = "gt".toList then some '>'
  else if name = "amp".toList then some '&'
  else if name = "apos".toList then some '\''
  else if name = "quot".toList then some '"'
  else none

/-- The character of an entity whose name starts at byte `start`. -/
def resolve (start : Nat) (name : List Char) : Except EscapeError Char :=
  match name with
  | '#' :: number => (readReference number).mapError .reference
  | name =>
    match predefined? name with
    | some c => .ok c
    | none => .error (.unknownEntity start (start + byteLength name) (String.ofList name))

/-- The name of an entity up to its semicolon; another ampersand must not come before. -/
def spanName : List Char → Option (List Char × List Char)
  | [] => none
  | ';' :: rest => some ([], rest)
  | '&' :: _ => none
  | c :: rest => (spanName rest).map fun (name, rest) => (c :: name, rest)

theorem length_spanName {text name rest : List Char} (h : spanName text = some (name, rest)) :
    rest.length < text.length := by
  induction text generalizing name rest with
  | nil => simp [spanName] at h
  | cons c text ih =>
    unfold spanName at h
    split at h
    · cases h
    · next heq => cases heq; simp only [Option.some.injEq, Prod.mk.injEq] at h; simp [h.2]
    · cases h
    · next heq =>
      cases heq
      obtain ⟨⟨name', rest'⟩, hr, hp⟩ := Option.map_eq_some_iff.1 h
      simp only [Prod.mk.injEq] at hp
      have := ih hr
      simp only [List.length_cons, ← hp.2]; omega

/-- Replaces the entities of the part of a value that starts at byte `start`; the whole value has
    `length` bytes. -/
def unescapeFrom (length start : Nat) : List Char → Except EscapeError (List Char)
  | [] => .ok []
  | '&' :: rest =>
    match _h : spanName rest with
    | none => .error (.unterminated start length)
    | some (name, after) =>
      match resolve (start + 1) name with
      | .error e => .error e
      | .ok c => (unescapeFrom length (start + 2 + byteLength name) after).map (c :: ·)
  | c :: rest => (unescapeFrom length (start + c.utf8Size) rest).map (c :: ·)
termination_by text => text.length
decreasing_by
  · have := length_spanName _h
    simp only [List.length_cons]; omega
  · simp

def unescape (value : List Char) : Except EscapeError (List Char) :=
  unescapeFrom (byteLength value) 0 value

/-! ## Writing -/

def escapeChar (c : Char) : List Char :=
  if c = '<' then "&lt;".toList
  else if c = '>' then "&gt;".toList
  else if c = '&' then "&amp;".toList
  else if c = '\'' then "&apos;".toList
  else if c = '"' then "&quot;".toList
  else [c]

def escape (value : List Char) : List Char := value.flatMap escapeChar

end Entity

end FirmwareGen.Markup
