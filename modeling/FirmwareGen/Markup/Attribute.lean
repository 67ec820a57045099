-- SUMMARY: The attributes of a tag and the errors in their syntax.
import FirmwareGen.Markup.Entity
import FirmwareGen.Markup.Token
/-!
# Attributes of a tag

The content of a tag is a name and then attributes: a key, an equals sign and a value in quotes.
A scan splits them without a look at their meaning, so that both namespace declarations and
attribute values can be read from the result. Positions in errors are byte offsets in the content
of the tag.
-/

namespace FirmwareGen.Markup

inductive AttributeError
  | expectedEquals (position : Nat)
  | expectedValue (position : Nat)
  | unquotedValue (position : Nat)
  | unclosedValue (position : Nat) (quote : Char)
  | duplicated (position previous : Nat)
  deriving DecidableEq, Repr

def AttributeError.message : AttributeError → String
  | .expectedEquals position =>
    s!"position {position}: attribute key must be directly followed by `=` or space"
  | .expectedValue position => s!"position {position}: `=` must be followed by an attribute value"
  | .unquotedValue position =>
    s!"position {position}: attribute value must be enclosed in `\"` or `'`"
  | .unclosedValue position quote =>
    s!"position {position}: missing closing quote `{quote}` in attribute value"
  | .duplicated position previous =>
    s!"position {position}: duplicated attribute, previous declaration at position {previous}"

/-- An attribute as it stands in a tag. A fault in the value ends the scan. -/
structure RawAttribute where
  key : List Char
  /-- Where the key starts. -/
  position : Nat
  value : Except AttributeError (List Char)

namespace RawAttribute

/-! ## The parts of an attribute -/

/-- A place in a tag: the rest of its content and the byte offset there. -/
structure Place where
  rest : List Char
  position : Nat

def skipBlank (place : Place) : Place where
  rest := place.rest.dropWhile isBlank
  position := place.position + (place.rest.takeWhile isBlank).length

/-- Whether a character belongs to the key after its first character. -/
def inKey (c : Char) : Bool := c != '=' && !isBlank c

/-- The key at a place, where it starts, and the place of its value behind the equals sign; nothing
    where no attribute follows. The first character of a key may be any. -/
def readKey (length : Nat) (place : Place) :
    Option (Except AttributeError (List Char × Nat × Place)) :=
  let start := skipBlank place
  match start.rest with
  | [] => none
  | c :: rest =>
    let key := c :: rest.takeWhile inKey
    let stop := skipBlank
      { rest := rest.dropWhile inKey, position := start.position + byteLength key }
    match stop.rest with
    | [] => some (.error (.expectedEquals length))
    | '=' :: rest =>
      some (.ok (key, start.position, skipBlank { rest, position := stop.position + 1 }))
    | _ :: _ => some (.error (.expectedEquals stop.position))

/-- The value in quotes at a place. The content of the tag has `length` bytes. -/
def readValue (length : Nat) (place : Place) : Except AttributeError (List Char × Place) :=
  match place.rest with
  | [] => .error (.expectedValue length)
  | q :: rest =>
    if q = '"' ∨ q = '\'' then
      let value := rest.takeWhile (· != q)
      match rest.dropWhile (· != q) with
      | [] => .error (.unclosedValue length q)
      | _ :: rest => .ok (value, { rest, position := place.position + byteLength value + 2 })
    else .error (.unquotedValue place.position)

theorem length_skipBlank (place : Place) : (skipBlank place).rest.length ≤ place.rest.length :=
  (List.dropWhile_sublist _).length_le

theorem length_readKey {length position : Nat} {place after : Place} {key : List Char}
    (h : readKey length place = some (.ok (key, position, after))) :
    after.rest.length < place.rest.length := by
  simp only [readKey] at h
  have hstart := length_skipBlank place
  split at h
  · cases h
  · next c rest hc =>
    split at h
    · cases h
    · next tail heq =>
      simp only [Option.some.injEq, Except.ok.injEq, Prod.mk.injEq] at h
      have hkey := (List.dropWhile_sublist (l := rest) inKey).length_le
      have hstop := length_skipBlank
        { rest := rest.dropWhile inKey,
          position := (skipBlank place).position + byteLength (c :: rest.takeWhile inKey) }
      rw [heq] at hstop
      rw [hc] at hstart
      rw [← h.2.2]
      refine Nat.lt_of_le_of_lt (length_skipBlank _) ?_
      show tail.length < place.rest.length
      simp only [List.length_cons] at hstart hstop
      omega
    · cases h

theorem length_readValue {length : Nat} {place after : Place} {value : List Char}
    (h : readValue length place = .ok (value, after)) : after.rest.length < place.rest.length := by
  obtain ⟨rest, position⟩ := place
  cases rest with
  | nil => cases h
  | cons q rest =>
    simp only [readValue] at h
    split at h
    · split at h
      · cases h
      · next heq =>
        simp only [Except.ok.injEq, Prod.mk.injEq] at h
        have hle := (List.dropWhile_sublist (l := rest) (· != q)).length_le
        rw [heq, List.length_cons] at hle
        simp only [← h.2, List.length_cons]; omega
    · cases h

/-! ## Scanning -/

/-- The attributes from a place on, and the fault of a key that ends them. -/
def scanFrom (length : Nat) (place : Place) : List RawAttribute × Option AttributeError :=
  match _h : readKey length place with
  | none => ([], none)
  | some (.error e) => ([], some e)
  | some (.ok (key, position, beforeValue)) =>
    match _hv : readValue length beforeValue with
    | .error e => ([{ key, position, value := .error e }], none)
    | .ok (value, after) =>
      let (attributes, failure) := scanFrom length after
      ({ key, position, value := .ok value } :: attributes, failure)
termination_by place.rest.length
decreasing_by
  have h1 := length_readKey _h
  have h2 := length_readValue _hv
  omega

end RawAttribute

/-! ## The content of a tag -/

/-- The name at the start of the content of a tag. -/
def tagName (content : List Char) : List Char := content.takeWhile fun c => !isBlank c

/-- The attributes behind the name. -/
def rawAttributes (content : List Char) : List RawAttribute × Option AttributeError :=
  RawAttribute.scanFrom (byteLength content)
    { rest := content.dropWhile fun c => !isBlank c, position := byteLength (tagName content) }

/-- A fault in an attribute of a tag. -/
inductive AttributeFault
  | attribute (error : AttributeError)
  | escape (error : EscapeError)
  deriving DecidableEq, Repr

/-- Checks attributes in turn: a key that one of `earlier` has, the value, its entities. -/
def checkAttributes (earlier : List RawAttribute) :
    List RawAttribute → Except AttributeFault (List (String × String))
  | [] => .ok []
  | raw :: rest =>
    match earlier.find? (·.key == raw.key) with
    | some previous => .error (.attribute (.duplicated raw.position previous.position))
    | none =>
      match raw.value with
      | .error e => .error (.attribute e)
      | .ok value =>
        match Entity.unescape value with
        | .error e => .error (.escape e)
        | .ok value =>
          (checkAttributes (earlier ++ [raw]) rest).map
            ((String.ofList raw.key, String.ofList value) :: ·)

/-- The attributes of a tag by qualified name, in document order. -/
def readAttributes (content : List Char) : Except AttributeFault (List (String × String)) :=
  let (attributes, failure) := rawAttributes content
  match checkAttributes [] attributes, failure with
  | .error e, _ => .error e
  | .ok _, some e => .error (.attribute e)
  | .ok attributes, none => .ok attributes

end FirmwareGen.Markup
