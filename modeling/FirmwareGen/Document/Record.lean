-- SUMMARY: Codecs for scalars, choices, lists and records over document values.
import FirmwareGen.Document.Value
import FirmwareGen.Model.Choice
/-!
# Records

How typed records are read from document values and written back. A record is a preset and a list
of fields, each with a name and a codec. It is read from a table by field name or from an array by
position; a field that is left out keeps its preset, an unknown name is skipped, and a field given
twice is refused.
-/

namespace FirmwareGen.Document

/-- The points in which document formats differ. -/
structure Dialect where
  /-- Whether an array may be longer than the record that it is read as. -/
  allowsSurplus : Bool
  /-- Whether a value may stand as the payload of a choice written as a one-entry table. -/
  isUnit : Value → Bool

/-- Writing and reading of one type. -/
structure Codec (α : Type) where
  decode : Dialect → Value → Option α
  encode : α → Value

/-! ## Scalars, choices and lists -/

namespace Codec

def text : Codec String where
  decode _
    | .string s => some s
    | _ => none
  encode := .string

def flag : Codec Bool where
  decode _
    | .bool b => some b
    | _ => none
  encode := .bool

/-- An integer between two bounds, through a type that holds just those. -/
def integer {α : Type} (least greatest : Int) (ofInt : Int → α) (toInt : α → Int) : Codec α where
  decode _
    | .int n => if least ≤ n ∧ n ≤ greatest then some (ofInt n) else none
    | _ => none
  encode a := .int (toInt a)

def uint8 : Codec UInt8 := integer 0 255 (fun n => .ofNat n.toNat) (fun n => n.toNat)

def uint32 : Codec UInt32 := integer 0 4294967295 (fun n => .ofNat n.toNat) (fun n => n.toNat)

def int32 : Codec Int32 := integer (-2147483648) 2147483647 .ofInt Int32.toInt

/-- A choice is its name, or a table of one entry with its name and a payload that says nothing. -/
def choice (α : Type) [Choice α] : Codec α where
  decode dialect
    | .string s => Choice.named? α s
    | .object [(key, payload)] => if dialect.isUnit payload then Choice.named? α key else none
    | _ => none
  encode a := .string (Choice.name a)

def list {α : Type} (item : Codec α) : Codec (List α) where
  decode dialect
    | .array items => items.mapM (item.decode dialect)
    | _ => none
  encode items := .array (items.map item.encode)

end Codec

/-! ## Records -/

/-- A named part of a record of type `σ`. -/
structure Field (σ : Type) where
  name : String
  {Content : Type}
  codec : Codec Content
  get : σ → Content
  set : Content → σ → σ

/-- Sets a field to what a value says. -/
def Field.assign {σ : Type} (field : Field σ) (dialect : Dialect) (value : Value) (record : σ) :
    Option σ :=
  (field.codec.decode dialect value).map fun content => field.set content record

structure Record (σ : Type) where
  preset : σ
  fields : List (Field σ)

namespace Record

variable {σ : Type}

/-- Sets a field to the member of its name, if there is one; two are refused. -/
def readField (dialect : Dialect) (members : List (String × Value)) (record : σ)
    (field : Field σ) : Option σ :=
  match members.filter (·.1 == field.name) with
  | [] => some record
  | [(_, value)] => field.assign dialect value record
  | _ => none

def readMembers (schema : Record σ) (dialect : Dialect) (members : List (String × Value)) :
    Option σ :=
  schema.fields.foldlM (readField dialect members) schema.preset

/-- Sets the first fields to the entries of an array. -/
def readEntries (dialect : Dialect) : List (Field σ) → List Value → σ → Option σ
  | _, [], record => some record
  | [], _ :: _, record => if dialect.allowsSurplus then some record else none
  | field :: fields, value :: values, record =>
    (field.assign dialect value record).bind (readEntries dialect fields values)

def codec (schema : Record σ) : Codec σ where
  decode dialect
    | .object members => schema.readMembers dialect members
    | .array entries => readEntries dialect schema.fields entries schema.preset
    | _ => none
  encode record := .object (schema.fields.map fun field =>
    (field.name, field.codec.encode (field.get record)))

end Record

end FirmwareGen.Document
