-- SUMMARY: The values of configuration documents.
/-!
# Document values

What a configuration document says before its records are read. Numbers keep whether they are
integers, and objects keep the members that share a key, because reading depends on both.
-/

namespace FirmwareGen.Document

inductive Value where
  | null
  | bool (b : Bool)
  | int (n : Int)
  /-- A number with a fraction or an exponent, as written. -/
  | real (text : String)
  | string (text : String)
  | array (items : List Value)
  /-- Members by key; tables are objects too. -/
  | object (members : List (String × Value))
  /-- Something well-formed that can be skipped but has no value. -/
  | unreadable

instance : Inhabited Value := ⟨.null⟩

/-- Whether a value is an object or an array without entries. -/
def Value.isVacant : Value → Bool
  | .object [] => true
  | .array [] => true
  | _ => false

end FirmwareGen.Document
