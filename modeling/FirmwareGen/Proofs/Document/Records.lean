-- SUMMARY: Written records are read back.
import FirmwareGen.Document.Record
import FirmwareGen.Model.Schema
import Mathlib.Data.List.Nodup
import Mathlib.Tactic.Common
/-!
# Reading written records

A codec is lawful when reading inverts writing in every dialect and nothing is written that a
document cannot hold. Scalars and choices have lawful codecs, lists inherit the law from their
items, and records inherit it from their fields, if the fields have different names and together
make up the record.
-/

namespace FirmwareGen.Document

/-- A value without numbers that are kept as text and without what cannot be read. -/
inductive Value.Exact : Value → Prop
  | null : Exact .null
  | bool (b : Bool) : Exact (.bool b)
  | int (n : Int) : Exact (.int n)
  | string (text : String) : Exact (.string text)
  | array {items : List Value} (exact : ∀ item ∈ items, Exact item) : Exact (.array items)
  | object {members : List (String × Value)} (exact : ∀ member ∈ members, Exact member.2) :
    Exact (.object members)

/-- Reading inverts writing. -/
structure Codec.Lawful {α : Type} (codec : Codec α) : Prop where
  decode_encode (dialect : Dialect) (a : α) : codec.decode dialect (codec.encode a) = some a
  exact (a : α) : (codec.encode a).Exact

/-! ## Scalars, choices and lists -/

namespace Codec

theorem lawful_text : text.Lawful where
  decode_encode _ _ := rfl
  exact s := .string s

theorem lawful_flag : flag.Lawful where
  decode_encode _ _ := rfl
  exact b := .bool b

theorem lawful_integer {α : Type} {least greatest : Int} {ofInt : Int → α} {toInt : α → Int}
    (hbounds : ∀ a, least ≤ toInt a ∧ toInt a ≤ greatest) (hinverse : ∀ a, ofInt (toInt a) = a) :
    (integer least greatest ofInt toInt).Lawful where
  decode_encode dialect a := by
    simp only [integer, if_pos (hbounds a), hinverse a]
  exact a := .int (toInt a)

theorem lawful_uint8 : uint8.Lawful := by
  apply lawful_integer
  · intro a
    have := a.toNat_lt
    omega
  · intro a
    rw [Int.toNat_natCast, UInt8.ofNat_toNat]

theorem lawful_uint32 : uint32.Lawful := by
  apply lawful_integer
  · intro a
    have := a.toNat_lt
    omega
  · intro a
    rw [Int.toNat_natCast, UInt32.ofNat_toNat]

theorem lawful_int32 : int32.Lawful := by
  apply lawful_integer
  · intro a
    have hleast := a.le_toInt
    have hgreatest := a.toInt_lt
    omega
  · exact Int32.ofInt_toInt

theorem lawful_choice (α : Type) [Choice α] : (choice α).Lawful where
  decode_encode _ a := Choice.named?_name a
  exact a := .string (Choice.name a)

theorem lawful_list {α : Type} {item : Codec α} (hitem : item.Lawful) : (list item).Lawful where
  decode_encode dialect items := by
    change (items.map item.encode).mapM (item.decode dialect) = some items
    induction items with
    | nil => rfl
    | cons a items ih =>
      rw [List.map_cons, List.mapM_cons, hitem.decode_encode, ih]
      rfl
  exact items := by
    apply Value.Exact.array
    intro value hvalue
    obtain ⟨a, -, rfl⟩ := List.mem_map.1 hvalue
    exact hitem.exact a

end Codec

/-! ## Records -/

namespace Record

variable {σ : Type}

/-- Fields of different names whose contents make up the record. -/
structure Lawful (schema : Record σ) : Prop where
  codecs : ∀ field ∈ schema.fields, field.codec.Lawful
  names : (schema.fields.map (·.name)).Nodup
  /-- Setting every field of the preset as in a record gives that record. -/
  rebuilt (record : σ) :
    schema.fields.foldl (fun built field => field.set (field.get record) built) schema.preset =
      record

/-- The members that are written for some fields. -/
def written (record : σ) (fields : List (Field σ)) : List (String × Value) :=
  fields.map fun field => (field.name, field.codec.encode (field.get record))

theorem filter_written {fields : List (Field σ)} (hnames : (fields.map (·.name)).Nodup)
    {field : Field σ} (hfield : field ∈ fields) (record : σ) :
    (written record fields).filter (·.1 == field.name) =
      [(field.name, field.codec.encode (field.get record))] := by
  induction fields with
  | nil => cases hfield
  | cons first fields ih =>
    rw [List.map_cons, List.nodup_cons] at hnames
    obtain ⟨hfirst, hrest⟩ := hnames
    rw [written, List.map_cons, ← written]
    rcases List.mem_cons.1 hfield with rfl | hfield
    · have hnone : (written record fields).filter (·.1 == field.name) = [] := by
        rw [List.filter_eq_nil_iff]
        intro member hmember
        obtain ⟨other, hother, rfl⟩ := List.mem_map.1 hmember
        have hne : other.name ≠ field.name :=
          fun heq => hfirst (heq ▸ List.mem_map_of_mem hother)
        simpa using hne
      rw [List.filter_cons_of_pos (by simp), hnone]
    · have hne : first.name ≠ field.name :=
        fun heq => hfirst (heq ▸ List.mem_map_of_mem hfield)
      rw [List.filter_cons_of_neg (by simpa using hne), ih hrest hfield]

/-- Reading a written field copies its content. -/
theorem readField_written {schema : Record σ} (hschema : schema.Lawful) {field : Field σ}
    (hfield : field ∈ schema.fields) (dialect : Dialect) (record built : σ) :
    readField dialect (written record schema.fields) built field =
      some (field.set (field.get record) built) := by
  have hlawful := hschema.codecs field hfield
  simp only [readField, filter_written hschema.names hfield, Field.assign, hlawful.decode_encode,
    Option.map_some]

theorem readMembers_written {schema : Record σ} (hschema : schema.Lawful) (dialect : Dialect)
    (record : σ) :
    schema.readMembers dialect (written record schema.fields) = some record := by
  -- The fields that are still to be read change along the fold, the members do not.
  have hfold : ∀ fields : List (Field σ), (∀ field ∈ fields, field ∈ schema.fields) →
      ∀ built, fields.foldlM (readField dialect (written record schema.fields)) built =
        some (fields.foldl (fun built field => field.set (field.get record) built) built) := by
    intro fields
    induction fields with
    | nil =>
      intro _ built
      rfl
    | cons field fields ih =>
      intro hfields built
      rw [List.forall_mem_cons] at hfields
      rw [List.foldlM_cons, readField_written hschema hfields.1, Option.bind_eq_bind,
        Option.bind_some, ih hfields.2, List.foldl_cons]
  rw [readMembers, hfold schema.fields (fun _ hfield => hfield), hschema.rebuilt]

theorem lawful_codec {schema : Record σ} (hschema : schema.Lawful) : schema.codec.Lawful where
  decode_encode dialect record := readMembers_written hschema dialect record
  exact record := by
    apply Value.Exact.object
    intro member hmember
    obtain ⟨field, hfield, rfl⟩ := List.mem_map.1 hmember
    exact (hschema.codecs field hfield).exact (field.get record)

end Record

end FirmwareGen.Document

/-! ## Modulators and phases -/

namespace FirmwareGen

open Document

theorem Phase.lawful_schema : Phase.schema.Lawful where
  codecs := by
    simp only [Phase.schema, List.forall_mem_cons]
    exact ⟨Codec.lawful_uint32, Codec.lawful_text, Codec.lawful_text, Codec.lawful_text,
      Codec.lawful_flag, Codec.lawful_choice IsrTrigger, Codec.lawful_flag,
      Codec.lawful_choice AdcTrigger, Codec.lawful_choice PwmAlignment, Codec.lawful_int32,
      Codec.lawful_flag, List.forall_mem_nil _⟩
  names := by decide
  rebuilt _ := rfl

theorem Modulator.lawful_schema : Modulator.schema.Lawful where
  codecs := by
    have hphases := Codec.lawful_list (Record.lawful_codec Phase.lawful_schema)
    simp only [Modulator.schema, List.forall_mem_cons]
    exact ⟨Codec.lawful_uint32, Codec.lawful_text, Codec.lawful_text, Codec.lawful_text,
      Codec.lawful_text, Codec.lawful_uint8, Codec.lawful_text, Codec.lawful_text,
      Codec.lawful_text, hphases, List.forall_mem_nil _⟩
  names := by decide
  rebuilt _ := rfl

end FirmwareGen
