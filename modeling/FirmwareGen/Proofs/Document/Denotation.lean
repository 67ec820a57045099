-- SUMMARY: What JSON values denote, and the codecs and schemas that read just that.
import FirmwareGen.Document.Json.Reader
import FirmwareGen.Proofs.Document.Fields
import FirmwareGen.Proofs.Document.Records
import Mathlib.Data.List.Forall2
/-!
# Denotation

A type is declared by the names, contents and defaults of its fields. A JSON value denotes a record
if it is a table or an array whose values denote the contents of the fields that they are given for,
while the other fields are at their defaults. A schema with the fields of a declaration reads just
what is denoted, and so takes partial documents, whatever the order of their keys.
-/

namespace FirmwareGen.Document

/-! ## What values denote -/

/-- Types whose contents are denoted by JSON values. -/
class Denoted (α : Type) where
  Denotes : Value → α → Prop

export Denoted (Denotes)

instance : Denoted String where
  Denotes value text := value = .string text

instance : Denoted Bool where
  Denotes value flag := value = .bool flag

instance : Denoted UInt8 where
  Denotes value n := value = .int n.toNat

instance : Denoted UInt32 where
  Denotes value n := value = .int n.toNat

instance : Denoted Int32 where
  Denotes value n := value = .int n.toInt

/-- A choice is denoted by its name, or by a table of one entry with its name and null. -/
instance {α : Type} [Choice α] : Denoted α where
  Denotes value a := value = .string (Choice.name a) ∨ value = .object [(Choice.name a, .null)]

instance {α : Type} [Denoted α] : Denoted (List α) where
  Denotes value contents := ∃ items, value = .array items ∧ List.Forall₂ Denotes items contents

/-- A field as a type declares it. -/
structure FieldPart (σ : Type) where
  name : String
  {Content : Type}
  [denoted : Denoted Content]
  content : σ → Content
  default : Content

/-- The field of a record is what is given for it says, and at its default if nothing is given. -/
def FieldPart.Holds {σ : Type} (part : FieldPart σ) (given : Option Value) (record : σ) : Prop :=
  match given with
  | none => part.content record = part.default
  | some value => part.denoted.Denotes value (part.content record)

/-- A record is denoted by a table in which no field is given twice, whatever else is in it, or by an
    array of the first fields. -/
def DenotesRecord {σ : Type} (parts : List (FieldPart σ)) : Value → σ → Prop
  | .object members, record =>
    ∀ part ∈ parts, Once members part.name ∧ part.Holds (members.lookup part.name) record
  | .array entries, record =>
    entries.length ≤ parts.length ∧
      ∀ part ∈ parts, part.Holds (((parts.map (·.name)).zip entries).lookup part.name) record
  | _, _ => False

/-! ## Codecs that read what is denoted -/

/-- A codec reads a content from just the values that denote it. -/
def Codec.Reads {α : Type} [Denoted α] (codec : Codec α) : Prop :=
  ∀ value a, codec.decode Json.dialect value = some a ↔ Denotes value a

namespace Codec

theorem reads_text : text.Reads := by
  intro value a
  cases value <;> simp [text, Denotes]

theorem reads_flag : flag.Reads := by
  intro value a
  cases value <;> simp [flag, Denotes]

theorem decode_integer_eq_some_iff {α : Type} {least greatest : Int} {ofInt : Int → α}
    {toInt : α → Int} (hlawful : (integer least greatest ofInt toInt).Lawful)
    (hinverse : ∀ n, least ≤ n → n ≤ greatest → toInt (ofInt n) = n) (dialect : Dialect)
    (value : Value) (a : α) :
    (integer least greatest ofInt toInt).decode dialect value = some a ↔ value = .int (toInt a) := by
  constructor
  · intro h
    cases value with
    | int n =>
      simp only [integer] at h
      split at h
      · next hbounds =>
        obtain rfl := Option.some.inj h
        rw [hinverse n hbounds.1 hbounds.2]
      · cases h
    | _ => cases h
  · rintro rfl
    exact hlawful.decode_encode dialect a

theorem reads_uint8 : uint8.Reads := by
  refine decode_integer_eq_some_iff lawful_uint8 (fun n hleast hgreatest => ?_) Json.dialect
  rw [UInt8.toNat_ofNat_of_lt' (by rw [UInt8.size]; omega), Int.toNat_of_nonneg hleast]

theorem reads_uint32 : uint32.Reads := by
  refine decode_integer_eq_some_iff lawful_uint32 (fun n hleast hgreatest => ?_) Json.dialect
  rw [UInt32.toNat_ofNat_of_lt' (by rw [UInt32.size]; omega), Int.toNat_of_nonneg hleast]

theorem reads_int32 : int32.Reads := by
  refine decode_integer_eq_some_iff lawful_int32 (fun n hleast hgreatest => ?_) Json.dialect
  exact Int32.toInt_ofInt_of_le hleast (Int.lt_add_one_of_le hgreatest)

theorem reads_choice (α : Type) [Choice α] : (choice α).Reads := by
  intro value a
  have hname : ∀ text, Choice.named? α text = some a ↔ text = Choice.name a := fun text =>
    Choice.named?_eq_some_iff.trans eq_comm
  cases value with
  | string text => simp [choice, Denotes, hname]
  | object members =>
    match members with
    | [] => simp [choice, Denotes]
    | [(key, payload)] =>
      cases payload <;> simp [choice, Denotes, Json.dialect, hname]
    | _ :: _ :: _ => simp [choice, Denotes]
  | _ => simp [choice, Denotes]

theorem mapM_eq_some_iff {α β : Type} {f : α → Option β} {xs : List α} {ys : List β} :
    xs.mapM f = some ys ↔ List.Forall₂ (fun x y => f x = some y) xs ys := by
  induction xs generalizing ys with
  | nil => simp [eq_comm]
  | cons x xs ih =>
    rw [List.mapM_cons, Option.bind_eq_bind, Option.bind_eq_some_iff]
    constructor
    · rintro ⟨y, hy, hrest⟩
      obtain ⟨rest, hmap, hys⟩ := Option.bind_eq_some_iff.1 hrest
      obtain rfl := Option.some.inj hys
      exact .cons hy (ih.1 hmap)
    · rintro (_ | ⟨hy, hrest⟩)
      exact ⟨_, hy, by rw [ih.2 hrest]; rfl⟩

theorem reads_list {α : Type} [Denoted α] {item : Codec α} (hitem : item.Reads) :
    (list item).Reads := by
  intro value contents
  have hitems : ∀ items, items.mapM (item.decode Json.dialect) = some contents ↔
      List.Forall₂ Denotes items contents := by
    intro items
    rw [mapM_eq_some_iff]
    simp only [hitem _ _]
  cases value with
  | array items => simp [list, Denotes, hitems]
  | _ => simp [list, Denotes]

end Codec

/-! ## Schemas that read what is declared -/

variable {σ : Type}

/-- A field of a schema is read as it is declared, and the preset has its default. -/
inductive Field.Declared (before : σ) : Field σ → FieldPart σ → Prop
  | intro {name : String} {Content : Type} [Denoted Content] {codec : Codec Content}
      {get : σ → Content} {set : Content → σ → σ} (reads : codec.Reads) :
    Declared before { name, codec, get, set }
      { name, content := get, default := get before }

namespace Field.Declared

variable {before : σ} {field : Field σ} {part : FieldPart σ}

theorem name_eq (h : field.Declared before part) : part.name = field.name := by
  cases h
  rfl

theorem takes_iff (h : field.Declared before part) (given : Option Value) (record : σ) :
    field.Takes Json.dialect given before record ↔ part.Holds given record := by
  cases h with
  | intro hreads =>
    cases given with
    | none => rfl
    | some value => exact hreads value _

theorem isSome_decode_iff (h : field.Declared before part) (value : Value) :
    (field.codec.decode Json.dialect value).isSome ↔
      ∃ content, part.denoted.Denotes value content := by
  cases h with
  | intro hreads =>
    rw [Option.isSome_iff_exists]
    exact exists_congr (hreads value)

end Field.Declared

/-- The fields of a schema are those of a declaration, in order. -/
structure Record.Declares (schema : Record σ) (parts : List (FieldPart σ)) : Prop where
  separated : schema.Separated
  fields : List.Forall₂ (Field.Declared schema.preset) schema.fields parts

namespace Record.Declares

variable {schema : Record σ} {parts : List (FieldPart σ)}

theorem names (h : schema.Declares parts) :
    parts.map (·.name) = schema.fields.map (·.name) := by
  have hnames := h.fields.imp fun _ _ hfield => hfield.name_eq.symm
  exact (List.forall₂_eq_eq_eq ▸ List.forall₂_map_left_iff.2
    (List.forall₂_map_right_iff.2 hnames)).symm

theorem length_eq (h : schema.Declares parts) : parts.length = schema.fields.length :=
  h.fields.length_eq.symm

/-- What holds of each field of the schema holds of each field of the declaration. -/
theorem forall_iff (h : schema.Declares parts) {ofField : Field σ → Prop}
    {ofPart : FieldPart σ → Prop}
    (hiff : ∀ field part, field.Declared schema.preset part → (ofField field ↔ ofPart part)) :
    (∀ field ∈ schema.fields, ofField field) ↔ ∀ part ∈ parts, ofPart part := by
  have hfields := h.fields
  clear h
  generalize schema.fields = fields at hfields
  induction hfields with
  | nil => simp
  | cons hfield _ ih =>
    rw [List.forall_mem_cons, List.forall_mem_cons]
    exact and_congr (hiff _ _ hfield) ih

theorem decode_object_eq_some_iff (h : schema.Declares parts) (members : List (String × Value))
    (record : σ) :
    schema.codec.decode Json.dialect (.object members) = some record ↔
      ∀ part ∈ parts, Once members part.name ∧ part.Holds (members.lookup part.name) record := by
  refine (Record.readMembers_eq_some_iff h.separated record).trans (h.forall_iff ?_)
  intro field part hdeclared
  rw [hdeclared.takes_iff, hdeclared.name_eq]

theorem decode_array (h : schema.Declares parts) {entries : List Value}
    (hlength : entries.length ≤ parts.length) :
    schema.codec.decode Json.dialect (.array entries) =
      schema.codec.decode Json.dialect (.object ((parts.map (·.name)).zip entries)) := by
  rw [h.length_eq] at hlength
  rw [h.names]
  exact Record.readEntries_eq_foldlM h.separated.names hlength schema.preset

theorem decode_surplus (h : schema.Declares parts) {entries : List Value}
    (hlength : parts.length < entries.length) :
    schema.codec.decode Json.dialect (.array entries) = none :=
  Record.readEntries_of_surplus rfl (h.length_eq ▸ hlength) schema.preset

/-- A declared schema reads just what denotes a record. -/
theorem reads (h : schema.Declares parts) (value : Value) (record : σ) :
    schema.codec.decode Json.dialect value = some record ↔ DenotesRecord parts value record := by
  have hnames : (parts.map (·.name)).Nodup := h.names ▸ h.separated.names
  cases value with
  | object members => exact h.decode_object_eq_some_iff members record
  | array entries =>
    rcases Nat.lt_or_ge parts.length entries.length with hlength | hlength
    · rw [h.decode_surplus hlength]
      simpa [DenotesRecord] using fun hle => absurd hle (Nat.not_le_of_lt hlength)
    · rw [h.decode_array hlength, h.decode_object_eq_some_iff]
      have honce := fun part : FieldPart σ => once_zip hnames entries part.name
      simp [DenotesRecord, hlength, honce]
  | _ => simp [DenotesRecord, Record.codec]

end Record.Declares

/-! ## Partial documents -/

/-- Reading takes what a partial document gives and leaves every other field at its default. -/
structure TakesDefaults (schema : Record σ) (parts : List (FieldPart σ)) : Prop where
  /-- The record that is read has what the keys say, and nothing else differs from the defaults. -/
  object (members : List (String × Value)) (record : σ) : (members.map (·.1)).Nodup →
    (schema.codec.decode Json.dialect (.object members) = some record ↔
      ∀ part ∈ parts, part.Holds (members.lookup part.name) record)
  /-- Reading fails only at a value that is no content of its field. -/
  succeeds (members : List (String × Value)) : (members.map (·.1)).Nodup →
    ((schema.codec.decode Json.dialect (.object members)).isSome ↔
      ∀ part ∈ parts, ∀ value, members.lookup part.name = some value →
        ∃ content, part.denoted.Denotes value content)
  /-- Neither the order of the keys nor what unknown keys say matters. -/
  insensitive (members members' : List (String × Value)) :
    (members.map (·.1)).Nodup → (members'.map (·.1)).Nodup →
    (members.filter (·.1 ∈ parts.map (·.name))).Perm
      (members'.filter (·.1 ∈ parts.map (·.name))) →
    schema.codec.decode Json.dialect (.object members) =
      schema.codec.decode Json.dialect (.object members')
  positional (entries : List Value) : entries.length ≤ parts.length →
    schema.codec.decode Json.dialect (.array entries) =
      schema.codec.decode Json.dialect (.object ((parts.map (·.name)).zip entries))
  surplus (entries : List Value) : parts.length < entries.length →
    schema.codec.decode Json.dialect (.array entries) = none

namespace Record.Declares

variable {schema : Record σ} {parts : List (FieldPart σ)}

theorem decode_object_eq_some_iff_of_nodup (h : schema.Declares parts)
    {members : List (String × Value)} (hkeys : (members.map (·.1)).Nodup) (record : σ) :
    schema.codec.decode Json.dialect (.object members) = some record ↔
      ∀ part ∈ parts, part.Holds (members.lookup part.name) record := by
  rw [h.decode_object_eq_some_iff]
  exact forall₂_congr fun part _ => and_iff_right (once_of_nodup hkeys part.name)

theorem isSome_decode_object_iff (h : schema.Declares parts)
    {members : List (String × Value)} (hkeys : (members.map (·.1)).Nodup) :
    (schema.codec.decode Json.dialect (.object members)).isSome ↔
      ∀ part ∈ parts, ∀ value, members.lookup part.name = some value →
        ∃ content, part.denoted.Denotes value content := by
  constructor
  · intro hsome part hpart value hvalue
    obtain ⟨record, hrecord⟩ := Option.isSome_iff_exists.1 hsome
    have hholds := (h.decode_object_eq_some_iff_of_nodup hkeys record).1 hrecord part hpart
    rw [hvalue] at hholds
    exact ⟨_, hholds⟩
  · intro hvalues
    refine Record.isSome_readMembers ((h.forall_iff fun field part hdeclared => ?_).2 hvalues)
    simp only [hdeclared.name_eq, hdeclared.isSome_decode_iff,
      once_of_nodup hkeys field.name, true_and]

theorem lookup_eq_of_perm {members members' : List (String × Value)}
    (hkeys : (members.map (·.1)).Nodup)
    (hperm : (members.filter (·.1 ∈ parts.map (·.name))).Perm
      (members'.filter (·.1 ∈ parts.map (·.name)))) {part : FieldPart σ} (hpart : part ∈ parts) :
    members.lookup part.name = members'.lookup part.name := by
  have hknown : ∀ members : List (String × Value),
      (members.filter (·.1 ∈ parts.map (·.name))).filter (·.1 == part.name) =
        members.filter (·.1 == part.name) := by
    intro members
    rw [List.filter_filter]
    refine List.filter_congr fun member _ => ?_
    by_cases hname : member.1 = part.name
    · simpa [hname] using ⟨part, hpart, rfl⟩
    · simp [hname]
  refine lookup_congr (once_of_nodup hkeys part.name) ?_
  rw [← hknown members, ← hknown members']
  exact hperm.filter _

theorem takesDefaults (h : schema.Declares parts) : TakesDefaults schema parts where
  object _ record hkeys := h.decode_object_eq_some_iff_of_nodup hkeys record
  succeeds _ hkeys := h.isSome_decode_object_iff hkeys
  insensitive members members' hkeys hkeys' hperm := by
    refine Option.ext fun record => ?_
    rw [h.decode_object_eq_some_iff_of_nodup hkeys, h.decode_object_eq_some_iff_of_nodup hkeys']
    refine forall₂_congr fun part hpart => ?_
    rw [lookup_eq_of_perm hkeys hperm hpart]
  positional _ hlength := h.decode_array hlength
  surplus _ hlength := h.decode_surplus hlength

end Record.Declares

end FirmwareGen.Document
