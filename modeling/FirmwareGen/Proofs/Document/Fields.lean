-- SUMMARY: What reading a record takes from a table or an array and what it keeps.
import FirmwareGen.Document.Record
import Mathlib.Data.List.Nodup
import Mathlib.Data.List.Count
import Mathlib.Tactic.Common
/-!
# Reading records field by field

Reading a record is a fold over its fields. If the fields do not overlap, the fold comes to one
condition on each field of the result: it is what the value under its name says, or it is preset. An
array says what the table says that gives its entries to the first fields.
-/

namespace FirmwareGen.Document

variable {σ : Type}

/-! ## Fields that do not overlap -/

/-- What is set is got, and setting what is got changes nothing. -/
structure Field.Settable (field : Field σ) : Prop where
  get_set (content : field.Content) (record : σ) : field.get (field.set content record) = content
  set_get (record : σ) : field.set (field.get record) record = record

/-- Setting one of two fields does not change the other one. -/
structure Field.Apart (field other : Field σ) : Prop where
  get_set (content : other.Content) (record : σ) :
    field.get (other.set content record) = field.get record
  get_set' (content : field.Content) (record : σ) :
    other.get (field.set content record) = other.get record

/-- A record into which some fields are copied from another one. -/
def copyFields (record : σ) (fields : List (Field σ)) (built : σ) : σ :=
  fields.foldl (fun built field => field.set (field.get record) built) built

/-- Fields of different names that do not overlap and make up the record. -/
structure Record.Separated (schema : Record σ) : Prop where
  settable : ∀ field ∈ schema.fields, field.Settable
  apart : schema.fields.Pairwise Field.Apart
  names : (schema.fields.map (·.name)).Nodup
  rebuilt (record : σ) : copyFields record schema.fields schema.preset = record

theorem get_copyFields {field : Field σ} {fields : List (Field σ)}
    (hapart : ∀ other ∈ fields, field.Apart other) (record built : σ) :
    field.get (copyFields record fields built) = field.get built := by
  induction fields generalizing built with
  | nil => rfl
  | cons other fields ih =>
    rw [List.forall_mem_cons] at hapart
    exact (ih hapart.2 _).trans (hapart.1.get_set _ _)

/-! ## Tables -/

/-- At most one member has this key. -/
def Once (members : List (String × Value)) (key : String) : Prop :=
  (members.filter (·.1 == key)).length ≤ 1

/-- What a field of a record is after a reading: what the value that is given for it says, or what it
    was before. -/
def Field.Takes (field : Field σ) (dialect : Dialect) (given : Option Value) (before record : σ) :
    Prop :=
  match given with
  | none => field.get record = field.get before
  | some value => field.codec.decode dialect value = some (field.get record)

/-- Where a field is settled, the others take what they would have taken before. -/
theorem Field.Apart.takes_set_iff {field other : Field σ} (h : field.Apart other)
    {dialect : Dialect} (given : Option Value) (content : field.Content) (before record : σ) :
    other.Takes dialect given (field.set content before) record ↔
      other.Takes dialect given before record := by
  cases given with
  | none => rw [Takes, Takes, h.get_set']
  | some value => rfl

theorem Field.takes_congr {field : Field σ} {record record' : σ}
    (h : field.get record = field.get record') {dialect : Dialect} (given : Option Value)
    (before : σ) :
    field.Takes dialect given before record ↔ field.Takes dialect given before record' := by
  unfold Takes
  rw [h]

theorem lookup_eq_head?_filter (members : List (String × Value)) (key : String) :
    members.lookup key = (members.filter (·.1 == key)).head?.map Prod.snd := by
  induction members with
  | nil => rfl
  | cons member members ih =>
    obtain ⟨name, value⟩ := member
    by_cases hname : name = key
    · simp [hname]
    · rw [List.lookup_cons, List.filter_cons_of_neg (by simpa using hname), ih,
        beq_false_of_ne (Ne.symm hname)]

theorem once_of_nodup {members : List (String × Value)} (h : (members.map (·.1)).Nodup)
    (key : String) : Once members key := by
  have hcount := List.nodup_iff_count_le_one.1 h key
  rwa [List.count, List.countP_map, List.countP_eq_length_filter] at hcount

/-- Names that are given to values are given once. -/
theorem once_zip {names : List String} (h : names.Nodup) (values : List Value) (key : String) :
    Once (names.zip values) key := by
  have hkeys : (names.zip values).map (·.1) = names.take (min names.length values.length) := by
    rw [List.zip_eq_zip_take_min]
    exact List.map_fst_zip (by simp)
  exact once_of_nodup (hkeys ▸ h.sublist (List.take_sublist _ _)) key

/-- Tables with the same members of a key, in any order, give the same value for it. -/
theorem lookup_congr {members members' : List (String × Value)} {key : String}
    (honce : Once members key)
    (h : (members.filter (·.1 == key)).Perm (members'.filter (·.1 == key))) :
    members.lookup key = members'.lookup key := by
  unfold Once at honce
  rw [lookup_eq_head?_filter, lookup_eq_head?_filter]
  rcases Nat.le_one_iff_eq_zero_or_eq_one.1 honce with hnone | hone
  · rw [List.length_eq_zero_iff] at hnone
    rw [hnone] at h ⊢
    rw [h.nil_eq]
  · obtain ⟨member, hmember⟩ := List.length_eq_one_iff.1 hone
    rw [hmember] at h ⊢
    rw [List.singleton_perm.1 h]

namespace Record

variable {dialect : Dialect} {members : List (String × Value)}

/-- Reading a field whose name is not given twice. -/
theorem readField_of_once {field : Field σ} (h : Once members field.name) (built : σ) :
    readField dialect members built field =
      match members.lookup field.name with
      | none => some built
      | some value => field.assign dialect value built := by
  rw [readField, lookup_eq_head?_filter]
  unfold Once at h
  cases hfilter : members.filter (·.1 == field.name) with
  | nil => rfl
  | cons member rest =>
    rw [hfilter, List.length_cons] at h
    obtain rfl := List.eq_nil_of_length_eq_zero (Nat.le_zero.1 (Nat.le_of_succ_le_succ h))
    rfl

theorem readField_of_not_once {field : Field σ} (h : ¬ Once members field.name) (built : σ) :
    readField dialect members built field = none := by
  rw [readField]
  unfold Once at h
  cases hfilter : members.filter (·.1 == field.name) with
  | nil => simp [hfilter] at h
  | cons member rest =>
    cases rest with
    | nil => simp [hfilter] at h
    | cons next rest => rfl

/-- The step of the fold: a field that is read is settled, and leaves the others to come. -/
theorem readField_eq_some_iff {field : Field σ} (hfield : field.Settable) (built next : σ) :
    readField dialect members built field = some next ↔
      Once members field.name ∧
        field.Takes dialect (members.lookup field.name) built next ∧
          next = field.set (field.get next) built := by
  by_cases honce : Once members field.name
  · rw [readField_of_once honce]
    cases members.lookup field.name with
    | none =>
      simp only [honce, true_and, Field.Takes, Option.some.injEq]
      constructor
      · rintro rfl
        exact ⟨rfl, (hfield.set_get _).symm⟩
      · rintro ⟨hget, hnext⟩
        rw [hnext, hget, hfield.set_get]
    | some value =>
      simp only [honce, true_and, Field.Takes, Field.assign, Option.map_eq_some_iff]
      constructor
      · rintro ⟨content, hdecode, rfl⟩
        rw [hfield.get_set]
        exact ⟨hdecode, rfl⟩
      · rintro ⟨hdecode, hnext⟩
        exact ⟨_, hdecode, hnext.symm⟩
  · rw [readField_of_not_once honce]
    simp [honce]

theorem foldlM_readField_eq_some_iff {fields : List (Field σ)}
    (hsettable : ∀ field ∈ fields, field.Settable) (hapart : fields.Pairwise Field.Apart)
    (built record : σ) :
    fields.foldlM (readField dialect members) built = some record ↔
      (∀ field ∈ fields, Once members field.name ∧
        field.Takes dialect (members.lookup field.name) built record) ∧
      record = copyFields record fields built := by
  induction fields generalizing built with
  | nil => simp [copyFields, eq_comm]
  | cons field fields ih =>
    rw [List.forall_mem_cons] at hsettable
    rw [List.pairwise_cons] at hapart
    have hrest := ih hsettable.2 hapart.2
    rw [List.foldlM_cons, Option.bind_eq_bind, Option.bind_eq_some_iff, List.forall_mem_cons]
    constructor
    · rintro ⟨next, hread, hfold⟩
      obtain ⟨honce, htake, hnext⟩ := (readField_eq_some_iff hsettable.1 built next).1 hread
      obtain ⟨hothers, hrecord⟩ := (hrest next).1 hfold
      -- What is copied behind the first field leaves it as it was read.
      have hcontent : field.get record = field.get next := by
        rw [hrecord]
        exact get_copyFields hapart.1 _ _
      rw [← hcontent] at hnext
      refine ⟨⟨⟨honce, (Field.takes_congr hcontent _ _).2 htake⟩, fun other hother => ?_⟩, ?_⟩
      · obtain ⟨hname, hother'⟩ := hothers other hother
        rw [hnext] at hother'
        exact ⟨hname, ((hapart.1 other hother).takes_set_iff _ _ _ _).1 hother'⟩
      · rw [copyFields, List.foldl_cons, ← hnext]
        exact hrecord
    · rintro ⟨⟨⟨honce, htake⟩, hothers⟩, hrecord⟩
      rw [copyFields, List.foldl_cons] at hrecord
      have hcontent : field.get (field.set (field.get record) built) = field.get record :=
        hsettable.1.get_set _ _
      refine ⟨field.set (field.get record) built,
        (readField_eq_some_iff hsettable.1 built _).2
          ⟨honce, (Field.takes_congr hcontent _ _).2 htake, by rw [hcontent]⟩,
        (hrest _).2 ⟨fun other hother => ?_, hrecord⟩⟩
      obtain ⟨hname, hother'⟩ := hothers other hother
      exact ⟨hname, ((hapart.1 other hother).takes_set_iff _ _ _ _).2 hother'⟩

/-- A record is read from a table just if no field is given twice and every field is what the value
    under its name says, or is preset if there is none. -/
theorem readMembers_eq_some_iff {schema : Record σ} (hschema : schema.Separated) (record : σ) :
    schema.readMembers dialect members = some record ↔
      ∀ field ∈ schema.fields, Once members field.name ∧
        field.Takes dialect (members.lookup field.name) schema.preset record := by
  rw [readMembers, foldlM_readField_eq_some_iff hschema.settable hschema.apart]
  exact and_iff_left (hschema.rebuilt record).symm

/-- A record is read from a table if each value that is given for a field is read. -/
theorem isSome_readMembers {schema : Record σ}
    (h : ∀ field ∈ schema.fields, Once members field.name ∧
      ∀ value, members.lookup field.name = some value →
        (field.codec.decode dialect value).isSome) :
    (schema.readMembers dialect members).isSome := by
  have hstep : ∀ field ∈ schema.fields, ∀ built,
      (readField dialect members built field).isSome := by
    intro field hfield built
    obtain ⟨honce, hvalue⟩ := h field hfield
    rw [readField_of_once honce]
    cases hlookup : members.lookup field.name with
    | none => rfl
    | some value => simpa [Field.assign] using hvalue value hlookup
  rw [readMembers]
  generalize schema.preset = built
  generalize schema.fields = fields at hstep
  induction fields generalizing built with
  | nil => rfl
  | cons field fields ih =>
    rw [List.forall_mem_cons] at hstep
    obtain ⟨next, hnext⟩ := Option.isSome_iff_exists.1 (hstep.1 built)
    rw [List.foldlM_cons, hnext]
    exact ih next hstep.2

/-! ## Arrays -/

theorem foldlM_readField_congr {members' : List (String × Value)} {fields : List (Field σ)}
    (h : ∀ field ∈ fields, ∀ built,
      readField dialect members built field = readField dialect members' built field) (built : σ) :
    fields.foldlM (readField dialect members) built =
      fields.foldlM (readField dialect members') built := by
  induction fields generalizing built with
  | nil => rfl
  | cons field fields ih =>
    rw [List.forall_mem_cons] at h
    rw [List.foldlM_cons, List.foldlM_cons, h.1]
    exact Option.bind_congr fun next _ => ih h.2 next

theorem readField_cons_of_ne {field : Field σ} {member : String × Value}
    (h : member.1 ≠ field.name) (built : σ) :
    readField dialect (member :: members) built field = readField dialect members built field := by
  rw [readField, readField, List.filter_cons_of_neg (by simpa using h)]

/-- An array that is not too long says what the table says that gives its entries to the first
    fields. -/
theorem readEntries_eq_foldlM {fields : List (Field σ)} (hnames : (fields.map (·.name)).Nodup)
    {entries : List Value} (hlength : entries.length ≤ fields.length) (built : σ) :
    readEntries dialect fields entries built =
      fields.foldlM (readField dialect ((fields.map (·.name)).zip entries)) built := by
  induction fields generalizing entries built with
  | nil =>
    obtain rfl := List.eq_nil_of_length_eq_zero (Nat.le_zero.1 hlength)
    rfl
  | cons field fields ih =>
    rw [List.map_cons, List.nodup_cons] at hnames
    obtain ⟨hfield, hrest⟩ := hnames
    cases entries with
    | nil =>
      have hempty : ([] : List Value).length ≤ fields.length := Nat.zero_le _
      have hkept := ih hrest hempty built
      simpa [readEntries, readField] using hkept
    | cons value entries =>
      have hlater : ∀ other ∈ fields, ∀ built,
          readField dialect ((fields.map (·.name)).zip entries) built other =
            readField dialect ((field.name, value) :: (fields.map (·.name)).zip entries) built
              other := by
        intro other hother built
        refine (readField_cons_of_ne (fun heq => hfield ?_) built).symm
        exact List.mem_map.2 ⟨other, hother, Eq.symm heq⟩
      have hfirst : readField dialect ((field.name, value) :: (fields.map (·.name)).zip entries)
          built field = field.assign dialect value built := by
        have hnone : ((fields.map (·.name)).zip entries).filter (·.1 == field.name) = [] := by
          rw [List.filter_eq_nil_iff]
          rintro ⟨name, other⟩ hmember
          have hname := (List.of_mem_zip hmember).1
          simpa using fun heq : name = field.name => hfield (heq ▸ hname)
        rw [readField, List.filter_cons_of_pos (by simp), hnone]
      rw [readEntries, List.map_cons, List.zip_cons_cons, List.foldlM_cons, hfirst]
      refine Option.bind_congr fun next _ => ?_
      rw [ih hrest (Nat.le_of_succ_le_succ hlength)]
      exact foldlM_readField_congr hlater next

/-- An array with more entries than the record has fields is refused, unless the dialect admits it. -/
theorem readEntries_of_surplus (hdialect : dialect.allowsSurplus = false) {fields : List (Field σ)}
    {entries : List Value} (hlength : fields.length < entries.length) (built : σ) :
    readEntries dialect fields entries built = none := by
  induction fields generalizing entries built with
  | nil =>
    cases entries with
    | nil => cases hlength
    | cons value entries => simp [readEntries, hdialect]
  | cons field fields ih =>
    cases entries with
    | nil => cases hlength
    | cons value entries =>
      rw [readEntries, Option.bind_eq_none_iff]
      exact fun next _ => ih (Nat.lt_of_succ_lt_succ hlength) next

end Record

end FirmwareGen.Document
