-- SUMMARY: What the headings and dotted keys of a TOML document open, and what is defined twice.
import FirmwareGen.Document.Record
/-!
# Tables of a TOML document

A document is a list of assignments and then sections, each a heading with its assignments. Headings
and dotted keys open tables; this module puts the pieces together and refuses what is defined twice.

Three origins of a table are told apart. A heading or the document itself declares it, the path of
a heading implies it, or a dotted key opens it. A heading may declare an implied table once, and
dotted keys may only go through tables that no heading has declared.
-/

namespace FirmwareGen.Document.Toml

inductive Origin
  | declared | implied | dotted
  deriving DecidableEq, Repr

inductive Node where
  | leaf (value : Value)
  | table (origin : Origin) (entries : List (String × Node))
  /-- The tables of a heading in double brackets, in order. -/
  | tables (items : List (List (String × Node)))

abbrev Entries := List (String × Node)

/-- A value under a key, below the tables that a dotted key opens. -/
structure Assignment where
  path : List String
  key : String
  value : Value

/-- A heading with what stands below it; in double brackets it adds one more table to a list. -/
structure Section where
  isListed : Bool
  path : List String
  key : String
  assignments : List Assignment

/-! ## Changing entries -/

def setEntry (key : String) (node : Node) (entries : Entries) : Entries :=
  entries.map fun entry => if entry.1 = key then (key, node) else entry

def removeEntry (key : String) (entries : Entries) : Entries :=
  entries.filter fun entry => entry.1 != key

/-- Changes the entries of the table at the end of a path, opening tables on the way. In a list of
    tables the path goes through the last one. -/
def changeAt (isDotted : Bool) (change : Origin → Entries → Option Entries) (origin : Origin)
    (entries : Entries) : List String → Option Entries
  | [] => change origin entries
  | key :: path =>
    match entries.lookup key with
    | none =>
      let origin : Origin := if isDotted then .dotted else .implied
      (changeAt isDotted change origin [] path).map fun inner =>
        entries ++ [(key, .table origin inner)]
    | some (.leaf _) => none
    | some (.tables items) =>
      match items.getLast? with
      | none => none
      | some last =>
        (changeAt isDotted change .declared last path).map fun inner =>
          setEntry key (.tables (items.dropLast ++ [inner])) entries
    | some (.table origin inner) =>
      if isDotted && origin = .declared then none
      else
        (changeAt isDotted change origin inner path).map fun inner =>
          setEntry key (.table origin inner) entries

/-! ## Assignments and sections -/

/-- Adds an assignment to a table. The table at the end of a dotted key must be one that dotted keys
    have opened. -/
def assign (entries : Entries) (assignment : Assignment) : Option Entries :=
  changeAt true
    (fun origin inner =>
      if (origin == .dotted) == assignment.path.isEmpty then none
      else if (inner.lookup assignment.key).isSome then none
      else some (inner ++ [(assignment.key, .leaf assignment.value)]))
    .declared entries assignment.path

/-- Adds a section to a document. -/
def addSection (entries : Entries) (part : Section) : Option Entries :=
  changeAt false
    (fun _ parent =>
      if part.isListed then
        match parent.lookup part.key with
        | none =>
          (part.assignments.foldlM assign []).map fun body =>
            parent ++ [(part.key, .tables [body])]
        | some (.tables items) =>
          (part.assignments.foldlM assign []).map fun body =>
            setEntry part.key (.tables (items ++ [body])) parent
        | some _ => none
      else
        match parent.lookup part.key with
        | none =>
          (part.assignments.foldlM assign []).map fun body =>
            parent ++ [(part.key, .table .declared body)]
        | some (.table .implied inner) =>
          (part.assignments.foldlM assign inner).map fun body =>
            removeEntry part.key parent ++ [(part.key, .table .declared body)]
        | some _ => none)
    .declared entries part.path

/-! ## Values -/

mutual

def Node.value : Node → Value
  | .leaf value => value
  | .table _ entries => .object (entryValues entries)
  | .tables items => .array (tableValues items)

def entryValues : List (String × Node) → List (String × Value)
  | [] => []
  | (key, node) :: rest => (key, node.value) :: entryValues rest

def tableValues : List (List (String × Node)) → List Value
  | [] => []
  | entries :: rest => .object (entryValues entries) :: tableValues rest

end

/-- The value of an inline table. -/
def inlineTable? (assignments : List Assignment) : Option Value :=
  (assignments.foldlM assign []).map fun entries => .object (entryValues entries)

/-- The value of a document. -/
def document? (assignments : List Assignment) (sections : List Section) : Option Value :=
  ((assignments.foldlM assign []).bind fun entries => sections.foldlM addSection entries).map
    fun entries => .object (entryValues entries)

end FirmwareGen.Document.Toml
