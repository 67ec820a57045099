-- SUMMARY: Blocks of lines between braces, read back from the lines of a listing.
import FirmwareGen.Proofs.C.Lines
import FirmwareGen.Proofs.Text.Lines
/-!
# Blocks

A reader of generated files finds the blocks between braces: functions, structures and
enumerations. It needs no more than the first and the last character of a line, so it reads back
the blocks of every listing, whatever its identifiers are.
-/

namespace FirmwareGen.C

open Text

/-! ## Reading blocks -/

/-- The lines between two braces, with the line that names them and the one that closes them. -/
structure Block where
  head : String
  body : List String
  tail : String
  deriving DecidableEq, Repr

/-- Where a reader of blocks stands: behind a line, or in a block. -/
inductive Place
  | outside (last : String)
  | inside (head : String) (body : List String)

/-- The line that opens an enumeration. -/
def enumHead : String := "typedef enum \x7b"

/-- The line that names the block that a line opens. -/
def openedHead? (last line : String) : Option String :=
  if line = "\x7b" then some last else if line = enumHead then some line else none

def closes (line : String) : Bool := line.toList.head? == some '}'

def blocksFrom : Place → List String → List Block
  | _, [] => []
  | .outside last, line :: rest =>
    match openedHead? last line with
    | some head => blocksFrom (.inside head []) rest
    | none => blocksFrom (.outside line) rest
  | .inside head body, line :: rest =>
    if closes line then { head, body, tail := line } :: blocksFrom (.outside line) rest
    else blocksFrom (.inside head (body ++ [line])) rest

/-- The blocks of some lines, in order. -/
def blocks (lines : List String) : List Block := blocksFrom (.outside "") lines

/-- The bodies of the functions whose first line ends in a way. -/
def bodiesOf (ending : String) (lines : List String) : List (List String) :=
  ((blocks lines).filter fun block => block.tail == "\x7d" && endsWith ending block.head).map
    Block.body

/-! ## The blocks of an item -/

/-- The block that an item is written as. -/
def Item.block? (layout : Layout) : Item → Option Block
  | .enumeration enumerators name =>
    some { head := enumHead, body := enumeratorLines enumerators, tail := "\x7d " ++ name ++ ";" }
  | .structType name members =>
    some { head := "typedef struct " ++ name, body := members.map Member.line,
           tail := "\x7d " ++ name ++ ";" }
  | .definition signature body =>
    some { head := signature.headLine, body := body.flatMap (Statement.lines layout),
           tail := "\x7d" }
  | _ => none

/-- A line that opens no block. -/
def Passive (line : String) : Prop := line ≠ "\x7b" ∧ line ≠ enumHead

theorem passive_of_head {line : String} {c : Char} (h : line.toList.head? = some c)
    (hbrace : c ≠ '{') (hletter : c ≠ 't') : Passive line := by
  constructor
  · rintro rfl
    exact hbrace (by simpa using h.symm)
  · rintro rfl
    exact hletter (by simpa [enumHead] using h.symm)

theorem passive_of_last {line front : String} {c : Char} (h : line = front.push c)
    (hbrace : c ≠ '{') : Passive line := by
  have hlast : line.toList.getLast? = some c := by rw [h, String.toList_push, List.getLast?_concat]
  constructor
  · rintro rfl
    exact hbrace (by simpa using hlast.symm)
  · rintro rfl
    exact hbrace (by simpa [enumHead] using hlast.symm)

theorem passive_empty : Passive "" := by constructor <;> simp [enumHead]

theorem blocksFrom_cons {line : String} (h : Passive line) (last : String) (rest : List String) :
    blocksFrom (.outside last) (line :: rest) = blocksFrom (.outside line) rest := by
  rw [blocksFrom, openedHead?, if_neg h.1, if_neg h.2]

theorem blocksFrom_passive {lines : List String} (h : ∀ line ∈ lines, Passive line)
    (last : String) (rest : List String) :
    ∃ last', blocksFrom (.outside last) (lines ++ rest) = blocksFrom (.outside last') rest := by
  induction lines generalizing last with
  | nil => exact ⟨last, rfl⟩
  | cons line lines ih =>
    rw [List.forall_mem_cons] at h
    obtain ⟨last', hlast⟩ := ih h.2 line
    refine ⟨last', ?_⟩
    rw [List.cons_append, blocksFrom_cons h.1]
    exact hlast

theorem blocksFrom_inside {lines : List String} (h : ∀ line ∈ lines, closes line = false)
    {tail : String} (htail : closes tail = true) (head : String) (body rest : List String) :
    blocksFrom (.inside head body) (lines ++ tail :: rest) =
      { head, body := body ++ lines, tail } :: blocksFrom (.outside tail) rest := by
  induction lines generalizing body with
  | nil => rw [List.nil_append, blocksFrom, if_pos htail, List.append_nil]
  | cons line lines ih =>
    rw [List.forall_mem_cons] at h
    rw [List.cons_append, blocksFrom, if_neg (by simp [h.1]), ih h.2, List.append_assoc]
    rfl

/-- A line that is empty or begins with a blank. -/
def Indented (line : String) : Prop := ∀ c, line.toList.head? = some c → c = ' '

theorem closes_of_indented {line : String} (h : Indented line) : closes line = false := by
  rw [closes, beq_eq_false_iff_ne]
  intro hbrace
  exact absurd (h _ hbrace) (by decide)

theorem indented_indent (level : Nat) (text : String) : Indented (indent (level + 1) ++ text) := by
  intro c hc
  simpa [indent, eq_comm] using hc

theorem indented_line (level : Nat) (line : Simple) : Indented (line.line (level + 1)) := by
  cases line with
  | blank =>
    intro c hc
    simp [Simple.line] at hc
  | _ => exact indented_indent level _

theorem indented_case (case : Case) : ∀ line ∈ case.lines, Indented line := by
  refine Case.forall_lines.2 ⟨?_, fun line _ => indented_line 2 line⟩
  rw [String.append_assoc, String.append_assoc]
  exact indented_indent 1 _

theorem indented_statement (layout : Layout) (statement : Statement) :
    ∀ line ∈ statement.lines layout, Indented line := by
  have hindent : ∀ text, Indented (indent 1 ++ text) := indented_indent 0
  cases statement with
  | simple line =>
    rw [Statement.lines, List.forall_mem_singleton]
    exact indented_line 0 line
  | branch first further otherwise =>
    exact Statement.forall_lines_branch.2 ⟨⟨hindent _, indented_line 1 first.2⟩,
      fun guarded _ => ⟨hindent _, indented_line 1 guarded.2⟩,
      fun line _ => ⟨hindent _, indented_line 1 line⟩⟩
  | switch subject cases =>
    exact Statement.forall_lines_switch.2
      ⟨hindent _, hindent _, fun case _ => indented_case case, hindent _⟩

theorem indented_body (layout : Layout) (body : List Statement) :
    ∀ line ∈ body.flatMap (Statement.lines layout), Indented line :=
  List.forall_mem_flatMap.2 fun statement _ => indented_statement layout statement

theorem indented_enumeratorLines (enumerators : List String) :
    ∀ line ∈ enumeratorLines enumerators, Indented line := by
  refine forall_enumeratorLines fun enumerator _ => ⟨indented_indent 0 enumerator, ?_⟩
  rw [String.append_assoc]
  exact indented_indent 0 _

theorem indented_member (member : Member) : Indented member.line := by
  rw [Member.line, String.append_assoc, String.append_assoc, String.append_assoc,
    String.append_assoc]
  exact indented_indent 0 _

theorem indented_members (members : List Member) :
    ∀ line ∈ members.map Member.line, Indented line :=
  List.forall_mem_map.2 fun member _ => indented_member member

/-! ## The blocks of a listing -/

theorem closes_tail (name : String) : closes ("\x7d " ++ name ++ ";") = true := by
  simp [closes]

theorem passive_sharp {text : String} (h : text.toList.head? = some '#') : Passive text :=
  passive_of_head h (by decide) (by decide)

theorem passive_slash {text : String} (h : text.toList.head? = some '/') : Passive text :=
  passive_of_head h (by decide) (by decide)

theorem passive_semicolon (text : String) : Passive (text ++ ";") :=
  passive_of_last (String.push_eq_append ';').symm (by decide)

theorem passive_parenthesis (text : String) : Passive (text ++ ")") :=
  passive_of_last (String.push_eq_append ')').symm (by decide)

theorem passive_attributeLines (signature : Signature) :
    ∀ line ∈ signature.attributeLines, Passive line :=
  Signature.forall_attributeLines
    (passive_of_head (c := '_') (by simp [interruptAttributes]) (by decide) (by decide)) signature

theorem passive_headLine (signature : Signature) : Passive signature.headLine := by
  cases signature with
  | function linkage result name parameters => exact passive_parenthesis _
  | handler name => exact passive_parenthesis _

theorem passive_prototypeLine (signature : Signature) : Passive signature.prototypeLine := by
  cases signature with
  | function linkage result name parameters => exact passive_semicolon _
  | handler name =>
    exact passive_of_head (c := 'C') (by simp [Signature.prototypeLine]) (by decide) (by decide)

/-- An item that is not written as a block opens none. -/
theorem passive_item {layout : Layout} {item : Item} (h : item.block? layout = none) :
    ∀ line ∈ item.lines layout, Passive line := by
  cases item with
  | blank => exact List.forall_mem_singleton.2 passive_empty
  | comment text => exact List.forall_mem_singleton.2 (passive_slash (by simp))
  | lineComment text => exact List.forall_mem_singleton.2 (passive_slash (by simp))
  | banner texts =>
    have hblank : ∀ text, Passive (" " ++ text) := fun text =>
      passive_of_head (c := ' ') (by simp) (by decide) (by decide)
    refine Item.forall_lines_banner.2 ⟨passive_slash (by simp), fun text _ => ?_, hblank "*/"⟩
    exact passive_of_head (c := ' ') (by simp) (by decide) (by decide)
  | unlessDefined name => exact List.forall_mem_singleton.2 (passive_sharp (by simp))
  | endGuard name =>
    refine List.forall_mem_singleton.2 (passive_sharp ?_)
    split <;> simp
  | marker name => exact List.forall_mem_singleton.2 (passive_sharp (by simp))
  | constant name gap value => exact List.forall_mem_singleton.2 (passive_sharp (by simp))
  | systemInclude file => exact List.forall_mem_singleton.2 (passive_sharp (by simp))
  | ownInclude file => exact List.forall_mem_singleton.2 (passive_sharp (by simp))
  | shortEnum enumerators name => exact List.forall_mem_singleton.2 (passive_semicolon _)
  | declaredObject type name => exact List.forall_mem_singleton.2 (passive_semicolon _)
  | object type name field value =>
    have hlast : type ++ " " ++ name ++ " = \x7b." ++ field ++ " = " ++ value.print ++ "\x7d;" =
        (type ++ " " ++ name ++ " = \x7b." ++ field ++ " = " ++ value.print ++ "\x7d").push ';' := by
      simp [← String.toList_inj]
    exact List.forall_mem_singleton.2 (passive_of_last hlast (by decide))
  | prototype signature =>
    exact Item.forall_lines_prototype.2
      ⟨passive_attributeLines signature, passive_prototypeLine signature⟩
  | enumeration enumerators name => cases h
  | structType name members => cases h
  | definition signature body => cases h

theorem blocksFrom_block {last opening head tail : String} {body : List String}
    (hopening : openedHead? last opening = some head)
    (hbody : ∀ line ∈ body, Indented line) (htail : closes tail = true)
    (rest : List String) :
    blocksFrom (.outside last) (opening :: (body ++ tail :: rest)) =
      { head, body, tail } :: blocksFrom (.outside tail) rest := by
  rw [blocksFrom, hopening]
  exact blocksFrom_inside (fun line hline => closes_of_indented (hbody line hline)) htail head [] rest

/-- The lines of an item are read as its block, if it has one. -/
theorem blocksFrom_item (layout : Layout) (item : Item) (last : String) (rest : List String) :
    ∃ last', blocksFrom (.outside last) (item.lines layout ++ rest) =
      (item.block? layout).toList ++ blocksFrom (.outside last') rest := by
  cases hblock : item.block? layout with
  | none => exact blocksFrom_passive (passive_item hblock) last rest
  | some block =>
    have hbrace : ∀ last, openedHead? last "\x7b" = some last := fun last => rfl
    cases item with
    | enumeration enumerators name =>
      cases hblock
      have hread : blocksFrom (.outside last) (enumHead :: (enumeratorLines enumerators ++
          ("\x7d " ++ name ++ ";") :: rest)) = _ :=
        blocksFrom_block rfl (indented_enumeratorLines enumerators) (closes_tail name) rest
      exact ⟨_, by simpa [Item.lines, enumHead] using hread⟩
    | structType name members =>
      cases hblock
      have hhead : Passive ("typedef struct " ++ name) := by
        constructor <;> simp [← String.toList_inj, enumHead]
      have hread := blocksFrom_block (hbrace ("typedef struct " ++ name)) (indented_members members)
        (closes_tail name) rest
      refine ⟨"\x7d " ++ name ++ ";", ?_⟩
      rw [← blocksFrom_cons hhead last] at hread
      simpa [Item.lines] using hread
    | definition signature body =>
      cases hblock
      have hread := blocksFrom_block (hbrace signature.headLine) (indented_body layout body)
        (show closes "\x7d" = true by simp [closes]) rest
      obtain ⟨last', hskip⟩ := blocksFrom_passive (passive_attributeLines signature) last
        (signature.headLine :: "\x7b" :: (body.flatMap (Statement.lines layout) ++ "\x7d" :: rest))
      refine ⟨"\x7d", ?_⟩
      rw [← blocksFrom_cons (passive_headLine signature) last', ← hskip] at hread
      simpa [Item.lines] using hread
    | _ => cases hblock

/-- The blocks of a listing are read back from its lines. -/
theorem blocks_lines (layout : Layout) (listing : Listing) :
    blocks (Listing.lines layout listing) = listing.filterMap (Item.block? layout) := by
  have hfrom : ∀ last, blocksFrom (.outside last) (Listing.lines layout listing) =
      listing.filterMap (Item.block? layout) := by
    induction listing with
    | nil => intro last; rfl
    | cons item listing ih =>
      intro last
      obtain ⟨last', hitem⟩ := blocksFrom_item layout item last (Listing.lines layout listing)
      rw [Listing.lines, List.flatMap_cons, ← Listing.lines, hitem, ih, List.filterMap_cons]
      cases item.block? layout <;> rfl
  exact hfrom ""

/-! ## The functions of a listing -/

def Item.definition? : Item → Option (Signature × List Statement)
  | .definition signature body => some (signature, body)
  | _ => none

/-- The functions that a listing defines. -/
def definitions (listing : Listing) : List (Signature × List Statement) :=
  listing.filterMap Item.definition?

theorem definitions_append (xs ys : Listing) :
    definitions (xs ++ ys) = definitions xs ++ definitions ys := List.filterMap_append

/-- Functions are found by the ends of their first lines, structures and enumerations are not. -/
theorem bodiesOf_lines (layout : Layout) (ending : String) (listing : Listing) :
    bodiesOf ending (Listing.lines layout listing) =
      ((definitions listing).filter fun function => endsWith ending function.1.headLine).map
        fun function => function.2.flatMap (Statement.lines layout) := by
  have htail : ∀ name, "\x7d " ++ name ++ ";" ≠ "\x7d" := by
    intro name
    simp [← String.toList_inj]
  rw [bodiesOf, blocks_lines]
  induction listing with
  | nil => rfl
  | cons item listing ih =>
    unfold definitions at ih ⊢
    cases item with
    | definition signature body =>
      cases hending : endsWith ending signature.headLine <;>
        simp [Item.block?, Item.definition?, hending, ih]
    | enumeration enumerators name =>
      rw [List.filterMap_cons_none (f := Item.definition?) rfl]
      simpa [Item.block?, htail] using ih
    | structType name members =>
      rw [List.filterMap_cons_none (f := Item.definition?) rfl]
      simpa [Item.block?, htail] using ih
    | _ => exact ih

end FirmwareGen.C
