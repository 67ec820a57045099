-- SUMMARY: Listings of names without line feeds are written as lines without line feeds.
import FirmwareGen.Proofs.C.Lines
import FirmwareGen.Proofs.Text.Lines
/-!
# Listings line by line

The printer puts a line feed behind every line and nowhere else. So the text of a listing has just
its lines as long as no text in the listing has a line feed of its own.
-/

namespace FirmwareGen.C

/-! ## Syntax without line feeds -/

mutual

/-- No text in an expression has a line feed. -/
def Expr.Unbroken : Expr → Prop
  | .name identifier => Text.OneLine identifier
  | .literal text => Text.OneLine text
  | .call callee arguments => Text.OneLine callee ∧ Expr.AllUnbroken arguments
  | .member object field => object.Unbroken ∧ Text.OneLine field
  | .index array _ => array.Unbroken
  | .unary _ operand => operand.Unbroken
  | .binary _ left right => left.Unbroken ∧ right.Unbroken
  | .packed _ left right => left.Unbroken ∧ right.Unbroken
  | .group inner => inner.Unbroken
  | .choice condition yes no => condition.Unbroken ∧ yes.Unbroken ∧ no.Unbroken

def Expr.AllUnbroken : List Expr → Prop
  | [] => True
  | argument :: rest => argument.Unbroken ∧ Expr.AllUnbroken rest

end

def Simple.Unbroken : Simple → Prop
  | .blank => True
  | .lineComment text => Text.OneLine text
  | .comment text => Text.OneLine text
  | .declare type name value remark =>
    Text.OneLine type ∧ Text.OneLine name ∧ (∀ e ∈ value, e.Unbroken) ∧ ∀ t ∈ remark, Text.OneLine t
  | .assign _ target value remark =>
    target.Unbroken ∧ value.Unbroken ∧ ∀ t ∈ remark, Text.OneLine t
  | .evaluate value => value.Unbroken
  | .leave => True
  | .result value => value.Unbroken

def Case.Unbroken (case : Case) : Prop :=
  Text.OneLine case.label ∧ ∀ line ∈ case.body, line.Unbroken

def Statement.Unbroken : Statement → Prop
  | .simple line => line.Unbroken
  | .branch first further otherwise =>
    (first.1.Unbroken ∧ first.2.Unbroken) ∧
      (∀ guarded ∈ further, guarded.1.Unbroken ∧ guarded.2.Unbroken) ∧
      ∀ line ∈ otherwise, line.Unbroken
  | .switch subject cases => subject.Unbroken ∧ ∀ case ∈ cases, case.Unbroken

def Parameter.Unbroken (parameter : Parameter) : Prop :=
  Text.OneLine parameter.type ∧ Text.OneLine parameter.name

def Signature.Unbroken : Signature → Prop
  | .function _ result name parameters =>
    Text.OneLine result ∧ Text.OneLine name ∧ ∀ parameter ∈ parameters, parameter.Unbroken
  | .handler name => Text.OneLine name

def Item.Unbroken : Item → Prop
  | .blank => True
  | .comment text => Text.OneLine text
  | .lineComment text => Text.OneLine text
  | .banner texts => ∀ text ∈ texts, Text.OneLine text
  | .unlessDefined name => Text.OneLine name
  | .endGuard name => Text.OneLine name
  | .marker name => Text.OneLine name
  | .constant name _ value => Text.OneLine name ∧ value.Unbroken
  | .systemInclude file => Text.OneLine file
  | .ownInclude file => Text.OneLine file
  | .shortEnum enumerators name => (∀ e ∈ enumerators, Text.OneLine e) ∧ Text.OneLine name
  | .enumeration enumerators name => (∀ e ∈ enumerators, Text.OneLine e) ∧ Text.OneLine name
  | .structType name members =>
    Text.OneLine name ∧ ∀ m ∈ members, Text.OneLine m.type ∧ Text.OneLine m.name
  | .declaredObject type name => Text.OneLine type ∧ Text.OneLine name
  | .object type name field value =>
    Text.OneLine type ∧ Text.OneLine name ∧ Text.OneLine field ∧ value.Unbroken
  | .prototype signature => signature.Unbroken
  | .definition signature body =>
    signature.Unbroken ∧ ∀ statement ∈ body, statement.Unbroken

/-! ## Lines -/

open Text (OneLine oneLine_append oneLine_ofList)

theorem oneLine_toString (n : Nat) : OneLine (toString n) := by
  intro hmem
  rw [Nat.toString_eq_repr, Nat.toList_repr] at hmem
  exact absurd (Nat.isDigit_of_mem_toDigits (by decide) (by decide) hmem) (by decide)

theorem oneLine_symbol (op : BinaryOp) : OneLine op.symbol := by cases op <;> exact oneLine_ofList rfl

mutual

theorem Expr.oneLine_print : (e : Expr) → e.Unbroken → OneLine e.print
  | .name identifier, h => by
    rw [Expr.Unbroken] at h
    rw [Expr.print]
    exact h
  | .literal text, h => by
    rw [Expr.Unbroken] at h
    rw [Expr.print]
    exact h
  | .call callee arguments, h => by
    rw [Expr.Unbroken] at h
    rw [Expr.print, oneLine_append, oneLine_append, oneLine_append]
    exact ⟨⟨⟨h.1, oneLine_ofList rfl⟩, Expr.oneLine_printList arguments h.2⟩, oneLine_ofList rfl⟩
  | .member object field, h => by
    rw [Expr.Unbroken] at h
    rw [Expr.print, oneLine_append, oneLine_append]
    exact ⟨⟨object.oneLine_print h.1, oneLine_ofList rfl⟩, h.2⟩
  | .index array position, h => by
    rw [Expr.Unbroken] at h
    rw [Expr.print, oneLine_append, oneLine_append, oneLine_append]
    exact ⟨⟨⟨array.oneLine_print h, oneLine_ofList rfl⟩, oneLine_toString position⟩, oneLine_ofList rfl⟩
  | .unary op operand, h => by
    rw [Expr.Unbroken] at h
    rw [Expr.print, oneLine_append]
    exact ⟨by cases op <;> exact oneLine_ofList rfl, operand.oneLine_print h⟩
  | .binary op left right, h => by
    rw [Expr.Unbroken] at h
    rw [Expr.print, oneLine_append, oneLine_append, oneLine_append, oneLine_append]
    exact ⟨⟨⟨⟨left.oneLine_print h.1, oneLine_ofList rfl⟩, oneLine_symbol op⟩, oneLine_ofList rfl⟩,
      right.oneLine_print h.2⟩
  | .packed op left right, h => by
    rw [Expr.Unbroken] at h
    rw [Expr.print, oneLine_append, oneLine_append]
    exact ⟨⟨left.oneLine_print h.1, oneLine_symbol op⟩, right.oneLine_print h.2⟩
  | .group inner, h => by
    rw [Expr.Unbroken] at h
    rw [Expr.print, oneLine_append, oneLine_append]
    exact ⟨⟨oneLine_ofList rfl, inner.oneLine_print h⟩, oneLine_ofList rfl⟩
  | .choice condition yes no, h => by
    rw [Expr.Unbroken] at h
    simp only [Expr.print, oneLine_append]
    exact ⟨⟨⟨⟨condition.oneLine_print h.1, oneLine_ofList rfl⟩, yes.oneLine_print h.2.1⟩, oneLine_ofList rfl⟩,
      no.oneLine_print h.2.2⟩

theorem Expr.oneLine_printList : (arguments : List Expr) → Expr.AllUnbroken arguments →
    OneLine (Expr.printList arguments)
  | [], _ => by
    rw [Expr.printList]
    exact oneLine_ofList rfl
  | [argument], h => by
    rw [Expr.AllUnbroken] at h
    rw [Expr.printList]
    exact argument.oneLine_print h.1
  | argument :: next :: rest, h => by
    rw [Expr.AllUnbroken] at h
    rw [Expr.printList, oneLine_append, oneLine_append]
    · exact ⟨⟨argument.oneLine_print h.1, oneLine_ofList rfl⟩, Expr.oneLine_printList (next :: rest) h.2⟩
    · simp

end

theorem oneLine_remark {remark : Option String} (h : ∀ text ∈ remark, OneLine text) :
    OneLine (printRemark remark) := by
  cases remark with
  | none => exact oneLine_ofList rfl
  | some text =>
    rw [printRemark, oneLine_append]
    exact ⟨oneLine_ofList rfl, h text rfl⟩

theorem Simple.oneLine_print {line : Simple} (h : line.Unbroken) : OneLine line.print := by
  cases line with
  | blank => exact oneLine_ofList rfl
  | lineComment text =>
    rw [Simple.print, oneLine_append]
    exact ⟨oneLine_ofList rfl, h⟩
  | comment text =>
    rw [Simple.print, oneLine_append, oneLine_append]
    exact ⟨⟨oneLine_ofList rfl, h⟩, oneLine_ofList rfl⟩
  | declare type name value remark =>
    obtain ⟨htype, hname, hvalue, hremark⟩ := h
    cases value with
    | none =>
      simp [Simple.print, oneLine_append, htype, hname, oneLine_remark hremark]
      and_intros <;> exact oneLine_ofList rfl
    | some value =>
      simp [Simple.print, oneLine_append, htype, hname, oneLine_remark hremark,
        value.oneLine_print (hvalue value rfl)]
      and_intros <;> exact oneLine_ofList rfl
  | assign op target value remark =>
    obtain ⟨htarget, hvalue, hremark⟩ := h
    have hop : OneLine op.symbol := by cases op <;> exact oneLine_ofList rfl
    simp [Simple.print, oneLine_append, hop, oneLine_remark hremark,
      target.oneLine_print htarget, value.oneLine_print hvalue]
    and_intros <;> exact oneLine_ofList rfl
  | evaluate value =>
    rw [Simple.print, oneLine_append]
    exact ⟨value.oneLine_print h, oneLine_ofList rfl⟩
  | leave => exact oneLine_ofList rfl
  | result value =>
    rw [Simple.print, oneLine_append, oneLine_append]
    exact ⟨⟨oneLine_ofList rfl, value.oneLine_print h⟩, oneLine_ofList rfl⟩

theorem oneLine_indent (level : Nat) : OneLine (indent level) := by
  induction level with
  | zero => exact oneLine_ofList rfl
  | succ level ih =>
    rw [indent, oneLine_append]
    exact ⟨oneLine_ofList rfl, ih⟩

theorem Simple.oneLine_line {line : Simple} (h : line.Unbroken) (level : Nat) :
    OneLine (line.line level) := by
  have hprint : OneLine (indent level ++ line.print) :=
    oneLine_append.2 ⟨oneLine_indent level, line.oneLine_print h⟩
  cases line with
  | blank => exact (oneLine_ofList rfl)
  | _ => exact hprint

theorem Layout.oneLine_keyword (layout : Layout) {word : String} (hword : OneLine word)
    {subject : Expr} (h : subject.Unbroken) : OneLine (layout.keyword word subject) := by
  rw [Layout.keyword, oneLine_append, oneLine_append, oneLine_append]
  refine ⟨⟨⟨hword, ?_⟩, subject.oneLine_print h⟩, oneLine_ofList rfl⟩
  split <;> exact oneLine_ofList rfl

theorem Case.oneLine_lines {case : Case} (h : case.Unbroken) :
    ∀ line ∈ case.lines, OneLine line := by
  obtain ⟨hlabel, hbody⟩ := h
  refine Case.forall_lines.2 ⟨?_, fun line hline => line.oneLine_line (hbody line hline) 3⟩
  simp [oneLine_append, oneLine_indent, hlabel]
  and_intros <;> exact oneLine_ofList rfl

theorem Statement.oneLine_lines (layout : Layout) {statement : Statement}
    (h : statement.Unbroken) : ∀ line ∈ statement.lines layout, OneLine line := by
  have hindent : ∀ {text}, OneLine text → OneLine (indent 1 ++ text) :=
    fun htext => oneLine_append.2 ⟨oneLine_indent 1, htext⟩
  cases statement with
  | simple line => exact List.forall_mem_singleton.2 (line.oneLine_line h 1)
  | branch first further otherwise =>
    obtain ⟨⟨hguard, hfirst⟩, hfurther, hotherwise⟩ := h
    refine Statement.forall_lines_branch.2 ⟨⟨?_, first.2.oneLine_line hfirst 2⟩, ?_, ?_⟩
    · exact hindent (layout.oneLine_keyword (oneLine_ofList rfl) hguard)
    · intro guarded hmem
      obtain ⟨hcondition, hthen⟩ := hfurther guarded hmem
      exact ⟨hindent (layout.oneLine_keyword (oneLine_ofList rfl) hcondition),
        guarded.2.oneLine_line hthen 2⟩
    · intro line hline
      exact ⟨hindent (oneLine_ofList rfl), line.oneLine_line (hotherwise line hline) 2⟩
  | switch subject cases =>
    obtain ⟨hsubject, hcases⟩ := h
    exact Statement.forall_lines_switch.2
      ⟨hindent (layout.oneLine_keyword (oneLine_ofList rfl) hsubject), hindent (oneLine_ofList rfl),
        fun case hcase => case.oneLine_lines (hcases case hcase), hindent (oneLine_ofList rfl)⟩

/-! ## Items -/

theorem oneLine_intercalate {separator : String} (hseparator : OneLine separator)
    {texts : List String} (h : ∀ text ∈ texts, OneLine text) :
    OneLine (separator.intercalate texts) := by
  induction texts with
  | nil => exact (oneLine_ofList rfl)
  | cons text texts ih =>
    rw [List.forall_mem_cons] at h
    cases texts with
    | nil =>
      rw [String.intercalate_singleton]
      exact h.1
    | cons next rest =>
      rw [String.intercalate_cons_cons, oneLine_append, oneLine_append]
      exact ⟨⟨h.1, hseparator⟩, ih h.2⟩

theorem Parameter.oneLine_print {parameter : Parameter} (h : parameter.Unbroken) :
    OneLine parameter.print := by
  rw [Parameter.print, oneLine_append, oneLine_append]
  exact ⟨⟨h.1, oneLine_ofList rfl⟩, h.2⟩

theorem oneLine_printParameters {parameters : List Parameter}
    (h : ∀ parameter ∈ parameters, parameter.Unbroken) : OneLine (printParameters parameters) := by
  unfold printParameters
  split
  · exact oneLine_ofList rfl
  · refine oneLine_intercalate (oneLine_ofList rfl) fun text htext => ?_
    obtain ⟨parameter, hmem, rfl⟩ := List.mem_map.1 htext
    exact parameter.oneLine_print (h parameter hmem)

namespace Signature

variable {signature : Signature}

theorem oneLine_attributeLines (signature : Signature) :
    ∀ line ∈ signature.attributeLines, OneLine line :=
  forall_attributeLines (oneLine_ofList rfl) signature

theorem oneLine_headLine (h : signature.Unbroken) : OneLine signature.headLine := by
  cases signature with
  | function linkage result name parameters =>
    obtain ⟨hresult, hname, hparameters⟩ := h
    have hlinkage : OneLine (if linkage = .staticInline then "static inline " else "") := by
      split <;> exact oneLine_ofList rfl
    simp [headLine, oneLine_append, hlinkage, hresult, hname,
      oneLine_printParameters hparameters]
    and_intros <;> exact oneLine_ofList rfl
  | handler name =>
    rw [headLine, oneLine_append, oneLine_append]
    exact ⟨⟨oneLine_ofList rfl, h⟩, oneLine_ofList rfl⟩

theorem oneLine_prototypeLine (h : signature.Unbroken) : OneLine signature.prototypeLine := by
  have hhead : OneLine (signature.headLine ++ ";") :=
    oneLine_append.2 ⟨signature.oneLine_headLine h, oneLine_ofList rfl⟩
  cases signature with
  | function linkage result name parameters => exact hhead
  | handler name =>
    rw [prototypeLine, oneLine_append, oneLine_append]
    exact ⟨⟨oneLine_ofList rfl, h⟩, oneLine_ofList rfl⟩

end Signature

theorem Member.oneLine_line {member : Member} (htype : OneLine member.type)
    (hname : OneLine member.name) : OneLine member.line := by
  obtain ⟨type, name, length⟩ := member
  have hline : ∀ array, OneLine array → OneLine (indent 1 ++ type ++ " " ++ name ++ array ++ ";") := by
    intro array harray
    rw [oneLine_append, oneLine_append, oneLine_append, oneLine_append, oneLine_append]
    exact ⟨⟨⟨⟨⟨oneLine_indent 1, htype⟩, oneLine_ofList rfl⟩, hname⟩, harray⟩, oneLine_ofList rfl⟩
  cases length with
  | none => exact hline "" (oneLine_ofList rfl)
  | some length =>
    refine hline ("[" ++ toString length ++ "]") ?_
    rw [oneLine_append, oneLine_append]
    exact ⟨⟨oneLine_ofList rfl, oneLine_toString _⟩, oneLine_ofList rfl⟩

theorem oneLine_enumeratorLines {enumerators : List String} (h : ∀ e ∈ enumerators, OneLine e) :
    ∀ line ∈ enumeratorLines enumerators, OneLine line := by
  refine forall_enumeratorLines fun enumerator hmem => ?_
  have hline : OneLine (indent 1 ++ enumerator) :=
    oneLine_append.2 ⟨oneLine_indent 1, h enumerator hmem⟩
  exact ⟨hline, oneLine_append.2 ⟨hline, oneLine_ofList rfl⟩⟩

theorem oneLine_closingLine {name : String} (h : OneLine name) :
    OneLine ("\x7d " ++ name ++ ";") := by
  rw [oneLine_append, oneLine_append]
  exact ⟨⟨oneLine_ofList rfl, h⟩, oneLine_ofList rfl⟩

theorem Item.oneLine_lines (layout : Layout) {item : Item} (h : item.Unbroken) :
    ∀ line ∈ item.lines layout, OneLine line := by
  cases item with
  | blank => exact List.forall_mem_singleton.2 (oneLine_ofList rfl)
  | comment text =>
    simp [Item.lines, oneLine_append, show OneLine text from h]
    and_intros <;> exact oneLine_ofList rfl
  | lineComment text =>
    simp [Item.lines, oneLine_append, show OneLine text from h]
    exact oneLine_ofList rfl
  | banner texts =>
    exact forall_lines_banner.2 ⟨oneLine_ofList rfl,
      fun text htext => oneLine_append.2 ⟨oneLine_ofList rfl, h text htext⟩, oneLine_ofList rfl⟩
  | unlessDefined name =>
    simp [Item.lines, oneLine_append, show OneLine name from h]
    exact oneLine_ofList rfl
  | endGuard name =>
    refine List.forall_mem_singleton.2 ?_
    split
    · simp [oneLine_append, show OneLine name from h]
      and_intros <;> exact oneLine_ofList rfl
    · simp [oneLine_append, show OneLine name from h]
      exact oneLine_ofList rfl
  | marker name =>
    simp [Item.lines, oneLine_append, show OneLine name from h]
    exact oneLine_ofList rfl
  | constant name gap value =>
    obtain ⟨hname, hvalue⟩ := h
    have hgap : OneLine (String.ofList (List.replicate gap ' ')) := by simp [OneLine]
    simp [Item.lines, oneLine_append, hname, hgap, value.oneLine_print hvalue]
    exact oneLine_ofList rfl
  | systemInclude file =>
    simp [Item.lines, oneLine_append, show OneLine file from h]
    and_intros <;> exact oneLine_ofList rfl
  | ownInclude file =>
    simp [Item.lines, oneLine_append, show OneLine file from h]
    and_intros <;> exact oneLine_ofList rfl
  | shortEnum enumerators name =>
    obtain ⟨henumerators, hname⟩ := h
    have hlist : OneLine (", ".intercalate enumerators) :=
      oneLine_intercalate (oneLine_ofList rfl) henumerators
    simp [Item.lines, oneLine_append, hname, hlist]
    and_intros <;> exact oneLine_ofList rfl
  | enumeration enumerators name =>
    obtain ⟨henumerators, hname⟩ := h
    exact forall_lines_enumeration.2
      ⟨oneLine_ofList rfl, oneLine_enumeratorLines henumerators, oneLine_closingLine hname⟩
  | structType name members =>
    obtain ⟨hname, hmembers⟩ := h
    have hhead : OneLine ("typedef struct " ++ name) := oneLine_append.2 ⟨oneLine_ofList rfl, hname⟩
    exact forall_lines_structType.2 ⟨hhead, oneLine_ofList rfl,
      fun member hmem => member.oneLine_line (hmembers member hmem).1 (hmembers member hmem).2,
      oneLine_closingLine hname⟩
  | declaredObject type name =>
    simp [Item.lines, oneLine_append, h.1, h.2]
    and_intros <;> exact oneLine_ofList rfl
  | object type name field value =>
    obtain ⟨htype, hname, hfield, hvalue⟩ := h
    simp [Item.lines, oneLine_append, htype, hname, hfield, value.oneLine_print hvalue]
    and_intros <;> exact oneLine_ofList rfl
  | prototype signature =>
    exact forall_lines_prototype.2
      ⟨signature.oneLine_attributeLines, signature.oneLine_prototypeLine h⟩
  | definition signature body =>
    obtain ⟨hsignature, hbody⟩ := h
    exact forall_lines_definition.2 ⟨signature.oneLine_attributeLines,
      signature.oneLine_headLine hsignature, oneLine_ofList rfl,
      fun statement hmem => statement.oneLine_lines layout (hbody statement hmem), oneLine_ofList rfl⟩

/-- The lines of the text of a listing are the lines that were printed. -/
theorem lines_text (layout : Layout) {listing : Listing} (h : ∀ item ∈ listing, item.Unbroken) :
    Text.lines (Listing.text layout listing) = Listing.lines layout listing := by
  rw [Listing.text, Listing.pieces]
  exact Text.lines_join (List.forall_mem_flatMap.2 fun item hitem =>
    item.oneLine_lines layout (h item hitem))

end FirmwareGen.C
