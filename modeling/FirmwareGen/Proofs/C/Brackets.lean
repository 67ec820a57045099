-- SUMMARY: A scanner of code, and listings that it passes with all brackets and comments closed.
import FirmwareGen.Proofs.C.Texts
/-!
# Brackets and comments

A scanner goes through a text character by character, knows comments and literals, and keeps the
closing brackets that are due. A listing whose texts have no punctuation of their own leaves nothing
due behind any of its items, so it passes from front to end.
-/

namespace FirmwareGen.C

open Text (bracket nest SelfContained punctuation)

/-! ## The scanner -/

/-- Where in a text the scanner stands. Comments and literals have brackets of their own due. -/
inductive Region
  /-- In code, at the start of a line. -/
  | fresh
  | code
  /-- In code, behind a slash. -/
  | slash
  | lineComment (own : List Char)
  | blockComment (own : List Char)
  /-- In a block comment, behind an asterisk. -/
  | asterisk (own : List Char)
  /-- In a block comment, behind a slash. -/
  | innerSlash (own : List Char)
  | literal (quote : Char) (own : List Char)
  deriving DecidableEq, Repr

/-- A region, and the closing brackets that are due in the code, innermost first. -/
structure Scan where
  region : Region
  due : List Char
  deriving DecidableEq, Repr

namespace Scan

/-- A character of code. A hash is none, as it belongs at the start of a line, and a backslash is
    none, as it would carry a line on into the next. -/
def code (due : List Char) (c : Char) : Option Scan :=
  if c = '\n' then some ⟨.fresh, due⟩
  else if c = '/' then some ⟨.slash, due⟩
  else if c = '"' ∨ c = '\x27' then some ⟨.literal c [], due⟩
  else if c = '#' ∨ c = '\\' then none
  else (bracket due c).map (⟨.code, ·⟩)

/-- A character of a comment or literal with brackets of its own. -/
def enclosed (region : List Char → Region) (own due : List Char) (c : Char) : Option Scan :=
  if c = '#' ∨ c = '\\' then none else (bracket own c).map (⟨region ·, due⟩)

/-- The end of a comment or literal, which leaves none of its own brackets open. -/
def leave (region : Region) (own due : List Char) : Option Scan :=
  if own = [] then some ⟨region, due⟩ else none

/-- A character of a block comment. -/
def block (own due : List Char) (c : Char) : Option Scan :=
  if c = '*' then some ⟨.asterisk own, due⟩
  else if c = '/' then some ⟨.innerSlash own, due⟩
  else enclosed .blockComment own due c

/-- Reads one character; nothing stands for a character that cannot stand there. A comment does not
    open another one, and a literal ends on its line. -/
def step (scan : Scan) (c : Char) : Option Scan :=
  match scan.region with
  | .fresh => if c = '#' then some ⟨.code, scan.due⟩ else code scan.due c
  | .code => code scan.due c
  | .slash =>
    if c = '/' then some ⟨.lineComment [], scan.due⟩
    else if c = '*' then some ⟨.blockComment [], scan.due⟩
    else code scan.due c
  | .lineComment own =>
    if c = '\n' then leave .fresh own scan.due else enclosed .lineComment own scan.due c
  | .blockComment own => block own scan.due c
  | .asterisk own => if c = '/' then leave .code own scan.due else block own scan.due c
  | .innerSlash own => if c = '*' then none else block own scan.due c
  | .literal quote own =>
    if c = quote then leave .code own scan.due
    else if c = '\n' then none
    else enclosed (.literal quote) own scan.due c

/-- Reads a text. -/
def run (scan : Scan) (text : String) : Option Scan := text.toList.foldlM step scan

end Scan

/-- Brackets nest and are all closed, in the code as in each comment and literal; comments and
    literals end, block comments are not nested, and a hash stands at the start of a line only. -/
def WellBracketed (text : String) : Prop := Scan.run ⟨.fresh, []⟩ text = some ⟨.fresh, []⟩

instance : DecidablePred WellBracketed := fun _ => inferInstanceAs (Decidable (_ = _))

example : WellBracketed "x = f(a[0]) / (2*b); // (a, b)\n" := by decide

example : ¬WellBracketed "/* a /* b */\n" := by decide

/-! ## Reading -/

/-- A text takes the scanner from one state to another. -/
def Reads (front : Scan) (text : String) (back : Scan) : Prop := front.run text = some back

theorem Reads.append {front middle back : Scan} {a b : String} (ha : Reads front a middle)
    (hb : Reads middle b back) : Reads front (a ++ b) back := by
  rw [Reads, Scan.run, String.toList_append, List.foldlM_append]
  exact (congrArg (· >>= fun scan => b.toList.foldlM Scan.step scan) ha).trans hb

/-- For literals, as `Text.oneLine_ofList`. -/
theorem reads_ofList {front back : Scan} {cs : List Char}
    (h : cs.foldlM Scan.step front = some back) : Reads front (String.ofList cs) back := by
  rw [Reads, Scan.run, String.toList_ofList]
  exact h

theorem reads_empty (scan : Scan) : Reads scan "" scan := reads_ofList rfl

theorem reads_of_forall {scan : Scan} {text : String}
    (h : ∀ c ∈ text.toList, scan.step c = some scan) : Reads scan text scan := by
  rw [Reads, Scan.run]
  generalize text.toList = chars at h
  induction chars with
  | nil => rfl
  | cons c chars ih =>
    rw [List.forall_mem_cons] at h
    rw [List.foldlM_cons, h.1]
    exact ih h.2

/-! ## Parts of a line of code -/

/-- Text within a line of code that leaves no bracket, comment or literal open. -/
def Inline (text : String) : Prop := ∀ due, Reads ⟨.code, due⟩ text ⟨.code, due⟩

theorem Inline.append {a b : String} (ha : Inline a) (hb : Inline b) : Inline (a ++ b) :=
  fun due => (ha due).append (hb due)

/-- For literals, as `Text.oneLine_ofList`. -/
theorem inline_ofList {cs : List Char}
    (h : ∀ due, cs.foldlM Scan.step ⟨.code, due⟩ = some ⟨.code, due⟩) : Inline (String.ofList cs) :=
  fun due => reads_ofList (h due)

/-- Text between a front that opens a bracket, comment or literal and a back that closes it. -/
theorem Inline.between {front text back : String} {inside : List Char → Scan}
    (hfront : ∀ due, Reads ⟨.code, due⟩ front (inside due))
    (htext : ∀ due, Reads (inside due) text (inside due))
    (hback : ∀ due, Reads (inside due) back ⟨.code, due⟩) : Inline (front ++ text ++ back) :=
  fun due => ((hfront due).append (htext due)).append (hback due)

theorem step_of_not_mem {c : Char} (hc : c ∉ punctuation) (due own : List Char) :
    Scan.step ⟨.code, due⟩ c = some ⟨.code, due⟩ ∧
      Scan.step ⟨.blockComment own, due⟩ c = some ⟨.blockComment own, due⟩ ∧
      Scan.step ⟨.literal '"' own, due⟩ c = some ⟨.literal '"' own, due⟩ := by
  have hbracket := Text.bracket_of_not_mem hc
  simp only [punctuation, List.mem_cons, List.not_mem_nil, or_false, not_or] at hc
  simp [Scan.step, Scan.code, Scan.block, Scan.enclosed, hbracket, hc]

section Letters

variable {text : String}

theorem inline_of_within (h : Text.Within Text.Vocabulary.unpunctuated.letter text) : Inline text :=
  fun due => reads_of_forall fun c hc =>
    (step_of_not_mem (Text.Vocabulary.not_mem_punctuation h c hc) due []).1

theorem reads_comment (h : Text.Within Text.Vocabulary.unpunctuated.letter text)
    (own due : List Char) : Reads ⟨.blockComment own, due⟩ text ⟨.blockComment own, due⟩ :=
  reads_of_forall fun c hc =>
    (step_of_not_mem (Text.Vocabulary.not_mem_punctuation h c hc) due own).2.1

theorem reads_literal (h : Text.Within Text.Vocabulary.unpunctuated.letter text)
    (own due : List Char) : Reads ⟨.literal '"' own, due⟩ text ⟨.literal '"' own, due⟩ :=
  reads_of_forall fun c hc =>
    (step_of_not_mem (Text.Vocabulary.not_mem_punctuation h c hc) due own).2.2

theorem inline_comment (h : Text.Within Text.Vocabulary.unpunctuated.letter text) :
    Inline ("/* " ++ text ++ " */") :=
  .between (fun _ => reads_ofList rfl) (reads_comment h []) (fun _ => reads_ofList rfl)

/-- A line comment goes on to the end of its line. -/
theorem reads_remark (h : SelfContained text) (due : List Char) :
    Reads ⟨.lineComment [], due⟩ text ⟨.lineComment [], due⟩ := by
  have hstep : ∀ chars : List Char, (∀ c ∈ chars, c ≠ '\n' ∧ c ≠ '\\' ∧ c ≠ '#') → ∀ own,
      chars.foldlM Scan.step ⟨.lineComment own, due⟩ =
        (nest own chars).map (⟨.lineComment ·, due⟩) := by
    intro chars hchars
    induction chars with
    | nil => exact fun own => rfl
    | cons c chars ih =>
      rw [List.forall_mem_cons] at hchars
      obtain ⟨⟨hfeed, hbackslash, hhash⟩, hrest⟩ := hchars
      intro own
      rw [nest, List.foldlM_cons, List.foldlM_cons]
      simp only [Scan.step, if_neg hfeed, Scan.enclosed, hbackslash, hhash, or_self, if_false]
      cases bracket own c with
      | none => rfl
      | some next => exact ih hrest next
  rw [Reads, Scan.run, hstep _ h.not_mem, h.nest]
  rfl

end Letters

/-! ## Expressions -/

open Text.Vocabulary (unpunctuated)

theorem inline_numeral (n : Nat) : Inline (toString n) :=
  inline_of_within (unpunctuated.within_numeral n)

theorem inline_operator (op : BinaryOp) : Inline (" " ++ op.symbol ++ " ") := by
  cases op <;> exact fun due => ((reads_ofList rfl).append (reads_ofList rfl)).append (reads_ofList rfl)

mutual

theorem Expr.inline_print : (e : Expr) → e.Within unpunctuated → Inline e.print
  | .name identifier, h => by
    rw [Expr.Within] at h
    rw [Expr.print]
    exact inline_of_within h
  | .literal text, h => by
    rw [Expr.Within] at h
    rw [Expr.print]
    exact inline_of_within h
  | .call callee arguments, h => by
    rw [Expr.Within] at h
    rw [Expr.print]
    exact .between (fun due => (inline_of_within h.1 due).append (reads_ofList rfl))
      (fun due => Expr.inline_printList arguments h.2 (')' :: due)) fun due => reads_ofList rfl
  | .member object field, h => by
    rw [Expr.Within] at h
    rw [Expr.print]
    exact ((object.inline_print h.1).append (inline_ofList fun _ => rfl)).append
      (inline_of_within h.2)
  | .index array position, h => by
    rw [Expr.Within] at h
    rw [Expr.print]
    exact .between (fun due => (array.inline_print h due).append (reads_ofList rfl))
      (fun due => inline_numeral position (']' :: due)) fun due => reads_ofList rfl
  | .unary op operand, h => by
    rw [Expr.Within] at h
    rw [Expr.print]
    have hop : Inline op.symbol := by cases op <;> exact inline_ofList fun _ => rfl
    exact hop.append (operand.inline_print h)
  | .binary op left right, h => by
    rw [Expr.Within] at h
    have hprint : (Expr.binary op left right).print =
        left.print ++ (" " ++ op.symbol ++ " ") ++ right.print := by
      simp only [Expr.print, String.append_assoc]
    rw [hprint]
    exact ((left.inline_print h.1).append (inline_operator op)).append (right.inline_print h.2)
  | .packed op left right, h => by
    rw [Expr.Within] at h
    rw [Expr.print]
    have hop : Inline op.symbol := by
      cases op with
      | div => exact absurd rfl h.1
      | _ => exact inline_ofList fun _ => rfl
    exact ((left.inline_print h.2.1).append hop).append (right.inline_print h.2.2)
  | .group inner, h => by
    rw [Expr.Within] at h
    rw [Expr.print]
    exact .between (fun due => reads_ofList rfl) (fun due => inner.inline_print h (')' :: due))
      fun due => reads_ofList rfl
  | .choice condition yes no, h => by
    rw [Expr.Within] at h
    rw [Expr.print]
    exact ((((condition.inline_print h.1).append (inline_ofList fun _ => rfl)).append
      (yes.inline_print h.2.1)).append (inline_ofList fun _ => rfl)).append (no.inline_print h.2.2)

theorem Expr.inline_printList : (arguments : List Expr) → Expr.AllWithin unpunctuated arguments →
    Inline (Expr.printList arguments)
  | [], _ => by
    rw [Expr.printList]
    exact fun due => reads_empty ⟨.code, due⟩
  | [argument], h => by
    rw [Expr.AllWithin] at h
    rw [Expr.printList]
    exact argument.inline_print h.1
  | argument :: next :: rest, h => by
    rw [Expr.AllWithin] at h
    rw [Expr.printList]
    · exact ((argument.inline_print h.1).append (inline_ofList fun _ => rfl)).append
        (Expr.inline_printList (next :: rest) h.2)
    · simp

end

/-! ## Lines -/

/-- Text that leads from within a line of code to the start of the next one. -/
def Trailing (text : String) : Prop := ∀ due, Reads ⟨.code, due⟩ (text ++ "\n") ⟨.fresh, due⟩

theorem Inline.trailing {text : String} (h : Inline text) : Trailing text :=
  fun due => (h due).append (reads_ofList rfl)

theorem Inline.append_trailing {front text : String} (hfront : Inline front) (h : Trailing text) :
    Trailing (front ++ text) := by
  intro due
  rw [String.append_assoc]
  exact (hfront due).append (h due)

/-- A comment at the end of a line, behind the marks that begin it. -/
theorem trailing_remark {marks : List Char}
    (hmarks : ∀ due, marks.foldlM Scan.step ⟨.code, due⟩ = some ⟨.lineComment [], due⟩)
    {text : String} (h : SelfContained text) : Trailing (String.ofList marks ++ text) :=
  fun due => ((reads_ofList (hmarks due)).append (reads_remark h due)).append (reads_ofList rfl)

/-- A line of which the scanner is at the start of the next one, with the same brackets due. -/
def Settled (line : String) : Prop := ∀ due, Reads ⟨.fresh, due⟩ (line ++ "\n") ⟨.fresh, due⟩

/-- At the start of a line only a hash is read otherwise than within the line. -/
theorem reads_fresh {due : List Char} {line : String} {back : Scan}
    (h : Reads ⟨.code, due⟩ (line ++ "\n") back) : Reads ⟨.fresh, due⟩ (line ++ "\n") back := by
  rw [Reads, Scan.run] at h ⊢
  cases hchars : (line ++ "\n").toList with
  | nil => simp at hchars
  | cons c rest =>
    rw [hchars, List.foldlM_cons] at h
    rw [List.foldlM_cons]
    have hstep : Scan.step ⟨.fresh, due⟩ c = Scan.step ⟨.code, due⟩ c := by
      by_cases hhash : c = '#'
      · subst hhash
        cases h
      · exact if_neg hhash
    rwa [hstep]

theorem Trailing.settled {line : String} (h : Trailing line) : Settled line :=
  fun due => reads_fresh (h due)

theorem Inline.settled {line : String} (h : Inline line) : Settled line := h.trailing.settled

/-- The front of a directive leads from the start of a line into its code. -/
def Directive (text : String) : Prop := ∀ due, Reads ⟨.fresh, due⟩ text ⟨.code, due⟩

/-- For literals, as `Text.oneLine_ofList`. -/
theorem directive_ofList {cs : List Char}
    (h : ∀ due, cs.foldlM Scan.step ⟨.fresh, due⟩ = some ⟨.code, due⟩) :
    Directive (String.ofList cs) :=
  fun due => reads_ofList (h due)

theorem Directive.append {front text : String} (hfront : Directive front) (h : Inline text) :
    Directive (front ++ text) :=
  fun due => (hfront due).append (h due)

theorem Directive.settled {line : String} (h : Directive line) : Settled line :=
  fun due => (h due).append (reads_ofList rfl)

/-- The text of some lines. -/
def joined (lines : List String) : String := String.join (lines.map (· ++ "\n"))

theorem joined_append (xs ys : List String) : joined (xs ++ ys) = joined xs ++ joined ys := by
  rw [joined, List.map_append, String.join_append]
  rfl

theorem joined_singleton (line : String) : joined [line] = line ++ "\n" := by
  simp [joined]

/-- Lines that leave no bracket, comment or literal open. -/
def Balanced (lines : List String) : Prop := ∀ due, Reads ⟨.fresh, due⟩ (joined lines) ⟨.fresh, due⟩

theorem Balanced.append {xs ys : List String} (hxs : Balanced xs) (hys : Balanced ys) :
    Balanced (xs ++ ys) := by
  intro due
  rw [joined_append]
  exact (hxs due).append (hys due)

theorem balanced_flatMap {α : Type} {f : α → List String} {xs : List α}
    (h : ∀ x ∈ xs, Balanced (f x)) : Balanced (xs.flatMap f) := by
  induction xs with
  | nil => exact fun due => reads_empty ⟨.fresh, due⟩
  | cons x xs ih =>
    rw [List.forall_mem_cons] at h
    rw [List.flatMap_cons]
    exact h.1.append (ih h.2)

theorem Settled.balanced {line : String} (h : Settled line) : Balanced [line] := by
  intro due
  rw [joined_singleton]
  exact h due

theorem balanced_of_settled {lines : List String} (h : ∀ line ∈ lines, Settled line) :
    Balanced lines := by
  have hflat := balanced_flatMap fun line hline => (h line hline).balanced
  rwa [List.flatMap_singleton'] at hflat

/-- A block between a line that opens a bracket and a line that closes it. -/
theorem balanced_block {front back : String} {closer : Char} {body : List String}
    (hfront : ∀ due, Reads ⟨.code, due⟩ front ⟨.code, closer :: due⟩) (hbody : Balanced body)
    (hback : ∀ due, Reads ⟨.code, closer :: due⟩ back ⟨.code, due⟩) :
    Balanced ([front] ++ body ++ [back]) := by
  intro due
  rw [joined_append, joined_append, joined_singleton, joined_singleton]
  have hopening := reads_fresh ((hfront due).append (reads_ofList rfl))
  have hclosing := reads_fresh ((hback due).append (reads_ofList rfl))
  exact (hopening.append (hbody _)).append hclosing

/-! ## Statements -/

theorem inline_indent (level : Nat) : Inline (indent level) := by
  induction level with
  | zero => exact inline_ofList fun _ => rfl
  | succ level ih => exact (inline_ofList fun _ => rfl).append ih

theorem trailing_printRemark {remark : Option String}
    (h : ∀ text ∈ remark, unpunctuated.remark text) : Trailing (printRemark remark) := by
  cases remark with
  | none => exact (inline_ofList fun _ => rfl).trailing
  | some text => exact trailing_remark (fun _ => rfl) (h text rfl)

theorem Simple.trailing_print {line : Simple} (h : line.Within unpunctuated) :
    Trailing line.print := by
  have hsemicolon : Inline ";" := inline_ofList fun _ => rfl
  have hblank : Inline " " := inline_ofList fun _ => rfl
  cases line with
  | blank => exact (inline_ofList fun _ => rfl).trailing
  | lineComment text => exact trailing_remark (fun _ => rfl) h
  | comment text => exact (inline_comment h).trailing
  | declare type name value remark =>
    obtain ⟨htype, hname, hvalue, hremark⟩ := h
    have hfront := ((inline_of_within htype).append hblank).append (inline_of_within hname)
    cases value with
    | none => exact (hfront.append hsemicolon).append_trailing (trailing_printRemark hremark)
    | some value =>
      have hprint := value.inline_print (hvalue value rfl)
      exact (((hfront.append (inline_ofList fun _ => rfl)).append hprint).append
        hsemicolon).append_trailing (trailing_printRemark hremark)
  | assign op target value remark =>
    obtain ⟨htarget, hvalue, hremark⟩ := h
    have hop : Inline op.symbol := by cases op <;> exact inline_ofList fun _ => rfl
    have hfront := (((target.inline_print htarget).append hblank).append hop).append hblank
    exact ((hfront.append (value.inline_print hvalue)).append hsemicolon).append_trailing
      (trailing_printRemark hremark)
  | evaluate value => exact ((value.inline_print h).append hsemicolon).trailing
  | leave => exact (inline_ofList fun _ => rfl).trailing
  | result value =>
    exact (((inline_ofList fun _ => rfl).append (value.inline_print h)).append hsemicolon).trailing

theorem Simple.settled_line {line : Simple} (h : line.Within unpunctuated) (level : Nat) :
    Settled (line.line level) := by
  have hprint : Settled (indent level ++ line.print) :=
    ((inline_indent level).append_trailing (line.trailing_print h)).settled
  cases line with
  | blank => exact Inline.settled (inline_ofList fun _ => rfl)
  | _ => exact hprint

theorem Layout.inline_keyword (layout : Layout) {word : String} (hword : Inline word)
    {subject : Expr} (h : subject.Within unpunctuated) :
    Inline (layout.keyword word subject) := by
  have hopen : ∀ due, Reads ⟨.code, due⟩ (if layout.spacedKeywords then " (" else "(")
      ⟨.code, ')' :: due⟩ := by
    intro due
    split <;> exact reads_ofList rfl
  exact .between (fun due => (hword due).append (hopen due))
    (fun due => subject.inline_print h (')' :: due)) fun due => reads_ofList rfl

theorem Case.balanced_lines {case : Case} (h : case.Within unpunctuated) :
    Balanced case.lines := by
  obtain ⟨hlabel, hbody⟩ := h
  refine balanced_of_settled (Case.forall_lines.2
    ⟨Inline.settled ?_, fun line hline => line.settled_line (hbody line hline) 3⟩)
  exact (((inline_indent 2).append (inline_ofList fun _ => rfl)).append
    (inline_of_within hlabel)).append (inline_ofList fun _ => rfl)

/-- The braces of a switch stand on lines of their own. -/
theorem Statement.balanced_lines (layout : Layout) {statement : Statement}
    (h : statement.Within unpunctuated) : Balanced (statement.lines layout) := by
  have hkeyword : ∀ {word : String}, Inline word → ∀ {subject : Expr},
      subject.Within unpunctuated → Settled (indent 1 ++ layout.keyword word subject) :=
    fun hword _ hsubject => ((inline_indent 1).append (layout.inline_keyword hword hsubject)).settled
  cases statement with
  | simple line => exact (line.settled_line h 1).balanced
  | branch first further otherwise =>
    obtain ⟨⟨hguard, hfirst⟩, hfurther, hotherwise⟩ := h
    unfold Statement.lines
    refine (Balanced.append ?_ (balanced_flatMap fun guarded hmem => ?_)).append ?_
    · exact balanced_of_settled (List.forall_mem_cons.2 ⟨hkeyword (inline_ofList fun _ => rfl) hguard,
        List.forall_mem_singleton.2 (first.2.settled_line hfirst 2)⟩)
    · obtain ⟨hcondition, hthen⟩ := hfurther guarded hmem
      exact balanced_of_settled (List.forall_mem_cons.2
        ⟨hkeyword (inline_ofList fun _ => rfl) hcondition,
          List.forall_mem_singleton.2 (guarded.2.settled_line hthen 2)⟩)
    · cases otherwise with
      | none => exact fun due => reads_empty ⟨.fresh, due⟩
      | some line =>
        have helse : Settled (indent 1 ++ "else") :=
          ((inline_indent 1).append (inline_ofList fun _ => rfl)).settled
        exact balanced_of_settled (List.forall_mem_cons.2
          ⟨helse, List.forall_mem_singleton.2 (line.settled_line (hotherwise line rfl) 2)⟩)
  | switch subject cases =>
    obtain ⟨hsubject, hcases⟩ := h
    have hblock : Balanced ([indent 1 ++ "\x7b"] ++ cases.flatMap Case.lines ++ [indent 1 ++ "\x7d"]) :=
      balanced_block (fun due => (inline_indent 1 due).append (reads_ofList rfl))
        (balanced_flatMap fun case hcase => case.balanced_lines (hcases case hcase))
        fun due => (inline_indent 1 ('\x7d' :: due)).append (reads_ofList rfl)
    exact (hkeyword (inline_ofList fun _ => rfl) hsubject).balanced.append hblock

/-! ## Items -/

theorem inline_intercalate {separator : String} (hseparator : Inline separator)
    {texts : List String} (h : ∀ text ∈ texts, Inline text) :
    Inline (separator.intercalate texts) := by
  induction texts with
  | nil => exact fun due => reads_empty ⟨.code, due⟩
  | cons text texts ih =>
    rw [List.forall_mem_cons] at h
    cases texts with
    | nil =>
      rw [String.intercalate_singleton]
      exact h.1
    | cons next rest =>
      rw [String.intercalate_cons_cons]
      exact (h.1.append hseparator).append (ih h.2)

theorem inline_printParameters {parameters : List Parameter}
    (h : ∀ parameter ∈ parameters, parameter.Within unpunctuated) :
    Inline (printParameters parameters) := by
  unfold printParameters
  split
  · exact inline_ofList fun _ => rfl
  · refine inline_intercalate (inline_ofList fun _ => rfl) (List.forall_mem_map.2 ?_)
    exact fun parameter hmem => ((inline_of_within (h parameter hmem).1).append
      (inline_ofList fun _ => rfl)).append (inline_of_within (h parameter hmem).2)

namespace Signature

variable {signature : Signature}

theorem balanced_attributeLines (signature : Signature) : Balanced signature.attributeLines :=
  balanced_of_settled (forall_attributeLines (Inline.settled (inline_ofList fun _ => rfl)) signature)

theorem inline_headLine (h : signature.Within unpunctuated) : Inline signature.headLine := by
  cases signature with
  | function linkage result name parameters =>
    obtain ⟨hresult, hname, hparameters⟩ := h
    have hlinkage : Inline (if linkage = .staticInline then "static inline " else "") := by
      split <;> exact inline_ofList fun _ => rfl
    have hfront : Inline ((if linkage = .staticInline then "static inline " else "") ++ result ++
        " " ++ name) :=
      ((hlinkage.append (inline_of_within hresult)).append (inline_ofList fun _ => rfl)).append
        (inline_of_within hname)
    exact .between (fun due => (hfront due).append (reads_ofList rfl))
      (fun due => inline_printParameters hparameters (')' :: due)) fun due => reads_ofList rfl
  | handler name =>
    exact .between (fun due => reads_ofList rfl) (fun due => inline_of_within h (')' :: due))
      fun due => reads_ofList rfl

theorem inline_prototypeLine (h : signature.Within unpunctuated) :
    Inline signature.prototypeLine := by
  cases signature with
  | function linkage result name parameters =>
    exact (inline_headLine h).append (inline_ofList fun _ => rfl)
  | handler name =>
    exact .between (fun due => reads_ofList rfl) (fun due => inline_of_within h (')' :: due))
      fun due => reads_ofList rfl

end Signature

theorem Member.inline_line {member : Member} (htype : Text.Within unpunctuated.letter member.type)
    (hname : Text.Within unpunctuated.letter member.name) : Inline member.line := by
  obtain ⟨type, name, length⟩ := member
  have hline : ∀ array, Inline array → Inline (indent 1 ++ type ++ " " ++ name ++ array ++ ";") := by
    intro array harray
    exact (((((inline_indent 1).append (inline_of_within htype)).append
      (inline_ofList fun _ => rfl)).append (inline_of_within hname)).append harray).append
        (inline_ofList fun _ => rfl)
  cases length with
  | none => exact hline "" (inline_ofList fun _ => rfl)
  | some length =>
    have harray : Inline ("[" ++ toString length ++ "]") := .between (fun due => reads_ofList rfl)
      (fun due => inline_numeral length (']' :: due)) fun due => reads_ofList rfl
    exact hline _ harray

theorem settled_enumeratorLines {enumerators : List String}
    (h : ∀ e ∈ enumerators, Text.Within unpunctuated.letter e) :
    ∀ line ∈ enumeratorLines enumerators, Settled line := by
  refine forall_enumeratorLines fun enumerator hmem => ?_
  have hline : Inline (indent 1 ++ enumerator) :=
    (inline_indent 1).append (inline_of_within (h enumerator hmem))
  exact ⟨hline.settled, (hline.append (inline_ofList fun _ => rfl)).settled⟩

/-- The lines of a banner stay in its comment, in front of each behind the line feed. -/
theorem balanced_banner {texts : List String}
    (h : ∀ text ∈ texts, Text.Within unpunctuated.letter text) :
    Balanced (["/*"] ++ texts.map (" * " ++ ·) ++ [" */"]) := by
  have hlines : ∀ due, Reads ⟨.blockComment [], due⟩ (joined (texts.map (" * " ++ ·)))
      ⟨.blockComment [], due⟩ := by
    intro due
    induction texts with
    | nil => exact reads_empty _
    | cons text texts ih =>
      rw [List.forall_mem_cons] at h
      rw [List.map_cons, ← List.singleton_append, joined_append, joined_singleton]
      exact (((reads_ofList rfl).append (reads_comment h.1 [] due)).append (reads_ofList rfl)).append
        (ih h.2)
  intro due
  rw [joined_append, joined_append, joined_singleton, joined_singleton]
  exact (((reads_ofList rfl).append (reads_ofList rfl)).append (hlines due)).append
    ((reads_ofList rfl).append (reads_ofList rfl))

theorem reads_closingLine {name : String} (h : Text.Within unpunctuated.letter name)
    (due : List Char) : Reads ⟨.code, '\x7d' :: due⟩ ("\x7d " ++ name ++ ";") ⟨.code, due⟩ :=
  ((reads_ofList rfl).append (inline_of_within h due)).append (reads_ofList rfl)

theorem settled_endGuard (layout : Layout) {name : String}
    (h : Text.Within unpunctuated.letter name) :
    Settled (if layout.blockRemarks then "#endif /* " ++ name ++ " */" else "#endif // " ++ name) := by
  split
  · have hline : Directive ("#endif /* " ++ name ++ " */") := fun due =>
      ((reads_ofList rfl).append (reads_comment h [] due)).append (reads_ofList rfl)
    exact hline.settled
  · have hremark := unpunctuated.remark_letters name h
    exact fun due => ((reads_ofList rfl).append (reads_remark hremark due)).append (reads_ofList rfl)

/-- The braces of an initialiser stand in the line of its object. -/
theorem inline_object {type name field : String} {value : Expr}
    (h : (Item.object type name field value).Within unpunctuated) :
    Inline (type ++ " " ++ name ++ " = \x7b." ++ field ++ " = " ++ value.print ++ "\x7d;") := by
  obtain ⟨htype, hname, hfield, hvalue⟩ := h
  have hfront : ∀ due, Reads ⟨.code, due⟩ (type ++ " " ++ name ++ " = \x7b.") ⟨.code, '\x7d' :: due⟩ :=
    fun due => (((inline_of_within htype due).append (reads_ofList rfl)).append
      (inline_of_within hname due)).append (reads_ofList rfl)
  have hinner : Inline (field ++ " = " ++ value.print) :=
    ((inline_of_within hfield).append (inline_ofList fun _ => rfl)).append (value.inline_print hvalue)
  have hback : ∀ due, Reads ⟨.code, '\x7d' :: due⟩ "\x7d;" ⟨.code, due⟩ :=
    fun due => reads_ofList rfl
  have hline := Inline.between hfront (fun due => hinner ('\x7d' :: due)) hback
  simpa only [String.append_assoc] using hline

/-- An item leaves no bracket, comment or literal open. -/
theorem Item.balanced_lines (layout : Layout) {item : Item} (h : item.Within unpunctuated) :
    Balanced (item.lines layout) := by
  have hbrace : ∀ due, Reads ⟨.code, due⟩ "\x7b" ⟨.code, '\x7d' :: due⟩ := fun due => reads_ofList rfl
  cases item with
  | blank => exact (Inline.settled (inline_ofList fun _ => rfl)).balanced
  | comment text => exact (inline_comment h).settled.balanced
  | lineComment text => exact (trailing_remark (fun _ => rfl) h).settled.balanced
  | banner texts => exact balanced_banner h
  | unlessDefined name | marker name =>
    exact ((directive_ofList fun _ => rfl).append (inline_of_within h)).settled.balanced
  | endGuard name => exact (settled_endGuard layout h).balanced
  | constant name gap value =>
    obtain ⟨hname, hvalue⟩ := h
    have hgap : Text.Within unpunctuated.letter (String.ofList (List.replicate gap ' ')) :=
      unpunctuated.fixed (by simp [Text.isFixed])
    exact ((((directive_ofList fun _ => rfl).append (inline_of_within hname)).append
      (inline_of_within hgap)).append (value.inline_print hvalue)).settled.balanced
  | systemInclude file =>
    exact (((directive_ofList fun _ => rfl).append (inline_of_within h)).append
      (inline_ofList fun _ => rfl)).settled.balanced
  | ownInclude file =>
    have hline : Directive ("#include \"" ++ file ++ "\"") := fun due =>
      ((reads_ofList rfl).append (reads_literal h [] due)).append (reads_ofList rfl)
    exact hline.settled.balanced
  | shortEnum enumerators name =>
    obtain ⟨henumerators, hname⟩ := h
    have hlist : Inline (", ".intercalate enumerators) :=
      inline_intercalate (inline_ofList fun _ => rfl) fun e he => inline_of_within (henumerators e he)
    have hfront : ∀ due, Reads ⟨.code, due⟩ "typedef enum \x7b" ⟨.code, '\x7d' :: due⟩ :=
      fun due => reads_ofList rfl
    have hline : Inline ("typedef enum \x7b" ++ ", ".intercalate enumerators ++ "\x7d ") :=
      .between hfront (fun due => hlist ('\x7d' :: due)) fun due => reads_ofList rfl
    exact ((hline.append (inline_of_within hname)).append
      (inline_ofList fun _ => rfl)).settled.balanced
  | enumeration enumerators name =>
    obtain ⟨henumerators, hname⟩ := h
    exact balanced_block (fun _ => reads_ofList rfl)
      (balanced_of_settled (settled_enumeratorLines henumerators)) (reads_closingLine hname)
  | structType name members =>
    obtain ⟨hname, hmembers⟩ := h
    have hhead : Inline ("typedef struct " ++ name) :=
      (inline_ofList fun _ => rfl).append (inline_of_within hname)
    have hbody : Balanced (members.map Member.line) :=
      balanced_of_settled (List.forall_mem_map.2 fun member hmember =>
        (member.inline_line (hmembers member hmember).1 (hmembers member hmember).2).settled)
    exact hhead.settled.balanced.append (balanced_block hbrace hbody (reads_closingLine hname))
  | declaredObject type name =>
    have hline : Inline ("extern " ++ type ++ " " ++ name ++ ";") :=
      ((((inline_ofList fun _ => rfl).append (inline_of_within h.1)).append
        (inline_ofList fun _ => rfl)).append (inline_of_within h.2)).append (inline_ofList fun _ => rfl)
    exact hline.settled.balanced
  | object type name field value =>
    exact (inline_object h).settled.balanced
  | prototype signature =>
    exact signature.balanced_attributeLines.append (signature.inline_prototypeLine h).settled.balanced
  | definition signature body =>
    obtain ⟨hsignature, hbody⟩ := h
    have hlines : Balanced (body.flatMap (Statement.lines layout)) :=
      balanced_flatMap fun statement hmem => statement.balanced_lines layout (hbody statement hmem)
    have hback : ∀ due, Reads ⟨.code, '\x7d' :: due⟩ "\x7d" ⟨.code, due⟩ :=
      fun due => reads_ofList rfl
    have hblock := (signature.inline_headLine hsignature).settled.balanced.append
      (balanced_block hbrace hlines hback)
    simpa [Item.lines, List.append_assoc] using signature.balanced_attributeLines.append hblock

/-- The text of a listing without punctuation in its texts is well bracketed. -/
theorem wellBracketed_text (layout : Layout) {listing : Listing}
    (h : ∀ item ∈ listing, item.Within unpunctuated) :
    WellBracketed (Listing.text layout listing) :=
  balanced_flatMap (fun item hitem => item.balanced_lines layout (h item hitem)) []

end FirmwareGen.C
