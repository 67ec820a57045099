-- SUMMARY: Calls of a function, read back from the lines of a listing.
import FirmwareGen.Proofs.C.Lines
import FirmwareGen.Proofs.Text.Lines
import Mathlib.Data.List.Basic
/-!
# Calls

A reader of generated files finds the calls of one function by their text. Names are free text, so
a line can begin with anything that has neither capitals nor blanks. The functions that are looked
for have a capital in their names and no parenthesis behind it; a line calls none of them if a blank
comes before its first capital, or before the first parenthesis behind that.
-/

namespace FirmwareGen.C

open Text

/-! ## Reading calls -/

/-- A line without its indentation. -/
def dropIndent (line : String) : List Char := line.toList.dropWhile (· == ' ')

/-- The arguments of a function that a line calls. -/
def callArguments? (callee line : String) : Option String :=
  between? (callee ++ "(") ");" (String.ofList (dropIndent line))

/-- The arguments of all calls of a function, in order. -/
def callsOf (callee : String) (lines : List String) : List String :=
  lines.filterMap (callArguments? callee)

/-! ## Calls of an item -/

/-- The function that a line of a body calls, and its arguments as they are written. -/
def Simple.call? : Simple → Option (String × String)
  | .evaluate (.call callee arguments) => some (callee, Expr.printList arguments)
  | _ => none

def Statement.calls : Statement → List (String × String)
  | .simple line => line.call?.toList
  | .branch first further otherwise =>
    first.2.call?.toList ++ further.flatMap (·.2.call?.toList) ++ (otherwise.bind Simple.call?).toList
  | .switch _ cases => cases.flatMap fun case => case.body.filterMap Simple.call?

@[simp] theorem Simple.call?_evaluate (callee : String) (arguments : List Expr) :
    (Simple.evaluate (.call callee arguments)).call? = some (callee, Expr.printList arguments) := rfl

@[simp] theorem Simple.call?_assign (op : AssignOp) (target value : Expr)
    (remark : Option String) : (Simple.assign op target value remark).call? = none := rfl

@[simp] theorem Simple.call?_declare (type name : String) (value : Option Expr)
    (remark : Option String) : (Simple.declare type name value remark).call? = none := rfl

@[simp] theorem Simple.call?_lineComment (text : String) :
    (Simple.lineComment text).call? = none := rfl

@[simp] theorem Simple.call?_blank : Simple.blank.call? = none := rfl

@[simp] theorem Simple.call?_leave : Simple.leave.call? = none := rfl

@[simp] theorem Statement.calls_simple (line : Simple) :
    (Statement.simple line).calls = line.call?.toList := rfl

@[simp] theorem Statement.calls_switch (subject : Expr) (cases : List Case) :
    (Statement.switch subject cases).calls =
      cases.flatMap fun case => case.body.filterMap Simple.call? := rfl

@[simp] theorem Statement.calls_branch (first : Expr × Simple) (further : List (Expr × Simple))
    (otherwise : Option Simple) :
    (Statement.branch first further otherwise).calls =
      first.2.call?.toList ++ further.flatMap (·.2.call?.toList) ++
        (otherwise.bind Simple.call?).toList := rfl

def Item.calls : Item → List (String × String)
  | .definition _ body => body.flatMap Statement.calls
  | _ => []

/-- The arguments of a call of this function. -/
def select (callee : String) (call : String × String) : Option String :=
  if call.1 = callee then some call.2 else none

/-! ## Selecting calls -/

section Select

variable {α : Type} {callee other : String}

theorem select_self (callee arguments : String) :
    select callee (callee, arguments) = some arguments := if_pos rfl

theorem select_of_ne (h : other ≠ callee) (arguments : String) :
    select callee (other, arguments) = none := if_neg h

theorem filterMap_select_map (callee : String) (arguments : α → String) (xs : List α) :
    (xs.map fun x => (callee, arguments x)).filterMap (select callee) = xs.map arguments := by
  rw [List.filterMap_map, ← List.filterMap_eq_map]
  exact List.filterMap_congr fun x _ => select_self callee (arguments x)

theorem filterMap_select_map_of_ne (h : other ≠ callee) (arguments : α → String) (xs : List α) :
    (xs.map fun x => (other, arguments x)).filterMap (select callee) = [] := by
  rw [List.filterMap_map, List.filterMap_eq_nil_iff]
  exact fun x _ => select_of_ne h (arguments x)

/-- Of two calls for each element, one is selected. -/
theorem filterMap_select_pairs (f g : α → String) {first second : String} (xs : List α) :
    (xs.flatMap fun x => [(first, f x), (second, g x)]).filterMap (select callee) =
      xs.flatMap fun x => (if first = callee then [f x] else []) ++
        (if second = callee then [g x] else []) := by
  rw [List.filterMap_flatMap]
  refine List.flatMap_congr fun x _ => ?_
  by_cases hfirst : first = callee <;> by_cases hsecond : second = callee <;>
    simp [select, hfirst, hsecond]

end Select

/-! ## Names of functions -/

/-- What a name goes on with from its first capital or blank. -/
def fromCapital (text : List Char) : List Char := text.dropWhile isPlain

/-- A name that can be told from the parenthesis behind it. -/
def Callable (callee : String) : Prop :=
  fromCapital callee.toList ≠ [] ∧ ' ' ∉ fromCapital callee.toList ∧
    '(' ∉ fromCapital callee.toList

instance (callee : String) : Decidable (Callable callee) := by unfold Callable; infer_instance

/-- A line without an opening parenthesis between its first capital and the first blank. -/
def Quiet (line : String) : Prop :=
  '(' ∉ (fromCapital (dropIndent line)).takeWhile (· != ' ')

instance (line : String) : Decidable (Quiet line) := by unfold Quiet; infer_instance

theorem fromCapital_append {xs : List Char} (h : fromCapital xs ≠ []) (ys : List Char) :
    fromCapital (xs ++ ys) = fromCapital xs ++ ys := by
  rw [fromCapital, List.dropWhile_append, if_neg (by simpa [fromCapital] using h)]
  rfl

theorem fromCapital_plain {xs : List Char} (h : ∀ c ∈ xs, isPlain c = true) (ys : List Char) :
    fromCapital (xs ++ ys) = fromCapital ys := List.dropWhile_append_of_pos h

/-- Names behind stems without capitals are told apart from their first capitals on. -/
theorem plain_append_ne {stem other : String} (hstem : Plain stem) (hother : Plain other)
    {xs ys : List Char} (h : fromCapital xs ≠ fromCapital ys) :
    stem ++ String.ofList xs ≠ other ++ String.ofList ys := by
  intro heq
  have hlist := congrArg String.toList heq
  simp only [String.toList_append, String.toList_ofList] at hlist
  apply h
  rw [← fromCapital_plain hstem xs, hlist, fromCapital_plain hother]

theorem plain_append_ne_ofList {stem : String} (hstem : Plain stem) {xs ys : List Char}
    (h : fromCapital xs ≠ fromCapital ys) : stem ++ String.ofList xs ≠ String.ofList ys := by
  have hempty : Plain "" := plain_ofList rfl
  simpa using plain_append_ne hstem hempty h

/-- Texts that begin with neither capitals nor blanks are told apart by what goes on with one. -/
theorem plain_unique {a b : String} (ha : Plain a) (hb : Plain b) {c : Char} (hc : isPlain c = false)
    {xs ys : List Char} (h : a.toList ++ c :: xs = b.toList ++ c :: ys) : a = b := by
  have hfront : ∀ {text : String}, Plain text → ∀ rest,
      (text.toList ++ c :: rest).takeWhile isPlain = text.toList := by
    intro text htext rest
    rw [List.takeWhile_append_of_pos htext, List.takeWhile_cons_of_neg (by simp [hc]),
      List.append_nil]
  rw [← String.toList_inj, ← hfront ha xs, h, hfront hb]

/-- Nothing is found in a line that has another first capital than the front. -/
theorem between?_of_capital {front back line : String}
    (hfront : fromCapital (dropIndent front) ≠ [])
    (h : (fromCapital (dropIndent line)).head? ≠ (fromCapital (dropIndent front)).head?) :
    between? front back line = none := by
  refine between?_eq_none fun rest heq => h ?_
  have hne : dropIndent front ≠ [] := by
    intro hnil
    rw [hnil] at hfront
    exact hfront rfl
  have hindent : dropIndent line = dropIndent front ++ rest := by
    rw [dropIndent, heq, List.dropWhile_append, if_neg (by simpa [dropIndent] using hne)]
    rfl
  rw [hindent, fromCapital_append hfront, List.head?_append_of_ne_nil _ hfront]

/-- The name of the function that a text calls. -/
def calleeOf (text : List Char) : List Char :=
  text.takeWhile isPlain ++ (fromCapital text).takeWhile (· != '(')

theorem calleeOf_call {callee : String} (h : Callable callee) (rest : List Char) :
    calleeOf (callee.toList ++ '(' :: rest) = callee.toList := by
  obtain ⟨hne, -, hparenthesis⟩ := h
  have hfrom := fromCapital_append hne ('(' :: rest)
  have hfront : (callee.toList ++ '(' :: rest).takeWhile isPlain =
      callee.toList.takeWhile isPlain := by
    have hsplit : callee.toList.takeWhile isPlain ++ fromCapital callee.toList = callee.toList :=
      List.takeWhile_append_dropWhile
    have hsame : (callee.toList ++ '(' :: rest).takeWhile isPlain ++
        fromCapital (callee.toList ++ '(' :: rest) =
          callee.toList.takeWhile isPlain ++ fromCapital (callee.toList ++ '(' :: rest) := by
      rw [hfrom, ← List.append_assoc (callee.toList.takeWhile isPlain), hsplit, ← hfrom]
      exact List.takeWhile_append_dropWhile
    exact List.append_cancel_right hsame
  have hword : ∀ c ∈ fromCapital callee.toList, (c != '(') = true := by
    intro c hc
    simp only [bne_iff_ne, ne_eq]
    rintro rfl
    exact hparenthesis hc
  rw [calleeOf, hfront, hfrom, List.takeWhile_append_of_pos hword,
    List.takeWhile_cons_of_neg (by simp), List.append_nil, fromCapital,
    List.takeWhile_append_dropWhile]

/-- A text calls only the function that stands in front of it. -/
theorem callee_unique {callee other : String} (hcallee : Callable callee) (hother : Callable other)
    {rest rest' : List Char} (h : callee.toList ++ '(' :: rest = other.toList ++ '(' :: rest') :
    callee = other := by
  have heq : callee.toList = other.toList := by
    rw [← calleeOf_call hcallee rest, h, calleeOf_call hother]
  exact String.toList_injective heq

theorem callArguments?_of_quiet {callee line : String} (hcallee : Callable callee)
    (hline : Quiet line) : callArguments? callee line = none := by
  refine between?_eq_none fun rest heq => hline ?_
  obtain ⟨hne, hblank, -⟩ := hcallee
  have hword : ∀ c ∈ fromCapital callee.toList, (c != ' ') = true := by
    intro c hc
    simp only [bne_iff_ne, ne_eq]
    rintro rfl
    exact hblank hc
  rw [String.toList_ofList, String.toList_append, List.append_assoc] at heq
  rw [heq, fromCapital_append hne, List.takeWhile_append_of_pos hword]
  exact List.mem_append_right _ (by simp)

theorem dropIndent_indent (level : Nat) (text : String) :
    dropIndent (indent level ++ text) = dropIndent text := by
  induction level with
  | zero => simp [indent]
  | succ level ih =>
    rw [← ih]
    simp [indent, dropIndent]

theorem dropIndent_callable {callee : String} (h : Callable callee) (text : String) :
    dropIndent (callee ++ text) = callee.toList ++ text.toList := by
  obtain ⟨hne, hblank, -⟩ := h
  rw [dropIndent, String.toList_append]
  cases hcallee : callee.toList with
  | nil =>
    rw [hcallee] at hne
    exact absurd rfl hne
  | cons c rest =>
    rw [hcallee] at hblank
    have hc : c ≠ ' ' := by
      rintro rfl
      exact hblank (by simp [fromCapital, isPlain])
    rw [List.cons_append, List.dropWhile_cons_of_neg (by simpa using hc)]

/-- A text that begins with neither capitals nor blanks has no indentation. -/
theorem dropIndent_plain {stem : String} (hstem : Plain stem) (hne : stem ≠ "") (rest : String) :
    dropIndent (stem ++ rest) = stem.toList ++ rest.toList := by
  rw [dropIndent, String.toList_append]
  cases hlist : stem.toList with
  | nil => exact absurd (String.toList_eq_nil_iff.1 hlist) hne
  | cons c text =>
    have hc : isPlain c = true := hstem c (by rw [hlist]; exact List.mem_cons_self)
    have hblank : (c == ' ') = false := by
      rw [beq_eq_false_iff_ne]
      rintro rfl
      exact absurd hc (by decide)
    rw [List.cons_append, List.dropWhile_cons_of_neg (by simp [hblank])]

/-- A call is read as one of the function that it names, and of no other. -/
theorem callArguments?_call {callee other : String} (hcallee : Callable callee)
    (hother : Callable other) (level : Nat) (arguments : String) :
    callArguments? callee (indent level ++ (other ++ "(" ++ arguments ++ ");")) =
      select callee (other, arguments) := by
  have hline : String.ofList (dropIndent (indent level ++ (other ++ "(" ++ arguments ++ ");"))) =
      other ++ "(" ++ arguments ++ ");" := by
    rw [dropIndent_indent, String.append_assoc, String.append_assoc, dropIndent_callable hother,
      ← String.toList_append, String.ofList_toList]
  rw [callArguments?, hline, select]
  by_cases heq : other = callee
  · rw [if_pos heq, heq, between?_append]
  · rw [if_neg heq]
    refine between?_eq_none fun rest hrest => heq ?_
    have hcalls : other.toList ++ '(' :: (arguments ++ ");").toList = callee.toList ++ '(' :: rest := by
      simpa using hrest
    exact callee_unique hother hcallee hcalls

/-! ## Calls of a listing -/

/-- A line whose call, or whose lack of one, can be read. -/
def Simple.Tame (line : Simple) : Prop :=
  match line.call? with
  | some call => Callable call.1
  | none => Quiet line.print

def Statement.Tame (layout : Layout) : Statement → Prop
  | .simple line => line.Tame
  | .branch first further otherwise =>
    (Quiet (layout.keyword "if" first.1) ∧ first.2.Tame) ∧
      (∀ guarded ∈ further, guarded.2.Tame) ∧ ∀ line ∈ otherwise, line.Tame
  | .switch subject cases =>
    Quiet (layout.keyword "switch" subject) ∧ ∀ case ∈ cases, ∀ line ∈ case.body, line.Tame

/-- Only functions hold calls, and only in their bodies. -/
def Item.Tame (layout : Layout) : Item → Prop
  | .definition signature body =>
    Quiet signature.headLine ∧ ∀ statement ∈ body, statement.Tame layout
  | item => ∀ line ∈ item.lines layout, Quiet line

theorem quiet_indent {line : String} (level : Nat) (h : Quiet line) :
    Quiet (indent level ++ line) := by
  rw [Quiet, dropIndent_indent]
  exact h

/-- The front of a line that decides that the line is quiet: it has a blank to stop at. -/
def Settles (front : String) : Prop := ' ' ∈ fromCapital (dropIndent front) ∧ Quiet front

instance (front : String) : Decidable (Settles front) := by unfold Settles; infer_instance

theorem quiet_append {front : String} (h : Settles front) (rest : String) :
    Quiet (front ++ rest) := by
  obtain ⟨hblank, hquiet⟩ := h
  have hindent : dropIndent (front ++ rest) = dropIndent front ++ rest.toList := by
    have hne : dropIndent front ≠ [] := by
      intro hnil
      rw [hnil] at hblank
      exact List.not_mem_nil hblank
    rw [dropIndent, String.toList_append, List.dropWhile_append,
      if_neg (by simpa [dropIndent] using hne)]
    rfl
  rw [Quiet, hindent, fromCapital_append (List.ne_nil_of_mem hblank),
    takeWhile_append_of_mem hblank (by simp)]
  exact hquiet

variable {callee : String}

theorem quiet_empty : Quiet "" := by decide

theorem quiet_brace : Quiet "\x7b" ∧ Quiet "\x7d" := by constructor <;> decide

theorem callsOf_append (xs ys : List String) :
    callsOf callee (xs ++ ys) = callsOf callee xs ++ callsOf callee ys :=
  List.filterMap_append

theorem callsOf_flatMap {α : Type} {xs : List α} {lines : α → List String}
    {calls : α → List (String × String)}
    (h : ∀ x ∈ xs, callsOf callee (lines x) = (calls x).filterMap (select callee)) :
    callsOf callee (xs.flatMap lines) = (xs.flatMap calls).filterMap (select callee) := by
  induction xs with
  | nil => rfl
  | cons x xs ih =>
    rw [List.forall_mem_cons] at h
    rw [List.flatMap_cons, List.flatMap_cons, callsOf_append, List.filterMap_append, h.1, ih h.2]

theorem callsOf_quiet (hcallee : Callable callee) {lines : List String}
    (h : ∀ line ∈ lines, Quiet line) : callsOf callee lines = [] := by
  rw [callsOf, List.filterMap_eq_nil_iff]
  exact fun line hline => callArguments?_of_quiet hcallee (h line hline)

theorem callArguments?_line (hcallee : Callable callee) {line : Simple} (h : line.Tame)
    (level : Nat) : callArguments? callee (line.line level) = line.call?.bind (select callee) := by
  cases hcall : line.call? with
  | none =>
    rw [Simple.Tame, hcall] at h
    cases line with
    | blank => exact callArguments?_of_quiet hcallee quiet_empty
    | _ => exact callArguments?_of_quiet hcallee (quiet_indent level h)
  | some call =>
    rw [Simple.Tame, hcall] at h
    cases line with
    | evaluate value =>
      cases value with
      | call other arguments =>
        cases hcall
        have hprint : Simple.print (.evaluate (.call other arguments)) =
            other ++ "(" ++ Expr.printList arguments ++ ");" := by
          simp [Simple.print, Expr.print, ← String.toList_inj]
        rw [Simple.line, hprint]
        · exact callArguments?_call hcallee h level _
        · simp
      | _ => cases hcall
    | _ => cases hcall

theorem callsOf_line (hcallee : Callable callee) {line : Simple} (h : line.Tame) (level : Nat) :
    callsOf callee [line.line level] = line.call?.toList.filterMap (select callee) := by
  rw [callsOf, List.filterMap_cons, callArguments?_line hcallee h, List.filterMap_nil]
  cases line.call? with
  | none => rfl
  | some call => cases hselect : select callee call <;> simp [hselect]

theorem callsOf_map_line (hcallee : Callable callee) {body : List Simple}
    (h : ∀ line ∈ body, line.Tame) (level : Nat) :
    callsOf callee (body.map (Simple.line level)) =
      (body.filterMap Simple.call?).filterMap (select callee) := by
  rw [callsOf, List.filterMap_map, List.filterMap_filterMap]
  exact List.filterMap_congr fun line hline => callArguments?_line hcallee (h line hline) level

theorem callsOf_case (hcallee : Callable callee) {case : Case} (h : ∀ line ∈ case.body, line.Tame) :
    callsOf callee case.lines = (case.body.filterMap Simple.call?).filterMap (select callee) := by
  have hlabel : Quiet (indent 2 ++ "case " ++ case.label ++ ":") := by
    rw [String.append_assoc, String.append_assoc]
    exact quiet_indent 2 (quiet_append (by decide) _)
  rw [Case.lines, callsOf, List.filterMap_cons_none (callArguments?_of_quiet hcallee hlabel)]
  exact callsOf_map_line hcallee h 3

/-- A quiet line in front of a guarded line adds no call. -/
theorem callsOf_guarded (hcallee : Callable callee) {guard : String} (hguard : Quiet guard)
    {line : Simple} (h : line.Tame) (level : Nat) :
    callsOf callee [guard, line.line level] = line.call?.toList.filterMap (select callee) := by
  rw [← callsOf_line hcallee h level, callsOf, List.filterMap_cons,
    callArguments?_of_quiet hcallee hguard]
  rfl

/-- The calls in the lines of a statement are those of the statement. -/
theorem callsOf_statement (hcallee : Callable callee) {layout : Layout} {statement : Statement}
    (h : statement.Tame layout) :
    callsOf callee (statement.lines layout) = statement.calls.filterMap (select callee) := by
  cases statement with
  | simple line => exact callsOf_line hcallee h 1
  | branch first further otherwise =>
    obtain ⟨⟨hguard, hfirst⟩, hfurther, hotherwise⟩ := h
    have helse : ∀ subject, Quiet (indent 1 ++ layout.keyword "else if" subject) := by
      intro subject
      rw [Layout.keyword, String.append_assoc, String.append_assoc]
      have hsettles : Settles "else if" := by decide
      exact quiet_indent 1 (quiet_append hsettles _)
    unfold Statement.lines
    rw [callsOf_append, callsOf_append, callsOf_guarded hcallee (quiet_indent 1 hguard) hfirst,
      callsOf_flatMap fun guarded hmem =>
        callsOf_guarded hcallee (helse guarded.1) (hfurther guarded hmem) 2,
      Statement.calls, List.filterMap_append, List.filterMap_append]
    congr 1
    cases otherwise with
    | none => rfl
    | some line =>
      exact callsOf_guarded hcallee (quiet_indent 1 (by decide)) (hotherwise line rfl) 2
  | switch subject cases =>
    obtain ⟨hsubject, hcases⟩ := h
    have hopen : ∀ line ∈ [indent 1 ++ layout.keyword "switch" subject, indent 1 ++ "\x7b"],
        Quiet line := by
      rw [List.forall_mem_cons, List.forall_mem_singleton]
      exact ⟨quiet_indent 1 hsubject, quiet_indent 1 quiet_brace.1⟩
    rw [Statement.lines, callsOf_append, callsOf_append, callsOf_quiet hcallee hopen,
      callsOf_quiet hcallee (List.forall_mem_singleton.2 (quiet_indent 1 quiet_brace.2)),
      callsOf_flatMap fun case hcase => callsOf_case hcallee (hcases case hcase), List.append_nil]
    rfl

theorem callsOf_body (hcallee : Callable callee) {layout : Layout} {body : List Statement}
    (h : ∀ statement ∈ body, statement.Tame layout) :
    callsOf callee (body.flatMap (Statement.lines layout)) =
      (body.flatMap Statement.calls).filterMap (select callee) :=
  callsOf_flatMap fun statement hstatement => callsOf_statement hcallee (h statement hstatement)

theorem quiet_attributeLines (signature : Signature) :
    ∀ line ∈ signature.attributeLines, Quiet line := by
  have hsettles : Settles "__attribute__ " := by decide
  exact signature.forall_attributeLines
    (quiet_append hsettles "((interrupt (\"IRQ\"))) __attribute__ ((section (\".sram\")))")

theorem callsOf_item (hcallee : Callable callee) {layout : Layout} {item : Item}
    (h : item.Tame layout) :
    callsOf callee (item.lines layout) = item.calls.filterMap (select callee) := by
  cases item with
  | definition signature body =>
    obtain ⟨hhead, hbody⟩ := h
    have hopen : ∀ line ∈ [signature.headLine, "\x7b"], Quiet line := by
      rw [List.forall_mem_cons, List.forall_mem_singleton]
      exact ⟨hhead, quiet_brace.1⟩
    rw [Item.lines, callsOf_append, callsOf_append, callsOf_append, callsOf_body hcallee hbody,
      callsOf_quiet hcallee (quiet_attributeLines signature), callsOf_quiet hcallee hopen,
      callsOf_quiet hcallee (List.forall_mem_singleton.2 quiet_brace.2), List.append_nil]
    rfl
  | _ => exact callsOf_quiet hcallee h

/-- The calls in the lines of a listing are those of its items. -/
theorem callsOf_lines (hcallee : Callable callee) {layout : Layout} {listing : Listing}
    (h : ∀ item ∈ listing, item.Tame layout) :
    callsOf callee (Listing.lines layout listing) =
      (listing.flatMap Item.calls).filterMap (select callee) :=
  callsOf_flatMap fun item hitem => callsOf_item hcallee (h item hitem)

end FirmwareGen.C
