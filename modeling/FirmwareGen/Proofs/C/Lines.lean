-- SUMMARY: What has to be shown of every line of a statement or an item, once for all properties.
import FirmwareGen.C.Printer
/-!
# Lines of listings

Most facts about a listing are facts about each of its lines. Here a property of all lines of a
statement or of an item is taken apart into the property of its lines, in the order in which they
are written. So what a line says is looked up here, and a reader of lines is not concerned with how
they are put together.
-/

namespace FirmwareGen.C

variable {P : String → Prop} {layout : Layout}

/-! ## Statements -/

theorem Case.forall_lines {case : Case} :
    (∀ line ∈ case.lines, P line) ↔
      P (indent 2 ++ "case " ++ case.label ++ ":") ∧ ∀ line ∈ case.body, P (line.line 3) := by
  rw [Case.lines, List.forall_mem_cons, List.forall_mem_map]

theorem Statement.forall_lines_branch {first : Expr × Simple} {further : List (Expr × Simple)}
    {otherwise : Option Simple} :
    (∀ line ∈ (Statement.branch first further otherwise).lines layout, P line) ↔
      (P (indent 1 ++ layout.keyword "if" first.1) ∧ P (first.2.line 2)) ∧
      (∀ guarded ∈ further,
        P (indent 1 ++ layout.keyword "else if" guarded.1) ∧ P (guarded.2.line 2)) ∧
      ∀ line ∈ otherwise, P (indent 1 ++ "else") ∧ P (line.line 2) := by
  unfold Statement.lines
  rw [List.forall_mem_append, List.forall_mem_append, List.forall_mem_flatMap, and_assoc]
  cases otherwise <;> simp only [List.forall_mem_cons, List.not_mem_nil, Option.mem_def,
    reduceCtorEq, Option.some.injEq, forall_eq', false_implies, implies_true, and_true]

theorem Statement.forall_lines_switch {subject : Expr} {cases : List Case} :
    (∀ line ∈ (Statement.switch subject cases).lines layout, P line) ↔
      P (indent 1 ++ layout.keyword "switch" subject) ∧ P (indent 1 ++ "\x7b") ∧
      (∀ case ∈ cases, ∀ line ∈ case.lines, P line) ∧ P (indent 1 ++ "\x7d") := by
  rw [Statement.lines, List.forall_mem_append, List.forall_mem_append, List.forall_mem_flatMap,
    List.forall_mem_cons, List.forall_mem_singleton, List.forall_mem_singleton, and_assoc, and_assoc]

/-! ## Items -/

/-- In front of a signature there is at most the line of attributes. -/
theorem Signature.forall_attributeLines (h : P interruptAttributes) (signature : Signature) :
    ∀ line ∈ signature.attributeLines, P line := by
  cases signature with
  | handler name => exact List.forall_mem_nil _
  | function linkage result name parameters =>
    cases linkage with
    | interrupt => exact List.forall_mem_singleton.2 h
    | _ => exact List.forall_mem_nil _

/-- Every enumerator has a line, and all but the last have a comma. -/
theorem forall_enumeratorLines {enumerators : List String}
    (h : ∀ e ∈ enumerators, P (indent 1 ++ e) ∧ P (indent 1 ++ e ++ ",")) :
    ∀ line ∈ enumeratorLines enumerators, P line := by
  induction enumerators with
  | nil => exact List.forall_mem_nil _
  | cons enumerator rest ih =>
    rw [List.forall_mem_cons] at h
    cases rest with
    | nil => exact List.forall_mem_singleton.2 h.1.1
    | cons next rest =>
      rw [enumeratorLines, List.forall_mem_cons]
      · exact ⟨h.1.2, ih h.2⟩
      · simp

namespace Item

theorem forall_lines_banner {texts : List String} :
    (∀ line ∈ (Item.banner texts).lines layout, P line) ↔
      P "/*" ∧ (∀ text ∈ texts, P (" * " ++ text)) ∧ P " */" := by
  rw [Item.lines, List.forall_mem_append, List.forall_mem_append, List.forall_mem_map,
    List.forall_mem_singleton, List.forall_mem_singleton, and_assoc]

theorem forall_lines_enumeration {enumerators : List String} {name : String} :
    (∀ line ∈ (Item.enumeration enumerators name).lines layout, P line) ↔
      P "typedef enum \x7b" ∧ (∀ line ∈ enumeratorLines enumerators, P line) ∧
      P ("\x7d " ++ name ++ ";") := by
  rw [Item.lines, List.forall_mem_append, List.forall_mem_append, List.forall_mem_singleton,
    List.forall_mem_singleton, and_assoc]

theorem forall_lines_structType {name : String} {members : List Member} :
    (∀ line ∈ (Item.structType name members).lines layout, P line) ↔
      P ("typedef struct " ++ name) ∧ P "\x7b" ∧ (∀ member ∈ members, P member.line) ∧
      P ("\x7d " ++ name ++ ";") := by
  rw [Item.lines, List.forall_mem_append, List.forall_mem_append, List.forall_mem_map,
    List.forall_mem_cons, List.forall_mem_singleton, List.forall_mem_singleton, and_assoc, and_assoc]

theorem forall_lines_prototype {signature : Signature} :
    (∀ line ∈ (Item.prototype signature).lines layout, P line) ↔
      (∀ line ∈ signature.attributeLines, P line) ∧ P signature.prototypeLine := by
  rw [Item.lines, List.forall_mem_append, List.forall_mem_singleton]

theorem forall_lines_definition {signature : Signature} {body : List Statement} :
    (∀ line ∈ (Item.definition signature body).lines layout, P line) ↔
      (∀ line ∈ signature.attributeLines, P line) ∧ P signature.headLine ∧ P "\x7b" ∧
      (∀ statement ∈ body, ∀ line ∈ statement.lines layout, P line) ∧ P "\x7d" := by
  rw [Item.lines, List.forall_mem_append, List.forall_mem_append, List.forall_mem_append,
    List.forall_mem_flatMap, List.forall_mem_cons, List.forall_mem_singleton,
    List.forall_mem_singleton, and_assoc, and_assoc, and_assoc]

end Item

end FirmwareGen.C
