-- SUMMARY: Which statements and items call nothing, or only functions whose names can be read.
import FirmwareGen.Proofs.C.Calls
/-!
# Quiet lines

Most lines of a listing are settled by their first word: a blank is behind it, and no parenthesis is
in it. What is left are calls, and they are read by the name of the function.
-/

namespace FirmwareGen.C

open Text

/-! ## First words

The lemmas on `String.ofList` are for literals, which are lists of characters without being
unfolded.
-/

theorem callable_ofList {cs : List Char} (hne : (fromCapital cs).isEmpty = false)
    (h : (fromCapital cs).all (fun c => c != ' ' && c != '(') = true) :
    Callable (String.ofList cs) := by
  rw [Callable, String.toList_ofList]
  simp only [List.isEmpty_eq_false_iff, List.all_eq_true, Bool.and_eq_true, bne_iff_ne] at hne h
  exact ⟨hne, fun hmem => (h _ hmem).1 rfl, fun hmem => (h _ hmem).2 rfl⟩

/-- A stem without capitals in front of a name does not change how the name is read. -/
theorem callable_plain_append {stem name : String} (hstem : Plain stem) (h : Callable name) :
    Callable (stem ++ name) := by
  rw [Callable, String.toList_append, fromCapital_plain hstem]
  exact h

theorem settles_ofList {cs : List Char}
    (hblank : (fromCapital (cs.dropWhile (· == ' '))).contains ' ' = true)
    (h : ((fromCapital (cs.dropWhile (· == ' '))).takeWhile (· != ' ')).contains '(' = false) :
    Settles (String.ofList cs) := by
  rw [Settles, Quiet, dropIndent, String.toList_ofList]
  exact ⟨by simpa using hblank, by simpa using h⟩

theorem settles_word {cs : List Char}
    (hblank : (fromCapital ((cs ++ [' ']).dropWhile (· == ' '))).contains ' ' = true)
    (h : ((fromCapital ((cs ++ [' ']).dropWhile (· == ' '))).takeWhile (· != ' ')).contains '(' =
      false) : Settles (String.ofList cs ++ " ") := by
  have hword : String.ofList cs ++ " " = String.ofList (cs ++ [' ']) := by
    rw [String.ofList_append]
  rw [hword]
  exact settles_ofList hblank h

/-- A stem without capitals is settled by the word that it begins. -/
theorem settles_plain_ofList {stem : String} (hstem : Plain stem) (hne : stem ≠ "")
    {cs : List Char} (h : cs.contains '(' = false) : Settles (stem ++ String.ofList cs ++ " ") := by
  have hindent : dropIndent (stem ++ String.ofList cs ++ " ") = stem.toList ++ (cs ++ [' ']) := by
    rw [String.append_assoc, dropIndent_plain hstem hne, String.toList_append, String.toList_ofList]
    rfl
  have hblank : ' ' ∈ fromCapital (cs ++ [' ']) := by
    rw [fromCapital, List.dropWhile_append]
    split <;> simp [isPlain]
  have hparenthesis : '(' ∉ fromCapital (cs ++ [' ']) := by
    intro hmem
    have hword : '(' ∈ cs ++ [' '] := (List.dropWhile_sublist _).subset hmem
    simp_all
  rw [Settles, Quiet, hindent, fromCapital_plain hstem]
  exact ⟨hblank, fun hmem => hparenthesis ((List.takeWhile_sublist _).subset hmem)⟩

/-! ## Statements -/

theorem Simple.tame_call {callee : String} (h : Callable callee) (arguments : List Expr) :
    (Simple.evaluate (.call callee arguments)).Tame := h

theorem Simple.tame_assign {target : Expr} (h : Settles (target.print ++ " ")) (op : AssignOp)
    (value : Expr) (remark : Option String) : (Simple.assign op target value remark).Tame := by
  have hquiet := quiet_append h (op.symbol ++ " " ++ value.print ++ ";" ++ printRemark remark)
  simpa only [Tame, Simple.call?, Simple.print, String.append_assoc] using hquiet

theorem Simple.tame_assign_name {cs : List Char} (h : Settles (String.ofList cs ++ " "))
    (op : AssignOp) (value : Expr) (remark : Option String) :
    (Simple.assign op (.name (String.ofList cs)) value remark).Tame := by
  refine Simple.tame_assign ?_ op value remark
  rw [Expr.print]
  exact h

theorem Simple.tame_declare {type : String} (h : Settles (type ++ " ")) (name : String)
    (value : Option Expr) (remark : Option String) :
    (Simple.declare type name value remark).Tame := by
  cases value with
  | none =>
    have hquiet := quiet_append h (name ++ ";" ++ printRemark remark)
    simpa only [Tame, Simple.call?, Simple.print, String.append_assoc] using hquiet
  | some value =>
    have hquiet := quiet_append h (name ++ " = " ++ value.print ++ ";" ++ printRemark remark)
    simpa only [Tame, Simple.call?, Simple.print, String.append_assoc] using hquiet

theorem Simple.tame_lineComment (text : String) : (Simple.lineComment text).Tame :=
  quiet_append (settles_ofList rfl rfl : Settles "// ") text

theorem Simple.tame_blank : Simple.blank.Tame := quiet_empty

theorem Simple.tame_leave : Simple.leave.Tame := show Quiet "break;" by decide

/-! ## Items -/

variable {layout : Layout}

theorem Item.tame_blank : Item.Tame layout .blank := List.forall_mem_singleton.2 quiet_empty

theorem Item.tame_comment (text : String) : Item.Tame layout (.comment text) := by
  refine List.forall_mem_singleton.2 ?_
  rw [String.append_assoc]
  exact quiet_append (settles_ofList rfl rfl : Settles "/* ") _

theorem Item.tame_banner (texts : List String) : Item.Tame layout (.banner texts) := by
  have hstar : Settles " * " := settles_ofList rfl rfl
  exact Item.forall_lines_banner.2 ⟨by decide, fun text _ => quiet_append hstar text, by decide⟩

theorem quiet_include (target : String) : Quiet ("#include " ++ target) :=
  quiet_append (settles_ofList rfl rfl) target

theorem Item.tame_systemInclude (file : String) : Item.Tame layout (.systemInclude file) := by
  have hline : "#include <" ++ file ++ ">" = "#include " ++ ("<" ++ file ++ ">") := by
    simp [← String.toList_inj]
  refine List.forall_mem_singleton.2 ?_
  rw [hline]
  exact quiet_include _

theorem Item.tame_ownInclude (file : String) : Item.Tame layout (.ownInclude file) := by
  have hline : "#include \"" ++ file ++ "\"" = "#include " ++ ("\"" ++ file ++ "\"") := by
    simp [← String.toList_inj]
  refine List.forall_mem_singleton.2 ?_
  rw [hline]
  exact quiet_include _

theorem Item.tame_object {type : String} (h : Settles (type ++ " ")) (name field : String)
    (value : Expr) : Item.Tame layout (.object type name field value) := by
  have hquiet := quiet_append h (name ++ " = \x7b." ++ field ++ " = " ++ value.print ++ "\x7d;")
  refine List.forall_mem_singleton.2 ?_
  simpa only [String.append_assoc] using hquiet

/-- What is behind the linkage and the result of a function does not matter. -/
theorem headLine_settled {result : String} (h : Settles (result ++ " ")) (linkage : Linkage)
    (name : String) (parameters : List Parameter) :
    ∃ front rest, (Signature.function linkage result name parameters).headLine = front ++ rest ∧
      Settles front := by
  cases linkage with
  | staticInline =>
    refine ⟨"static inline ", result ++ " " ++ name ++ "(" ++ printParameters parameters ++ ")", ?_,
      settles_ofList rfl rfl⟩
    simp [Signature.headLine, String.append_assoc]
  | _ =>
    refine ⟨result ++ " ", name ++ "(" ++ printParameters parameters ++ ")", ?_, h⟩
    simp [Signature.headLine, String.append_assoc]

theorem Item.tame_prototype {result : String} (h : Settles (result ++ " ")) (linkage : Linkage)
    (name : String) (parameters : List Parameter) :
    Item.Tame layout (.prototype (.function linkage result name parameters)) := by
  obtain ⟨front, rest, hline, hsettles⟩ := headLine_settled h linkage name parameters
  refine Item.forall_lines_prototype.2 ⟨quiet_attributeLines _, ?_⟩
  show Quiet (Signature.headLine _ ++ ";")
  rw [hline, String.append_assoc]
  exact quiet_append hsettles _

theorem Item.tame_definition {result : String} (h : Settles (result ++ " ")) (linkage : Linkage)
    (name : String) (parameters : List Parameter) {body : List Statement}
    (hbody : ∀ statement ∈ body, statement.Tame layout) :
    Item.Tame layout (.definition (.function linkage result name parameters) body) := by
  obtain ⟨front, rest, hline, hsettles⟩ := headLine_settled h linkage name parameters
  refine ⟨?_, hbody⟩
  rw [hline]
  exact quiet_append hsettles rest

end FirmwareGen.C
