-- SUMMARY: Listings whose texts are made of a vocabulary.
import FirmwareGen.Proofs.C.OneLine
import FirmwareGen.Proofs.Text.Vocabulary
/-!
# Texts in listings

A listing keeps to a vocabulary if its names, values and block comments are made of the letters of the
vocabulary, and its comments at line ends are remarks of it.
-/

namespace FirmwareGen.C

open Text (Vocabulary)

variable (v : Vocabulary)

mutual

/-- The texts of an expression are made of letters. A slash without blanks around it could begin a
    comment, so it is left out. -/
def Expr.Within : Expr → Prop
  | .name identifier => Text.Within v.letter identifier
  | .literal text => Text.Within v.letter text
  | .call callee arguments => Text.Within v.letter callee ∧ Expr.AllWithin arguments
  | .member object field => object.Within ∧ Text.Within v.letter field
  | .index array _ => array.Within
  | .unary _ operand => operand.Within
  | .binary _ left right => left.Within ∧ right.Within
  | .packed op left right => op ≠ .div ∧ left.Within ∧ right.Within
  | .group inner => inner.Within
  | .choice condition yes no => condition.Within ∧ yes.Within ∧ no.Within

def Expr.AllWithin : List Expr → Prop
  | [] => True
  | argument :: rest => argument.Within ∧ Expr.AllWithin rest

end

def Simple.Within : Simple → Prop
  | .blank => True
  | .lineComment text => v.remark text
  | .comment text => Text.Within v.letter text
  | .declare type name value remark =>
    Text.Within v.letter type ∧ Text.Within v.letter name ∧ (∀ e ∈ value, e.Within v) ∧
      ∀ t ∈ remark, v.remark t
  | .assign _ target value remark =>
    target.Within v ∧ value.Within v ∧ ∀ t ∈ remark, v.remark t
  | .evaluate value => value.Within v
  | .leave => True
  | .result value => value.Within v

def Case.Within (case : Case) : Prop :=
  Text.Within v.letter case.label ∧ ∀ line ∈ case.body, line.Within v

def Statement.Within : Statement → Prop
  | .simple line => line.Within v
  | .branch first further otherwise =>
    (first.1.Within v ∧ first.2.Within v) ∧
      (∀ guarded ∈ further, guarded.1.Within v ∧ guarded.2.Within v) ∧
      ∀ line ∈ otherwise, line.Within v
  | .switch subject cases => subject.Within v ∧ ∀ case ∈ cases, case.Within v

def Parameter.Within (parameter : Parameter) : Prop :=
  Text.Within v.letter parameter.type ∧ Text.Within v.letter parameter.name

def Signature.Within : Signature → Prop
  | .function _ result name parameters =>
    Text.Within v.letter result ∧ Text.Within v.letter name ∧
      ∀ parameter ∈ parameters, parameter.Within v
  | .handler name => Text.Within v.letter name

def Item.Within : Item → Prop
  | .blank => True
  | .comment text => Text.Within v.letter text
  | .lineComment text => v.remark text
  | .banner texts => ∀ text ∈ texts, Text.Within v.letter text
  | .unlessDefined name => Text.Within v.letter name
  | .endGuard name => Text.Within v.letter name
  | .marker name => Text.Within v.letter name
  | .constant name _ value => Text.Within v.letter name ∧ value.Within v
  | .systemInclude file => Text.Within v.letter file
  | .ownInclude file => Text.Within v.letter file
  | .shortEnum enumerators name =>
    (∀ e ∈ enumerators, Text.Within v.letter e) ∧ Text.Within v.letter name
  | .enumeration enumerators name =>
    (∀ e ∈ enumerators, Text.Within v.letter e) ∧ Text.Within v.letter name
  | .structType name members =>
    Text.Within v.letter name ∧
      ∀ m ∈ members, Text.Within v.letter m.type ∧ Text.Within v.letter m.name
  | .declaredObject type name => Text.Within v.letter type ∧ Text.Within v.letter name
  | .object type name field value =>
    Text.Within v.letter type ∧ Text.Within v.letter name ∧ Text.Within v.letter field ∧
      value.Within v
  | .prototype signature => signature.Within v
  | .definition signature body =>
    signature.Within v ∧ ∀ statement ∈ body, statement.Within v

/-! ## Line feeds -/

variable {v}

mutual

theorem Expr.unbroken_of_within : (e : Expr) → e.Within v → e.Unbroken
  | .name identifier, h => by
    rw [Expr.Within] at h
    rw [Expr.Unbroken]
    exact v.oneLine_of_within h
  | .literal text, h => by
    rw [Expr.Within] at h
    rw [Expr.Unbroken]
    exact v.oneLine_of_within h
  | .call callee arguments, h => by
    rw [Expr.Within] at h
    rw [Expr.Unbroken]
    exact ⟨v.oneLine_of_within h.1, Expr.allUnbroken_of_within arguments h.2⟩
  | .member object field, h => by
    rw [Expr.Within] at h
    rw [Expr.Unbroken]
    exact ⟨object.unbroken_of_within h.1, v.oneLine_of_within h.2⟩
  | .index array _, h => by
    rw [Expr.Within] at h
    rw [Expr.Unbroken]
    exact array.unbroken_of_within h
  | .unary _ operand, h => by
    rw [Expr.Within] at h
    rw [Expr.Unbroken]
    exact operand.unbroken_of_within h
  | .binary _ left right, h => by
    rw [Expr.Within] at h
    rw [Expr.Unbroken]
    exact ⟨left.unbroken_of_within h.1, right.unbroken_of_within h.2⟩
  | .packed _ left right, h => by
    rw [Expr.Within] at h
    rw [Expr.Unbroken]
    exact ⟨left.unbroken_of_within h.2.1, right.unbroken_of_within h.2.2⟩
  | .group inner, h => by
    rw [Expr.Within] at h
    rw [Expr.Unbroken]
    exact inner.unbroken_of_within h
  | .choice condition yes no, h => by
    rw [Expr.Within] at h
    rw [Expr.Unbroken]
    exact ⟨condition.unbroken_of_within h.1, yes.unbroken_of_within h.2.1, no.unbroken_of_within h.2.2⟩

theorem Expr.allUnbroken_of_within : (arguments : List Expr) → Expr.AllWithin v arguments →
    Expr.AllUnbroken arguments
  | [], _ => by rw [Expr.AllUnbroken]; trivial
  | argument :: rest, h => by
    rw [Expr.AllWithin] at h
    rw [Expr.AllUnbroken]
    exact ⟨argument.unbroken_of_within h.1, Expr.allUnbroken_of_within rest h.2⟩

end

theorem Simple.unbroken_of_within {line : Simple} (h : line.Within v) : line.Unbroken := by
  cases line with
  | blank => trivial
  | lineComment text => exact v.remark_oneLine text h
  | comment text => exact v.oneLine_of_within h
  | declare type name value remark =>
    obtain ⟨htype, hname, hvalue, hremark⟩ := h
    exact ⟨v.oneLine_of_within htype, v.oneLine_of_within hname,
      fun e he => e.unbroken_of_within (hvalue e he),
      fun t ht => v.remark_oneLine t (hremark t ht)⟩
  | assign op target value remark =>
    exact ⟨target.unbroken_of_within h.1, value.unbroken_of_within h.2.1,
      fun t ht => v.remark_oneLine t (h.2.2 t ht)⟩
  | evaluate value => exact value.unbroken_of_within h
  | leave => trivial
  | result value => exact value.unbroken_of_within h

theorem Statement.unbroken_of_within {statement : Statement} (h : statement.Within v) :
    statement.Unbroken := by
  cases statement with
  | simple line => exact line.unbroken_of_within h
  | branch first further otherwise =>
    obtain ⟨⟨hguard, hfirst⟩, hfurther, hotherwise⟩ := h
    exact ⟨⟨first.1.unbroken_of_within hguard, first.2.unbroken_of_within hfirst⟩,
      fun guarded hmem => ⟨guarded.1.unbroken_of_within (hfurther guarded hmem).1,
        guarded.2.unbroken_of_within (hfurther guarded hmem).2⟩,
      fun line hline => line.unbroken_of_within (hotherwise line hline)⟩
  | switch subject cases =>
    exact ⟨subject.unbroken_of_within h.1, fun case hcase =>
      ⟨v.oneLine_of_within (h.2 case hcase).1, fun line hline =>
        line.unbroken_of_within ((h.2 case hcase).2 line hline)⟩⟩

theorem Signature.unbroken_of_within {signature : Signature} (h : signature.Within v) :
    signature.Unbroken := by
  cases signature with
  | function linkage result name parameters =>
    exact ⟨v.oneLine_of_within h.1, v.oneLine_of_within h.2.1, fun parameter hmem =>
      ⟨v.oneLine_of_within (h.2.2 parameter hmem).1, v.oneLine_of_within (h.2.2 parameter hmem).2⟩⟩
  | handler name => exact v.oneLine_of_within h

theorem Item.unbroken_of_within {item : Item} (h : item.Within v) : item.Unbroken := by
  cases item with
  | blank => trivial
  | lineComment text => exact v.remark_oneLine text h
  | comment | unlessDefined | endGuard | marker | systemInclude | ownInclude =>
    exact v.oneLine_of_within h
  | banner texts => exact fun text htext => v.oneLine_of_within (h text htext)
  | constant name gap value => exact ⟨v.oneLine_of_within h.1, value.unbroken_of_within h.2⟩
  | shortEnum enumerators name | enumeration enumerators name =>
    exact ⟨fun e he => v.oneLine_of_within (h.1 e he), v.oneLine_of_within h.2⟩
  | structType name members =>
    exact ⟨v.oneLine_of_within h.1, fun m hm =>
      ⟨v.oneLine_of_within (h.2 m hm).1, v.oneLine_of_within (h.2 m hm).2⟩⟩
  | declaredObject type name => exact ⟨v.oneLine_of_within h.1, v.oneLine_of_within h.2⟩
  | object type name field value =>
    exact ⟨v.oneLine_of_within h.1, v.oneLine_of_within h.2.1, v.oneLine_of_within h.2.2.1,
      value.unbroken_of_within h.2.2.2⟩
  | prototype signature => exact signature.unbroken_of_within h
  | definition signature body =>
    exact ⟨signature.unbroken_of_within h.1, fun statement hmem =>
      statement.unbroken_of_within (h.2 statement hmem)⟩

end FirmwareGen.C
