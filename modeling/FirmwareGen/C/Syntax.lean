-- SUMMARY: The part of C that generated files are made of.
/-!
# C listings

The part of C that generated files are made of. A listing is a list of items: comments, directives,
types, objects, prototypes and function definitions. Function bodies are flat: no statement nests
deeper than a branch or a case, so views of a body are maps over lists.

Identifiers and literals are texts and are emitted as they are.
-/

namespace FirmwareGen.C

/-! ## Expressions -/

inductive UnaryOp
  | addressOf | complement
  deriving DecidableEq, Repr

inductive BinaryOp
  | add | sub | mul | div | shiftLeft | bitAnd | less | greater
  deriving DecidableEq, Repr

inductive Expr where
  | name (identifier : String)
  | literal (text : String)
  | call (callee : String) (arguments : List Expr)
  | member (object : Expr) (field : String)
  | index (array : Expr) (position : Nat)
  | unary (op : UnaryOp) (operand : Expr)
  | binary (op : BinaryOp) (left right : Expr)
  /-- A binary expression without blanks around the operator. -/
  | packed (op : BinaryOp) (left right : Expr)
  /-- An expression in parentheses. -/
  | group (inner : Expr)
  | choice (condition yes no : Expr)

/-! ## Statements -/

inductive AssignOp
  | set | bitOr | bitAnd
  deriving DecidableEq, Repr

/-- A line of a function body. A remark is a comment behind the statement. -/
inductive Simple
  | blank
  | lineComment (text : String)
  | comment (text : String)
  | declare (type name : String) (value : Option Expr) (remark : Option String)
  | assign (op : AssignOp) (target value : Expr) (remark : Option String)
  | evaluate (value : Expr)
  | leave
  | result (value : Expr)

structure Case where
  label : String
  body : List Simple

inductive Statement
  | simple (line : Simple)
  /-- Guarded lines, tried in turn, and the line for when no guard holds. -/
  | branch (first : Expr × Simple) (further : List (Expr × Simple)) (otherwise : Option Simple)
  | switch (subject : Expr) (cases : List Case)

/-! ## Items -/

structure Parameter where
  type : String
  name : String
  deriving DecidableEq, Repr

/-- How a function is declared. -/
inductive Linkage
  | plain
  | staticInline
  /-- With the attributes of an interrupt service routine, on a line of their own. -/
  | interrupt
  deriving DecidableEq, Repr

inductive Signature
  | function (linkage : Linkage) (result name : String) (parameters : List Parameter)
  /-- An interrupt service routine in the macro notation of the board support package. -/
  | handler (name : String)
  deriving DecidableEq, Repr

def Signature.name : Signature → String
  | .function _ _ name _ => name
  | .handler name => name

/-- A member of a structure; an array if it has a length. -/
structure Member where
  type : String
  name : String
  length : Option Nat := none
  deriving DecidableEq, Repr

inductive Item
  | blank
  | comment (text : String)
  | lineComment (text : String)
  /-- A comment over several lines. -/
  | banner (lines : List String)
  | unlessDefined (name : String)
  /-- The end of the part that a guard opens. -/
  | endGuard (name : String)
  /-- A macro without a value. -/
  | marker (name : String)
  /-- A macro with a value, which stands `gap` blanks behind the name. -/
  | constant (name : String) (gap : Nat) (value : Expr)
  | systemInclude (file : String)
  | ownInclude (file : String)
  /-- An enumeration on one line. -/
  | shortEnum (enumerators : List String) (name : String)
  | enumeration (enumerators : List String) (name : String)
  | structType (name : String) (members : List Member)
  /-- A declaration of an object that is defined elsewhere. -/
  | declaredObject (type name : String)
  /-- An object with an initial value for one of its members. -/
  | object (type name field : String) (value : Expr)
  | prototype (signature : Signature)
  | definition (signature : Signature) (body : List Statement)

/-- What is written into one file. -/
abbrev Listing := List Item

end FirmwareGen.C
