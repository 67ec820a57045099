-- SUMMARY: The layout of C on the page, as a sequence of pieces and as a text.
import FirmwareGen.C.Syntax
/-!
# Writing C

Every item is written as whole lines; blocks are indented by four blanks a level. Listings of
different families differ in two points of layout, which a `Layout` gives.
-/

namespace FirmwareGen.C

structure Layout where
  /-- Whether a blank stands between `if` or `switch` and its parenthesis. -/
  spacedKeywords : Bool
  /-- Whether the end of a guard names it in a block comment; otherwise in a line comment. -/
  blockRemarks : Bool

/-! ## Expressions -/

def UnaryOp.symbol : UnaryOp → String
  | .addressOf => "&"
  | .complement => "~"

def BinaryOp.symbol : BinaryOp → String
  | .add => "+"
  | .sub => "-"
  | .mul => "*"
  | .div => "/"
  | .shiftLeft => "<<"
  | .bitAnd => "&"
  | .less => "<"
  | .greater => ">"

mutual

def Expr.print : Expr → String
  | .name identifier => identifier
  | .literal text => text
  | .call callee arguments => callee ++ "(" ++ Expr.printList arguments ++ ")"
  | .member object field => object.print ++ "." ++ field
  | .index array position => array.print ++ "[" ++ toString position ++ "]"
  | .unary op operand => op.symbol ++ operand.print
  | .binary op left right => left.print ++ " " ++ op.symbol ++ " " ++ right.print
  | .packed op left right => left.print ++ op.symbol ++ right.print
  | .group inner => "(" ++ inner.print ++ ")"
  | .choice condition yes no => condition.print ++ " ? " ++ yes.print ++ " : " ++ no.print

/-- Arguments of a call. -/
def Expr.printList : List Expr → String
  | [] => ""
  | [argument] => argument.print
  | argument :: rest => argument.print ++ ", " ++ Expr.printList rest

end

/-! ## Statements -/

def AssignOp.symbol : AssignOp → String
  | .set => "="
  | .bitOr => "|="
  | .bitAnd => "&="

def printRemark : Option String → String
  | none => ""
  | some text => " // " ++ text

/-- A line of a body, without its indentation. -/
def Simple.print : Simple → String
  | .blank => ""
  | .lineComment text => "// " ++ text
  | .comment text => "/* " ++ text ++ " */"
  | .declare type name none remark => type ++ " " ++ name ++ ";" ++ printRemark remark
  | .declare type name (some value) remark =>
    type ++ " " ++ name ++ " = " ++ value.print ++ ";" ++ printRemark remark
  | .assign op target value remark =>
    target.print ++ " " ++ op.symbol ++ " " ++ value.print ++ ";" ++ printRemark remark
  | .evaluate value => value.print ++ ";"
  | .leave => "break;"
  | .result value => "return " ++ value.print ++ ";"

/-- The indentation of a level. -/
def indent : Nat → String
  | 0 => ""
  | level + 1 => "    " ++ indent level

/-- A line of a body at a level; a blank line has no indentation. -/
def Simple.line (level : Nat) : Simple → String
  | .blank => ""
  | line => indent level ++ line.print

/-- A keyword and what stands in parentheses behind it. -/
def Layout.keyword (layout : Layout) (word : String) (subject : Expr) : String :=
  word ++ (if layout.spacedKeywords then " (" else "(") ++ subject.print ++ ")"

def Case.lines (case : Case) : List String :=
  (indent 2 ++ "case " ++ case.label ++ ":") :: case.body.map (Simple.line 3)

/-- The lines of a statement in a function body. -/
def Statement.lines (layout : Layout) : Statement → List String
  | .simple line => [line.line 1]
  | .branch first further otherwise =>
    [indent 1 ++ layout.keyword "if" first.1, first.2.line 2] ++
    further.flatMap (fun guarded =>
      [indent 1 ++ layout.keyword "else if" guarded.1, guarded.2.line 2]) ++
    match otherwise with
    | none => []
    | some line => [indent 1 ++ "else", line.line 2]
  | .switch subject cases =>
    [indent 1 ++ layout.keyword "switch" subject, indent 1 ++ "\x7b"] ++
    cases.flatMap Case.lines ++ [indent 1 ++ "\x7d"]

/-! ## Items -/

/-- The attributes of an interrupt service routine that runs from RAM. -/
def interruptAttributes : String :=
  "__attribute__ ((interrupt (\"IRQ\"))) __attribute__ ((section (\".sram\")))"

def Parameter.print (parameter : Parameter) : String := parameter.type ++ " " ++ parameter.name

def printParameters (parameters : List Parameter) : String :=
  match parameters with
  | [] => "void"
  | _ => ", ".intercalate (parameters.map Parameter.print)

/-- The lines in front of the line that names the function. -/
def Signature.attributeLines : Signature → List String
  | .function .interrupt _ _ _ => [interruptAttributes]
  | _ => []

/-- The line that names a function, in its definition. -/
def Signature.headLine : Signature → String
  | .function linkage result name parameters =>
    (if linkage = .staticInline then "static inline " else "") ++ result ++ " " ++ name ++
      "(" ++ printParameters parameters ++ ")"
  | .handler name => "CY_ISR(" ++ name ++ ")"

/-- The line that names a function, in its prototype. -/
def Signature.prototypeLine : Signature → String
  | .handler name => "CY_ISR_PROTO(" ++ name ++ ");"
  | signature => signature.headLine ++ ";"

def Member.line (member : Member) : String :=
  indent 1 ++ member.type ++ " " ++ member.name ++
    (match member.length with
     | none => ""
     | some length => "[" ++ toString length ++ "]") ++ ";"

/-- Enumerators, one a line, with commas between them. -/
def enumeratorLines : List String → List String
  | [] => []
  | [last] => [indent 1 ++ last]
  | enumerator :: rest => (indent 1 ++ enumerator ++ ",") :: enumeratorLines rest

/-- The lines of an item. -/
def Item.lines (layout : Layout) : Item → List String
  | .blank => [""]
  | .comment text => ["/* " ++ text ++ " */"]
  | .lineComment text => ["// " ++ text]
  | .banner texts => ["/*"] ++ texts.map (" * " ++ ·) ++ [" */"]
  | .unlessDefined name => ["#ifndef " ++ name]
  | .endGuard name =>
    [if layout.blockRemarks then "#endif /* " ++ name ++ " */" else "#endif // " ++ name]
  | .marker name => ["#define " ++ name]
  | .constant name gap value =>
    ["#define " ++ name ++ String.ofList (List.replicate gap ' ') ++ value.print]
  | .systemInclude file => ["#include <" ++ file ++ ">"]
  | .ownInclude file => ["#include \"" ++ file ++ "\""]
  | .shortEnum enumerators name =>
    ["typedef enum \x7b" ++ ", ".intercalate enumerators ++ "\x7d " ++ name ++ ";"]
  | .enumeration enumerators name =>
    ["typedef enum \x7b"] ++ enumeratorLines enumerators ++ ["\x7d " ++ name ++ ";"]
  | .structType name members =>
    ["typedef struct " ++ name, "\x7b"] ++ members.map Member.line ++ ["\x7d " ++ name ++ ";"]
  | .declaredObject type name => ["extern " ++ type ++ " " ++ name ++ ";"]
  | .object type name field value =>
    [type ++ " " ++ name ++ " = \x7b." ++ field ++ " = " ++ value.print ++ "\x7d;"]
  | .prototype signature => signature.attributeLines ++ [signature.prototypeLine]
  | .definition signature body =>
    signature.attributeLines ++ [signature.headLine, "\x7b"] ++
    body.flatMap (Statement.lines layout) ++ ["\x7d"]

/-- The lines of a listing. -/
def Listing.lines (layout : Layout) (listing : Listing) : List String :=
  listing.flatMap (Item.lines layout)

/-- The pieces in which a listing is written: its lines, each with its line end. -/
def Listing.pieces (layout : Layout) (listing : Listing) : List String :=
  (Listing.lines layout listing).map (· ++ "\n")

/-- The text of a listing. -/
def Listing.text (layout : Layout) (listing : Listing) : String :=
  String.join (Listing.pieces layout listing)

end FirmwareGen.C
