-- SUMMARY: The functions that a listing declares, defines and calls.
import FirmwareGen.Proofs.C.Blocks
/-!
# Declared, defined and called functions

What a linker has to find: the functions that a listing calls, inside of arguments too, against those
that it defines.
-/

namespace FirmwareGen.C

/-! ## Calls -/

mutual

/-- The functions that an expression calls. -/
def Expr.callees : Expr → List String
  | .name _ => []
  | .literal _ => []
  | .call callee arguments => callee :: Expr.listCallees arguments
  | .member object _ => object.callees
  | .index array _ => array.callees
  | .unary _ operand => operand.callees
  | .binary _ left right => left.callees ++ right.callees
  | .packed _ left right => left.callees ++ right.callees
  | .group inner => inner.callees
  | .choice condition yes no => condition.callees ++ yes.callees ++ no.callees

def Expr.listCallees : List Expr → List String
  | [] => []
  | argument :: rest => argument.callees ++ Expr.listCallees rest

end

def Simple.callees : Simple → List String
  | .blank => []
  | .lineComment _ => []
  | .comment _ => []
  | .declare _ _ none _ => []
  | .declare _ _ (some value) _ => value.callees
  | .assign _ target value _ => target.callees ++ value.callees
  | .evaluate value => value.callees
  | .leave => []
  | .result value => value.callees

@[simp] theorem Simple.callees_declare (type name : String) (remark : Option String) :
    (Simple.declare type name none remark).callees = [] := rfl

@[simp] theorem Simple.callees_declare_some (type name : String) (value : Expr)
    (remark : Option String) : (Simple.declare type name (some value) remark).callees = value.callees :=
  rfl

@[simp] theorem Simple.callees_assign (op : AssignOp) (target value : Expr) (remark : Option String) :
    (Simple.assign op target value remark).callees = target.callees ++ value.callees := rfl

@[simp] theorem Simple.callees_leave : Simple.leave.callees = [] := rfl

def Case.callees (case : Case) : List String := case.body.flatMap Simple.callees

def Statement.callees : Statement → List String
  | .simple line => line.callees
  | .branch first further otherwise =>
    first.1.callees ++ first.2.callees ++
      further.flatMap (fun guarded => guarded.1.callees ++ guarded.2.callees) ++
      (otherwise.map Simple.callees).getD []
  | .switch subject cases => subject.callees ++ cases.flatMap Case.callees

@[simp] theorem Statement.callees_simple (line : Simple) :
    (Statement.simple line).callees = line.callees := rfl

@[simp] theorem Statement.callees_branch (first : Expr × Simple) (further : List (Expr × Simple))
    (otherwise : Option Simple) :
    (Statement.branch first further otherwise).callees =
      first.1.callees ++ first.2.callees ++
        further.flatMap (fun guarded => guarded.1.callees ++ guarded.2.callees) ++
        (otherwise.map Simple.callees).getD [] := rfl

@[simp] theorem Statement.callees_switch (subject : Expr) (cases : List Case) :
    (Statement.switch subject cases).callees = subject.callees ++ cases.flatMap Case.callees := rfl

/-- The functions that a body calls. -/
def bodyCallees (body : List Statement) : List String := body.flatMap Statement.callees

@[simp] theorem bodyCallees_append (xs ys : List Statement) :
    bodyCallees (xs ++ ys) = bodyCallees xs ++ bodyCallees ys := List.flatMap_append

@[simp] theorem bodyCallees_cons (statement : Statement) (body : List Statement) :
    bodyCallees (statement :: body) = statement.callees ++ bodyCallees body := List.flatMap_cons

@[simp] theorem bodyCallees_nil : bodyCallees [] = [] := rfl

/-- The functions that an item calls; the values of macros and objects count as well as bodies. -/
def Item.callees : Item → List String
  | .constant _ _ value => value.callees
  | .object _ _ _ value => value.callees
  | .definition _ body => bodyCallees body
  | _ => []

def Listing.callees (listing : Listing) : List String := listing.flatMap Item.callees

@[simp] theorem callees_append (xs ys : Listing) :
    Listing.callees (xs ++ ys) = Listing.callees xs ++ Listing.callees ys := List.flatMap_append

@[simp] theorem callees_cons (item : Item) (listing : Listing) :
    Listing.callees (item :: listing) = item.callees ++ Listing.callees listing := List.flatMap_cons

@[simp] theorem callees_nil : Listing.callees [] = [] := rfl

theorem callees_flatMap {α : Type} (elements : List α) (f : α → Listing) :
    Listing.callees (elements.flatMap f) = elements.flatMap fun element => Listing.callees (f element) :=
  List.flatMap_assoc

/-! ## Declarations and definitions -/

def Item.prototype? : Item → Option Signature
  | .prototype signature => some signature
  | _ => none

/-- The functions that a listing declares. -/
def declaredFunctions (listing : Listing) : List Signature := listing.filterMap Item.prototype?

/-- The functions that a listing defines. -/
def definedFunctions (listing : Listing) : List Signature := (definitions listing).map Prod.fst

theorem declaredFunctions_append (xs ys : Listing) :
    declaredFunctions (xs ++ ys) = declaredFunctions xs ++ declaredFunctions ys := List.filterMap_append

theorem declaredFunctions_flatMap {α : Type} (elements : List α) (f : α → Listing) :
    declaredFunctions (elements.flatMap f) = elements.flatMap fun element => declaredFunctions (f element) :=
  List.filterMap_flatMap

theorem definedFunctions_append (xs ys : Listing) :
    definedFunctions (xs ++ ys) = definedFunctions xs ++ definedFunctions ys := by
  rw [definedFunctions, definitions_append, List.map_append]
  rfl

theorem definedFunctions_flatMap {α : Type} (elements : List α) (f : α → Listing) :
    definedFunctions (elements.flatMap f) =
      elements.flatMap fun element => definedFunctions (f element) := by
  rw [definedFunctions, definitions, List.filterMap_flatMap, List.map_flatMap]
  rfl

end FirmwareGen.C
