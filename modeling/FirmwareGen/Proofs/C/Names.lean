-- SUMMARY: The identifiers of C, and the names that a listing has.
import FirmwareGen.C.Syntax
import Mathlib.Tactic.Common
/-!
# Names in listings

An identifier is a word of letters, digits and underscores that begins with no digit, except for the
words that C reserves. Names in a listing are put together from parts. What they are depends on the
parts in two ways only: on a capital at the beginning, or on an ending that no reserved word has.
-/

namespace FirmwareGen.C

/-! ## Identifiers -/

def isWordStart (c : Char) : Bool := c.isAlpha || c == '_'

def isWordChar (c : Char) : Bool := c.isAlphanum || c == '_'

/-- The keywords of C11, letter by letter. -/
def reservedWords : List (List Char) :=
  [['a', 'u', 't', 'o'], ['b', 'r', 'e', 'a', 'k'], ['c', 'a', 's', 'e'], ['c', 'h', 'a', 'r'],
   ['c', 'o', 'n', 's', 't'], ['c', 'o', 'n', 't', 'i', 'n', 'u', 'e'],
   ['d', 'e', 'f', 'a', 'u', 'l', 't'], ['d', 'o'], ['d', 'o', 'u', 'b', 'l', 'e'],
   ['e', 'l', 's', 'e'], ['e', 'n', 'u', 'm'], ['e', 'x', 't', 'e', 'r', 'n'],
   ['f', 'l', 'o', 'a', 't'], ['f', 'o', 'r'], ['g', 'o', 't', 'o'], ['i', 'f'],
   ['i', 'n', 'l', 'i', 'n', 'e'], ['i', 'n', 't'], ['l', 'o', 'n', 'g'],
   ['r', 'e', 'g', 'i', 's', 't', 'e', 'r'], ['r', 'e', 's', 't', 'r', 'i', 'c', 't'],
   ['r', 'e', 't', 'u', 'r', 'n'], ['s', 'h', 'o', 'r', 't'], ['s', 'i', 'g', 'n', 'e', 'd'],
   ['s', 'i', 'z', 'e', 'o', 'f'], ['s', 't', 'a', 't', 'i', 'c'], ['s', 't', 'r', 'u', 'c', 't'],
   ['s', 'w', 'i', 't', 'c', 'h'], ['t', 'y', 'p', 'e', 'd', 'e', 'f'], ['u', 'n', 'i', 'o', 'n'],
   ['u', 'n', 's', 'i', 'g', 'n', 'e', 'd'], ['v', 'o', 'i', 'd'],
   ['v', 'o', 'l', 'a', 't', 'i', 'l', 'e'], ['w', 'h', 'i', 'l', 'e'],
   ['_', 'A', 'l', 'i', 'g', 'n', 'a', 's'], ['_', 'A', 'l', 'i', 'g', 'n', 'o', 'f'],
   ['_', 'A', 't', 'o', 'm', 'i', 'c'], ['_', 'B', 'o', 'o', 'l'],
   ['_', 'C', 'o', 'm', 'p', 'l', 'e', 'x'], ['_', 'G', 'e', 'n', 'e', 'r', 'i', 'c'],
   ['_', 'I', 'm', 'a', 'g', 'i', 'n', 'a', 'r', 'y'],
   ['_', 'N', 'o', 'r', 'e', 't', 'u', 'r', 'n'],
   ['_', 'S', 't', 'a', 't', 'i', 'c', '_', 'a', 's', 's', 'e', 'r', 't'],
   ['_', 'T', 'h', 'r', 'e', 'a', 'd', '_', 'l', 'o', 'c', 'a', 'l']]

/-- A text of letters, digits and underscores that begins with no digit; it may be empty. -/
structure IsStem (text : String) : Prop where
  start : ∀ c ∈ text.toList.head?, isWordStart c = true
  chars : ∀ c ∈ text.toList, isWordChar c = true

/-- A text that is an identifier of C. -/
structure IsIdentifier (text : String) : Prop where
  stem : IsStem text
  nonempty : text ≠ ""
  free : text.toList ∉ reservedWords

/-- The lemmas on `String.ofList` are for literals, which are lists of characters without being
    unfolded. -/
theorem isStem_ofList {cs : List Char} (hstart : cs.head?.all isWordStart = true)
    (hchars : cs.all isWordChar = true) : IsStem (String.ofList cs) := by
  rw [Option.all_eq_true] at hstart
  rw [List.all_eq_true] at hchars
  constructor
  · rw [String.toList_ofList]
    exact hstart
  · rw [String.toList_ofList]
    exact hchars

theorem isIdentifier_ofList {cs : List Char} (hstart : cs.head?.any isWordStart = true)
    (hchars : cs.all isWordChar = true) (hfree : reservedWords.contains cs = false) :
    IsIdentifier (String.ofList cs) := by
  cases cs with
  | nil => cases hstart
  | cons c cs =>
    refine ⟨isStem_ofList hstart hchars, ?_, ?_⟩
    · simp
    · rw [String.toList_ofList]
      simpa using hfree

theorem IsStem.append {stem text : String} (h : IsStem stem) (htext : IsStem text) :
    IsStem (stem ++ text) := by
  constructor
  · intro c hc
    rw [String.toList_append, List.head?_append] at hc
    cases hhead : stem.toList.head? with
    | none =>
      rw [hhead] at hc
      exact htext.start c hc
    | some d =>
      rw [hhead] at hc
      exact h.start c (by rw [hhead]; exact hc)
  · intro c hc
    rw [String.toList_append, List.mem_append] at hc
    exact hc.elim (h.chars c) (htext.chars c)

/-! ### Endings -/

/-- An ending that makes an identifier of every stem, as no reserved word ends with it. It is a stem
    itself, since what stands in front of it may be empty. -/
structure IsEnding (ending : String) : Prop where
  stem : IsStem ending
  nonempty : ending ≠ ""
  free : ∀ word ∈ reservedWords, ¬ ending.toList <:+ word

theorem isEnding_ofList {cs : List Char} (hstart : cs.head?.any isWordStart = true)
    (hchars : cs.all isWordChar = true) (hfree : reservedWords.any cs.isSuffixOf = false) :
    IsEnding (String.ofList cs) := by
  cases cs with
  | nil => cases hstart
  | cons c cs =>
    refine ⟨isStem_ofList hstart hchars, ?_, fun word hword hsuffix => ?_⟩
    · simp
    · rw [List.any_eq_false] at hfree
      rw [String.toList_ofList] at hsuffix
      exact hfree word hword (List.isSuffixOf_iff_suffix.2 hsuffix)

theorem IsStem.isIdentifier_append {stem ending : String} (h : IsStem stem)
    (hending : IsEnding ending) : IsIdentifier (stem ++ ending) := by
  refine ⟨h.append hending.stem, ?_, fun hmem => hending.free _ hmem ?_⟩
  · intro hempty
    exact hending.nonempty (String.append_eq_empty_iff.1 hempty).2
  · rw [String.toList_append]
    exact List.suffix_append _ _

/-! ### Capitals -/

/-- A stem that begins with a capital, as no reserved word does. -/
structure IsCapitalStem (text : String) : Prop where
  stem : IsStem text
  capital : ∃ c, text.toList.head? = some c ∧ c.isUpper = true

theorem IsCapitalStem.isIdentifier_append {stem text : String} (h : IsCapitalStem stem)
    (htext : ∀ c ∈ text.toList, isWordChar c = true) : IsIdentifier (stem ++ text) := by
  have hreserved : ∀ word ∈ reservedWords, word.head?.any Char.isUpper = false := by decide
  obtain ⟨hstem, c, hhead, hcapital⟩ := h
  have hfirst : (stem ++ text).toList.head? = some c := by
    rw [String.toList_append, List.head?_append, hhead, Option.some_or]
  refine ⟨⟨fun d hd => ?_, fun d hd => ?_⟩, ?_, fun hmem => ?_⟩
  · rw [hfirst] at hd
    exact hstem.start d (hhead.trans hd)
  · rw [String.toList_append, List.mem_append] at hd
    exact hd.elim (hstem.chars d) (htext d)
  · intro hempty
    rw [hempty] at hfirst
    cases hfirst
  · have hsmall := hreserved _ hmem
    rw [hfirst, Option.any_some, hcapital] at hsmall
    cases hsmall

/-! ## Names -/

/-- The types of C itself that listings use. -/
def builtinTypes : List String := ["void", "float"]

/-- The name of a type, unless it is one of C itself. -/
def typeNames (type : String) : List String := if type ∈ builtinTypes then [] else [type]

mutual

def Expr.names : Expr → List String
  | .name identifier => [identifier]
  | .literal _ => []
  | .call callee arguments => callee :: Expr.listNames arguments
  | .member object field => object.names ++ [field]
  | .index array _ => array.names
  | .unary _ operand => operand.names
  | .binary _ left right => left.names ++ right.names
  | .packed _ left right => left.names ++ right.names
  | .group inner => inner.names
  | .choice condition yes no => condition.names ++ yes.names ++ no.names

def Expr.listNames : List Expr → List String
  | [] => []
  | argument :: rest => argument.names ++ Expr.listNames rest

end

def Simple.names : Simple → List String
  | .blank => []
  | .lineComment _ => []
  | .comment _ => []
  | .declare type name none _ => typeNames type ++ [name]
  | .declare type name (some value) _ => typeNames type ++ name :: value.names
  | .assign _ target value _ => target.names ++ value.names
  | .evaluate value => value.names
  | .leave => []
  | .result value => value.names

@[simp] theorem Simple.names_declare (type name : String) (remark : Option String) :
    (Simple.declare type name none remark).names = typeNames type ++ [name] := rfl

@[simp] theorem Simple.names_declare_some (type name : String) (value : Expr)
    (remark : Option String) :
    (Simple.declare type name (some value) remark).names =
      typeNames type ++ name :: value.names := rfl

@[simp] theorem Simple.names_assign (op : AssignOp) (target value : Expr) (remark : Option String) :
    (Simple.assign op target value remark).names = target.names ++ value.names := rfl

@[simp] theorem Simple.names_evaluate (value : Expr) :
    (Simple.evaluate value).names = value.names := rfl

@[simp] theorem Simple.names_leave : Simple.leave.names = [] := rfl

def Case.names (case : Case) : List String := case.label :: case.body.flatMap Simple.names

def Statement.names : Statement → List String
  | .simple line => line.names
  | .branch first further otherwise =>
    first.1.names ++ first.2.names ++
      further.flatMap (fun guarded => guarded.1.names ++ guarded.2.names) ++
      (otherwise.map Simple.names).getD []
  | .switch subject cases => subject.names ++ cases.flatMap Case.names

@[simp] theorem Statement.names_simple (line : Simple) :
    (Statement.simple line).names = line.names := rfl

@[simp] theorem Statement.names_branch (first : Expr × Simple) (further : List (Expr × Simple))
    (otherwise : Option Simple) :
    (Statement.branch first further otherwise).names =
      first.1.names ++ first.2.names ++
        further.flatMap (fun guarded => guarded.1.names ++ guarded.2.names) ++
        (otherwise.map Simple.names).getD [] := rfl

@[simp] theorem Statement.names_switch (subject : Expr) (cases : List Case) :
    (Statement.switch subject cases).names = subject.names ++ cases.flatMap Case.names := rfl

def Parameter.names (parameter : Parameter) : List String :=
  typeNames parameter.type ++ [parameter.name]

def Signature.names : Signature → List String
  | .function _ result name parameters =>
    typeNames result ++ name :: parameters.flatMap Parameter.names
  | .handler name => [name]

def Member.names (member : Member) : List String := typeNames member.type ++ [member.name]

/-- The names in an item; comments and files to include have none. -/
def Item.names : Item → List String
  | .blank => []
  | .comment _ => []
  | .lineComment _ => []
  | .banner _ => []
  | .unlessDefined name => [name]
  | .endGuard _ => []
  | .marker name => [name]
  | .constant name _ value => name :: value.names
  | .systemInclude _ => []
  | .ownInclude _ => []
  | .shortEnum enumerators name => enumerators ++ [name]
  | .enumeration enumerators name => enumerators ++ [name]
  | .structType name members => name :: members.flatMap Member.names
  | .declaredObject type name => typeNames type ++ [name]
  | .object type name field value => typeNames type ++ name :: field :: value.names
  | .prototype signature => signature.names
  | .definition signature body => signature.names ++ body.flatMap Statement.names

/-- The names in a listing, as often as they occur. -/
def Listing.names (listing : Listing) : List String := listing.flatMap Item.names

theorem forall_mem_typeNames {p : String → Prop} {type : String} :
    (∀ x ∈ typeNames type, p x) ↔ type ∈ builtinTypes ∨ p type := by
  unfold typeNames
  split <;> simp [*]

/-- The fixed types of listings. -/
theorem typeNames_fixed :
    typeNames "void" = [] ∧ typeNames "float" = [] ∧ typeNames "bool" = ["bool"] ∧
      typeNames "uint8_t" = ["uint8_t"] ∧ typeNames "uint16_t" = ["uint16_t"] ∧
      typeNames "uint32_t" = ["uint32_t"] ∧ typeNames "int32_t" = ["int32_t"] ∧
      typeNames "modulator_phase_t" = ["modulator_phase_t"] := by
  decide

end FirmwareGen.C
