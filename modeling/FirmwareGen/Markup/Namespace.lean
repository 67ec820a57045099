-- SUMMARY: Declarations of namespaces and their scopes.
import FirmwareGen.Markup.Attribute
/-!
# Namespaces

An attribute `xmlns` or `xmlns:p` binds the default namespace or the prefix `p` within its element.
The prefixes `xml` and `xmlns` are bound from the start and cannot be bound otherwise, and no prefix
can be bound to their namespaces. Binding to the empty text undoes a binding.
-/

namespace FirmwareGen.Markup

def xmlUri : List Char := "http://www.w3.org/XML/1998/namespace".toList

def xmlnsUri : List Char := "http://www.w3.org/2000/xmlns/".toList

inductive NamespaceError
  /-- The prefix `xml` bound to another namespace than its own. -/
  | xmlRebound (uri : List Char)
  | xmlnsBound (uri : List Char)
  /-- A prefix bound to one of the two reserved namespaces. -/
  | reserved (name uri : List Char)
  deriving DecidableEq, Repr

/-- A byte of a quoted text: printable ASCII as it is, else its number. -/
def quoteByte (byte : UInt8) : List Char :=
  if byte = 34 then ['\\', '"']
  else if 32 ≤ byte ∧ byte ≤ 126 then [Char.ofNat byte.toNat]
  else '0' :: 'x' :: (Nat.toDigits 16 byte.toNat).map Char.toUpper

/-- A text in quotes, byte by byte. -/
def quoteBytes (text : List Char) : String :=
  String.ofList ('"' :: (String.ofList text).toUTF8.toList.flatMap quoteByte ++ ['"'])

def NamespaceError.message : NamespaceError → String
  | .xmlRebound uri => "the namespace prefix 'xml' cannot be bound to '" ++ quoteBytes uri ++ "'"
  | .xmlnsBound uri => "the namespace prefix 'xmlns' cannot be bound to '" ++ quoteBytes uri ++ "'"
  | .reserved name uri =>
    "the namespace prefix '" ++ quoteBytes name ++ "' cannot be bound to '" ++
      String.ofList uri ++ "'"

/-! ## Scopes -/

/-- The bindings in force, the innermost first. The empty prefix stands for the default
    namespace. -/
abbrev Scope := List (List Char × List Char)

def Scope.initial : Scope := [("xml".toList, xmlUri), ("xmlns".toList, xmlnsUri)]

/-- What an attribute binds if it is a namespace declaration. -/
inductive Declaration
  | default
  | named (name : List Char)
  deriving DecidableEq, Repr

def Declaration.ofKey? (key : List Char) : Option Declaration :=
  match key with
  | 'x' :: 'm' :: 'l' :: 'n' :: 's' :: [] => some .default
  | 'x' :: 'm' :: 'l' :: 'n' :: 's' :: ':' :: name => some (.named name)
  | _ => none

/-- Makes a declaration. Only named ones are kept from the reserved prefixes and namespaces. -/
def Scope.bind (scope : Scope) (declaration : Declaration) (uri : List Char) :
    Except NamespaceError Scope :=
  match declaration with
  | .default => .ok (([], uri) :: scope)
  | .named name =>
    if name = "xml".toList then
      if uri = xmlUri then .ok scope else .error (.xmlRebound uri)
    else if name = "xmlns".toList then .error (.xmlnsBound uri)
    else if uri = xmlUri ∨ uri = xmlnsUri then .error (.reserved name uri)
    else .ok ((name, uri) :: scope)

/-- The scope inside an element: the declarations among its attributes are made in order, up to
    the first attribute that cannot be read. -/
def Scope.extend (scope : Scope) : List RawAttribute → Except NamespaceError Scope
  | [] => .ok scope
  | raw :: rest =>
    match raw.value with
    | .error _ => .ok scope
    | .ok uri =>
      match Declaration.ofKey? raw.key with
      | none => scope.extend rest
      | some declaration =>
        match scope.bind declaration uri with
        | .error e => .error e
        | .ok scope => scope.extend rest

/-! ## Names -/

/-- What the prefix of a name stands for. -/
inductive Resolution
  | bound (uri : String)
  /-- No prefix, and no default namespace. -/
  | unbound
  | undeclared (name : String)
  deriving DecidableEq, Repr

/-- Splits a qualified name at its first colon. -/
def splitName (name : List Char) : Option (List Char) × List Char :=
  match name.dropWhile (· != ':') with
  | [] => (none, name)
  | _ :: localName => (some (name.takeWhile (· != ':')), localName)

/-- The namespace of an element name with this prefix. -/
def Scope.resolve (scope : Scope) : Option (List Char) → Resolution
  | none =>
    match scope.lookup [] with
    | none => .unbound
    | some [] => .unbound
    | some uri => .bound (String.ofList uri)
  | some [] => .undeclared ""
  | some name =>
    match scope.lookup name with
    | none => .undeclared (String.ofList name)
    | some [] => .undeclared (String.ofList name)
    | some uri => .bound (String.ofList uri)

end FirmwareGen.Markup
