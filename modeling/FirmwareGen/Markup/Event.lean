-- SUMMARY: From pieces of text to events, with names resolved in their namespaces.
import FirmwareGen.Markup.Namespace
/-!
# Events of a markup document

The structural level: tokens become events. Element names are resolved in the namespaces in force,
and every end tag is checked against the innermost start tag. What is wrong with the attributes of
an element or with an undeclared prefix stays inside its event, for whoever builds the element.
-/

namespace FirmwareGen.Markup

inductive IllFormedError
  /-- An end tag closes another element than the innermost one. -/
  | mismatched (expected found : String)
  | unmatched (found : String)
  | missingDoctypeName
  deriving DecidableEq, Repr

def IllFormedError.message : IllFormedError → String
  | .mismatched expected found => s!"expected `</{expected}>`, but `</{found}>` was found"
  | .unmatched found => s!"close tag `</{found}>` does not match any open tag"
  | .missingDoctypeName => "`<!DOCTYPE>` declaration does not contain a name of a document type"

/-- What ends the events of a document early. -/
inductive ReadError
  | lexical (error : SyntaxError)
  | illFormed (error : IllFormedError)
  | namespaces (error : NamespaceError)
  deriving DecidableEq, Repr

def ReadError.message : ReadError → String
  | .lexical error => "syntax error: " ++ error.message
  | .illFormed error => "ill-formed document: " ++ error.message
  | .namespaces error => error.message

/-- The tag of an element: its name resolved, its attributes as far as they can be read. -/
structure Tag where
  resolution : Resolution
  name : String
  attributes : Except AttributeFault (List (String × String))

inductive Event
  | start (tag : Tag)
  /-- An element without content. -/
  | empty (tag : Tag)
  /-- The end of the innermost element. -/
  | close
  | characters (content : List Char)
  | cdata
  | comment
  | instruction
  | declaration
  | doctype

namespace Event

/-- An open element: its name as written and the bindings inside it. -/
structure Frame where
  name : List Char
  scope : Scope

/-- The bindings in force inside the innermost open element. -/
def currentScope : List Frame → Scope
  | [] => Scope.initial
  | frame :: _ => frame.scope

/-- The tag of the given content, in the scope inside its element. -/
def readElement (scope : Scope) (content : List Char) : Tag :=
  let (before, localName) := splitName (tagName content)
  { resolution := scope.resolve before
    name := String.ofList localName
    attributes := readAttributes content }

/-- The event of a token below the given open elements, innermost first, and the open elements
    after it. -/
def ofToken (frames : List Frame) : Token → Except ReadError (Event × List Frame)
  | .characters content => .ok (.characters content, frames)
  | .comment => .ok (.comment, frames)
  | .cdata => .ok (.cdata, frames)
  | .doctype true => .ok (.doctype, frames)
  | .doctype false => .error (.illFormed .missingDoctypeName)
  | .instruction => .ok (.instruction, frames)
  | .declaration => .ok (.declaration, frames)
  | .start content =>
    match (currentScope frames).extend (rawAttributes content).1 with
    | .error e => .error (.namespaces e)
    | .ok scope =>
      .ok (.start (readElement scope content), { name := tagName content, scope } :: frames)
  | .empty content =>
    match (currentScope frames).extend (rawAttributes content).1 with
    | .error e => .error (.namespaces e)
    | .ok scope => .ok (.empty (readElement scope content), frames)
  | .close name =>
    match frames with
    | [] => .error (.illFormed (.unmatched (String.ofList name)))
    | frame :: frames =>
      if frame.name = name then .ok (.close, frames)
      else .error (.illFormed (.mismatched (String.ofList frame.name) (String.ofList name)))

/-- The events of tokens up to the first error, and that error. -/
def ofTokens (frames : List Frame) : List Token → List Event × Option ReadError
  | [] => ([], none)
  | token :: tokens =>
    match ofToken frames token with
    | .error e => ([], some e)
    | .ok (event, frames) =>
      let (events, failure) := ofTokens frames tokens
      (event :: events, failure)

end Event

/-- The events of a document up to the first error of the reader, and that error. A byte order mark
    in front is dropped. -/
def readEvents (document : List Char) : List Event × Option ReadError :=
  let text :=
    match document with
    | '\uFEFF' :: rest => rest
    | text => text
  let (tokens, lexical) := Token.scan text
  let (events, failure) := Event.ofTokens [] tokens
  (events, failure <|> lexical.map .lexical)

end FirmwareGen.Markup
