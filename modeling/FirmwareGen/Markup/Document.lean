-- SUMMARY: Building the one tree of a document from its events.
import FirmwareGen.Markup.Element
import FirmwareGen.Text.Blank
/-!
# Reading a document

The events of a document are folded into the tree of its elements. A document has one root, nothing
but white space outside it, and no more than a fixed number of levels; texts, comments and
instructions inside the root are passed over.
-/

namespace FirmwareGen.Markup

/-- The greatest number of levels of a document. -/
def levelLimit : Nat := 256

/-- Why a document has no element tree. -/
inductive DocumentError
  | read (error : ReadError)
  | fault (fault : AttributeFault)
  | noRoot
  | multipleRoots
  | textOutsideRoot
  | unclosed (name : String)
  | undeclaredPrefix (name : String)
  | tooDeep
  deriving DecidableEq, Repr

def DocumentError.message : DocumentError → String
  | .read error => error.message
  | .fault (.attribute error) => error.message
  | .fault (.escape error) => error.message
  | .noRoot => "data at the root level is invalid: the document has no root element"
  | .multipleRoots => "there are multiple root elements"
  | .textOutsideRoot =>
    "data at the root level is invalid: unexpected text outside the root element"
  | .unclosed name => s!"unexpected end of file: element <{name}> is not closed"
  | .undeclaredPrefix name => s!"'{name}' is an undeclared namespace prefix"
  | .tooDeep => s!"elements are nested deeper than {levelLimit} levels"

/-! ## Building the tree -/

/-- An element under construction: what its tag says and its finished children, last first. -/
structure OpenElement where
  space : Option String
  name : String
  attributes : List (String × String)
  finished : List Element

/-- The element that a tag opens. -/
def OpenElement.ofTag (tag : Tag) : Except DocumentError OpenElement :=
  let space : Except DocumentError (Option String) :=
    match tag.resolution with
    | .bound uri => .ok (some uri)
    | .unbound => .ok none
    | .undeclared name => .error (.undeclaredPrefix name)
  match space, tag.attributes with
  | .error e, _ => .error e
  | .ok _, .error fault => .error (.fault fault)
  | .ok space, .ok attributes => .ok { space, name := tag.name, attributes, finished := [] }

def OpenElement.close (element : OpenElement) : Element where
  space := element.space
  name := element.name
  attributes := element.attributes
  children := element.finished.reverse

/-- A document under construction: its open elements, innermost first, and its root once that is
    closed. -/
structure Builder where
  pending : List OpenElement
  root : Option Element

namespace Builder

def initial : Builder := { pending := [], root := none }

/-- Gives a finished element to its parent, or makes it the root. -/
def attach (builder : Builder) (element : Element) : Except DocumentError Builder :=
  match builder.pending with
  | parent :: pending =>
    .ok { builder with
      pending := { parent with finished := element :: parent.finished } :: pending }
  | [] =>
    match builder.root with
    | some _ => .error .multipleRoots
    | none => .ok { builder with root := some element }

def step (builder : Builder) : Event → Except DocumentError Builder
  | .start tag =>
    if builder.pending.isEmpty && builder.root.isSome then .error .multipleRoots
    else if builder.pending.length = levelLimit then .error .tooDeep
    else
      match OpenElement.ofTag tag with
      | .error e => .error e
      | .ok element => .ok { builder with pending := element :: builder.pending }
  | .empty tag =>
    if builder.pending.length = levelLimit then .error .tooDeep
    else
      match OpenElement.ofTag tag with
      | .error e => .error e
      | .ok element => builder.attach element.close
  | .close =>
    match builder.pending with
    | [] => .ok builder
    | element :: pending => { builder with pending }.attach element.close
  | .characters content =>
    if builder.pending.isEmpty && !content.all Text.isAsciiBlank then .error .textOutsideRoot
    else .ok builder
  | .cdata => if builder.pending.isEmpty then .error .textOutsideRoot else .ok builder
  | .comment => .ok builder
  | .instruction => .ok builder
  | .declaration => .ok builder
  | .doctype => .ok builder

/-- Takes events in turn, up to the first error. -/
def run (builder : Builder) : List Event → Except DocumentError Builder
  | [] => .ok builder
  | event :: events =>
    match builder.step event with
    | .error e => .error e
    | .ok builder => builder.run events

/-- The root of a document whose events have all been taken. -/
def finish (builder : Builder) : Except DocumentError Element :=
  match builder.pending, builder.root with
  | element :: _, _ => .error (.unclosed element.name)
  | [], none => .error .noRoot
  | [], some root => .ok root

end Builder

/-- The root of the tree that a whole sequence of events describes. -/
def buildTree (events : List Event) : Except DocumentError Element :=
  match Builder.initial.run events with
  | .error e => .error e
  | .ok builder => builder.finish

/-- The root element of a document. An error while building from the events in front of an error of
    the reader comes first. -/
def readDocument (document : List Char) : Except DocumentError Element :=
  let (events, failure) := readEvents document
  match Builder.initial.run events, failure with
  | .error e, _ => .error e
  | .ok _, some e => .error (.read e)
  | .ok builder, none => builder.finish

end FirmwareGen.Markup
