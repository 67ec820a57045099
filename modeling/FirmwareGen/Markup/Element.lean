-- SUMMARY: Element trees, their traversal and the events that spell them.
import FirmwareGen.Markup.Event
/-!
# Element trees

An element has a namespace, a local name, attributes and children. The search below an element
works through a list of pending subtrees; its order is the one of the recursive traversal
`Element.preorder`. The events of a tree are those of a document that has just its elements.
-/

namespace FirmwareGen.Markup

structure Element where
  /-- The namespace, if the element is in one. -/
  space : Option String
  name : String
  /-- By qualified name, in document order. -/
  attributes : List (String × String)
  children : List Element

namespace Element

/-- Whether an element has this namespace and local name. -/
def is (element : Element) (space name : String) : Bool :=
  element.name == name && element.space == some space

def attribute? (element : Element) (key : String) : Option String :=
  element.attributes.lookup key

/-- The first child of this name. -/
def child? (element : Element) (space name : String) : Option Element :=
  element.children.find? (·.is space name)

/-- The children of this name, in document order. -/
def childrenNamed (element : Element) (space name : String) : List Element :=
  element.children.filter (·.is space name)

/-! ## Traversal -/

mutual

/-- The number of elements of a tree. -/
def size : Element → Nat
  | ⟨_, _, _, children⟩ => 1 + sizeAll children

def sizeAll : List Element → Nat
  | [] => 0
  | element :: rest => size element + sizeAll rest

end

mutual

/-- An element and all below it: each element before its children, children in order. -/
def preorder : Element → List Element
  | ⟨space, name, attributes, children⟩ =>
    ⟨space, name, attributes, children⟩ :: preorderAll children

def preorderAll : List Element → List Element
  | [] => []
  | element :: rest => preorder element ++ preorderAll rest

end

theorem size_eq (element : Element) : element.size = 1 + sizeAll element.children := by
  cases element; rw [size]

theorem sizeAll_append (xs ys : List Element) : sizeAll (xs ++ ys) = sizeAll xs + sizeAll ys := by
  induction xs with
  | nil => simp [sizeAll]
  | cons x xs ih => simp only [List.cons_append, sizeAll, ih]; omega

/-- The elements of the pending trees that satisfy a predicate. The children of an element are put
    in front of what is pending. -/
def searchAll (wanted : Element → Bool) : List Element → List Element
  | [] => []
  | element :: pending =>
    let found := searchAll wanted (element.children ++ pending)
    if wanted element then element :: found else found
termination_by pending => sizeAll pending
decreasing_by
  rw [sizeAll_append, sizeAll, size_eq]; omega

/-- An element and all below it that satisfy a predicate, in document order. -/
def search (element : Element) (wanted : Element → Bool) : List Element :=
  searchAll wanted [element]

/-! ## Levels and events -/

mutual

/-- The number of levels of a tree. -/
def levels : Element → Nat
  | ⟨_, _, _, children⟩ => 1 + levelsAll children

def levelsAll : List Element → Nat
  | [] => 0
  | element :: rest => max (levels element) (levelsAll rest)

end

/-- The tag of an element. -/
def tag (element : Element) : Tag where
  resolution :=
    match element.space with
    | some uri => .bound uri
    | none => .unbound
  name := element.name
  attributes := .ok element.attributes

mutual

/-- The events of a tree: every element is opened and closed around its children. -/
def events : Element → List Event
  | ⟨space, name, attributes, children⟩ =>
    .start (tag ⟨space, name, attributes, []⟩) :: eventsAll children ++ [.close]

def eventsAll : List Element → List Event
  | [] => []
  | element :: rest => events element ++ eventsAll rest

end

end Element

end FirmwareGen.Markup
