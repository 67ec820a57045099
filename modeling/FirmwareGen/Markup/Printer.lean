-- SUMMARY: Writing elements with their attributes escaped.
import FirmwareGen.Markup.Entity
/-!
# Writing markup

A written element has a name as it stands in its tag, attributes and children. Attribute values are
escaped and put in double quotes; an element without children is written as one tag.
-/

namespace FirmwareGen.Markup

structure WrittenElement where
  name : List Char
  attributes : List (List Char × List Char)
  children : List WrittenElement

namespace WrittenElement

def printAttribute (entry : List Char × List Char) : List Char :=
  ' ' :: entry.1 ++ ['=', '"'] ++ Entity.escape entry.2 ++ ['"']

/-- The name and the attributes of a tag. -/
def tagContent (name : List Char) (attributes : List (List Char × List Char)) : List Char :=
  name ++ attributes.flatMap printAttribute

mutual

def print : WrittenElement → List Char
  | ⟨name, attributes, []⟩ => '<' :: tagContent name attributes ++ ['/', '>']
  | ⟨name, attributes, child :: children⟩ =>
    '<' :: tagContent name attributes ++ '>' :: (print child ++ printAll children) ++
      ['<', '/'] ++ name ++ ['>']

def printAll : List WrittenElement → List Char
  | [] => []
  | element :: rest => print element ++ printAll rest

end

end WrittenElement

end FirmwareGen.Markup
