-- SUMMARY: Paths, their components, stems and extensions.
/-!
# Paths

A path is a text with slashes between its components. An empty component and a single dot stay where
they are, two dots go up. A name has a stem and an extension, which the last dot parts; a dot in
front of everything else parts nothing.
-/

namespace FirmwareGen.Path

/-- The components of a path as they are written. -/
def splitSlashes : List Char → List (List Char)
  | [] => [[]]
  | c :: rest =>
    if c = '/' then [] :: splitSlashes rest
    else
      match splitSlashes rest with
      | [] => [[c]]
      | component :: components => (c :: component) :: components

def components (path : String) : List String := (splitSlashes path.toList).map String.ofList

def isAbsolute (path : String) : Bool := path.toList.head? == some '/'

/-- Whether a component stays where it is. -/
def isIdle (component : String) : Bool := component == "" || component == "."

/-- The components that lead somewhere else. -/
def steps (path : String) : List String :=
  (components path).filter fun component => !isIdle component

/-- The last component that leads somewhere else, unless the path ends by going up. -/
def fileName? (path : String) : Option String :=
  match (steps path).getLast? with
  | none => none
  | some name => if name = ".." then none else some name

/-- The stem of a name and its extension, without the dot. -/
def splitExtension (name : String) : String × Option String :=
  let reversed := name.toList.reverse
  let stem := (reversed.dropWhile (· != '.')).drop 1
  if stem.isEmpty then (name, none)
  else
    (String.ofList stem.reverse, some (String.ofList (reversed.takeWhile (· != '.')).reverse))

def stem? (path : String) : Option String :=
  (fileName? path).map fun name => (splitExtension name).1

def extension? (path : String) : Option String :=
  (fileName? path).bind fun name => (splitExtension name).2

/-- The beginnings of some steps that are neither empty nor all of them, the longest first. -/
def beginnings : List String → List (List String)
  | first :: second :: rest =>
    (beginnings (second :: rest)).map (first :: ·) ++ [[first]]
  | _ => []

/-- The paths that lead to a path, the longest first: it without its last step, without its last
    two, and so on. -/
def parents (path : String) : List String :=
  (beginnings (steps path)).map fun steps =>
    (if isAbsolute path then "/" else "") ++ "/".intercalate steps

/-- The path of a name within a directory; an absolute name stands for itself. -/
def join (directory name : String) : String :=
  if isAbsolute name || directory == "" then name
  else if directory.toList.getLast? = some '/' then directory ++ name
  else directory ++ "/" ++ name

end FirmwareGen.Path
