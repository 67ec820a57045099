-- SUMMARY: Trees of directories and files.
import FirmwareGen.Storage.Path
/-!
# File trees

A tree of directories and files, kept as two lists of locations. A location is the list of names
from the root. Paths are followed from a working directory; every step needs a directory to start
from. What the medium lets in at a location is part of the tree, since writing a file takes two steps:
the file is opened, which creates or empties it, and then the bytes go in one after the other.
-/

namespace FirmwareGen

/-- Why a path leads nowhere. -/
inductive PathFault
  /-- There is nothing where a directory is needed. -/
  | missing
  /-- A file stands where a directory is needed, something is too long or no name, or nothing can be
      put there. -/
  | refused
  deriving DecidableEq, Repr

/-- The names from the root of a tree to a place in it. -/
abbrev Location := List String

/-- What the medium lets in at a location. -/
inductive Room
  /-- Nothing can be put there, and a file that is there cannot be opened for writing. -/
  | closed
  /-- There is room for a file of so many bytes. -/
  | bytes (count : Nat)
  | ample
  deriving DecidableEq, Repr

structure FileTree where
  /-- The directories except the root. -/
  directories : List Location := []
  files : List (Location × ByteArray) := []
  room : Location → Room := fun _ => .ample

namespace FileTree

/-! ## Looking up -/

def isDirectory (tree : FileTree) (location : Location) : Bool :=
  location.isEmpty || tree.directories.contains location

def file? (tree : FileTree) (location : Location) : Option ByteArray := tree.files.lookup location

/-- Names of directories and files are at most 255 bytes long and hold no zero character. -/
def isName (name : String) : Bool := name.utf8ByteSize ≤ 255 && !name.toList.contains '\x00'

/-- The place that a component leads to from a directory; whether it exists is not asked. -/
def follow (tree : FileTree) (location : Location) (component : String) :
    Except PathFault Location :=
  if !tree.isDirectory location then
    if (tree.file? location).isSome then .error .refused else .error .missing
  else if Path.isIdle component then .ok location
  else if component = ".." then .ok location.dropLast
  else if isName component then .ok (location ++ [component])
  else .error .refused

/-- Paths are at most 4095 bytes long. -/
def isPath (path : String) : Bool := path.utf8ByteSize ≤ 4095

/-- Follows components in turn. -/
def followAll (tree : FileTree) (location : Location) : List String → Except PathFault Location
  | [] => .ok location
  | component :: rest =>
    match tree.follow location component with
    | .error fault => .error fault
    | .ok next => tree.followAll next rest

/-- Where the components of a path start. -/
def start (directory : Location) (path : String) : Location :=
  if Path.isAbsolute path then [] else directory

/-- The place that a path leads to from a working directory. -/
def locate (tree : FileTree) (directory : Location) (path : String) : Except PathFault Location :=
  if path = "" then .error .missing
  else if !isPath path then .error .refused
  else tree.followAll (start directory path) (Path.components path)

/-- The bytes of the file at a path. -/
def read (tree : FileTree) (directory : Location) (path : String) : Option ByteArray :=
  match tree.locate directory path with
  | .error _ => none
  | .ok location => tree.file? location

/-! ## Changing -/

def setFile (tree : FileTree) (location : Location) (bytes : ByteArray) : FileTree :=
  { tree with
    files := (location, bytes) :: tree.files.filter fun entry => entry.1 != location }

/-- Writes a file to a path: the tree afterwards, and whether all bytes went in. A file that could be
    opened has lost what was in it; where the room ends, it keeps the bytes that went in before. A
    directory is not replaced. -/
def write (tree : FileTree) (directory : Location) (path : String) (bytes : ByteArray) :
    FileTree × Bool :=
  match tree.locate directory path with
  | .error _ => (tree, false)
  | .ok location =>
    if tree.isDirectory location then (tree, false)
    else
      match tree.room location with
      | .closed => (tree, false)
      | .bytes count =>
        if bytes.size ≤ count then (tree.setFile location bytes, true)
        else (tree.setFile location (bytes.extract 0 count), false)
      | .ample => (tree.setFile location bytes, true)

/-- Makes sure that a path leads to a directory. Only its last step may be new; slashes behind that
    do not count, but a dot does. -/
def makeDirectory (tree : FileTree) (directory : Location) (path : String) :
    Except PathFault FileTree :=
  if !isPath path then .error .refused
  else
    let components := (Path.components path).filter (· != "")
    match tree.followAll (start directory path) components with
    | .error fault => .error fault
    | .ok location =>
      if tree.isDirectory location then .ok tree
      else if (tree.file? location).isSome || tree.room location = .closed then .error .refused
      else .ok { tree with directories := location :: tree.directories }

end FileTree

end FirmwareGen
