import StationScript.Text.Utf8

/-!
Files as the host sees them: a path leads to a file, to a directory, or nowhere.

`FileTree` is a small directory held in memory; `FileTree.files` resolves relative paths in it
component by component.
-/

set_option autoImplicit false

namespace StationScript

/-- Why a path leads nowhere. -/
inductive PathFault where
  | notFound
  | notDirectory
  | nameTooLong
  | zeroByte
  deriving Repr, DecidableEq, Inhabited

/-- What stands at the end of a path. -/
inductive FileAnswer where
  | absent (fault : PathFault)
  | directory
  /-- A file that must not be read. -/
  | locked
  | content (bytes : ByteArray)
  deriving Inhabited

/-- What every path leads to. -/
abbrev Files := String → FileAnswer

/-- Why no text could be read from a path. -/
inductive ReadFault where
  | path (fault : PathFault)
  | directory
  | locked
  | notUtf8
  deriving Repr, DecidableEq

namespace ReadFault

def message : ReadFault → String
  | path .notFound => "No such file or directory (os error 2)"
  | path .notDirectory => "Not a directory (os error 20)"
  | path .nameTooLong => "File name too long (os error 36)"
  | path .zeroByte => "file name contained an unexpected NUL byte"
  | directory => "Is a directory (os error 21)"
  | locked => "Permission denied (os error 13)"
  | notUtf8 => "stream did not contain valid UTF-8"

end ReadFault

namespace Files

def none : Files := fun _ => .absent .notFound

/-- Something stands at the path. -/
def exists? (files : Files) (path : String) : Bool :=
  match files path with
  | .absent _ => false
  | _ => true

/-- The text of the file at the path. -/
def readText (files : Files) (path : String) : Except ReadFault String :=
  match files path with
  | .absent fault => .error (.path fault)
  | .directory => .error .directory
  | .locked => .error .locked
  | .content bytes =>
    match Utf8.decode bytes with
    | .ok text => .ok text
    | .error _ => .error .notUtf8

end Files

/-- Splits at every slash. -/
def pathComponents (path : List Char) : List (List Char) :=
  match path with
  | [] => [[]]
  | '/' :: rest => [] :: pathComponents rest
  | c :: rest =>
    match pathComponents rest with
    | [] => [[c]]
    | first :: others => (c :: first) :: others

/-- Files and empty directories of a tree, by the components of their paths. The directories above
them are implied. -/
structure FileTree where
  entries : List (List String × Option ByteArray) := []
  deriving Inhabited

namespace FileTree

/-- Resolves `.` and `..` in the path under which an entry is stored. -/
def storedPath (path : String) : List String :=
  (pathComponents path.toList).foldl (fun stack component =>
    match String.ofList component with
    | "" | "." => stack
    | ".." => stack.dropLast
    | name => stack ++ [name]) []

def insert (tree : FileTree) (path : String) (entry : Option ByteArray) : FileTree :=
  let key := storedPath path
  ⟨(key, entry) :: tree.entries.filter fun (k, _) => k ≠ key⟩

def insertFile (tree : FileTree) (path : String) (bytes : ByteArray) : FileTree :=
  tree.insert path (some bytes)

def insertDirectory (tree : FileTree) (path : String) : FileTree := tree.insert path none

/-- What stands at a resolved path. -/
def lookup (tree : FileTree) (key : List String) : FileAnswer :=
  match tree.entries.find? fun (k, _) => k = key with
  | some (_, some bytes) => .content bytes
  | some (_, none) => .directory
  | none =>
    if key = [] || tree.entries.any fun (k, _) => key.isPrefixOf k then .directory
    else .absent .notFound

/-- One step from a directory of the tree. The directories above the tree are not known. -/
def step (tree : FileTree) (directory : List String) (component : String) :
    List String × FileAnswer :=
  if component = "" ∨ component = "." then (directory, .directory)
  else if component = ".." then
    if directory = [] then ([], .absent .notFound) else (directory.dropLast, .directory)
  else if 255 < component.utf8ByteSize then (directory, .absent .nameTooLong)
  else
    let key := directory ++ [component]
    (key, tree.lookup key)

/-- Walks along the components; only a directory can be walked through. -/
def walk (tree : FileTree) (directory : List String) : List String → FileAnswer
  | [] => .directory
  | [last] => (tree.step directory last).2
  | component :: rest =>
    match tree.step directory component with
    | (directory, .directory) => tree.walk directory rest
    | (_, .content _) | (_, .locked) => .absent .notDirectory
    | (_, .absent fault) => .absent fault

/-- Paths of that many bytes are not followed. -/
def pathLimit : Nat := 4096

/-- Relative paths lead into the tree; nothing is known of absolute ones. -/
def files (tree : FileTree) : Files := fun path =>
  if path.toList.contains '\x00' then .absent .zeroByte
  else if pathLimit ≤ path.utf8ByteSize then .absent .nameTooLong
  else if path = "" ∨ path.startsWith "/" then .absent .notFound
  else if path = ".." then .directory
  else tree.walk [] ((pathComponents path.toList).map String.ofList)

end FileTree

end StationScript
