/-!
Paths as text: the directory of a file, and paths relative to a directory.
-/

set_option autoImplicit false

namespace StationScript.Path

/-- Drops separators, and names that stand for the directory itself, from the end of a path, which
is given backwards. The root keeps its separator. -/
def trimBack : List Char → List Char
  | [] => []
  | '/' :: rest => if rest = [] then ['/'] else trimBack rest
  | '.' :: rest =>
    match rest with
    | '/' :: _ => trimBack rest
    | _ => '.' :: rest
  | c :: rest => c :: rest

/-- The directory in which the last component of a path stands; empty if the path has no other. -/
def parent (path : String) : String :=
  let last := trimBack path.toList.reverse
  if last = ['/'] then ""
  else String.ofList (trimBack (last.dropWhile (· ≠ '/'))).reverse

/-- A path seen from a directory. An absolute path stays as it is. -/
def join (directory path : String) : String :=
  if directory = "" ∨ path.startsWith "/" then path
  else if directory.endsWith "/" then directory ++ path
  else directory ++ "/" ++ path

end StationScript.Path
