import StationScript.Toml.Quoted
import StationScript.Toml.Scalar

/-!
The structure of TOML documents.

A document is a list of lines that matter: entries and headers. Reading a table in braces or a whole
document comes down to adding entries to tables along paths of keys, under the rule that a table is
defined in one place only.
-/

set_option autoImplicit false

namespace StationScript.Toml

/-- How many arrays and tables in braces may be open inside one another, and how many keys a path
may have. -/
def depthLimit : Nat := 79

def isBlank (c : Char) : Bool := c = ' ' || c = '\t'

def skipBlanks (cs : List Char) : List Char := cs.dropWhile isBlank

def lineEnd? : List Char → Option (List Char)
  | '\n' :: rest => some rest
  | '\r' :: '\n' :: rest => some rest
  | _ => none

/-- Skips a comment, if there is one, up to the first character that no comment holds. -/
def skipComment : List Char → List Char
  | '#' :: rest => rest.dropWhile fun c => !Quoted.isControl c
  | cs => cs

/-- Skips blanks, a comment and the line end, which the end of the document may stand for. -/
def endOfLine (cs : List Char) : Option (List Char) :=
  match skipComment (skipBlanks cs) with
  | [] => some []
  | cs => lineEnd? cs

/-- Skips blanks, comments and line ends. A comment needs its line end. -/
def skipLines : Nat → List Char → Option (List Char)
  | 0, cs => some cs
  | fuel + 1, cs =>
    match skipBlanks cs with
    | '#' :: rest => do skipLines fuel (← lineEnd? (skipComment ('#' :: rest)))
    | '\n' :: rest => skipLines fuel rest
    | '\r' :: rest => do skipLines fuel (← lineEnd? ('\r' :: rest))
    | cs => some cs

/-! ## Keys -/

def isBareKey (c : Char) : Bool := c.isAlphanum || c = '_' || c = '-'

def simpleKey (cs : List Char) : Option (String × List Char) :=
  match cs with
  | '"' :: _ | '\'' :: _ => (Quoted.readLine cs).map fun (key, rest) => (String.ofList key, rest)
  | cs =>
    match cs.takeWhile isBareKey with
    | [] => none
    | key => some (String.ofList key, cs.dropWhile isBareKey)

/-- Keys with points between them and blanks around them. -/
def keys : Nat → List Char → Option (List String × List Char)
  | 0, _ => none
  | fuel + 1, cs => do
    let (key, rest) ← simpleKey (skipBlanks cs)
    match skipBlanks rest with
    | '.' :: rest =>
      let (others, rest) ← keys fuel rest
      return (key :: others, rest)
    | rest => return ([key], rest)

/-- A path of keys: those on the way, and the last one. -/
structure Path where
  way : List String
  last : String

def Path.ofKeys : List String → Option Path
  | [] => none
  | [key] => some ⟨[], key⟩
  | key :: rest => (Path.ofKeys rest).map fun path => { path with way := key :: path.way }

def path (cs : List Char) : Option (Path × List Char) := do
  let (list, rest) ← keys depthLimit cs
  return (← Path.ofKeys list, rest)

/-! ## Adding to tables -/

/-- Changes the table at the end of a path. Tables that are missing on the way are made; `dotted`
says by what. A dotted key leads only into tables that no header defined, and nothing leads into
other values. -/
def within (dotted : Bool) (change : TableOrigin → Entries → Option Entries) :
    List String → TableOrigin → Entries → Option Entries
  | [], origin, entries => change origin entries
  | key :: rest, _, entries =>
    match entries.lookup key with
    | none => do
      let origin := if dotted then .dotted else .implied
      let inner ← within dotted change rest origin []
      return entries ++ [(key, .table origin inner)]
    | some (.table origin inner) =>
      if origin = .inline ∨ (dotted ∧ origin = .header) then none
      else do return entries.replace key (.table origin (← within dotted change rest origin inner))
    | some (.tables items) =>
      match items.getLast? with
      | none => none
      | some inner => do
        let inner ← within dotted change rest .header inner
        return entries.replace key (.tables (items.dropLast ++ [inner]))
    | some _ => none

/-- Adds a key with its value. A table that dotted keys made takes only dotted keys, any other table
only plain ones. -/
def addEntry (path : Path) (node : Node) (entries : Entries) : Option Entries :=
  within true (fun origin entries =>
    if (origin = .dotted) = (path.way = []) ∨ (entries.lookup path.last).isSome then none
    else some (entries ++ [(path.last, node)])) path.way .header entries

/-! ## Values -/

/-- Items with commas between them, up to the closing bracket; a comma may stand behind the last. -/
def arrayItems (item : List Char → Option (Node × List Char)) :
    Nat → List Char → Option (List Node × List Char)
  | 0, _ => none
  | fuel + 1, cs => do
    match ← skipLines (cs.length + 1) cs with
    | ']' :: rest => return ([], rest)
    | cs =>
      let (first, rest) ← item cs
      match ← skipLines (rest.length + 1) rest with
      | ',' :: rest =>
        let (others, rest) ← arrayItems item fuel rest
        return (first :: others, rest)
      | ']' :: rest => return ([first], rest)
      | _ => none

/-- Entries with commas between them, up to the closing brace, all on one line. -/
def inlineEntries (item : List Char → Option (Node × List Char)) :
    Nat → List Char → Option (List (Path × Node) × List Char)
  | 0, _ => none
  | fuel + 1, cs => do
    let (key, rest) ← path cs
    match rest with
    | '=' :: rest =>
      let (node, rest) ← item (skipBlanks rest)
      match skipBlanks rest with
      | ',' :: rest =>
        let (others, rest) ← inlineEntries item fuel rest
        return ((key, node) :: others, rest)
      | '\x7d' :: rest => return ([(key, node)], rest)
      | _ => none
    | _ => none

def tableOfEntries (list : List (Path × Node)) : Option Entries :=
  list.foldlM (fun entries (path, node) => addEntry path node entries) []

/-- A word, from the text. -/
def keyword (word : String) (node : Node) (cs : List Char) : Option (Node × List Char) :=
  if word.toList.isPrefixOf cs then some (node, cs.drop word.length) else none

def scalar (cs : List Char) : Option (Node × List Char) :=
  match cs with
  | [] => none
  | c :: _ =>
    if c = '"' || c = '\'' then
      (Quoted.read cs).map fun (text, rest) => (.string (String.ofList text), rest)
    else if c = 't' then keyword "true" (.boolean true) cs
    else if c = 'f' then keyword "false" (.boolean false) cs
    else if c = 'i' || c = 'n' then number cs
    else if c.isDigit || c = '+' || c = '-' then numberOrMoment cs
    else none

/-- A value in which so many arrays and tables may be open inside one another. -/
def value : Nat → List Char → Option (Node × List Char)
  | depth + 1, '[' :: rest => do
    let (items, rest) ← arrayItems (value depth) (rest.length + 1) rest
    return (.array items, rest)
  | depth + 1, '\x7b' :: rest => do
    match skipBlanks rest with
    | '\x7d' :: rest => return (.table .inline [], rest)
    | rest =>
      let (list, rest) ← inlineEntries (value depth) (rest.length + 1) rest
      return (.table .inline (← tableOfEntries list), rest)
  | _, cs => scalar cs

/-! ## Documents -/

/-- A line that matters. -/
inductive Line where
  | entry (path : Path) (node : Node)
  | header (path : Path)
  /-- The header of one of several tables under the same name. -/
  | item (path : Path)

/-- A line that is neither empty nor a comment. -/
def line (cs : List Char) : Option (Line × List Char) := do
  match cs with
  | '[' :: '[' :: rest =>
    match ← path rest with
    | (path, ']' :: ']' :: rest) => return (.item path, ← endOfLine rest)
    | _ => none
  | '[' :: rest =>
    match ← path rest with
    | (path, ']' :: rest) => return (.header path, ← endOfLine rest)
    | _ => none
  | cs =>
    match ← path cs with
    | (path, '=' :: rest) =>
      let (node, rest) ← value depthLimit (skipBlanks rest)
      return (.entry path node, ← endOfLine rest)
    | _ => none

/-- The lines that matter. Every one takes at least a character. -/
def lines : Nat → List Char → Option (List Line)
  | 0, _ => some []
  | fuel + 1, cs =>
    match skipBlanks cs with
    | [] => some []
    | '#' :: rest => do lines fuel (← endOfLine ('#' :: rest))
    | '\n' :: rest => lines fuel rest
    | '\r' :: rest => do lines fuel (← lineEnd? ('\r' :: rest))
    | cs => do
      let (first, rest) ← line cs
      return first :: (← lines fuel rest)

/-- The document above the current header, and the table that is being filled. The table is kept
aside until the next header, and then put in its place. -/
structure Assembly where
  root : Entries := []
  /-- Where the table belongs, and whether it is one of several; none for the document itself. -/
  place : Option (Path × Bool) := none
  current : Entries := []

namespace Assembly

/-- Puts the table into its place. -/
def close (a : Assembly) : Option Entries :=
  match a.place with
  | none => some a.current
  | some (path, false) =>
    within false (fun _ entries =>
      match entries.lookup path.last with
      | none => some (entries ++ [(path.last, .table .header a.current)])
      | some (.table .implied _) | some (.table .dotted _) =>
        some (entries.replace path.last (.table .header a.current))
      | some _ => none) path.way .header a.root
  | some (path, true) =>
    within false (fun _ entries =>
      match entries.lookup path.last with
      | none => some (entries ++ [(path.last, .tables [a.current])])
      | some (.tables items) => some (entries.replace path.last (.tables (items ++ [a.current])))
      | some _ => none) path.way .header a.root

/-- The entries of a table in place, which only its being implied gives a header to add to. -/
def taken? (entries : Entries) (key : String) : Option Entries :=
  match entries.lookup key with
  | none => some []
  | some (.table .implied inner) => some inner
  | some _ => none

/-- The entries of the table at the end of a path. -/
def inside? : List String → Entries → Option Entries
  | [], entries => some entries
  | key :: rest, entries =>
    match entries.lookup key with
    | some (.table _ inner) => inside? rest inner
    | some (.tables items) => items.getLast?.bind (inside? rest)
    | _ => none

/-- Begins a table that is defined by a header: what inner headers put into it is taken over. -/
def begin (path : Path) (root : Entries) : Option Assembly := do
  let root ← within false (fun _ entries => some entries) path.way .header root
  let current ← taken? (← inside? path.way root) path.last
  let root ← within false (fun _ entries => some (entries.erase path.last)) path.way .header root
  return { root, place := some (path, false), current }

/-- Begins one of several tables of a name. -/
def beginItem (path : Path) (root : Entries) : Option Assembly := do
  let root ← within false (fun _ entries =>
    match entries.lookup path.last with
    | none => some (entries ++ [(path.last, .tables [])])
    | some (.tables _) => some entries
    | some _ => none) path.way .header root
  return { root, place := some (path, true) }

def add (a : Assembly) : Line → Option Assembly
  | .entry path node => do return { a with current := ← addEntry path node a.current }
  | .header path => do begin path (← a.close)
  | .item path => do beginItem path (← a.close)

end Assembly

def Entries.ofLines (list : List Line) : Option Entries := do
  (← list.foldlM Assembly.add {}).close

/-- A byte order mark at the start does not count. -/
def skipMark : List Char → List Char
  | '\uFEFF' :: rest => rest
  | cs => cs

/-- The entries of a document. -/
def Entries.ofText (text : String) : Option Entries := do
  let cs := skipMark text.toList
  Entries.ofLines (← lines (cs.length + 1) cs)

end StationScript.Toml
