import StationScript.Script.Numeral

/-!
Strings of TOML, read and written.

There are four notations: with double quotes and escapes or with single quotes and none, each on one
line or on several. `read` takes any of them; `write` prefers the plainest one that can hold the
text without escapes and falls back on escapes.
-/

set_option autoImplicit false

namespace StationScript.Toml.Quoted

/-- What was read, and what is left. -/
abbrev Read := Option (List Char × List Char)

/-- Puts a character in front of what is read. -/
def push (c : Char) : Read → Read
  | some (cs, rest) => some (c :: cs, rest)
  | none => none

/-- Controls other than the tab. -/
def isControl (c : Char) : Bool := c ≠ '\t' && (c < ' ' || c = '\x7f')

/-- The character of a short escape. -/
def shortEscape? : Char → Option Char
  | 'b' => some '\x08'
  | 't' => some '\t'
  | 'n' => some '\n'
  | 'f' => some '\x0c'
  | 'r' => some '\r'
  | '"' => some '"'
  | '\\' => some '\\'
  | _ => none

/-- The character of a number in hexadecimal digits; surrogates are none. -/
def scalar? (digits : List Char) : Option Char :=
  if digits.all Numeral.isHexDigit then
    let n := Numeral.digitsValue 16 digits
    if n.isValidChar then some (Char.ofNat n) else none
  else none

/-- A string with escapes, up to its closing quote. -/
def basicBody : List Char → Read
  | [] => none
  | '"' :: rest => some ([], rest)
  | '\\' :: 'u' :: a :: b :: c :: d :: rest =>
    match scalar? [a, b, c, d] with
    | some x => push x (basicBody rest)
    | none => none
  | '\\' :: 'U' :: a :: b :: c :: d :: e :: f :: g :: h :: rest =>
    match scalar? [a, b, c, d, e, f, g, h] with
    | some x => push x (basicBody rest)
    | none => none
  | '\\' :: c :: rest =>
    match shortEscape? c with
    | some x => push x (basicBody rest)
    | none => none
  | c :: rest => if isControl c || c = '\\' then none else push c (basicBody rest)

/-- A string without escapes, up to its closing quote. -/
def literalBody : List Char → Read
  | [] => none
  | '\'' :: rest => some ([], rest)
  | c :: rest => if isControl c then none else push c (literalBody rest)

/-- Blanks up to the end of the line follow. -/
def endsLine (cs : List Char) : Bool :=
  match cs.dropWhile fun c => c = ' ' || c = '\t' with
  | '\n' :: _ | '\r' :: '\n' :: _ => true
  | _ => false

/-- After three quotes: up to two more belong to the text, and the last three close it. -/
def closing (quote : Char) : List Char → Read
  | c :: d :: rest =>
    if c = quote then
      if d = quote then some ([c, d], rest) else some ([c], d :: rest)
    else some ([], c :: d :: rest)
  | [c] => if c = quote then some ([c], []) else some ([], [c])
  | [] => some ([], [])

/-- A string with escapes on several lines. A backslash at the end of a line takes the line end and
all blanks behind it away; the flag says that this is going on. -/
def multiBasicBody (skipping : Bool) : List Char → Read
  | [] => none
  | '"' :: '"' :: '"' :: rest => closing '"' rest
  | '\\' :: 'u' :: a :: b :: c :: d :: rest =>
    match scalar? [a, b, c, d] with
    | some x => push x (multiBasicBody false rest)
    | none => none
  | '\\' :: 'U' :: a :: b :: c :: d :: e :: f :: g :: h :: rest =>
    match scalar? [a, b, c, d, e, f, g, h] with
    | some x => push x (multiBasicBody false rest)
    | none => none
  | '\\' :: c :: rest =>
    if endsLine (c :: rest) then multiBasicBody true (c :: rest)
    else match shortEscape? c with
      | some x => push x (multiBasicBody false rest)
      | none => none
  | '\r' :: '\n' :: rest =>
    if skipping then multiBasicBody true rest else push '\n' (multiBasicBody false rest)
  | c :: rest =>
    if skipping && (c = ' ' || c = '\t' || c = '\n') then multiBasicBody true rest
    else if c = '\n' then push c (multiBasicBody false rest)
    else if isControl c || c = '\\' then none
    else push c (multiBasicBody false rest)

/-- A string without escapes on several lines. -/
def multiLiteralBody : List Char → Read
  | [] => none
  | '\'' :: '\'' :: '\'' :: rest => closing '\'' rest
  | '\r' :: '\n' :: rest => push '\n' (multiLiteralBody rest)
  | c :: rest =>
    if isControl c && c ≠ '\n' then none else push c (multiLiteralBody rest)

/-- A line end directly behind the opening quotes does not count. -/
def skipLineEnd : List Char → List Char
  | '\n' :: rest => rest
  | '\r' :: '\n' :: rest => rest
  | cs => cs

/-- A string in any notation. -/
def read : List Char → Read
  | '"' :: '"' :: '"' :: rest => multiBasicBody false (skipLineEnd rest)
  | '"' :: rest => basicBody rest
  | '\'' :: '\'' :: '\'' :: rest => multiLiteralBody (skipLineEnd rest)
  | '\'' :: rest => literalBody rest
  | _ => none

/-- A string on one line, as keys are written. -/
def readLine : List Char → Read
  | '"' :: rest => basicBody rest
  | '\'' :: rest => literalBody rest
  | _ => none

/-- The longest run of a character, if `current` of them come right before. -/
def longestRun (c : Char) : Nat → List Char → Nat
  | current, [] => current
  | current, d :: rest =>
    if d = c then longestRun c (current + 1) rest else max current (longestRun c 0 rest)

inductive Notation where
  | basic
  | literal
  | multiBasic
  | multiLiteral
  deriving Repr, DecidableEq

/-- The notation a text is written in. Only the two notations that are left at the end need
escapes. -/
def notationFor (cs : List Char) : Notation :=
  let hasNewline := cs.contains '\n'
  let hasControl := cs.any fun c => isControl c && c ≠ '\n'
  let hasBackslash := cs.contains '\\'
  let singles := longestRun '\'' 0 cs
  let doubles := longestRun '"' 0 cs
  if !hasControl && !hasBackslash && doubles = 0 && !hasNewline then .basic
  else if !hasControl && singles = 0 && !hasNewline then .literal
  else if !hasControl && !hasBackslash && doubles ≤ 2 then .multiBasic
  else if !hasControl && singles ≤ 2 then .multiLiteral
  else if hasNewline then .multiBasic
  else .basic

/-- A digit in upper case. -/
def hexDigit (n : Nat) : Char := if n < 10 then Char.ofNat (48 + n) else Char.ofNat (55 + n)

/-- A character with its escape, if it needs one. A line end stays one where lines are allowed. -/
def escaped (multi : Bool) (c : Char) : List Char :=
  match c with
  | '\x08' => ['\\', 'b']
  | '\t' => ['\\', 't']
  | '\n' => if multi then ['\n'] else ['\\', 'n']
  | '\x0c' => ['\\', 'f']
  | '\r' => ['\\', 'r']
  | '\\' => ['\\', '\\']
  | c =>
    if isControl c then
      ['\\', 'u', '0', '0', hexDigit (c.toNat / 16), hexDigit (c.toNat % 16)]
    else [c]

/-- The text with escapes; of quotes in a row so many stay as they are, of which `run` are
behind. -/
def escapedFrom (multi : Bool) : Nat → List Char → List Char
  | _, [] => []
  | run, c :: rest =>
    if c = '"' then
      if run < (if multi then 2 else 0) then '"' :: escapedFrom multi (run + 1) rest
      else '\\' :: '"' :: escapedFrom multi 0 rest
    else escaped multi c ++ escapedFrom multi 0 rest

/-- A text of several lines starts on a line of its own. -/
def ownLine (cs : List Char) : List Char := if cs.contains '\n' then ['\n'] else []

def write (cs : List Char) : List Char :=
  match notationFor cs with
  | .basic => '"' :: (escapedFrom false 0 cs ++ ['"'])
  | .literal => '\'' :: (cs ++ ['\''])
  | .multiBasic =>
    ['"', '"', '"'] ++ ownLine cs ++ escapedFrom true 0 cs ++ ['"', '"', '"']
  | .multiLiteral => ['\'', '\'', '\''] ++ ownLine cs ++ cs ++ ['\'', '\'', '\'']

end StationScript.Toml.Quoted
