import StationScript.Script.Value
import StationScript.Text.Utf8

/-!
Lexical elements of Lua source.

Source text is a sequence of bytes, each held as the character of that number. `scan` reads one
element and tells where the next begins; `lexemes` reads as many as there are before the end or the
first fault, so that a grammar meets a lexical fault only when it gets there.
-/

set_option autoImplicit false

namespace StationScript.Lua

open Numeral (Number)

/-- The name that messages give to a program. -/
def chunkName : String := "[string \"program\"]"

/-- Bytes as characters of the same numbers. -/
def bytesOfText (text : String) : List Char := Value.asciiChars text.toUTF8

/-- The byte string of a sequence of characters below 256. -/
def bytesOfChars (cs : List Char) : ByteArray :=
  ⟨(cs.map fun c => UInt8.ofNat c.toNat).toArray⟩

/-- Characters that stand for bytes, as text; whatever is not valid is replaced. -/
def shownChars (cs : List Char) : String := Utf8.decodeLossy (bytesOfChars cs)

inductive Token where
  | name (text : String)
  | string (bytes : ByteArray)
  | numeral (number : Number)
  /-- A reserved word or an operator. -/
  | fixed (text : String)
  /-- A byte that begins no element. -/
  | stray (c : Char)
  | finish

/-- An element, the line on which it ends, and its spelling as far as messages quote it. -/
structure Lexeme where
  token : Token
  line : Nat
  spelling : List Char

/-- Why a text is no program. -/
inductive CompileFault where
  | malformed (line : Nat) (text : String)
  /-- Constructs are nested too deeply. -/
  | tooDeep
  deriving Repr, DecidableEq

def CompileFault.message : CompileFault → String
  | malformed line text => "syntax error: " ++ chunkName ++ ":" ++ toString line ++ ": " ++ text
  | tooDeep => "runtime error: C stack overflow"

def inQuotes (text : String) : String := "'" ++ text ++ "'"

/-- A quoted spelling ends where a zero byte would end it. -/
def quotedSpelling (cs : List Char) : String := inQuotes (shownChars (cs.takeWhile (· ≠ '\x00')))

def isPrintable (c : Char) : Bool := 32 ≤ c.toNat && c.toNat ≤ 126

/-- How a message names the element at which a fault was found; a zero byte goes unnamed. -/
def Lexeme.shown? (lexeme : Lexeme) : Option String :=
  match lexeme.token with
  | .name _ | .string _ | .numeral _ => some (quotedSpelling lexeme.spelling)
  | .fixed text => some (inQuotes text)
  | .stray c =>
    if c = '\x00' then none
    else if isPrintable c then some (inQuotes (String.singleton c))
    else some ("'<\\" ++ toString c.toNat ++ ">'")
  | .finish => some "<eof>"

/-- A complaint about an element. -/
def nearText (text : String) (shown? : Option String) : String :=
  match shown? with
  | some shown => text ++ " near " ++ shown
  | none => text

def reservedWords : List String :=
  ["and", "break", "do", "else", "elseif", "end", "false", "for", "function", "goto", "if", "in",
    "local", "nil", "not", "or", "repeat", "return", "then", "true", "until", "while"]

/-- Operators and punctuation, longer ones before their beginnings. -/
def operators : List String :=
  ["...", "<<", ">>", "//", "==", "~=", "<=", ">=", "::", "..", "+", "-", "*", "/", "%", "^", "#",
    "&", "~", "|", "<", ">", "=", "(", ")", "\x7b", "\x7d", "[", "]", ";", ":", ",", "."]

def isNameStart (c : Char) : Bool := c.isAlpha || c = '_'

def isNamePart (c : Char) : Bool := isNameStart c || c.isDigit

def isNewline (c : Char) : Bool := c = '\n' || c = '\r'

/-- Skips one line end; a carriage return and a line feed in either order count once. -/
def skipNewline : List Char → List Char
  | '\r' :: '\n' :: rest => rest
  | '\n' :: '\r' :: rest => rest
  | _ :: rest => rest
  | [] => []

/-- After an opening bracket: the level of a long bracket, and what follows its second bracket. -/
def longOpening? (cs : List Char) : Option (Nat × List Char) :=
  match cs.dropWhile (· = '=') with
  | '[' :: rest => some ((cs.takeWhile (· = '=')).length, rest)
  | _ => none

/-- What was read, the line reached, and what is left. -/
structure Span where
  content : List Char
  line : Nat
  rest : List Char

/-- The content of a long bracket, with every line end as a line feed; nothing when the bracket is
not closed, and then the line at the end. -/
def longContent (closing : List Char) : Nat → Nat → List Char → List Char → Except Nat Span
  | 0, line, _, _ => .error line
  | _ + 1, line, _, [] => .error line
  | fuel + 1, line, content, c :: cs =>
    if closing.isPrefixOf (c :: cs) then
      .ok ⟨content.reverse, line, (c :: cs).drop closing.length⟩
    else if isNewline c then
      longContent closing fuel (line + 1) ('\n' :: content) (skipNewline (c :: cs))
    else longContent closing fuel line (c :: content) cs

/-- Reads a long bracket of that level, from behind its opening on. A line end directly behind the
opening is skipped. -/
def longBracket (what : String) (level line : Nat) (cs : List Char) : Except CompileFault Span :=
  let (start, body) :=
    match cs with
    | c :: _ => if isNewline c then (line + 1, skipNewline cs) else (line, cs)
    | [] => (line, [])
  let closing := ']' :: (List.replicate level '=' ++ [']'])
  match longContent closing (body.length + 1) start [] body with
  | .ok span => .ok span
  | .error reached =>
    .error (.malformed reached (nearText
      ("unfinished long " ++ what ++ " (starting at line " ++ toString line ++ ")") (some "<eof>")))

/-- What an escape sequence stands for, or what is wrong with it and how much of it was read. -/
inductive Escape where
  | bytes (content : List Char) (lines : Nat) (rest : List Char)
  | fault (text : String) (read : List Char)

/-- One more character, if there is one: a complaint about an escape quotes it too. -/
def withNext (read rest : List Char) : List Char := read ++ rest.take 1

/-- The encoding of a number below `2 ^ 31` in one to six bytes. -/
def extendedUtf8 (n : Nat) : List Char :=
  let tail (shift : Nat) : Char := Char.ofNat (0x80 + n / Nat.pow 64 shift % 64)
  if n < 0x80 then [Char.ofNat n]
  else if n < 0x800 then [Char.ofNat (0xC0 + n / 64), tail 0]
  else if n < 0x10000 then [Char.ofNat (0xE0 + n / 0x1000), tail 1, tail 0]
  else if n < 0x200000 then [Char.ofNat (0xF0 + n / 0x40000), tail 2, tail 1, tail 0]
  else if n < 0x4000000 then [Char.ofNat (0xF8 + n / 0x1000000), tail 3, tail 2, tail 1, tail 0]
  else [Char.ofNat (0xFC + n / 0x40000000), tail 4, tail 3, tail 2, tail 1, tail 0]

/-- A hexadecimal escape, from behind the `x` on: exactly two digits. -/
def hexEscape (cs : List Char) : Escape :=
  match cs with
  | a :: b :: rest =>
    if !Numeral.isHexDigit a then .fault "hexadecimal digit expected" ['x', a]
    else if !Numeral.isHexDigit b then .fault "hexadecimal digit expected" ['x', a, b]
    else .bytes [Char.ofNat (Numeral.digitsValue 16 [a, b])] 0 rest
  | rest => .fault "hexadecimal digit expected" ('x' :: rest)

/-- A decimal escape: up to three digits. -/
def decimalEscape (cs : List Char) : Escape :=
  let digits := (cs.take 3).takeWhile Char.isDigit
  let rest := cs.drop digits.length
  let n := Numeral.digitsValue 10 digits
  if 255 < n then .fault "decimal escape too large" (withNext digits rest)
  else .bytes [Char.ofNat n] 0 rest

/-- A code point escape, from behind the `u` on: hexadecimal digits in braces. -/
def codePointEscape (cs : List Char) : Escape :=
  match cs with
  | '\x7b' :: rest =>
    let digits := rest.takeWhile Numeral.isHexDigit
    let behind := rest.drop digits.length
    let read := 'u' :: '\x7b' :: digits
    if digits = [] then .fault "hexadecimal digit expected" (withNext read behind)
    else if 0x80000000 ≤ Numeral.digitsValue 16 digits then
      .fault "UTF-8 value too large" (withNext read behind)
    else match behind with
      | '\x7d' :: rest => .bytes (extendedUtf8 (Numeral.digitsValue 16 digits)) 0 rest
      | _ => .fault "missing '\x7d'" (withNext read behind)
  | _ => .fault "missing '\x7b'" (withNext ['u'] cs)

/-- Skips blanks and line ends, and counts the latter. -/
def skipBlanks : Nat → Nat → List Char → Nat × List Char
  | 0, lines, cs => (lines, cs)
  | _ + 1, lines, [] => (lines, [])
  | fuel + 1, lines, c :: cs =>
    if isNewline c then skipBlanks fuel (lines + 1) (skipNewline (c :: cs))
    else if Numeral.isBlank c then skipBlanks fuel lines cs
    else (lines, c :: cs)

/-- An escape sequence, from behind the backslash on. -/
def escape (cs : List Char) : Escape :=
  match cs with
  | 'a' :: rest => .bytes ['\x07'] 0 rest
  | 'b' :: rest => .bytes ['\x08'] 0 rest
  | 'f' :: rest => .bytes ['\x0c'] 0 rest
  | 'n' :: rest => .bytes ['\n'] 0 rest
  | 'r' :: rest => .bytes ['\r'] 0 rest
  | 't' :: rest => .bytes ['\t'] 0 rest
  | 'v' :: rest => .bytes ['\x0b'] 0 rest
  | 'x' :: rest => hexEscape rest
  | 'u' :: rest => codePointEscape rest
  | 'z' :: rest =>
    let (lines, rest) := skipBlanks rest.length 0 rest
    .bytes [] lines rest
  | c :: rest =>
    if isNewline c then .bytes ['\n'] 1 (skipNewline cs)
    else if c = '\\' || c = '"' || c = '\'' then .bytes [c] 0 rest
    else if c.isDigit then decimalEscape cs
    else .fault "invalid escape sequence" [c]
  | [] => .bytes [] 0 []

/-- The content of a short string up to its closing quote. -/
def shortContent (quote : Char) : Nat → Nat → List Char → List Char → Except CompileFault Span
  | 0, line, _, _ => .error (.malformed line (nearText "unfinished string" (some "<eof>")))
  | _ + 1, line, _, [] => .error (.malformed line (nearText "unfinished string" (some "<eof>")))
  | fuel + 1, line, content, c :: cs =>
    let fault (text : String) (read : List Char) : CompileFault :=
      .malformed line (nearText text (some (quotedSpelling (quote :: (content.reverse ++ read)))))
    if c = quote then .ok ⟨content.reverse, line, cs⟩
    else if isNewline c then .error (fault "unfinished string" [])
    else if c = '\\' then
      match escape cs with
      | .bytes more lines rest =>
        shortContent quote fuel (line + lines) (more.reverse ++ content) rest
      | .fault text read => .error (fault text ('\\' :: read))
    else shortContent quote fuel line (c :: content) cs

/-- The characters of a numeral: digits of either base, points, and exponents with a sign. -/
def numeralLength (mark : Char) : List Char → Nat
  | [] => 0
  | c :: cs =>
    if c.toLower = mark then
      match cs with
      | '+' :: rest | '-' :: rest => 2 + numeralLength mark rest
      | rest => 1 + numeralLength mark rest
    else if Numeral.isHexDigit c || c = '.' then 1 + numeralLength mark cs
    else 0

/-- Reads a numeral; a letter that touches it spoils it. -/
def scanNumeral (line : Nat) (cs : List Char) : Except CompileFault (Lexeme × List Char) :=
  let length :=
    match cs with
    | '0' :: 'x' :: rest | '0' :: 'X' :: rest => 2 + numeralLength 'p' rest
    | _ :: rest => 1 + numeralLength 'e' rest
    | [] => 0
  let length := match cs.drop length with
    | c :: _ => if isNameStart c then length + 1 else length
    | [] => length
  let spelling := cs.take length
  match Numeral.unsigned? false spelling with
  | some number => .ok (⟨.numeral number, line, spelling⟩, cs.drop length)
  | none => .error (.malformed line (nearText "malformed number" (some (quotedSpelling spelling))))

/-- One step through the source. -/
inductive Scan where
  /-- Blanks or a comment were skipped. -/
  | skipped (line : Nat) (rest : List Char)
  | element (lexeme : Lexeme) (rest : List Char)
  | fault (cause : CompileFault)

/-- A comment, from behind its two dashes on. -/
def scanComment (line : Nat) (cs : List Char) : Scan :=
  let short := Scan.skipped line (cs.dropWhile fun c => !isNewline c)
  match cs with
  | '[' :: rest =>
    match longOpening? rest with
    | some (level, body) =>
      match longBracket "comment" level line body with
      | .ok span => .skipped span.line span.rest
      | .error cause => .fault cause
    | none => short
  | _ => short

/-- A long string, or the bracket that opens none, from behind that bracket on. -/
def scanBracket (line : Nat) (cs : List Char) : Scan :=
  match longOpening? cs with
  | some (level, body) =>
    match longBracket "string" level line body with
    | .ok span =>
      let bars := List.replicate level '='
      let spelling := '[' :: (bars ++ '[' :: (span.content ++ ']' :: (bars ++ [']'])))
      .element ⟨.string (bytesOfChars span.content), span.line, spelling⟩ span.rest
    | .error cause => .fault cause
  | none =>
    match cs.takeWhile (· = '=') with
    | [] => .element ⟨.fixed "[", line, ['[']⟩ cs
    | bars => .fault (.malformed line
        (nearText "invalid long string delimiter" (some (quotedSpelling ('[' :: bars)))))

def scanOperator (line : Nat) (cs : List Char) : Scan :=
  match operators.find? fun o => o.toList.isPrefixOf cs with
  | some o => .element ⟨.fixed o, line, o.toList⟩ (cs.drop o.length)
  | none =>
    match cs with
    | c :: rest => .element ⟨.stray c, line, [c]⟩ rest
    | [] => .element ⟨.finish, line, []⟩ []

def scanWord (line : Nat) (cs : List Char) : Scan :=
  let word := cs.takeWhile isNamePart
  let text := String.ofList word
  let token := if reservedWords.contains text then Token.fixed text else Token.name text
  .element ⟨token, line, word⟩ (cs.dropWhile isNamePart)

def ofNumeral : Except CompileFault (Lexeme × List Char) → Scan
  | .ok (lexeme, rest) => .element lexeme rest
  | .error cause => .fault cause

def scan (line : Nat) (cs : List Char) : Scan :=
  match cs with
  | [] => .element ⟨.finish, line, []⟩ []
  | '-' :: '-' :: rest => scanComment line rest
  | '[' :: rest => scanBracket line rest
  | c :: rest =>
    if isNewline c then .skipped (line + 1) (skipNewline cs)
    else if Numeral.isBlank c then .skipped line rest
    else if c = '"' || c = '\'' then
      match shortContent c (rest.length + 1) line [] rest with
      | .ok span =>
        .element
          ⟨.string (bytesOfChars span.content), span.line, c :: (span.content ++ [c])⟩ span.rest
      | .error cause => .fault cause
    else if c.isDigit || (c = '.' && (rest.head?.any Char.isDigit)) then
      ofNumeral (scanNumeral line cs)
    else if isNameStart c then scanWord line cs
    else scanOperator line cs

/-- The elements of a source up to its end or its first fault. -/
structure Lexemes where
  list : List Lexeme
  fault : Option CompileFault

def lexemesFrom : Nat → Nat → List Char → Lexemes
  | 0, line, _ => ⟨[⟨.finish, line, []⟩], none⟩
  | fuel + 1, line, cs =>
    match scan line cs with
    | .skipped line rest => lexemesFrom fuel line rest
    | .fault cause => ⟨[], some cause⟩
    | .element lexeme rest =>
      match lexeme.token with
      | .finish => ⟨[lexeme], none⟩
      | _ =>
        let others := lexemesFrom fuel lexeme.line rest
        ⟨lexeme :: others.list, others.fault⟩

/-- Every step takes a character, so the length bounds their number. -/
def lexemes (cs : List Char) : Lexemes := lexemesFrom (cs.length + 1) 1 cs

end StationScript.Lua
