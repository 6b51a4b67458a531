import StationScript.Toml.Node

/-!
Numbers, dates and times of TOML.

Underscores may stand between digits. A number with a fraction or an exponent is a double and must
not overflow to positive infinity; all others are integers of 64 bits. Dates and times are checked
and then forgotten.
-/

set_option autoImplicit false

namespace StationScript.Toml

/-- The digits behind a digit; an underscore needs a digit on either side. -/
def moreDigits (isDigit : Char → Bool) : List Char → Option (List Char × List Char)
  | [] => some ([], [])
  | '_' :: c :: rest =>
    if isDigit c then (moreDigits isDigit rest).map fun (ds, rest) => (c :: ds, rest) else none
  | c :: rest =>
    if c = '_' then none
    else if isDigit c then (moreDigits isDigit rest).map fun (ds, rest) => (c :: ds, rest)
    else some ([], c :: rest)

def digits (isDigit : Char → Bool) : List Char → Option (List Char × List Char)
  | [] => none
  | c :: rest =>
    if isDigit c then (moreDigits isDigit rest).map fun (ds, rest) => (c :: ds, rest) else none

/-- An integer without superfluous zeros. -/
def wholePart : List Char → Option (List Char × List Char)
  | '0' :: rest => some (['0'], rest)
  | cs => digits Char.isDigit cs

def isOctal (c : Char) : Bool := '0' ≤ c && c ≤ '7'

def isBinary (c : Char) : Bool := c = '0' || c = '1'

def inRange (n : Int) : Option Int :=
  if Int64.minValue.toInt ≤ n ∧ n ≤ Int64.maxValue.toInt then some n else none

/-- An integer in another base, from behind the base mark on. -/
def basedInteger (base : Nat) (isDigit : Char → Bool) (cs : List Char) :
    Option (Node × List Char) := do
  let (ds, rest) ← digits isDigit cs
  return (.integer (← inRange (Numeral.digitsValue base ds)), rest)

/-- Digits behind a point, if there is one. -/
def fractionPart : List Char → Option (Option (List Char) × List Char)
  | '.' :: rest => do
    let (ds, rest) ← digits Char.isDigit rest
    return (some ds, rest)
  | cs => some (none, cs)

/-- An exponent, if there is one. -/
def exponentPart : List Char → Option (Option Int × List Char)
  | c :: rest =>
    if c = 'e' ∨ c = 'E' then do
      let (negative, rest) := Numeral.takeSign rest
      let (ds, rest) ← digits Char.isDigit rest
      let n : Int := Numeral.digitsValue 10 ds
      return (some (if negative then -n else n), rest)
    else some (none, c :: rest)
  | [] => some (none, [])

def real? (x : Float) : Option Node := if x.isInf && 0.0 < x then none else some (.real x)

/-- A decimal number, from behind its sign on. -/
def decimalNumber (negative : Bool) (cs : List Char) : Option (Node × List Char) := do
  let (whole, rest) ← wholePart cs
  let (fraction, rest) ← fractionPart rest
  let (exponent, rest) ← exponentPart rest
  match fraction, exponent with
  | none, none =>
    let n : Int := Numeral.digitsValue 10 whole
    return (.integer (← inRange (if negative then -n else n)), rest)
  | _, _ =>
    let ds := fraction.getD []
    let x := Binary64.ofDecimal negative (Numeral.digitsValue 10 (whole ++ ds))
      (exponent.getD 0 - ds.length)
    return (← real? x, rest)

def number (cs : List Char) : Option (Node × List Char) :=
  match cs with
  | '0' :: 'x' :: rest => basedInteger 16 Numeral.isHexDigit rest
  | '0' :: 'o' :: rest => basedInteger 8 isOctal rest
  | '0' :: 'b' :: rest => basedInteger 2 isBinary rest
  | cs =>
    let (negative, rest) := Numeral.takeSign cs
    match rest with
    | 'i' :: 'n' :: 'f' :: rest => some (.real (Binary64.infinity negative), rest)
    | 'n' :: 'a' :: 'n' :: rest => some (.real Binary64.nan, rest)
    | rest => decimalNumber negative rest

/-- Exactly so many digits, with a value between two bounds. -/
def field (count low high : Nat) (cs : List Char) : Option (Nat × List Char) :=
  let ds := cs.take count
  let n := Numeral.digitsValue 10 ds
  if ds.length = count ∧ ds.all Char.isDigit ∧ low ≤ n ∧ n ≤ high then some (n, cs.drop count)
  else none

def mark (c : Char) : List Char → Option (List Char)
  | [] => none
  | d :: rest => if d = c then some rest else none

def isLeapYear (year : Nat) : Bool := year % 4 = 0 && (year % 100 ≠ 0 || year % 400 = 0)

def daysOf (year month : Nat) : Nat :=
  match month with
  | 2 => if isLeapYear year then 29 else 28
  | 4 | 6 | 9 | 11 => 30
  | _ => 31

/-- Skips a date. -/
def date (cs : List Char) : Option (List Char) := do
  let (year, cs) ← field 4 0 9999 cs
  let cs ← mark '-' cs
  let (month, cs) ← field 2 1 12 cs
  let cs ← mark '-' cs
  let (_, cs) ← field 2 1 (daysOf year month) cs
  return cs

/-- Skips a time of day, with a fraction of a second if there is one. -/
def timeOfDay (cs : List Char) : Option (List Char) := do
  let (_, cs) ← field 2 0 23 cs
  let cs ← mark ':' cs
  let (_, cs) ← field 2 0 59 cs
  let cs ← mark ':' cs
  let (_, cs) ← field 2 0 60 cs
  match cs with
  | '.' :: c :: rest => return if c.isDigit then rest.dropWhile Char.isDigit else cs
  | cs => return cs

/-- Skips the distance from universal time, if there is one. -/
def offset (cs : List Char) : List Char :=
  match cs with
  | 'Z' :: rest | 'z' :: rest => rest
  | '+' :: rest | '-' :: rest =>
    ((do
      let (_, rest) ← field 2 0 23 rest
      let rest ← mark ':' rest
      let (_, rest) ← field 2 0 59 rest
      return rest) : Option (List Char)).getD cs
  | cs => cs

/-- Skips a date, a time, or a date with a time and an offset. -/
def moment (cs : List Char) : Option (Node × List Char) :=
  match date cs with
  | some rest =>
    match rest with
    | c :: behind =>
      if c = 'T' ∨ c = 't' ∨ c = ' ' then
        match timeOfDay behind with
        | some rest => some (.moment, offset rest)
        | none => some (.moment, rest)
      else some (.moment, rest)
    | [] => some (.moment, [])
  | none => (timeOfDay cs).map fun rest => (.moment, rest)

/-- What begins with a digit or a sign: a moment if it can be one, or else a number. -/
def numberOrMoment (cs : List Char) : Option (Node × List Char) :=
  match moment cs with
  | some parsed => some parsed
  | none => number cs

end StationScript.Toml
