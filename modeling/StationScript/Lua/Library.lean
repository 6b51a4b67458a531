import StationScript.Lua.Native

/-!
The native functions of the language.

`perform` starts a function and `resume` goes on when a function that it has called returned.
-/

set_option autoImplicit false

namespace StationScript.Lua.Library

open Native

/-- A stand-in for an address. -/
def address (ref : Nat) : String :=
  let digits := Nat.toDigits 16 (0x5500000000 + 64 * ref)
  "0x" ++ String.ofList (List.replicate (14 - digits.length) '0' ++ digits)

/-- The text of a value that its metatable does not provide. -/
def plainText (heap : Heap) (value : Value) : ByteArray :=
  match value with
  | .nil => "nil".toUTF8
  | .boolean b => (if b then "true" else "false").toUTF8
  | .integer n => (Numeral.integerText n).toUTF8
  | .number x => (Numeral.realText x).toUTF8
  | .string bytes => bytes
  | .table ref => (heap.typeName value ++ ": " ++ address ref).toUTF8
  | .function (.closure ref) => ("function: " ++ address ref).toUTF8
  | .function _ => "function: builtin".toUTF8
  | .thread ref => ("thread: " ++ address ref).toUTF8
  | .failure ref => (heap.failureText ref).toUTF8
  | .userdata ref => (heap.typeName value ++ ": " ++ address ref).toUTF8

/-- The text of a value; if its metatable has a function for it, that one is called. -/
def textOf (value : Value) (next : Continuation) : Native ByteArray := do
  let heap ← get
  match heap.metafield value "tostring" with
  | .nil => return plainText heap value
  | handler => throw (.call handler [value] next)

/-- The text that such a function has returned. -/
def returnedText (results : List Value) : Native ByteArray :=
  match (results.headD .nil).toBytes? with
  | some bytes => return bytes
  | none => refuse "'__tostring' must return a string"

/-- Raises a value; a text gets the place that the frame at the level has reached. -/
def raiseAt (level : Int64) (value : Value) : Native (List Value) := do
  match value with
  | .string bytes =>
    let level := level.toInt32
    if 0 < level then
      let place := Frame.placed (← frames) level.toNatClampNeg ""
      raise (.string (place.toUTF8 ++ bytes))
    else raise value
  | value => raise value

def assert : Native (List Value) := do
  match ← anyArgument 1 with
  | .nil | .boolean false => raiseAt 1 ((← argument? 2).getD (.ofText "assertion failed!"))
  | _ => arguments

def select : Native (List Value) := do
  let arguments ← arguments
  let isCount : Bool := match arguments.head? with
    | some (.string bytes) => bytes.data[0]? = some 35
    | _ => false
  if isCount then return [.integer (Int64.ofNat (arguments.length - 1))]
  let n ← integerArgument 1
  let start : Int := if n < 0 then arguments.length + n.toInt else n.toInt
  if start < 1 then refuseArgument 1 "index out of range" else return arguments.drop start.toNat

/-- No string can be longer. -/
def lengthLimit : Nat := 0x7FFFFFFFFFFFFFFF

/-- Longer strings do not fit into memory. -/
def memoryLimit : Nat := 0x80000000

def repeatBytes : Native (List Value) := do
  let unit ← bytesArgument 1
  let count ← integerArgument 2
  let gap ← match ← argument 3 with
    | .nil => pure ByteArray.empty
    | _ => bytesArgument 3
  if count ≤ 0 then return [.string ByteArray.empty]
  let count := count.toNatClampNeg
  let size := count * (unit.size + gap.size)
  if lengthLimit < size then refuse "resulting string too large"
  if memoryLimit ≤ size then raise (.ofText "not enough memory")
  if size = 0 then return [.string ByteArray.empty]
  let bytes := (List.replicate (count - 1) ()).foldl (fun text _ => text ++ gap ++ unit) unit
  return [.string bytes]

/-- A byte sequence from the characters of the same numbers. -/
def bytesOfChars (cs : List Char) : ByteArray := ⟨(cs.map fun c => UInt8.ofNat c.toNat).toArray⟩

/-- The directive for a conversion, if the modifiers fit it. -/
def directive (conversion : Char) (modifiers : List Char) : Native Directive := do
  let shown := "'%" ++ String.ofList (modifiers ++ [conversion]) ++ "'"
  match Directive.modifiers? conversion with
  | none => refuse ("invalid conversion " ++ shown ++ " to 'format'")
  | some (flags, hasPrecision) =>
    match Directive.ofModifiers? flags hasPrecision conversion modifiers with
    | some d => return d
    | none => refuse ("invalid conversion specification: " ++ shown)

/-- The written form of the text of an argument. -/
def formattedText (d : Directive) (position : Nat) (isPlain : Bool) (bytes : ByteArray) :
    Native (List Char) := do
  let cs := Value.asciiChars bytes
  if isPlain then return cs
  if cs.contains '\x00' then refuseArgument position "string contains zeros"
  if d.precision.isNone && 100 ≤ cs.length then return cs
  return d.text cs

/-- A text without modifiers is written as it is. -/
def isPlain (d : Directive) : Bool := d.width = 0 && d.precision.isNone && !d.leftAligned

/-- The written form of the argument at a position. If a function has to be called for its text,
formatting goes on with `rest` behind what is `written`. -/
def formatted (conversion : Char) (modifiers : List Char) (position : Nat)
    (written rest : List Char) : Native (List Char) := do
  let spelled := directive conversion modifiers
  match conversion with
  | 'd' | 'i' =>
    let n ← integerArgument position
    return (← spelled).decimal n
  | 'u' | 'o' | 'x' | 'X' =>
    let n ← integerArgument position
    return (← spelled).unsigned n
  | 'c' =>
    let d ← spelled
    let n ← integerArgument position
    return d.text [Char.ofNat (n.toInt.emod 256).toNat]
  | 'e' | 'E' | 'f' | 'g' | 'G' =>
    let x ← numberArgument position
    return (← spelled).real x.toDouble
  | 's' =>
    let value ← argument position
    let d := (Directive.ofModifiers? "-" true 's' modifiers).getD { conversion := 's' }
    let bytes ← textOf value (.format d written rest position)
    if modifiers.isEmpty then formattedText d position true bytes
    else formattedText (← spelled) position false bytes
  | _ =>
    let d ← spelled
    return d.text []

/-- Formats from a place in the format on; `position` is that of the argument used last, and what
has been written is held in reverse. -/
def formatFrom : (fuel : Nat) → (position : Nat) → (written : List Char) → List Char →
    Native (List Char)
  | 0, _, written, _ => return written.reverse
  | _ + 1, _, written, [] => return written.reverse
  | fuel + 1, position, written, '%' :: '%' :: rest =>
    formatFrom fuel position ('%' :: written) rest
  | fuel + 1, position, written, '%' :: rest => do
    let position := position + 1
    if (← argument? position).isNone then refuseArgument position "no value"
    let modifiers := rest.takeWhile Directive.isModifier
    if Directive.lengthLimit ≤ modifiers.length + 1 then
      refuse "invalid format string to 'format'"
    match rest.drop modifiers.length with
    | [] => refuse ("invalid conversion '%" ++ String.ofList modifiers ++ "' to 'format'")
    | conversion :: rest =>
      let text ← formatted conversion modifiers position written rest
      formatFrom fuel position (text.reverse ++ written) rest
  | fuel + 1, position, written, c :: rest => formatFrom fuel position (c :: written) rest

/-- The remaining format is shorter than the fuel. -/
def formatRest (position : Nat) (written rest : List Char) : Native (List Value) := do
  return [.string (bytesOfChars (← formatFrom (rest.length + 1) position written rest))]

def format : Native (List Value) := do
  formatRest 1 [] (Value.asciiChars (← bytesArgument 1))

def setMetatable : Native (List Value) := do
  let second ← argument? 2
  let ref ← tableArgument 1
  let metatable : Option Nat ← match second with
    | some .nil => pure none
    | some (.table m) => pure (some m)
    | _ => refuseType 2 "nil or table"
  if ((← get).metafield (.table ref) "metatable").isNil then
    modify fun heap => (heap.modifyTable ref fun t => { t with metatable }).mark ref
    return [.table ref]
  else refuse "cannot change a protected metatable"

/-- The metatable of a failure is hidden behind the value false. -/
def getMetatable : Native (List Value) := do
  let value ← anyArgument 1
  let heap ← get
  match value, heap.metatable? value, heap.metafield value "metatable" with
  | .failure _, _, _ => return [.boolean false]
  | _, none, _ => return [.nil]
  | _, some ref, .nil => return [.table ref]
  | _, some _, field => return [field]

def rawGet : Native (List Value) := do
  let ref ← tableArgument 1
  let key ← anyArgument 2
  modify fun heap => heap.noteReading key 1 (.table ref)
  return [(← get).getRaw ref key]

def rawSet : Native (List Value) := do
  let ref ← tableArgument 1
  let key ← anyArgument 2
  let value ← anyArgument 3
  match Key.ofValue key with
  | .ok key =>
    modify fun heap => heap.setRaw ref key value
    return [.table ref]
  | .error fault => raise (.ofText fault.message)

def rawLength : Native (List Value) := do
  match ← argument? 1 with
  | some (.table ref) =>
    let (n, table) := ((← get).table ref).length
    modify fun heap => heap.modifyTable ref fun _ => table
    return [.integer (Int64.ofNat n)]
  | some (.string bytes) => return [.integer (Int64.ofNat bytes.size)]
  | _ => refuseType 1 "table or string"

def absolute : Native (List Value) := do
  match ← argument? 1 with
  | some (.integer n) => return [.integer (if n < 0 then -n else n)]
  | _ => return [.number (← numberArgument 1).toDouble.abs]

/-- Computes with numbers that strings stand for. A second operand that is no string and has a
handler of its own has the last word. -/
def computeText (event : Event)
    (compute : Numeral.Number → Numeral.Number → Except NumberFault Numeral.Number) :
    Native (List Value) := do
  let x ← argument 1
  let y ← argument 2
  match x.toNumber?, y.toNumber? with
  | some m, some n =>
    match compute m n with
    | .ok result => return [.ofNumber result]
    | .error fault => raise (.ofText fault.message)
  | _, _ =>
    let heap ← get
    let own : Value := match y with
      | .string _ => .nil
      | y => heap.handler y event
    match own with
    | .nil =>
      refuse ("attempt to " ++ event.name ++ " a " ++ inQuotes x.typeName ++ " with a " ++
        inQuotes y.typeName)
    | handler => throw (.call handler [x, y] .first)

/-- Prints the texts of values. Nobody hears them, but a metatable may have a say in what they
are. -/
def printFrom : List Value → Native (List Value)
  | [] => return []
  | value :: rest => do
    let _ ← textOf value (.print rest)
    printFrom rest

/-- The result of a library function. -/
def perform : LibraryFunction → Native (List Value)
  | .assert => assert
  | .error => do
    let level ← optionalInteger 2 1
    raiseAt level (← argument 1)
  | .getmetatable => getMetatable
  | .mathAbs => absolute
  | .mathType => do
    match ← anyArgument 1 with
    | .integer _ => return [.ofText "integer"]
    | .number _ => return [.ofText "float"]
    | _ => return [.nil]
  | .pcall => do
    let f ← anyArgument 1
    throw (.call f (← arguments).tail .protect)
  | .print => do printFrom (← arguments)
  | .rawequal => do
    let x ← anyArgument 1
    let y ← anyArgument 2
    return [.boolean (x.rawEqual y)]
  | .rawget => rawGet
  | .rawlen => rawLength
  | .rawset => rawSet
  | .select => select
  | .setmetatable => setMetatable
  | .stringFormat => format
  | .stringRep => repeatBytes
  | .stringArithmetic op => computeText (.arithmetic op) op.apply
  | .stringNegate => computeText .negate fun n _ => .ok (negate n)
  | .coroutineCreate => do
    match ← argument? 1 with
    | some (.function _) =>
      let (heap, ref) := (← get).addThread
      set heap
      return [.thread ref]
    | _ => refuseType 1 "function"
  | .tostring => do
    let value ← anyArgument 1
    return [.string (← textOf value .text)]
  | .type => do
    let value ← anyArgument 1
    return [.ofText value.typeName]

/-- Goes on with the results of a function that was called. -/
def resume (results : List Value) : Continuation → Native (List Value)
  | .none => return results
  | .protect => return .boolean true :: results
  | .first => return [results.headD .nil]
  | .unwind value => raise value
  | .text => return [.string (← returnedText results)]
  | .print rest => do
    let _ ← returnedText results
    printFrom rest
  | .format d written rest position => do
    let text ← formattedText d position (isPlain d) (← returnedText results)
    formatRest position (text.reverse ++ written) rest

/-- The name of the global that holds the device's id. -/
def componentName : String := "SmartComponent"

/-- The key of the global that holds the device's id. -/
def isComponentKey : Value → Bool
  | .string bytes => Utf8.decodeLossy bytes = componentName
  | _ => false

/-- The table of globals is what the functions behind it are told first. -/
def guardedTable : Native Nat := do
  match ← argument 1 with
  | .table ref => return ref
  | other => fail ("bad argument #1: error converting Lua " ++ other.hostTypeName ++ " to table")

/-- The answer for an absent global: one name is known. -/
def readComponent : Native (List Value) := do
  let _ ← guardedTable
  if isComponentKey (← argument 2) then return [.ofText (← get).component] else return [.nil]

/-- Assigns to an absent global, but refuses one name. -/
def writeComponent : Native (List Value) := do
  let ref ← guardedTable
  let key ← argument 2
  if isComponentKey key then fail ("runtime error: " ++ componentName ++ " is read-only")
  let (heap, key) := (← get).renew key
  let (heap, value) := heap.renew (← argument 3)
  set heap
  match Key.ofValue key with
  | .ok key =>
    modify fun heap => heap.setRaw ref key value
    return []
  | .error fault => fail ("runtime error: " ++ fault.message)

end StationScript.Lua.Library
