import StationScript.Decimal.Text
import StationScript.Text.Quoted
import StationScript.Toml.Document

/-!
Reading values and records out of documents.

A record stands as a table, or as an array that gives its fields in order. What is present is
checked in the order in which it stands; missing fields are reported after that. Keys that name no
field are ignored.
-/

set_option autoImplicit false

namespace StationScript.Toml

/-- Why a node is not accepted. -/
inductive Mismatch where
  | wrongType (found expected : String)
  | outOfRange (found expected : String)
  | missingField (name : String)
  /-- An array ends before the last required field. -/
  | tooShort (found : Nat) (expected : String)
  deriving Repr, DecidableEq

def Mismatch.message : Mismatch → String
  | .wrongType found expected => "invalid type: " ++ found ++ ", expected " ++ expected
  | .outOfRange found expected => "invalid value: " ++ found ++ ", expected " ++ expected
  | .missingField name => "missing field `" ++ name ++ "`"
  | .tooShort found expected => s!"invalid length {found}, expected " ++ expected

/-- Why a text does not hold what was asked for. -/
inductive Fault where
  | malformed
  | mismatch (cause : Mismatch)
  deriving Repr, DecidableEq

def Fault.message : Fault → String
  | .malformed => "TOML parse error"
  | .mismatch cause => "TOML parse error: " ++ cause.message

/-- Reads a node as a value. -/
abbrev Decoder (α : Type) := Node → Except Mismatch α

/-- A node as it stands in messages. -/
def Node.describe : Node → String
  | string text => "string " ++ Text.quoted text
  | integer n => s!"integer `{n}`"
  | real x => "floating point `" ++ Decimal.positionalPoint x ++ "`"
  | boolean true => "boolean `true`"
  | boolean false => "boolean `false`"
  | array _ | tables _ => "sequence"
  | moment | table .. => "map"

namespace Decoder

variable {α : Type}

/-- Refuses a node of the wrong type. -/
def refuse (expected : String) : Decoder α := fun node =>
  .error (.wrongType node.describe expected)

def text : Decoder String
  | .string text => .ok text
  | node => refuse "a string" node

def path : Decoder String
  | .string text => .ok text
  | node => refuse "path string" node

def flag : Decoder Bool
  | .boolean b => .ok b
  | node => refuse "a boolean" node

/-- A natural number; documents hold none beyond 64 bits. -/
def count : Decoder UInt64
  | .integer n =>
    if n < 0 then .error (.outOfRange (Node.integer n).describe "u64")
    else .ok (UInt64.ofNat n.toNat)
  | node => refuse "u64" node

/-- A number with or without a fraction. -/
def number : Decoder Float
  | .real x => .ok x
  | .integer n => .ok (Binary64.ofInt n)
  | node => refuse "f64" node

def list (item : Decoder α) : Decoder (List α)
  | .array nodes => nodes.mapM item
  | .tables tables => tables.mapM fun entries => item (.table .header entries)
  | node => refuse "a sequence" node

end Decoder

/-- A field of a record: its name, and what it accepts. -/
structure Field where
  name : String
  check : Decoder Unit

/-- The field that holds what a decoder reads. -/
def Field.holding {α : Type} (name : String) (decode : Decoder α) : Field :=
  ⟨name, fun node => (decode node).map fun _ => ()⟩

/-- Checks what stands under the names of fields. -/
def checkFields (fields : List Field) (entries : Entries) : Except Mismatch Unit :=
  entries.forM fun (key, node) =>
    match fields.find? fun f => f.name = key with
    | some f => f.check node
    | none => .ok ()

namespace Entries

variable {α : Type}

def required (entries : Entries) (name : String) (decode : Decoder α) : Except Mismatch α :=
  match entries.lookup name with
  | some node => decode node
  | none => .error (.missingField name)

def optional (entries : Entries) (name : String) (decode : Decoder α) :
    Except Mismatch (Option α) :=
  match entries.lookup name with
  | some node => (decode node).map some
  | none => .ok none

end Entries

/-- A kind of record: its name, its fields in order, and how it is built from entries that the
fields accept. Only a missing field can stop that. -/
structure Shape (α : Type) where
  name : String
  fields : List Field
  build : Entries → Except Mismatch α

namespace Shape

variable {α : Type}

def ofEntries (shape : Shape α) (entries : Entries) : Except Mismatch α := do
  checkFields shape.fields entries
  shape.build entries

/-- The size of a record as it stands in messages. -/
def expected (shape : Shape α) : String :=
  let size := shape.fields.length
  shape.name ++ s!" with {size} " ++ (if size = 1 then "element" else "elements")

/-- Reads the fields by position; surplus items are ignored. -/
def ofItems (shape : Shape α) (items : List Node) : Except Mismatch α := do
  let entries := (shape.fields.map Field.name).zip items
  checkFields shape.fields entries
  match shape.build entries with
  | .error _ => .error (.tooShort items.length shape.expected)
  | .ok record => .ok record

def decode (shape : Shape α) : Decoder α
  | .table _ entries => shape.ofEntries entries
  | .moment => shape.ofEntries []
  | .array items => shape.ofItems items
  | .tables tables => shape.ofItems (tables.map (.table .header))
  | node => Decoder.refuse shape.name node

/-- Reads a record from a whole document. -/
def ofText (shape : Shape α) (text : String) : Except Fault α :=
  match Entries.ofText text with
  | none => .error .malformed
  | some entries => (shape.ofEntries entries).mapError .mismatch

end Shape

end StationScript.Toml
