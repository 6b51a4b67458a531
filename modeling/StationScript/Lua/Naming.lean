import StationScript.Lua.Instruction
import StationScript.Lua.Token

/-!
Names for values, as messages tell them.

A register has the name of the local variable that lives in it. Otherwise the instruction that set
it last tells where its value came from, provided that this instruction has certainly run.
-/

set_option autoImplicit false

namespace StationScript.Lua

/-- How a program gets at a value. -/
inductive Origin where
  | constant
  | field
  | global
  | iterator
  | localVariable
  | metamethod
  | method
  | upvalue
  deriving Repr, DecidableEq

def Origin.label : Origin → String
  | constant => "constant"
  | field => "field"
  | global => "global"
  | iterator => "for iterator"
  | localVariable => "local"
  | metamethod => "metamethod"
  | method => "method"
  | upvalue => "upvalue"

/-- The origin and name of a value. -/
structure Site where
  origin : Origin
  name : String
  deriving Repr, DecidableEq

/-- A zero byte ends a name. -/
def Site.text (site : Site) : String :=
  site.origin.label ++ " " ++ inQuotes (String.ofList (site.name.toList.takeWhile (· ≠ '\x00')))

/-- The same, as an aside. -/
def Site.aside : Option Site → String
  | some site => " (" ++ site.text ++ ")"
  | none => ""

namespace Prototype

def instruction (p : Prototype) (position : Nat) : Instruction := p.code.getD position default

/-- The line that an instruction belongs to. -/
def lineAt (p : Prototype) (position : Nat) : Nat := p.lines.getD position 0

/-- The local variable in a register when an instruction runs. -/
def localName? (p : Prototype) (position r : Nat) : Option String :=
  let begun := p.locals.toList.takeWhile fun range => range.start ≤ position
  let alive := begun.filter fun range => position < range.stop
  (alive[r]?).map LocalRange.name

/-- Whether an instruction changes a register. -/
def changes (i : Instruction) (r : Nat) : Bool :=
  match i with
  | .loadNil a count => a ≤ r && r < a + count
  | .iteratorCall a _ => a + 2 ≤ r
  | .call a _ _ | .tailCall a _ => a ≤ r
  | i => i.target? = some r

/-- What is known when the instructions before `position` have been looked at: the one that set the
register last, and the farthest target of a jump so far, before which instructions may have been
skipped. -/
structure Setter where
  position : Option Nat := none
  skipped : Nat := 0

/-- The instruction that set a register last before another one runs, if it has certainly run. -/
def setter? (p : Prototype) (position r : Nat) : Option Nat :=
  let last := if (p.instruction position).isFallback then position - 1 else position
  let found := (List.range last).foldl
    (fun (s : Setter) pc =>
      match p.instruction pc with
      | .jump target => if target ≤ last ∧ s.skipped < target ∧ pc < target then
          { s with skipped := target } else s
      | i =>
        if changes i r then { s with position := if pc < s.skipped then none else some pc } else s)
    {}
  found.position

/-- The name that a constant gives, if it is a string. -/
def constantName? (p : Prototype) (k : Nat) : Option String :=
  match p.constants.getD k .nil with
  | .string bytes => some (Utf8.decodeLossy bytes)
  | _ => none

def captureName (p : Prototype) (up : Nat) : String := ((p.captures[up]?).map Capture.name).getD "?"

/-- Where the value of a register came from: its name, or else the instruction that set it. -/
inductive Provenance where
  | named (site : Site)
  | setBy (position : Nat)
  | unknown

/-- Follows moves down to a register with a name. Registers go down at each move. -/
def provenance (p : Prototype) : Nat → Nat → Nat → Provenance
  | 0, _, _ => .unknown
  | fuel + 1, position, r =>
    match p.localName? position r with
    | some name => .named ⟨.localVariable, name⟩
    | none =>
      match p.setter? position r with
      | none => .unknown
      | some pc =>
        match p.instruction pc with
        | .move a b => if b < a then provenance p fuel pc b else .setBy pc
        | .getUpvalue _ up => .named ⟨.upvalue, p.captureName up⟩
        | .loadConstant _ k =>
          match p.constantName? k with
          | some name => .named ⟨.constant, name⟩
          | none => .setBy pc
        | _ => .setBy pc

/-- A register number is below 256. -/
def provenanceOf (p : Prototype) (position r : Nat) : Provenance := p.provenance 256 position r

/-- What a key is called if its value is not known. -/
def unknownKey : String := "?"

/-- The name of a key in a register: only that of a constant is told. -/
def keyName (p : Prototype) (position r : Nat) : String :=
  match p.provenanceOf position r with
  | .named ⟨.constant, name⟩ => name
  | _ => unknownKey

/-- Fields of the table of globals are globals. -/
def globalsOrigin (name : Option String) : Origin :=
  if name = some "_ENV" then .global else .field

/-- A field of the table in a register. -/
def fieldOrigin (p : Prototype) (position r : Nat) : Origin :=
  match p.provenanceOf position r with
  | .named ⟨.localVariable, name⟩ | .named ⟨.upvalue, name⟩ => globalsOrigin (some name)
  | _ => .field

/-- The origin and name of the value in a register when an instruction runs. -/
def site? (p : Prototype) (position r : Nat) : Option Site :=
  match p.provenanceOf position r with
  | .named site => some site
  | .unknown => none
  | .setBy pc =>
    match p.instruction pc with
    | .getUpvalueField _ up k =>
      some ⟨globalsOrigin (some (p.captureName up)), (p.constantName? k).getD unknownKey⟩
    | .getIndexed _ t k => some ⟨p.fieldOrigin pc t, p.keyName pc k⟩
    | .getInteger .. => some ⟨.field, "integer index"⟩
    | .getField _ t k => some ⟨p.fieldOrigin pc t, (p.constantName? k).getD unknownKey⟩
    | .method _ _ (.constant k) => some ⟨.method, (p.constantName? k).getD unknownKey⟩
    | .method _ _ (.register k) => some ⟨.method, p.keyName pc k⟩
    | _ => none

/-- How an instruction names the function that it calls. -/
def calleeSite? (p : Prototype) (position : Nat) : Option Site :=
  let handler (event : Event) : Option Site := some ⟨.metamethod, event.name⟩
  match p.instruction position with
  | .call a _ _ | .tailCall a _ => p.site? position a
  | .iteratorCall .. => some ⟨.iterator, "for iterator"⟩
  | .method .. | .getUpvalueField .. | .getIndexed .. | .getInteger .. | .getField .. =>
    handler .index
  | .setUpvalueField .. | .setIndexed .. | .setInteger .. | .setField .. => handler .newindex
  | .fallback _ _ event | .fallbackImmediate _ _ event _ | .fallbackConstant _ _ event _ =>
    handler event
  | .negate .. => handler .negate
  | .complement .. => handler .complement
  | .length .. => handler .length
  | .concat .. => handler .concat
  | .equal .. => handler .equal
  | .order op .. | .orderImmediate op .. => handler op.event
  | .close .. | .answer .. => handler .close
  | _ => none

end Prototype

end StationScript.Lua
