import StationScript.Lua.Operand

/-!
Names and blocks while a function is built.

A name means the innermost variable in scope, of this function or of an enclosing one, and otherwise
a field of the globals. Leaving a block ends its variables and settles the jumps that wait for its
labels.
-/

set_option autoImplicit false

namespace StationScript.Lua.Assembler

/-- So many local variables can a function have at once. -/
def localLimit : Nat := 200

/-- So many variables can a function capture. -/
def captureLimit : Nat := 255

def checkLimit (count limit : Nat) (what : String) : Assembler Unit := do
  if limit < count then throw (.tooMany what limit (← draft).line)

/-- Declares a local variable that is not in scope yet. -/
def declare (name : String) (readOnly : Bool) : Assembler Unit := do
  let d ← draft
  checkLimit (d.locals.size + d.declared.size + 1) localLimit "local variables"
  modifyDraft fun d => { d with declared := d.declared.push (name, readOnly) }

/-- Brings the first declared variables into scope; they live in the registers behind those of the
variables before them. -/
def enterScope (count : Nat) : Assembler Unit := do
  let first ← variableRegisters
  modifyDraft fun d =>
    let position := d.code.size
    let entering := (d.declared.toList.take count).zipIdx
    { d with
      declared := (d.declared.toList.drop count).toArray
      locals := d.locals ++ (entering.map fun ((name, readOnly), i) =>
        { name, kind := .register (first + i) (d.ranges.size + i), readOnly }).toArray
      ranges := d.ranges ++ (entering.map fun ((name, _), _) =>
        { name, start := position, stop := 0 }).toArray }

/-- Brings the last declared variable into scope as a name for a constant. -/
def enterConstant (value : Value) : Assembler Unit :=
  modifyDraft fun d =>
    match d.declared.back? with
    | some (name, _) =>
      { d with
        declared := d.declared.pop
        locals := d.locals.push { name, kind := .constant value, readOnly := true } }
    | none => d

/-- Starts the range of the last variable anew: the name shows from here on. -/
def restartLast : Assembler Unit :=
  modifyDraft fun d =>
    match d.locals.back? with
    | some { kind := .register _ range, .. } =>
      { d with ranges := d.ranges.modify range fun r => { r with start := d.code.size } }
    | _ => d

/-- Ends the variables beyond the first `depth`. -/
def leaveScope (depth : Nat) : Assembler Unit :=
  modifyDraft fun d =>
    let ranges := (d.locals.toList.drop depth).foldl
      (fun ranges (v : LocalVariable) =>
        match v.kind with
        | .register _ range => ranges.modify range fun r => { r with stop := d.code.size }
        | .constant _ => ranges)
      d.ranges
    { d with ranges, locals := d.locals.take depth }

/-- The registers that the first `depth` variables take. -/
def registersAt (depth : Nat) : Assembler Nat := return registersOf (← draft).locals depth

def enterBlock (isLoop : Bool) : Assembler Unit :=
  modifyDraft fun d =>
    let closing := (d.blocks.head?.map Block.closing).getD false
    { d with
      blocks := { depth := d.locals.size, labels := d.labels.size, gotos := d.gotos.size, isLoop,
                  closing } :: d.blocks }

/-- Settles the jumps of the innermost block that wait for a label; says whether one of them leaves
a captured variable. -/
def settleGotos (name : Option String) (depth target : Nat) : Assembler Bool := do
  let d ← draft
  let first := (d.blocks.head?.map Block.gotos).getD 0
  let mut closes := false
  let mut kept := d.gotos.take first
  for g in d.gotos.toList.drop first do
    if g.label = name then
      if g.depth < depth then
        let entered := (d.locals[g.depth]?.map LocalVariable.name).getD ""
        throw (.jumpIntoScope (g.label.getD "break") g.line entered)
      closes := closes || g.closes
      patch g.jumps target
    else kept := kept.push g
  modifyDraft fun d => { d with gotos := kept }
  return closes

/-- Puts a label here and settles the jumps that wait for it; says whether captured variables were
closed. Behind the last statement of a block the variables of the block count as ended. -/
def placeLabel (name : Option String) (line : Nat) (isLast : Bool) : Assembler Bool := do
  let target ← label
  let d ← draft
  let outside := (d.blocks.head?.map Block.depth).getD 0
  let depth := if isLast then outside else d.locals.size
  match name with
  | some name =>
    modifyDraft fun d => { d with labels := d.labels.push { name, line, target, depth } }
  | none => pure ()
  if ← settleGotos name depth target then
    let _ ← emit (.close (← variableRegisters))
    return true
  else return false

/-- Notes jumps that wait for a label. -/
def awaitLabel (name : Option String) (line : Nat) (jumps : List Nat) : Assembler Unit :=
  modifyDraft fun d =>
    { d with gotos := d.gotos.push { label := name, line, jumps, depth := d.locals.size } }

/-- Jumps that a block leaves pending wait in the block around it. -/
def moveGotosOut (block : Block) (registersAt : Nat → Nat) : Assembler Unit :=
  modifyDraft fun d =>
    { d with gotos := d.gotos.mapIdx fun i g =>
        if i < block.gotos then g
        else
          { g with
            closes := g.closes || (registersAt block.depth < registersAt g.depth && block.captured)
            depth := block.depth } }

/-- Leaves the innermost block and returns it. -/
def leaveBlock : Assembler Block := do
  let d ← draft
  let block := d.blocks.headD default
  let outer := d.blocks.tail
  let level ← registersAt block.depth
  leaveScope block.depth
  let closed ← if block.isLoop then placeLabel none 0 false else pure false
  if !closed && !outer.isEmpty && block.captured then
    let _ ← emit (.close level)
  modifyDraft fun now =>
    { now with free := level, labels := now.labels.take block.labels, blocks := outer }
  if outer.isEmpty then
    match (← draft).gotos[block.gotos]? with
    | some g =>
      match g.label with
      | some name => throw (.undefinedLabel name g.line)
      | none => throw (.strayBreak g.line)
    | none => return block
  else
    moveGotosOut block (registersOf d.locals)
    return block

/-- A variable of the innermost block stays open for as long as the block runs. -/
def markClosing : Assembler Unit :=
  modifyDraft fun d =>
    match d.blocks with
    | b :: rest => { d with blocks := { b with captured := true, closing := true } :: rest }
    | [] => d

/-- Marks the block of a variable that an inner function captures. -/
def markCaptured (position : Nat) : List Block → List Block
  | [] => []
  | b :: rest =>
    if position < b.depth then b :: markCaptured position rest
    else { b with captured := true } :: rest

/-- A variable that a name means in one function. -/
inductive Found where
  | inRegister (r position : Nat) (readOnly : Bool)
  | asConstant (value : Value)
  | captured (up : Nat) (readOnly : Bool)

def findLocal (name : String) (d : Draft) : Option Found := do
  let position ← d.locals.toList.zipIdx.reverse.findSome? fun (v, i) =>
    if v.name = name then some i else none
  let v := d.locals.getD position default
  match v.kind with
  | .register r _ => some (.inRegister r position v.readOnly)
  | .constant value => some (.asConstant value)

/-- Lets a function capture a variable, and returns the place it gets. -/
def capture (d : Draft) (c : Capture) : Except DraftFault (Draft × Nat) :=
  if captureLimit < d.captures.size + 1 then .error (.tooMany "upvalues" captureLimit d.line)
  else .ok ({ d with captures := d.captures.push c }, d.captures.size)

/-- Looks a name up in a list of functions, the innermost first, and lets every function in between
capture the variable. -/
def findIn (name : String) : List Draft → Except DraftFault (List Draft × Option Found)
  | [] => .ok ([], none)
  | d :: outer =>
    match findLocal name d with
    | some found => .ok (d :: outer, some found)
    | none =>
      match d.captures.findIdx? fun c => c.name = name with
      | some up =>
        .ok (d :: outer, some (.captured up (d.captures.getD up default).readOnly))
      | none => do
        match ← findIn name outer with
        | (outer, some (.inRegister r position readOnly)) =>
          let outer :=
            match outer with
            | o :: rest => { o with blocks := markCaptured position o.blocks } :: rest
            | [] => []
          let (d, up) ← capture d { name, fromRegister := true, position := r, readOnly }
          .ok (d :: outer, some (.captured up readOnly))
        | (outer, some (.captured up readOnly)) =>
          let (d, up) ← capture d { name, fromRegister := false, position := up, readOnly }
          .ok (d :: outer, some (.captured up readOnly))
        | (outer, found) => .ok (d :: outer, found)

/-- The operand for a variable in scope, if the name means one. -/
def findVariable (name : String) : Assembler (Option Operand) := do
  let a ← get
  match findIn name (a.draft :: a.outer) with
  | .error fault => throw fault
  | .ok (drafts, found) =>
    match drafts with
    | d :: outer => set { a with draft := d, outer }
    | [] => pure ()
    match found with
    | some (.inRegister r _ readOnly) => return some (.localVariable r name readOnly)
    | some (.asConstant value) => return some (.namedConstant name value)
    | some (.captured up readOnly) => return some (.upvalue up name readOnly)
    | none => return none

end StationScript.Lua.Assembler
