import StationScript.Lua.Key

/-!
The place that a table gives to each of its keys.

A table has a row of slots for the positions from one up to its capacity and a set of nodes for all
other keys. When no node is left, the table is laid out anew: the capacity becomes the largest power
of two of which more than half would be in use, and the other keys get just enough nodes. Values do
not depend on the layout, but of several borders of a list with gaps the layout decides which one is
its length.
-/

set_option autoImplicit false

namespace StationScript.Lua

structure Layout where
  /-- Positions up to this one have a slot. -/
  capacity : Nat := 0
  /-- Where the search for a border begins. -/
  hint : Nat := 0
  /-- The key that each node was given to. The number of nodes is zero or a power of two. -/
  nodes : Array (Option Key) := #[]
  /-- Free nodes are sought below this one. -/
  unsought : Nat := 0
  /-- How many nodes belong to keys that have lost their value. -/
  abandoned : Nat := 0
  deriving Inhabited

namespace Layout

/-- The least exponent of a power of two that is not below a number. -/
def ceilingLog (n : Nat) : Nat := if n ≤ 1 then 0 else Nat.log2 (n - 1) + 1

/-- As many nodes as that many keys need. -/
def nodeCount (keys : Nat) : Nat := if keys = 0 then 0 else Nat.pow 2 (ceilingLog keys)

/-- Room for a number of positions and a number of other keys. -/
def sized (capacity keys : Nat) : Layout :=
  let count := nodeCount keys
  { capacity, hint := capacity, nodes := Array.replicate count none, unsought := count }

/-- The key is a position that has a slot. -/
def hasSlot (layout : Layout) (key : Key) : Bool :=
  match key.index? with
  | some n => n ≤ layout.capacity
  | none => false

/-- A double's share in the choice of its node: its fraction scaled to 32 bits, plus its
exponent. -/
def scatterNumber (bits : UInt64) : Nat :=
  match Binary64.classify (Float.ofBits bits) with
  | .nan | .infinite _ => 0
  | .finite negative mantissa exponent =>
    let order : Int := Nat.log2 mantissa + 1
    let (num, den) := Binary64.scaleTwo mantissa 1 (31 - order)
    let scaled : Int := if negative then -((num / den : Nat) : Int) else (num / den : Nat)
    let mixed := ((exponent + order + scaled) % 0x100000000).toNat
    if mixed ≤ 0x7FFFFFFF then mixed else 0xFFFFFFFF - mixed

/-- The node that a key would like to have, of so many. -/
def favourite (count : Nat) : Key → Nat
  | .boolean b => if b then 1 % count else 0
  | .integer n => n.toUInt64.toNat % (count - 1 ||| 1)
  | .number bits => scatterNumber bits % (count - 1 ||| 1)
  | .string bytes => (hash bytes).toNat % count
  | key => (hash key).toNat % (count - 1 ||| 1)

/-- The last free node below the ones that were sought already. -/
def seekFree (nodes : Array (Option Key)) : Nat → Option Nat
  | 0 => none
  | n + 1 => if (nodes.getD n none).isNone then some n else seekFree nodes n

/-- How a new key gets a node. -/
inductive Placement where
  /-- It takes a node that nothing has used. -/
  | fresh (node : Nat)
  /-- It takes the node of a key that has lost its value. -/
  | reused (node : Nat)
  /-- Its favourite node is rightly in use, so it takes a free one. -/
  | beside (free : Nat)
  /-- It takes its favourite node, and the key there moves to a free one. -/
  | instead (node free : Nat)

/-- How a new key gets a node, if there is one. A key that sits on the favourite node of another one
without preferring it moves away. -/
def placement? (layout : Layout) (live : Key → Bool) (key : Key) : Option Placement :=
  let count := layout.nodes.size
  if count = 0 then none
  else
    let node := favourite count key
    match layout.nodes.getD node none with
    | none => some (.fresh node)
    | some holder =>
      if live holder then
        match seekFree layout.nodes layout.unsought with
        | none => none
        | some free =>
          if favourite count holder = node then some (.beside free) else some (.instead node free)
      else some (.reused node)

def place (layout : Layout) (key : Key) (placement : Placement) : Layout :=
  match layout with
  | { capacity, hint, nodes, unsought, abandoned } =>
    match placement with
    | .fresh node => { capacity, hint, nodes := nodes.set! node (some key), unsought, abandoned }
    | .reused node =>
      { capacity, hint, nodes := nodes.set! node (some key), unsought, abandoned := abandoned - 1 }
    | .beside free =>
      { capacity, hint, nodes := nodes.set! free (some key), unsought := free, abandoned }
    | .instead node free =>
      let holder := nodes.getD node none
      { capacity, hint, nodes := (nodes.set! free holder).set! node (some key), unsought := free,
        abandoned }

/-- Gives a node to a key if there is one. -/
def giveNode (layout : Layout) (live : Key → Bool) (key : Key) : Layout :=
  match layout.placement? live key with
  | some placement => layout.place key placement
  | none => layout

/-- Gives every key of a list its slot or node. -/
def giveAll (layout : Layout) (live : Key → Bool) (keys : List Key) : Layout :=
  keys.foldl
    (fun layout key =>
      if layout.hasSlot key then layout else layout.giveNode live key)
    layout

/-- The keys with values among the nodes. -/
def nodeKeys (layout : Layout) (live : Key → Bool) : List Key :=
  layout.nodes.toList.filterMap fun node => node.filter live

/-- The keys with values in slots behind the first `count`. -/
def slotKeys (layout : Layout) (live : Key → Bool) (count : Nat) : List Key :=
  ((List.range (layout.capacity - count)).map fun i => Key.ofIndex (count + i + 1)).filter live

/-- A new layout of given size for the same keys. -/
def resize (layout : Layout) (live : Key → Bool) (capacity keys : Nat) : Layout :=
  (sized capacity keys).giveAll live (layout.slotKeys live capacity ++ layout.nodeKeys live)

/-- Larger positions never get a slot. -/
def capacityLimit : Nat := 0x80000000

/-- How many of the positions lie between consecutive powers of two: the entry at `i` counts those
above `2 ^ (i - 1)` and up to `2 ^ i`. -/
def census (keys : List Key) : Array Nat :=
  keys.foldl
    (fun counts key =>
      match key.index? with
      | some n =>
        if n ≤ capacityLimit then counts.modify (ceilingLog n) fun c => c + 1 else counts
      | none => counts)
    (Array.replicate 32 0)

/-- The best capacity and how many positions it holds: the largest power of two of which more than
half is in use. -/
def bestCapacity (counts : Array Nat) : Nat × Nat :=
  let total := counts.foldl (· + ·) 0
  let start : Nat × Nat × Nat := (0, 0, 0)
  let best := (List.range 32).foldl
    (fun (best : Nat × Nat × Nat) i =>
      let (capacity, held, below) := best
      let size := Nat.pow 2 i
      if size / 2 < total then
        let below := below + counts.getD i 0
        if size / 2 < below then (size, below, below) else (capacity, held, below)
      else best)
    start
  (best.1, best.2.1)

/-- Lays the keys out anew, with a key that is to be added. -/
def rebuild (layout : Layout) (live : Key → Bool) (key : Key) : Layout :=
  let keys := layout.slotKeys live 0 ++ layout.nodeKeys live
  let (capacity, held) := bestCapacity (census (key :: keys))
  layout.resize live capacity (keys.length + 1 - held)

/-- Makes a place for a key that has no value yet. -/
def occupy (layout : Layout) (live : Key → Bool) (key : Key) : Layout :=
  if layout.hasSlot key then layout
  else if layout.abandoned ≠ 0 && layout.nodes.contains (some key) then
    { layout with abandoned := layout.abandoned - 1 }
  else
    match layout.placement? live key with
    | some placement => layout.place key placement
    | none => (layout.rebuild live key).giveAll live [key]

/-- A key loses its value but not its place. -/
def abandon (layout : Layout) (key : Key) : Layout :=
  if layout.hasSlot key then layout else { layout with abandoned := layout.abandoned + 1 }

/-- Reading a position between the hint and the capacity moves the hint there. -/
def touch (layout : Layout) (key : Key) : Layout :=
  match key.index? with
  | some n => if layout.hint < n ∧ n ≤ layout.capacity then { layout with hint := n } else layout
  | none => layout

def isPowerOfTwo (n : Nat) : Bool := n = 0 || Nat.pow 2 (Nat.log2 n) = n

/-- Halves the gap between a position with a value, or zero, and one without. -/
def bisect (present : Nat → Bool) : Nat → Nat → Nat → Nat
  | 0, low, _ => low
  | fuel + 1, low, high =>
    if high ≤ low + 1 then low
    else
      let middle := (low + high) / 2
      if present middle then bisect present fuel middle high else bisect present fuel low middle

/-- Doubles a position until it has no value. -/
def overshoot (present : Nat → Bool) : Nat → Nat → Nat → Nat × Nat
  | 0, low, high => (low, high)
  | fuel + 1, low, high =>
    if present high then overshoot present fuel high (2 * high) else (low, high)

/-- A border behind the last slot. -/
def borderBehind (present : Nat → Bool) (n : Nat) : Nat :=
  if present (n + 1) then
    let start := if n = 0 then 1 else n
    let (low, high) := overshoot present 64 start (2 * start)
    bisect present 64 low high
  else n

/-- A border: a position with a value, or zero, whose successor has none. The second part is the
hint for the next search; a hint always lies in the upper half of the slots. -/
def border (layout : Layout) (present : Nat → Bool) : Nat × Nat :=
  let n := layout.hint
  let capacity := layout.capacity
  if 0 < n && !present n then
    if 2 ≤ n && present (n - 1) then
      (n - 1, if isPowerOfTwo capacity && !isPowerOfTwo (n - 1) then n - 1 else n)
    else
      let found := bisect present 64 0 n
      (found, if isPowerOfTwo capacity && capacity / 2 < found then found else n)
  else if n < capacity then
    if !present (n + 1) then (n, n)
    else if !present capacity then
      let found := bisect present 64 n capacity
      (found, found)
    else (borderBehind present capacity, n)
  else (borderBehind present n, n)

end Layout

end StationScript.Lua
