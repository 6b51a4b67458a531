import StationScript.Script.Operator
import StationScript.Script.Value

/-!
Ranges of numeric loops.

Between integers the number of turns is known in advance, so the loop cannot run past the last
integer; a range of doubles is left when the next value lies beyond the limit.
-/

set_option autoImplicit false

namespace StationScript.Lua

open Numeral (Number)

/-- What is wrong with a range. -/
inductive RangeFault where
  | notNumber (what : String) (found : Value)
  | zeroStep

/-- The control variable, and what decides whether there is another turn. -/
inductive Range where
  | integers (current step : Int64) (remaining : UInt64)
  | doubles (current limit step : Double)

namespace Range

/-- The integer at which a loop ends, rounded toward its start. There is none if the limit lies
before all integers. An undefined limit counts as one that is too low. -/
def integerLimit? (limit : Number) (step : Int64) : Option Int64 :=
  match limit with
  | .integer n => some n
  | .real x =>
    let lower := x.floor
    let rounded := if step < 0 && lower.value != x.value then lower.add (.ofInt 1) else lower
    match rounded.toInt64? with
    | some n => some n
    | none =>
      if 0.0 < x.value then if step < 0 then none else some Int64.maxValue
      else if 0 < step then none else some Int64.minValue

/-- A step is not zero. -/
def ofIntegers (start limit step : Int64) : Option Range :=
  if 0 < step then
    if limit < start then none
    else some (.integers start step ((limit.toUInt64 - start.toUInt64) / step.toUInt64))
  else if start < limit then none
  else some (.integers start step ((start.toUInt64 - limit.toUInt64) / (0 - step.toUInt64)))

/-- The first turn of a range of doubles is left out if its start lies beyond the limit. -/
def ofDoubles (start limit step : Double) : Option Range :=
  if (if 0.0 < step.value then limit.value < start.value else start.value < limit.value) then none
  else some (.doubles start limit step)

/-- A bound, which a string may stand for. -/
def bound (what : String) (value : Value) : Except RangeFault Number :=
  match value.toNumber? with
  | some number => .ok number
  | none => .error (.notNumber what value)

/-- The first turn, if there is any. With an integer start and step only the limit can be wrong;
otherwise limit, step and start are looked at in this order, and last whether the step is zero. -/
def start? (start limit step : Value) : Except RangeFault (Option Range) :=
  match start, step with
  | .integer first, .integer increment => do
    if increment = 0 then throw .zeroStep
    let limit ← bound "limit" limit
    return (integerLimit? limit increment).bind fun last => ofIntegers first last increment
  | start, step => do
    let limit ← bound "limit" limit
    let step ← bound "step" step
    let start ← bound "initial value" start
    if step.toFloat == 0.0 then throw .zeroStep
    return ofDoubles start.toDouble limit.toDouble step.toDouble

def next? : Range → Option Range
  | integers current step remaining =>
    if remaining = 0 then none else some (.integers (current + step) step (remaining - 1))
  | doubles current limit step =>
    let current := current.add step
    let isWithin := if 0.0 < step.value then current.value ≤ limit.value
      else limit.value ≤ current.value
    if isWithin then some (.doubles current limit step) else none

end Range

end StationScript.Lua
