import StationScript.Station.Plant

/-!
Device ids in the form of random universally unique identifiers.
-/

set_option autoImplicit false

namespace StationScript

/-- The lowest hexadecimal digits of a number, the highest first. -/
def hexDigits : Nat → Nat → List Char
  | 0, _ => []
  | count + 1, n => hexDigits count (n / 16) ++ [Nat.digitChar (n % 16)]

/-- One of the four digits that mark the variant of an identifier. -/
def variantDigit (n : Nat) : Char :=
  match n % 4 with
  | 0 => '8'
  | 1 => '9'
  | 2 => 'a'
  | _ => 'b'

/-- The identifier of a number below `2 ^ 122`: groups of 8, 4, 4, 4 and 12 digits, of which the
third begins with the version and the fourth with the variant. -/
def DeviceId.ofNumber (n : Nat) : DeviceId :=
  let last := hexDigits 12 n
  let fourth := hexDigits 3 (n / Nat.pow 16 12)
  let third := hexDigits 3 (n / Nat.pow 16 15)
  let second := hexDigits 4 (n / Nat.pow 16 18)
  let first := hexDigits 8 (n / Nat.pow 16 22)
  ⟨String.ofList (first ++ ['-'] ++ second ++ ['-', '4'] ++ third ++
    ['-', variantDigit (n / Nat.pow 16 30)] ++ fourth ++ ['-'] ++ last)⟩

end StationScript
