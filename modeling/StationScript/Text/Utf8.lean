/-!
Bytes as text.

`next` reads one character from the front of a byte sequence, or says how many bytes form the
longest prefix that no character can continue. `decode` accepts exactly the valid sequences and
reports where the first fault lies; `decodeLossy` puts a replacement character for every fault.
-/

set_option autoImplicit false

namespace StationScript.Utf8

/-- The front of a byte sequence: a character of one to four bytes, a malformed sequence of one to
three bytes, or a character that the end of the bytes cuts off. -/
inductive Front where
  | character (c : Char) (length : Nat)
  | malformed (length : Nat)
  | truncated
  deriving Repr, DecidableEq

def isTail (b : UInt8) : Bool := 0x80 ≤ b && b < 0xC0

/-- The range of the second byte keeps overlong forms, surrogates and numbers past the last code
point out. -/
def secondFits (first second : UInt8) : Bool :=
  if first = 0xE0 then 0xA0 ≤ second && second < 0xC0
  else if first = 0xED then 0x80 ≤ second && second < 0xA0
  else if first = 0xF0 then 0x90 ≤ second && second < 0xC0
  else if first = 0xF4 then 0x80 ≤ second && second < 0x90
  else isTail second

def payload (b : UInt8) : Nat := b.toNat % 64

def next : List UInt8 → Front
  | [] => .truncated
  | a :: rest =>
    if a < 0x80 then .character (Char.ofNat a.toNat) 1
    else if 0xC2 ≤ a && a < 0xE0 then
      match rest with
      | [] => .truncated
      | b :: _ =>
        if isTail b then .character (Char.ofNat (a.toNat % 32 * 64 + payload b)) 2
        else .malformed 1
    else if 0xE0 ≤ a && a < 0xF0 then
      match rest with
      | [] => .truncated
      | b :: rest =>
        if !secondFits a b then .malformed 1
        else match rest with
          | [] => .truncated
          | c :: _ =>
            if isTail c then
              .character (Char.ofNat (a.toNat % 16 * 4096 + payload b * 64 + payload c)) 3
            else .malformed 2
    else if 0xF0 ≤ a && a < 0xF5 then
      match rest with
      | [] => .truncated
      | b :: rest =>
        if !secondFits a b then .malformed 1
        else match rest with
          | [] => .truncated
          | c :: rest =>
            if !isTail c then .malformed 2
            else match rest with
              | [] => .truncated
              | d :: _ =>
                if isTail d then
                  .character (Char.ofNat
                    (a.toNat % 8 * 262144 + payload b * 4096 + payload c * 64 + payload d)) 4
                else .malformed 3
    else .malformed 1

/-- Where decoding stops: the index of the first byte that belongs to no character, and the length
of the malformed sequence, if it is not the end of the bytes that is missing. -/
structure Fault where
  index : Nat
  length : Option Nat
  deriving Repr, DecidableEq

def Fault.message (f : Fault) : String :=
  match f.length with
  | some n => s!"invalid utf-8 sequence of {n} bytes from index {f.index}"
  | none => s!"incomplete utf-8 byte sequence from index {f.index}"

/-- Reads from byte `index` on; every step takes at least one byte. -/
def decodeFrom (index : Nat) (text : List Char) : Nat → List UInt8 → Except Fault (List Char)
  | _, [] => .ok text.reverse
  | 0, _ => .ok text.reverse
  | fuel + 1, bytes =>
    match next bytes with
    | .character c length => decodeFrom (index + length) (c :: text) fuel (bytes.drop length)
    | .malformed length => .error ⟨index, some length⟩
    | .truncated => .error ⟨index, none⟩

/-- The text of a byte sequence, or its first fault. -/
def decode (bytes : ByteArray) : Except Fault String :=
  (decodeFrom 0 [] bytes.size bytes.toList).map String.ofList

def decodeLossyFrom (text : List Char) : Nat → List UInt8 → List Char
  | _, [] => text.reverse
  | 0, _ => text.reverse
  | fuel + 1, bytes =>
    match next bytes with
    | .character c length => decodeLossyFrom (c :: text) fuel (bytes.drop length)
    | .malformed length => decodeLossyFrom ('\uFFFD' :: text) fuel (bytes.drop length)
    | .truncated => ('\uFFFD' :: text).reverse

/-- The text of a byte sequence, with a replacement character for each malformed sequence. -/
def decodeLossy (bytes : ByteArray) : String :=
  String.ofList (decodeLossyFrom [] bytes.size bytes.toList)

end StationScript.Utf8
