import Dataflow.Decimal.Reader
import Dataflow.Json.Basic
import Dataflow.Json.Raw

namespace Dataflow.Json

def nestingRoom : Nat := 127

def textOf? : List Piece → Option (List Char)
  | [] => some []
  | .char c :: rest => (textOf? rest).map (c :: ·)
  | .unit high :: .unit low :: rest =>
    if 0xD800 ≤ high && high ≤ 0xDBFF then
      if 0xDC00 ≤ low && low ≤ 0xDFFF then
        (textOf? rest).map (Char.ofNat (0x10000 + (high - 0xD800) * 0x400 + (low - 0xDC00)) :: ·)
      else none
    else if 0xDC00 ≤ high && high ≤ 0xDFFF then none
    else (textOf? (.unit low :: rest)).map (Char.ofNat high :: ·)
  | .unit code :: rest =>
    if 0xD800 ≤ code && code ≤ 0xDFFF then none
    else (textOf? rest).map (Char.ofNat code :: ·)

def string? (pieces : List Piece) : Option String := (textOf? pieces).map String.ofList

-- Digits are taken in as long as the number fits a word; the others are left over.
def significand (n : Nat) : List Char → Nat × List Char
  | [] => (n, [])
  | c :: rest =>
    let next := n * 10 + (c.toNat - '0'.toNat)
    if next < Text.wordCount then significand next rest else (n, c :: rest)

def greatestPower : Nat := 308

def powerOfTen (n : Nat) : Float := (⟨1, n⟩ : Decimal).toFloat

-- Divides by the greatest power again and again, unless nothing is left.
def lowered : Nat → Float → Float
  | 0, x => x
  | rounds + 1, x => if x == 0.0 then x else lowered rounds (x / powerOfTen greatestPower)

-- The significand is rounded to a double, and the product or the quotient once more: the result need not be the
-- double nearest to the number that is spelled.
def scaled (n : Nat) (exponent : Int) : Float :=
  let x := (⟨n, 1⟩ : Ratio).toFloat
  let power := exponent.natAbs
  if exponent < 0 then lowered (power / greatestPower) x / powerOfTen (power % greatestPower)
  else if power ≤ greatestPower then x * powerOfTen power
  else if x == 0.0 then x
  else Decimal.infinity

-- Digits beyond a word count for the place alone: in the whole part they raise the exponent, behind the point
-- they are passed over.
def magnitude? (digits : List Char) : Option Float := do
  let mantissa := digits.takeWhile (!Decimal.isExponentMark ·)
  let exponent ← Decimal.exponent? (digits.dropWhile (!Decimal.isExponentMark ·))
  let fraction := (mantissa.dropWhile (· != '.')).drop 1
  let (whole, raising) := significand 0 (mantissa.takeWhile (· != '.'))
  let (n, passed) := significand whole fraction
  some (scaled n (exponent + raising.length - (fraction.length - passed.length : Nat)))

def finite? (negative : Bool) (digits : List Char) : Option Json := do
  let x ← magnitude? digits
  if x.isFinite then some (.float (if negative then -x else x)) else none

def unsignedNumber? (negative : Bool) (digits : List Char) : Option Json :=
  match Text.natural? digits with
  | none => finite? negative digits
  | some n =>
    if !negative && n < Text.wordCount then some (.integer n)
    else if negative && 0 < n && n ≤ Text.leastWord.natAbs then some (.integer (-n))
    else finite? negative digits

-- Whole numbers that fit a word are integers; `-0` and all others are doubles.
def number? : List Char → Option Json
  | '-' :: digits => unsignedNumber? true digits
  | digits => unsignedNumber? false digits

mutual
def ofRaw? (room : Nat) : Raw → Option Json
  | .null => some .null
  | .bool value => some (.bool value)
  | .number spelling => number? spelling
  | .string pieces => (string? pieces).map .string
  | .array items =>
    match room with
    | 0 => none
    | room + 1 => (itemsOfRaw? room items).map .array
  | .object members =>
    match room with
    | 0 => none
    | room + 1 => (membersOfRaw? room members []).map .object

def itemsOfRaw? (room : Nat) : List Raw → Option (List Json)
  | [] => some []
  | item :: rest => do return (← ofRaw? room item) :: (← itemsOfRaw? room rest)

def membersOfRaw? (room : Nat) : List (List Piece × Raw) → List (String × Json) → Option (List (String × Json))
  | [], read => some read
  | (key, value) :: rest, read => do
    membersOfRaw? room rest (put (← string? key) (← ofRaw? room value) read)
end

def ofText? (s : String) : Option Json := (Raw.ofText? s).bind (ofRaw? nestingRoom)

end Dataflow.Json
