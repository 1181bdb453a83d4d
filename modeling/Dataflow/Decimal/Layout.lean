import Dataflow.Decimal.Shortest

namespace Dataflow.Decimal

structure Layout where
  -- Numbers `d.ddd · 10 ^ e` with `least ≤ e < bound` are positional.
  least : Int
  bound : Int
  wholeMark : String
  plus : String
  exponentWidth : Nat
  tie : Tie
  negativeZero : Bool
  notANumber : String
  infinite : String

private def zeros (n : Nat) : List Char := List.replicate n '0'

-- `point` is the number of digits in front of the point; it may be negative or beyond the end.
def positional (layout : Layout) (digits : List Char) (point : Int) : String :=
  if point ≤ 0 then .ofList ('0' :: '.' :: zeros point.natAbs ++ digits)
  else if point.natAbs < digits.length then
    .ofList (digits.take point.natAbs ++ '.' :: digits.drop point.natAbs)
  else .ofList (digits ++ zeros (point.natAbs - digits.length)) ++ layout.wholeMark

def exponential (layout : Layout) (digits : List Char) (power : Int) : String :=
  let mantissa := match digits with
    | [] | [_] => digits
    | first :: rest => first :: '.' :: rest
  let exponent := Nat.toDigits 10 power.natAbs
  let padded := zeros (layout.exponentWidth - exponent.length) ++ exponent
  .ofList mantissa ++ "e" ++ (if power < 0 then "-" else layout.plus) ++ .ofList padded

-- A positive finite double.
def Layout.magnitude (layout : Layout) (x : Float) : String :=
  let d := shortest layout.tie x
  let power := d.exponent + d.digits.length - 1
  if layout.least ≤ power ∧ power < layout.bound then positional layout d.digits (power + 1)
  else exponential layout d.digits power

def Layout.zero (layout : Layout) : String :=
  if layout.least ≤ 0 ∧ 0 < layout.bound then "0" ++ layout.wholeMark else "0e" ++ layout.plus ++ "0"

def isNegative (x : Float) : Bool := 0x8000000000000000 ≤ x.toBits.toNat

def Layout.write (layout : Layout) (x : Float) : String :=
  if x.isNaN then layout.notANumber
  else if x.isInf then (if isNegative x then "-" else "") ++ layout.infinite
  else if x == 0.0 then (if isNegative x && layout.negativeZero then "-" else "") ++ layout.zero
  else (if isNegative x then "-" else "") ++ layout.magnitude x.abs

end Dataflow.Decimal
