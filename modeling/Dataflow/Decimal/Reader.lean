import Dataflow.Decimal.Basic
import Dataflow.Text.Integer

namespace Dataflow.Decimal
open Text (digitsValue natural? integerChars?)

def infinity : Float := 1.0 / 0.0
def notANumber : Float := 0.0 / 0.0

def isExponentMark (c : Char) : Bool := c == 'e' || c == 'E'

-- The exponent after its mark; no mark at all means zero.
def exponent? : List Char → Option Int
  | [] => some 0
  | _ :: rest => integerChars? rest

-- An unsigned decimal number.
def ofChars? (cs : List Char) : Option Decimal := do
  let mantissa := cs.takeWhile (!isExponentMark ·)
  let exponent ← exponent? (cs.dropWhile (!isExponentMark ·))
  let whole := mantissa.takeWhile (· != '.')
  let fraction := (mantissa.dropWhile (· != '.')).drop 1
  if (whole ++ fraction).isEmpty then none
  else
    let coefficient ← natural? (whole ++ fraction)
    some ⟨coefficient, exponent - fraction.length⟩

private def magnitude? (cs : List Char) : Option Float :=
  let word := String.ofList (cs.map Char.toLower)
  if word == "inf" || word == "infinity" then some infinity
  else if word == "nan" then some notANumber
  else (ofChars? cs).map toFloat

def float? (s : String) : Option Float :=
  match s.toList with
  | '-' :: rest => (magnitude? rest).map (- ·)
  | '+' :: rest => magnitude? rest
  | cs => magnitude? cs

end Dataflow.Decimal
