import Dataflow.Decimal.Ratio

namespace Dataflow

structure Decimal where
  coefficient : Nat
  exponent : Int
deriving DecidableEq, Repr

namespace Decimal

def toRatio (d : Decimal) : Ratio :=
  if d.exponent < 0 then ⟨d.coefficient, Nat.pow 10 d.exponent.natAbs⟩
  else ⟨d.coefficient * Nat.pow 10 d.exponent.natAbs, 1⟩

-- Beyond the greatest double and below half the smallest one no power of ten is computed.
def toFloat (d : Decimal) : Float :=
  if d.coefficient = 0 then 0.0
  else if 400 < d.exponent then .ofBits (.ofNat Ratio.infinityBits)
  else if d.exponent < -(400 + d.coefficient.log2 : Int) then 0.0
  else d.toRatio.toFloat

-- Drops the zeros at the end of the coefficient; `fuel` bounds their number.
def stripZeros : Nat → Decimal → Decimal
  | 0, d => d
  | fuel + 1, d =>
    if d.coefficient ≠ 0 ∧ d.coefficient % 10 = 0 then stripZeros fuel ⟨d.coefficient / 10, d.exponent + 1⟩
    else d

def digits (d : Decimal) : List Char := Nat.toDigits 10 d.coefficient

end Decimal
end Dataflow
