namespace Dataflow

structure Ratio where
  numerator : Nat
  denominator : Nat

namespace Ratio

def unit : Nat := Nat.pow 2 1074

-- Two to the width of the fraction bits; significands beyond place zero start here.
def hiddenBit : Nat := 0x10000000000000

def infinityBits : Nat := 0x7FF0000000000000

def ofBits (bits : Nat) : Ratio :=
  let field := bits / hiddenBit
  let fraction := bits % hiddenBit
  if field = 0 then ⟨fraction, unit⟩ else ⟨(hiddenBit + fraction) * Nat.pow 2 (field - 1), unit⟩

def isWhole (r : Ratio) : Bool := r.numerator % r.denominator == 0

-- The integer nearest to a quotient; a tie goes to the even one.
def roundedQuotient (numerator denominator : Nat) : Nat :=
  let below := numerator / denominator
  let rest := 2 * (numerator % denominator)
  if rest < denominator then below
  else if denominator < rest then below + 1
  else below + below % 2

-- A significand that rounding makes too wide carries into the next place by itself.
def nearestBits (r : Ratio) : Nat :=
  let units := r.numerator * unit
  let place := (units / r.denominator).log2 - 52
  place * hiddenBit + roundedQuotient units (r.denominator * Nat.pow 2 place)

def toFloat (r : Ratio) : Float := .ofBits (.ofNat (min r.nearestBits infinityBits))

end Ratio
end Dataflow
