import Dataflow.Decimal.Basic

namespace Dataflow.Decimal

-- Where a double lies halfway between two candidates.
inductive Tie where
  | up
  | even
deriving DecidableEq

def countDigits (n : Nat) : Nat := (Nat.toDigits 10 n).length

def scale (r : Ratio) : Int :=
  if r.denominator ≤ r.numerator then countDigits (r.numerator / r.denominator)
  else 1 - countDigits ((r.denominator - 1) / r.numerator)

def shift (r : Ratio) (exponent : Int) : Ratio :=
  if exponent < 0 then ⟨r.numerator * Nat.pow 10 exponent.natAbs, r.denominator⟩
  else ⟨r.numerator, r.denominator * Nat.pow 10 exponent.natAbs⟩

def neighbours (tie : Tie) (r : Ratio) (exponent : Int) : List Decimal :=
  let scaled := shift r exponent
  let below := scaled.numerator / scaled.denominator
  let rest := scaled.numerator % scaled.denominator
  let low : Decimal := ⟨below, exponent⟩
  let high : Decimal := ⟨below + 1, exponent⟩
  if rest = 0 then [low]
  else if 2 * rest < scaled.denominator then [low, high]
  else if scaled.denominator < 2 * rest then [high, low]
  else if tie = .even ∧ below % 2 = 0 then [low, high]
  else [high, low]

def search (tie : Tie) (x : Float) (r : Ratio) (digits : Nat) : Nat → Option Decimal
  | 0 => none
  | fuel + 1 =>
    match (neighbours tie r (scale r - digits)).find? (·.toFloat = x) with
    | some d => some d
    | none => search tie x r (digits + 1) fuel

-- All digits of a double: a unit of the last place is `5 ^ 1074 · 10 ^ -1074`.
def exact (r : Ratio) : Decimal := ⟨r.numerator * Nat.pow 5 1074, -1074⟩

-- For a positive finite double; seventeen digits suffice, so the exact ones are not needed.
def shortest (tie : Tie) (x : Float) : Decimal :=
  let r := Ratio.ofBits x.toBits.toNat
  let found := (search tie x r 1 17).getD (exact r)
  found.stripZeros (countDigits found.coefficient)

theorem search_reads {tie : Tie} {x : Float} {r : Ratio} {digits fuel : Nat} {d : Decimal}
    (found : search tie x r digits fuel = some d) : d.toFloat = x := by
  induction fuel generalizing digits with
  | zero => cases found
  | succ fuel ih =>
    unfold search at found
    split at found
    · rename_i hit; cases found; simpa using List.find?_some hit
    · exact ih found

end Dataflow.Decimal
