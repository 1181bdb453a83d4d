import Dataflow.Sorting.Runs
import Dataflow.Value.Basic

namespace Dataflow.Value

-- NaN has no order, not even with itself, and the two zeros are equal.
def compareNumbers (m n : Float) : Option Ordering :=
  if m < n then some .lt else if m == n then some .eq else if n < m then some .gt else none

def weight? : Value → Option Float
  | number n => some n
  | bool b => some (ofBool b)
  | text _ => none
  | list _ => none

mutual
def compare : Value → Value → Option Ordering
  | text s, text t => some (compareOfLessAndEq s t)
  | list xs, list ys => compareItems xs ys
  | v, w =>
    match v.weight?, w.weight? with
    | some m, some n => compareNumbers m n
    | _, _ => none

def compareItems : List Value → List Value → Option Ordering
  | [], [] => some .eq
  | [], _ :: _ => some .lt
  | _ :: _, [] => some .gt
  | x :: xs, y :: ys =>
    match compare x y with
    | some .eq => compareItems xs ys
    | decided => decided
end

def equals (v w : Value) : Bool := compare v w == some .eq

def rank : Value → Nat
  | number _ | bool _ => 0
  | text _ => 1
  | list _ => 2

-- Pairs without an order count as equal within a rank.
def sortCompare (v w : Value) : Ordering :=
  (Ord.compare v.rank w.rank).then ((compare v w).getD .eq)

-- The items are compared with each other alone. Not all lists of values have an order, and the sort gives up on some
-- of those that have none.
def sort? (items : List Value) : Option (List Value) :=
  (Sorting.sort? (fun v w : {v // v ∈ items} => sortCompare v.1 w.1 == .lt) items.attach).map List.unattach

end Dataflow.Value
