import Dataflow.Decimal.Reader
import Dataflow.Text.Blank

namespace Dataflow

inductive Shape where
  | number
  | text
  | bool
  | list
deriving DecidableEq, Repr

inductive Value where
  | number (n : Float)
  | text (s : String)
  | bool (b : Bool)
  | list (items : List Value)
deriving Inhabited

namespace Shape

def name : Shape → String
  | number => "number"
  | text => "text"
  | bool => "bool"
  | list => "list"

def default : Shape → Value
  | number => .number 0.0
  | text => .text ""
  | bool => .bool false
  | list => .list []

end Shape

namespace Value

def shape : Value → Shape
  | number _ => .number
  | text _ => .text
  | bool _ => .bool
  | list _ => .list

theorem shape_default (s : Shape) : s.default.shape = s := by cases s <;> rfl

def ofBool (b : Bool) : Float := if b then 1.0 else 0.0

-- Truth values count as one and zero, texts as the number they spell, all else as zero.
def asNumber : Value → Float
  | number n => n
  | bool b => ofBool b
  | text s => (Decimal.float? (Text.trim s)).getD 0.0
  | list _ => 0.0

-- Zero and what is empty are false.
def truthy : Value → Bool
  | number n => n != 0.0
  | bool b => b
  | text s => !s.isEmpty
  | list items => !items.isEmpty

def toList : Value → List Value
  | list items => items
  | value => [value]

-- Equality part by part; numbers are compared as IEEE does, so NaN differs from itself.
mutual
def same : Value → Value → Bool
  | number m, number n => m == n
  | text s, text t => s == t
  | bool a, bool b => a == b
  | list xs, list ys => sameItems xs ys
  | _, _ => false

def sameItems : List Value → List Value → Bool
  | [], [] => true
  | x :: xs, y :: ys => same x y && sameItems xs ys
  | _, _ => false
end

end Value
end Dataflow
