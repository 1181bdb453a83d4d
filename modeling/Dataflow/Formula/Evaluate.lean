import Dataflow.Formula.Basic
import Dataflow.Formula.Error
import Dataflow.Value.Order

namespace Dataflow

def Value.numeric (operation : String) : Value → Except FormulaError Float
  | .number n => .ok n
  | .bool b => .ok (ofBool b)
  | other => .error (.typeMismatch operation .number other)

namespace Operator

def arithmetic (op : Operator) (compute : Float → Float → Except FormulaError Float)
    (left right : Value) : Except FormulaError Value := do
  let a ← left.numeric op.spelling
  let b ← right.numeric op.spelling
  return .number (← compute a b)

def ordered (op : Operator) (holds : Ordering → Bool) (left right : Value) : Except FormulaError Value :=
  match left.compare right with
  | some ordering => .ok (.bool (holds ordering))
  | none => .error (.typeMismatch op.spelling left.shape right)

-- The remainder takes the sign of the divisor.
def remainder (a b : Float) : Float := a - b * (a / b).floor

-- Both operands are at hand; `and` and `or` have then passed over the left one.
def apply (op : Operator) (left right : Value) : Except FormulaError Value :=
  match op with
  | add =>
    match left, right with
    | .text s, .text t => .ok (.text (s ++ t))
    | .list xs, .list ys => .ok (.list (xs ++ ys))
    | _, _ => op.arithmetic (fun a b => .ok (a + b)) left right
  | sub => op.arithmetic (fun a b => .ok (a - b)) left right
  | mul => op.arithmetic (fun a b => .ok (a * b)) left right
  | div => op.arithmetic (fun a b => if b == 0.0 then .error .divisionByZero else .ok (a / b)) left right
  | mod => op.arithmetic (fun a b => if b == 0.0 then .error .divisionByZero else .ok (remainder a b)) left right
  | eq => .ok (.bool (left.equals right))
  | ne => .ok (.bool (!left.equals right))
  | gt => op.ordered (· == .gt) left right
  | ge => op.ordered (· != .lt) left right
  | lt => op.ordered (· == .lt) left right
  | le => op.ordered (· != .gt) left right
  | and => .ok right
  | or => .ok right

def settledBy (op : Operator) (left : Value) : Bool :=
  match op with
  | and => !left.truthy
  | or => left.truthy
  | _ => false

end Operator

namespace Formula

def evaluateAt (x : Value) (depth : Nat) (formula : Formula) : Except FormulaError Value :=
  if maxNesting < depth then .error .nestingTooDeep
  else
    match formula with
    | element => .ok x
    | literal value => .ok value
    | neg operand => do
      let value ← evaluateAt x (depth + 1) operand
      return .number (-(← value.numeric "-"))
    | not operand => do
      let value ← evaluateAt x (depth + 1) operand
      return .bool (!value.truthy)
    | binary op left right => do
      let a ← evaluateAt x (depth + 1) left
      if op.settledBy a then return a
      let b ← evaluateAt x (depth + 1) right
      op.apply a b

def evaluate (formula : Formula) (x : Value) : Except FormulaError Value := formula.evaluateAt x 0

end Formula
end Dataflow
