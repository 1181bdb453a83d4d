import Dataflow.Value.Display

namespace Dataflow

inductive Operator where
  | add
  | sub
  | mul
  | div
  | mod
  | and
  | or
  | eq
  | ne
  | gt
  | ge
  | lt
  | le
deriving DecidableEq, Repr

inductive Formula where
  | element
  | literal (value : Value)
  | neg (operand : Formula)
  | not (operand : Formula)
  | binary (op : Operator) (left right : Formula)

namespace Operator

def spelling : Operator → String
  | add => "+"
  | sub => "-"
  | mul => "*"
  | div => "/"
  | mod => "%"
  | and => "and"
  | or => "or"
  | eq => "=="
  | ne => "!="
  | gt => ">"
  | ge => ">="
  | lt => "<"
  | le => "<="

def level : Operator → Nat
  | or => 1
  | and => 2
  | eq | ne | gt | ge | lt | le => 4
  | add | sub => 5
  | mul | div | mod => 6

end Operator

namespace Formula

-- `not` stands between `and` and the comparisons, the minus sign above the products.
def notLevel : Nat := 3
def negLevel : Nat := 7
def leafLevel : Nat := 8

def level : Formula → Nat
  | element | literal _ => leafLevel
  | neg _ => negLevel
  | not _ => notLevel
  | binary op _ _ => op.level

def parenthesized (needed : Bool) (inner : String) : String :=
  if needed then "(" ++ inner ++ ")" else inner

-- The text in a place that asks for a level of at least `place`. Operators associate to the left,
-- so the right operand asks for one level more.
def textAt (place : Nat) : Formula → String
  | element => "x"
  | literal value => value.literal
  | neg operand => parenthesized (negLevel < place) ("-" ++ textAt negLevel operand)
  | not operand => parenthesized (notLevel < place) ("not " ++ textAt notLevel operand)
  | binary op left right =>
    parenthesized (op.level < place)
      (textAt op.level left ++ " " ++ op.spelling ++ " " ++ textAt (op.level + 1) right)

def text (formula : Formula) : String := formula.textAt 0

end Formula
end Dataflow
