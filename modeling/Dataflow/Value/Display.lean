import Dataflow.Decimal.Layout
import Dataflow.Text.Quoted
import Dataflow.Value.Basic

namespace Dataflow.Value

-- A number as Python shows it, whole numbers without a point.
def numberLayout : Decimal.Layout where
  least := -4
  bound := 16
  wholeMark := ""
  plus := "+"
  exponentWidth := 2
  tie := .up
  negativeZero := false
  notANumber := "nan"
  infinite := "inf"

def numberText (n : Float) : String := numberLayout.write n

def numberLiteral (n : Float) : String :=
  if n.isFinite then numberText n else "float('" ++ numberText n ++ "')"

def boolText (b : Bool) : String := if b then "True" else "False"

def isWhole (n : Float) : Bool :=
  n.abs < 1e16 && (Ratio.ofBits n.abs.toBits.toNat).isWhole

mutual
def literal : Value → String
  | number n => numberLiteral n
  | text s => Text.doubleQuoted s
  | bool b => boolText b
  | list items => "[" ++ ", ".intercalate (literals items) ++ "]"

def literals : List Value → List String
  | [] => []
  | item :: rest => literal item :: literals rest
end

mutual
-- The value as an element of a shown list: texts are quoted there.
def repr : Value → String
  | number n => numberText n
  | text s => Text.reprQuoted s
  | bool b => boolText b
  | list items => "[" ++ ", ".intercalate (reprs items) ++ "]"

def reprs : List Value → List String
  | [] => []
  | item :: rest => repr item :: reprs rest
end

def toText : Value → String
  | text s => s
  | value => repr value

mutual
def hasFloat : Value → Bool
  | number n => !isWhole n
  | list items => anyFloat items
  | text _ | bool _ => false

def anyFloat : List Value → Bool
  | [] => false
  | item :: rest => hasFloat item || anyFloat rest
end

end Dataflow.Value
