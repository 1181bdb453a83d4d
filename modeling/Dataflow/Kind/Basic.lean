import Dataflow.Kind.Operation
import Dataflow.Text.Integer
import Dataflow.Value.Display
import Dataflow.Value.Json

namespace Dataflow

-- Settings of a text node. Only those its operation reads matter.
structure TextSettings where
  operation : TextOperation
  start : Int := 0
  -- Nothing, or zero, reads to the end of the text.
  stop : Option Int := none
  search : String := ""
  replacement : String := ""
  delimiter : String := ""
deriving DecidableEq

structure ListSettings where
  operation : ListOperation
  pushed : String := ""
  mapping : String := "x * 2"
  condition : String := "x > 0"
  delimiter : String := ","
  range : String := ""
deriving DecidableEq

inductive Kind where
  | input (shape : Shape)
  | addition
  | subtraction
  | multiplication
  | division
  | comparison (operation : Comparison)
  | boolean (operation : Connective)
  | text (settings : TextSettings)
  | list (settings : ListSettings)
  | ifElse
  | display
  | unknown (name : String)
deriving DecidableEq

inductive Slots where
  | closed
  | variadic
  | named (names : List String)
deriving DecidableEq

def TextSettings.effectiveStop (settings : TextSettings) : Option Int := settings.stop.filter (· != 0)

namespace ListSettings

def pushedValue (settings : ListSettings) : Value :=
  let trimmed := Text.trim settings.pushed
  if trimmed.isEmpty then .number 0.0
  else
    match Decimal.float? trimmed with
    | some n => if n.isFinite then .number n else .text settings.pushed
    | none => .text settings.pushed

-- The integers of the range text in order; what is no integer is passed over.
def bounds (settings : ListSettings) : Option Int × Option Int :=
  let found := (Text.splitChar ',' settings.range).filterMap fun part => Text.integer? (Text.trim part)
  (found[0]?, found[1]?)

end ListSettings

namespace Kind

def ofTypeName : String → Kind
  | "numberInput" => input .number
  | "stringInput" => input .text
  | "booleanInput" => input .bool
  | "listInput" => input .list
  | "addition" => addition
  | "subtraction" => subtraction
  | "multiplication" => multiplication
  | "division" => division
  | "comparison" => comparison .equal
  | "booleanOperation" => boolean .and
  | "stringOperation" => text { operation := .concat }
  | "listOperation" => list { operation := .push }
  | "ifElse" => ifElse
  | "display" => display
  | name => unknown name

def typeName : Kind → String
  | input .number => "numberInput"
  | input .text => "stringInput"
  | input .bool => "booleanInput"
  | input .list => "listInput"
  | addition => "addition"
  | subtraction => "subtraction"
  | multiplication => "multiplication"
  | division => "division"
  | comparison _ => "comparison"
  | boolean _ => "booleanOperation"
  | text _ => "stringOperation"
  | list _ => "listOperation"
  | ifElse => "ifElse"
  | display => "display"
  | unknown name => name

def label (kind : Kind) : String :=
  let withOperation (spelling : String) := kind.typeName ++ "(" ++ spelling ++ ")"
  match kind with
  | comparison operation => withOperation (Spelled.spelling operation)
  | boolean operation => withOperation (Spelled.spelling operation)
  | text settings => withOperation (Spelled.spelling settings.operation)
  | list settings => withOperation (Spelled.spelling settings.operation)
  | other => other.typeName

def isInput : Kind → Bool
  | input _ => true
  | _ => false

def isUnknown : Kind → Bool
  | unknown _ => true
  | _ => false

def isDisplay : Kind → Bool
  | display => true
  | _ => false

def slots : Kind → Slots
  | input _ | unknown _ => .closed
  | addition | multiplication => .variadic
  | subtraction | division => .named ["a", "b"]
  | comparison _ => .named ["left", "right"]
  | boolean .not => .named ["left"]
  | boolean _ => .named ["left", "right"]
  | text settings => if settings.operation = .concat then .named ["left", "right"] else .named ["left"]
  | list _ => .named ["target"]
  | ifElse => .named ["condition", "true", "false"]
  | display => .named ["input"]

def outputShape : Kind → Shape
  | input shape => shape
  | addition | subtraction | multiplication | division => .number
  | comparison _ | boolean _ => .bool
  | text settings =>
    match settings.operation with
    | .length => .number
    | .contains => .bool
    | .split => .list
    | _ => .text
  | list settings =>
    match settings.operation with
    | .length => .number
    | .join => .text
    | _ => .list
  | ifElse | unknown _ => .number
  | display => .text

def defaultValue (kind : Kind) : Value := kind.outputShape.default

-- A literal as an input node takes it; other kinds take it as it is.
def coerce (kind : Kind) (value : Value) : Value :=
  match kind with
  | input .number => .number value.asNumber
  | input .text => .text value.toText
  | input .bool =>
    match value with
    | .text s => .bool ((Text.trim s).toList.map Char.toLower == "true".toList)
    | other => .bool other.truthy
  | input .list =>
    match value with
    | .text s => .list (Value.parseList s)
    | other => .list other.toList
  | _ => value

def variableStem : Kind → String
  | input .number => "num"
  | input .text => "str"
  | input .bool => "bool"
  | input .list => "list"
  | addition => "sum"
  | subtraction => "diff"
  | multiplication => "product"
  | division => "quotient"
  | comparison _ | boolean _ => "bool_result"
  | text _ => "str_result"
  | list _ => "list_result"
  | ifElse | display | unknown _ => "result"

theorem coerce_shape (shape : Shape) (value : Value) : ((input shape).coerce value).shape = shape := by
  cases shape <;> cases value <;> rfl

end Kind
end Dataflow
