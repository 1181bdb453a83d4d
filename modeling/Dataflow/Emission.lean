import Dataflow.Binding
import Dataflow.Diagnostic
import Dataflow.Node
import Dataflow.Text.Quoted

namespace Dataflow

structure Operand where
  name : String
  float : Bool := false

structure Emission where
  statements : List String
  diagnostics : List Diagnostic
  float : Bool
  usesHelper : Bool

namespace Emission

def helperName : String := "_text"

-- The helper shows floats that are whole numbers without a fraction, as live values are shown.
def helperLines (indent : String) : List String := [
  "def " ++ helperName ++ "(value):",
  indent ++ "if isinstance(value, float) and value.is_integer() and abs(value) < 1e16:",
  indent ++ indent ++ "return str(int(value))",
  indent ++ "if isinstance(value, list):",
  indent ++ indent ++ "return \"[\" + \", \".join(repr(v) if isinstance(v, str) else " ++ helperName ++
    "(v) for v in value) + \"]\"",
  indent ++ "return str(value)"]

structure Draft where
  -- Diagnostics that are written as comments in front of the statement.
  notes : List Diagnostic := []
  -- Diagnostics that are part of the statement.
  guards : List Diagnostic := []
  usesHelper : Bool := false

abbrev Drafting := StateM Draft

def note (diagnostic : Diagnostic) : Drafting Unit :=
  modify fun draft => { draft with notes := draft.notes ++ [diagnostic] }

def guardWith (diagnostic : Diagnostic) : Drafting Unit :=
  modify fun draft => { draft with guards := draft.guards ++ [diagnostic] }

def operand (node : Node) (inputs : Inputs Operand) (slot substitute : String) : Drafting String :=
  match inputs.get? slot with
  | some operand => pure operand.name
  | none => do
    note (.missingInput node.id slot substitute)
    pure substitute

def isFloat (inputs : Inputs Operand) (slot : String) : Bool :=
  ((inputs.get? slot).map Operand.float).getD false

def asText (expression : String) (float : Bool) : Drafting String :=
  if float then do
    modify fun draft => { draft with usesHelper := true }
    pure (helperName ++ "(" ++ expression ++ ")")
  else pure ("str(" ++ expression ++ ")")

def fold (operator : String) (inputs : Inputs Operand) : String :=
  if inputs.variadic.isEmpty then "0" else operator.intercalate (inputs.variadic.map Operand.name)

def connect (connective : Connective) (left right : String) : String :=
  match connective with
  | .not => "not " ++ left
  | .and => left ++ " and " ++ right
  | .or => left ++ " or " ++ right
  | .xor => left ++ " != " ++ right
  | .nand => "not (" ++ left ++ " and " ++ right ++ ")"
  | .nor => "not (" ++ left ++ " or " ++ right ++ ")"

def joinCall (delimiter item source : String) : String :=
  Text.doubleQuoted delimiter ++ ".join(" ++ item ++ " for v in " ++ source ++ ")"

def textExpression (node : Node) (inputs : Inputs Operand) (settings : TextSettings) : Drafting String := do
  let left ← operand node inputs "left" "\"\""
  match settings.operation with
  | .concat =>
    let right ← operand node inputs "right" "\"\""
    let left ← asText left (isFloat inputs "left")
    let right ← asText right (isFloat inputs "right")
    return left ++ " + " ++ right
  | .length => return "len(" ++ left ++ ")"
  | .substring =>
    let stop := (settings.effectiveStop.map toString).getD ""
    return left ++ "[" ++ toString settings.start ++ ":" ++ stop ++ "]"
  | .uppercase => return left ++ ".upper()"
  | .lowercase => return left ++ ".lower()"
  | .replace =>
    return left ++ ".replace(" ++ Text.doubleQuoted settings.search ++ ", " ++
      Text.doubleQuoted settings.replacement ++ ", 1)"
  | .split =>
    if settings.delimiter.isEmpty then return "list(" ++ left ++ ")"
    else return left ++ ".split(" ++ Text.doubleQuoted settings.delimiter ++ ")"
  | .join =>
    let item ← asText "v" (isFloat inputs "left")
    return joinCall settings.delimiter item left
  | .trim => return left ++ ".strip()"
  | .contains => return Text.doubleQuoted settings.search ++ " in " ++ left

-- Formulas are copied as they stand; the element is called `x` there.
def listExpression (node : Node) (inputs : Inputs Operand) (settings : ListSettings) : Drafting String := do
  let target ← operand node inputs "target" "[]"
  match settings.operation with
  | .push => return target ++ " + [" ++ settings.pushedValue.literal ++ "]"
  | .pop => return target ++ "[:-1]"
  | .map =>
    let mapping := Text.trim settings.mapping
    if mapping.isEmpty then return "list(" ++ target ++ ")"
    else return "[" ++ mapping ++ " for x in " ++ target ++ "]"
  | .filter =>
    let condition := Text.trim settings.condition
    if condition.isEmpty then return "list(" ++ target ++ ")"
    else return "[x for x in " ++ target ++ " if " ++ condition ++ "]"
  | .length => return "len(" ++ target ++ ")"
  | .join =>
    let item ← asText "v" (isFloat inputs "target")
    return joinCall settings.delimiter item target
  | .slice =>
    let bound (b : Option Int) := (b.map toString).getD ""
    return target ++ "[" ++ bound settings.bounds.1 ++ ":" ++ bound settings.bounds.2 ++ "]"
  | .reverse => return "list(reversed(" ++ target ++ "))"
  | .sort => return "sorted(" ++ target ++ ")"

-- The statement that assigns to `varName`; a display prints, and an unknown kind has no statement.
def statement (node : Node) (varName : String) (inputs : Inputs Operand) : Drafting (Option String) := do
  let assign (expression : String) : Option String := some (varName ++ " = " ++ expression)
  match node.kind with
  | .input _ => return assign node.value.literal
  | .addition => return assign (fold " + " inputs)
  | .multiplication => return assign (fold " * " inputs)
  | .subtraction =>
    let a ← operand node inputs "a" "0"
    let b ← operand node inputs "b" "0"
    return assign (a ++ " - " ++ b)
  | .division =>
    let a ← operand node inputs "a" "0"
    let b ← operand node inputs "b" "0"
    let diagnostic := Diagnostic.divisionGuard node.id
    guardWith diagnostic
    return assign (a ++ " / " ++ b ++ " if " ++ b ++ " != 0 else 0  # " ++ diagnostic.text)
  | .comparison operation =>
    let left ← operand node inputs "left" "0"
    let right ← operand node inputs "right" "0"
    return assign (left ++ " " ++ Spelled.spelling operation ++ " " ++ right)
  | .boolean operation =>
    let left ← operand node inputs "left" "False"
    let right ← if operation = .not then pure "" else operand node inputs "right" "False"
    return assign (connect operation ("bool(" ++ left ++ ")") ("bool(" ++ right ++ ")"))
  | .text settings => return assign (← textExpression node inputs settings)
  | .list settings => return assign (← listExpression node inputs settings)
  | .ifElse =>
    let condition ← operand node inputs "condition" "False"
    let whenTrue ← operand node inputs "true" "0"
    let whenFalse ← operand node inputs "false" "0"
    return assign (whenTrue ++ " if " ++ condition ++ " else " ++ whenFalse)
  | .display =>
    let shown ← operand node inputs "input" "\"\""
    if isFloat inputs "input" then return some ("print(" ++ (← asText shown true) ++ ")")
    else return some ("print(" ++ shown ++ ")")
  | .unknown typeName =>
    note (.unknownKind node.id typeName)
    return none

def yieldsFloat (node : Node) (inputs : Inputs Operand) : Bool :=
  match node.kind with
  | .input .number | .input .list => node.value.hasFloat
  | .division => true
  | .addition | .multiplication => inputs.variadic.any Operand.float
  | .subtraction => isFloat inputs "a" || isFloat inputs "b"
  | .ifElse => isFloat inputs "true" || isFloat inputs "false"
  | .list settings =>
    match settings.operation with
    | .length | .join => false
    | .push => isFloat inputs "target" || settings.pushedValue.hasFloat
    | .map => isFloat inputs "target" || settings.mapping.toList.any fun c => c == '/' || c == '.'
    | _ => isFloat inputs "target"
  | _ => false

def surplus (node : Node) (inputs : Inputs Operand) : List Diagnostic :=
  if 0 < inputs.unbound && !node.kind.isUnknown then [.surplusInputs node.id inputs.unbound] else []

def comment (diagnostic : Diagnostic) : String := "# " ++ diagnostic.text

def ofNode (node : Node) (varName : String) (inputs : Inputs Operand) : Emission :=
  let (code, draft) := (statement node varName inputs).run { notes := surplus node inputs }
  { statements := draft.notes.map comment ++ code.toList
    diagnostics := draft.notes ++ draft.guards
    float := code.isSome && yieldsFloat node inputs
    usesHelper := draft.usesHelper }

end Emission
end Dataflow
