import Dataflow.Binding
import Dataflow.Formula.Evaluate
import Dataflow.Formula.Grammar
import Dataflow.Text.Case

namespace Dataflow

namespace Inputs

def number (inputs : Inputs Value) (slot : String) : Float :=
  ((inputs.get? slot).map Value.asNumber).getD 0.0

def truthy (inputs : Inputs Value) (slot : String) : Bool :=
  ((inputs.get? slot).map Value.truthy).getD false

def text (inputs : Inputs Value) (slot : String) : String :=
  ((inputs.get? slot).map Value.toText).getD ""

end Inputs

-- The length of a sequence as a word of 64 bits. What no word holds counts as the greatest.
def lengthWord (length : Nat) : Int64 := .ofInt (min length Text.greatestWord)

def sliceBound (length bound : Int64) : Int64 :=
  if bound < 0 then max (bound + length) 0 else min bound length

def sliceRange (length : Nat) (start stop : Option Int64) : Nat × Nat :=
  let length := lengthWord length
  let first := (start.map (sliceBound length)).getD 0
  let last := max first ((stop.map (sliceBound length)).getD length)
  (first.toUInt64.toNat, last.toUInt64.toNat)

def slice (items : List α) (start stop : Option Int) : List α :=
  let (first, last) := sliceRange items.length (start.map .ofInt) (stop.map .ofInt)
  (items.take last).drop first

def joinTexts (delimiter : String) (items : List Value) : String :=
  delimiter.intercalate (items.map Value.toText)

def Comparison.holds (comparison : Comparison) (left right : Value) : Bool :=
  match comparison with
  | .equal => left.equals right
  | .notEqual => !left.equals right
  | .less => left.compare right == some .lt
  | .greater => left.compare right == some .gt
  | .lessOrEqual => left.compare right == some .lt || left.compare right == some .eq
  | .greaterOrEqual => left.compare right == some .gt || left.compare right == some .eq

def Connective.holds (connective : Connective) (a b : Bool) : Bool :=
  match connective with
  | .and => a && b
  | .or => a || b
  | .not => !a
  | .xor => a != b
  | .nand => !(a && b)
  | .nor => !(a || b)

-- Text that spells a JSON array is joined as that array; other text stays as it is.
def joined (delimiter : String) : Value → String
  | .list items => joinTexts delimiter items
  | other =>
    match Value.listOfJsonText? other.toText with
    | some items => joinTexts delimiter items
    | none => other.toText

def TextSettings.evaluate (settings : TextSettings) (inputs : Inputs Value) : Value :=
  let left := inputs.text "left"
  match settings.operation with
  | .concat => .text (left ++ inputs.text "right")
  | .length => .number (Float.ofNat left.length)
  | .substring => .text (.ofList (slice left.toList (some settings.start) settings.effectiveStop))
  | .uppercase => .text (Text.upper left)
  | .lowercase => .text (Text.lower left)
  | .replace => .text (Text.replaceFirst settings.search settings.replacement left)
  | .split => .list ((Text.split settings.delimiter left).map .text)
  | .join => .text (joined settings.delimiter ((inputs.get? "left").getD (.text "")))
  | .trim => .text (Text.trim left)
  | .contains => .bool (Text.contains settings.search left)

-- A mapping that cannot be read leaves the list as it is, one that fails leaves the element.
def mapItems (source : String) (items : List Value) : List Value :=
  match Formula.parse source with
  | .error _ => items
  | .ok formula => items.map fun item =>
    match formula.evaluate item with
    | .ok mapped => mapped
    | .error _ => item

def filterItems (source : String) (items : List Value) : List Value :=
  match Formula.parse source with
  | .error _ => items
  | .ok formula => items.filter fun item =>
    match formula.evaluate item with
    | .ok kept => kept.truthy
    | .error _ => true

def targetItems (inputs : Inputs Value) : List Value :=
  match inputs.get? "target" with
  | some (.text s) => Value.parseList s
  | some other => other.toList
  | none => []

-- A sort that gives up is a panic of the evaluation; there is no value then.
def ListSettings.evaluate (settings : ListSettings) (inputs : Inputs Value) : Option Value :=
  let items := targetItems inputs
  match settings.operation with
  | .push => some (.list (items ++ [settings.pushedValue]))
  | .pop => some (.list items.dropLast)
  | .map => some (.list (mapItems settings.mapping items))
  | .filter => some (.list (filterItems settings.condition items))
  | .length => some (.number (Float.ofNat items.length))
  | .join => some (.text (joinTexts settings.delimiter items))
  | .slice => some (.list (slice items settings.bounds.1 settings.bounds.2))
  | .reverse => some (.list items.reverse)
  | .sort => (Value.sort? items).map .list

-- The empty sum is minus zero, which changes no other sum.
def sum (items : List Value) : Float := items.foldl (fun total item => total + item.asNumber) (-0.0)

def product (items : List Value) : Float :=
  if items.isEmpty then 0.0 else items.foldl (fun total item => total * item.asNumber) 1.0

def quotient (a b : Float) : Float := if b == 0.0 then 0.0 else a / b

namespace Kind

def evaluate (kind : Kind) (literal : Value) (inputs : Inputs Value) : Option Value :=
  match kind with
  | input _ => some literal
  | addition => some (.number (sum inputs.variadic))
  | multiplication => some (.number (product inputs.variadic))
  | subtraction => some (.number (inputs.number "a" - inputs.number "b"))
  | division => some (.number (quotient (inputs.number "a") (inputs.number "b")))
  | comparison operation => some
    (.bool (operation.holds ((inputs.get? "left").getD (.number 0.0)) ((inputs.get? "right").getD (.number 0.0))))
  | boolean operation => some (.bool (operation.holds (inputs.truthy "left") (inputs.truthy "right")))
  | text settings => some (settings.evaluate inputs)
  | list settings => settings.evaluate inputs
  | ifElse => some ((inputs.get? (if inputs.truthy "condition" then "true" else "false")).getD (.number 0.0))
  | display => some ((inputs.get? "input").getD (.text ""))
  | unknown _ => some kind.defaultValue

end Kind
end Dataflow
