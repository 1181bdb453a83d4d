import Dataflow.Json.Meaning
import Dataflow.Json.Writer
import Dataflow.Text.Search
import Dataflow.Value.Basic

namespace Dataflow.Value

mutual
def toJson : Value → Json
  | number n => if n.isFinite then .float n else .null
  | text s => .string s
  | bool b => .bool b
  | list items => .array (itemsToJson items)

def itemsToJson : List Value → List Json
  | [] => []
  | item :: rest => toJson item :: itemsToJson rest
end

mutual
def ofJson? : Json → Option Value
  | .integer n => some (number (Float.ofInt n))
  | .float n => some (number n)
  | .string s => some (text s)
  | .bool b => some (bool b)
  | .array items => (itemsOfJson? items).map list
  | .null | .object _ => none

def itemsOfJson? : List Json → Option (List Value)
  | [] => some []
  | item :: rest => do return (← ofJson? item) :: (← itemsOfJson? rest)
end

def jsonText (value : Value) : String := (toJson value).compact

def ofJsonText? (s : String) : Option Value := (Json.ofText? s).bind ofJson?

def listOfJsonText? (s : String) : Option (List Value) :=
  match Json.ofText? s with
  | some (.array items) => itemsOfJson? items
  | _ => none

-- Text that spells a finite number is that number; other text stays text.
def ofItem (s : String) : Value :=
  match Decimal.float? s with
  | some n => if n.isFinite then number n else text s
  | none => text s

-- A list literal: a JSON array, or items between commas. Blank text is the empty list.
def parseList (s : String) : List Value :=
  let trimmed := Text.trim s
  if trimmed.isEmpty then []
  else
    let items := (Text.splitChar ',' trimmed).map fun item => ofItem (Text.trim item)
    if trimmed.toList.head? == some '[' then (listOfJsonText? trimmed).getD items else items

end Dataflow.Value
