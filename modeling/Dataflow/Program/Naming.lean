import Dataflow.Node
import Dataflow.Text.Blank
import Dataflow.Text.Case

namespace Dataflow

namespace Python

def keywords : List String := [
  "False", "None", "True", "and", "as", "assert", "async", "await", "break", "class", "continue", "def",
  "del", "elif", "else", "except", "finally", "for", "from", "global", "if", "import", "in", "is",
  "lambda", "nonlocal", "not", "or", "pass", "raise", "return", "try", "while", "with", "yield"]

-- The functions that generated statements call, and the variables they bind themselves.
def reserved : List String :=
  ["bool", "float", "len", "list", "print", "reversed", "sorted", "str", "v", "x"]

def isWordChar (c : Char) : Bool := c.isAlphanum || c == '_'

end Python

-- Runs of other characters become one underscore; `underscored` says that one stands in front.
def squeeze : Bool → List Char → List Char
  | _, [] => []
  | underscored, c :: rest =>
    if Python.isWordChar c then c :: squeeze (c == '_') rest
    else if underscored then squeeze true rest
    else '_' :: squeeze true rest

def stripUnderscores (cs : List Char) : List Char :=
  ((cs.dropWhile (· == '_')).reverse.dropWhile (· == '_')).reverse

def sanitizeChars (cs : List Char) : List Char :=
  match stripUnderscores (squeeze false ((Text.trimChars cs).flatMap Text.lowerChar)) with
  | [] => []
  | c :: rest => if c.isDigit then '_' :: c :: rest else c :: rest

def sanitize (name : String) : String := .ofList (sanitizeChars name.toList)

structure Namer where
  counter : Nat
  taken : List String

namespace Namer

def start (functionName : String) : Namer := ⟨0, [functionName]⟩

def unavailable (namer : Namer) : List String := namer.taken ++ Python.keywords ++ Python.reserved

def wish (node : Node) (number : Nat) : String :=
  let sanitized := (node.name.map sanitize).getD ""
  if sanitized.isEmpty then node.kind.variableStem ++ "_" ++ toString number else sanitized

-- The wish, or the first of its numbered variants that is free.
def settle (unavailable : List String) (wish : String) (number : Nat) : String :=
  let numbered := (List.range unavailable.length).map fun n => wish ++ "_" ++ toString (number + n)
  ((wish :: numbered).find? (!unavailable.contains ·)).getD wish

def assign (namer : Namer) (node : Node) : String × Namer :=
  let number := namer.counter + 1
  let name := settle namer.unavailable (wish node number) number
  (name, ⟨number, namer.taken ++ [name]⟩)

end Namer
end Dataflow
