import Dataflow.Value.Display

namespace Dataflow

inductive FormulaError where
  | unexpectedCharacter (position : Nat) (found : Char)
  | unterminatedString (position : Nat)
  | unexpectedToken (position : Nat) (found : String)
  | unexpectedEnd
  | nestingTooDeep
  | unknownName (name : String)
  | typeMismatch (operation : String) (expected : Shape) (found : Value)
  | divisionByZero

namespace Formula

-- Open parentheses and operators together stay within this number, and so does a tree's depth.
def maxNesting : Nat := 64

end Formula

namespace FormulaError

def message : FormulaError → String
  | unexpectedCharacter position found =>
    "Unexpected character '" ++ found.toString ++ "' at position " ++ toString position
  | unterminatedString position => "Unterminated string literal starting at position " ++ toString position
  | unexpectedToken position found => "Unexpected token '" ++ found ++ "' at position " ++ toString position
  | unexpectedEnd => "Unexpected end of expression"
  | nestingTooDeep => "Expression nests deeper than " ++ toString Formula.maxNesting ++ " levels"
  | unknownName name => "Unknown identifier '" ++ name ++ "'; only the element 'x' is in scope"
  | typeMismatch operation expected found =>
    "Type mismatch during operation '" ++ operation ++ "': expected " ++ expected.name ++
      ", but found value '" ++ found.toText ++ "'"
  | divisionByZero => "Division by zero"

end FormulaError
end Dataflow
