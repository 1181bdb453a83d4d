import Dataflow.Formula.Basic

namespace Dataflow

inductive Token where
  | number (n : Float)
  | string (s : String)
  | unterminated
  -- A word that means nothing here.
  | name (word : String)
  | element
  | truth (b : Bool)
  | not
  | bang
  | operator (op : Operator)
  | opening
  | closing

namespace Token

def text : Token → String
  | number n => Value.numberText n
  | string s => "'" ++ s ++ "'"
  | unterminated => "<unterminated string>"
  | name word => word
  | element => "x"
  | truth b => Value.boolText b
  | not => "not"
  | bang => "!"
  | operator op => op.spelling
  | opening => "("
  | closing => ")"

def ofWord : String → Token
  | "and" => operator .and
  | "or" => operator .or
  | "not" => not
  | "true" => truth true
  | "True" => truth true
  | "false" => truth false
  | "False" => truth false
  | "x" => element
  | word => name word

def isOperator : Token → Bool
  | not | bang | operator _ => true
  | _ => false

end Token

-- A token and the byte offset of its first character.
structure Lexeme where
  token : Token
  position : Nat

end Dataflow
