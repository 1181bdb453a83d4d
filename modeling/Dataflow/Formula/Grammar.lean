import Dataflow.Formula.Lexer

namespace Dataflow.Formula

def check (opened operators : Nat) : List Lexeme → Except FormulaError Unit
  | [] => .ok ()
  | ⟨token, position⟩ :: rest =>
    let opened := match token with
      | .opening => opened + 1
      | .closing => opened - 1
      | _ => opened
    let operators := if token.isOperator then operators + 1 else operators
    match token with
    | .unterminated => .error (.unterminatedString position)
    | .name word => .error (.unknownName word)
    | _ =>
      if maxNesting < opened + operators then .error .nestingTooDeep
      else check opened operators rest

-- An operator of level `n` is taken where at most `2 * n` is asked for, and asks for `2 * n + 1` on
-- its right, so that equal levels associate to the left.
def leftPower (op : Operator) : Nat := 2 * op.level
def rightPower (op : Operator) : Nat := 2 * op.level + 1

def unexpected : List Lexeme → FormulaError
  | [] => .unexpectedEnd
  | lexeme :: _ => .unexpectedToken lexeme.position lexeme.token.text

abbrev Reading := Except FormulaError (Formula × List Lexeme)

def Reading.map (build : Formula → Formula) : Reading → Reading
  | .ok (formula, rest) => .ok (build formula, rest)
  | .error fault => .error fault

-- `fuel` bounds the calls; each token takes part in at most three.
mutual
def parseFrom : Nat → Nat → List Lexeme → Reading
  | 0, _, lexemes => .error (unexpected lexemes)
  | fuel + 1, power, lexemes =>
    match operand fuel lexemes with
    | .ok (left, rest) => extend fuel power left rest
    | .error fault => .error fault

-- What stands before the first infix operator. A sign may stand in front of any operand and takes
-- as much as its own power allows.
def operand : Nat → List Lexeme → Reading
  | 0, lexemes => .error (unexpected lexemes)
  | _ + 1, [] => .error (unexpected [])
  | fuel + 1, ⟨token, position⟩ :: rest =>
    match token with
    | .number n => .ok (.literal (.number n), rest)
    | .string s => .ok (.literal (.text s), rest)
    | .truth b => .ok (.literal (.bool b), rest)
    | .element => .ok (.element, rest)
    | .not => Reading.map .not (parseFrom fuel (2 * notLevel) rest)
    | .bang => Reading.map .not (parseFrom fuel (2 * negLevel) rest)
    | .operator .sub => Reading.map .neg (parseFrom fuel (2 * negLevel) rest)
    | .operator .add => parseFrom fuel (2 * negLevel) rest
    | .opening =>
      match parseFrom fuel 0 rest with
      | .ok (inner, ⟨.closing, _⟩ :: rest) => .ok (inner, rest)
      | .ok (_, rest) => .error (unexpected rest)
      | .error fault => .error fault
    | _ => .error (unexpected (⟨token, position⟩ :: rest))

def extend : Nat → Nat → Formula → List Lexeme → Reading
  | 0, _, _, lexemes => .error (unexpected lexemes)
  | fuel + 1, power, left, ⟨.operator op, position⟩ :: rest =>
    if power ≤ leftPower op then
      match parseFrom fuel (rightPower op) rest with
      | .ok (right, rest) => extend fuel power (.binary op left right) rest
      | .error fault => .error fault
    else .ok (left, ⟨.operator op, position⟩ :: rest)
  | _ + 1, _, left, rest => .ok (left, rest)
end

def ofLexemes (lexemes : List Lexeme) : Except FormulaError Formula :=
  match parseFrom (3 * lexemes.length + 3) 0 lexemes with
  | .ok (formula, []) => .ok formula
  | .ok (_, rest) => .error (unexpected rest)
  | .error fault => .error fault

def parse (source : String) : Except FormulaError Formula := do
  let lexemes ← tokens source.toList
  check 0 0 lexemes
  ofLexemes lexemes

end Dataflow.Formula
