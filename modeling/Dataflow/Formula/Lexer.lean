import Dataflow.Decimal.Reader
import Dataflow.Formula.Error
import Dataflow.Formula.Token
import Dataflow.Text.Blank
import Dataflow.Text.Identifier

namespace Dataflow.Formula
open Text (isBlank opensIdentifier continuesIdentifier digitsValue)

def digitsNumber (whole fraction : List Char) : Float :=
  Decimal.toFloat ⟨digitsValue (whole ++ fraction), -(fraction.length : Int)⟩

def numberToken (whole cs : List Char) : Token × List Char :=
  match cs with
  | '.' :: rest =>
    match rest.span Char.isDigit with
    | ([], _) => (.number (digitsNumber whole []), cs)
    | (fraction, rest) => (.number (digitsNumber whole fraction), rest)
  | _ => (.number (digitsNumber whole []), cs)

def stringEscape (c : Char) : Char :=
  if c == 'n' then '\n' else if c == 't' then '\t' else c

-- A string after its opening quote: its text unless the closing quote is missing, and what follows.
-- A backslash with nothing behind it cannot be read at all.
def stringBody (quote : Char) : List Char → Option (Option (List Char) × List Char)
  | [] => some (none, [])
  | ['\\'] => none
  | '\\' :: c :: rest =>
    (stringBody quote rest).map fun result => (result.1.map (stringEscape c :: ·), result.2)
  | c :: rest =>
    if c == quote then some (some [], rest)
    else (stringBody quote rest).map fun result => (result.1.map (c :: ·), result.2)

def stringToken (quote : Char) (cs : List Char) : Except (List Char) (Token × List Char) :=
  match stringBody quote cs with
  | none => .error []
  | some (none, rest) => .ok (.unterminated, rest)
  | some (some text, rest) => .ok (.string (.ofList text), rest)

-- The longest symbol in front. A fault lies behind the part of a symbol that was there.
def symbolToken : List Char → Except (List Char) (Token × List Char)
  | '=' :: '=' :: '=' :: rest => .ok (.operator .eq, rest)
  | '!' :: '=' :: '=' :: rest => .ok (.operator .ne, rest)
  | '=' :: '=' :: rest => .ok (.operator .eq, rest)
  | '!' :: '=' :: rest => .ok (.operator .ne, rest)
  | '<' :: '=' :: rest => .ok (.operator .le, rest)
  | '>' :: '=' :: rest => .ok (.operator .ge, rest)
  | '&' :: '&' :: rest => .ok (.operator .and, rest)
  | '|' :: '|' :: rest => .ok (.operator .or, rest)
  | '<' :: rest => .ok (.operator .lt, rest)
  | '>' :: rest => .ok (.operator .gt, rest)
  | '+' :: rest => .ok (.operator .add, rest)
  | '-' :: rest => .ok (.operator .sub, rest)
  | '*' :: rest => .ok (.operator .mul, rest)
  | '/' :: rest => .ok (.operator .div, rest)
  | '%' :: rest => .ok (.operator .mod, rest)
  | '!' :: rest => .ok (.bang, rest)
  | '(' :: rest => .ok (.opening, rest)
  | ')' :: rest => .ok (.closing, rest)
  | '=' :: rest => .error rest
  | '&' :: rest => .error rest
  | '|' :: rest => .error rest
  | cs => .error cs

def token : List Char → Except (List Char) (Token × List Char)
  | [] => .error []
  | c :: rest =>
    if c.isDigit then
      let (digits, rest) := (c :: rest).span Char.isDigit
      .ok (numberToken digits rest)
    else if c == '.' then
      match rest.span Char.isDigit with
      | ([], _) => .error rest
      | (fraction, rest) => .ok (.number (digitsNumber [] fraction), rest)
    else if c == '"' || c == '\x27' then stringToken c rest
    else if opensIdentifier c then
      let (tail, rest) := rest.span continuesIdentifier
      .ok (.ofWord (.ofList (c :: tail)), rest)
    else symbolToken (c :: rest)

-- Every token takes a character, so the text's length bounds their number.
def tokensFrom : Nat → List Char → Except (List Char) (List (Token × List Char))
  | 0, _ => .ok []
  | fuel + 1, cs =>
    match cs.dropWhile isBlank with
    | [] => .ok []
    | c :: rest =>
      match token (c :: rest) with
      | .error fault => .error fault
      | .ok (token, after) =>
        match tokensFrom fuel after with
        | .error fault => .error fault
        | .ok tokens => .ok ((token, c :: rest) :: tokens)

def byteLength : List Char → Nat
  | [] => 0
  | c :: rest => c.utf8Size + byteLength rest

def offset (source rest : List Char) : Nat := byteLength source - byteLength rest

def tokens (source : List Char) : Except FormulaError (List Lexeme) :=
  match tokensFrom (source.length + 1) source with
  | .ok found => .ok (found.map fun item => ⟨item.1, offset source item.2⟩)
  | .error [] => .error .unexpectedEnd
  | .error (c :: rest) => .error (.unexpectedCharacter (offset source (c :: rest)) c)

end Dataflow.Formula
