namespace Dataflow.Json

-- One step inside a string: a character, or a code unit written with `\u`.
inductive Piece where
  | char (c : Char)
  | unit (code : Nat)

inductive Raw where
  | null
  | bool (value : Bool)
  | number (spelling : List Char)
  | string (pieces : List Piece)
  | array (items : List Raw)
  | object (members : List (List Piece × Raw))

namespace Raw

def isBlank (c : Char) : Bool := c == ' ' || c == '\t' || c == '\n' || c == '\r'

def skip (cs : List Char) : List Char := cs.dropWhile isBlank

def hexDigit? (c : Char) : Option Nat :=
  if c.isDigit then some (c.toNat - 48)
  else if 'a' ≤ c && c ≤ 'f' then some (c.toNat - 87)
  else if 'A' ≤ c && c ≤ 'F' then some (c.toNat - 55)
  else none

def unit? (a b c d : Char) : Option Nat := do
  return ((((← hexDigit? a) * 16 + (← hexDigit? b)) * 16 + (← hexDigit? c)) * 16 + (← hexDigit? d))

def escaped? : Char → Option Char
  | '"' => some '"'
  | '\\' => some '\\'
  | '/' => some '/'
  | 'b' => some '\x08'
  | 'f' => some '\x0c'
  | 'n' => some '\n'
  | 'r' => some '\r'
  | 't' => some '\t'
  | _ => none

def withPiece (piece : Piece) (read : Option (List Piece × List Char)) : Option (List Piece × List Char) :=
  read.map fun result => (piece :: result.1, result.2)

def stringBody : List Char → Option (List Piece × List Char)
  | [] => none
  | '"' :: rest => some ([], rest)
  | '\\' :: 'u' :: a :: b :: c :: d :: rest =>
    match unit? a b c d with
    | some code => withPiece (.unit code) (stringBody rest)
    | none => none
  | '\\' :: c :: rest =>
    match escaped? c with
    | some meant => withPiece (.char meant) (stringBody rest)
    | none => none
  | c :: rest => if c.toNat < 0x20 || c == '\\' then none else withPiece (.char c) (stringBody rest)

def someDigits? (cs : List Char) : Option (List Char × List Char) :=
  match cs.span Char.isDigit with
  | ([], _) => none
  | result => some result

-- The whole part: a single zero, or digits that do not start with one.
def wholePart? : List Char → Option (List Char × List Char)
  | '0' :: rest => some (['0'], rest)
  | cs => someDigits? cs

def fractionPart? : List Char → Option (List Char × List Char)
  | '.' :: rest => (someDigits? rest).map fun result => ('.' :: result.1, result.2)
  | cs => some ([], cs)

def exponentPart? : List Char → Option (List Char × List Char)
  | [] => some ([], [])
  | c :: rest =>
    if c == 'e' || c == 'E' then
      match rest with
      | '+' :: rest => (someDigits? rest).map fun result => (c :: '+' :: result.1, result.2)
      | '-' :: rest => (someDigits? rest).map fun result => (c :: '-' :: result.1, result.2)
      | rest => (someDigits? rest).map fun result => (c :: result.1, result.2)
    else some ([], c :: rest)

def unsigned? (cs : List Char) : Option (List Char × List Char) := do
  let (whole, rest) ← wholePart? cs
  let (fraction, rest) ← fractionPart? rest
  let (exponent, rest) ← exponentPart? rest
  some (whole ++ fraction ++ exponent, rest)

def number? : List Char → Option (List Char × List Char)
  | '-' :: rest => (unsigned? rest).map fun result => ('-' :: result.1, result.2)
  | cs => unsigned? cs

-- `fuel` bounds the number of values, items and members still to be read.
mutual
def value? : Nat → List Char → Option (Raw × List Char)
  | 0, _ => none
  | fuel + 1, cs =>
    match skip cs with
    | 'n' :: 'u' :: 'l' :: 'l' :: rest => some (.null, rest)
    | 't' :: 'r' :: 'u' :: 'e' :: rest => some (.bool true, rest)
    | 'f' :: 'a' :: 'l' :: 's' :: 'e' :: rest => some (.bool false, rest)
    | '"' :: rest => (stringBody rest).map fun result => (.string result.1, result.2)
    | '[' :: rest =>
      match skip rest with
      | ']' :: rest => some (.array [], rest)
      | rest => (items? fuel rest).map fun result => (.array result.1, result.2)
    | '\x7b' :: rest =>
      match skip rest with
      | '\x7d' :: rest => some (.object [], rest)
      | rest => (members? fuel rest).map fun result => (.object result.1, result.2)
    | cs => (number? cs).map fun result => (.number result.1, result.2)

def items? : Nat → List Char → Option (List Raw × List Char)
  | 0, _ => none
  | fuel + 1, cs =>
    match value? fuel cs with
    | none => none
    | some (item, rest) =>
      match skip rest with
      | ']' :: rest => some ([item], rest)
      | ',' :: rest => (items? fuel rest).map fun result => (item :: result.1, result.2)
      | _ => none

def members? : Nat → List Char → Option (List (List Piece × Raw) × List Char)
  | 0, _ => none
  | fuel + 1, cs =>
    match skip cs with
    | '"' :: rest =>
      match stringBody rest with
      | none => none
      | some (key, rest) =>
        match skip rest with
        | ':' :: rest =>
          match value? fuel rest with
          | none => none
          | some (value, rest) =>
            match skip rest with
            | '\x7d' :: rest => some ([(key, value)], rest)
            | ',' :: rest => (members? fuel rest).map fun result => ((key, value) :: result.1, result.2)
            | _ => none
        | _ => none
    | _ => none
end

-- A whole text: one value with nothing but blanks around it.
def ofText? (s : String) : Option Raw :=
  let cs := s.toList
  match value? (2 * cs.length + 2) cs with
  | some (raw, rest) => if (skip rest).isEmpty then some raw else none
  | none => none

end Raw
end Dataflow.Json
