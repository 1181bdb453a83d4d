namespace Dataflow

-- A closed family of operations, each with one spelling.
class Spelled (α : Type) where
  -- The family's name in messages.
  family : String
  all : List α
  spelling : α → String

namespace Spelled

def read? (α : Type) [Spelled α] (s : String) : Option α :=
  (all : List α).find? fun operation => spelling operation == s

def unknownMessage (α : Type) [Spelled α] (s : String) : String :=
  "unknown " ++ family α ++ " '" ++ s ++ "'"

end Spelled

inductive Comparison where
  | equal
  | notEqual
  | less
  | greater
  | lessOrEqual
  | greaterOrEqual
deriving DecidableEq

inductive Connective where
  | and
  | or
  | not
  | xor
  | nand
  | nor
deriving DecidableEq

inductive TextOperation where
  | concat
  | length
  | substring
  | uppercase
  | lowercase
  | replace
  | split
  | join
  | trim
  | contains
deriving DecidableEq

inductive ListOperation where
  | push
  | pop
  | map
  | filter
  | length
  | join
  | slice
  | reverse
  | sort
deriving DecidableEq

instance : Spelled Comparison where
  family := "ComparisonOp"
  all := [.equal, .notEqual, .less, .greater, .lessOrEqual, .greaterOrEqual]
  spelling
    | .equal => "=="
    | .notEqual => "!="
    | .less => "<"
    | .greater => ">"
    | .lessOrEqual => "<="
    | .greaterOrEqual => ">="

instance : Spelled Connective where
  family := "BooleanOp"
  all := [.and, .or, .not, .xor, .nand, .nor]
  spelling
    | .and => "AND"
    | .or => "OR"
    | .not => "NOT"
    | .xor => "XOR"
    | .nand => "NAND"
    | .nor => "NOR"

instance : Spelled TextOperation where
  family := "StringOp"
  all := [.concat, .length, .substring, .uppercase, .lowercase, .replace, .split, .join, .trim, .contains]
  spelling
    | .concat => "CONCAT"
    | .length => "LENGTH"
    | .substring => "SUBSTRING"
    | .uppercase => "UPPERCASE"
    | .lowercase => "LOWERCASE"
    | .replace => "REPLACE"
    | .split => "SPLIT"
    | .join => "JOIN"
    | .trim => "TRIM"
    | .contains => "CONTAINS"

instance : Spelled ListOperation where
  family := "ListOp"
  all := [.push, .pop, .map, .filter, .length, .join, .slice, .reverse, .sort]
  spelling
    | .push => "PUSH"
    | .pop => "POP"
    | .map => "MAP"
    | .filter => "FILTER"
    | .length => "LENGTH"
    | .join => "JOIN"
    | .slice => "SLICE"
    | .reverse => "REVERSE"
    | .sort => "SORT"

end Dataflow
