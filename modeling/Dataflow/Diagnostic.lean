namespace Dataflow

inductive Diagnostic where
  | missingInput (node slot substituted : String)
  | divisionGuard (node : String)
  | unknownKind (node typeName : String)
  | surplusInputs (node : String) (count : Nat)
deriving DecidableEq

namespace Diagnostic

def node : Diagnostic → String
  | missingInput node _ _ | divisionGuard node | unknownKind node _ | surplusInputs node _ => node

def text : Diagnostic → String
  | missingInput node slot substituted =>
    "Missing input '" ++ slot ++ "' on node '" ++ node ++ "', using " ++ substituted
  | divisionGuard _ => "Prevent division by zero"
  | unknownKind _ typeName => "Unknown node type: " ++ typeName
  | surplusInputs node count => "Ignoring " ++ toString count ++ " extra input(s) on node '" ++ node ++ "'"

end Diagnostic
end Dataflow
