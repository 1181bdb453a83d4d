import Dataflow.Program.Naming

namespace Dataflow

structure Options where
  indent : String := "    "
  functionName : String := "calculate"
  header : Bool := true
  mainBlock : Bool := true
deriving DecidableEq

namespace Options

def isFunctionName (name : String) : Bool :=
  match name.toList with
  | [] => false
  | c :: rest => (c.isAlpha || c == '_') && rest.all Python.isWordChar

-- A name that Python would not read is passed over.
def withFunctionName (options : Options) (name : String) : Options :=
  if isFunctionName name then { options with functionName := name } else options

end Options
end Dataflow
