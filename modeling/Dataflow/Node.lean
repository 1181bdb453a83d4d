import Dataflow.Kind.Basic

namespace Dataflow

structure Node where
  id : String
  kind : Kind
  -- The literal of an input node, the last result of any other.
  value : Value
  name : Option String := none

namespace Node

def ofKind (id : String) (kind : Kind) : Node := ⟨id, kind, kind.defaultValue, none⟩

end Node
end Dataflow
