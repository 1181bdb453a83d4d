import Dataflow.Emission
import Dataflow.Graph.Order
import Dataflow.Program.Options

namespace Dataflow

def Graph.sinks (graph : Graph) : List Node :=
  graph.nodes.filter fun node => node.kind.isDisplay || !graph.hasOutgoing node.id

structure Program where
  source : String
  -- The variable of each node that has one, in the order of emission.
  assigned : List (String × String)
  sinks : List String
  diagnostics : List Diagnostic

namespace Program

def variableOf? (program : Program) (id : String) : Option String := program.assigned.lookup id

structure Session where
  namer : Namer
  emitted : List String := []
  assigned : List (String × String) := []
  floats : List String := []
  usesHelper : Bool := false
  body : List String := []
  diagnostics : List Diagnostic := []

namespace Session

def operand? (session : Session) (id : String) : Option Operand :=
  (session.assigned.lookup id).map fun name => ⟨name, session.floats.contains name⟩

-- Every edge is bound, so that slots are fed as in live evaluation; a source without a variable
-- leaves its slot missing.
def inputs (session : Session) (graph : Graph) (node : Node) : Inputs Operand :=
  (Inputs.bind node.kind.slots
    ((graph.edgesInto node.id).map fun edge => (edge.targetHandle, session.operand? edge.source))).flatten

-- The variable that a node assigns, after it is entered in the table. A display passes on the
-- variable it shows and assigns none.
def declare (session : Session) (node : Node) (inputs : Inputs Operand) : String × Session :=
  match node.kind with
  | .display =>
    match inputs.get? "input" with
    | some operand => ("", { session with assigned := session.assigned ++ [(node.id, operand.name)] })
    | none => ("", session)
  | .unknown _ => ("", session)
  | _ =>
    let (name, namer) := session.namer.assign node
    (name, { session with namer := namer, assigned := session.assigned ++ [(node.id, name)] })

def append (session : Session) (name : String) (emission : Emission) : Session :=
  { session with
    floats := if emission.float then session.floats ++ [name] else session.floats
    usesHelper := session.usesHelper || emission.usesHelper
    body := session.body ++ emission.statements
    diagnostics := session.diagnostics ++ emission.diagnostics }

def emit (graph : Graph) (session : Session) (id : String) : Session :=
  if session.emitted.contains id then session
  else
    let session := { session with emitted := session.emitted ++ [id] }
    match graph.node? id with
    | none => session
    | some node =>
      let inputs := session.inputs graph node
      let (name, session) := session.declare node inputs
      session.append name (Emission.ofNode node name inputs)

def emitSink (graph : Graph) (session : Session) (sink : Node) : Except OrderError Session :=
  (graph.evaluationOrder sink.id).map fun order => order.foldl (emit graph) session

end Session

def returned (session : Session) (sinks : List Node) : List String :=
  (sinks.filter fun sink => !sink.kind.isDisplay).filterMap fun sink => session.assigned.lookup sink.id

def returnValue : List String → String
  | [] => "None"
  | [name] => name
  | names => "(" ++ ", ".intercalate names ++ ")"

def lines (options : Options) (session : Session) (returned : List String) : List String :=
  (if options.header then ["# Generated Python code"] else []) ++
  (if session.usesHelper then Emission.helperLines options.indent ++ [""] else []) ++
  ["def " ++ options.functionName ++ "():"] ++
  session.body.map (options.indent ++ ·) ++
  [options.indent ++ "return " ++ returnValue returned] ++
  (if options.mainBlock then [
    "",
    "if __name__ == \"__main__\":",
    options.indent ++ "result = " ++ options.functionName ++ "()",
    options.indent ++ "print(f\"Result: \x7bresult\x7d\")"] else [])

def emptySource : String := "# No nodes in the workspace"

def compile (graph : Graph) (options : Options) : Except OrderError Program :=
  if graph.nodes.isEmpty then .ok ⟨emptySource, [], [], []⟩
  else
    match graph.sinks.foldlM (Session.emitSink graph) { namer := .start options.functionName } with
    | .error fault => .error fault
    | .ok session => .ok {
        source := "\n".intercalate (lines options session (returned session graph.sinks))
        assigned := session.assigned
        sinks := graph.sinks.map (·.id)
        diagnostics := session.diagnostics }

end Program
end Dataflow
