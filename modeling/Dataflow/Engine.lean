import Dataflow.Evaluation
import Dataflow.Graph.Closure

namespace Dataflow

inductive EngineState where
  | idle
  | dirty
deriving DecidableEq

structure Change where
  node : String
  value : Value

inductive EngineError where
  | cycle (node : String)
  | unknownKind (node typeName : String)
  | nodeNotFound (node : String)
  | notAnInput (node kind : String)
  | graph (fault : GraphError)
  -- The value of the node could not be computed to its end, and nothing is returned.
  | panic (node : String)
deriving DecidableEq

namespace EngineError

def ofOrder : OrderError → EngineError
  | .cycle node => cycle node
  | .nodeNotFound node => nodeNotFound node

def message : EngineError → String
  | cycle node => (OrderError.cycle node).message
  | unknownKind node typeName =>
    "Node '" ++ node ++ "' has unknown kind '" ++ typeName ++ "' but its value is consumed downstream"
  | nodeNotFound node => (OrderError.nodeNotFound node).message
  | notAnInput node kind =>
    "Node '" ++ node ++ "' is a computed '" ++ kind ++ "' node; only input nodes hold literals"
  | graph fault => fault.message
  | panic _ => "user-provided comparison function does not correctly implement a total order"

end EngineError

namespace Graph

def liveInputs (graph : Graph) (node : Node) : Inputs Value :=
  Inputs.bind node.kind.slots ((graph.edgesInto node.id).filterMap fun edge =>
    (graph.node? edge.source).map fun source => (edge.targetHandle, source.value))

def liveValue? (graph : Graph) (node : Node) : Option Value :=
  node.kind.evaluate node.value (graph.liveInputs node)

-- The new value of a node, if it has to change. A node of unknown kind has no value to offer.
def recompute (graph : Graph) (id : String) : Except EngineError (Option Value) :=
  match graph.node? id with
  | none => .error (.nodeNotFound id)
  | some node =>
    match node.kind with
    | .unknown typeName => if graph.hasOutgoing id then .error (.unknownKind id typeName) else .ok none
    | _ =>
      match graph.liveValue? node with
      | none => .error (.panic id)
      | some value => .ok (if value.same node.value then none else some value)

def recomputeAll : List String → Graph → List Change → Graph × Except EngineError (List Change)
  | [], graph, changes => (graph, .ok changes)
  | id :: rest, graph, changes =>
    match graph.recompute id with
    | .error fault => (graph, .error fault)
    | .ok none => recomputeAll rest graph changes
    | .ok (some value) => recomputeAll rest (graph.setValue id value) (changes ++ [⟨id, value⟩])

end Graph

structure Engine where
  graph : Graph
  state : EngineState

namespace Engine

-- An operation always leaves an engine, also where it fails.
abbrev Outcome (α : Type) := Engine × Except EngineError α

def empty : Engine := ⟨.empty, .idle⟩

-- Nothing is known yet about the values of a graph that was built elsewhere.
def ofGraph (graph : Graph) : Engine := ⟨graph, .dirty⟩

def value? (engine : Engine) (id : String) : Option Value := (engine.graph.node? id).map (·.value)

def fail (engine : Engine) (fault : EngineError) : Outcome α := (engine, .error fault)

def settle (graph : Graph) (seeds : List String) (changes : List Change) : Outcome (List Change) :=
  match graph.orderSubset (graph.forwardClosure seeds) with
  | .error fault => fail ⟨graph, .dirty⟩ (.ofOrder fault)
  | .ok order =>
    match Graph.recomputeAll order graph changes with
    | (graph, .ok changes) => (⟨graph, .idle⟩, .ok changes)
    | (graph, .error fault) => fail ⟨graph, .dirty⟩ fault

def settleAll (engine : Engine) : Outcome (List Change) := settle engine.graph engine.graph.nodeIds []

def store (graph : Graph) (node : Node) (literal : Value) : Graph × List Change :=
  if node.value.same literal then (graph, [])
  else (graph.setValue node.id literal, [⟨node.id, literal⟩])

def setValue (engine : Engine) (id : String) (value : Value) : Outcome (List Change) :=
  match engine.graph.node? id with
  | none => engine.fail (.nodeNotFound id)
  | some node =>
    if node.kind.isInput then
      let (graph, changes) := store engine.graph node (node.kind.coerce value)
      settle graph [node.id] changes
    else engine.fail (.notAnInput node.id node.kind.typeName)

-- The value a node holds becomes the literal of its new kind.
def setKind (engine : Engine) (id : String) (kind : Kind) : Outcome (List Change) :=
  match engine.graph.node? id with
  | none => engine.fail (.nodeNotFound id)
  | some node =>
    let graph := engine.graph.update id fun node => { node with kind := kind }
    if kind.isInput then
      let (graph, changes) := store graph node (kind.coerce node.value)
      settle graph [node.id] changes
    else settle graph [node.id] []

def usableName (name : Option String) : Option String := name.filter fun name => !Text.isAllBlank name

def setName (engine : Engine) (id : String) (name : Option String) : Outcome (List Change) :=
  match engine.graph.node? id with
  | none => engine.fail (.nodeNotFound id)
  | some _ =>
    ({ engine with graph := engine.graph.update id fun node => { node with name := usableName name } }, .ok [])

def insertNode (engine : Engine) (node : Node) : Outcome (List Change) :=
  match engine.graph.addNode { node with value := node.kind.coerce node.value } with
  | (graph, .error fault) => fail { engine with graph := graph } (.graph fault)
  | (graph, .ok ()) => settle graph [node.id] []

def removeNode (engine : Engine) (id : String) : Outcome (List Change) :=
  match engine.graph.removeNode id with
  | (graph, .error fault) => fail { engine with graph := graph } (.graph fault)
  | (graph, .ok (node, edges)) =>
    settle graph ((edges.filter fun edge => edge.source == node.id && edge.target != node.id).map (·.target)) []

def reject (engine : Engine) (edge : String) (fault : EngineError) : Outcome α :=
  match engine.graph.removeEdge edge with
  | (graph, .ok _) => fail { engine with graph := graph } fault
  | (graph, .error fault) => fail { engine with graph := graph } (.graph fault)

def accept (engine : Engine) (edge source target : String) : Outcome (List Change) :=
  match (engine.graph.node? source).map Node.kind with
  | some (.unknown typeName) => engine.reject edge (.unknownKind source typeName)
  | _ =>
    match engine.graph.evaluationOrder target with
    | .error (.cycle node) => engine.reject edge (.cycle node)
    | .error (.nodeNotFound node) => engine.fail (.nodeNotFound node)
    | .ok _ => settle engine.graph [target] []

def insertEdge (engine : Engine) (edge : Edge) : Outcome (List Change) :=
  match engine.graph.addEdge edge with
  | (graph, .error fault) => fail { engine with graph := graph } (.graph fault)
  | (graph, .ok ()) => accept { engine with graph := graph } edge.id edge.source edge.target

def connect (engine : Engine) (source target : String) (handle : Option String) :
    Outcome (String × List Change) :=
  match engine.graph.connect source target handle with
  | (graph, .error fault) => fail { engine with graph := graph } (.graph fault)
  | (graph, .ok id) =>
    match accept { engine with graph := graph } id source target with
    | (engine, .ok changes) => (engine, .ok (id, changes))
    | (engine, .error fault) => engine.fail fault

def disconnect (engine : Engine) (id : String) : Outcome (List Change) :=
  match engine.graph.removeEdge id with
  | (graph, .error fault) => fail { engine with graph := graph } (.graph fault)
  | (graph, .ok edge) => settle graph [edge.target] []

end Engine
end Dataflow
