import Dataflow.Node
import Dataflow.Table

namespace Dataflow

structure Edge where
  id : String
  source : String
  target : String
  sourceHandle : Option String := none
  -- Which input of the target the edge feeds; without one it is bound by position.
  targetHandle : Option String := none
deriving DecidableEq

inductive GraphError where
  | duplicateNode (id : String)
  | duplicateEdge (id : String)
  | nodeNotFound (id : String)
  | edgeNotFound (id : String)
  | handleOccupied (target handle edge : String)
deriving DecidableEq

def GraphError.message : GraphError → String
  | duplicateNode id => "Node '" ++ id ++ "' already exists in the graph"
  | duplicateEdge id => "Edge '" ++ id ++ "' already exists in the graph"
  | nodeNotFound id => "Node '" ++ id ++ "' not found in the graph"
  | edgeNotFound id => "Edge '" ++ id ++ "' not found in the graph"
  | handleOccupied target handle edge =>
    "Handle '" ++ handle ++ "' of node '" ++ target ++ "' is already bound by edge '" ++ edge ++ "'"

structure Graph where
  nodeTable : Table Node
  edgeTable : Table Edge
  incoming : Table (List String)
  outgoing : Table (List String)

namespace Graph

abbrev Outcome (α : Type) := Graph × Except GraphError α

def empty : Graph := ⟨.empty, .empty, .empty, .empty⟩

def fail (graph : Graph) (fault : GraphError) : Outcome α := (graph, .error fault)

def nodes (graph : Graph) : List Node := graph.nodeTable.items

def edges (graph : Graph) : List Edge := graph.edgeTable.items

def nodeIds (graph : Graph) : List String := graph.nodeTable.keys

def node? (graph : Graph) (id : String) : Option Node := graph.nodeTable.get? id

def edge? (graph : Graph) (id : String) : Option Edge := graph.edgeTable.get? id

def hasNode (graph : Graph) (id : String) : Bool := graph.nodeTable.contains id

def hasEdge (graph : Graph) (id : String) : Bool := graph.edgeTable.contains id

def edgesInto (graph : Graph) (id : String) : List Edge := (graph.incoming.list id).filterMap graph.edge?

def edgesOutOf (graph : Graph) (id : String) : List Edge := (graph.outgoing.list id).filterMap graph.edge?

def hasOutgoing (graph : Graph) (id : String) : Bool := !(graph.outgoing.list id).isEmpty

def update (graph : Graph) (id : String) (change : Node → Node) : Graph :=
  { graph with nodeTable := graph.nodeTable.modify id change }

def setValue (graph : Graph) (id : String) (value : Value) : Graph :=
  graph.update id fun node => { node with value := value }

def addNode (graph : Graph) (node : Node) : Outcome Unit :=
  if graph.hasNode node.id then graph.fail (.duplicateNode node.id)
  else ({ graph with nodeTable := graph.nodeTable.insert node.id node }, .ok ())

def occupant? (graph : Graph) (target handle : String) : Option Edge :=
  (graph.edgesInto target).find? (·.targetHandle == some handle)

def attach (graph : Graph) (edge : Edge) : Graph :=
  { graph with
    edgeTable := graph.edgeTable.insert edge.id edge
    incoming := graph.incoming.push edge.target edge.id
    outgoing := graph.outgoing.push edge.source edge.id }

def addEdge (graph : Graph) (edge : Edge) : Outcome Unit :=
  if graph.hasEdge edge.id then graph.fail (.duplicateEdge edge.id)
  else if !graph.hasNode edge.source then graph.fail (.nodeNotFound edge.source)
  else if !graph.hasNode edge.target then graph.fail (.nodeNotFound edge.target)
  else
    match edge.targetHandle with
    | none => (graph.attach edge, .ok ())
    | some handle =>
      match graph.occupant? edge.target handle with
      | some occupant => graph.fail (.handleOccupied edge.target handle occupant.id)
      | none => (graph.attach edge, .ok ())

def connectionId (source target : String) (handle : Option String) : String :=
  match handle with
  | some handle => source ++ "->" ++ target ++ ":" ++ handle
  | none => source ++ "->" ++ target

-- The ids tried for a connection in turn: the id itself, then `id#2`, `id#3`, …
def candidate (base : String) : Nat → String
  | 0 => base
  | n + 1 => base ++ "#" ++ toString (n + 2)

theorem toString_injective {m n : Nat} (same : toString m = toString n) : m = n := by
  have digits : Nat.toDigits 10 m = Nat.toDigits 10 n := by
    simpa only [Nat.toString_eq_repr, Nat.toList_repr] using congrArg String.toList same
  rw [← Nat.ofDigitChars_ten_toDigits (n := m), digits, Nat.ofDigitChars_ten_toDigits]

theorem candidate_injective {base : String} {m n : Nat} (same : candidate base m = candidate base n) :
    m = n := by
  have longer (k : Nat) : base ++ "#" ++ toString k ≠ base := by
    intro equal
    rw [String.append_assoc, String.append_eq_left_iff] at equal
    simpa using congrArg String.length equal
  cases m with
  | zero =>
    cases n with
    | zero => rfl
    | succ n => exact absurd same.symm (longer _)
  | succ m =>
    cases n with
    | zero => exact absurd same (longer _)
    | succ n =>
      have := toString_injective ((String.append_right_inj _).mp same)
      omega

def untried (graph : Graph) (base : String) (n : Nat) : List String :=
  graph.edgeTable.keys.filter fun key => !((List.range n).map (candidate base)).contains key

theorem untried_shrinks {graph : Graph} (taken : graph.hasEdge (candidate base n)) :
    (graph.untried base (n + 1)).length < (graph.untried base n).length := by
  have fresh : candidate base n ∉ (List.range n).map (candidate base) := by
    intro member
    obtain ⟨m, below, same⟩ := List.mem_map.mp member
    have := candidate_injective same
    have := List.mem_range.mp below
    omega
  have fewer : graph.untried base (n + 1) = (graph.untried base n).filter (· != candidate base n) := by
    simp only [untried, List.filter_filter, List.range_succ, List.map_append]
    refine List.filter_congr fun key _ => ?_
    by_cases same : key = candidate base n <;> simp [same]
  rw [fewer]
  refine List.length_filter_lt_length_iff_exists.mpr ⟨candidate base n, ?_, by simp⟩
  exact List.mem_filter.mpr ⟨(graph.edgeTable.contains_iff _).mp taken, by simpa using fresh⟩

-- The first candidate from the `n`th on that no edge has. Each that is passed over is the id of an
-- edge, and no two candidates are alike, so that there is one.
def freshFrom (graph : Graph) (base : String) (n : Nat) : String :=
  if taken : graph.hasEdge (candidate base n) then graph.freshFrom base (n + 1) else candidate base n
termination_by (graph.untried base n).length
decreasing_by exact untried_shrinks taken

def connect (graph : Graph) (source target : String) (handle : Option String) : Outcome String :=
  let id := graph.freshFrom (connectionId source target handle) 0
  match graph.addEdge { id := id, source := source, target := target, targetHandle := handle } with
  | (graph, .error fault) => graph.fail fault
  | (graph, .ok ()) => (graph, .ok id)

def detach (graph : Graph) (id : String) (edge : Edge) : Graph :=
  { graph with
    edgeTable := graph.edgeTable.erase id
    incoming := graph.incoming.drop edge.target edge.id
    outgoing := graph.outgoing.drop edge.source edge.id }

def removeEdge (graph : Graph) (id : String) : Outcome Edge :=
  match graph.edge? id with
  | none => graph.fail (.edgeNotFound id)
  | some edge => (graph.detach id edge, .ok edge)

-- Removes edges one after another and hands them back in that order.
def removeEdges : List String → Graph → Outcome (List Edge)
  | [], graph => (graph, .ok [])
  | id :: rest, graph =>
    match graph.removeEdge id with
    | (graph, .error fault) => graph.fail fault
    | (graph, .ok edge) =>
      match removeEdges rest graph with
      | (graph, .error fault) => graph.fail fault
      | (graph, .ok edges) => (graph, .ok (edge :: edges))

-- The ids of the edges that touch a node, each once, the incoming ones first.
def incident (graph : Graph) (id : String) : List String :=
  (graph.incoming.list id ++ graph.outgoing.list id).foldl
    (fun found edge => if found.contains edge then found else found ++ [edge]) []

def clear (graph : Graph) (id : String) : Graph :=
  { graph with incoming := graph.incoming.erase id, outgoing := graph.outgoing.erase id }

def dropNode (graph : Graph) (id : String) : Graph :=
  { graph.clear id with nodeTable := graph.nodeTable.erase id }

def removeNode (graph : Graph) (id : String) : Outcome (Node × List Edge) :=
  if graph.hasNode id then
    match removeEdges (graph.incident id) graph with
    | (graph, .error fault) => graph.fail fault
    | (graph, .ok edges) =>
      match graph.node? id with
      | none => (graph.clear id).fail (.nodeNotFound id)
      | some node => (graph.dropNode id, .ok (node, edges))
  else graph.fail (.nodeNotFound id)

end Graph
end Dataflow
