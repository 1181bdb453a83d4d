import Dataflow.Program.Compile
import Dataflow.Proofs.Binding
import Dataflow.Proofs.Engine.Settled

namespace Dataflow

namespace Graph

-- The edges into a node, each where it is bound.
def wiring (graph : Graph) (node : Node) : Inputs Edge :=
  Inputs.bind node.kind.slots ((graph.edgesInto node.id).map fun edge => (edge.targetHandle, edge))

def carried (graph : Graph) (edge : Edge) : Option Value := (graph.node? edge.source).map Node.value

variable {graph : Graph} {node : Node} {edge : Edge}

-- The kind and the handles decide, whatever is at the other ends.
theorem wiring_plan (graph : Graph) (node : Node) : graph.wiring node =
    (Inputs.plan node.kind.slots ((graph.edgesInto node.id).map Edge.targetHandle)).filterMap
      ((graph.edgesInto node.id)[·]?) := by
  have planned := Inputs.bind_plan node.kind.slots ((graph.edgesInto node.id).map fun edge => (edge.targetHandle, edge))
  rw [List.map_map, List.map_map] at planned
  exact planned.trans (by simp [Function.comp_def])

theorem wired_into (wired : edge ∈ (graph.wiring node).items) : edge ∈ graph.edgesInto node.id := by
  have there := Inputs.mem_of_bind wired
  rw [List.map_map] at there
  simpa using there

theorem wired_feeds (valid : graph.WellFormed) (wired : edge ∈ (graph.wiring node).items) :
    graph.Feeds edge.source node.id := by
  obtain ⟨there, into⟩ := valid.mem_edgesInto.mp (wired_into wired)
  exact ⟨edge, there, rfl, into⟩

theorem carried_eq (valid : graph.WellFormed) (there : edge ∈ graph.edges) :
    ∃ source, graph.node? edge.source = some source ∧ graph.carried edge = some source.value := by
  obtain ⟨source, found⟩ := Option.isSome_iff_exists.mp (hasNode_iff.mpr (valid.ends edge there).1)
  exact ⟨source, found, congrArg (Option.map Node.value) found⟩

theorem liveInputs_wiring (valid : graph.WellFormed) (node : Node) :
    graph.liveInputs node = (graph.wiring node).filterMap graph.carried := by
  have all : ∀ edge ∈ graph.edgesInto node.id, (graph.carried edge).isSome := by
    intro edge into
    obtain ⟨_, _, carried⟩ := carried_eq valid (valid.mem_edgesInto.mp into).1
    exact Option.isSome_of_eq_some carried
  rw [wiring, ← Inputs.bind_filterMap node.kind.slots Edge.targetHandle graph.carried all, liveInputs]
  simp [carried, Function.comp_def]

end Graph

namespace Program.Session

variable {graph : Graph}

theorem inputs_wiring (session : Session) (graph : Graph) (node : Node) :
    session.inputs graph node = (graph.wiring node).filterMap fun edge => session.operand? edge.source :=
  Inputs.bind_carried node.kind.slots Edge.targetHandle _ (graph.edgesInto node.id)

theorem operand?_name (session : Session) (id : String) :
    (session.operand? id).map Operand.name = session.assigned.lookup id := by
  rw [operand?, Option.map_map]
  exact Option.map_id'

theorem inputs_names (session : Session) (graph : Graph) (node : Node) :
    (session.inputs graph node).map Operand.name =
      (graph.wiring node).filterMap fun edge => session.assigned.lookup edge.source := by
  simp only [inputs_wiring, Inputs.map_filterMap, operand?_name]

end Program.Session
end Dataflow
