import Dataflow.Proofs.Graph.Store

namespace Dataflow

-- The calls of the store. A change made to a node in place keeps its id.
inductive Edit where
  | addNode (node : Node)
  | removeNode (id : String)
  | addEdge (edge : Edge)
  | connect (source target : String) (handle : Option String)
  | removeEdge (id : String)
  | update (id : String) (change : Node → Node) (keeps : ∀ node, (change node).id = node.id)

-- The graph that a call leaves, also where it fails.
def Edit.apply (graph : Graph) : Edit → Graph
  | addNode node => (graph.addNode node).1
  | removeNode id => (graph.removeNode id).1
  | addEdge edge => (graph.addEdge edge).1
  | connect source target handle => (graph.connect source target handle).1
  | removeEdge id => (graph.removeEdge id).1
  | update id change _ => graph.update id change

namespace Graph

def build (edits : List Edit) : Graph := edits.foldl Edit.apply empty

def Built (graph : Graph) : Prop := ∃ edits, build edits = graph

variable {graph : Graph} {source target : String} {handle : Option String}

theorem edit_wellFormed (valid : graph.WellFormed) (edit : Edit) : (edit.apply graph).WellFormed := by
  cases edit with
  | addNode node => exact addNode_wellFormed valid node
  | removeNode id => exact removeNode_wellFormed valid id
  | addEdge edge => exact addEdge_wellFormed valid edge
  | connect source target handle => exact connect_wellFormed valid source target handle
  | removeEdge id => exact removeEdge_wellFormed valid id
  | update id change keeps => exact update_wellFormed valid id keeps

theorem edits_wellFormed (edits : List Edit) (valid : graph.WellFormed) :
    (edits.foldl Edit.apply graph).WellFormed := by
  induction edits generalizing graph with
  | nil => exact valid
  | cons edit edits ih => exact ih (edit_wellFormed valid edit)

theorem Built.wellFormed (built : graph.Built) : graph.WellFormed := by
  obtain ⟨edits, rfl⟩ := built
  exact edits_wellFormed edits empty_wellFormed

theorem Built.edited (built : graph.Built) (edit : Edit) : (edit.apply graph).Built := by
  obtain ⟨edits, rfl⟩ := built
  exact ⟨edits ++ [edit], by rw [build, List.foldl_append]; rfl⟩

theorem Built.left {next : Graph} (built : graph.Built) (edit : Edit) (left : edit.apply graph = next) :
    next.Built := left ▸ built.edited edit

theorem Built.valued (built : graph.Built) (id : String) (value : Value) : (graph.setValue id value).Built :=
  built.edited (.update id (fun node => { node with value := value }) fun _ => rfl)

structure Consistent (graph : Graph) : Prop where
  nodesDistinct : graph.nodeIds.Nodup
  nodesKeyed : ∀ entry ∈ graph.nodeTable.entries, entry.2.id = entry.1
  edgesDistinct : graph.edgeTable.keys.Nodup
  edgesKeyed : ∀ entry ∈ graph.edgeTable.entries, entry.2.id = entry.1
  ends : ∀ edge ∈ graph.edges, graph.hasNode edge.source ∧ graph.hasNode edge.target
  into : ∀ id, graph.edgesInto id = graph.edges.filter (·.target == id)
  outOf : ∀ id, graph.edgesOutOf id = graph.edges.filter (·.source == id)
  outgoing : ∀ id, graph.hasOutgoing id = !(graph.edgesOutOf id).isEmpty
  strangers : ∀ id, graph.hasNode id = false → graph.edgesInto id = [] ∧ graph.edgesOutOf id = []
  handles : ∀ first ∈ graph.edges, ∀ second ∈ graph.edges, first.target = second.target →
    first.targetHandle = second.targetHandle → first.targetHandle ≠ none → first = second

-- No edge feeds this input of the node; without a handle there is always room.
def Vacant (graph : Graph) (target : String) (handle : Option String) : Prop :=
  ∀ edge ∈ graph.edges, edge.target = target → edge.targetHandle = handle → handle = none

theorem WellFormed.consistent (valid : graph.WellFormed) : graph.Consistent := by
  refine ⟨valid.nodesIndexed.distinct, valid.nodesIndexed.named, valid.edgesIndexed.distinct,
    valid.edgesIndexed.named, ?_, valid.edgesInto_eq, valid.edgesOutOf_eq, ?_, ?_, valid.handles⟩
  · intro edge member
    have ends := valid.ends edge member
    exact ⟨hasNode_iff.mpr ends.1, hasNode_iff.mpr ends.2⟩
  · intro id
    rw [hasOutgoing, valid.outOf, valid.edgesOutOf_eq, List.isEmpty_map]
  · intro id stranger
    have absent : id ∉ graph.nodeIds := fun there => by simp [hasNode_iff.mpr there] at stranger
    rw [valid.edgesInto_eq, valid.edgesOutOf_eq, List.filter_eq_nil_iff, List.filter_eq_nil_iff]
    refine ⟨fun edge member same => absent ?_, fun edge member same => absent ?_⟩
    · exact (beq_iff_eq.mp same) ▸ (valid.ends edge member).2
    · exact (beq_iff_eq.mp same) ▸ (valid.ends edge member).1

theorem connect_succeeds (valid : graph.WellFormed) (sourceThere : graph.hasNode source)
    (targetThere : graph.hasNode target) (vacant : graph.Vacant target handle) :
    ∃ grown id, graph.connect source target handle = (grown, .ok id) ∧ graph.hasEdge id = false ∧
      grown.edges = graph.edges ++ [⟨id, source, target, none, handle⟩] := by
  have fresh := graph.connection_fresh source target handle
  have addable : graph.Addable (graph.connection source target handle) :=
    ⟨fresh, hasNode_iff.mp sourceThere, hasNode_iff.mp targetThere, vacant⟩
  rcases connect_cases valid source target handle with ⟨refused, _⟩ | ⟨_, connected⟩
  · exact absurd addable refused
  · refine ⟨_, _, connected, ?_, attach_edges fresh⟩
    exact Bool.eq_false_iff.mpr fun taken => fresh (hasEdge_iff.mp taken)

theorem built_consistent (edits : List Edit) :
    (build edits).Consistent ∧
    ∀ source target handle, (build edits).hasNode source → (build edits).hasNode target →
      (build edits).Vacant target handle →
      ∃ grown id, (build edits).connect source target handle = (grown, .ok id) ∧
        (build edits).hasEdge id = false ∧
        grown.edges = (build edits).edges ++ [⟨id, source, target, none, handle⟩] := by
  have valid : (build edits).WellFormed := Built.wellFormed ⟨edits, rfl⟩
  exact ⟨valid.consistent, fun source target handle => connect_succeeds valid⟩

-- A loop, an edge that finds its input taken, and a node that goes with its edges and comes back.
def rebuilt : List Edit := [.addNode (.ofKind "a" .display), .addNode (.ofKind "b" .display), .connect "a" "a" none,
  .connect "a" "b" (some "left"), .connect "b" "b" (some "left"), .removeNode "a", .addNode (.ofKind "a" .display),
  .connect "b" "a" none]

theorem rebuilt_connects : (build rebuilt).edges = [⟨"b->a", "b", "a", none, none⟩] ∧
    ∃ grown id, (build rebuilt).connect "a" "b" (some "left") = (grown, .ok id) ∧
      (build rebuilt).hasEdge id = false ∧
      grown.edges = (build rebuilt).edges ++ [⟨id, "a", "b", none, some "left"⟩] := by
  refine ⟨by decide +kernel, (built_consistent rebuilt).2 "a" "b" (some "left") ?_ ?_ ?_⟩
  · decide +kernel
  · decide +kernel
  · unfold Vacant
    decide +kernel

end Graph
end Dataflow
