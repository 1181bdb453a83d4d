import Dataflow.Proofs.Graph.History
import Mathlib

namespace Dataflow

def Graph.Outcome.fault? (outcome : Graph.Outcome α) : Option GraphError :=
  match outcome.2 with
  | .ok _ => none
  | .error fault => some fault

def Edit.fault? (graph : Graph) : Edit → Option GraphError
  | addNode node => (graph.addNode node).fault?
  | removeNode id => (graph.removeNode id).fault?
  | addEdge edge => (graph.addEdge edge).fault?
  | connect source target handle => (graph.connect source target handle).fault?
  | removeEdge id => (graph.removeEdge id).fault?
  | update _ _ _ => none

namespace Graph

variable {graph rest bare : Graph} {id key : String} {before after : List String} {edges : List Edge}
  {node : Node} {edit : Edit} {fault : GraphError}

-- A call that looks before it changes anything: it is refused at once, or it succeeds.
theorem fail_of_fault {outcome : Outcome α} (ends : (∃ fault, outcome = graph.fail fault) ∨ ∃ value, outcome.2 = .ok value)
    (failed : outcome.fault? = some fault) : outcome.1 = graph := by
  rcases ends with ⟨_, refused⟩ | ⟨value, done⟩
  · rw [refused, fail]
  · simp [Outcome.fault?, done] at failed

theorem edit_refused (valid : graph.WellFormed) (failed : edit.fault? graph = some fault) : edit.apply graph = graph := by
  cases edit with
  | addNode node =>
    refine fail_of_fault ?_ failed
    rcases graph.addNode_cases node with ⟨_, refused⟩ | ⟨_, added⟩
    · exact .inl ⟨_, refused⟩
    · exact .inr ⟨_, by rw [added]⟩
  | removeNode id =>
    refine fail_of_fault ?_ failed
    cases found : graph.node? id with
    | none => exact .inl ⟨_, removeNode_absent found⟩
    | some node =>
      obtain ⟨rest, removed, _⟩ := removeNode_exact valid found
      exact .inr ⟨_, by rw [removed]⟩
  | addEdge edge =>
    refine fail_of_fault ?_ failed
    rcases addEdge_cases valid edge with ⟨_, refused⟩ | ⟨_, added⟩
    · exact .inl refused
    · exact .inr ⟨_, by rw [added]⟩
  | connect source target handle =>
    refine fail_of_fault ?_ failed
    rcases connect_cases valid source target handle with ⟨_, refused⟩ | ⟨_, added⟩
    · exact .inl refused
    · exact .inr ⟨_, by rw [added]⟩
  | removeEdge id =>
    refine fail_of_fault ?_ failed
    rcases removeEdge_cases valid id with ⟨_, refused⟩ | ⟨edge, _, _, removed⟩
    · exact .inl ⟨_, refused⟩
    · exact .inr ⟨_, by rw [removed]⟩
  | update id change keeps => cases failed

-- Edges are taken out one after another, and a call that failed would end the row.
theorem removeEdges_each (ran : removeEdges (before ++ key :: after) graph = (bare, .ok edges)) :
    ∃ midway taken left edge, removeEdges before graph = (midway, .ok taken) ∧ midway.removeEdge key = (left, .ok edge) := by
  induction before generalizing graph edges with
  | nil =>
    rw [List.nil_append, removeEdges] at ran
    split at ran
    · cases ran
    · rename_i left edge removed
      exact ⟨graph, [], left, edge, rfl, removed⟩
  | cons first before ih =>
    rw [List.cons_append, removeEdges] at ran
    split at ran
    · cases ran
    · rename_i next edge removed
      split at ran
      · cases ran
      · rename_i others
        cases ran
        obtain ⟨midway, taken, left, other, early, late⟩ := ih others
        exact ⟨midway, edge :: taken, left, other, by simp only [removeEdges, removed, early], late⟩

theorem removeNode_ran (removed : graph.removeNode id = (rest, .ok (node, edges))) :
    ∃ bare, removeEdges (graph.incident id) graph = (bare, .ok edges) := by
  unfold removeNode at removed
  split at removed
  · split at removed
    · cases removed
    · rename_i bare taken ran
      split at removed
      · cases removed
      · cases removed
        exact ⟨bare, ran⟩
  · cases removed

structure Without (graph rest : Graph) (id : String) : Prop where
  nodes : rest.nodes = graph.nodes.filter (·.id != id)
  edges : rest.edges = graph.edges.filter (· ∉ graph.touching id)
  into : ∀ other, rest.edgesInto other = (graph.edgesInto other).filter (· ∉ graph.touching id)
  outOf : ∀ other, rest.edgesOutOf other = (graph.edgesOutOf other).filter (· ∉ graph.touching id)

theorem untouched (valid : graph.WellFormed) (id : String) :
    graph.edges.filter (fun edge => edge.source != id && edge.target != id) =
      graph.edges.filter (· ∉ graph.touching id) := by
  refine List.filter_congr fun edge member => ?_
  have touches : edge ∈ graph.touching id ↔ edge.source = id ∨ edge.target = id :=
    (mem_touching valid).trans (and_iff_right member)
  by_cases source : edge.source = id <;> by_cases target : edge.target = id <;> simp [touches, source, target]

theorem removeNode_without (valid : graph.WellFormed) (found : graph.node? id = some node) :
    ∃ rest : Graph, graph.removeNode id = (rest, .ok (node, graph.touching id)) ∧ Without graph rest id := by
  obtain ⟨rest, removed, restValid, nodes, edges⟩ := removeNode_exact valid found
  have edges := edges.trans (untouched valid id)
  refine ⟨rest, removed, nodes, edges, fun other => ?_, fun other => ?_⟩
  · rw [restValid.edgesInto_eq, valid.edgesInto_eq, edges, List.filter_comm]
  · rw [restValid.edgesOutOf_eq, valid.edgesOutOf_eq, edges, List.filter_comm]

-- What is handed back with a node: the edges into it, then those out of it that are no loops, all in connection order.
theorem removals_exact (built : graph.Built) :
    (∀ id node, graph.node? id = some node →
      (∃ rest, graph.removeNode id = (rest, .ok (node, graph.touching id)) ∧ Without graph rest id) ∧
      graph.touching id = graph.edgesInto id ++ (graph.edgesOutOf id).filter (·.target != id) ∧
      (graph.touching id).Nodup ∧
      (∀ edge, edge ∈ graph.touching id ↔ edge ∈ graph.edges ∧ (edge.source = id ∨ edge.target = id)) ∧
      ∀ before key after, graph.incident id = before ++ key :: after → ∃ midway taken left edge,
        removeEdges before graph = (midway, .ok taken) ∧ midway.removeEdge key = (left, .ok edge)) ∧
    ∀ edit fault, Edit.fault? graph edit = some fault → edit.apply graph = graph := by
  have valid := built.wellFormed
  refine ⟨fun id node found => ?_, fun edit fault => edit_refused valid⟩
  obtain ⟨rest, removed, without⟩ := removeNode_without valid found
  obtain ⟨bare, ran⟩ := removeNode_ran removed
  refine ⟨⟨rest, removed, without⟩, rfl, (touching_distinct valid id).of_map _, fun edge => mem_touching valid, ?_⟩
  intro before key after listed
  rw [listed] at ran
  exact removeEdges_each ran

-- A node with a loop, parallel edges into it, and an edge from a node that it feeds.
def knot : List Edit := [.addNode (.ofKind "a" .display), .addNode (.ofKind "b" .display), .addNode (.ofKind "c" .display),
  .connect "a" "b" none, .connect "b" "b" none, .connect "a" "b" none, .connect "b" "c" (some "input"),
  .connect "c" "b" none, .connect "a" "c" none]

theorem knot_removals :
    ((build knot).touching "b").map Edge.id = ["a->b", "b->b", "a->b#2", "c->b", "b->c:input"] ∧
    (build knot).node? "b" = some (.ofKind "b" .display) ∧
    (∃ rest, (build knot).removeNode "b" = (rest, .ok (.ofKind "b" .display, (build knot).touching "b")) ∧
      Without (build knot) rest "b") ∧
    Edit.fault? (build knot) (.connect "a" "c" (some "input")) = some (.handleOccupied "c" "input" "b->c:input") ∧
    Edit.apply (build knot) (.connect "a" "c" (some "input")) = build knot := by
  have found : (build knot).node? "b" = some (.ofKind "b" .display) := by cbv
  have occupied : Edit.fault? (build knot) (.connect "a" "c" (some "input")) =
      some (.handleOccupied "c" "input" "b->c:input") := by decide +kernel
  have exactly := removals_exact ⟨knot, rfl⟩
  exact ⟨by decide +kernel, found, (exactly.1 "b" _ found).1, occupied, exactly.2 _ _ occupied⟩

end Graph
end Dataflow
