import Dataflow.Engine
import Dataflow.Proofs.Graph.Path

namespace Dataflow
open Relation

-- What a node makes of its inputs does not depend on what it made of them before.
theorem Kind.evaluate_again {kind : Kind} {literal value : Value} {inputs : Inputs Value}
    (evaluated : kind.evaluate literal inputs = some value) : kind.evaluate value inputs = some value := by
  cases kind with
  | input => rfl
  | _ => exact evaluated

theorem Kind.isInput_iff {kind : Kind} : kind.isInput ↔ ∃ shape, kind = .input shape := by
  cases kind <;> simp [isInput]

theorem Kind.isUnknown_iff {kind : Kind} : kind.isUnknown ↔ ∃ typeName, kind = .unknown typeName := by
  cases kind <;> simp [isUnknown]

namespace Graph

-- The value of the node is what its kind makes of its inputs, up to equality of values.
def Holds (graph : Graph) (node : Node) : Prop :=
  ∃ value, graph.liveValue? node = some value ∧ (value = node.value ∨ value.same node.value)

def Unread (graph : Graph) (id : String) : Prop := ∀ edge ∈ graph.edges, edge.source ≠ id

-- A node of unknown kind has no value that others could read.
def Stable (graph : Graph) (node : Node) : Prop :=
  if node.kind.isUnknown then graph.Unread node.id else graph.Holds node

structure Settled (graph : Graph) : Prop where
  acyclic : graph.Acyclic
  stable : ∀ node ∈ graph.nodes, graph.Stable node

variable {before after graph : Graph} {node : Node} {id source target : String} {reach : List String}

theorem liveInputs_eq (into : after.edgesInto node.id = before.edgesInto node.id)
    (values : ∀ edge ∈ before.edgesInto node.id,
      (after.node? edge.source).map Node.value = (before.node? edge.source).map Node.value) :
    after.liveInputs node = before.liveInputs node := by
  unfold liveInputs
  rw [into]
  refine congrArg _ (List.filterMap_congr fun edge member => ?_)
  have same := congrArg (Option.map fun value => (edge.targetHandle, value)) (values edge member)
  simpa only [Option.map_map, Function.comp_def] using same

theorem holds_iff (into : after.edgesInto node.id = before.edgesInto node.id)
    (values : ∀ edge ∈ before.edgesInto node.id,
      (after.node? edge.source).map Node.value = (before.node? edge.source).map Node.value) :
    after.Holds node ↔ before.Holds node := by
  unfold Holds liveValue?
  rw [liveInputs_eq into values]

-- Beyond the reach of an edit a node is what it was and draws on what it drew on. No edge leads out of
-- the reach.
structure Apart (before after : Graph) (reach : List String) : Prop where
  onward : ∀ source ∈ reach, ∀ target, after.Feeds source target → target ∈ reach
  kept : ∀ id, after.hasNode id → id ∉ reach →
    after.node? id = before.node? id ∧ after.edgesInto id = before.edgesInto id

namespace Apart

theorem feeds (apart : Apart before after reach) (valid : before.WellFormed) (grown : after.WellFormed)
    (there : after.hasNode target) (beyond : target ∉ reach) :
    after.Feeds source target ↔ before.Feeds source target := by
  rw [← mem_sources valid, ← mem_sources grown, sources, sources, (apart.kept target there beyond).2]

theorem drawn (apart : Apart before after reach) (grown : after.WellFormed) (beyond : target ∉ reach)
    (feeds : after.Feeds source target) : after.hasNode source ∧ source ∉ reach :=
  ⟨feeds_source grown feeds, fun inside => beyond (apart.onward source inside target feeds)⟩

theorem path (apart : Apart before after reach) (valid : before.WellFormed) (grown : after.WellFormed)
    (there : after.hasNode target) (beyond : target ∉ reach) :
    TransGen after.Feeds source target ↔ TransGen before.Feeds source target := by
  have back : ∀ source target, after.hasNode target ∧ target ∉ reach → after.Feeds source target →
      before.Feeds source target ∧ after.hasNode source ∧ source ∉ reach := fun _ _ inside feeds =>
    ⟨(apart.feeds valid grown inside.1 inside.2).mp feeds, apart.drawn grown inside.2 feeds⟩
  have forth : ∀ source target, after.hasNode target ∧ target ∉ reach → before.Feeds source target →
      after.Feeds source target ∧ after.hasNode source ∧ source ∉ reach := by
    intro source target inside feeds
    have feeds := (apart.feeds valid grown inside.1 inside.2).mpr feeds
    exact ⟨feeds, (back source target inside feeds).2⟩
  exact ⟨path_back back ⟨there, beyond⟩, path_back forth ⟨there, beyond⟩⟩

theorem onCycle (apart : Apart before after reach) (valid : before.WellFormed) (grown : after.WellFormed)
    (there : after.hasNode id) (beyond : id ∉ reach) : after.OnCycle id ↔ before.OnCycle id :=
  apart.path valid grown there beyond

theorem holds (apart : Apart before after reach) (grown : after.WellFormed)
    (found : after.node? id = some node) (beyond : id ∉ reach) : after.Holds node ↔ before.Holds node := by
  obtain ⟨member, rfl⟩ := grown.node?_eq_some.mp found
  have into := (apart.kept node.id (hasNode_of_found found) beyond).2
  refine holds_iff into fun edge listed => ?_
  obtain ⟨there, target⟩ := grown.mem_edgesInto.mp (into ▸ listed)
  obtain ⟨sourceThere, sourceBeyond⟩ := apart.drawn grown beyond ⟨edge, there, rfl, target⟩
  rw [(apart.kept edge.source sourceThere sourceBeyond).1]

end Apart
end Graph
end Dataflow
