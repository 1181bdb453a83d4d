import Dataflow.Graph.Order
import Dataflow.Proofs.Graph.Store
import Mathlib.Logic.Relation

namespace Dataflow.Graph
open Relation

def Feeds (graph : Graph) (source target : String) : Prop :=
  ∃ edge ∈ graph.edges, edge.source = source ∧ edge.target = target

-- The edges of the subgraph that has only these nodes.
def FeedsAmong (graph : Graph) (ids : List String) (source target : String) : Prop :=
  source ∈ ids ∧ target ∈ ids ∧ graph.Feeds source target

def Reaches (graph : Graph) : String → String → Prop := ReflTransGen graph.Feeds

def OnCycle (graph : Graph) (id : String) : Prop := TransGen graph.Feeds id id

def Acyclic (graph : Graph) : Prop := ∀ id, ¬graph.OnCycle id

def OnCycleAmong (graph : Graph) (ids : List String) (id : String) : Prop := TransGen (graph.FeedsAmong ids) id id

def AcyclicAmong (graph : Graph) (ids : List String) : Prop := ∀ id, ¬graph.OnCycleAmong ids id

variable {graph : Graph} {source target id : String} {ids : List String}

theorem mem_sources (valid : graph.WellFormed) : source ∈ graph.sources target ↔ graph.Feeds source target := by
  simp only [sources, List.mem_map, valid.mem_edgesInto, Feeds]
  constructor
  · rintro ⟨edge, ⟨there, into⟩, from_⟩
    exact ⟨edge, there, from_, into⟩
  · rintro ⟨edge, there, from_, into⟩
    exact ⟨edge, ⟨there, into⟩, from_⟩

theorem mem_targets (valid : graph.WellFormed) : target ∈ graph.targets source ↔ graph.Feeds source target := by
  simp only [targets, List.mem_map, valid.mem_edgesOutOf, Feeds]
  constructor
  · rintro ⟨edge, ⟨there, from_⟩, into⟩
    exact ⟨edge, there, from_, into⟩
  · rintro ⟨edge, there, from_, into⟩
    exact ⟨edge, ⟨there, from_⟩, into⟩

theorem feeds_source (valid : graph.WellFormed) (feeds : graph.Feeds source target) : graph.hasNode source := by
  obtain ⟨edge, there, rfl, _⟩ := feeds
  exact hasNode_iff.mpr (valid.ends edge there).1

theorem feeds_target (valid : graph.WellFormed) (feeds : graph.Feeds source target) : graph.hasNode target := by
  obtain ⟨edge, there, _, rfl⟩ := feeds
  exact hasNode_iff.mpr (valid.ends edge there).2

theorem reaches_source (valid : graph.WellFormed) (path : graph.Reaches source target) (there : graph.hasNode target) :
    graph.hasNode source := by
  rcases path.cases_head with rfl | ⟨_, feeds, _⟩
  · exact there
  · exact feeds_source valid feeds

theorem onCycle_node (valid : graph.WellFormed) (cycle : graph.OnCycle id) : graph.hasNode id := by
  obtain ⟨_, feeds, _⟩ := TransGen.head'_iff.mp cycle
  exact feeds_source valid feeds

theorem OnCycleAmong.member (cycle : graph.OnCycleAmong ids id) : id ∈ ids := by
  obtain ⟨_, feeds, _⟩ := TransGen.head'_iff.mp cycle
  exact feeds.1

theorem OnCycleAmong.onCycle (cycle : graph.OnCycleAmong ids id) : graph.OnCycle id :=
  TransGen.mono (fun _ _ feeds => feeds.2.2) _ _ cycle

-- A path is one of another relation as well if both relations have its steps, going back from its end.
theorem path_back {steps others : String → String → Prop} {within : String → Prop}
    (back : ∀ source target, within target → steps source target → others source target ∧ within source)
    (last : within target) (path : TransGen steps source target) : TransGen others source target := by
  induction path with
  | single step => exact .single (back _ _ last step).1
  | tail _ step ih =>
    obtain ⟨other, before⟩ := back _ _ last step
    exact .tail (ih before) other

end Dataflow.Graph
