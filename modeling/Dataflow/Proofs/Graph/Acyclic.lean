import Dataflow.Proofs.Graph.Order

namespace Dataflow.Graph
open Relation

variable {before after graph : Graph} {edge : Edge} {source target id : String} {order : List String}

theorem Acyclic.mono (acyclic : before.Acyclic) (kept : ∀ edge ∈ after.edges, edge ∈ before.edges) :
    after.Acyclic := by
  intro id cycle
  refine acyclic id (TransGen.mono (fun source target feeds => ?_) _ _ cycle)
  obtain ⟨edge, there, ends⟩ := feeds
  exact ⟨edge, kept edge there, ends⟩

theorem attach_feeds (fresh : edge.id ∉ graph.edgeTable.keys) : (graph.attach edge).Feeds source target ↔
    graph.Feeds source target ∨ source = edge.source ∧ target = edge.target := by
  unfold Feeds
  rw [attach_edges fresh]
  constructor
  · rintro ⟨other, member, rfl, rfl⟩
    rcases List.mem_append.mp member with old | new
    · exact .inl ⟨other, old, rfl, rfl⟩
    · rw [List.mem_singleton.mp new]
      exact .inr ⟨rfl, rfl⟩
  · rintro (⟨other, old, ends⟩ | ⟨rfl, rfl⟩)
    · exact ⟨other, List.mem_append_left _ old, ends⟩
    · exact ⟨edge, List.mem_append_right _ List.mem_cons_self, rfl, rfl⟩

-- A path along which the new edge may be taken. If it is, the first and the last time count.
theorem attach_path (fresh : edge.id ∉ graph.edgeTable.keys) (path : TransGen (graph.attach edge).Feeds source target) :
    TransGen graph.Feeds source target ∨ graph.Reaches source edge.source ∧ graph.Reaches edge.target target := by
  induction path with
  | single feeds =>
    rcases (attach_feeds fresh).mp feeds with old | ⟨rfl, rfl⟩
    · exact .inl (.single old)
    · exact .inr ⟨.refl, .refl⟩
  | @tail middle last before feeds ih =>
    rcases (attach_feeds fresh).mp feeds with old | ⟨rfl, rfl⟩
    · rcases ih with path | ⟨first, rest⟩
      · exact .inl (path.tail old)
      · exact .inr ⟨first, rest.tail old⟩
    · rcases ih with path | ⟨first, _⟩
      · exact .inr ⟨path.to_reflTransGen, .refl⟩
      · exact .inr ⟨first, .refl⟩

theorem attach_reaches (fresh : edge.id ∉ graph.edgeTable.keys) (path : graph.Reaches source target) :
    (graph.attach edge).Reaches source target :=
  ReflTransGen.mono (fun _ _ feeds => (attach_feeds fresh).mpr (.inl feeds)) _ _ path

theorem attach_target (fresh : edge.id ∉ graph.edgeTable.keys) (path : (graph.attach edge).Reaches edge.target id) :
    graph.Reaches edge.target id := by
  rcases reflTransGen_iff_eq_or_transGen.mp path with rfl | path
  · exact .refl
  · rcases attach_path fresh path with old | ⟨_, rest⟩
    · exact old.to_reflTransGen
    · exact rest

theorem attach_onCycle (fresh : edge.id ∉ graph.edgeTable.keys) (acyclic : graph.Acyclic)
    (cycle : (graph.attach edge).OnCycle id) : graph.Reaches edge.target edge.source := by
  rcases attach_path fresh cycle with old | ⟨first, rest⟩
  · exact absurd old (acyclic id)
  · exact rest.trans first

-- The new edge closes a cycle at its target or not at all.
theorem attach_closes (fresh : edge.id ∉ graph.edgeTable.keys) (path : graph.Reaches edge.target edge.source) :
    (graph.attach edge).OnCycle edge.target :=
  .tail' (attach_reaches fresh path) ((attach_feeds fresh).mpr (.inr ⟨rfl, rfl⟩))

theorem Acyclic.attach (acyclic : graph.Acyclic) (fresh : edge.id ∉ graph.edgeTable.keys)
    (apart : ¬graph.Reaches edge.target edge.source) : (graph.attach edge).Acyclic :=
  fun _ cycle => apart (attach_onCycle fresh acyclic cycle)

theorem attach_apart (valid : graph.WellFormed) (addable : graph.Addable edge)
    (ordered : (graph.attach edge).evaluationOrder edge.target = .ok order) :
    ¬graph.Reaches edge.target edge.source := by
  intro path
  have leads := (evaluationOrder_ok (attach_wellFormed valid addable) ordered).2.1
  exact leads edge.target (attach_closes addable.fresh path) .refl

theorem Acyclic.among (acyclic : graph.Acyclic) (ids : List String) : graph.AcyclicAmong ids :=
  fun id cycle => acyclic id cycle.onCycle

theorem Acyclic.evaluated (acyclic : graph.Acyclic) (valid : graph.WellFormed) (there : graph.hasNode id) :
    ∃ order, graph.evaluationOrder id = .ok order := by
  cases ordered : graph.evaluationOrder id with
  | ok order => exact ⟨order, rfl⟩
  | error fault =>
    rcases evaluationOrder_error valid ordered with ⟨_, absent⟩ | ⟨other, _, cycle, _⟩
    · rw [there] at absent
      cases absent
    · exact absurd cycle (acyclic other)

theorem acyclic_of_ordered (valid : graph.WellFormed) (ordered : graph.orderSubset graph.nodeIds = .ok order) :
    graph.Acyclic := by
  intro id cycle
  refine (orderSubset_ok valid ordered).2.1 id (TransGen.mono (fun source target feeds => ?_) _ _ cycle)
  exact ⟨hasNode_iff.mp (feeds_source valid feeds), hasNode_iff.mp (feeds_target valid feeds), feeds⟩

theorem Acyclic.ordered (acyclic : graph.Acyclic) (valid : graph.WellFormed) {ids : List String}
    (there : ∀ id ∈ ids, graph.hasNode id) : ∃ order, graph.orderSubset ids = .ok order := by
  cases ordered : graph.orderSubset ids with
  | ok order => exact ⟨order, rfl⟩
  | error fault =>
    rcases orderSubset_error valid ordered with ⟨id, asked, _, absent⟩ | ⟨id, _, cycle⟩
    · rw [there id asked] at absent
      cases absent
    · exact absurd cycle (acyclic.among _ id)

-- The nodes of a graph without cycles, all of them, in an order that its edges go along.
theorem Acyclic.arranged (acyclic : graph.Acyclic) (valid : graph.WellFormed) :
    ∃ order, graph.Arranges (· ∈ graph.nodeIds) order := by
  obtain ⟨order, ordered⟩ := acyclic.ordered valid fun _ asked => hasNode_iff.mpr asked
  exact ⟨order, (orderSubset_ok valid ordered).2.2⟩

theorem Acyclic.ranked (acyclic : graph.Acyclic) (valid : graph.WellFormed) :
    ∃ (rank : String → Nat) (bound : Nat), ∀ source target, graph.Feeds source target →
      rank source < rank target ∧ rank target < bound := by
  obtain ⟨order, arranges⟩ := acyclic.arranged valid
  refine ⟨order.idxOf, order.length, fun source target feeds => ?_⟩
  have sourceListed := (arranges.lists source).mpr (hasNode_iff.mp (feeds_source valid feeds))
  have targetListed := (arranges.lists target).mpr (hasNode_iff.mp (feeds_target valid feeds))
  exact ⟨arranges.forward source sourceListed target targetListed feeds, List.idxOf_lt_length_of_mem targetListed⟩

-- Induction along the edges: a node after all that it draws on.
theorem Acyclic.induction (acyclic : graph.Acyclic) (valid : graph.WellFormed) {holds : String → Prop}
    (step : ∀ target, (∀ source, graph.Feeds source target → holds source) → holds target) (id : String) :
    holds id := by
  obtain ⟨rank, bound, forward⟩ := acyclic.ranked valid
  induction measured : rank id using Nat.strongRecOn generalizing id with
  | _ n ih =>
    subst measured
    exact step id fun source feeds => ih (rank source) (forward source id feeds).1 source rfl

theorem Acyclic.induction_back (acyclic : graph.Acyclic) (valid : graph.WellFormed) {holds : String → Prop}
    (step : ∀ source, (∀ target, graph.Feeds source target → holds target) → holds source) (id : String) :
    holds id := by
  obtain ⟨rank, bound, forward⟩ := acyclic.ranked valid
  induction measured : bound - rank id using Nat.strongRecOn generalizing id with
  | _ n ih =>
    subst measured
    refine step id fun target feeds => ih (bound - rank target) ?_ target rfl
    have := forward id target feeds
    omega

end Dataflow.Graph
