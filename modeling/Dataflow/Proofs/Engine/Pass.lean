import Dataflow.Proofs.Engine.Settled
import Dataflow.Proofs.Graph.Closure
import Dataflow.Proofs.Graph.Order

namespace Dataflow

namespace Graph

-- Nothing but values has changed, and these only at some nodes.
structure Revalued (before after : Graph) (ids : List String) : Prop where
  frame : after = { before with nodeTable := after.nodeTable }
  keys : after.nodeIds = before.nodeIds
  outside : ∀ id, id ∉ ids → after.node? id = before.node? id

variable {before middle after graph : Graph} {node : Node} {id : String} {ids later order : List String}
  {change : Option Value} {changes all : List Change} {fault : EngineError}

namespace Revalued

theorem refl (graph : Graph) : Revalued graph graph ids := ⟨rfl, rfl, fun _ _ => rfl⟩

theorem trans (first : Revalued before middle ids) (second : Revalued middle after later) :
    Revalued before after (ids ++ later) := by
  refine ⟨?_, second.keys.trans first.keys, fun id beyond => ?_⟩
  · rw [second.frame, first.frame]
  · rw [List.mem_append, not_or] at beyond
    exact (second.outside id beyond.2).trans (first.outside id beyond.1)

theorem edges (revalued : Revalued before after ids) : after.edges = before.edges := by
  rw [revalued.frame]
  rfl

theorem edgesInto (revalued : Revalued before after ids) : after.edgesInto = before.edgesInto := by
  rw [revalued.frame]
  rfl

theorem feeds (revalued : Revalued before after ids) : after.Feeds = before.Feeds := by
  unfold Feeds
  rw [revalued.edges]

theorem hasNode (revalued : Revalued before after ids) : after.hasNode = before.hasNode := by
  funext id
  rw [Bool.eq_iff_iff, hasNode_iff, hasNode_iff, revalued.keys]

theorem reach (revalued : Revalued before after ids) (valid : before.WellFormed) (grown : after.WellFormed)
    (seeds : List String) : id ∈ after.forwardClosure seeds ↔ id ∈ before.forwardClosure seeds := by
  rw [mem_forwardClosure valid, mem_forwardClosure grown, Reaches, Reaches, revalued.feeds, revalued.hasNode]

-- A node that draws on none of the nodes with a new value is fed what it was fed.
theorem liveInputs (revalued : Revalued before after ids) (valid : before.WellFormed)
    (undrawn : ∀ source ∈ ids, ¬before.Feeds source node.id) : after.liveInputs node = before.liveInputs node := by
  refine liveInputs_eq (congrFun revalued.edgesInto _) fun edge listed => ?_
  obtain ⟨there, target⟩ := valid.mem_edgesInto.mp listed
  rw [revalued.outside edge.source fun inside => undrawn _ inside ⟨edge, there, rfl, target⟩]

theorem stable (revalued : Revalued before after ids) (valid : before.WellFormed)
    (undrawn : ∀ source ∈ ids, ¬before.Feeds source node.id) : after.Stable node ↔ before.Stable node := by
  unfold Stable Unread Holds liveValue?
  rw [revalued.edges, revalued.liveInputs valid undrawn]

end Revalued

theorem recompute_known (found : graph.node? id = some node) (known : node.kind.isUnknown = false) :
    graph.recompute id = match graph.liveValue? node with
      | none => .error (.panic id)
      | some value => .ok (if value.same node.value then none else some value) := by
  unfold recompute
  rw [found]
  dsimp only
  cases kind : node.kind with
  | unknown =>
    rw [kind] at known
    cases known
  | _ => rfl

theorem recompute_unknown {typeName : String} (found : graph.node? id = some node) (kind : node.kind = .unknown typeName) :
    graph.recompute id = if graph.hasOutgoing id then .error (.unknownKind id typeName) else .ok none := by
  unfold recompute
  simp only [found, kind]

theorem recompute_ok (valid : graph.WellFormed) (recomputed : graph.recompute id = .ok change) :
    ∃ node, graph.node? id = some node ∧ (change = none ∧ graph.Stable node ∨
      change.isSome ∧ change = graph.liveValue? node ∧ node.kind.isUnknown = false) := by
  cases found : graph.node? id with
  | none =>
    rw [recompute, found] at recomputed
    cases recomputed
  | some node =>
    obtain ⟨_, rfl⟩ := valid.node?_eq_some.mp found
    refine ⟨node, rfl, ?_⟩
    by_cases unknown : node.kind.isUnknown
    · obtain ⟨typeName, kind⟩ := Kind.isUnknown_iff.mp unknown
      rw [recompute_unknown found kind] at recomputed
      split at recomputed
      · cases recomputed
      · rename_i unread
        cases recomputed
        refine .inl ⟨rfl, ?_⟩
        rw [Stable, if_pos unknown]
        intro edge there source
        exact unread ((valid.hasOutgoing_iff _).mpr ⟨edge, there, source⟩)
    · have known : node.kind.isUnknown = false := Bool.eq_false_iff.mpr unknown
      rw [recompute_known found known] at recomputed
      cases live : graph.liveValue? node with
      | none =>
        rw [live] at recomputed
        cases recomputed
      | some value =>
        simp only [live, Except.ok.injEq] at recomputed
        split at recomputed
        · rename_i same
          refine .inl ⟨recomputed.symm, ?_⟩
          rw [Stable, if_neg unknown]
          exact ⟨value, live, .inr same⟩
        · rw [← recomputed]
          exact .inr ⟨rfl, rfl, known⟩

-- What recomputing one node leaves.
def revise (graph : Graph) (id : String) (change : Option Value) : Graph :=
  change.elim graph (graph.setValue id)

theorem setValue_node? (graph : Graph) (id other : String) (value : Value) :
    (graph.setValue id value).node? other =
      if other = id then (graph.node? id).map fun node => { node with value := value } else graph.node? other :=
  update_node? _ _ _ _

theorem revise_wellFormed (valid : graph.WellFormed) : (graph.revise id change).WellFormed := by
  cases change with
  | none => exact valid
  | some value => exact update_wellFormed valid id fun _ => rfl

theorem revise_revalued : Revalued graph (graph.revise id change) [id] := by
  cases change with
  | none => exact .refl graph
  | some value =>
    refine ⟨rfl, update_nodeIds _ _ _, fun other beyond => ?_⟩
    exact (setValue_node? _ _ _ _).trans (if_neg fun same => beyond (List.mem_singleton.mpr same))

theorem revise_stable (valid : graph.WellFormed) (loopless : ¬graph.Feeds id id)
    (recomputed : graph.recompute id = .ok change) (found : (graph.revise id change).node? id = some node) :
    (graph.revise id change).Stable node := by
  obtain ⟨old, there, ⟨rfl, stable⟩ | ⟨changed, live, known⟩⟩ := recompute_ok valid recomputed
  · obtain rfl : old = node := Option.some.inj (there.symm.trans found)
    exact stable
  · obtain ⟨_, named⟩ := valid.node?_eq_some.mp there
    obtain ⟨value, rfl⟩ := Option.isSome_iff_exists.mp changed
    have revised : { old with value := value } = node := by
      simpa [revise, setValue_node?, there] using found
    have revalued : Revalued graph (graph.revise id (some value)) [id] := revise_revalued
    rw [revalued.stable valid, ← revised, Stable, if_neg (by simp [known])]
    · exact ⟨value, Kind.evaluate_again live.symm, .inl rfl⟩
    · intro source here
      rw [List.mem_singleton.mp here, ← revised, named]
      exact loopless

theorem recomputeAll_cons (id : String) (rest : List String) (graph : Graph) (changes : List Change) :
    recomputeAll (id :: rest) graph changes =
      match graph.recompute id with
      | .error fault => (graph, .error fault)
      | .ok change =>
        recomputeAll rest (graph.revise id change) (change.elim changes fun value => changes ++ [⟨id, value⟩]) := by
  rw [recomputeAll]
  rcases graph.recompute id with fault | _ | value <;> rfl

-- An order in which to recompute nodes: each once, and none before one that it draws on.
structure Route (graph : Graph) (order : List String) : Prop where
  distinct : order.Nodup
  forward : order.Pairwise fun earlier later => ¬graph.Feeds later earlier
  loopless : ∀ id ∈ order, ¬graph.Feeds id id

theorem orderSubset_route (valid : graph.WellFormed) (ordered : graph.orderSubset ids = .ok order) :
    graph.Route order := by
  obtain ⟨_, acyclic, arranges⟩ := orderSubset_ok valid ordered
  refine ⟨arranges.distinct, arranges.pairwise, fun id member loop => ?_⟩
  have inside := (arranges.lists id).mp member
  exact acyclic id (.single ⟨inside, inside, loop⟩)

theorem Route.sublist (route : graph.Route ids) (part : later.Sublist ids) : graph.Route later :=
  ⟨route.distinct.sublist part, route.forward.sublist part, fun id listed => route.loopless id (part.subset listed)⟩

theorem Route.closed {source target : String} (route : graph.Route (ids ++ later)) (target_in : target ∈ ids)
    (feeds : graph.Feeds source target) (listed : source ∈ ids ++ later) : source ∈ ids := by
  rcases List.mem_append.mp listed with inside | behind
  · exact inside
  · exact absurd feeds ((List.pairwise_append.mp route.forward).2.2 target target_in source behind)

-- The rest of an order is one for the graph that its first node leaves.
theorem Route.rest (route : graph.Route (id :: ids)) (revalued : Revalued graph after later) : after.Route ids := by
  refine ⟨(List.nodup_cons.mp route.distinct).2, ?_, fun other member => ?_⟩
  · rw [revalued.feeds]
    exact (List.pairwise_cons.mp route.forward).2
  · rw [revalued.feeds]
    exact route.loopless other (List.mem_cons_of_mem _ member)

theorem recomputeAll_revalued (ids : List String) (graph : Graph) (changes : List Change) :
    Revalued graph (recomputeAll ids graph changes).1 ids := by
  induction ids generalizing graph changes with
  | nil => exact .refl graph
  | cons id ids ih =>
    rw [recomputeAll_cons]
    cases graph.recompute id with
    | error fault => exact .refl graph
    | ok change =>
      have revised : Revalued graph (graph.revise id change) [id] := revise_revalued
      exact revised.trans (ih _ _)

theorem recomputeAll_ok (valid : graph.WellFormed) (route : graph.Route ids)
    (ran : recomputeAll ids graph changes = (after, .ok all)) :
    Revalued graph after ids ∧ ∀ id ∈ ids, ∀ node, after.node? id = some node → after.Stable node := by
  have complete := recomputeAll_revalued ids graph changes
  rw [ran] at complete
  refine ⟨complete, ?_⟩
  clear complete
  induction ids generalizing graph changes with
  | nil => exact fun id member => absurd member List.not_mem_nil
  | cons id ids ih =>
    rw [recomputeAll_cons] at ran
    cases recomputed : graph.recompute id with
    | error fault =>
      rw [recomputed] at ran
      cases ran
    | ok change =>
      simp only [recomputed] at ran
      have revised : Revalued graph (graph.revise id change) [id] := revise_revalued
      have rest := recomputeAll_revalued ids (graph.revise id change) (change.elim changes fun value => changes ++ [⟨id, value⟩])
      rw [ran] at rest
      intro other member node found
      rcases List.mem_cons.mp member with rfl | member
      · have new := (List.nodup_cons.mp route.distinct).1
        have ahead := (List.pairwise_cons.mp route.forward).1
        rw [rest.outside _ new] at found
        obtain ⟨_, rfl⟩ := (revise_wellFormed valid).node?_eq_some.mp found
        rw [rest.stable (revise_wellFormed valid) (revised.feeds ▸ ahead)]
        exact revise_stable valid (route.loopless _ List.mem_cons_self) recomputed found
      · exact ih (revise_wellFormed valid) (route.rest revised) ran other member node found

end Graph

namespace Engine

variable {graph : Graph} {engine : Engine} {seeds : List String} {changes all : List Change} {fault : EngineError}

theorem settle_error (failed : settle graph seeds changes = (engine, .error fault)) : engine.state = .dirty := by
  unfold settle at failed
  split at failed
  · cases failed
    rfl
  · split at failed
    · cases failed
    · cases failed
      rfl

-- What a pass that comes to its end has done.
structure Passed (before after : Graph) (reach : List String) : Prop where
  revalued : Graph.Revalued before after reach
  acyclic : ∀ id ∈ reach, ¬before.OnCycle id
  stable : ∀ id ∈ reach, ∀ node, after.node? id = some node → after.Stable node

theorem settle_ran (settled : settle graph seeds changes = (engine, .ok all)) : engine.state = .idle ∧
    ∃ order, graph.orderSubset (graph.forwardClosure seeds) = .ok order ∧
      Graph.recomputeAll order graph changes = (engine.graph, .ok all) := by
  unfold settle at settled
  split at settled
  · cases settled
  · rename_i order ordered
    split at settled
    · rename_i ran
      cases settled
      exact ⟨rfl, order, ordered, ran⟩
    · cases settled

theorem settle_ok (valid : graph.WellFormed) (settled : settle graph seeds changes = (engine, .ok all)) :
    engine.state = .idle ∧ Passed graph engine.graph (graph.forwardClosure seeds) := by
  obtain ⟨idle, order, ordered, ran⟩ := settle_ran settled
  obtain ⟨_, acyclic, arranges⟩ := Graph.orderSubset_ok valid ordered
  obtain ⟨revalued, stable⟩ := Graph.recomputeAll_ok valid (Graph.orderSubset_route valid ordered) ran
  refine ⟨idle, ⟨revalued.frame, revalued.keys, ?_⟩, ?_, ?_⟩
  · exact fun id beyond => revalued.outside id fun member => beyond ((arranges.lists id).mp member)
  · exact fun id inside cycle => acyclic id (Graph.forwardClosure_cycle valid inside cycle)
  · exact fun id inside => stable id ((arranges.lists id).mpr inside)

end Engine
end Dataflow
