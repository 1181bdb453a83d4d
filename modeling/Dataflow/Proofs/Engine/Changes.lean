import Dataflow.Proofs.Engine.Ending
import Dataflow.Proofs.Engine.Propagation

namespace Dataflow

-- A change puts its value in the place of the one its node had.
def Change.write (nodes : List Node) (change : Change) : List Node :=
  nodes.map fun node => if node.id = change.node then { node with value := change.value } else node

-- The nodes as an operation is to leave them, apart from the values that it tells of.
def Operation.staged (nodes : List Node) : Operation → List Node
  | setKind id kind => nodes.map fun node => if node.id = id then { node with kind := kind } else node
  | setName id name => nodes.map fun node => if node.id = id then { node with name := Engine.usableName name } else node
  | insertNode node => nodes ++ [{ node with value := node.kind.coerce node.value }]
  | removeNode id => nodes.filter (·.id != id)
  | setValue _ _ | connect _ _ _ | insertEdge _ | disconnect _ | settleAll => nodes

namespace Graph

variable {before after graph : Graph} {id : String} {ids seeds : List String} {nodes : List Node} {change : Option Value}
  {changes all : List Change}

theorem update_nodes (valid : graph.WellFormed) (id : String) (change : Node → Node) :
    (graph.update id change).nodes = graph.nodes.map fun node => if node.id = id then change node else node := by
  simp only [Graph.nodes, Graph.update, Table.items, Table.modify, List.map_map]
  refine List.map_congr_left fun entry entered => ?_
  have named := valid.nodesIndexed.named entry entered
  by_cases same : entry.1 = id <;> simp [same, named]

theorem setValue_nodes (valid : graph.WellFormed) (id : String) (value : Value) :
    (graph.setValue id value).nodes = Change.write graph.nodes ⟨id, value⟩ :=
  update_nodes valid id _

-- The changes so far account for the nodes as they are, and name nothing that the seeds do not lead to.
structure Reported (seeds : List String) (nodes : List Node) (graph : Graph) (changes : List Change) : Prop where
  nodes : graph.nodes = changes.foldl Change.write nodes
  reached : ∀ change ∈ changes, change.node ∈ graph.forwardClosure seeds

theorem Reported.start (same : graph.nodes = nodes) : Reported seeds nodes graph [] :=
  ⟨same, fun _ none => absurd none List.not_mem_nil⟩

theorem Reported.revise (reported : Reported seeds nodes graph changes) (valid : graph.WellFormed)
    (inside : id ∈ graph.forwardClosure seeds) (change : Option Value) :
    Reported seeds nodes (graph.revise id change) (change.elim changes fun value => changes ++ [⟨id, value⟩]) := by
  have revalued : Revalued graph (graph.revise id change) [id] := revise_revalued
  have reach {other : String} : other ∈ (graph.revise id change).forwardClosure seeds ↔ other ∈ graph.forwardClosure seeds :=
    revalued.reach valid (revise_wellFormed valid) seeds
  cases change with
  | none => exact reported
  | some value =>
    refine ⟨?_, fun change listed => ?_⟩
    · rw [Option.elim_some, List.foldl_append, ← reported.nodes]
      exact setValue_nodes valid id value
    · rcases List.mem_append.mp listed with earlier | new
      · exact reach.mpr (reported.reached change earlier)
      · rw [List.mem_singleton.mp new]
        exact reach.mpr inside

theorem recomputeAll_reported (valid : graph.WellFormed) (reported : Reported seeds nodes graph changes)
    (inside : ∀ id ∈ ids, id ∈ graph.forwardClosure seeds) (ran : recomputeAll ids graph changes = (after, .ok all)) :
    Reported seeds nodes after all := by
  induction ids generalizing graph changes with
  | nil =>
    cases ran
    exact reported
  | cons id ids ih =>
    rw [recomputeAll_cons] at ran
    cases recomputed : graph.recompute id with
    | error fault =>
      rw [recomputed] at ran
      cases ran
    | ok change =>
      rw [recomputed] at ran
      have revalued : Revalued graph (graph.revise id change) [id] := revise_revalued
      refine ih (revise_wellFormed valid) (reported.revise valid (inside id List.mem_cons_self) change) ?_ ran
      intro other member
      rw [revalued.reach valid (revise_wellFormed valid)]
      exact inside other (List.mem_cons_of_mem _ member)

end Graph

namespace Engine
open Dataflow.Graph (Reported)

variable {engine next : Engine} {graph : Graph} {seeds : List String} {nodes : List Node} {node : Node} {edge : Edge}
  {op : Operation} {changes all : List Change}

theorem settle_reported (valid : graph.WellFormed) (reported : Reported seeds nodes graph changes)
    (settled : settle graph seeds changes = (next, .ok all)) : Reported seeds nodes next.graph all := by
  obtain ⟨_, order, ordered, ran⟩ := settle_ran settled
  obtain ⟨_, _, arranges⟩ := Graph.orderSubset_ok valid ordered
  exact Graph.recomputeAll_reported valid reported (fun id listed => (arranges.lists id).mp listed) ran

-- A literal is told of before the pass, and told of again if the pass changes it.
theorem store_reported (valid : graph.WellFormed) (there : graph.hasNode node.id) (literal : Value)
    (settled : settle (store graph node literal).1 [node.id] (store graph node literal).2 = (next, .ok all)) :
    Reported [node.id] graph.nodes next.graph all := by
  obtain ⟨change, stored⟩ := store_revises graph node literal
  rw [stored] at settled
  have inside : node.id ∈ graph.forwardClosure [node.id] := Graph.forwardClosure_seed valid List.mem_cons_self there
  exact settle_reported (Graph.revise_wellFormed valid) ((Reported.start rfl).revise valid inside change) settled

theorem setValue_reported (valid : engine.graph.WellFormed) {id : String} {value : Value}
    (done : engine.setValue id value = (next, .ok all)) : Reported [id] engine.graph.nodes next.graph all := by
  unfold setValue at done
  cases found : engine.graph.node? id with
  | none =>
    rw [found] at done
    cases done
  | some node =>
    rw [found] at done
    obtain ⟨_, rfl⟩ := valid.node?_eq_some.mp found
    dsimp only at done
    split at done
    · exact store_reported valid (Graph.hasNode_of_found found) _ done
    · cases done

theorem setKind_reported (valid : engine.graph.WellFormed) {id : String} {kind : Kind}
    (done : engine.setKind id kind = (next, .ok all)) :
    Reported [id] ((Operation.setKind id kind).staged engine.graph.nodes) next.graph all := by
  unfold setKind at done
  cases found : engine.graph.node? id with
  | none =>
    rw [found] at done
    cases done
  | some node =>
    rw [found] at done
    obtain ⟨_, rfl⟩ := valid.node?_eq_some.mp found
    have nodes := Graph.update_nodes valid node.id fun node => { node with kind := kind }
    have grown : (engine.graph.update node.id fun node => { node with kind := kind }).WellFormed :=
      Graph.update_wellFormed valid node.id fun _ => rfl
    have there : (engine.graph.update node.id fun node => { node with kind := kind }).hasNode node.id := by
      rw [Graph.hasNode_iff, Graph.update_nodeIds]
      exact Graph.hasNode_iff.mp (Graph.hasNode_of_found found)
    rw [Operation.staged, ← nodes]
    dsimp only at done
    split at done
    · exact store_reported grown there _ done
    · exact settle_reported grown (.start rfl) done

theorem setName_reported (valid : engine.graph.WellFormed) {id : String} {name : Option String}
    (done : engine.setName id name = (next, .ok all)) :
    Reported [] ((Operation.setName id name).staged engine.graph.nodes) next.graph all := by
  unfold setName at done
  split at done
  · cases done
  · cases done
    exact .start (Graph.update_nodes valid id _)

theorem insertNode_reported (valid : engine.graph.WellFormed) (done : engine.insertNode node = (next, .ok all)) :
    Reported [node.id] ((Operation.insertNode node).staged engine.graph.nodes) next.graph all := by
  have grown := Graph.addNode_wellFormed valid { node with value := node.kind.coerce node.value }
  unfold insertNode at done
  rcases engine.graph.addNode_cases { node with value := node.kind.coerce node.value } with ⟨_, refused⟩ | ⟨fresh, added⟩
  · rw [refused] at done
    cases done
  · rw [added] at grown done
    exact settle_reported grown (.start (Table.items_insert fresh _)) done

theorem removeNode_reported (valid : engine.graph.WellFormed) {id : String}
    (done : engine.removeNode id = (next, .ok all)) :
    Reported ((engine.graph.targets id).filter (· != id)) ((Operation.removeNode id).staged engine.graph.nodes)
      next.graph all := by
  unfold removeNode at done
  cases found : engine.graph.node? id with
  | none =>
    rw [Graph.removeNode_absent found] at done
    cases done
  | some node =>
    obtain ⟨rest, removed, smaller, nodes, _⟩ := Graph.removeNode_exact valid found
    obtain ⟨_, rfl⟩ := valid.node?_eq_some.mp found
    rw [removed] at done
    dsimp only at done
    rw [Graph.touching_targets valid] at done
    exact settle_reported smaller (.start nodes) done

theorem insertion_reported (valid : engine.graph.WellFormed) (adds : op.edge? engine.graph = some edge)
    (done : op.apply engine = (next, .ok all)) : Reported [edge.target] engine.graph.nodes next.graph all := by
  rcases insertion_cases valid adds with ⟨_, fault, refused⟩ | ⟨addable, accepted⟩
  · rw [refused] at done
    cases done
  · rw [accepted] at done
    rcases accept_cases valid addable with ⟨_, _, refused⟩ | ⟨_, ⟨_, _, refused⟩ | ⟨_, _, kept⟩⟩
    · rw [refused] at done
      cases done
    · rw [refused] at done
      cases done
    · rw [kept] at done
      exact settle_reported (Graph.attach_wellFormed valid addable) (.start rfl) done

theorem disconnect_reported (valid : engine.graph.WellFormed) {id : String}
    (done : engine.disconnect id = (next, .ok all)) :
    Reported ((engine.graph.edge? id).map Edge.target).toList engine.graph.nodes next.graph all := by
  unfold disconnect at done
  rcases Graph.removeEdge_cases valid id with ⟨_, refused⟩ | ⟨edge, there, rfl, removed⟩
  · rw [refused] at done
    cases done
  · rw [removed] at done
    rw [valid.edge?_eq_some.mpr ⟨there, rfl⟩]
    exact settle_reported (Graph.detach_wellFormed valid there) (.start rfl) done

theorem operation_reported (valid : engine.graph.WellFormed) (done : op.apply engine = (next, .ok all)) :
    Reported (op.seeds engine.graph) (op.staged engine.graph.nodes) next.graph all := by
  cases op with
  | setValue id value => exact setValue_reported valid done
  | setKind id kind => exact setKind_reported valid done
  | setName id name => exact setName_reported valid done
  | insertNode node => exact insertNode_reported valid done
  | removeNode id => exact removeNode_reported valid done
  | connect source target handle => exact insertion_reported valid rfl done
  | insertEdge edge => exact insertion_reported valid rfl done
  | disconnect id => exact disconnect_reported valid done
  | settleAll => exact settle_reported valid (.start rfl) done

theorem written_form (changes : List Change) (nodes : List Node) :
    (changes.foldl Change.write nodes).map Node.form = nodes.map Node.form := by
  induction changes generalizing nodes with
  | nil => rfl
  | cons change changes ih =>
    rw [List.foldl_cons, ih, Change.write, List.map_map]
    refine List.map_congr_left fun node _ => ?_
    by_cases same : node.id = change.node <;> simp [same, Node.form]

-- A node that is there before and after has the kind and the name it had, unless the operation sets them.
theorem staged_kept (valid : graph.WellFormed) (distinct : ((op.staged graph.nodes).map Node.id).Nodup)
    {old : Node} (there : old ∈ graph.nodes) (member : node ∈ op.staged graph.nodes) (same : node.id = old.id) :
    (node.kind = old.kind ∨ ∃ kind, op = .setKind old.id kind) ∧
      (node.name = old.name ∨ ∃ name, op = .setName old.id name) := by
  have kept (listed : node ∈ graph.nodes) : node.kind = old.kind ∧ node.name = old.name := by
    rw [Graph.node_unique valid listed there same]
    exact ⟨rfl, rfl⟩
  cases op with
  | setKind id kind =>
    obtain ⟨other, listed, rfl⟩ := List.mem_map.mp member
    by_cases here : other.id = id
    · rw [if_pos here] at same ⊢
      obtain rfl := Graph.node_unique valid listed there same
      exact ⟨.inr ⟨kind, by rw [here]⟩, .inl rfl⟩
    · rw [if_neg here] at kept ⊢
      exact (kept listed).imp .inl .inl
  | setName id name =>
    obtain ⟨other, listed, rfl⟩ := List.mem_map.mp member
    by_cases here : other.id = id
    · rw [if_pos here] at same ⊢
      obtain rfl := Graph.node_unique valid listed there same
      exact ⟨.inl rfl, .inr ⟨name, by rw [here]⟩⟩
    · rw [if_neg here] at kept ⊢
      exact (kept listed).imp .inl .inl
  | insertNode new =>
    rcases List.mem_append.mp member with listed | last
    · exact (kept listed).imp .inl .inl
    · rw [Operation.staged, List.map_append, List.nodup_append] at distinct
      obtain rfl := List.mem_singleton.mp last
      exact absurd same.symm (distinct.2.2 old.id (List.mem_map_of_mem there) new.id (by simp))
  | removeNode id => exact (kept (List.mem_of_mem_filter member)).imp .inl .inl
  | _ => exact (kept member).imp .inl .inl

theorem changes_exact (built : engine.graph.Built) (done : op.apply engine = (next, .ok changes)) :
    next.graph.nodes = changes.foldl Change.write (op.staged engine.graph.nodes) ∧
    (∀ change ∈ changes, ∃ seed ∈ op.seeds engine.graph, next.graph.hasNode seed ∧ next.graph.Reaches seed change.node) ∧
    ∀ old ∈ engine.graph.nodes, ∀ node ∈ next.graph.nodes, node.id = old.id →
      (node.kind = old.kind ∨ ∃ kind, op = .setKind old.id kind) ∧
        (node.name = old.name ∨ ∃ name, op = .setName old.id name) := by
  have valid := built.wellFormed
  have grown := (apply_built built op).wellFormed
  rw [done] at grown
  have reported := operation_reported valid done
  refine ⟨reported.nodes, fun change listed => (Graph.mem_forwardClosure grown).mp (reported.reached change listed), ?_⟩
  intro old there node member same
  have forms := written_form changes (op.staged engine.graph.nodes)
  rw [← reported.nodes] at forms
  obtain ⟨staged, listed, form⟩ : ∃ staged ∈ op.staged engine.graph.nodes, staged.form = node.form := by
    rw [← List.mem_map, ← forms]
    exact List.mem_map_of_mem member
  have distinct : ((op.staged engine.graph.nodes).map Node.id).Nodup := by
    have ids := congrArg (List.map Prod.fst) forms
    rw [List.map_map, List.map_map] at ids
    have indexed := grown.nodesIndexed.distinct
    rw [grown.nodesIndexed.keys_eq] at indexed
    exact ids ▸ indexed
  simp only [Node.form, Prod.mk.injEq] at form
  obtain ⟨id, kind, name⟩ := form
  rw [← kind, ← name]
  exact staged_kept valid distinct there listed (id.trans same)

-- The text on the screen becomes a number, which changes both of them.
def numbered : Operation := .setKind "text" (.input .number)

theorem numbered_told : ∃ next changes, numbered.apply shown.settleAll.1 = (next, .ok changes) ∧
    changes.map Change.node = ["text", "screen"] ∧
    next.graph.nodes = changes.foldl Change.write (numbered.staged shown.settleAll.1.graph.nodes) ∧
    ∀ change ∈ changes, next.graph.Reaches "text" change.node := by
  have built : shown.settleAll.1.graph.Built := settle_built ⟨_, rfl⟩ _ _
  have told : (numbered.apply shown.settleAll.1).2.map (List.map Change.node) = .ok ["text", "screen"] := by decide +kernel
  obtain ⟨changes, done⟩ : ∃ changes, numbered.apply shown.settleAll.1 =
      ((numbered.apply shown.settleAll.1).1, .ok changes) := outcome_ok (by decide +kernel)
  obtain ⟨nodes, reached, _⟩ := changes_exact built done
  rw [done] at told
  refine ⟨_, changes, done, Except.ok.inj told, nodes, fun change listed => ?_⟩
  obtain ⟨seed, given, _, path⟩ := reached change listed
  exact List.mem_singleton.mp given ▸ path

end Engine
end Dataflow
