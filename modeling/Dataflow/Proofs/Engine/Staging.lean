import Dataflow.Proofs.Engine.Course
import Dataflow.Proofs.Value.Same

namespace Dataflow

-- The literal that an operation gives to an input node.
def Operation.literal? (graph : Graph) : Operation → Option Change
  | setValue id value => ((graph.node? id).filter (·.kind.isInput)).map fun node => ⟨id, node.kind.coerce value⟩
  | setKind id kind => if kind.isInput then (graph.node? id).map fun node => ⟨id, kind.coerce node.value⟩ else none
  | _ => none

theorem Kind.coerce_input {kind : Kind} (input : kind.isInput) (value : Value) :
    (kind.coerce value).shape = kind.outputShape := by
  obtain ⟨shape, rfl⟩ := isInput_iff.mp input
  exact coerce_shape shape value

namespace Graph

-- One node is new or has changed.
structure Replaced (before after : Graph) (node : Node) : Prop where
  valid : after.WellFormed
  edges : after.edges = before.edges
  there : node ∈ after.nodes
  others : ∀ other ∈ after.nodes, other.id ≠ node.id → other ∈ before.nodes

variable {before middle after graph : Graph} {node next : Node} {id : String} {order : List String}
  {change : Node → Node}

theorem Replaced.refl (valid : graph.WellFormed) (there : node ∈ graph.nodes) : Replaced graph graph node :=
  ⟨valid, rfl, there, fun _ member _ => member⟩

theorem Replaced.trans (first : Replaced before middle node) (second : Replaced middle after next)
    (same : next.id = node.id) : Replaced before after next := by
  refine ⟨second.valid, second.edges.trans first.edges, second.there, fun other member different => ?_⟩
  exact first.others other (second.others other member different) (same ▸ different)

theorem update_replaced (valid : graph.WellFormed) (there : node ∈ graph.nodes)
    (keeps : ∀ node, (change node).id = node.id) : Replaced graph (graph.update node.id change) (change node) := by
  have grown := update_wellFormed valid node.id keeps
  refine ⟨grown, rfl, ?_, fun other member different => ?_⟩
  · have found := graph.update_node? node.id node.id change
    rw [if_pos rfl, valid.node?_eq_some.mpr ⟨there, rfl⟩] at found
    exact (grown.node?_eq_some.mp found).1
  · have found := graph.update_node? node.id other.id change
    rw [if_neg (keeps node ▸ different), grown.node?_eq_some.mpr ⟨member, rfl⟩] at found
    exact (valid.node?_eq_some.mp found.symm).1

theorem addNode_replaced (valid : graph.WellFormed) (fresh : node.id ∉ graph.nodeIds) :
    Replaced graph (graph.addNode node).1 node := by
  have nodes := addNode_nodes fresh
  have edges := congrArg Table.items (graph.addNode_edgeTable node)
  refine ⟨addNode_wellFormed valid node, edges, ?_, fun other member different => ?_⟩
  · rw [nodes]
    exact List.mem_append_right _ List.mem_cons_self
  · rw [nodes] at member
    refine (List.mem_append.mp member).resolve_right fun last => different ?_
    rw [List.mem_singleton.mp last]

-- A pass that begins at one node recomputes it first: nothing that the node leads to leads back.
theorem orderSubset_seed (valid : graph.WellFormed) (there : graph.hasNode id)
    (ordered : graph.orderSubset (graph.forwardClosure [id]) = .ok order) : ∃ rest, order = id :: rest := by
  have arranges := (orderSubset_ok valid ordered).2.2
  cases order with
  | nil => cases (arranges.lists id).mpr (forwardClosure_seed valid List.mem_cons_self there)
  | cons first rest =>
    refine ⟨rest, ?_⟩
    have listed : first ∈ first :: rest := List.mem_cons_self
    obtain ⟨seed, given, _, path⟩ := (mem_forwardClosure valid).mp ((arranges.lists first).mp listed)
    obtain rfl := List.mem_singleton.mp given
    cases path with
    | refl => rfl
    | tail before feeds =>
      have earlier := (arranges.lists _).mpr ((mem_forwardClosure valid).mpr ⟨seed, given, there, before⟩)
      have below := arranges.forward _ earlier first listed feeds
      rw [List.idxOf_cons_self] at below
      omega

end Graph

namespace Engine
open Dataflow.Graph (Replaced)

variable {engine : Engine} {graph : Graph} {node : Node} {edge : Edge} {literal : Value} {op : Operation}

-- The ways of an operation that gives this literal to an input node, or none. A literal is told of before the pass if
-- the node does not hold it already; a value that the node holds already equals itself.
inductive Staged (engine : Engine) : Option Change → Outcome (List Change) → Prop where
  | aside {next : Engine} {result : Except EngineError (List Change)} :
      (∀ id, (next.graph.node? id).map Node.bare = (engine.graph.node? id).map Node.bare) →
      (∀ changes, result = .ok changes → changes = []) → Staged engine none (next, result)
  | pass {graph : Graph} {seeds : List String} : graph.WellFormed → (∀ node ∈ graph.nodes, node ∈ engine.graph.nodes) →
      Staged engine none (settle graph seeds [])
  | replaced {graph : Graph} {node : Node} {literal : Option Change} : Replaced engine.graph graph node →
      (node.kind.isInput → node.value.shape = node.kind.outputShape) →
      (∀ change, literal = some change → change.value.same change.value) →
      Staged engine literal (settle graph [node.id] [])
  | stored {graph : Graph} {node : Node} : Replaced engine.graph graph node → node.kind.isInput →
      node.value.shape = node.kind.outputShape →
      Staged engine (some ⟨node.id, node.value⟩) (settle graph [node.id] [⟨node.id, node.value⟩])

theorem refused_staged (fault : EngineError) : Staged engine none (engine.fail fault) :=
  .aside (fun _ => rfl) fun _ done => by cases done

theorem store_staged (replaced : Replaced engine.graph graph node) (input : node.kind.isInput)
    (shape : literal.shape = node.kind.outputShape) : Staged engine (some ⟨node.id, literal⟩)
      (settle (store graph node literal).1 [node.id] (store graph node literal).2) := by
  unfold store
  split
  · rename_i same
    refine .replaced replaced (fun _ => (Value.same_shape same).trans shape) fun change held => ?_
    obtain rfl := Option.some.inj held
    exact Value.same_right same
  · have renewed : Replaced graph (graph.setValue node.id literal) { node with value := literal } :=
      Graph.update_replaced replaced.valid replaced.there fun _ => rfl
    exact .stored (replaced.trans renewed rfl) input shape

theorem setValue_staged (valid : engine.graph.WellFormed) (id : String) (value : Value) :
    Staged engine ((Operation.setValue id value).literal? engine.graph) (engine.setValue id value) := by
  unfold setValue
  cases found : engine.graph.node? id with
  | none =>
    rw [Operation.literal?, found]
    exact refused_staged _
  | some node =>
    obtain ⟨there, rfl⟩ := valid.node?_eq_some.mp found
    rw [Operation.literal?, found]
    dsimp only
    split
    · rename_i input
      rw [Option.filter_some, if_pos input]
      exact store_staged (.refl valid there) input (Kind.coerce_input input value)
    · rename_i computed
      rw [Option.filter_some, if_neg computed]
      exact refused_staged _

theorem setKind_staged (valid : engine.graph.WellFormed) (id : String) (kind : Kind) :
    Staged engine ((Operation.setKind id kind).literal? engine.graph) (engine.setKind id kind) := by
  unfold setKind
  cases found : engine.graph.node? id with
  | none =>
    rw [Operation.literal?, found, Option.map_none, ite_self]
    exact refused_staged _
  | some node =>
    obtain ⟨there, rfl⟩ := valid.node?_eq_some.mp found
    have replaced : Replaced engine.graph (engine.graph.update node.id fun node => { node with kind := kind })
        { node with kind := kind } := Graph.update_replaced valid there fun _ => rfl
    rw [Operation.literal?, found]
    dsimp only
    split
    · rename_i input
      have staged := store_staged replaced input (Kind.coerce_input input node.value)
      exact staged
    · rename_i computed
      have staged : Staged engine none _ :=
        .replaced replaced (fun input => absurd input computed) fun _ none => by cases none
      exact staged

theorem setName_staged (id : String) (name : Option String) : Staged engine none (engine.setName id name) := by
  unfold setName
  cases found : engine.graph.node? id with
  | none => exact refused_staged _
  | some node =>
    refine .aside (fun other => ?_) fun _ done => (Except.ok.inj done).symm
    apply Graph.update_bare
    exact fun _ => rfl

theorem insertNode_staged (valid : engine.graph.WellFormed) (node : Node) :
    Staged engine none (engine.insertNode node) := by
  unfold insertNode
  rcases engine.graph.addNode_cases { node with value := node.kind.coerce node.value } with ⟨_, refused⟩ | ⟨fresh, added⟩
  · rw [refused]
    exact refused_staged _
  · have replaced := Graph.addNode_replaced valid fresh
    rw [added] at replaced ⊢
    have staged : Staged engine none _ :=
      .replaced replaced (fun input => Kind.coerce_input input node.value) fun _ none => by cases none
    exact staged

theorem removeNode_staged (valid : engine.graph.WellFormed) (id : String) : Staged engine none (engine.removeNode id) := by
  unfold removeNode
  cases found : engine.graph.node? id with
  | none =>
    rw [Graph.removeNode_absent found]
    exact refused_staged _
  | some node =>
    obtain ⟨rest, removed, smaller, nodes, _⟩ := Graph.removeNode_exact valid found
    rw [removed]
    refine .pass smaller fun other member => ?_
    rw [nodes] at member
    exact List.mem_of_mem_filter member

theorem insertion_staged (valid : engine.graph.WellFormed) (adds : op.edge? engine.graph = some edge) :
    Staged engine none (op.apply engine) := by
  rcases insertion_cases valid adds with ⟨_, fault, refused⟩ | ⟨addable, accepted⟩
  · rw [refused]
    exact refused_staged _
  · rw [accepted]
    rcases accept_cases valid addable with ⟨_, _, refused⟩ | ⟨_, ⟨_, _, refused⟩ | ⟨_, _, kept⟩⟩
    · rw [refused]
      exact .aside (fun _ => rfl) fun _ done => by cases done
    · rw [refused]
      exact .aside (fun _ => rfl) fun _ done => by cases done
    · rw [kept]
      exact .pass (Graph.attach_wellFormed valid addable) fun _ member => member

theorem disconnect_staged (valid : engine.graph.WellFormed) (id : String) : Staged engine none (engine.disconnect id) := by
  unfold disconnect
  rcases Graph.removeEdge_cases valid id with ⟨_, refused⟩ | ⟨edge, there, rfl, removed⟩
  · rw [refused]
    exact refused_staged _
  · rw [removed]
    exact .pass (Graph.detach_wellFormed valid there) fun _ member => member

theorem operation_staged (valid : engine.graph.WellFormed) (op : Operation) :
    Staged engine (op.literal? engine.graph) (op.apply engine) := by
  cases op with
  | setValue id value => exact setValue_staged valid id value
  | setKind id kind => exact setKind_staged valid id kind
  | setName id name => exact setName_staged id name
  | insertNode node => exact insertNode_staged valid node
  | removeNode id => exact removeNode_staged valid id
  | connect source target handle => exact insertion_staged valid rfl
  | insertEdge edge => exact insertion_staged valid rfl
  | disconnect id => exact disconnect_staged valid id
  | settleAll => exact .pass valid fun _ member => member

end Engine
end Dataflow
