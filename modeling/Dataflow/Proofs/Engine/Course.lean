import Dataflow.Proofs.Engine.Operation
import Dataflow.Proofs.Engine.Pass

namespace Dataflow

def Node.bare (node : Node) : Node := { node with name := none }

namespace Graph

variable {before after graph : Graph} {node : Node} {id : String} {seeds : List String} {edge : Edge}

structure Alike (before after : Graph) : Prop where
  edges : after.edges = before.edges
  nodes : ∀ id, (after.node? id).map Node.bare = (before.node? id).map Node.bare

theorem update_bare {change : Node → Node} (bare : ∀ node, (change node).bare = node.bare) (id other : String) :
    ((graph.update id change).node? other).map Node.bare = (graph.node? other).map Node.bare := by
  rw [update_node?]
  split
  · rename_i here
    rw [here, Option.map_map]
    exact congrArg (Option.map · (graph.node? id)) (funext bare)
  · rfl

theorem Alike.stable (alike : Alike before after) (valid : before.WellFormed) (grown : after.WellFormed) :
    after.Stable node ↔ before.Stable node := by
  unfold Stable Unread
  rw [alike.edges]
  split
  · exact Iff.rfl
  · refine holds_iff (by rw [grown.edgesInto_eq, valid.edgesInto_eq, alike.edges]) fun edge _ => ?_
    have same := congrArg (Option.map Node.value) (alike.nodes edge.source)
    simpa only [Option.map_map, Function.comp_def, Node.bare] using same

theorem Alike.settled (alike : Alike before after) (valid : before.WellFormed) (grown : after.WellFormed)
    (settled : before.Settled) : after.Settled := by
  refine ⟨?_, fun node member => ?_⟩
  · have acyclic := settled.acyclic
    unfold Acyclic OnCycle Feeds at acyclic ⊢
    rw [alike.edges]
    exact acyclic
  · have same := alike.nodes node.id
    rw [grown.node?_eq_some.mpr ⟨member, rfl⟩] at same
    obtain ⟨old, found, same⟩ := Option.map_eq_some_iff.mp same.symm
    rw [alike.stable valid grown]
    change before.Stable node.bare
    rw [← same]
    exact settled.stable old (valid.node?_eq_some.mp found).1

-- An edit that has no bearing on what is beyond its reach, but that it may take away a reader.
structure Edited (before after : Graph) (reach : List String) : Prop where
  apart : Apart before after reach
  unread : ∀ id node, after.node? id = some node → node.kind.isUnknown → before.Unread id → after.Unread id

theorem edited_from (grown : after.WellFormed)
    (kept : ∀ id, after.hasNode id → id ∉ after.forwardClosure seeds →
      after.node? id = before.node? id ∧ after.edgesInto id = before.edgesInto id)
    (unread : ∀ id node, after.node? id = some node → node.kind.isUnknown → before.Unread id → after.Unread id) :
    Edited before after (after.forwardClosure seeds) :=
  ⟨⟨fun _ inside _ feeds => forwardClosure_onward grown inside feeds, kept⟩, unread⟩

theorem node_edited (grown : after.WellFormed) (frame : after = { before with nodeTable := after.nodeTable })
    (there : after.hasNode id) (others : ∀ other, other ≠ id → after.node? other = before.node? other) :
    Edited before after (after.forwardClosure [id]) := by
  refine edited_from grown (fun other _ beyond => ⟨others other ?_, ?_⟩) fun other node _ _ unread => ?_
  · rintro rfl
    exact beyond (forwardClosure_seed grown List.mem_cons_self there)
  · rw [frame]
    rfl
  · rw [frame]
    exact unread

theorem same_edited (valid : graph.WellFormed) (seeds : List String) :
    Edited graph graph (graph.forwardClosure seeds) :=
  edited_from valid (fun _ _ _ => ⟨rfl, rfl⟩) fun _ _ _ _ unread => unread

def Readable (graph : Graph) (id : String) : Prop := ∀ node, graph.node? id = some node → node.kind.isUnknown = false

theorem attach_edited (valid : graph.WellFormed) (addable : graph.Addable edge)
    (known : graph.Readable edge.source) : Edited graph (graph.attach edge) ((graph.attach edge).forwardClosure [edge.target]) := by
  have grown := attach_wellFormed valid addable
  refine edited_from grown (fun id _ beyond => ⟨rfl, ?_⟩) fun id node found unknown unread => ?_
  · have different : ¬edge.target = id := by
      rintro rfl
      exact beyond (forwardClosure_seed grown List.mem_cons_self (hasNode_iff.mpr addable.target))
    rw [grown.edgesInto_eq, valid.edgesInto_eq, attach_edges addable.fresh, List.filter_append]
    simp [different]
  · unfold Unread
    rw [attach_edges addable.fresh]
    intro other member source
    rcases List.mem_append.mp member with old | new
    · exact unread other old source
    · obtain rfl := List.mem_singleton.mp new
      rw [known node (source ▸ found)] at unknown
      cases unknown

theorem detach_edited (valid : graph.WellFormed) (there : edge ∈ graph.edges) :
    Edited graph (graph.detach edge.id edge) ((graph.detach edge.id edge).forwardClosure [edge.target]) := by
  have edges : (graph.detach edge.id edge).edges = _ := detach_edges valid edge
  have smaller := detach_wellFormed valid there
  refine edited_from smaller (fun id _ beyond => ⟨rfl, ?_⟩) fun id node _ _ unread => ?_
  · rw [smaller.edgesInto_eq, valid.edgesInto_eq, edges, List.filter_filter]
    refine List.filter_congr fun other listed => ?_
    by_cases same : other = edge
    · have different : ¬edge.target = id := by
        rintro rfl
        exact beyond (forwardClosure_seed smaller List.mem_cons_self (hasNode_iff.mpr (valid.ends edge there).2))
      simp [same, different]
    · have different : other.id ≠ edge.id := fun named => same (edge_unique valid listed there named)
      simp [different]
  · unfold Unread
    rw [edges]
    exact fun other member => unread other (List.mem_filter.mp member).1

theorem removeNode_edited (valid : graph.WellFormed) (smaller : after.WellFormed)
    (nodes : after.nodes = graph.nodes.filter (·.id != id))
    (edges : after.edges = graph.edges.filter fun edge => edge.source != id && edge.target != id) :
    Edited graph after (after.forwardClosure ((graph.targets id).filter (· != id))) := by
  have gone : ¬after.hasNode id := by
    intro there
    obtain ⟨node, found⟩ := Option.isSome_iff_exists.mp there
    obtain ⟨member, named⟩ := smaller.node?_eq_some.mp found
    rw [nodes] at member
    simp [named] at member
  refine edited_from smaller (fun other there beyond => ?_) fun other node _ _ unread => ?_
  · have different : other ≠ id := by
      rintro rfl
      exact gone there
    refine ⟨Option.ext fun node => ?_, ?_⟩
    · rw [smaller.node?_eq_some, valid.node?_eq_some, nodes, List.mem_filter]
      constructor
      · rintro ⟨⟨member, _⟩, named⟩
        exact ⟨member, named⟩
      · rintro ⟨member, rfl⟩
        exact ⟨⟨member, by simpa using different⟩, rfl⟩
    · rw [smaller.edgesInto_eq, valid.edgesInto_eq, edges, List.filter_filter]
      refine List.filter_congr fun edge listed => ?_
      by_cases target : edge.target = other
      · have source : edge.source ≠ id := by
          rintro rfl
          refine beyond (forwardClosure_seed smaller (List.mem_filter.mpr ⟨?_, by simpa using different⟩) there)
          exact (mem_targets valid).mpr ⟨edge, listed, rfl, target⟩
        simp [target, source, different]
      · simp [target]
  · unfold Unread
    rw [edges]
    exact fun edge member => unread edge (List.mem_filter.mp member).1

theorem touching_targets (valid : graph.WellFormed) (id : String) :
    ((graph.touching id).filter fun edge => edge.source == id && edge.target != id).map Edge.target =
      (graph.targets id).filter (· != id) := by
  have none : (graph.edgesInto id).filter (fun edge => edge.source == id && edge.target != id) = [] := by
    refine List.filter_eq_nil_iff.mpr fun edge member => ?_
    simp [(valid.mem_edgesInto.mp member).2]
  have all : (graph.edgesOutOf id).filter (fun edge => (edge.source == id && edge.target != id) && edge.target != id) =
      (graph.edgesOutOf id).filter (·.target != id) := by
    refine List.filter_congr fun edge member => ?_
    simp [(valid.mem_edgesOutOf.mp member).2]
  rw [touching, List.filter_append, List.filter_filter, none, all, targets, List.filter_map]
  rfl

end Graph

namespace Engine

variable {engine : Engine} {node : Node} {id source target : String} {edge : Edge} {seeds : List String}
  {fault : EngineError} {change : Option Value}

structure Unchanged (before after : Engine) : Prop where
  nodes : after.graph.nodes = before.graph.nodes
  edges : after.graph.edges = before.graph.edges
  into : ∀ id, after.graph.edgesInto id = before.graph.edgesInto id
  outOf : ∀ id, after.graph.edgesOutOf id = before.graph.edgesOutOf id
  state : after.state = before.state

theorem Unchanged.refl (engine : Engine) : Unchanged engine engine :=
  ⟨rfl, rfl, fun _ => rfl, fun _ => rfl, rfl⟩

-- An edge that was added and taken out again cannot be told from one that was never added.
theorem unchanged_detached (valid : engine.graph.WellFormed) (addable : engine.graph.Addable edge) :
    Unchanged engine ⟨(engine.graph.attach edge).detach edge.id edge, engine.state⟩ := by
  obtain ⟨smaller, edges⟩ := Graph.attached_detached valid addable
  refine ⟨rfl, edges, fun id => ?_, fun id => ?_, rfl⟩
  · rw [smaller.edgesInto_eq, valid.edgesInto_eq, edges]
  · rw [smaller.edgesOutOf_eq, valid.edgesOutOf_eq, edges]

-- The ways an operation may go: no pass is made, and the engine stays in its state, or the graph is edited
-- within the reach of the pass. An operation that is refused before its pass leaves everything as it was.
inductive Course (engine : Engine) (seeds : List String) : Outcome (List Change) → Prop where
  | aside {graph : Graph} {result : Except EngineError (List Change)} : graph.WellFormed →
      Graph.Alike engine.graph graph → (∀ fault, result = .error fault → Unchanged engine ⟨graph, engine.state⟩) →
      Course engine seeds (⟨graph, engine.state⟩, result)
  | pass {graph : Graph} {changes : List Change} : graph.WellFormed →
      Graph.Edited engine.graph graph (graph.forwardClosure seeds) →
      Course engine seeds (settle graph seeds changes)

theorem refused_course (valid : engine.graph.WellFormed) (fault : EngineError) :
    Course engine seeds (engine.fail fault) :=
  .aside valid ⟨rfl, fun _ => rfl⟩ fun _ _ => .refl engine

theorem store_revises (graph : Graph) (node : Node) (literal : Value) : ∃ change, store graph node literal =
    (graph.revise node.id change, change.elim [] fun value => [⟨node.id, value⟩]) := by
  unfold store
  split
  · exact ⟨none, rfl⟩
  · exact ⟨some literal, rfl⟩

-- A node gets another literal, after it may have been changed otherwise.
theorem revise_course {graph : Graph} (grown : graph.WellFormed)
    (frame : graph = { engine.graph with nodeTable := graph.nodeTable }) (there : graph.hasNode id)
    (others : ∀ other, other ≠ id → graph.node? other = engine.graph.node? other) (change : Option Value)
    (changes : List Change) : Course engine [id] (settle (graph.revise id change) [id] changes) := by
  have revised : graph.Revalued (graph.revise id change) [id] := Graph.revise_revalued
  refine .pass (Graph.revise_wellFormed grown) (Graph.node_edited (Graph.revise_wellFormed grown) ?_ ?_ ?_)
  · rw [revised.frame, frame]
  · rw [revised.hasNode]
    exact there
  · intro other different
    exact (revised.outside other fun here => different (List.mem_singleton.mp here)).trans (others other different)

theorem setValue_course (valid : engine.graph.WellFormed) (id : String) (value : Value) :
    Course engine [id] (engine.setValue id value) := by
  unfold setValue
  cases found : engine.graph.node? id with
  | none => exact refused_course valid _
  | some node =>
    obtain ⟨_, rfl⟩ := valid.node?_eq_some.mp found
    dsimp only
    split
    · obtain ⟨change, stored⟩ := store_revises engine.graph node (node.kind.coerce value)
      rw [stored]
      exact revise_course valid rfl (Graph.hasNode_of_found found) (fun _ _ => rfl) change _
    · exact refused_course valid _

theorem setKind_course (valid : engine.graph.WellFormed) (id : String) (kind : Kind) :
    Course engine [id] (engine.setKind id kind) := by
  unfold setKind
  cases found : engine.graph.node? id with
  | none => exact refused_course valid _
  | some node =>
    obtain ⟨_, rfl⟩ := valid.node?_eq_some.mp found
    have grown : (engine.graph.update node.id fun node => { node with kind := kind }).WellFormed :=
      Graph.update_wellFormed valid node.id fun _ => rfl
    have there : (engine.graph.update node.id fun node => { node with kind := kind }).hasNode node.id := by
      rw [Graph.hasNode_iff, Graph.update_nodeIds]
      exact Graph.hasNode_iff.mp (Graph.hasNode_of_found found)
    have others : ∀ other, other ≠ node.id →
        (engine.graph.update node.id fun node => { node with kind := kind }).node? other =
          engine.graph.node? other :=
      fun other different => (Graph.update_node? _ _ _ _).trans (if_neg different)
    dsimp only
    split
    · obtain ⟨change, stored⟩ := store_revises
        (engine.graph.update node.id fun node => { node with kind := kind }) node (kind.coerce node.value)
      rw [stored]
      exact revise_course grown rfl there others change _
    · exact revise_course grown rfl there others none []

theorem setName_course (valid : engine.graph.WellFormed) (id : String) (name : Option String) :
    Course engine [] (engine.setName id name) := by
  unfold setName
  cases found : engine.graph.node? id with
  | none => exact refused_course valid _
  | some node =>
    refine .aside (Graph.update_wellFormed valid id fun _ => rfl) ⟨rfl, fun other => ?_⟩ fun _ failed => by cases failed
    apply Graph.update_bare
    exact fun _ => rfl

theorem insertNode_course (valid : engine.graph.WellFormed) (node : Node) :
    Course engine [node.id] (engine.insertNode node) := by
  have grown := Graph.addNode_wellFormed valid { node with value := node.kind.coerce node.value }
  unfold insertNode
  rcases engine.graph.addNode_cases { node with value := node.kind.coerce node.value } with ⟨_, refused⟩ | ⟨fresh, added⟩
  · rw [refused]
    exact refused_course valid _
  · rw [added] at grown ⊢
    refine .pass grown (Graph.node_edited grown rfl ?_ fun other different => ?_)
    · rw [Graph.hasNode_iff, Graph.nodeIds, Table.keys_insert fresh]
      exact List.mem_append_right _ List.mem_cons_self
    · exact (Table.get?_insert _ _ _ _).trans (if_neg different)

theorem removeNode_course (valid : engine.graph.WellFormed) (id : String) :
    Course engine ((engine.graph.targets id).filter (· != id)) (engine.removeNode id) := by
  unfold removeNode
  cases found : engine.graph.node? id with
  | none =>
    rw [Graph.removeNode_absent found]
    exact refused_course valid _
  | some node =>
    obtain ⟨rest, removed, smaller, nodes, edges⟩ := Graph.removeNode_exact valid found
    obtain ⟨_, rfl⟩ := valid.node?_eq_some.mp found
    rw [removed]
    dsimp only
    rw [Graph.touching_targets valid]
    exact .pass smaller (Graph.removeNode_edited valid smaller nodes edges)

theorem disconnect_course (valid : engine.graph.WellFormed) (id : String) :
    Course engine ((engine.graph.edge? id).map Edge.target).toList (engine.disconnect id) := by
  unfold disconnect
  rcases Graph.removeEdge_cases valid id with ⟨_, refused⟩ | ⟨edge, there, rfl, removed⟩
  · rw [refused]
    exact refused_course valid _
  · rw [removed, valid.edge?_eq_some.mpr ⟨there, rfl⟩]
    exact .pass (Graph.detach_wellFormed valid there) (Graph.detach_edited valid there)

theorem reject_exact (valid : engine.graph.WellFormed) (addable : engine.graph.Addable edge) (fault : EngineError) :
    (reject { engine with graph := engine.graph.attach edge } edge.id fault : Outcome (List Change)) =
      (⟨(engine.graph.attach edge).detach edge.id edge, engine.state⟩, .error fault) := by
  unfold reject
  rw [Graph.attached_removed valid addable]
  rfl

-- The ways of an edge that the store has taken in.
theorem accept_cases (valid : engine.graph.WellFormed) (addable : engine.graph.Addable edge) :
    (∃ typeName, ¬engine.graph.Readable edge.source ∧
      accept { engine with graph := engine.graph.attach edge } edge.id edge.source edge.target =
        (⟨(engine.graph.attach edge).detach edge.id edge, engine.state⟩, .error (.unknownKind edge.source typeName))) ∨
    engine.graph.Readable edge.source ∧
      ((∃ id, (engine.graph.attach edge).evaluationOrder edge.target = .error (.cycle id) ∧
        accept { engine with graph := engine.graph.attach edge } edge.id edge.source edge.target =
          (⟨(engine.graph.attach edge).detach edge.id edge, engine.state⟩, .error (.cycle id))) ∨
      ∃ order, (engine.graph.attach edge).evaluationOrder edge.target = .ok order ∧
        accept { engine with graph := engine.graph.attach edge } edge.id edge.source edge.target =
          settle (engine.graph.attach edge) [edge.target] []) := by
  have grown := Graph.attach_wellFormed valid addable
  unfold accept
  split
  · rename_i typeName kind
    obtain ⟨node, found, unknown⟩ := Option.map_eq_some_iff.mp kind
    refine .inl ⟨typeName, fun readable => ?_, reject_exact valid addable _⟩
    have known := readable node found
    rw [unknown] at known
    cases known
  · rename_i known
    have readable : engine.graph.Readable edge.source := by
      intro node found
      cases kind : node.kind with
      | unknown typeName => exact absurd (congrArg (Option.map Node.kind) found) fun same => known typeName (kind ▸ same)
      | _ => rfl
    refine .inr ⟨readable, ?_⟩
    cases ordered : (engine.graph.attach edge).evaluationOrder edge.target with
    | ok order => exact .inr ⟨order, rfl, rfl⟩
    | error fault =>
      rcases Graph.evaluationOrder_error grown ordered with ⟨_, absent⟩ | ⟨id, rfl, _⟩
      · have there : (engine.graph.attach edge).hasNode edge.target := Graph.hasNode_iff.mpr addable.target
        rw [there] at absent
        cases absent
      · exact .inl ⟨id, rfl, reject_exact valid addable _⟩

theorem accept_course (valid : engine.graph.WellFormed) (addable : engine.graph.Addable edge) :
    Course engine [edge.target]
      (accept { engine with graph := engine.graph.attach edge } edge.id edge.source edge.target) := by
  obtain ⟨smaller, edges⟩ := Graph.attached_detached valid addable
  rcases accept_cases valid addable with ⟨_, _, refused⟩ | ⟨readable, ⟨_, _, refused⟩ | ⟨_, _, kept⟩⟩
  · rw [refused]
    exact .aside smaller ⟨edges, fun _ => rfl⟩ fun _ _ => unchanged_detached valid addable
  · rw [refused]
    exact .aside smaller ⟨edges, fun _ => rfl⟩ fun _ _ => unchanged_detached valid addable
  · rw [kept]
    exact .pass (Graph.attach_wellFormed valid addable) (Graph.attach_edited valid addable readable)

-- An edge is the same to the engine under an id of its own and under one that it is given.
theorem insertion_cases (valid : engine.graph.WellFormed) {op : Operation} (adds : op.edge? engine.graph = some edge) :
    (¬engine.graph.Addable edge ∧ ∃ fault, op.apply engine = engine.fail (.graph fault)) ∨
    (engine.graph.Addable edge ∧ op.apply engine =
      accept { engine with graph := engine.graph.attach edge } edge.id edge.source edge.target) := by
  cases op with
  | connect source target handle =>
    obtain rfl := Option.some.inj adds
    rw [Operation.apply, connect]
    rcases Graph.connect_cases valid source target handle with ⟨never, fault, refused⟩ | ⟨addable, added⟩
    · rw [refused]
      exact .inl ⟨never, fault, rfl⟩
    · rw [added]
      refine .inr ⟨addable, ?_⟩
      dsimp only [Graph.connection]
      rcases accept _ _ source target with ⟨next, fault | changes⟩ <;> rfl
  | insertEdge other =>
    obtain rfl := Option.some.inj adds
    rw [Operation.apply, insertEdge]
    rcases Graph.addEdge_cases valid other with ⟨never, fault, refused⟩ | ⟨addable, added⟩
    · rw [refused]
      exact .inl ⟨never, fault, rfl⟩
    · rw [added]
      exact .inr ⟨addable, rfl⟩
  | _ => cases adds

theorem insertion_course (valid : engine.graph.WellFormed) {op : Operation} (adds : op.edge? engine.graph = some edge) :
    Course engine (op.seeds engine.graph) (op.apply engine) := by
  have seeds : op.seeds engine.graph = [edge.target] := by cases op <;> cases adds <;> rfl
  rw [seeds]
  rcases insertion_cases valid adds with ⟨_, fault, refused⟩ | ⟨addable, accepted⟩
  · rw [refused]
    exact refused_course valid _
  · rw [accepted]
    exact accept_course valid addable

theorem operation_course (valid : engine.graph.WellFormed) (op : Operation) :
    Course engine (op.seeds engine.graph) (op.apply engine) := by
  cases op with
  | setValue id value => exact setValue_course valid id value
  | setKind id kind => exact setKind_course valid id kind
  | setName id name => exact setName_course valid id name
  | insertNode node => exact insertNode_course valid node
  | removeNode id => exact removeNode_course valid id
  | connect source target handle => exact insertion_course valid rfl
  | insertEdge edge => exact insertion_course valid rfl
  | disconnect id => exact disconnect_course valid id
  | settleAll => exact .pass valid (Graph.same_edited valid _)

end Engine
end Dataflow
