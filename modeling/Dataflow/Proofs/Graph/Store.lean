import Dataflow.Graph.Basic
import Dataflow.Proofs.Graph.Table

namespace Dataflow.Graph

-- Ids stand for the items they are entered under, edges run between nodes, and each node's lists name its
-- edges in the order of the table of edges. A labelled input has one edge.
structure WellFormed (graph : Graph) : Prop where
  nodesIndexed : graph.nodeTable.Indexed Node.id
  edgesIndexed : graph.edgeTable.Indexed Edge.id
  ends : ∀ edge ∈ graph.edges, edge.source ∈ graph.nodeIds ∧ edge.target ∈ graph.nodeIds
  into : ∀ id, graph.incoming.list id = (graph.edges.filter (·.target == id)).map Edge.id
  outOf : ∀ id, graph.outgoing.list id = (graph.edges.filter (·.source == id)).map Edge.id
  handles : ∀ first ∈ graph.edges, ∀ second ∈ graph.edges, first.target = second.target →
    first.targetHandle = second.targetHandle → first.targetHandle ≠ none → first = second

theorem empty_wellFormed : empty.WellFormed := by
  refine ⟨.empty _, .empty _, ?_, ?_, ?_, ?_⟩
  · intro edge member
    cases member
  · intro id
    rfl
  · intro id
    rfl
  · intro first member
    cases member

variable {graph : Graph} {node : Node} {edge : Edge} {id : String}

namespace WellFormed

theorem node?_eq_some (valid : graph.WellFormed) :
    graph.node? id = some node ↔ node ∈ graph.nodes ∧ node.id = id :=
  valid.nodesIndexed.get?_eq_some

theorem edge?_eq_some (valid : graph.WellFormed) :
    graph.edge? id = some edge ↔ edge ∈ graph.edges ∧ edge.id = id :=
  valid.edgesIndexed.get?_eq_some

-- Looking up the ids of some of the edges gives these edges back.
theorem edges_found (valid : graph.WellFormed) {part : List Edge} (within : ∀ edge ∈ part, edge ∈ graph.edges) :
    (part.map Edge.id).filterMap graph.edge? = part := by
  rw [List.filterMap_map]
  have found : ∀ edge ∈ part, (graph.edge? ∘ Edge.id) edge = some edge :=
    fun edge member => valid.edgesIndexed.found (within edge member)
  rw [List.filterMap_congr found, List.filterMap_some]

theorem edgesInto_eq (valid : graph.WellFormed) (id : String) :
    graph.edgesInto id = graph.edges.filter (·.target == id) := by
  rw [edgesInto, valid.into, valid.edges_found fun _ => List.mem_of_mem_filter]

theorem edgesOutOf_eq (valid : graph.WellFormed) (id : String) :
    graph.edgesOutOf id = graph.edges.filter (·.source == id) := by
  rw [edgesOutOf, valid.outOf, valid.edges_found fun _ => List.mem_of_mem_filter]

theorem mem_edgesInto (valid : graph.WellFormed) :
    edge ∈ graph.edgesInto id ↔ edge ∈ graph.edges ∧ edge.target = id := by
  rw [valid.edgesInto_eq]
  simp

theorem mem_edgesOutOf (valid : graph.WellFormed) :
    edge ∈ graph.edgesOutOf id ↔ edge ∈ graph.edges ∧ edge.source = id := by
  rw [valid.edgesOutOf_eq]
  simp

theorem hasOutgoing_iff (valid : graph.WellFormed) (id : String) :
    graph.hasOutgoing id ↔ ∃ edge ∈ graph.edges, edge.source = id := by
  simp [hasOutgoing, valid.outOf]

end WellFormed

theorem node_unique (valid : graph.WellFormed) {first second : Node} (left : first ∈ graph.nodes)
    (right : second ∈ graph.nodes) (same : first.id = second.id) : first = second :=
  Option.some.inj ((valid.node?_eq_some.mpr ⟨left, same⟩).symm.trans (valid.node?_eq_some.mpr ⟨right, rfl⟩))

theorem hasNode_iff : graph.hasNode id ↔ id ∈ graph.nodeIds := graph.nodeTable.contains_iff id

theorem hasNode_of_found (found : graph.node? id = some node) : graph.hasNode id :=
  Option.isSome_iff_exists.mpr ⟨node, found⟩

theorem hasEdge_iff : graph.hasEdge id ↔ id ∈ graph.edgeTable.keys := graph.edgeTable.contains_iff id

-- Nodes come and change without a look at the edges.

theorem addNode_cases (graph : Graph) (node : Node) :
    (node.id ∈ graph.nodeIds ∧ graph.addNode node = graph.fail (.duplicateNode node.id)) ∨
    (node.id ∉ graph.nodeIds ∧
      graph.addNode node = ({ graph with nodeTable := graph.nodeTable.insert node.id node }, .ok ())) := by
  unfold addNode
  split
  · rename_i there
    exact .inl ⟨hasNode_iff.mp there, rfl⟩
  · rename_i absent
    exact .inr ⟨fun there => absent (hasNode_iff.mpr there), rfl⟩

theorem addNode_wellFormed (valid : graph.WellFormed) (node : Node) : (graph.addNode node).1.WellFormed := by
  rcases graph.addNode_cases node with ⟨_, refused⟩ | ⟨fresh, added⟩
  · rw [refused]
    exact valid
  · rw [added]
    refine ⟨valid.nodesIndexed.insert node fresh, valid.edgesIndexed, ?_, valid.into, valid.outOf, valid.handles⟩
    intro edge member
    have ends := valid.ends edge member
    simp only [nodeIds, Table.keys_insert fresh, List.mem_append]
    exact ⟨.inl ends.1, .inl ends.2⟩

theorem addNode_nodes (fresh : node.id ∉ graph.nodeIds) : (graph.addNode node).1.nodes = graph.nodes ++ [node] := by
  rcases graph.addNode_cases node with ⟨taken, _⟩ | ⟨_, entered⟩
  · exact absurd taken fresh
  · rw [entered]
    exact Table.items_insert fresh node

theorem addNode_edgeTable (graph : Graph) (node : Node) : (graph.addNode node).1.edgeTable = graph.edgeTable := by
  rcases graph.addNode_cases node with ⟨_, refused⟩ | ⟨_, entered⟩
  · rw [refused]
    rfl
  · rw [entered]

theorem update_node? (graph : Graph) (id other : String) (change : Node → Node) :
    (graph.update id change).node? other = if other = id then (graph.node? id).map change else graph.node? other :=
  Table.get?_modify _ _ _ _

theorem update_nodeIds (graph : Graph) (id : String) (change : Node → Node) :
    (graph.update id change).nodeIds = graph.nodeIds := Table.keys_modify _ _ _

theorem update_wellFormed (valid : graph.WellFormed) (id : String) {change : Node → Node}
    (keeps : ∀ node, (change node).id = node.id) : (graph.update id change).WellFormed := by
  refine ⟨valid.nodesIndexed.modify id keeps, valid.edgesIndexed, ?_, valid.into, valid.outOf, valid.handles⟩
  intro edge member
  rw [update_nodeIds]
  exact valid.ends edge member

-- When an edge may be added.
structure Addable (graph : Graph) (edge : Edge) : Prop where
  fresh : edge.id ∉ graph.edgeTable.keys
  source : edge.source ∈ graph.nodeIds
  target : edge.target ∈ graph.nodeIds
  free : ∀ other ∈ graph.edges, other.target = edge.target → other.targetHandle = edge.targetHandle →
    edge.targetHandle = none

theorem attach_edges (fresh : edge.id ∉ graph.edgeTable.keys) :
    (graph.attach edge).edges = graph.edges ++ [edge] := Table.items_insert fresh edge

theorem attach_wellFormed (valid : graph.WellFormed) (addable : graph.Addable edge) :
    (graph.attach edge).WellFormed := by
  have edges := attach_edges addable.fresh
  refine ⟨valid.nodesIndexed, valid.edgesIndexed.insert edge addable.fresh, ?_, ?_, ?_, ?_⟩
  · intro other member
    rw [edges] at member
    rcases List.mem_append.mp member with old | new
    · exact valid.ends other old
    · cases List.mem_singleton.mp new
      exact ⟨addable.source, addable.target⟩
  · intro id
    rw [edges, List.filter_append, List.map_append, ← valid.into]
    by_cases same : id = edge.target
    · simp [attach, Table.list_push, same]
    · have different : ¬edge.target = id := fun equal => same equal.symm
      simp [attach, Table.list_push, same, different]
  · intro id
    rw [edges, List.filter_append, List.map_append, ← valid.outOf]
    by_cases same : id = edge.source
    · simp [attach, Table.list_push, same]
    · have different : ¬edge.source = id := fun equal => same equal.symm
      simp [attach, Table.list_push, same, different]
  · intro first firstMember second secondMember target handle labelled
    rw [edges] at firstMember secondMember
    rcases List.mem_append.mp firstMember with firstOld | firstNew <;>
      rcases List.mem_append.mp secondMember with secondOld | secondNew
    · exact valid.handles first firstOld second secondOld target handle labelled
    · cases List.mem_singleton.mp secondNew
      exact absurd (handle.trans (addable.free first firstOld target handle)) labelled
    · cases List.mem_singleton.mp firstNew
      exact absurd (addable.free second secondOld target.symm handle.symm) labelled
    · rw [List.mem_singleton.mp firstNew, List.mem_singleton.mp secondNew]

-- The refusals of an edge, in the order in which they are looked for.
theorem addEdge_cases (valid : graph.WellFormed) (edge : Edge) :
    (¬graph.Addable edge ∧ ∃ fault, graph.addEdge edge = graph.fail fault) ∨
    (graph.Addable edge ∧ graph.addEdge edge = (graph.attach edge, .ok ())) := by
  unfold addEdge
  split
  · rename_i taken
    exact .inl ⟨fun addable => addable.fresh (hasEdge_iff.mp taken), _, rfl⟩
  rename_i fresh
  have fresh : edge.id ∉ graph.edgeTable.keys := fun there => fresh (hasEdge_iff.mpr there)
  split
  · rename_i absent
    exact .inl ⟨fun addable => by simp [hasNode_iff.mpr addable.source] at absent, _, rfl⟩
  rename_i source
  have source : edge.source ∈ graph.nodeIds := hasNode_iff.mp (by simpa using source)
  split
  · rename_i absent
    exact .inl ⟨fun addable => by simp [hasNode_iff.mpr addable.target] at absent, _, rfl⟩
  rename_i target
  have target : edge.target ∈ graph.nodeIds := hasNode_iff.mp (by simpa using target)
  split
  · rename_i unlabelled
    exact .inr ⟨⟨fresh, source, target, fun _ _ _ _ => unlabelled⟩, rfl⟩
  · rename_i handle labelled
    split
    · rename_i occupant found
      refine .inl ⟨fun addable => ?_, _, rfl⟩
      have there := valid.mem_edgesInto.mp (List.mem_of_find?_eq_some found)
      have same : occupant.targetHandle = some handle := by simpa using List.find?_some found
      have none := addable.free occupant there.1 there.2 (same.trans labelled.symm)
      rw [labelled] at none
      cases none
    · rename_i vacant
      refine .inr ⟨⟨fresh, source, target, fun other member into same => ?_⟩, rfl⟩
      have different := List.find?_eq_none.mp vacant other (valid.mem_edgesInto.mpr ⟨member, into⟩)
      rw [labelled] at same
      simp [same] at different

theorem addEdge_wellFormed (valid : graph.WellFormed) (edge : Edge) : (graph.addEdge edge).1.WellFormed := by
  rcases addEdge_cases valid edge with ⟨_, fault, refused⟩ | ⟨addable, added⟩
  · rw [refused]
    exact valid
  · rw [added]
    exact attach_wellFormed valid addable

-- Connecting finds an id of its own.

theorem freshFrom_first (graph : Graph) (base : String) (n : Nat) :
    ∃ m, n ≤ m ∧ graph.freshFrom base n = candidate base m ∧ graph.hasEdge (candidate base m) = false ∧
      ∀ k, n ≤ k → k < m → graph.hasEdge (candidate base k) := by
  induction n using freshFrom.induct graph base with
  | case1 n taken ih =>
    obtain ⟨m, later, same, free, before⟩ := ih
    refine ⟨m, by omega, ?_, free, ?_⟩
    · rw [freshFrom, dif_pos taken, same]
    · intro k least below
      by_cases first : k = n
      · exact first ▸ taken
      · exact before k (by omega) below
  | case2 n free =>
    refine ⟨n, Nat.le_refl n, ?_, by simpa using free, fun k least below => by omega⟩
    rw [freshFrom, dif_neg free]

-- The edge that a connection adds.
def connection (graph : Graph) (source target : String) (handle : Option String) : Edge :=
  { id := graph.freshFrom (connectionId source target handle) 0
    source := source
    target := target
    targetHandle := handle }

theorem connection_fresh (graph : Graph) (source target : String) (handle : Option String) :
    (graph.connection source target handle).id ∉ graph.edgeTable.keys := by
  obtain ⟨m, _, same, free, _⟩ := graph.freshFrom_first (connectionId source target handle) 0
  intro taken
  have taken := hasEdge_iff.mpr taken
  simp [connection, same, free] at taken

theorem connect_cases (valid : graph.WellFormed) (source target : String) (handle : Option String) :
    (¬graph.Addable (graph.connection source target handle) ∧
      ∃ fault, graph.connect source target handle = graph.fail fault) ∨
    (graph.Addable (graph.connection source target handle) ∧ graph.connect source target handle =
      (graph.attach (graph.connection source target handle), .ok (graph.connection source target handle).id)) := by
  rcases addEdge_cases valid (graph.connection source target handle) with ⟨not, fault, refused⟩ | ⟨addable, added⟩
  · refine .inl ⟨not, fault, ?_⟩
    simp only [connection] at refused
    simp only [connect, refused, fail]
  · refine .inr ⟨addable, ?_⟩
    simp only [connection] at added
    simp only [connect, added, connection]

theorem connect_wellFormed (valid : graph.WellFormed) (source target : String) (handle : Option String) :
    (graph.connect source target handle).1.WellFormed := by
  rcases connect_cases valid source target handle with ⟨_, fault, refused⟩ | ⟨addable, added⟩
  · rw [refused]
    exact valid
  · rw [added]
    exact attach_wellFormed valid addable

theorem edgeIds_nodup (valid : graph.WellFormed) : (graph.edges.map Edge.id).Nodup :=
  valid.edgesIndexed.keys_eq ▸ valid.edgesIndexed.distinct

theorem edge_unique (valid : graph.WellFormed) {other : Edge} (there : edge ∈ graph.edges)
    (too : other ∈ graph.edges) (same : edge.id = other.id) : edge = other :=
  List.inj_on_of_nodup_map (edgeIds_nodup valid) there too same

theorem keptIds_nodup (valid : graph.WellFormed) (kept : Edge → Bool) :
    ((graph.edges.filter kept).map Edge.id).Nodup :=
  (edgeIds_nodup valid).sublist (List.filter_sublist.map Edge.id)

theorem id_listed (valid : graph.WellFormed) {part : List Edge} (within : ∀ other ∈ part, other ∈ graph.edges)
    (there : edge ∈ graph.edges) : edge.id ∈ part.map Edge.id ↔ edge ∈ part := by
  constructor
  · intro named
    obtain ⟨other, member, same⟩ := List.mem_map.mp named
    exact edge_unique valid (within other member) there same ▸ member
  · exact List.mem_map_of_mem

theorem detach_edges (valid : graph.WellFormed) (edge : Edge) :
    (graph.detach id edge).edges = graph.edges.filter (·.id != id) := valid.edgesIndexed.items_erase id

-- The list of one end of an edge that is taken out.
theorem filter_ids (valid : graph.WellFormed) (there : edge ∈ graph.edges) (kept : Edge → Bool) :
    ((graph.edges.filter (·.id != edge.id)).filter kept).map Edge.id =
      if kept edge then ((graph.edges.filter kept).map Edge.id).filter (· != edge.id)
      else (graph.edges.filter kept).map Edge.id := by
  split
  · simp only [List.filter_map, List.filter_filter, Function.comp_def, Bool.and_comm]
  · rename_i other
    congr 1
    rw [List.filter_filter]
    refine List.filter_congr fun candidate member => ?_
    by_cases same : candidate.id = edge.id
    · simp [edge_unique valid member there same, other]
    · simp [same]

theorem detach_wellFormed (valid : graph.WellFormed) (there : edge ∈ graph.edges) :
    (graph.detach edge.id edge).WellFormed := by
  have edges : (graph.detach edge.id edge).edges = _ := detach_edges valid edge
  refine ⟨valid.nodesIndexed, valid.edgesIndexed.erase edge.id, ?_, ?_, ?_, ?_⟩
  · intro other member
    rw [edges] at member
    exact valid.ends other (List.mem_filter.mp member).1
  · intro id
    rw [edges, filter_ids valid there, ← valid.into]
    by_cases same : edge.target = id
    · simp [detach, Table.list_drop, same]
    · have different : ¬id = edge.target := fun equal => same equal.symm
      simp [detach, Table.list_drop, same, different]
  · intro id
    rw [edges, filter_ids valid there, ← valid.outOf]
    by_cases same : edge.source = id
    · simp [detach, Table.list_drop, same]
    · have different : ¬id = edge.source := fun equal => same equal.symm
      simp [detach, Table.list_drop, same, different]
  · intro first firstMember second secondMember
    rw [edges] at firstMember secondMember
    exact valid.handles first (List.mem_filter.mp firstMember).1 second (List.mem_filter.mp secondMember).1

theorem removeEdge_cases (valid : graph.WellFormed) (id : String) :
    (id ∉ graph.edgeTable.keys ∧ graph.removeEdge id = graph.fail (.edgeNotFound id)) ∨
    (∃ edge ∈ graph.edges, edge.id = id ∧ graph.removeEdge id = (graph.detach id edge, .ok edge)) := by
  unfold removeEdge
  split
  · rename_i absent
    exact .inl ⟨(graph.edgeTable.get?_eq_none id).mp absent, rfl⟩
  · rename_i edge found
    obtain ⟨there, named⟩ := valid.edge?_eq_some.mp found
    exact .inr ⟨edge, there, named, rfl⟩

theorem removeEdge_wellFormed (valid : graph.WellFormed) (id : String) : (graph.removeEdge id).1.WellFormed := by
  rcases removeEdge_cases valid id with ⟨_, refused⟩ | ⟨edge, there, rfl, removed⟩
  · rw [refused]
    exact valid
  · rw [removed]
    exact detach_wellFormed valid there

-- The edge that was added last can be taken out, and leaves the edges that were there.
theorem attached_removed (valid : graph.WellFormed) (addable : graph.Addable edge) :
    (graph.attach edge).removeEdge edge.id = ((graph.attach edge).detach edge.id edge, .ok edge) := by
  have member : edge ∈ (graph.attach edge).edges := by simp [attach_edges addable.fresh]
  rw [removeEdge, (attach_wellFormed valid addable).edge?_eq_some.mpr ⟨member, rfl⟩]

theorem attached_detached (valid : graph.WellFormed) (addable : graph.Addable edge) :
    ((graph.attach edge).detach edge.id edge).WellFormed ∧
      ((graph.attach edge).detach edge.id edge).edges = graph.edges := by
  have grown := attach_wellFormed valid addable
  have smaller := removeEdge_wellFormed grown edge.id
  rw [attached_removed valid addable] at smaller
  have others : graph.edges.filter (·.id != edge.id) = graph.edges := by
    refine List.filter_eq_self.mpr fun other member => bne_iff_ne.mpr fun same => addable.fresh ?_
    rw [valid.edgesIndexed.keys_eq, ← same]
    exact List.mem_map_of_mem member
  refine ⟨smaller, ?_⟩
  rw [detach_edges grown, attach_edges addable.fresh, List.filter_append, others]
  simp

-- Removing a node: the edges that touch it go first, one after another.

theorem removeEdges_exact (ids : List String) (distinct : ids.Nodup) (valid : graph.WellFormed)
    (there : ∀ id ∈ ids, id ∈ graph.edgeTable.keys) :
    ∃ rest : Graph, removeEdges ids graph = (rest, .ok (ids.filterMap graph.edge?)) ∧ rest.WellFormed ∧
      rest.nodeTable = graph.nodeTable ∧ rest.edges = graph.edges.filter (!ids.contains ·.id) := by
  induction ids generalizing graph with
  | nil => exact ⟨graph, rfl, valid, rfl, by simp⟩
  | cons id ids ih =>
    obtain ⟨unlisted, others⟩ := List.nodup_cons.mp distinct
    rcases removeEdge_cases valid id with ⟨absent, _⟩ | ⟨edge, member, rfl, removed⟩
    · exact absurd (there id List.mem_cons_self) absent
    have apart : ∀ id ∈ ids, id ≠ edge.id := fun id listed equal => unlisted (equal ▸ listed)
    have later : ∀ id ∈ ids, id ∈ (graph.detach edge.id edge).edgeTable.keys := by
      intro id listed
      simp only [detach, Table.keys_erase, List.mem_filter]
      exact ⟨there id (List.mem_cons_of_mem _ listed), by simpa using apart id listed⟩
    obtain ⟨rest, ran, restValid, nodes, edges⟩ := ih others (detach_wellFormed valid member) later
    have handed : ids.filterMap (graph.detach edge.id edge).edge? = ids.filterMap graph.edge? := by
      refine List.filterMap_congr fun id listed => ?_
      simp [detach, edge?, Table.get?_erase, apart id listed]
    refine ⟨rest, ?_, restValid, nodes, ?_⟩
    · have found : graph.edge? edge.id = some edge := valid.edge?_eq_some.mpr ⟨member, rfl⟩
      simp only [removeEdges, removed, ran, handed, List.filterMap_cons, found]
    · rw [edges, detach_edges valid, List.filter_filter]
      refine List.filter_congr fun other _ => ?_
      by_cases same : other.id = edge.id <;> simp [same]

theorem gather_distinct (ids found : List String) (distinct : ids.Nodup) :
    ids.foldl (fun found edge => if found.contains edge then found else found ++ [edge]) found =
      found ++ ids.filter (!found.contains ·) := by
  induction ids generalizing found with
  | nil => simp
  | cons id ids ih =>
    obtain ⟨unlisted, others⟩ := List.nodup_cons.mp distinct
    rw [List.foldl_cons, ih _ others]
    by_cases old : id ∈ found
    · simp [old]
    · have same : ids.filter (!(found ++ [id]).contains ·) = ids.filter (!found.contains ·) := by
        refine List.filter_congr fun other listed => ?_
        have different : other ≠ id := fun equal => unlisted (equal ▸ listed)
        simp [different]
      rw [if_neg (by simpa using old), same]
      simp [old]

-- The edges that touch a node: the incoming ones, then the outgoing ones that are no loops.
def touching (graph : Graph) (id : String) : List Edge :=
  graph.edgesInto id ++ (graph.edgesOutOf id).filter (·.target != id)

theorem mem_touching (valid : graph.WellFormed) :
    edge ∈ graph.touching id ↔ edge ∈ graph.edges ∧ (edge.source = id ∨ edge.target = id) := by
  simp only [touching, List.mem_append, List.mem_filter, valid.mem_edgesInto, valid.mem_edgesOutOf]
  by_cases target : edge.target = id <;> simp [target, and_comm]

theorem incident_eq (valid : graph.WellFormed) (id : String) :
    graph.incident id = (graph.touching id).map Edge.id := by
  rw [incident, List.foldl_append, valid.into, valid.outOf, gather_distinct _ _ (keptIds_nodup valid _),
    gather_distinct _ _ (keptIds_nodup valid _), touching, valid.edgesInto_eq, valid.edgesOutOf_eq, List.map_append]
  simp only [List.contains_nil, Bool.not_false, List.filter_true, List.nil_append]
  congr 1
  rw [List.filter_map]
  congr 1
  refine List.filter_congr fun edge member => ?_
  have there := (List.mem_filter.mp member).1
  have listed : edge.id ∈ (graph.edges.filter (·.target == id)).map Edge.id ↔ edge.target = id := by
    rw [id_listed valid (fun _ => List.mem_of_mem_filter) there, List.mem_filter, beq_iff_eq]
    exact and_iff_right there
  by_cases target : edge.target = id <;> simp [listed, target, -List.mem_map]

theorem touching_distinct (valid : graph.WellFormed) (id : String) :
    ((graph.touching id).map Edge.id).Nodup := by
  rw [touching, valid.edgesInto_eq, valid.edgesOutOf_eq, List.filter_filter, List.map_append]
  refine List.nodup_append.mpr ⟨keptIds_nodup valid _, keptIds_nodup valid _, ?_⟩
  intro key into other outOf equal
  obtain ⟨first, firstMember, rfl⟩ := List.mem_map.mp into
  obtain ⟨second, secondMember, rfl⟩ := List.mem_map.mp outOf
  simp only [List.mem_filter] at firstMember secondMember
  have same := edge_unique valid firstMember.1 secondMember.1 equal
  simp_all

theorem dropNode_wellFormed (valid : graph.WellFormed)
    (bare : ∀ edge ∈ graph.edges, edge.source ≠ id ∧ edge.target ≠ id) : (graph.dropNode id).WellFormed := by
  refine ⟨valid.nodesIndexed.erase id, valid.edgesIndexed, ?_, ?_, ?_, valid.handles⟩
  · intro edge member
    have ends := valid.ends edge member
    have apart := bare edge member
    simp only [nodeIds, dropNode, Table.keys_erase, List.mem_filter]
    exact ⟨⟨ends.1, by simpa using apart.1⟩, ⟨ends.2, by simpa using apart.2⟩⟩
  · intro other
    change (graph.incoming.erase id).list other = (graph.edges.filter (·.target == other)).map Edge.id
    rw [Table.list_erase, ← valid.into]
    split
    · rename_i same
      rw [same, valid.into, List.filter_eq_nil_iff.mpr fun edge member => by simpa using (bare edge member).2]
      rfl
    · rfl
  · intro other
    change (graph.outgoing.erase id).list other = (graph.edges.filter (·.source == other)).map Edge.id
    rw [Table.list_erase, ← valid.outOf]
    split
    · rename_i same
      rw [same, valid.outOf, List.filter_eq_nil_iff.mpr fun edge member => by simpa using (bare edge member).1]
      rfl
    · rfl

-- Where the node exists the edges that touch it are taken out with it, and nothing else is.
theorem removeNode_exact (valid : graph.WellFormed) (found : graph.node? id = some node) :
    ∃ rest : Graph, graph.removeNode id = (rest, .ok (node, graph.touching id)) ∧ rest.WellFormed ∧
      rest.nodes = graph.nodes.filter (·.id != id) ∧
      rest.edges = graph.edges.filter fun edge => edge.source != id && edge.target != id := by
  have within : ∀ edge ∈ graph.touching id, edge ∈ graph.edges := fun edge member => ((mem_touching valid).mp member).1
  have entered : ∀ edge ∈ graph.incident id, edge ∈ graph.edgeTable.keys := by
    intro key listed
    rw [incident_eq valid] at listed
    obtain ⟨edge, member, rfl⟩ := List.mem_map.mp listed
    rw [valid.edgesIndexed.keys_eq]
    exact List.mem_map_of_mem (within edge member)
  have distinct := touching_distinct valid id
  rw [← incident_eq valid] at distinct
  obtain ⟨bare, ran, bareValid, nodes, left⟩ := removeEdges_exact _ distinct valid entered
  have handed : (graph.incident id).filterMap graph.edge? = graph.touching id := by
    rw [incident_eq valid, valid.edges_found within]
  have edges : bare.edges = graph.edges.filter fun edge => edge.source != id && edge.target != id := by
    rw [left, incident_eq valid]
    refine List.filter_congr fun edge member => ?_
    have listed : edge.id ∈ (graph.touching id).map Edge.id ↔ edge.source = id ∨ edge.target = id := by
      rw [id_listed valid within member, mem_touching valid]
      exact and_iff_right member
    by_cases source : edge.source = id <;> by_cases target : edge.target = id <;>
      simp [listed, source, target, -List.mem_map]
  have still : bare.node? id = some node := by rw [node?, nodes, ← node?, found]
  refine ⟨bare.dropNode id, ?_, dropNode_wellFormed bareValid ?_, ?_, edges⟩
  · simp [removeNode, hasNode_of_found found, ran, handed, still]
  · intro edge member
    rw [edges] at member
    simpa using (List.mem_filter.mp member).2
  · rw [← (show bare.nodes = graph.nodes by rw [Graph.nodes, nodes, ← Graph.nodes])]
    exact bareValid.nodesIndexed.items_erase id

theorem removeNode_absent (absent : graph.node? id = none) :
    graph.removeNode id = graph.fail (.nodeNotFound id) := by
  simp [removeNode, hasNode, Table.contains, show graph.nodeTable.get? id = none from absent]

theorem removeNode_wellFormed (valid : graph.WellFormed) (id : String) : (graph.removeNode id).1.WellFormed := by
  cases found : graph.node? id with
  | none =>
    rw [removeNode_absent found]
    exact valid
  | some node =>
    obtain ⟨rest, removed, restValid, _⟩ := removeNode_exact valid found
    rw [removed]
    exact restValid

end Dataflow.Graph
