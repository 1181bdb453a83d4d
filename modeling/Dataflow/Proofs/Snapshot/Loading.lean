import Dataflow.Proofs.Graph.History
import Dataflow.Snapshot.Export
import Dataflow.Snapshot.Read

namespace Dataflow.Snapshot
open Dataflow.Graph (addNode_edgeTable addNode_nodes candidate connectionId)

theorem bind_ok {x : Except ε α} {next : α → Except ε β} {b : β} :
    x >>= next = .ok b ↔ ∃ a, x = .ok a ∧ next a = .ok b := by
  cases x <;> simp [bind, Except.bind]

theorem map_ok {x : Except ε α} {f : α → β} {b : β} : x.map f = .ok b ↔ ∃ a, x = .ok a ∧ f a = b := by
  cases x <;> simp [Except.map]

theorem toOption_ok {x : Except ε α} {a : α} : x.toOption = some a ↔ x = .ok a := by
  cases x <;> simp [Except.toOption]

variable {aliases : Aliases} {document : Document} {graph grown : Graph} {given : DocumentEdge} {node : Node}
variable {nodes : List DocumentNode} {added : List Node} {edges : List DocumentEdge}

theorem readNode_ok {given : DocumentNode} : readNode aliases given = .ok node ↔
    ∃ kind, configure (.ofTypeName (resolve aliases given.typeName)) given.data = .ok kind ∧
      ∃ value, nodeValue kind given.data = .ok value ∧
        ⟨given.id, kind, value, given.data.name.filter fun name => !Text.isAllBlank name⟩ = node := by
  simp only [readNode, bind_ok, pure, Except.pure, Except.ok.injEq]

theorem readNode_id {given : DocumentNode} (read : readNode aliases given = .ok node) : node.id = given.id := by
  obtain ⟨_, _, _, _, rfl⟩ := readNode_ok.mp read
  rfl

theorem addNode_ok {given : DocumentNode} : addNode aliases graph given = .ok grown ↔
    ∃ node, readNode aliases given = .ok node ∧ node.id ∉ graph.nodeIds ∧ grown = (graph.addNode node).1 := by
  cases read : readNode aliases given with
  | error fault => simp [addNode, read]
  | ok node =>
    rcases graph.addNode_cases node with ⟨taken, refused⟩ | ⟨fresh, entered⟩
    · simp [addNode, read, refused, Graph.fail, taken]
    · simp [addNode, read, entered, fresh, eq_comm]

structure Peopled (graph grown : Graph) (added : List Node) : Prop where
  valid : grown.WellFormed
  nodes : grown.nodes = graph.nodes ++ added
  edgeTable : grown.edgeTable = graph.edgeTable

theorem Peopled.cons (fresh : node.id ∉ graph.nodeIds) (peopled : Peopled (graph.addNode node).1 grown added) :
    Peopled graph grown (node :: added) := by
  refine ⟨peopled.valid, ?_, peopled.edgeTable.trans (addNode_edgeTable graph node)⟩
  rw [peopled.nodes, addNode_nodes fresh, List.append_assoc, List.singleton_append]

theorem addNodes_peopled (valid : graph.WellFormed) (loaded : nodes.foldlM (addNode aliases) graph = .ok grown) :
    ∃ added, List.Forall₂ (readNode aliases · = .ok ·) nodes added ∧ Peopled graph grown added := by
  induction nodes generalizing graph with
  | nil =>
    cases loaded
    exact ⟨[], .nil, valid, by simp, rfl⟩
  | cons given nodes ih =>
    rw [List.foldlM_cons] at loaded
    obtain ⟨next, step, later⟩ := bind_ok.mp loaded
    obtain ⟨node, read, fresh, rfl⟩ := addNode_ok.mp step
    obtain ⟨added, reads, peopled⟩ := ih (Graph.addNode_wellFormed valid node) later
    exact ⟨node :: added, .cons read reads, peopled.cons fresh⟩

theorem nodeIds_eq (valid : graph.WellFormed) : graph.nodeIds = graph.nodes.map Node.id := valid.nodesIndexed.keys_eq

theorem addNodes_succeed (valid : graph.WellFormed) (reads : List.Forall₂ (readNode aliases · = .ok ·) nodes added)
    (distinct : ((graph.nodes ++ added).map Node.id).Nodup) :
    ∃ grown, nodes.foldlM (addNode aliases) graph = .ok grown ∧ Peopled graph grown added := by
  induction reads generalizing graph with
  | nil => exact ⟨graph, rfl, valid, by simp, rfl⟩
  | @cons given node nodes added read reads ih =>
    have fresh : node.id ∉ graph.nodeIds := by
      rw [nodeIds_eq valid]
      rw [List.map_append, List.nodup_append] at distinct
      exact fun there => distinct.2.2 _ there _ List.mem_cons_self rfl
    rw [← List.singleton_append, ← List.append_assoc, ← addNode_nodes fresh] at distinct
    obtain ⟨grown, loaded, peopled⟩ := ih (Graph.addNode_wellFormed valid node) distinct
    refine ⟨grown, ?_, peopled.cons fresh⟩
    rw [List.foldlM_cons]
    exact bind_ok.mpr ⟨_, addNode_ok.mpr ⟨node, read, fresh, rfl⟩, loaded⟩

-- The edge that is added for one of a document.
def entered (graph : Graph) (given : DocumentEdge) : Edge :=
  if given.id.isEmpty then graph.connection given.source given.target given.targetHandle
  else ⟨given.id, given.source, given.target, given.sourceHandle, given.targetHandle⟩

theorem entered_unnamed (unnamed : given.id = "") :
    entered graph given = graph.connection given.source given.target given.targetHandle := by
  rw [entered, unnamed]
  rfl

theorem entered_named (named : given.id ≠ "") :
    entered graph given = ⟨given.id, given.source, given.target, given.sourceHandle, given.targetHandle⟩ := by
  rw [entered, if_neg (by simpa using named)]

theorem addEdge_cases (valid : graph.WellFormed) (given : DocumentEdge) :
    (¬graph.Addable (entered graph given) ∧ ∃ fault, addEdge graph given = .error (.graph fault)) ∨
    (graph.Addable (entered graph given) ∧ addEdge graph given = .ok (graph.attach (entered graph given))) := by
  by_cases unnamed : given.id = ""
  · rw [entered_unnamed unnamed]
    rcases Graph.connect_cases valid given.source given.target given.targetHandle with
      ⟨refused, fault, failed⟩ | ⟨addable, connected⟩
    · refine .inl ⟨refused, fault, ?_⟩
      simp [addEdge, unnamed, failed, Graph.fail, Except.map]
    · refine .inr ⟨addable, ?_⟩
      simp [addEdge, unnamed, connected, Except.map]
  · rw [entered_named unnamed]
    rcases Graph.addEdge_cases valid ⟨given.id, given.source, given.target, given.sourceHandle, given.targetHandle⟩ with
      ⟨refused, fault, failed⟩ | ⟨addable, added⟩
    · refine .inl ⟨refused, fault, ?_⟩
      simp [addEdge, unnamed, failed, Graph.fail]
    · refine .inr ⟨addable, ?_⟩
      simp [addEdge, unnamed, added]

theorem addEdge_ok (valid : graph.WellFormed) :
    addEdge graph given = .ok grown ↔ graph.Addable (entered graph given) ∧ grown = graph.attach (entered graph given) := by
  rcases addEdge_cases valid given with ⟨refused, fault, failed⟩ | ⟨addable, added⟩
  · simp [failed, refused]
  · simp [added, addable, eq_comm]

-- What an edge of a document turns into.
structure Kept (given : DocumentEdge) (edge : Edge) : Prop where
  source : edge.source = given.source
  target : edge.target = given.target
  targetHandle : edge.targetHandle = given.targetHandle
  named : given.id ≠ "" → edge.id = given.id
  unnamed : given.id = "" → ∃ n, edge.id = candidate (connectionId given.source given.target given.targetHandle) n
  sourceHandle : edge.sourceHandle = if given.id = "" then none else given.sourceHandle

theorem entered_kept (graph : Graph) (given : DocumentEdge) : Kept given (entered graph given) := by
  by_cases unnamed : given.id = ""
  · rw [entered_unnamed unnamed]
    obtain ⟨n, _, first, _⟩ := graph.freshFrom_first (connectionId given.source given.target given.targetHandle) 0
    exact ⟨rfl, rfl, rfl, fun named => absurd unnamed named, fun _ => ⟨n, first⟩, (if_pos unnamed).symm⟩
  · rw [entered_named unnamed]
    exact ⟨rfl, rfl, rfl, fun _ => rfl, fun none => absurd none unnamed, (if_neg unnamed).symm⟩

structure Joined (graph grown : Graph) (new : List Edge) : Prop where
  valid : grown.WellFormed
  edges : grown.edges = graph.edges ++ new
  nodeTable : grown.nodeTable = graph.nodeTable

theorem Joined.cons {edge : Edge} (addable : graph.Addable edge) {new : List Edge}
    (joined : Joined (graph.attach edge) grown new) : Joined graph grown (edge :: new) := by
  refine ⟨joined.valid, ?_, joined.nodeTable⟩
  rw [joined.edges, Graph.attach_edges addable.fresh, List.append_assoc, List.singleton_append]

theorem addEdges_joined (valid : graph.WellFormed) (loaded : edges.foldlM addEdge graph = .ok grown) :
    ∃ new, List.Forall₂ Kept edges new ∧ Joined graph grown new := by
  induction edges generalizing graph with
  | nil =>
    cases loaded
    exact ⟨[], .nil, valid, by simp, rfl⟩
  | cons given edges ih =>
    rw [List.foldlM_cons] at loaded
    obtain ⟨next, step, later⟩ := bind_ok.mp loaded
    obtain ⟨addable, rfl⟩ := (addEdge_ok valid).mp step
    obtain ⟨new, kept, joined⟩ := ih (Graph.attach_wellFormed valid addable) later
    exact ⟨entered graph given :: new, .cons (entered_kept graph given) kept, joined.cons addable⟩

-- No two of the edges share a labelled input.
def Unshared (edges : List Edge) : Prop := edges.Pairwise fun first second =>
  first.target = second.target → first.targetHandle = second.targetHandle → second.targetHandle = none

theorem unshared (valid : graph.WellFormed) : Unshared graph.edges := by
  have apart : graph.edges.Pairwise fun first second => first.id ≠ second.id :=
    List.pairwise_map.mp (Graph.edgeIds_nodup valid)
  refine apart.imp_of_mem fun {first second} there too different target handle => ?_
  by_contra labelled
  have same := valid.handles first there second too target handle (handle ▸ labelled)
  exact different (congrArg Edge.id same)

-- Edges with ids of their own are all added where there is room for them.
theorem addEdges_succeed {new : List Edge} (valid : graph.WellFormed) (named : ∀ edge ∈ new, edge.id ≠ "")
    (ends : ∀ edge ∈ new, edge.source ∈ graph.nodeIds ∧ edge.target ∈ graph.nodeIds)
    (distinct : ((graph.edges ++ new).map Edge.id).Nodup) (apart : Unshared (graph.edges ++ new)) :
    ∃ grown, (new.map exportEdge).foldlM addEdge graph = .ok grown ∧ Joined graph grown new := by
  induction new generalizing graph with
  | nil => exact ⟨graph, rfl, valid, by simp, rfl⟩
  | cons edge new ih =>
    have itself : entered graph (exportEdge edge) = edge := entered_named (named edge List.mem_cons_self)
    have addable : graph.Addable edge := by
      refine ⟨?_, (ends edge List.mem_cons_self).1, (ends edge List.mem_cons_self).2, ?_⟩
      · rw [valid.edgesIndexed.keys_eq]
        rw [List.map_append, List.nodup_append] at distinct
        exact fun there => distinct.2.2 _ there _ List.mem_cons_self rfl
      · intro other there target handle
        exact (List.pairwise_append.mp apart).2.2 other there edge List.mem_cons_self target handle
    have grew := Graph.attach_edges addable.fresh
    rw [← List.singleton_append, ← List.append_assoc, ← grew] at distinct apart
    obtain ⟨grown, loaded, joined⟩ := ih (Graph.attach_wellFormed valid addable)
      (fun other member => named other (List.mem_cons_of_mem _ member))
      (fun other member => ends other (List.mem_cons_of_mem _ member)) distinct apart
    refine ⟨grown, ?_, joined.cons addable⟩
    rw [List.map_cons, List.foldlM_cons]
    exact bind_ok.mpr ⟨_, (addEdge_ok valid).mpr ⟨itself.symm ▸ addable, rfl⟩, itself.symm ▸ loaded⟩

theorem ofDocument_ok (accepted : ofDocument aliases document = .ok graph) : graph.WellFormed ∧
    List.Forall₂ (readNode aliases · = .ok ·) document.nodes graph.nodes ∧
      List.Forall₂ Kept document.edges graph.edges := by
  obtain ⟨peopled, nodesLoaded, edgesLoaded⟩ := bind_ok.mp accepted
  obtain ⟨nodes, reads, valid, nodesEq, edgeTable⟩ := addNodes_peopled Graph.empty_wellFormed nodesLoaded
  obtain ⟨edges, kept, grownValid, edgesEq, nodeTable⟩ := addEdges_joined valid edgesLoaded
  have noEdges : peopled.edges = [] := congrArg Table.items edgeTable
  have sameNodes : graph.nodes = peopled.nodes := congrArg Table.items nodeTable
  rw [sameNodes, nodesEq, edgesEq, noEdges]
  exact ⟨grownValid, reads, kept⟩

-- A graph that is read is one that the store can build.

theorem addNode_built {given : DocumentNode} (built : graph.Built) (loaded : addNode aliases graph given = .ok grown) :
    grown.Built := by
  obtain ⟨node, _, _, rfl⟩ := addNode_ok.mp loaded
  exact built.edited (.addNode node)

theorem addEdge_built (built : graph.Built) (loaded : addEdge graph given = .ok grown) : grown.Built := by
  by_cases unnamed : given.id.isEmpty
  · rw [addEdge, if_pos unnamed] at loaded
    dsimp only at loaded
    split at loaded
    · cases loaded
    · cases loaded
      exact built.edited (.connect given.source given.target given.targetHandle)
  · rw [addEdge, if_neg unnamed] at loaded
    dsimp only at loaded
    split at loaded
    · cases loaded
    · cases loaded
      exact built.edited (.addEdge _)

theorem foldlM_built {item : Type} {step : Graph → item → Except SnapshotError Graph} {items : List item}
    (kept : ∀ {graph item grown}, graph.Built → step graph item = .ok grown → grown.Built) (built : graph.Built)
    (loaded : items.foldlM step graph = .ok grown) : grown.Built := by
  induction items generalizing graph with
  | nil =>
    cases loaded
    exact built
  | cons item items ih =>
    rw [List.foldlM_cons] at loaded
    obtain ⟨next, first, later⟩ := bind_ok.mp loaded
    exact ih (kept built first) later

theorem ofDocument_built (accepted : ofDocument aliases document = .ok graph) : graph.Built := by
  obtain ⟨peopled, nodesLoaded, edgesLoaded⟩ := bind_ok.mp accepted
  exact foldlM_built addEdge_built (foldlM_built addNode_built ⟨[], rfl⟩ nodesLoaded) edgesLoaded

-- An edge that has lost nothing.
structure Whole (given : DocumentEdge) (edge : Edge) : Prop where
  source : edge.source = given.source
  target : edge.target = given.target
  sourceHandle : edge.sourceHandle = given.sourceHandle
  targetHandle : edge.targetHandle = given.targetHandle
  named : given.id ≠ "" → edge.id = given.id

theorem Kept.whole_iff {edge : Edge} (kept : Kept given edge) :
    Whole given edge ↔ (given.id = "" → given.sourceHandle = none) := by
  have handle := kept.sourceHandle
  constructor
  · intro whole unnamed
    rw [if_pos unnamed] at handle
    exact whole.sourceHandle.symm.trans handle
  · intro bare
    refine ⟨kept.source, kept.target, ?_, kept.targetHandle, kept.named⟩
    rw [handle]
    split
    · rename_i unnamed
      exact (bare unnamed).symm
    · rfl

theorem whole_iff {kept : List Edge} (all : List.Forall₂ Kept edges kept) :
    List.Forall₂ Whole edges kept ↔ ∀ given ∈ edges, given.id = "" → given.sourceHandle = none := by
  induction all with
  | nil => exact ⟨fun _ => List.forall_mem_nil _, fun _ => .nil⟩
  | cons first _ ih => rw [List.forall₂_cons, List.forall_mem_cons, first.whole_iff, ih]

-- One edge of the graph for each of the document, in order. They have lost nothing exactly if no edge without an
-- id came with a source handle.
theorem edges_kept_exactly (accepted : ofDocument aliases document = .ok graph) :
    List.Forall₂ Kept document.edges graph.edges ∧
      (List.Forall₂ Whole document.edges graph.edges ↔
        ∀ given ∈ document.edges, given.id = "" → given.sourceHandle = none) := by
  have kept := (ofDocument_ok accepted).2.2
  exact ⟨kept, whole_iff kept⟩

-- Three edges, of which the second has no id although it names the output it starts from.
def outlets : Document where
  nodes := [{ id := "a", typeName := "display" }, { id := "b", typeName := "addition" }]
  edges := [{ id := "a->b", source := "a", target := "b", sourceHandle := some "first" },
    { source := "a", target := "b", sourceHandle := some "second" }, { source := "a", target := "b", targetHandle := some "in" }]

theorem outlets_read : ∃ graph, ofDocument [] outlets = .ok graph ∧
    graph.edges = [⟨"a->b", "a", "b", some "first", none⟩, ⟨"a->b#2", "a", "b", none, none⟩,
      ⟨"a->b:in", "a", "b", none, some "in"⟩] := by
  have edges : (ofDocument [] outlets).toOption.map Graph.edges = some [⟨"a->b", "a", "b", some "first", none⟩,
      ⟨"a->b#2", "a", "b", none, none⟩, ⟨"a->b:in", "a", "b", none, some "in"⟩] := by decide +kernel
  obtain ⟨graph, accepted, edges⟩ := Option.map_eq_some_iff.mp edges
  exact ⟨graph, toOption_ok.mp accepted, edges⟩

theorem outlets_kept : ∃ graph, ofDocument [] outlets = .ok graph ∧ List.Forall₂ Kept outlets.edges graph.edges ∧
    (List.Forall₂ Whole outlets.edges graph.edges ↔
      ∀ given ∈ outlets.edges, given.id = "" → given.sourceHandle = none) := by
  obtain ⟨graph, accepted, _⟩ := outlets_read
  exact ⟨graph, accepted, edges_kept_exactly accepted⟩

theorem outlet_lost : ∃ graph, ofDocument [] outlets = .ok graph ∧ ¬List.Forall₂ Whole outlets.edges graph.edges := by
  obtain ⟨graph, accepted, edges⟩ := outlets_read
  refine ⟨graph, accepted, fun whole => ?_⟩
  rw [edges] at whole
  obtain _ | ⟨_, _ | ⟨second, _⟩⟩ := whole
  cases second.sourceHandle

end Dataflow.Snapshot
