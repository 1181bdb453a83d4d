import Dataflow.Proofs.Engine.Operation
import Dataflow.Proofs.Snapshot.Restoring

namespace Dataflow

namespace Edge

-- The ids that a connection of the same ends is given, in the order they are tried.
def generatedId (edge : Edge) (n : Nat) : String :=
  Graph.candidate (Graph.connectionId edge.source edge.target edge.targetHandle) n

-- The first id that is free when the edge is read behind others belongs to none of the edges.
def Identifiable (edge : Edge) (before edges : List Edge) : Prop :=
  ∃ n, edge.generatedId n ∉ edges.map Edge.id ∧ ∀ k < n, edge.generatedId k ∈ before.map Edge.id

end Edge

-- Everything that reading the graph's document depends on.
structure Graph.Recoverable (graph : Graph) : Prop where
  literals : ∀ node ∈ graph.nodes, (Kind.ofTypeName node.kind.typeName).isInput → node.value.Storable
  ids : ∀ before edge after, graph.edges = before ++ edge :: after → edge.id = "" → edge.Identifiable before graph.edges

namespace Snapshot
variable {graph start grown : Graph} {node : Node} {value : Value} {edge : Edge} {before after : List Edge}

theorem literal?_ok_iff : (∃ read, literal? value.toJson = .ok read) ↔ value.Storable := by
  cases value with
  | number n => by_cases finite : n.isFinite <;> simp [Value.toJson, finite, literal?, Value.ofJson?, Value.Storable]
  | text s => simp [Value.toJson, literal?, Value.ofJson?, Value.Storable]
  | bool b => simp [Value.toJson, literal?, Value.ofJson?, Value.Storable]
  | list items =>
    have inner := Value.itemsOfJson?_itemsToJson items
    simp only [Value.toJson, literal?, Value.ofJson?, Value.Storable]
    constructor
    · rintro ⟨read, done⟩
      cases found : Value.itemsOfJson? (Value.itemsToJson items) with
      | none => simp [found] at done
      | some all => exact ((inner all).mp found).1
    · intro finite
      simp [(inner items).mpr ⟨finite, rfl⟩]

theorem nodeValue_ok_iff (kind : Kind) :
    (∃ read, nodeValue kind (exportData node) = .ok read) ↔ (kind.isInput → node.value.Storable) := by
  rw [nodeValue, exportData_value]
  by_cases isInput : kind.isInput
  · simp only [isInput, if_true, map_ok, forall_const, ← literal?_ok_iff]
    constructor
    · rintro ⟨_, literal, read, _⟩
      exact ⟨literal, read⟩
    · rintro ⟨literal, read⟩
      exact ⟨_, literal, read, rfl⟩
  · simp [isInput]

theorem configure_unset (kind : Kind) {data : DocumentData} (operator : data.operator = none)
    (listOperation : data.listOperation = none) : ∃ configured, configure kind data = .ok configured := by
  have unset (α : Type) [Spelled α] (default : α) : operation α default none = .ok default := rfl
  cases kind <;> simp [configure, operator, listOperation, unset, Except.map]

theorem configure_exported_ok (node : Node) :
    ∃ kind, configure (.ofTypeName node.kind.typeName) (exportData node) = .ok kind := by
  obtain ⟨id, kind, value, name⟩ := node
  cases kind with
  | text settings => exact ⟨_, map_ok.mpr ⟨_, Legible.reads settings.operation .concat, rfl⟩⟩
  | unknown typeName => exact configure_unset _ rfl rfl
  | _ => exact ⟨_, configure_exported trivial⟩

theorem configure_isInput {kind configured : Kind} {data : DocumentData} (done : configure kind data = .ok configured) :
    configured.isInput = kind.isInput := by
  cases kind with
  | comparison | boolean | text | list =>
    obtain ⟨operation, _, rfl⟩ := map_ok.mp done
    rfl
  | _ =>
    cases done
    rfl

theorem readNode_ok_iff (node : Node) : (∃ read, readNode [] (exportNode node) = .ok read) ↔
    ((Kind.ofTypeName node.kind.typeName).isInput → node.value.Storable) := by
  obtain ⟨kind, configured⟩ := configure_exported_ok node
  rw [← configure_isInput configured, ← nodeValue_ok_iff]
  simp only [readNode_ok]
  constructor
  · rintro ⟨_, other, again, value, read, _⟩
    cases configured.symm.trans again
    exact ⟨value, read⟩
  · rintro ⟨value, read⟩
    exact ⟨_, kind, configured, value, read, rfl⟩

theorem readNodes_iff (nodes : List Node) :
    (∃ read, List.Forall₂ (readNode [] · = .ok ·) (nodes.map exportNode) read) ↔
      ∀ node ∈ nodes, (Kind.ofTypeName node.kind.typeName).isInput → node.value.Storable := by
  induction nodes with
  | nil => exact ⟨fun _ => List.forall_mem_nil _, fun _ => ⟨[], .nil⟩⟩
  | cons node nodes ih =>
    rw [List.forall_mem_cons, ← ih, ← readNode_ok_iff]
    constructor
    · rintro ⟨_, _ | ⟨first, others⟩⟩
      exact ⟨⟨_, first⟩, _, others⟩
    · rintro ⟨⟨read, first⟩, others, rest⟩
      exact ⟨read :: others, .cons first rest⟩

theorem read_ids {nodes read : List Node} (reads : List.Forall₂ (readNode [] · = .ok ·) (nodes.map exportNode) read) :
    read.map Node.id = nodes.map Node.id := by
  rw [List.forall₂_map_left_iff] at reads
  induction reads with
  | nil => rfl
  | cons first _ ih => rw [List.map_cons, List.map_cons, ih, readNode_id first, exportNode]

theorem kept_ids {edges new : List Edge} (kept : List.Forall₂ Kept (edges.map exportEdge) new)
    (named : ∀ edge ∈ edges, edge.id ≠ "") : new.map Edge.id = edges.map Edge.id := by
  rw [List.forall₂_map_left_iff] at kept
  induction kept with
  | nil => rfl
  | @cons edge other edges new kept _ ih =>
    have first : other.id = edge.id := kept.named (named edge List.mem_cons_self)
    rw [List.map_cons, List.map_cons, first, ih fun edge member => named edge (List.mem_cons_of_mem _ member)]

theorem generatedId_ne_empty (edge : Edge) (n : Nat) : edge.generatedId n ≠ "" := by
  obtain ⟨id, source, target, sourceHandle, handle⟩ := edge
  cases handle <;> cases n <;> simp [Edge.generatedId, Graph.candidate, Graph.connectionId]

theorem edgeKeys_eq (valid : graph.WellFormed) : graph.edgeTable.keys = graph.edges.map Edge.id := valid.edgesIndexed.keys_eq

-- No other edge has the empty id.
theorem others_named (valid : graph.WellFormed) (split : graph.edges = before ++ edge :: after) (unnamed : edge.id = "") :
    (∀ other ∈ before, other.id ≠ "") ∧ ∀ other ∈ after, other.id ≠ "" := by
  have distinct := Graph.edgeIds_nodup valid
  rw [split, List.map_append, List.map_cons, List.nodup_append, List.nodup_cons, unnamed] at distinct
  obtain ⟨_, ⟨apart, _⟩, early⟩ := distinct
  refine ⟨fun other member none => ?_, fun other member none => apart (none ▸ List.mem_map_of_mem member)⟩
  exact early _ (List.mem_map_of_mem member) _ List.mem_cons_self none

theorem free_of_read (valid : graph.WellFormed) (startValid : start.WellFormed) (bare : start.edges = [])
    (loaded : (graph.edges.map exportEdge).foldlM addEdge start = .ok grown)
    (split : graph.edges = before ++ edge :: after) (unnamed : edge.id = "") : edge.Identifiable before graph.edges := by
  obtain ⟨earlyNamed, lateNamed⟩ := others_named valid split unnamed
  rw [split, List.map_append, List.map_cons, List.foldlM_append] at loaded
  obtain ⟨middle, earlyLoaded, rest⟩ := bind_ok.mp loaded
  rw [List.foldlM_cons] at rest
  obtain ⟨next, step, lateLoaded⟩ := bind_ok.mp rest
  obtain ⟨early, earlyKept, joined⟩ := addEdges_joined startValid earlyLoaded
  obtain ⟨addable, rfl⟩ := (addEdge_ok joined.valid).mp step
  obtain ⟨late, lateKept, ended⟩ := addEdges_joined (Graph.attach_wellFormed joined.valid addable) lateLoaded
  have earlyIds : middle.edgeTable.keys = before.map Edge.id := by
    rw [edgeKeys_eq joined.valid, joined.edges, bare, List.nil_append, kept_ids earlyKept earlyNamed]
  obtain ⟨n, _, first, free, tried⟩ := middle.freshFrom_first (Graph.connectionId edge.source edge.target edge.targetHandle) 0
  have given : (entered middle (exportEdge edge)).id = edge.generatedId n := by
    rw [entered_unnamed unnamed]
    exact first
  have distinct := Graph.edgeIds_nodup ended.valid
  rw [ended.edges, Graph.attach_edges addable.fresh, List.append_assoc, List.singleton_append, List.map_append,
    List.map_cons, List.nodup_append, List.nodup_cons, given, kept_ids lateKept lateNamed] at distinct
  refine ⟨n, fun used => ?_, fun k below => ?_⟩
  · rw [split, List.map_append, List.map_cons, List.mem_append, List.mem_cons, unnamed] at used
    rcases used with inEarly | itself | inLate
    · rw [← earlyIds, Edge.generatedId, ← Graph.hasEdge_iff, free] at inEarly
      cases inEarly
    · exact generatedId_ne_empty edge n itself
    · exact distinct.2.1.1 inLate
  · rw [← earlyIds, Edge.generatedId, ← Graph.hasEdge_iff]
    exact tried k (Nat.zero_le k) below

-- The id that a connection is given is the first that is free.
theorem connection_id {n : Nat} (free : edge.generatedId n ∉ graph.edgeTable.keys)
    (tried : ∀ k < n, edge.generatedId k ∈ graph.edgeTable.keys) :
    (graph.connection edge.source edge.target edge.targetHandle).id = edge.generatedId n := by
  obtain ⟨m, _, first, vacant, before⟩ :=
    graph.freshFrom_first (Graph.connectionId edge.source edge.target edge.targetHandle) 0
  rcases Nat.lt_trichotomy m n with less | same | greater
  · cases vacant.symm.trans (Graph.hasEdge_iff.mpr (tried m less))
  · exact same ▸ first
  · exact absurd (Graph.hasEdge_iff.mp (before n (Nat.zero_le n) greater)) free

-- One edge may stand for another that has the same end, and an id that is free.

theorem Unshared.exchange {other : Edge} (apart : Unshared (before ++ edge :: after)) (target : other.target = edge.target)
    (handle : other.targetHandle = edge.targetHandle) : Unshared (before ++ other :: after) := by
  simp only [Unshared, List.pairwise_append, List.pairwise_cons, List.forall_mem_cons, target, handle] at apart ⊢
  exact apart

theorem distinct_exchange {other : Edge} (distinct : ((before ++ edge :: after).map Edge.id).Nodup)
    (unused : other.id ∉ (before ++ edge :: after).map Edge.id) : ((before ++ other :: after).map Edge.id).Nodup := by
  simp only [List.map_append, List.map_cons, List.mem_append, List.mem_cons, not_or] at unused
  rw [List.map_append, List.map_cons, List.nodup_append, List.nodup_cons] at distinct ⊢
  refine ⟨distinct.1, ⟨unused.2.2, distinct.2.1.2⟩, fun id first other second same => ?_⟩
  rcases List.mem_cons.mp second with new | old
  · exact unused.1 (new ▸ same ▸ first)
  · exact distinct.2.2 id first other (List.mem_cons_of_mem _ old) same

-- The edges before it, the connection it becomes, and the edges behind it.
theorem addEdges_around {early late : Graph} (earlyLoaded : (before.map exportEdge).foldlM addEdge start = .ok early)
    (valid : early.WellFormed) (unnamed : edge.id = "")
    (addable : early.Addable (early.connection edge.source edge.target edge.targetHandle))
    (lateLoaded : (after.map exportEdge).foldlM addEdge
      (early.attach (early.connection edge.source edge.target edge.targetHandle)) = .ok late) :
    ((before ++ edge :: after).map exportEdge).foldlM addEdge start = .ok late := by
  have becomes := @entered_unnamed early (exportEdge edge) unnamed
  rw [List.map_append, List.map_cons, List.foldlM_append]
  refine bind_ok.mpr ⟨early, earlyLoaded, ?_⟩
  rw [List.foldlM_cons]
  exact bind_ok.mpr ⟨_, (addEdge_ok valid).mpr ⟨becomes.symm ▸ addable, rfl⟩, becomes.symm ▸ lateLoaded⟩

theorem read_of_free (valid : graph.WellFormed) (startValid : start.WellFormed) (bare : start.edges = [])
    (ids : start.nodeIds = graph.nodeIds)
    (free : ∀ before edge after, graph.edges = before ++ edge :: after → edge.id = "" →
      edge.Identifiable before graph.edges) :
    ∃ grown, (graph.edges.map exportEdge).foldlM addEdge start = .ok grown := by
  have distinct := Graph.edgeIds_nodup valid
  have apart := unshared valid
  have ends := valid.ends
  by_cases named : ∀ edge ∈ graph.edges, edge.id ≠ ""
  · obtain ⟨grown, loaded, _⟩ := addEdges_succeed startValid named (ids.symm ▸ ends) (by rwa [bare]) (by rwa [bare])
    exact ⟨grown, loaded⟩
  push Not at named
  obtain ⟨edge, member, unnamed⟩ := named
  obtain ⟨before, after, split⟩ := List.append_of_mem member
  obtain ⟨earlyNamed, lateNamed⟩ := others_named valid split unnamed
  obtain ⟨n, unused, tried⟩ := free before edge after split unnamed
  rw [split] at distinct apart unused ends ⊢
  have earlyDistinct : (before.map Edge.id).Nodup := by
    rw [List.map_append] at distinct
    exact (List.nodup_append.mp distinct).1
  obtain ⟨early, earlyLoaded, joined⟩ := addEdges_succeed startValid earlyNamed
    (fun other member => ids.symm ▸ ends other (List.mem_append_left _ member))
    (by rwa [bare]) (by rw [bare]; exact (List.pairwise_append.mp apart).1)
  have earlyEdges : early.edges = before := by rw [joined.edges, bare, List.nil_append]
  have sameIds : early.nodeIds = graph.nodeIds := (congrArg Table.keys joined.nodeTable).trans ids
  have keys : early.edgeTable.keys = before.map Edge.id := by rw [edgeKeys_eq joined.valid, earlyEdges]
  have given : (early.connection edge.source edge.target edge.targetHandle).id = edge.generatedId n := connection_id
    (fun used => unused (by rw [List.map_append]; exact List.mem_append_left _ (keys ▸ used))) (by rwa [keys])
  have addable : early.Addable (early.connection edge.source edge.target edge.targetHandle) := by
    have there := ends edge (List.mem_append_right _ List.mem_cons_self)
    refine ⟨early.connection_fresh _ _ _, sameIds.symm ▸ there.1, sameIds.symm ▸ there.2, ?_⟩
    rw [earlyEdges]
    exact fun other member => (List.pairwise_append.mp apart).2.2 other member edge List.mem_cons_self
  have all : (early.attach (early.connection edge.source edge.target edge.targetHandle)).edges ++ after =
      before ++ early.connection edge.source edge.target edge.targetHandle :: after := by
    rw [Graph.attach_edges addable.fresh, earlyEdges, List.append_assoc, List.singleton_append]
  obtain ⟨late, lateLoaded, _⟩ := addEdges_succeed (Graph.attach_wellFormed joined.valid addable) lateNamed
    (fun other member => sameIds.symm ▸ ends other (List.mem_append_right _ (List.mem_cons_of_mem _ member)))
    (by rw [all]; exact distinct_exchange distinct (given ▸ unused)) (by rw [all]; exact apart.exchange rfl rfl)
  exact ⟨late, addEdges_around earlyLoaded joined.valid unnamed addable lateLoaded⟩

theorem ofDocument_ok_iff (valid : graph.WellFormed) :
    (∃ read, ofDocument [] (toDocument graph) = .ok read) ↔ graph.Recoverable := by
  constructor
  · rintro ⟨read, accepted⟩
    obtain ⟨start, nodesLoaded, edgesLoaded⟩ := bind_ok.mp accepted
    obtain ⟨nodes, reads, startValid, _, edgeTable⟩ := addNodes_peopled Graph.empty_wellFormed nodesLoaded
    exact ⟨(readNodes_iff _).mp ⟨nodes, reads⟩, fun before edge after =>
      free_of_read valid startValid (congrArg Table.items edgeTable) edgesLoaded⟩
  · rintro ⟨literals, free⟩
    obtain ⟨nodes, reads⟩ := (readNodes_iff _).mpr literals
    have ids : nodes.map Node.id = graph.nodeIds := (read_ids reads).trans (nodeIds_eq valid).symm
    obtain ⟨start, nodesLoaded, startValid, startNodes, edgeTable⟩ :=
      addNodes_succeed Graph.empty_wellFormed reads (ids ▸ valid.nodesIndexed.distinct)
    have startIds : start.nodeIds = graph.nodeIds := by
      rw [nodeIds_eq startValid, startNodes]
      exact ids
    obtain ⟨read, edgesLoaded⟩ := read_of_free valid startValid (congrArg Table.items edgeTable) startIds free
    exact ⟨read, bind_ok.mpr ⟨start, nodesLoaded, edgesLoaded⟩⟩

end Snapshot

namespace Engine

def run? (engine : Engine) (ops : List Operation) : Option Engine :=
  ops.foldlM (fun engine op => match op.apply engine with
    | (next, .ok _) => some next
    | (_, .error _) => none) engine

theorem run?_built {engine next : Engine} {ops : List Operation} (built : engine.graph.Built)
    (ran : engine.run? ops = some next) : next.graph.Built := by
  induction ops generalizing engine with
  | nil =>
    cases ran
    exact built
  | cons op ops ih =>
    have stepped := apply_built built op
    rw [run?, List.foldlM_cons] at ran
    cases outcome : op.apply engine with
    | mk middle result =>
      rw [outcome] at stepped ran
      cases result with
      | error fault => cases ran
      | ok changes => exact ih stepped ran

theorem exports_read_exactly {engine : Engine} {ops : List Operation} (ran : Engine.empty.run? ops = some engine) :
    (∃ read, Snapshot.ofDocument [] (Snapshot.toDocument engine.graph) = .ok read) ↔ engine.graph.Recoverable :=
  Snapshot.ofDocument_ok_iff (@run?_built Engine.empty _ _ ⟨[], rfl⟩ ran).wellFormed

-- An edge whose id is empty, behind one that has the first id it could be given.
def crossing : List Operation := [.insertNode (.ofKind "a" .display), .insertNode (.ofKind "b" .addition),
  .insertNode ⟨"n", .input .number, .number Decimal.notANumber, none⟩, .connect "a" "b" none,
  .insertEdge ⟨"", "a", "b", none, none⟩, .connect "n" "b" none]

theorem crossing_readable : ∃ engine, Engine.empty.run? crossing = some engine ∧
    (∃ read, Snapshot.ofDocument [] (Snapshot.toDocument engine.graph) = .ok read) ∧ engine.graph.Recoverable := by
  have read : (Engine.empty.run? crossing).map (fun engine =>
      (Snapshot.ofDocument [] (Snapshot.toDocument engine.graph)).isOk) = some true := by decide +kernel
  obtain ⟨engine, ran, accepted⟩ := Option.map_eq_some_iff.mp read
  have accepted : ∃ read, Snapshot.ofDocument [] (Snapshot.toDocument engine.graph) = .ok read := by
    cases done : Snapshot.ofDocument [] (Snapshot.toDocument engine.graph) with
    | error fault => rw [done] at accepted; cases accepted
    | ok graph => exact ⟨graph, rfl⟩
  exact ⟨engine, ran, accepted, (exports_read_exactly ran).mp accepted⟩

-- A list that holds NaN, and two edges that are told apart by ids of which the first is empty and the second the
-- one that an edge without an id is given.
def blurred : List Operation := [.insertNode ⟨"list", .input .list, .list [.number Decimal.notANumber], none⟩]

def doubled : List Operation := [.insertNode (.ofKind "a" .display), .insertNode (.ofKind "b" .display),
  .insertEdge ⟨"", "a", "b", none, none⟩, .insertEdge ⟨"a->b", "a", "b", none, none⟩]

theorem exports_refused :
    (∃ engine, Engine.empty.run? blurred = some engine ∧
      ¬∃ read, Snapshot.ofDocument [] (Snapshot.toDocument engine.graph) = .ok read) ∧
    ∃ engine, Engine.empty.run? doubled = some engine ∧
      ¬∃ read, Snapshot.ofDocument [] (Snapshot.toDocument engine.graph) = .ok read := by
  have refused {ops : List Operation} (run : (Engine.empty.run? ops).map (fun engine =>
      (Snapshot.ofDocument [] (Snapshot.toDocument engine.graph)).isOk) = some false) :
      ∃ engine, Engine.empty.run? ops = some engine ∧
        ¬∃ read, Snapshot.ofDocument [] (Snapshot.toDocument engine.graph) = .ok read := by
    obtain ⟨engine, ran, failed⟩ := Option.map_eq_some_iff.mp run
    refine ⟨engine, ran, fun ⟨read, accepted⟩ => ?_⟩
    rw [accepted] at failed
    cases failed
  exact ⟨refused (by decide +kernel), refused (by decide +kernel)⟩

end Engine
end Dataflow
