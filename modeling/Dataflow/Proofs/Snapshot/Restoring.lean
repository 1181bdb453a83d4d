import Dataflow.Proofs.Snapshot.Loading
import Dataflow.Proofs.Value.Json

namespace Dataflow

-- A kind that its type name and its settings stand for: bounds are words, and the type name of a kind that is
-- unknown here is no other's.
def Kind.Recorded : Kind → Prop
  | text settings => Text.InWord settings.start ∧ ∀ stop ∈ settings.stop, Text.InWord stop
  | unknown name => ofTypeName name = unknown name
  | _ => True

instance : DecidablePred Kind.Recorded
  | .text _ => inferInstanceAs (Decidable (_ ∧ _))
  | .unknown _ => inferInstanceAs (Decidable (_ = _))
  | .input _ | .addition | .subtraction | .multiplication | .division | .comparison _ | .boolean _ | .list _ | .ifElse
  | .display => .isTrue trivial

-- A literal that can be read back at all. A number alone may be infinite or NaN, as it then counts as not set.
def Value.Storable : Value → Prop
  | list items => FiniteIn items
  | _ => True

namespace Node

structure Restorable (node : Node) : Prop where
  named : ∀ name ∈ node.name, Text.isAllBlank name = false
  kind : node.kind.Recorded
  shape : node.kind.isInput → node.value.shape = node.kind.outputShape
  finite : node.kind.isInput → node.value.Finite

instance : DecidablePred Restorable := fun node =>
  decidable_of_iff ((∀ name ∈ node.name, Text.isAllBlank name = false) ∧ node.kind.Recorded ∧
      (node.kind.isInput → node.value.shape = node.kind.outputShape) ∧ (node.kind.isInput → node.value.Finite))
    ⟨fun ⟨named, kind, shape, finite⟩ => ⟨named, kind, shape, finite⟩,
      fun ⟨named, kind, shape, finite⟩ => ⟨named, kind, shape, finite⟩⟩

-- What a node is when it has been written and read, before anything is computed.
def restored (node : Node) : Node :=
  { node with value := if node.kind.isInput then node.value else node.kind.defaultValue }

end Node

namespace Snapshot

variable {graph : Graph} {node : Node} {value : Value}

theorem exportData_value (node : Node) : (exportData node).value = some node.value.toJson := by
  obtain ⟨id, kind, value, name⟩ := node
  cases kind <;> rfl

theorem exportData_name (node : Node) : (exportData node).name = node.name := by
  obtain ⟨id, kind, value, name⟩ := node
  cases kind <;> rfl

theorem index?_word {n : Int} (word : Text.InWord n) : index? (.integer n) = some n := by
  rw [index?, Int.min_eq_left word.2]

-- An operation is read back from its spelling.
class Legible (α : Type) [Spelled α] : Prop where
  reads : ∀ op default : α, operation α default (some (Spelled.spelling op)) = .ok op

instance : Legible Comparison := ⟨fun op default => by cases op <;> rfl⟩

instance : Legible Connective := ⟨fun op default => by cases op <;> rfl⟩

instance : Legible TextOperation := ⟨fun op default => by cases op <;> rfl⟩

instance : Legible ListOperation := ⟨fun op default => by cases op <;> rfl⟩

theorem configure_exported (recorded : node.kind.Recorded) :
    configure (.ofTypeName node.kind.typeName) (exportData node) = .ok node.kind := by
  obtain ⟨id, kind, value, name⟩ := node
  cases kind with
  | input shape => cases shape <;> rfl
  | comparison op =>
    simp [exportData, Kind.typeName, Kind.ofTypeName, configure, Legible.reads, Except.map]
  | boolean op =>
    simp [exportData, Kind.typeName, Kind.ofTypeName, configure, Legible.reads, Except.map]
  | text settings =>
    have bound : (settings.stop.map Json.integer).bind index? = settings.stop := by
      cases stop : settings.stop with
      | none => rfl
      | some n => exact index?_word (recorded.2 n stop)
    simp [exportData, Kind.typeName, Kind.ofTypeName, configure, Legible.reads, Except.map, textSettings,
      index?_word recorded.1, bound]
  | list settings =>
    simp [exportData, Kind.typeName, Kind.ofTypeName, configure, Legible.reads, Except.map, listSettings, pushedText]
  | unknown typeName =>
    have plain : Kind.ofTypeName typeName = .unknown typeName := recorded
    simp [Kind.typeName, plain, configure]
  | _ => rfl

theorem literal?_toJson (finite : value.Finite) : literal? value.toJson = .ok (some value) := by
  have read : Value.ofJson? value.toJson = some value := (Value.ofJson?_toJson _ _).mpr ⟨finite, rfl⟩
  cases value with
  | number n =>
    have itself : (Value.number n).toJson = .float n := if_pos finite
    rw [itself]
    rfl
  | text s => rfl
  | bool b => rfl
  | list items =>
    rw [Value.toJson] at read ⊢
    simp only [literal?, read]

theorem coerce_itself {shape : Shape} (same : value.shape = shape) : (Kind.input shape).coerce value = value := by
  subst same
  cases value <;> rfl

theorem nodeValue_exported (restorable : node.Restorable) :
    nodeValue node.kind (exportData node) = .ok node.restored.value := by
  rw [nodeValue, exportData_value]
  cases kind : node.kind with
  | input shape =>
    have isInput : node.kind.isInput := kind ▸ rfl
    have same : node.value.shape = shape := by rw [restorable.shape isInput, kind, Kind.outputShape]
    have literal := literal?_toJson (restorable.finite isInput)
    simp [Kind.isInput, literal, Except.map, Node.restored, kind, coerce_itself same]
  | _ => simp [Kind.isInput, Node.restored, kind]

theorem readNode_exported (restorable : node.Restorable) : readNode [] (exportNode node) = .ok node.restored := by
  have kept : node.name.filter (fun name => !Text.isAllBlank name) = node.name := by
    cases given : node.name with
    | none => rfl
    | some name => simp [restorable.named name given]
  have name := exportData_name node
  refine readNode_ok.mpr ⟨_, configure_exported restorable.kind, _, nodeValue_exported restorable, ?_⟩
  simp only [exportNode, name, kept]
  rfl

theorem export_restores (built : graph.Built) (named : ∀ edge ∈ graph.edges, edge.id ≠ "")
    (restorable : ∀ node ∈ graph.nodes, node.Restorable) :
    ∃ read, ofDocument [] (toDocument graph) = .ok read ∧ read.nodes = graph.nodes.map Node.restored ∧
      read.edges = graph.edges ∧
      ∀ id, read.edgesInto id = graph.edgesInto id ∧ read.edgesOutOf id = graph.edgesOutOf id := by
  have valid := built.wellFormed
  have reads : List.Forall₂ (readNode [] · = .ok ·) (graph.nodes.map exportNode) (graph.nodes.map Node.restored) := by
    rw [List.forall₂_map_left_iff, List.forall₂_map_right_iff]
    exact List.forall₂_same.mpr fun node member => readNode_exported (restorable node member)
  have sameIds : (graph.nodes.map Node.restored).map Node.id = graph.nodeIds := by
    rw [nodeIds_eq valid, List.map_map]
    rfl
  obtain ⟨peopled, nodesLoaded, nodesValid, nodes, edgeTable⟩ :=
    addNodes_succeed Graph.empty_wellFormed reads (sameIds ▸ valid.nodesIndexed.distinct)
  have ids : peopled.nodeIds = graph.nodeIds := by rw [nodeIds_eq nodesValid, nodes]; exact sameIds
  have noEdges : peopled.edges = [] := congrArg Table.items edgeTable
  obtain ⟨read, edgesLoaded, readValid, edges, nodeTable⟩ := addEdges_succeed nodesValid named
    (by rw [ids]; exact valid.ends) (by rw [noEdges]; exact Graph.edgeIds_nodup valid) (by rw [noEdges]; exact unshared valid)
  have sameEdges : read.edges = graph.edges := by rw [edges, noEdges, List.nil_append]
  refine ⟨read, bind_ok.mpr ⟨peopled, nodesLoaded, edgesLoaded⟩, ?_, sameEdges, fun id => ?_⟩
  · exact (congrArg Table.items nodeTable).trans nodes
  · rw [readValid.edgesInto_eq, readValid.edgesOutOf_eq, valid.edgesInto_eq, valid.edgesOutOf_eq, sameEdges]
    exact ⟨rfl, rfl⟩

-- Settings of every sort, a name, a list in a list, a stranger, labelled edges and a loop.
def toolbox : List Edit := [
  .addNode ⟨"list", .input .list, .list [.number (-0.0), .list [.text "a", .bool true]], some "Items"⟩,
  .addNode ⟨"cut", .text { operation := .substring, start := -2, stop := some 9, search := "s", delimiter := ";" },
    .text "live", none⟩,
  .addNode ⟨"kept", .list { operation := .filter, condition := "x > 1", range := "0,2" }, .list [.number 5.0], none⟩,
  .addNode ⟨"less", .comparison .lessOrEqual, .bool true, none⟩,
  .addNode ⟨"strange", .unknown "matrixMultiply", .list [.number Decimal.notANumber], none⟩,
  .connect "list" "kept" none, .addEdge ⟨"e", "kept", "less", some "out", some "right"⟩,
  .connect "cut" "less" (some "left"), .connect "strange" "strange" none]

theorem toolbox_restored :
    (∀ edge ∈ (Graph.build toolbox).edges, edge.id ≠ "") ∧ (∀ node ∈ (Graph.build toolbox).nodes, node.Restorable) ∧
    ∃ read, ofDocument [] (toDocument (Graph.build toolbox)) = .ok read ∧
      read.nodes = (Graph.build toolbox).nodes.map Node.restored ∧ read.edges = (Graph.build toolbox).edges ∧
      ∀ id, read.edgesInto id = (Graph.build toolbox).edgesInto id ∧
        read.edgesOutOf id = (Graph.build toolbox).edgesOutOf id := by
  have named : ∀ edge ∈ (Graph.build toolbox).edges, edge.id ≠ "" := by decide +kernel
  have restorable : ∀ node ∈ (Graph.build toolbox).nodes, node.Restorable := by decide +kernel
  exact ⟨named, restorable, export_restores ⟨toolbox, rfl⟩ named restorable⟩

end Snapshot
end Dataflow
