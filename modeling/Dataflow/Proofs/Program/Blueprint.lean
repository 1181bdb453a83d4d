import Dataflow.Program.Compile
import Dataflow.Proofs.Engine.Changes

namespace Dataflow

-- What a program may depend on: all of a node but the last result of one that computes.
def Node.blueprint (node : Node) : Node :=
  if node.kind.isInput then node else { node with value := node.kind.defaultValue }

namespace Node

variable {node other : Node}

@[simp] theorem blueprint_id (node : Node) : node.blueprint.id = node.id := by
  unfold blueprint
  split <;> rfl

@[simp] theorem blueprint_kind (node : Node) : node.blueprint.kind = node.kind := by
  unfold blueprint
  split <;> rfl

@[simp] theorem blueprint_name (node : Node) : node.blueprint.name = node.name := by
  unfold blueprint
  split <;> rfl

theorem blueprint_valued {value : Value} (kept : node.kind.isInput → value = node.value) :
    { node with value := value }.blueprint = node.blueprint := by
  unfold blueprint
  split
  · rename_i input
    rw [kept input]
  · rfl

end Node

-- The value of a node that computes is not looked at when its statements are made.
theorem Emission.ofNode_blueprint (node : Node) (name : String) (inputs : Inputs Operand) :
    ofNode node.blueprint name inputs = ofNode node name inputs := by
  obtain ⟨id, kind, value, called⟩ := node
  cases kind <;> rfl

namespace Graph

variable {first second graph : Graph} {node other : Node} {id : String}

structure SameBlueprint (first second : Graph) : Prop where
  nodes : first.nodes.map Node.blueprint = second.nodes.map Node.blueprint
  edges : first.edges = second.edges

theorem node?_blueprint (valid : graph.WellFormed) (id : String) :
    (graph.node? id).map Node.blueprint = (graph.nodes.map Node.blueprint).find? (·.id == id) := by
  have entries : graph.nodeTable.entries = graph.nodes.map fun node => (node.id, node) := by
    rw [nodes, Table.items, List.map_map]
    refine (List.map_id _).symm.trans (List.map_congr_left fun entry member => ?_)
    exact Prod.ext (valid.nodesIndexed.named entry member).symm rfl
  rw [node?, Table.get?, entries, List.find?_map, List.find?_map]
  simp [Function.comp_def]

-- Two graphs are walked alike where each node has the same sources in the same order.
theorem run_congr (sources : first.sources = second.sources) (follow : String → Bool) (walk : Walk) (stack : List Step) :
    walk.run first follow stack = walk.run second follow stack := by
  have advance (walk : Walk) (step : Step) : walk.advance first follow step = walk.advance second follow step := by
    cases step <;> simp only [Walk.advance, Walk.ahead, sources]
  induction walk, stack using Walk.run.induct first follow with
  | case1 walk => rw [Walk.run, Walk.run]
  | case2 walk step stack fault stopped =>
    rw [Walk.run, Walk.run, ← advance, stopped]
  | case3 walk step stack next pushed stepped ih =>
    rw [Walk.run, Walk.run, ← advance, stepped]
    exact ih

namespace SameBlueprint

variable (same : SameBlueprint first second) (firstValid : first.WellFormed) (secondValid : second.WellFormed)

include same firstValid secondValid

theorem node? (id : String) : (first.node? id).map Node.blueprint = (second.node? id).map Node.blueprint := by
  rw [node?_blueprint firstValid, node?_blueprint secondValid, same.nodes]

theorem hasNode (id : String) : first.hasNode id = second.hasNode id := by
  have found := congrArg Option.isSome (same.node? firstValid secondValid id)
  rwa [Option.isSome_map, Option.isSome_map] at found

theorem edgesInto : first.edgesInto = second.edgesInto := by
  funext id
  rw [firstValid.edgesInto_eq, secondValid.edgesInto_eq, same.edges]

theorem hasOutgoing (id : String) : first.hasOutgoing id = second.hasOutgoing id := by
  rw [Bool.eq_iff_iff, firstValid.hasOutgoing_iff, secondValid.hasOutgoing_iff, same.edges]

theorem evaluationOrder (id : String) : first.evaluationOrder id = second.evaluationOrder id := by
  have sources : first.sources = second.sources := by
    funext id
    rw [sources, sources, same.edgesInto firstValid secondValid]
  rw [Graph.evaluationOrder, Graph.evaluationOrder, Walk.visit, Walk.visit, same.hasNode firstValid secondValid,
    run_congr sources]

theorem sinks : first.sinks.map Node.blueprint = second.sinks.map Node.blueprint := by
  have drawn (graph : Graph) (outgoing : ∀ id, graph.hasOutgoing id = second.hasOutgoing id) :
      graph.sinks.map Node.blueprint =
        (graph.nodes.map Node.blueprint).filter fun node => node.kind.isDisplay || !second.hasOutgoing node.id := by
    rw [Graph.sinks, List.filter_map]
    simp [Function.comp_def, outgoing]
  rw [drawn first (same.hasOutgoing firstValid secondValid), drawn second fun _ => rfl, same.nodes]

end SameBlueprint
end Graph

namespace Program

variable {first second : Graph} {options : Options} {node other : Node}

namespace Session

theorem declare_blueprint (session : Session) (node : Node) (inputs : Inputs Operand) :
    session.declare node.blueprint inputs = session.declare node inputs := by
  obtain ⟨id, kind, value, called⟩ := node
  cases kind <;> rfl

-- What one node adds to a program is told by its blueprint and by the edges into it.
theorem inputs_blueprint (session : Session) (into : first.edgesInto = second.edgesInto)
    (drawn : node.blueprint = other.blueprint) : session.inputs first node = session.inputs second other := by
  have id : node.id = other.id := by simpa using congrArg Node.id drawn
  have kind : node.kind = other.kind := by simpa using congrArg Node.kind drawn
  rw [inputs, inputs, into, id, kind]

theorem emit_same (same : first.SameBlueprint second) (firstValid : first.WellFormed) (secondValid : second.WellFormed)
    (session : Session) (id : String) : emit first session id = emit second session id := by
  have nodes := same.node? firstValid secondValid id
  have into := same.edgesInto firstValid secondValid
  unfold emit
  split
  · rfl
  · cases found : first.node? id with
    | none =>
      rw [found] at nodes
      rw [Option.map_eq_none_iff.mp nodes.symm]
    | some node =>
      rw [found] at nodes
      obtain ⟨other, found', drawn⟩ := Option.map_eq_some_iff.mp nodes.symm
      rw [found']
      dsimp only
      rw [inputs_blueprint _ into drawn.symm, ← declare_blueprint, ← drawn, declare_blueprint,
        ← Emission.ofNode_blueprint, ← drawn, Emission.ofNode_blueprint]

theorem sinks_blueprint (sinks : List Node) (session : Session) :
    (sinks.map Node.blueprint).foldlM (emitSink first) session = sinks.foldlM (emitSink first) session := by
  rw [List.foldlM_map]
  simp only [emitSink, Node.blueprint_id]
  rfl

theorem sinks_same (same : first.SameBlueprint second) (firstValid : first.WellFormed) (secondValid : second.WellFormed)
    (session : Session) : first.sinks.foldlM (emitSink first) session = second.sinks.foldlM (emitSink second) session := by
  have emitSinks : emitSink first = emitSink second := by
    funext session sink
    have emits : emit first = emit second := by
      funext session id
      exact emit_same same firstValid secondValid session id
    rw [emitSink, emitSink, same.evaluationOrder firstValid secondValid, emits]
  rw [← sinks_blueprint, same.sinks firstValid secondValid, sinks_blueprint, emitSinks]

end Session

theorem returned_blueprint (session : Session) (sinks : List Node) :
    returned session (sinks.map Node.blueprint) = returned session sinks := by
  simp [returned, List.filter_map, List.filterMap_map, Function.comp_def]

theorem compile_same (same : first.SameBlueprint second) (firstValid : first.WellFormed) (secondValid : second.WellFormed)
    (options : Options) : compile first options = compile second options := by
  have sinks := same.sinks firstValid secondValid
  have empty : first.nodes.isEmpty = second.nodes.isEmpty := by
    simpa using congrArg List.isEmpty same.nodes
  have ids : first.sinks.map (·.id) = second.sinks.map (·.id) := by
    simpa [Function.comp_def] using congrArg (List.map Node.id) sinks
  have returns (session : Session) : returned session first.sinks = returned session second.sinks := by
    rw [← returned_blueprint, sinks, returned_blueprint]
  simp only [compile, empty, Session.sinks_same same firstValid secondValid, ids, returns]

end Program

-- Passes.

namespace Graph

variable {before graph : Graph} {id : String} {change : Option Value}

theorem SameBlueprint.trans {first second third : Graph} (left : first.SameBlueprint second)
    (right : second.SameBlueprint third) : first.SameBlueprint third :=
  ⟨left.nodes.trans right.nodes, left.edges.trans right.edges⟩

-- An input node is never given another value than its own.
theorem recompute_input {node : Node} (recomputed : graph.recompute id = .ok change) (found : graph.node? id = some node)
    (input : node.kind.isInput) : change.getD node.value = node.value := by
  obtain ⟨shape, kind⟩ := Kind.isInput_iff.mp input
  have live : graph.liveValue? node = some node.value := by
    rw [liveValue?, kind]
    rfl
  rw [recompute_known found (by simp [kind, Kind.isUnknown]), live] at recomputed
  cases recomputed
  split <;> rfl

theorem revise_blueprint (valid : graph.WellFormed) (recomputed : graph.recompute id = .ok change) :
    graph.SameBlueprint (graph.revise id change) := by
  cases change with
  | none => exact ⟨rfl, rfl⟩
  | some value =>
    refine ⟨?_, rfl⟩
    have written : (graph.revise id (some value)).nodes = Change.write graph.nodes ⟨id, value⟩ := setValue_nodes valid id value
    rw [written, Change.write, List.map_map]
    refine List.map_congr_left fun node member => ?_
    rw [Function.comp_apply]
    split
    · rename_i named
      have found := valid.node?_eq_some.mpr ⟨member, named⟩
      exact (Node.blueprint_valued (recompute_input recomputed found)).symm
    · rfl

theorem recomputeAll_blueprint (valid : graph.WellFormed) (ids : List String) (changes : List Change) :
    graph.SameBlueprint (recomputeAll ids graph changes).1 := by
  induction ids generalizing graph changes with
  | nil => exact ⟨rfl, rfl⟩
  | cons id ids ih =>
    rw [recomputeAll_cons]
    cases recomputed : graph.recompute id with
    | error fault => exact ⟨rfl, rfl⟩
    | ok change => exact (revise_blueprint valid recomputed).trans (ih (revise_wellFormed valid) _)

end Graph

theorem Engine.settle_blueprint {graph : Graph} (valid : graph.WellFormed) (seeds : List String) (changes : List Change) :
    graph.SameBlueprint (settle graph seeds changes).1.graph := by
  unfold settle
  split
  · exact ⟨rfl, rfl⟩
  · rename_i order _
    have kept := Graph.recomputeAll_blueprint valid order changes
    split
    · rename_i ran
      rwa [ran] at kept
    · rename_i ran
      rwa [ran] at kept

namespace Program

theorem compile_valueless (options : Options) :
    (∀ first second : Graph, first.Built → second.Built → first.SameBlueprint second →
      compile first options = compile second options) ∧
    ∀ engine : Engine, engine.graph.Built → compile engine.settleAll.1.graph options = compile engine.graph options := by
  refine ⟨fun first second firstBuilt secondBuilt same => ?_, fun engine built => ?_⟩
  · exact compile_same same firstBuilt.wellFormed secondBuilt.wellFormed options
  · have same := Engine.settle_blueprint built.wellFormed engine.graph.nodeIds []
    have settled := Engine.settle_built built engine.graph.nodeIds []
    exact (compile_same same built.wellFormed settled.wellFormed options).symm

-- A bill with what it came to and what was shown of it.
def bill (total shown : Value) : List Edit :=
  [.addNode ⟨"price", .input .number, .number 2.5, some "Price"⟩, .addNode ⟨"count", .input .number, .number 4, none⟩,
    .addNode ⟨"total", .multiplication, total, none⟩, .addNode ⟨"screen", .display, shown, none⟩,
    .addEdge ⟨"1", "price", "total", none, none⟩, .addEdge ⟨"2", "count", "total", none, none⟩,
    .addEdge ⟨"3", "total", "screen", none, none⟩]

theorem bill_valueless : (Graph.build (bill (.number 0) (.text ""))).SameBlueprint
      (Graph.build (bill (.bool true) (.list [.text "12"]))) ∧
    compile (Graph.build (bill (.number 0) (.text ""))) {} =
      compile (Graph.build (bill (.bool true) (.list [.text "12"]))) {} ∧
    compile (Engine.ofGraph (Graph.build (bill (.number 0) (.text "")))).settleAll.1.graph {} =
      compile (Graph.build (bill (.number 0) (.text ""))) {} ∧
    (compile (Graph.build (bill (.number 0) (.text ""))) {}).toOption.map Program.assigned =
      some [("price", "price"), ("count", "num_2"), ("total", "product_3"), ("screen", "product_3")] := by
  obtain ⟨alike, settled⟩ := compile_valueless {}
  have same : (Graph.build (bill (.number 0) (.text ""))).SameBlueprint
      (Graph.build (bill (.bool true) (.list [.text "12"]))) := ⟨rfl, rfl⟩
  exact ⟨same, alike _ _ ⟨_, rfl⟩ ⟨_, rfl⟩ same, settled (Engine.ofGraph _) ⟨_, rfl⟩, by decide +kernel⟩

end Program
end Dataflow
