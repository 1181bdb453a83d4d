import Dataflow.Proofs.Program.Structure

namespace Dataflow

namespace Graph

variable {graph : Graph} {node : Node} {edge : Edge} {slot : String}

-- The edge that feeds a slot, picked from the edges into the node by a plan of kind and handles.
def feeder (graph : Graph) (node : Node) (slot : String) : Option Edge :=
  ((Inputs.plan node.kind.slots ((graph.edgesInto node.id).map Edge.targetHandle)).get? slot).bind
    ((graph.edgesInto node.id)[·]?)

theorem wiring_feeder (graph : Graph) (node : Node) (slot : String) :
    (graph.wiring node).get? slot = graph.feeder node slot := by
  rw [wiring_plan, Inputs.get?_filterMap, feeder]

theorem feeder_into (fed : graph.feeder node slot = some edge) : edge ∈ graph.edgesInto node.id := by
  rw [← wiring_feeder] at fed
  exact wired_into (Inputs.mem_of_get? fed)

end Graph

namespace Program

variable {graph : Graph} {program : Program} {turn : Turn}

-- What the engine evaluates a node on, beside what the program makes its statements from.
structure Agrees (graph : Graph) (program : Program) (node : Node) (operands : Inputs Operand) : Prop where
  fed : ∀ slot edge, graph.feeder node slot = some edge → edge ∈ graph.edgesInto node.id ∧
    ∃ source, graph.node? edge.source = some source ∧ (graph.liveInputs node).get? slot = some source.value ∧
      (operands.get? slot).map Operand.name = program.variableOf? source.id
  vacant : ∀ slot, graph.feeder node slot = none →
    (graph.liveInputs node).get? slot = none ∧ operands.get? slot = none
  variadic : node.kind.slots = .variadic → ∃ sources : List Node,
    (graph.edgesInto node.id).map (graph.node? ·.source) = sources.map some ∧
      (graph.liveInputs node).variadic = sources.map Node.value ∧
      operands.variadic.map Operand.name = sources.filterMap (program.variableOf? ·.id)
  surplus : operands.unbound = (graph.liveInputs node).unbound

theorem sources_found (program : Program) (valid : graph.WellFormed) {edges : List Edge}
    (there : ∀ edge ∈ edges, edge ∈ graph.edges) :
    ∃ sources : List Node, edges.map (graph.node? ·.source) = sources.map some ∧
      edges.filterMap graph.carried = sources.map Node.value ∧
      edges.filterMap (program.variableOf? ·.source) = sources.filterMap (program.variableOf? ·.id) := by
  induction edges with
  | nil => exact ⟨[], rfl, rfl, rfl⟩
  | cons edge edges ih =>
    obtain ⟨sources, found, values, names⟩ := ih fun other later => there other (List.mem_cons_of_mem _ later)
    obtain ⟨source, here, carried⟩ := Graph.carried_eq valid (there edge List.mem_cons_self)
    obtain ⟨_, named⟩ := valid.node?_eq_some.mp here
    refine ⟨source :: sources, ?_, ?_, ?_⟩
    · rw [List.map_cons, List.map_cons, found, here]
    · rw [List.filterMap_cons_some carried, values, List.map_cons]
    · rw [List.filterMap_cons, List.filterMap_cons, names, named]

theorem agrees_of_wired (valid : graph.WellFormed) (node : Node) {operands : Inputs Operand}
    (wired : operands.map Operand.name = (graph.wiring node).filterMap (program.variableOf? ·.source)) :
    Agrees graph program node operands := by
  have named (slot : String) : (operands.get? slot).map Operand.name =
      (graph.feeder node slot).bind (program.variableOf? ·.source) := by
    rw [← Inputs.get?_map, wired, Inputs.get?_filterMap, Graph.wiring_feeder]
  have live (slot : String) : (graph.liveInputs node).get? slot = (graph.feeder node slot).bind graph.carried := by
    rw [Graph.liveInputs_wiring valid, Inputs.get?_filterMap, Graph.wiring_feeder]
  refine ⟨fun slot edge fed => ?_, fun slot vacant => ?_, fun kind => ?_, ?_⟩
  · have into := Graph.feeder_into fed
    obtain ⟨source, found, carried⟩ := Graph.carried_eq valid (valid.mem_edgesInto.mp into).1
    obtain ⟨_, known⟩ := valid.node?_eq_some.mp found
    refine ⟨into, source, found, ?_, ?_⟩
    · rw [live, fed, Option.bind_some, carried]
    · rw [named, fed, Option.bind_some, known]
  · have unnamed := named slot
    rw [vacant, Option.bind_none, Option.map_eq_none_iff] at unnamed
    exact ⟨by rw [live, vacant, Option.bind_none], unnamed⟩
  · have into : (graph.wiring node).variadic = graph.edgesInto node.id := by
      rw [Graph.wiring, kind, Inputs.bind, List.map_map]
      exact List.map_id' _
    have there : ∀ edge ∈ graph.edgesInto node.id, edge ∈ graph.edges := fun _ member => (valid.mem_edgesInto.mp member).1
    obtain ⟨sources, found, values, names⟩ := sources_found program valid there
    refine ⟨sources, found, ?_, ?_⟩
    · rw [Graph.liveInputs_wiring valid, Inputs.filterMap, into, values]
    · have listed := congrArg Inputs.variadic wired
      rw [Inputs.filterMap, into, names] at listed
      exact listed
  · have counted := congrArg Inputs.unbound wired
    rw [Graph.liveInputs_wiring valid]
    exact counted

-- The body of the program is what emission makes of the turns.
structure Emitted (graph : Graph) (options : Options) (program : Program) : Prop where
  source : graph.nodes ≠ [] → program.source =
    "\n".intercalate (lines options (session graph options) (returned (session graph options) graph.sinks))
  body : (session graph options).body =
    (turns graph options).flatMap fun turn => (Emission.ofNode turn.node turn.name turn.inputs).statements

theorem emitted_of_compile (valid : graph.WellFormed) (acyclic : graph.Acyclic) (options : Options)
    (compiled : compile graph options = .ok program) : Emitted graph options program := by
  obtain ⟨emits, _⟩ := session_emits valid acyclic options
  refine ⟨fun nonempty => ?_, emits.body⟩
  rw [compile_ok valid acyclic nonempty options] at compiled
  exact (congrArg Program.source (Except.ok.inj compiled)).symm

theorem wiring_agrees (built : graph.Built) (acyclic : graph.Acyclic) (options : Options) :
    ∃ program, compile graph options = .ok program ∧ Emitted graph options program ∧
      ((turns graph options).map Turn.node).Perm graph.nodes ∧
      ∀ turn ∈ turns graph options, Agrees graph program turn.node turn.inputs := by
  have valid := built.wellFormed
  obtain ⟨emits, _⟩ := session_emits valid acyclic options
  obtain ⟨program, compiled, assigned⟩ := compile_assigned valid acyclic options
  have emitted := emitted_of_compile valid acyclic options compiled
  refine ⟨program, compiled, emitted, turns_nodes valid acyclic options, fun turn taken => agrees_of_wired valid turn.node ?_⟩
  simp only [variableOf?, assigned]
  exact emits.wired valid turn taken

theorem tally_agrees : ∃ program, compile (Graph.build tally) {} = .ok program ∧
    Emitted (Graph.build tally) {} program ∧
    (∀ turn ∈ turns (Graph.build tally) {}, Agrees (Graph.build tally) program turn.node turn.inputs) ∧
    (turns (Graph.build tally) {}).map (fun turn => turn.inputs.variadic.map Operand.name) = [[], [], [], ["num_1"], []] := by
  obtain ⟨program, compiled, emitted, _, agrees⟩ := wiring_agrees ⟨tally, rfl⟩ tally_acyclic {}
  exact ⟨program, compiled, emitted, agrees, by decide +kernel⟩

end Program
end Dataflow
