import Dataflow.Proofs.Engine.Propagation
import Dataflow.Proofs.Evaluation
import Dataflow.Proofs.Program.Structure

namespace Dataflow

def Inputs.shape (inputs : Inputs α) : Inputs Unit := inputs.map fun _ => ()

theorem Inputs.shape_map (f : α → β) (inputs : Inputs α) : (inputs.map f).shape = inputs.shape := by
  simp [shape, map, Function.comp_def]

-- Where the items that are lost hold the empty text.
theorem Inputs.filterMap_thinned {inputs : Inputs α} {live kept : α → Option Value} (lost : ∀ item ∈ inputs.items,
    kept item = live item ∨ live item = some (.text "") ∧ kept item = none) :
    (inputs.filterMap live).Thinned (inputs.filterMap kept) := by
  constructor
  · intro slot
    rw [get?_filterMap, get?_filterMap]
    cases fed : inputs.get? slot with
    | none => exact .inl rfl
    | some item => exact lost item (mem_of_get? fed)
  · have listed : ∀ item ∈ inputs.variadic, kept item = live item ∨ live item = some (.text "") ∧ kept item = none :=
      fun item member => lost item (List.mem_append_right _ member)
    simp only [filterMap]
    generalize inputs.variadic = items at listed
    induction items with
    | nil => exact .nil
    | cons item rest ih =>
      have thins := ih fun other later => listed other (List.mem_cons_of_mem _ later)
      rcases listed item List.mem_cons_self with same | ⟨blank, missing⟩
      · rw [List.filterMap_cons, List.filterMap_cons, same]
        cases live item with
        | none => exact thins
        | some value => exact thins.keep value
      · rw [List.filterMap_cons_some blank, List.filterMap_cons_none missing]
        exact thins.drop

namespace Program
open Engine (settleAll_built)

variable {graph : Graph} {program : Program} {options : Options} {node : Node} {edge : Edge}

-- The live inputs of a node that come from nodes with a variable.
def keptInputs (program : Program) (graph : Graph) (node : Node) : Inputs Value :=
  (graph.wiring node).filterMap fun edge =>
    if (program.variableOf? edge.source).isSome then graph.carried edge else none

theorem keptInputs_shape (valid : graph.WellFormed) {operands : Inputs Operand}
    (wired : operands.map Operand.name = (graph.wiring node).filterMap (program.variableOf? ·.source)) :
    (program.keptInputs graph node).shape = operands.shape := by
  rw [← Inputs.shape_map Operand.name, wired, keptInputs, Inputs.shape, Inputs.shape, Inputs.map_filterMap,
    Inputs.map_filterMap]
  refine Inputs.filterMap_congr fun edge fed => ?_
  obtain ⟨_, _, carried⟩ := Graph.carried_eq valid (valid.mem_edgesInto.mp (Graph.wired_into fed)).1
  cases program.variableOf? edge.source <;> simp [carried]

theorem source_known (valid : graph.WellFormed) (settled : graph.Settled) (there : edge ∈ graph.edges)
    (found : graph.node? edge.source = some node) : node.kind.isUnknown = false := by
  obtain ⟨member, named⟩ := valid.node?_eq_some.mp found
  by_contra unknown
  have stable := settled.stable node member
  rw [Graph.Stable, if_pos (by simpa using unknown)] at stable
  exact stable edge there named.symm

-- Of the nodes of a known kind only displays have no variable, and those show the empty text: either nothing
-- feeds them, or what does has no variable itself and so, by induction, holds the empty text.
theorem unnamed_blank (valid : graph.WellFormed) (settled : graph.Settled) (options : Options) (id : String) :
    ∀ node, graph.node? id = some node → node.kind.isUnknown = false →
      (session graph options).assigned.lookup id = none → node.value = .text "" := by
  induction id using settled.acyclic.induction valid with
  | step id ih =>
    intro node found known unnamed
    obtain ⟨member, rfl⟩ := valid.node?_eq_some.mp found
    have named := (variable_isSome valid settled.acyclic options node.id).mpr
    rw [unnamed] at named
    have display : node.kind = .display := by
      by_contra other
      have computes : node.kind.Computes := ⟨by rwa [← Bool.not_eq_true, Kind.isDisplay_iff], known⟩
      cases named ⟨node, member, rfl, .inl computes⟩
    have blank : ((graph.liveInputs node).get? "input").getD (.text "") = .text "" := by
      rw [Graph.liveInputs_wiring valid, Inputs.get?_filterMap]
      cases wired : (graph.wiring node).get? "input" with
      | none => rfl
      | some edge =>
        have fed := Inputs.mem_of_get? wired
        have there := (valid.mem_edgesInto.mp (Graph.wired_into fed)).1
        obtain ⟨source, sourceFound, carried⟩ := Graph.carried_eq valid there
        have sourceUnnamed : (session graph options).assigned.lookup edge.source = none := by
          by_contra carries
          cases named ⟨node, member, rfl, .inr ⟨display, edge, wired, Option.isSome_iff_ne_none.mpr carries⟩⟩
        have sourceBlank := ih edge.source (Graph.wired_feeds valid fed) source sourceFound
          (source_known valid settled there sourceFound) sourceUnnamed
        rw [Option.bind_some, carried, sourceBlank, Option.getD_some]
    have holds := settled.stable node member
    rw [Graph.Stable, if_neg (by simp [known])] at holds
    obtain ⟨value, live, equal⟩ := holds
    rw [Graph.liveValue?, display, Kind.evaluate, blank] at live
    obtain rfl := Option.some.inj live
    exact Value.text_agrees.mp equal

theorem keptInputs_thinned (valid : graph.WellFormed) (settled : graph.Settled)
    (assigned : program.assigned = (session graph options).assigned) (node : Node) :
    (graph.liveInputs node).Thinned (program.keptInputs graph node) := by
  rw [Graph.liveInputs_wiring valid]
  refine Inputs.filterMap_thinned fun edge fed => ?_
  have there := (valid.mem_edgesInto.mp (Graph.wired_into fed)).1
  obtain ⟨source, found, carried⟩ := Graph.carried_eq valid there
  cases named : program.variableOf? edge.source with
  | some name => exact .inl rfl
  | none =>
    rw [variableOf?, assigned] at named
    have blank := unnamed_blank valid settled options edge.source source found (source_known valid settled there found) named
    exact .inr ⟨by rw [carried, blank], rfl⟩

-- What a program leaves out makes no difference to a node, or it does, as the kind of the node has it.
theorem omission_iff (valid : graph.WellFormed) (settled : graph.Settled)
    (assigned : program.assigned = (session graph options).assigned) (member : node ∈ graph.nodes)
    (known : node.kind.isUnknown = false) :
    node.kind.Yields node.value (program.keptInputs graph node) node.value ↔
      node.kind.Indifferent (graph.liveInputs node) (program.keptInputs graph node) := by
  have holds := settled.stable node member
  rw [Graph.Stable, if_neg (by simp [known])] at holds
  exact node.kind.evaluate_thinned node.value (keptInputs_thinned valid settled assigned node) holds

variable {engine next : Engine} {changes : List Change}

theorem omission_exact (built : engine.graph.Built) (done : engine.settleAll = (next, .ok changes)) (options : Options) :
    ∃ program, compile next.graph options = .ok program ∧ ∀ node ∈ next.graph.nodes,
      (∃ turn ∈ turns next.graph options, turn.node = node ∧
        turn.inputs.shape = (program.keptInputs next.graph node).shape) ∧
      (node.kind.isUnknown = false →
        (node.kind.Yields node.value (program.keptInputs next.graph node) node.value ↔
          node.kind.Indifferent (next.graph.liveInputs node) (program.keptInputs next.graph node))) := by
  have settled := Engine.settleAll_settles built done
  have valid := (settleAll_built built done).wellFormed
  obtain ⟨program, compiled, assigned⟩ := compile_assigned valid settled.acyclic options
  refine ⟨program, compiled, fun node member => ⟨?_, omission_iff valid settled assigned member⟩⟩
  obtain ⟨emits, _⟩ := session_emits valid settled.acyclic options
  obtain ⟨turn, taken, rfl⟩ := turn_of valid settled.acyclic options member
  have wired := emits.wired valid turn taken
  simp only [← assigned] at wired
  exact ⟨turn, taken, rfl, (keptInputs_shape valid wired).symm⟩

-- A display that shows nothing, beside the empty text, as a factor, as a term and as what is to be chosen.
def faint : List Edit :=
  [.addNode (.ofKind "blank" .display), .addNode ⟨"empty", .input .text, .text "", none⟩,
    .addNode ⟨"five", .input .number, .number 5, none⟩, .addNode ⟨"yes", .input .bool, .bool true, none⟩,
    .addNode (.ofKind "same" (.comparison .equal)), .addNode (.ofKind "product" .multiplication),
    .addNode (.ofKind "sum" .addition), .addNode (.ofKind "choice" .ifElse),
    .connect "blank" "same" (some "left"), .connect "empty" "same" (some "right"),
    .connect "blank" "product" none, .connect "five" "product" none,
    .connect "blank" "sum" none, .connect "five" "sum" none,
    .connect "yes" "choice" (some "condition"), .connect "blank" "choice" (some "true"),
    .connect "empty" "choice" (some "false")]

def pale : Engine := Engine.ofGraph (Graph.build faint)

theorem pale_built : pale.graph.Built := ⟨faint, rfl⟩

theorem pale_settles : ∃ changes, pale.settleAll = (pale.settleAll.1, .ok changes) :=
  Engine.outcome_ok (by decide +kernel)

def sensitive (program : Program) (graph : Graph) : List String :=
  (graph.nodes.filter fun node => ¬node.kind.Indifferent (graph.liveInputs node) (program.keptInputs graph node)).map Node.id

theorem pale_sensitive : ∃ program, compile pale.settleAll.1.graph {} = .ok program ∧
    sensitive program pale.settleAll.1.graph = ["same", "product", "choice"] := by
  have listed : (compile pale.settleAll.1.graph {}).toOption.map (sensitive · pale.settleAll.1.graph) =
      some ["same", "product", "choice"] := by
    decide +kernel
  cases compiled : compile pale.settleAll.1.graph {} with
  | ok program =>
    rw [compiled] at listed
    exact ⟨program, rfl, Option.some.inj listed⟩
  | error fault =>
    rw [compiled] at listed
    cases listed

theorem pale_exact : ∃ program, compile pale.settleAll.1.graph {} = .ok program ∧
    (∀ node ∈ pale.settleAll.1.graph.nodes, node.kind.isUnknown = false →
      (node.kind.Yields node.value (program.keptInputs pale.settleAll.1.graph node) node.value ↔
        node.kind.Indifferent (pale.settleAll.1.graph.liveInputs node)
          (program.keptInputs pale.settleAll.1.graph node))) ∧
    sensitive program pale.settleAll.1.graph = ["same", "product", "choice"] := by
  obtain ⟨changes, done⟩ := pale_settles
  obtain ⟨program, compiled, exact⟩ := omission_exact pale_built done {}
  obtain ⟨other, again, listed⟩ := pale_sensitive
  obtain rfl := Except.ok.inj (compiled.symm.trans again)
  exact ⟨program, compiled, fun node member => (exact node member).2, listed⟩

-- The program has each of the three come to another value than the live one.
theorem pale_differs : ∃ changes program, pale.settleAll = (pale.settleAll.1, .ok changes) ∧
    compile pale.settleAll.1.graph {} = .ok program ∧ ∀ id ∈ ["same", "product", "choice"],
      ∃ node ∈ pale.settleAll.1.graph.nodes, node.id = id ∧ node.kind.isUnknown = false ∧
        ¬node.kind.Yields node.value (program.keptInputs pale.settleAll.1.graph node) node.value := by
  obtain ⟨changes, done⟩ := pale_settles
  have settled := Engine.settleAll_settles pale_built done
  have valid := (settleAll_built pale_built done).wellFormed
  have known : ∀ node ∈ pale.settleAll.1.graph.nodes, node.kind.isUnknown = false := by decide +kernel
  obtain ⟨program, compiled, listed⟩ := pale_sensitive
  obtain ⟨other, again, assigned⟩ := compile_assigned valid settled.acyclic {}
  obtain rfl := Except.ok.inj (again.symm.trans compiled)
  refine ⟨changes, other, done, compiled, fun id named => ?_⟩
  rw [← listed] at named
  obtain ⟨node, there, rfl⟩ := List.mem_map.mp named
  obtain ⟨member, differs⟩ := List.mem_filter.mp there
  rw [decide_eq_true_iff, ← omission_iff valid settled assigned member (known node member)] at differs
  exact ⟨node, member, rfl, known node member, differs⟩

end Program
end Dataflow
