import Dataflow.Proofs.Graph.Acyclic
import Dataflow.Proofs.Program.Assignment
import Dataflow.Proofs.Program.Session
import Mathlib.Data.List.Pairwise

namespace Dataflow

namespace Graph

variable {graph : Graph} {id : String} {sink : Node} {order : List String}

def emissionOrder (graph : Graph) : List String :=
  graph.sinks.flatMap fun sink => (graph.evaluationOrder sink.id).toOption.getD []

theorem sinks_eq (valid : graph.WellFormed) : graph.sinks =
    graph.nodes.filter fun node => node.kind.isDisplay || graph.edges.all (·.source != node.id) := by
  refine List.filter_congr fun node _ => congrArg _ ?_
  rw [Bool.eq_iff_iff, Bool.not_eq_true', ← Bool.not_eq_true, valid.hasOutgoing_iff]
  simp

theorem mem_sinks (valid : graph.WellFormed) : sink ∈ graph.sinks ↔
    sink ∈ graph.nodes ∧ (sink.kind.isDisplay ∨ ∀ edge ∈ graph.edges, edge.source ≠ sink.id) := by
  rw [sinks_eq valid]
  simp

theorem sink_found (valid : graph.WellFormed) (listed : sink ∈ graph.sinks) : graph.hasNode sink.id :=
  hasNode_of_found (valid.node?_eq_some.mpr ⟨((mem_sinks valid).mp listed).1, rfl⟩)

theorem reaches_sink (valid : graph.WellFormed) (acyclic : graph.Acyclic) (id : String) :
    graph.hasNode id → ∃ sink ∈ graph.sinks, graph.Reaches id sink.id := by
  induction id using acyclic.induction_back valid with
  | step source ih =>
    intro there
    obtain ⟨node, found⟩ := Option.isSome_iff_exists.mp there
    obtain ⟨member, rfl⟩ := valid.node?_eq_some.mp found
    by_cases read : ∃ edge ∈ graph.edges, edge.source = node.id
    · obtain ⟨edge, there, source⟩ := read
      have feeds : graph.Feeds node.id edge.target := ⟨edge, there, source, rfl⟩
      obtain ⟨sink, listed, path⟩ := ih edge.target feeds (feeds_target valid feeds)
      exact ⟨sink, listed, path.head feeds⟩
    · have unread : ∀ edge ∈ graph.edges, edge.source ≠ node.id := fun edge there source => read ⟨edge, there, source⟩
      exact ⟨node, (mem_sinks valid).mpr ⟨member, .inr unread⟩, .refl⟩

theorem Sourced.append {earlier later : List String} (first : graph.Sourced earlier) (second : graph.Sourced later) :
    graph.Sourced (earlier ++ later) := by
  induction second with
  | nil => rwa [List.append_nil]
  | snoc _ there ready ih =>
    rw [← List.append_assoc]
    exact ih.snoc there fun source feeds => List.mem_append_right _ (ready source feeds)

theorem evaluationOrder_sourced (valid : graph.WellFormed) (ordered : graph.evaluationOrder id = .ok order) :
    graph.Sourced order := by
  have there : ∀ other ∈ order, graph.hasNode other := by
    intro other member
    obtain ⟨there, _, arranges, _⟩ := evaluationOrder_ok valid ordered
    exact reaches_source valid ((arranges.lists other).mp member) there
  have walked := evaluationOrder_ordered ordered
  clear ordered
  induction walked with
  | nil => exact .nil
  | @snoc earlier last _ _ ready ih =>
    refine (ih fun other member => there other (List.mem_append_left _ member)).snoc ?_ fun source feeds => ?_
    · exact there last (List.mem_append_right _ List.mem_cons_self)
    · exact ready source (draws_all valid ▸ feeds)

theorem emissionOrder_sourced (valid : graph.WellFormed) (acyclic : graph.Acyclic) :
    graph.Sourced graph.emissionOrder := by
  have each : ∀ sinks : List Node, (∀ sink ∈ sinks, sink ∈ graph.sinks) →
      graph.Sourced (sinks.flatMap fun sink => (graph.evaluationOrder sink.id).toOption.getD []) := by
    intro sinks listed
    induction sinks with
    | nil => exact .nil
    | cons sink sinks ih =>
      obtain ⟨order, ordered⟩ := acyclic.evaluated valid (sink_found valid (listed sink List.mem_cons_self))
      rw [List.flatMap_cons, ordered]
      exact (evaluationOrder_sourced valid ordered).append (ih fun other later => listed other (List.mem_cons_of_mem _ later))
  exact each graph.sinks fun _ listed => listed

theorem mem_emissionOrder (valid : graph.WellFormed) (acyclic : graph.Acyclic) :
    id ∈ graph.emissionOrder ↔ graph.hasNode id := by
  have brings (sink : Node) (listed : sink ∈ graph.sinks) :
      id ∈ (graph.evaluationOrder sink.id).toOption.getD [] ↔ graph.Reaches id sink.id := by
    obtain ⟨order, ordered⟩ := acyclic.evaluated valid (sink_found valid listed)
    rw [ordered]
    exact (evaluationOrder_ok valid ordered).2.2.1.lists id
  constructor
  · intro member
    obtain ⟨sink, listed, brought⟩ := List.mem_flatMap.mp member
    exact reaches_source valid ((brings sink listed).mp brought) (sink_found valid listed)
  · intro there
    obtain ⟨sink, listed, path⟩ := reaches_sink valid acyclic id there
    exact List.mem_flatMap.mpr ⟨sink, listed, (brings sink listed).mpr path⟩

end Graph

namespace Program

variable {graph : Graph} {options : Options} {id name : String} {turn : Turn} {node : Node}

def session (graph : Graph) (options : Options) : Session :=
  graph.emissionOrder.foldl (Session.emit graph) { namer := .start options.functionName }

def turns (graph : Graph) (options : Options) : List Turn :=
  Session.turns graph { namer := .start options.functionName } graph.emissionOrder

theorem sinks_ok {sinks : List Node} (ordered : ∀ sink ∈ sinks, ∃ order, graph.evaluationOrder sink.id = .ok order)
    (session : Session) : sinks.foldlM (Session.emitSink graph) session =
      .ok ((sinks.flatMap fun sink => (graph.evaluationOrder sink.id).toOption.getD []).foldl (Session.emit graph) session) := by
  induction sinks generalizing session with
  | nil => rfl
  | cons sink sinks ih =>
    obtain ⟨order, here⟩ := ordered sink List.mem_cons_self
    rw [List.foldlM_cons, Session.emitSink, here, List.flatMap_cons, List.foldl_append, here]
    exact ih (fun sink later => ordered sink (List.mem_cons_of_mem _ later)) _

theorem compile_ok (valid : graph.WellFormed) (acyclic : graph.Acyclic) (nonempty : graph.nodes ≠ []) (options : Options) :
    compile graph options = .ok {
      source := "\n".intercalate (lines options (session graph options) (returned (session graph options) graph.sinks))
      assigned := (session graph options).assigned
      sinks := graph.sinks.map (·.id)
      diagnostics := (session graph options).diagnostics } := by
  have ordered : ∀ sink ∈ graph.sinks, ∃ order, graph.evaluationOrder sink.id = .ok order := fun sink listed =>
    acyclic.evaluated valid (Graph.sink_found valid listed)
  rw [compile, if_neg (by simpa using nonempty), sinks_ok ordered]
  rfl

theorem compile_assigned (valid : graph.WellFormed) (acyclic : graph.Acyclic) (options : Options) :
    ∃ program, compile graph options = .ok program ∧ program.assigned = (session graph options).assigned := by
  by_cases empty : graph.nodes = []
  · have unsunk : graph.sinks = [] := by rw [Graph.sinks, empty, List.filter_nil]
    refine ⟨⟨emptySource, [], [], []⟩, by rw [compile, if_pos (by simp [empty])], ?_⟩
    rw [session, Graph.emissionOrder, unsunk]
    rfl
  · exact ⟨_, compile_ok valid acyclic empty options, rfl⟩

theorem session_emits (valid : graph.WellFormed) (acyclic : graph.Acyclic) (options : Options) :
    (session graph options).Emits graph options.functionName (turns graph options) ∧
      ∀ id, id ∈ (session graph options).emitted ↔ graph.hasNode id := by
  have begun : Session.Emits graph options.functionName _ [] := .start
  have ran := begun.along valid (Graph.emissionOrder_sourced valid acyclic)
  refine ⟨ran.1, fun id => (ran.2 id).trans ?_⟩
  rw [Graph.mem_emissionOrder valid acyclic]
  simp

theorem turns_nodes (valid : graph.WellFormed) (acyclic : graph.Acyclic) (options : Options) :
    ((turns graph options).map Turn.node).Perm graph.nodes := by
  obtain ⟨emits, all⟩ := session_emits valid acyclic options
  have ids : ((turns graph options).map (·.node.id)).Nodup := emits.emitted ▸ (emits.ordered valid).nodup
  have nodes : (graph.nodes.map Node.id).Nodup := valid.nodesIndexed.keys_eq ▸ valid.nodesIndexed.distinct
  rw [← Function.comp_def, ← List.map_map] at ids
  refine (List.perm_ext_iff_of_nodup ids.of_map nodes.of_map).mpr fun node => ⟨fun member => ?_, fun member => ?_⟩
  · obtain ⟨turn, taken, rfl⟩ := List.mem_map.mp member
    exact (valid.node?_eq_some.mp (emits.found taken)).1
  · have found := valid.node?_eq_some.mpr ⟨member, rfl⟩
    have emitted := (all node.id).mpr (Graph.hasNode_of_found found)
    rw [emits.emitted] at emitted
    obtain ⟨turn, taken, same⟩ := List.mem_map.mp emitted
    have again := emits.found taken
    rw [same, found] at again
    exact List.mem_map.mpr ⟨turn, taken, (Option.some.inj again).symm⟩

theorem turn_of (valid : graph.WellFormed) (acyclic : graph.Acyclic) (options : Options) (member : node ∈ graph.nodes) :
    ∃ turn ∈ turns graph options, turn.node = node :=
  List.mem_map.mp ((turns_nodes valid acyclic options).mem_iff.mpr member)

theorem turns_ordered (valid : graph.WellFormed) (acyclic : graph.Acyclic) (options : Options) :
    graph.Topological ((turns graph options).map (·.node.id)) := by
  obtain ⟨emits, _⟩ := session_emits valid acyclic options
  intro source _ target listed feeds
  rw [← emits.emitted] at listed ⊢
  exact (emits.ordered valid).before listed (by rwa [Graph.draws_all valid])

-- The variable of a node: its own, or for a display that of what it shows.
theorem variable_exact (valid : graph.WellFormed) (acyclic : graph.Acyclic) (options : Options)
    (taken : turn ∈ turns graph options) :
    (session graph options).assigned.lookup turn.node.id =
      if turn.node.kind.isDisplay then
        ((graph.wiring turn.node).get? "input").bind ((session graph options).assigned.lookup ·.source)
      else turn.assigns? := by
  obtain ⟨emits, _⟩ := session_emits valid acyclic options
  rw [emits.carries turn taken, Turn.carries?]
  split
  · rw [← Inputs.get?_map, emits.wired valid turn taken, Inputs.get?_filterMap]
  · rfl

-- What the comments and the copied formula of a turn assign.
def Turn.strays (turn : Turn) : List String := Emission.strays turn.node turn.inputs

-- Its comments stay on their lines, and its formula assigns nothing and closes its brackets.
structure Turn.Plain (turn : Turn) : Prop where
  quotable : Emission.Quotable turn.node turn.inputs
  formula : Python.Inert (Emission.copying turn.node turn.inputs)

theorem operands_words (valid : graph.WellFormed) (acyclic : graph.Acyclic) (options : Options)
    (taken : turn ∈ turns graph options) : ∀ operand ∈ turn.inputs.items, Python.IsWord operand.name := by
  obtain ⟨emits, _⟩ := session_emits valid acyclic options
  intro operand member
  obtain ⟨before, after, split⟩ := List.append_of_mem taken
  obtain ⟨earlier, there, line, stands, assigned⟩ := emits.defined before turn after split operand member
  have listed : earlier ∈ turns graph options := by
    rw [split]
    exact List.mem_append_left _ there
  have assigns : operand.name ∈ earlier.emission.statements.filterMap Python.assigned? :=
    List.mem_filterMap.mpr ⟨line, stands, assigned⟩
  rw [Turn.statements_assign (emits.words earlier listed)] at assigns
  obtain ⟨computes, same⟩ := Turn.assigns?_eq_some.mp (Option.mem_toList.mp assigns)
  rw [← same]
  exact emits.words earlier listed computes

theorem turn_assignments (valid : graph.WellFormed) (acyclic : graph.Acyclic) (options : Options)
    (taken : turn ∈ turns graph options) :
    (turn.emission.statements.flatMap Python.assignments).Perm (turn.assigns?.toList ++ turn.strays) := by
  obtain ⟨emits, _⟩ := session_emits valid acyclic options
  have read := Emission.ofNode_assignments (operands_words valid acyclic options taken) (emits.words turn taken)
  have own : turn.assigns?.toList = if turn.node.kind.Computes then [turn.name] else [] := by
    rw [Turn.assigns?]
    split <;> rfl
  rw [own]
  exact read

theorem body_assignments (valid : graph.WellFormed) (acyclic : graph.Acyclic) (options : Options) :
    ((session graph options).body.flatMap Python.assignments).Perm
      ((turns graph options).filterMap Turn.assigns? ++ (turns graph options).flatMap Turn.strays) := by
  obtain ⟨emits, _⟩ := session_emits valid acyclic options
  have each : ((turns graph options).flatMap fun turn => turn.emission.statements.flatMap Python.assignments).Perm
      ((turns graph options).flatMap fun turn => turn.assigns?.toList ++ turn.strays) :=
    .flatMap_left _ fun turn taken => turn_assignments valid acyclic options taken
  rw [emits.body, List.flatMap_assoc, List.filterMap_eq_flatMap_toList]
  exact each.trans (List.flatMap_append_perm ..).symm

-- A body with nothing astray is read as one text.
theorem body_plain (valid : graph.WellFormed) (acyclic : graph.Acyclic) (options : Options)
    (plain : ∀ turn ∈ turns graph options, turn.Plain) :
    Python.assignments ("\n".intercalate (session graph options).body) =
      (session graph options).body.flatMap Python.assignments ∧ (turns graph options).flatMap Turn.strays = [] := by
  obtain ⟨emits, _⟩ := session_emits valid acyclic options
  have each : ∀ turn ∈ turns graph options, turn.strays = [] ∧
      ∀ line ∈ turn.emission.statements, Python.Assigns line (Python.assignments line) := by
    intro turn taken
    obtain ⟨quotable, formula⟩ := plain turn taken
    exact Emission.ofNode_plain (operands_words valid acyclic options taken) (emits.words turn taken) quotable formula
  constructor
  · refine (Python.assigns_lines ?_).exact
    rw [emits.body, List.forall_mem_flatMap]
    exact fun turn taken => (each turn taken).2
  · exact List.flatMap_eq_nil_iff.mpr fun turn taken => (each turn taken).1

theorem entries_distinct (valid : graph.WellFormed) (acyclic : graph.Acyclic) (options : Options) :
    ((session graph options).assigned.map (·.1)).Nodup := by
  obtain ⟨emits, _⟩ := session_emits valid acyclic options
  have ids : ((turns graph options).map (·.node.id)).Nodup := emits.emitted ▸ (emits.ordered valid).nodup
  rw [emits.assigned]
  refine List.pairwise_map.mpr (.filterMap Turn.listing? ?_ (List.pairwise_map.mp ids))
  intro first second apart one entered other later same
  obtain ⟨_, _, rfl⟩ := Option.map_eq_some_iff.mp entered
  obtain ⟨_, _, rfl⟩ := Option.map_eq_some_iff.mp later
  exact apart same

theorem assigns_once (valid : graph.WellFormed) (acyclic : graph.Acyclic) (options : Options) {first second : Turn}
    (one : first ∈ turns graph options) (two : second ∈ turns graph options)
    (assigns : first.assigns? = some name) (again : second.assigns? = some name) : first = second := by
  obtain ⟨emits, _⟩ := session_emits valid acyclic options
  have distinct := (List.nodup_cons.mp (emits.taken ▸ emits.distinct)).2
  have symmetric : Std.Symm fun first second : Turn =>
      ∀ name, first.assigns? = some name → ∀ other, second.assigns? = some other → name ≠ other :=
    ⟨fun _ _ differ name here other there same => differ other there name here same.symm⟩
  by_contra apart
  exact (List.pairwise_filterMap.mp distinct).forall one two apart name assigns name again rfl

theorem variable_isSome (valid : graph.WellFormed) (acyclic : graph.Acyclic) (options : Options) (id : String) :
    ((session graph options).assigned.lookup id).isSome ↔ ∃ node ∈ graph.nodes, node.id = id ∧ (node.kind.Computes ∨
      node.kind = .display ∧ ∃ edge, (graph.wiring node).get? "input" = some edge ∧
        ((session graph options).assigned.lookup edge.source).isSome) := by
  obtain ⟨emits, all⟩ := session_emits valid acyclic options
  constructor
  · intro carried
    obtain ⟨name, entered⟩ := Option.isSome_iff_exists.mp carried
    obtain ⟨node, found⟩ := Option.isSome_iff_exists.mp ((all id).mp (emits.listed entered))
    obtain ⟨member, rfl⟩ := valid.node?_eq_some.mp found
    obtain ⟨turn, taken, rfl⟩ := turn_of valid acyclic options member
    refine ⟨turn.node, member, rfl, ?_⟩
    rw [variable_exact valid acyclic options taken] at entered
    split at entered
    · rename_i display
      obtain ⟨edge, wired, source⟩ := Option.bind_eq_some_iff.mp entered
      exact .inr ⟨Kind.isDisplay_iff.mp display, edge, wired, Option.isSome_of_eq_some source⟩
    · exact .inl (Turn.assigns?_eq_some.mp entered).1
  · rintro ⟨node, member, rfl, carries⟩
    obtain ⟨turn, taken, rfl⟩ := turn_of valid acyclic options member
    rw [variable_exact valid acyclic options taken]
    rcases carries with computes | ⟨display, edge, wired, source⟩
    · simp [computes.1, Turn.assigns?, computes]
    · simp [display, Kind.isDisplay, wired, source]

-- The variable of a node that is no display is the one that its turn assigns.
theorem variable_assigned (valid : graph.WellFormed) (acyclic : graph.Acyclic) (options : Options)
    (member : node ∈ graph.nodes) (other : node.kind ≠ .display)
    (carried : (session graph options).assigned.lookup node.id = some name) :
    ∃ turn ∈ turns graph options, turn.node = node ∧ turn.assigns? = some name := by
  obtain ⟨turn, taken, rfl⟩ := turn_of valid acyclic options member
  rw [variable_exact valid acyclic options taken, if_neg fun display => other (Kind.isDisplay_iff.mp display)] at carried
  exact ⟨turn, taken, rfl, carried⟩

theorem mem_variables (valid : graph.WellFormed) (acyclic : graph.Acyclic) (options : Options) :
    name ∈ (session graph options).assigned.map (·.2) ↔ name ∈ (turns graph options).filterMap Turn.assigns? := by
  obtain ⟨emits, _⟩ := session_emits valid acyclic options
  constructor
  · intro member
    obtain ⟨entry, entered, rfl⟩ := List.mem_map.mp member
    exact List.mem_filterMap.mpr (emits.backed entry entered)
  · intro member
    obtain ⟨turn, taken, assigns⟩ := List.mem_filterMap.mp member
    have carries : turn.carries? = some name := by
      rw [Turn.carries?, (Turn.assigns?_eq_some.mp assigns).1.1]
      exact assigns
    rw [emits.assigned]
    refine List.mem_map.mpr ⟨(turn.node.id, name), List.mem_filterMap.mpr ⟨turn, taken, ?_⟩, rfl⟩
    rw [Turn.listing?, carries]
    rfl

-- What a program is made of, and how it hangs together.
structure Structured (graph : Graph) (options : Options) (program : Program) : Prop where
  source : program.source =
    "\n".intercalate (lines options (session graph options) (returned (session graph options) graph.sinks))
  body : (session graph options).body = (turns graph options).flatMap (·.emission.statements)
  diagnostics : program.diagnostics = (turns graph options).flatMap (·.emission.diagnostics)
  sinks : program.sinks = (graph.nodes.filter fun node =>
    node.kind.isDisplay || graph.edges.all (·.source != node.id)).map Node.id
  once : ((turns graph options).map Turn.node).Perm graph.nodes
  forward : graph.Topological ((turns graph options).map (·.node.id))
  defined : Turn.Defined (turns graph options)
  entries : (program.assigned.map (·.1)).Nodup
  keys : ∀ id, (program.variableOf? id).isSome ↔ ∃ node ∈ graph.nodes, node.id = id ∧ (node.kind.Computes ∨
    node.kind = .display ∧ ∃ edge, (graph.wiring node).get? "input" = some edge ∧ (program.variableOf? edge.source).isSome)
  distinct : ∀ first ∈ graph.nodes, ∀ second ∈ graph.nodes, first.kind ≠ .display → second.kind ≠ .display →
    ∀ name, program.variableOf? first.id = some name → program.variableOf? second.id = some name → first = second
  own : ((turns graph options).filterMap Turn.assigns?).Nodup ∧
    ∀ name, name ∈ (turns graph options).filterMap Turn.assigns? ↔ name ∈ program.assigned.map (·.2)
  assignments : ((session graph options).body.flatMap Python.assignments).Perm
    ((turns graph options).filterMap Turn.assigns? ++ (turns graph options).flatMap Turn.strays)
  -- A variable is assigned once, unless a comment or a copied formula assigns it as well.
  single : ∀ name ∈ program.assigned.map (·.2), ((session graph options).body.flatMap Python.assignments).count name = 1 ↔
    name ∉ (turns graph options).flatMap Turn.strays
  plain : (∀ turn ∈ turns graph options, turn.Plain) → (turns graph options).flatMap Turn.strays = [] ∧
    (Python.assignments ("\n".intercalate (session graph options).body)).Perm ((turns graph options).filterMap Turn.assigns?)

-- A number shown on the way to a sum, which takes in a display that shows nothing as well.
def tally : List Edit :=
  [.addNode ⟨"five", .input .number, .number 5, none⟩, .addNode (.ofKind "shown" .display),
    .addNode (.ofKind "blank" .display), .addNode (.ofKind "sum" .addition), .addNode (.ofKind "out" .display)] ++
  [("five", "shown"), ("shown", "sum"), ("blank", "sum"), ("sum", "out")].map fun ends => .connect ends.1 ends.2 none

theorem tally_acyclic : (Graph.build tally).Acyclic :=
  Graph.acyclic_of_ordered (Graph.Built.wellFormed ⟨tally, rfl⟩)
    (by decide +kernel : (Graph.build tally).orderSubset (Graph.build tally).nodeIds =
      .ok ["five", "shown", "blank", "sum", "out"])

-- The id of a display without an input goes on as a line that assigns the variable of a number.
def forged : List Edit :=
  [.addNode ⟨"five", .input .number, .number 5, none⟩, .addNode (.ofKind "a\n    num_1 = 99 #" .display)]

end Program
end Dataflow
