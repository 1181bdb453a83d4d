import Dataflow.Proofs.Engine.Confluence
import Dataflow.Proofs.Engine.Cycle
import Dataflow.Proofs.Engine.Staging
import Dataflow.Proofs.Snapshot.Loading

namespace Dataflow

-- A conditional and a display hand on what they are fed, and a node of unknown kind keeps what it held before.
def Kind.shaped : Kind → Bool
  | ifElse | display | unknown _ => false
  | _ => true

def Node.WellTyped (node : Node) : Prop := node.kind.shaped → node.value.shape = node.kind.outputShape

theorem TextSettings.evaluate_shape (settings : TextSettings) (inputs : Inputs Value) :
    (settings.evaluate inputs).shape = (Kind.text settings).outputShape := by
  obtain ⟨operation⟩ := settings
  cases operation <;> rfl

theorem ListSettings.evaluate_shape {settings : ListSettings} {inputs : Inputs Value} {value : Value}
    (evaluated : settings.evaluate inputs = some value) : value.shape = (Kind.list settings).outputShape := by
  unfold evaluate at evaluated
  rw [Kind.outputShape]
  cases operation : settings.operation with
  | sort =>
    rw [operation] at evaluated
    obtain ⟨sorted, _, rfl⟩ := Option.map_eq_some_iff.mp evaluated
    rfl
  | _ =>
    rw [operation] at evaluated
    cases evaluated
    rfl

-- An input node yields what it holds, all other kinds yield values of their shape whatever they are fed.
theorem Kind.evaluate_shape {kind : Kind} (shaped : kind.shaped) {literal value : Value} {inputs : Inputs Value}
    (held : kind.isInput → literal.shape = kind.outputShape) (evaluated : kind.evaluate literal inputs = some value) :
    value.shape = kind.outputShape := by
  cases kind with
  | list settings => exact ListSettings.evaluate_shape evaluated
  | input shape =>
    cases evaluated
    exact held rfl
  | text settings =>
    cases evaluated
    exact settings.evaluate_shape inputs
  | ifElse | display | unknown _ => cases shaped
  | _ =>
    cases evaluated
    rfl

namespace Graph

def Typed (graph : Graph) (spared : String → Prop) : Prop := ∀ node ∈ graph.nodes, ¬spared node.id → node.WellTyped

variable {before graph : Graph} {node : Node} {id : String} {ids order : List String} {change : Option Value}
  {changes : List Change} {fault : EngineError} {value : Value} {spared : String → Prop}

theorem renewed_typed (held : node.kind.isInput → node.value.shape = node.kind.outputShape)
    (renewed : graph.renewed? node = some value) : Node.WellTyped { node with value := value } := by
  intro shaped
  change value.shape = node.kind.outputShape
  have known : ¬node.kind.isUnknown := by
    intro unknown
    obtain ⟨typeName, kind⟩ := Kind.isUnknown_iff.mp unknown
    simp [kind, Kind.shaped] at shaped
  rw [renewed?, if_neg known] at renewed
  obtain ⟨made, live, rfl⟩ := Option.map_eq_some_iff.mp renewed
  have shape := Kind.evaluate_shape shaped held live
  split
  · rename_i same
    exact (Value.same_shape same).symm.trans shape
  · exact shape

def TypedBut (graph : Graph) (spared : String → Prop) (id : String) : Prop :=
  ∀ node ∈ graph.nodes, ¬spared node.id → (node.id = id → node.kind.isInput) → node.WellTyped

theorem Typed.but (typed : graph.Typed spared) (id : String) : graph.TypedBut spared id :=
  fun node member free _ => typed node member free

theorem recompute_typed (valid : graph.WellFormed) (typed : graph.TypedBut spared id)
    (recomputed : graph.recompute id = .ok change) : (graph.revise id change).Typed spared := by
  intro node member free
  have found := (revise_wellFormed valid).node?_eq_some.mpr ⟨member, rfl⟩
  by_cases here : node.id = id
  · obtain ⟨old, there, _⟩ := recompute_ok valid recomputed
    obtain ⟨listed, named⟩ := valid.node?_eq_some.mp there
    rw [here, revise_renews recomputed there] at found
    obtain rfl := Option.some.inj found
    refine renewed_typed (fun input => typed old listed free (fun _ => input) ?_) (recompute_renews recomputed there)
    obtain ⟨shape, kind⟩ := Kind.isInput_iff.mp input
    rw [kind]
    rfl
  · have apart : node.id ∉ [id] := fun same => here (List.mem_singleton.mp same)
    rw [revise_revalued.outside node.id apart] at found
    exact typed node (valid.node?_eq_some.mp found).1 free fun same => absurd same here

-- Where a node cannot be recomputed it is of unknown kind, and may hold anything, or it sorts and is spared.
theorem recompute_untyped (valid : graph.WellFormed) (there : graph.hasNode id) (typed : graph.TypedBut spared id)
    (failed : graph.recompute id = .error fault) (told : fault = .panic id → spared id) : graph.Typed spared := by
  intro node member free
  by_cases here : node.id = id
  · rcases recompute_error valid failed with ⟨_, absent⟩ | ⟨typeName, _, misread⟩ | ⟨panic, _⟩
    · rw [there] at absent
      cases absent
    · obtain ⟨unknown, listed, named, kind⟩ := misread.unknown
      obtain rfl := node_unique valid member listed (here.trans named.symm)
      rw [Node.WellTyped, kind]
      exact fun shaped => by cases shaped
    · exact absurd (here ▸ told panic) free
  · exact typed node member free fun same => absurd same here

theorem recomputeAll_typed (valid : graph.WellFormed) (typed : graph.Typed spared) (ids : List String)
    (changes : List Change) : (recomputeAll ids graph changes).1.Typed spared := by
  induction ids generalizing graph changes with
  | nil => exact typed
  | cons id ids ih =>
    rw [recomputeAll_cons]
    cases recomputed : graph.recompute id with
    | error fault => exact typed
    | ok change => exact ih (revise_wellFormed valid) (recompute_typed valid (typed.but id) recomputed) _

theorem recomputeAll_first_typed (valid : graph.WellFormed) (there : graph.hasNode id) (typed : graph.TypedBut spared id)
    (ids : List String) (changes : List Change)
    (told : (recomputeAll (id :: ids) graph changes).2 = .error (.panic id) → spared id) :
    (recomputeAll (id :: ids) graph changes).1.Typed spared := by
  rw [recomputeAll_cons] at told ⊢
  cases recomputed : graph.recompute id with
  | error fault =>
    rw [recomputed] at told
    exact recompute_untyped valid there typed recomputed fun panic => told (congrArg Except.error panic)
  | ok change => exact recomputeAll_typed (revise_wellFormed valid) (recompute_typed valid typed recomputed) _ _

theorem Replaced.typedBut (replaced : Replaced before graph node) (typed : before.Typed spared)
    (held : node.kind.isInput → node.value.shape = node.kind.outputShape) : graph.TypedBut spared node.id := by
  intro other member free input
  by_cases here : other.id = node.id
  · obtain rfl := node_unique replaced.valid member replaced.there here
    exact fun _ => held (input rfl)
  · exact typed other (replaced.others other member here) free

end Graph

namespace Engine

variable {engine : Engine} {graph : Graph} {node : Node} {seeds order : List String} {changes : List Change}
  {spared : String → Prop}

theorem settle_recomputes (ordered : graph.orderSubset (graph.forwardClosure seeds) = .ok order) (changes : List Change) :
    (settle graph seeds changes).1.graph = (Graph.recomputeAll order graph changes).1 ∧
      (settle graph seeds changes).2 = (Graph.recomputeAll order graph changes).2 := by
  rw [settle, ordered]
  dsimp only
  generalize Graph.recomputeAll order graph changes = ran
  rcases ran with ⟨next, fault | all⟩ <;> exact ⟨rfl, rfl⟩

theorem settle_typed (valid : graph.WellFormed) (typed : graph.Typed spared) (seeds : List String)
    (changes : List Change) : (settle graph seeds changes).1.graph.Typed spared := by
  cases ordered : graph.orderSubset (graph.forwardClosure seeds) with
  | error fault =>
    rw [settle, ordered]
    exact typed
  | ok order =>
    rw [(settle_recomputes ordered changes).1]
    exact Graph.recomputeAll_typed valid typed order changes

theorem settle_first_typed (valid : graph.WellFormed) (acyclic : graph.Acyclic) (there : graph.hasNode node.id)
    (typed : graph.TypedBut spared node.id) (changes : List Change)
    (told : (settle graph [node.id] changes).2 = .error (.panic node.id) → spared node.id) :
    (settle graph [node.id] changes).1.graph.Typed spared := by
  have inside : ∀ id ∈ graph.forwardClosure [node.id], graph.hasNode id := fun _ => Graph.forwardClosure_node valid
  obtain ⟨order, ordered⟩ := acyclic.ordered valid inside
  obtain ⟨rest, rfl⟩ := Graph.orderSubset_seed valid there ordered
  obtain ⟨left, result⟩ := settle_recomputes ordered changes
  rw [result] at told
  rw [left]
  exact Graph.recomputeAll_first_typed valid there typed rest changes told

theorem operation_typed (built : engine.graph.Built) (acyclic : engine.graph.Acyclic) (typed : engine.graph.Typed spared)
    (op : Operation) (told : ∀ id, (op.apply engine).2 = .error (.panic id) → spared id) :
    (op.apply engine).1.graph.Typed spared := by
  have valid := built.wellFormed
  have grown := (apply_built built op).wellFormed
  have staged := operation_staged valid op
  generalize op.literal? engine.graph = literal at staged
  generalize op.apply engine = outcome at staged grown told ⊢
  have first {graph : Graph} {node : Node} (replaced : Graph.Replaced engine.graph graph node)
      (held : node.kind.isInput → node.value.shape = node.kind.outputShape) (changes : List Change)
      (told : (settle graph [node.id] changes).2 = .error (.panic node.id) → spared node.id) :
      (settle graph [node.id] changes).1.graph.Typed spared := by
    have there := Graph.hasNode_of_found (replaced.valid.node?_eq_some.mpr ⟨replaced.there, rfl⟩)
    refine settle_first_typed replaced.valid (acyclic.mono ?_) there (replaced.typedBut typed held) changes told
    intro edge member
    exact replaced.edges ▸ member
  cases staged with
  | aside alike _ =>
    intro node member free
    have same := alike node.id
    rw [grown.node?_eq_some.mpr ⟨member, rfl⟩] at same
    obtain ⟨old, found, same⟩ := Option.map_eq_some_iff.mp same.symm
    obtain ⟨listed, named⟩ := valid.node?_eq_some.mp found
    change node.bare.WellTyped
    rw [← same]
    exact typed old listed (named ▸ free)
  | pass stagedValid kept => exact settle_typed stagedValid (fun node member => typed node (kept node member)) _ _
  | replaced replaced held _ => exact first replaced held _ (told _)
  | stored replaced _ held => exact first replaced (fun _ => held) _ (told _)

theorem after_typed (built : engine.graph.Built) (acyclic : engine.graph.Acyclic) (typed : engine.graph.Typed spared)
    (ops : List Operation) (told : ∀ done op rest, ops = done ++ op :: rest →
      ∀ id, (op.apply (engine.after done)).2 = .error (.panic id) → spared id) :
    (engine.after ops).graph.Typed spared := by
  induction ops generalizing engine with
  | nil => exact typed
  | cons op ops ih =>
    have next := operation_typed built acyclic typed op (told [] op ops rfl)
    apply ih (apply_built built op) (operation_guarded built acyclic op).acyclic next
    intro done later rest split
    exact told (op :: done) later rest (congrArg (op :: ·) split)

end Engine

namespace Snapshot

variable {aliases : Aliases} {document : Document} {graph : Graph} {node : Node}

theorem nodeValue_shape {kind : Kind} {data : DocumentData} {value : Value} (read : nodeValue kind data = .ok value) :
    value.shape = kind.outputShape := by
  have default : kind.defaultValue.shape = kind.outputShape := Value.shape_default _
  unfold nodeValue at read
  split at read
  · rename_i input
    split at read
    · cases read
      exact default
    · obtain ⟨given, _, rfl⟩ := map_ok.mp read
      cases given with
      | none => exact default
      | some literal => exact Kind.coerce_input input literal
  · cases read
    exact default

theorem readNode_typed {given : DocumentNode} (read : readNode aliases given = .ok node) : node.WellTyped := by
  obtain ⟨kind, _, value, held, rfl⟩ := readNode_ok.mp read
  exact fun _ => nodeValue_shape held

theorem reads_typed {given : List DocumentNode} {nodes : List Node}
    (reads : List.Forall₂ (readNode aliases · = .ok ·) given nodes) : ∀ node ∈ nodes, node.WellTyped := by
  induction reads with
  | nil => exact List.forall_mem_nil _
  | cons read _ ih => exact List.forall_mem_cons.mpr ⟨readNode_typed read, ih⟩

theorem ofDocument_typed (accepted : ofDocument aliases document = .ok graph) (spared : String → Prop) :
    graph.Typed spared :=
  fun node member _ => reads_typed (ofDocument_ok accepted).2.1 node member

end Snapshot

namespace Engine

-- The engines that a program starts from: an empty one, or one around a graph without cycles that was read.
inductive Opening : Engine → Prop where
  | blank : Opening .empty
  | read {aliases : Snapshot.Aliases} {document : Document} {graph : Graph} :
      Snapshot.ofDocument aliases document = .ok graph → graph.Acyclic → Opening (.ofGraph graph)

variable {engine : Engine}

-- Out of shape may be only what an operation has panicked at, which has not returned then.
theorem values_typed (opening : Opening engine) (ops : List Operation) :
    ∀ node ∈ (engine.after ops).graph.nodes, node.kind.shaped → node.value.shape = node.kind.outputShape ∨
      ∃ done op rest, ops = done ++ op :: rest ∧ (op.apply (engine.after done)).2 = .error (.panic node.id) := by
  intro node member shaped
  refine or_iff_not_imp_right.mpr fun free => ?_
  have told : ∀ done op rest, ops = done ++ op :: rest → ∀ id, (op.apply (engine.after done)).2 = .error (.panic id) →
      ∃ done op rest, ops = done ++ op :: rest ∧ (op.apply (engine.after done)).2 = .error (.panic id) :=
    fun done op rest split id panic => ⟨done, op, rest, split, panic⟩
  cases opening with
  | blank =>
    have acyclic := (origin_truthful .blank rfl).acyclic
    exact after_typed (origin_built .blank) acyclic (fun _ none => by cases none) ops told node member free shaped
  | read accepted acyclic =>
    have typed := Snapshot.ofDocument_typed accepted
    exact after_typed (Snapshot.ofDocument_built accepted) acyclic (typed _) ops told node member free shaped

-- A sum on a screen. Its text becomes a number and its screen a list, and then it loses its meaning.
def sheet : Document where
  nodes := [{ id := "text", typeName := "stringInput", data := { value := some (.string "12") } },
    { id := "sum", typeName := "addition" }, { id := "screen", typeName := "display" }]
  edges := [{ source := "text", target := "sum" }, { source := "sum", target := "screen" }]

def blotted : List Operation := [.setKind "text" (.input .number), .setKind "screen" (.list { operation := .push }),
  .setKind "sum" (.unknown "gone")]

theorem blotted_typed : ∃ graph, Snapshot.ofDocument [] sheet = .ok graph ∧ ((ofGraph graph).after blotted).state = .dirty ∧
    ∀ node ∈ ((ofGraph graph).after blotted).graph.nodes, node.kind.shaped → node.value.shape = node.kind.outputShape ∨
      ∃ done op rest, blotted = done ++ op :: rest ∧ (op.apply ((ofGraph graph).after done)).2 = .error (.panic node.id) := by
  have read : (Snapshot.ofDocument [] sheet).toOption.map (fun graph => (graph.orderSubset graph.nodeIds,
      ((ofGraph graph).after blotted).state)) = some (.ok ["text", "sum", "screen"], .dirty) := by decide +kernel
  obtain ⟨graph, accepted, facts⟩ := Option.map_eq_some_iff.mp read
  simp only [Prod.mk.injEq] at facts
  rw [Snapshot.toOption_ok] at accepted
  have acyclic := Graph.acyclic_of_ordered (Snapshot.ofDocument_ok accepted).1 facts.1
  exact ⟨graph, accepted, facts.2, values_typed (.read accepted acyclic) blotted⟩

end Engine
end Dataflow
