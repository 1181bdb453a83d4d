import Dataflow.Proofs.Engine.Ending
import Dataflow.Proofs.Engine.Truth

namespace Dataflow

namespace Engine

variable {engine : Engine} {outcome : Outcome (List Change)} {graph : Graph} {edge : Edge}

theorem settle_uncycled (valid : graph.WellFormed) (acyclic : graph.Acyclic) (seeds : List String)
    (changes : List Change) (id : String) : (settle graph seeds changes).2 ≠ .error (.cycle id) := by
  intro failed
  have stopped := settle_stopped valid (Prod.ext rfl failed)
  cases stopped with
  | cycle _ cycle => exact acyclic id cycle

-- The ways of an operation that brings in no edge.
inductive Quiet (engine : Engine) : Outcome (List Change) → Prop where
  | aside {next : Engine} {result : Except EngineError (List Change)} : next.graph.edges = engine.graph.edges →
      (∀ id, result ≠ .error (.cycle id)) → Quiet engine (next, result)
  | pass {graph : Graph} {seeds : List String} {changes : List Change} : graph.WellFormed →
      (∀ edge ∈ graph.edges, edge ∈ engine.graph.edges) → Quiet engine (settle graph seeds changes)

theorem Quiet.acyclic (quiet : Quiet engine outcome) (acyclic : engine.graph.Acyclic) :
    outcome.1.graph.Acyclic := by
  cases quiet with
  | aside edges _ => exact acyclic.mono fun edge member => edges ▸ member
  | pass _ kept =>
    refine acyclic.mono fun edge member => kept edge ?_
    rw [settle_edges] at member
    exact member

theorem Quiet.uncycled (quiet : Quiet engine outcome) (acyclic : engine.graph.Acyclic) (id : String) :
    outcome.2 ≠ .error (.cycle id) := by
  cases quiet with
  | aside _ other => exact other id
  | pass valid kept => exact settle_uncycled valid (acyclic.mono kept) _ _ id

theorem Quiet.refused {fault : EngineError} (other : ∀ id, fault ≠ .cycle id) : Quiet engine (engine.fail fault) :=
  .aside rfl fun id same => other id (Except.error.inj same)

theorem store_edges (graph : Graph) (node : Node) (literal : Value) :
    (store graph node literal).1.edges = graph.edges := by
  unfold store
  split <;> rfl

theorem setValue_quiet (built : engine.graph.Built) (id : String) (value : Value) :
    Quiet engine (engine.setValue id value) := by
  unfold setValue
  split
  · exact .refused fun _ same => by cases same
  · rename_i node _
    split
    · exact .pass (store_built built _ _).wellFormed fun edge member => store_edges engine.graph node _ ▸ member
    · exact .refused fun _ same => by cases same

theorem setKind_quiet (built : engine.graph.Built) (id : String) (kind : Kind) :
    Quiet engine (engine.setKind id kind) := by
  unfold setKind
  split
  · exact .refused fun _ same => by cases same
  · rename_i node _
    have changed := built.edited (.update id (fun node => { node with kind := kind }) fun _ => rfl)
    dsimp only
    split
    · refine .pass (store_built changed _ _).wellFormed fun edge member => ?_
      exact store_edges (engine.graph.update id fun node => { node with kind := kind }) node _ ▸ member
    · exact .pass changed.wellFormed fun _ member => member

theorem setName_quiet (engine : Engine) (id : String) (name : Option String) :
    Quiet engine (engine.setName id name) := by
  unfold setName
  split
  · exact .refused fun _ same => by cases same
  · exact .aside rfl fun _ same => by cases same

theorem insertNode_quiet (valid : engine.graph.WellFormed) (node : Node) :
    Quiet engine (engine.insertNode node) := by
  have grown := Graph.addNode_wellFormed valid { node with value := node.kind.coerce node.value }
  unfold insertNode
  rcases engine.graph.addNode_cases { node with value := node.kind.coerce node.value } with ⟨_, refused⟩ | ⟨_, added⟩
  · rw [refused]
    exact .refused fun _ same => by cases same
  · rw [added] at grown ⊢
    exact .pass grown fun _ member => member

theorem removeNode_quiet (valid : engine.graph.WellFormed) (id : String) :
    Quiet engine (engine.removeNode id) := by
  unfold removeNode
  cases found : engine.graph.node? id with
  | none =>
    rw [Graph.removeNode_absent found]
    exact .refused fun _ same => by cases same
  | some node =>
    obtain ⟨rest, removed, smaller, _, edges⟩ := Graph.removeNode_exact valid found
    rw [removed]
    refine .pass smaller fun edge member => ?_
    rw [edges] at member
    exact List.mem_of_mem_filter member

theorem disconnect_quiet (valid : engine.graph.WellFormed) (id : String) :
    Quiet engine (engine.disconnect id) := by
  unfold disconnect
  rcases Graph.removeEdge_cases valid id with ⟨_, refused⟩ | ⟨edge, there, rfl, removed⟩
  · rw [refused]
    exact .refused fun _ same => by cases same
  · rw [removed]
    refine .pass (Graph.detach_wellFormed valid there) fun other member => ?_
    rw [Graph.detach_edges valid] at member
    exact List.mem_of_mem_filter member

end Engine

namespace Operation

-- The operation adds an edge that the store takes in, that may be read from, and whose target already leads
-- to its source.
def Closes (graph : Graph) : Operation → Prop
  | connect source target handle => (∃ id, (graph.connect source target handle).2 = .ok id) ∧
      graph.Readable source ∧ graph.Reaches target source
  | insertEdge edge => (graph.addEdge edge).2 = .ok () ∧ graph.Readable edge.source ∧
      graph.Reaches edge.target edge.source
  | _ => False

end Operation

namespace Engine

variable {engine : Engine} {outcome : Outcome (List Change)} {edge : Edge} {op : Operation} {closes : Prop}

-- What is said of an operation: it keeps the graph free of cycles, and it speaks of a cycle exactly where it
-- would close one, and then leaves everything as it was.
structure Guarded (engine : Engine) (closes : Prop) (outcome : Outcome (List Change)) : Prop where
  acyclic : outcome.1.graph.Acyclic
  refuses : (∃ id, outcome.2 = .error (.cycle id)) ↔ closes
  restores : closes → Unchanged engine outcome.1

theorem Quiet.guarded (quiet : Quiet engine outcome) (acyclic : engine.graph.Acyclic) :
    Guarded engine False outcome := by
  refine ⟨quiet.acyclic acyclic, ⟨?_, False.elim⟩, False.elim⟩
  rintro ⟨id, cycle⟩
  exact quiet.uncycled acyclic id cycle

theorem Guarded.of_iff {other : Prop} (guarded : Guarded engine closes outcome) (same : closes ↔ other) :
    Guarded engine other outcome := propext same ▸ guarded

theorem Guarded.refused {fault : EngineError} (acyclic : engine.graph.Acyclic) (other : ∀ id, fault ≠ .cycle id)
    (never : ¬closes) : Guarded engine closes (engine.fail fault) :=
  ((Quiet.refused other).guarded acyclic).of_iff ⟨False.elim, never⟩

-- The new edge closes a cycle exactly if one leads to its target, and it is looked for only there.
theorem accept_guarded (valid : engine.graph.WellFormed) (acyclic : engine.graph.Acyclic)
    (addable : engine.graph.Addable edge) :
    Guarded engine (engine.graph.Readable edge.source ∧ engine.graph.Reaches edge.target edge.source)
      (accept { engine with graph := engine.graph.attach edge } edge.id edge.source edge.target) := by
  have grown := Graph.attach_wellFormed valid addable
  have unchanged := unchanged_detached valid addable
  have restored := acyclic.mono fun _ member => unchanged.edges ▸ member
  rcases accept_cases valid addable with ⟨_, unreadable, refused⟩ | ⟨readable, ⟨id, ordered, refused⟩ | ⟨_, ordered, kept⟩⟩
  · rw [refused]
    refine ⟨restored, ⟨?_, fun closes => absurd closes.1 unreadable⟩, fun _ => unchanged⟩
    rintro ⟨_, other⟩
    cases other
  · rw [refused]
    rcases Graph.evaluationOrder_error grown ordered with ⟨other, _⟩ | ⟨_, _, cycle, _⟩
    · cases other
    · have path := Graph.attach_onCycle addable.fresh acyclic cycle
      exact ⟨restored, ⟨fun _ => ⟨readable, path⟩, fun _ => ⟨id, rfl⟩⟩, fun _ => unchanged⟩
  · rw [kept]
    have apart := Graph.attach_apart valid addable ordered
    have still := acyclic.attach addable.fresh apart
    refine ⟨?_, ⟨?_, fun closes => absurd closes.2 apart⟩, fun closes => absurd closes.2 apart⟩
    · exact still.mono fun edge member => by rwa [settle_edges] at member
    · rintro ⟨id, cycle⟩
      exact absurd cycle (settle_uncycled grown still _ _ id)

theorem closes_iff (valid : engine.graph.WellFormed) (adds : op.edge? engine.graph = some edge) :
    op.Closes engine.graph ↔ engine.graph.Addable edge ∧ engine.graph.Readable edge.source ∧
      engine.graph.Reaches edge.target edge.source := by
  cases op with
  | connect source target handle =>
    obtain rfl := Option.some.inj adds
    refine and_congr ?_ Iff.rfl
    rcases Graph.connect_cases valid source target handle with ⟨never, fault, refused⟩ | ⟨addable, added⟩
    · simp [refused, Graph.fail, never]
    · simp [added, addable]
  | insertEdge other =>
    obtain rfl := Option.some.inj adds
    refine and_congr ?_ Iff.rfl
    rcases Graph.addEdge_cases valid other with ⟨never, fault, refused⟩ | ⟨addable, added⟩
    · simp [refused, Graph.fail, never]
    · simp [added, addable]
  | _ => cases adds

theorem insertion_guarded (valid : engine.graph.WellFormed) (acyclic : engine.graph.Acyclic)
    (adds : op.edge? engine.graph = some edge) : Guarded engine (op.Closes engine.graph) (op.apply engine) := by
  have same := closes_iff valid adds
  rcases insertion_cases valid adds with ⟨never, fault, refused⟩ | ⟨addable, accepted⟩
  · rw [refused]
    exact .refused acyclic (fun _ other => by cases other) fun closes => never (same.mp closes).1
  · rw [accepted]
    exact (accept_guarded valid acyclic addable).of_iff ⟨fun closing => same.mpr ⟨addable, closing⟩,
      fun closes => (same.mp closes).2⟩

theorem operation_guarded (built : engine.graph.Built) (acyclic : engine.graph.Acyclic) (op : Operation) :
    Guarded engine (op.Closes engine.graph) (op.apply engine) := by
  have valid := built.wellFormed
  cases op with
  | setValue id value => exact (setValue_quiet built id value).guarded acyclic
  | setKind id kind => exact (setKind_quiet built id kind).guarded acyclic
  | setName id name => exact (setName_quiet engine id name).guarded acyclic
  | insertNode node => exact (insertNode_quiet valid node).guarded acyclic
  | removeNode id => exact (removeNode_quiet valid id).guarded acyclic
  | connect source target handle => exact insertion_guarded valid acyclic rfl
  | insertEdge edge => exact insertion_guarded valid acyclic rfl
  | disconnect id => exact (disconnect_quiet valid id).guarded acyclic
  | settleAll => exact (Quiet.pass valid fun _ member => member).guarded acyclic

theorem after_acyclic (built : engine.graph.Built) (acyclic : engine.graph.Acyclic) (ops : List Operation) :
    (engine.after ops).graph.Acyclic := by
  induction ops generalizing engine with
  | nil => exact acyclic
  | cons op ops ih => exact ih (apply_built built op) (operation_guarded built acyclic op).acyclic

theorem cycles_refused_exactly (built : engine.graph.Built) (acyclic : engine.graph.Acyclic) (ops : List Operation) :
    (engine.after ops).graph.Acyclic ∧ ∀ op : Operation,
      ((∃ id, (op.apply (engine.after ops)).2 = .error (.cycle id)) ↔ op.Closes (engine.after ops).graph) ∧
      (op.Closes (engine.after ops).graph → Unchanged (engine.after ops) (op.apply (engine.after ops)).1) := by
  have kept := after_acyclic built acyclic ops
  refine ⟨kept, fun op => ?_⟩
  have guarded := operation_guarded (after_built built ops) kept op
  exact ⟨guarded.refuses, guarded.restores⟩

-- Three nodes in a row, and an edge from the last to the first.
def row : List Operation := [.insertNode (.ofKind "a" .addition), .insertNode (.ofKind "b" .addition),
  .insertNode (.ofKind "c" .addition), .connect "a" "b" none, .connect "b" "c" none]

theorem row_refuses : (Origin.blank.engine.after row).graph.Acyclic ∧
    (∃ id, ((Operation.connect "c" "a" none).apply (Origin.blank.engine.after row)).2 = .error (.cycle id)) ∧
    Unchanged (Origin.blank.engine.after row)
      ((Operation.connect "c" "a" none).apply (Origin.blank.engine.after row)).1 := by
  obtain ⟨acyclic, exactly⟩ := cycles_refused_exactly (origin_built .blank) (origin_truthful .blank rfl).acyclic row
  have known : ((Origin.blank.engine.after row).graph.node? "c").map (·.kind.isUnknown) = some false := by
    decide +kernel
  have first : (Origin.blank.engine.after row).graph.Feeds "a" "b" := by
    unfold Graph.Feeds
    decide +kernel
  have second : (Origin.blank.engine.after row).graph.Feeds "b" "c" := by
    unfold Graph.Feeds
    decide +kernel
  have closes : (Operation.connect "c" "a" none).Closes (Origin.blank.engine.after row).graph := by
    refine ⟨⟨"c->a", by decide +kernel⟩, fun node found => ?_, .tail (.single first) second⟩
    rw [found] at known
    exact Option.some.inj known
  exact ⟨acyclic, (exactly _).1.mpr closes, (exactly _).2 closes⟩

end Engine
end Dataflow
