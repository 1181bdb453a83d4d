import Dataflow.Proofs.Engine.Cycle

namespace Dataflow

-- What is read of unknown kind once an edge is there that may be read along was read before.
theorem Graph.attach_misread {graph : Graph} {edge : Edge} {id typeName : String} (valid : graph.WellFormed)
    (addable : graph.Addable edge) (readable : graph.Readable edge.source)
    (misread : (graph.attach edge).Misread id typeName) : graph.Misread id typeName ∧ id ≠ edge.source := by
  obtain ⟨⟨node, member, named, kind⟩, other, there, source⟩ := misread
  have apart : id ≠ edge.source := by
    rintro rfl
    have known := readable node (valid.node?_eq_some.mpr ⟨member, named⟩)
    rw [kind] at known
    cases known
  refine ⟨⟨⟨node, member, named, kind⟩, other, ?_, source⟩, apart⟩
  rw [attach_edges addable.fresh] at there
  rcases List.mem_append.mp there with old | new
  · exact old
  · rw [List.mem_singleton.mp new] at source
    exact absurd source.symm apart

namespace Engine

variable {engine next : Engine} {op : Operation} {edge : Edge} {fault : EngineError}

theorem outcome_error {outcome : Outcome α} (failed : outcome.2.map (fun _ => ()) = .error fault) :
    outcome = (outcome.1, .error fault) := by
  obtain ⟨engine, result⟩ := outcome
  cases result with
  | ok value => cases failed
  | error other =>
    cases failed
    rfl

theorem failures_exposed (built : engine.graph.Built) (failed : op.apply engine = (next, .error fault)) :
    Unchanged engine next ∨ next.state = .dirty ∧
      ((∃ id, fault = .cycle id) ∨ (∃ id typeName, fault = .unknownKind id typeName) ∨ ∃ id, fault = .panic id) := by
  have course := operation_course built.wellFormed op
  generalize op.apply engine = outcome at failed course
  cases course with
  | aside _ _ still =>
    cases failed
    exact .inl (still fault rfl)
  | pass valid _ =>
    refine .inr ⟨settle_error failed, ?_⟩
    cases settle_stopped valid failed with
    | cycle _ _ => exact .inl ⟨_, rfl⟩
    | misread _ _ _ => exact .inr (.inl ⟨_, _, rfl⟩)
    | panic _ _ _ => exact .inr (.inr ⟨_, rfl⟩)

def garbling : List Operation := [.insertNode ⟨"text", .input .text, .text "before", none⟩,
  .insertNode (.ofKind "middle" .display), .insertNode (.ofKind "screen" .display),
  .connect "middle" "screen" none, .setKind "middle" (.unknown "gone")]

theorem garbling_exposed : (Origin.blank.engine.after garbling).state = .dirty ∧
    Unchanged (Origin.blank.engine.after (garbling.take 4))
      ((Operation.connect "screen" "middle" none).apply (Origin.blank.engine.after (garbling.take 4))).1 := by
  have built := after_built (origin_built .blank) (garbling.take 4)
  have garbled := outcome_error (by decide +kernel :
    ((Operation.setKind "middle" (.unknown "gone")).apply (Origin.blank.engine.after (garbling.take 4))).2.map (fun _ => ()) =
      .error (.unknownKind "middle" "gone"))
  have closing := outcome_error (by decide +kernel :
    ((Operation.connect "screen" "middle" none).apply (Origin.blank.engine.after (garbling.take 4))).2.map (fun _ => ()) =
      .error (.cycle "middle"))
  constructor
  · rcases failures_exposed built garbled with unchanged | ⟨dirty, _⟩
    · have kinds := congrArg (List.map Node.kind) unchanged.nodes
      exact absurd kinds (by decide +kernel)
    · exact dirty
  · rcases failures_exposed built closing with unchanged | ⟨dirty, _⟩
    · exact unchanged
    · exact absurd dirty (by decide +kernel)

-- An edge that stays although the pass after it breaks off, at a node that it leads to.
structure Kept (before after : Engine) (edge : Edge) (id : String) : Prop where
  reached : before.graph.Reaches edge.target id
  forms : after.graph.forms = before.graph.forms
  edges : after.graph.edges = before.graph.edges ++ [edge]
  state : after.state = .dirty

structure Interrupted (before after : Engine) (edge : Edge) (id typeName : String) : Prop
    extends Kept before after edge id where
  misread : before.graph.Misread id typeName
  other : id ≠ edge.source

theorem accept_fails (valid : engine.graph.WellFormed) (acyclic : engine.graph.Acyclic) (addable : engine.graph.Addable edge)
    (failed : accept { engine with graph := engine.graph.attach edge } edge.id edge.source edge.target =
      (next, .error fault)) :
    (Unchanged engine next ∧ ∀ id typeName, fault = .unknownKind id typeName → id = edge.source) ∨
      (∃ id typeName, fault = .unknownKind id typeName ∧ Interrupted engine next edge id typeName) ∨
      ∃ id, fault = .panic id ∧ Kept engine next edge id ∧ next.graph.Unsortable id := by
  have restored := unchanged_detached valid addable
  rcases accept_cases valid addable with ⟨_, _, refused⟩ | ⟨readable, ⟨_, _, refused⟩ | ⟨_, ordered, kept⟩⟩
  · rw [refused] at failed
    cases failed
    refine .inl ⟨restored, fun id typeName same => ?_⟩
    cases same
    rfl
  · rw [refused] at failed
    cases failed
    refine .inl ⟨restored, fun id typeName same => ?_⟩
    cases same
  · rw [kept] at failed
    have grown := Graph.attach_wellFormed valid addable
    have edges := settle_edges (engine.graph.attach edge) [edge.target] []
    have forms := settle_forms (engine.graph.attach edge) [edge.target] []
    rw [failed] at edges forms
    have kept {id : String} (inside : id ∈ (engine.graph.attach edge).forwardClosure [edge.target]) :
        Kept engine next edge id := by
      obtain ⟨seed, given, _, path⟩ := (Graph.mem_forwardClosure grown).mp inside
      rw [List.mem_singleton.mp given] at path
      refine ⟨Graph.attach_target addable.fresh path, forms, ?_, settle_error failed⟩
      rw [edges, Graph.attach_edges addable.fresh]
    cases settle_stopped grown failed with
    | cycle _ cycle =>
      exact absurd cycle (acyclic.attach addable.fresh (Graph.attach_apart valid addable ordered) _)
    | @misread id typeName _ inside misread =>
      obtain ⟨before, other⟩ := Graph.attach_misread valid addable readable misread
      exact .inr (.inl ⟨id, typeName, rfl, kept inside, before, other⟩)
    | @panic id _ inside unsortable => exact .inr (.inr ⟨id, rfl, kept inside, unsortable⟩)

theorem connections_refused_exactly (ops : List Operation)
    (adds : op.edge? (Origin.blank.engine.after ops).graph = some edge)
    (failed : op.apply (Origin.blank.engine.after ops) = (next, .error fault)) :
    (Unchanged (Origin.blank.engine.after ops) next ∧ ∀ id typeName, fault = .unknownKind id typeName → id = edge.source) ∨
      (∃ id typeName, fault = .unknownKind id typeName ∧
        Interrupted (Origin.blank.engine.after ops) next edge id typeName) ∨
      ∃ id, fault = .panic id ∧ Kept (Origin.blank.engine.after ops) next edge id ∧ next.graph.Unsortable id := by
  have valid := (after_built (origin_built .blank) ops).wellFormed
  have acyclic := after_acyclic (origin_built .blank) (origin_truthful .blank rfl).acyclic ops
  rcases insertion_cases valid adds with ⟨_, _, refused⟩ | ⟨addable, accepted⟩
  · rw [refused] at failed
    cases failed
    refine .inl ⟨.refl _, fun id typeName same => ?_⟩
    cases same
  · rw [accepted] at failed
    exact accept_fails valid acyclic addable failed

-- A text is connected to that display, and the other way round.
theorem garbling_refusals :
    Interrupted (Origin.blank.engine.after garbling)
      ((Operation.connect "text" "middle" none).apply (Origin.blank.engine.after garbling)).1
      ((Origin.blank.engine.after garbling).graph.connection "text" "middle" none) "middle" "gone" ∧
    Unchanged (Origin.blank.engine.after garbling)
      ((Operation.connect "middle" "text" none).apply (Origin.blank.engine.after garbling)).1 := by
  have broken := outcome_error (by decide +kernel :
    ((Operation.connect "text" "middle" none).apply (Origin.blank.engine.after garbling)).2.map (fun _ => ()) =
      .error (.unknownKind "middle" "gone"))
  have refused := outcome_error (by decide +kernel :
    ((Operation.connect "middle" "text" none).apply (Origin.blank.engine.after garbling)).2.map (fun _ => ()) =
      .error (.unknownKind "middle" "gone"))
  constructor
  · rcases connections_refused_exactly garbling rfl broken with ⟨_, blames⟩ | ⟨_, _, same, interrupted⟩ | ⟨_, panic, _⟩
    · exact absurd (blames _ _ rfl) (by decide)
    · cases same
      exact interrupted
    · cases panic
  · rcases connections_refused_exactly garbling rfl refused with ⟨unchanged, _⟩ | ⟨_, _, same, interrupted⟩ | ⟨_, panic, _⟩
    · exact unchanged
    · cases same
      exact absurd rfl interrupted.other
    · cases panic

theorem garbling_keeps_edge :
    ((Operation.connect "text" "middle" none).apply (Origin.blank.engine.after garbling)).2.map (fun _ => ()) =
      .error (.unknownKind "middle" "gone") ∧
    ((Operation.connect "text" "middle" none).apply (Origin.blank.engine.after garbling)).1.graph.edges ≠
      (Origin.blank.engine.after garbling).graph.edges :=
  ⟨by decide +kernel, by decide +kernel⟩

end Engine
end Dataflow
