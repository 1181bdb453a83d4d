import Dataflow.Proofs.Engine.Propagation

namespace Dataflow

namespace Engine

def Truthful (engine : Engine) : Prop := engine.state = .idle → engine.graph.Settled

inductive Origin where
  | blank
  | around (edits : List Edit)

def Origin.engine : Origin → Engine
  | blank => .empty
  | around edits => .ofGraph (Graph.build edits)

-- The engine after some operations, also where some of them fail.
def after (engine : Engine) (ops : List Operation) : Engine :=
  ops.foldl (fun engine op => (op.apply engine).1) engine

def reach (engine : Engine) (op : Operation) : List String :=
  (op.apply engine).1.graph.forwardClosure (op.seeds engine.graph)

-- The operation marks no dirty engine as idle while something beyond its reach is amiss.
def Covers (engine : Engine) (op : Operation) : Prop :=
  engine.state = .dirty → (op.apply engine).1.state = .idle →
    Graph.Beyond engine.graph (op.apply engine).1.graph (engine.reach op)

variable {engine : Engine} {origin : Origin} {op : Operation} {ops : List Operation}

theorem origin_built (origin : Origin) : origin.engine.graph.Built := by
  cases origin with
  | blank => exact ⟨[], rfl⟩
  | around edits => exact ⟨edits, rfl⟩

theorem origin_truthful (origin : Origin) : origin.engine.Truthful := by
  cases origin with
  | blank =>
    refine fun _ => ⟨fun id cycle => ?_, fun node member => by cases member⟩
    obtain ⟨_, ⟨edge, member, _⟩, _⟩ := Relation.TransGen.head'_iff.mp cycle
    cases member
  | around edits => exact fun idle => by cases idle

theorem truthful_step (built : engine.graph.Built) (truthful : engine.Truthful) (op : Operation) :
    (op.apply engine).1.Truthful ↔ engine.Covers op := by
  have valid := built.wellFormed
  have grown := (apply_built built op).wellFormed
  have course := operation_course valid op
  unfold Covers reach
  generalize op.apply engine = outcome at course grown ⊢
  cases course with
  | aside grown alike _ =>
    constructor
    · intro _ dirty idle
      rw [dirty] at idle
      cases idle
    · exact fun _ idle => alike.settled valid grown (truthful idle)
  | @pass graph changes stagedValid edited =>
    cases settled : settle graph (op.seeds engine.graph) changes with
    | mk next result =>
      rw [settled] at grown
      cases result with
      | error fault =>
        have dirty := settle_error settled
        constructor
        · intro _ _ idle
          rw [dirty] at idle
          cases idle
        · intro _ idle
          rw [dirty] at idle
          cases idle
      | ok all =>
        obtain ⟨idle, passed⟩ := settle_ok stagedValid settled
        have settles := Graph.pass_exact valid grown edited passed
        have covered : Graph.Beyond engine.graph next.graph (next.graph.forwardClosure (op.seeds engine.graph)) ↔
            Graph.Beyond engine.graph next.graph (graph.forwardClosure (op.seeds engine.graph)) := by
          simp only [Graph.Beyond, passed.revalued.reach stagedValid grown]
        constructor
        · exact fun told _ _ => covered.mpr (settles.mp (told idle))
        · intro covers _
          cases state : engine.state with
          | dirty => exact settles.mpr (covered.mp (covers state idle))
          | idle => exact settles.mpr (Graph.settled_beyond valid edited passed.revalued (truthful state))

theorem after_built (built : engine.graph.Built) (ops : List Operation) : (engine.after ops).graph.Built := by
  induction ops generalizing engine with
  | nil => exact built
  | cons op ops ih => exact ih (apply_built built op)

theorem settleAll_covers (built : engine.graph.Built) : engine.Covers .settleAll := by
  intro _ idle id there beyond
  have valid := built.wellFormed
  have grown := (apply_built built .settleAll).wellFormed
  refine absurd (Graph.forwardClosure_seed grown ?_ there) beyond
  cases settled : Operation.settleAll.apply engine with
  | mk next result =>
    rw [settled] at idle there
    cases result with
    | error fault =>
      rw [settle_error settled] at idle
      cases idle
    | ok all =>
      rw [Graph.hasNode_iff, (settle_ok valid settled).2.revalued.keys] at there
      exact there

theorem run_truthful (built : engine.graph.Built) (truthful : engine.Truthful) (ops : List Operation) :
    (∀ done rest, ops = done ++ rest → (engine.after done).Truthful) ↔
      ∀ done op rest, ops = done ++ op :: rest → (engine.after done).Covers op := by
  induction ops generalizing engine with
  | nil =>
    constructor
    · intro _ done op rest split
      simp at split
    · intro _ done rest split
      rw [(List.append_eq_nil_iff.mp split.symm).1]
      exact truthful
  | cons op ops ih =>
    have step := truthful_step built truthful op
    constructor
    · intro told done next rest split
      rcases List.cons_eq_append_iff.mp split with ⟨rfl, same⟩ | ⟨later, rfl, same⟩
      · cases same
        exact step.mp (told [op] ops rfl)
      · have nextTruthful := told [op] ops rfl
        refine (ih (apply_built built op) nextTruthful).mp ?_ later next rest same
        rintro done rest rfl
        exact told (op :: done) rest rfl
    · intro covers done rest split
      rcases List.cons_eq_append_iff.mp split with ⟨rfl, _⟩ | ⟨later, rfl, same⟩
      · exact truthful
      · have nextTruthful := step.mpr (covers [] op ops rfl)
        refine (ih (apply_built built op) nextTruthful).mpr ?_ later rest same
        rintro done next rest rfl
        exact covers (op :: done) next rest rfl

theorem state_truthful_exact (origin : Origin) (ops : List Operation) :
    (∀ done rest, ops = done ++ rest → (origin.engine.after done).Truthful) ↔
      ∀ done op rest, ops = done ++ op :: rest → (origin.engine.after done).Covers op :=
  run_truthful (origin_built origin) (origin_truthful origin) ops

-- Two runs that end idle: a screen was never brought up to date, and a text that is shown has lost its
-- meaning. The last operation of both has nothing to do with it.
def unrefreshed : Engine := (Origin.around screened).engine.after [.insertNode (.ofKind "other" .display)]

def unreadable : Engine := Origin.blank.engine.after [.insertNode ⟨"text", .input .text, .text "before", none⟩,
  .insertNode (.ofKind "screen" .display), .connect "text" "screen" none, .setKind "text" (.unknown "gone"),
  .insertNode (.ofKind "other" .display)]

theorem idle_untrue : (unrefreshed.state = .idle ∧ ¬unrefreshed.graph.Settled) ∧
    unreadable.state = .idle ∧ ¬unreadable.graph.Settled := by
  refine ⟨⟨by decide +kernel, fun settled => ?_⟩, by decide +kernel, fun settled => ?_⟩
  · have valid : unrefreshed.graph.WellFormed := (after_built (origin_built (.around screened)) _).wellFormed
    have screen : (unrefreshed.graph.node? "screen").map (fun node => (node.kind.isUnknown, node.value.toText,
        (unrefreshed.graph.liveValue? node).map fun live => (live.toText, live.same node.value))) =
          some (false, "", some ("before", false)) := by decide +kernel
    obtain ⟨node, found, holds⟩ := Option.map_eq_some_iff.mp screen
    simp only [Prod.mk.injEq] at holds
    obtain ⟨known, stored, told⟩ := holds
    have stable := settled.stable node (valid.node?_eq_some.mp found).1
    rw [Graph.Stable, known] at stable
    obtain ⟨value, live, same⟩ := stable
    simp only [live, Option.map_some, Option.some.injEq, Prod.mk.injEq] at told
    obtain ⟨shown, differs⟩ := told
    rcases same with rfl | same
    · rw [stored] at shown
      exact absurd shown (by decide)
    · rw [differs] at same
      cases same
  · have valid : unreadable.graph.WellFormed := (after_built (origin_built .blank) _).wellFormed
    have text : (unreadable.graph.node? "text").map Node.kind = some (.unknown "gone") := by decide +kernel
    obtain ⟨node, found, kind⟩ := Option.map_eq_some_iff.mp text
    obtain ⟨member, named⟩ := valid.node?_eq_some.mp found
    have stable := settled.stable node member
    rw [Graph.Stable, kind, Kind.isUnknown, if_pos rfl, named] at stable
    have read : ∃ edge ∈ unreadable.graph.edges, edge.source = "text" := by decide +kernel
    obtain ⟨edge, there, source⟩ := read
    exact stable edge there source

-- Whoever settles a dirty engine as a whole before anything else can go by its state.
theorem settled_first_truthful (origin : Origin) (ops : List Operation)
    (first : ∀ done op rest, ops = done ++ op :: rest → (origin.engine.after done).state = .dirty → op = .settleAll) :
    ∀ done rest, ops = done ++ rest → (origin.engine.after done).Truthful := by
  refine (run_truthful (origin_built origin) (origin_truthful origin) ops).mpr fun done op rest split dirty => ?_
  obtain rfl := first done op rest split dirty
  exact settleAll_covers (after_built (origin_built origin) done) dirty

end Engine
end Dataflow
