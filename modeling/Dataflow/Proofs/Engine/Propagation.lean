import Dataflow.Proofs.Engine.Course

namespace Dataflow

namespace Graph

variable {before staged after : Graph} {reach : List String}

theorem Apart.passed (apart : Apart before staged reach) (revalued : Revalued staged after reach) :
    Apart before after reach := by
  refine ⟨revalued.feeds ▸ apart.onward, fun id there beyond => ?_⟩
  rw [revalued.outside id beyond, revalued.edgesInto]
  exact apart.kept id (revalued.hasNode ▸ there) beyond

-- What a pass does not reach was in order before the edit. Only a node of unknown kind may have become so
-- by it, when it lost its last reader.
def Beyond (before after : Graph) (reach : List String) : Prop :=
  ∀ id, after.hasNode id → id ∉ reach → ¬before.OnCycle id ∧ ∀ node, before.node? id = some node →
    if node.kind.isUnknown then after.Unread id else before.Holds node

theorem settled_beyond (valid : before.WellFormed) (edited : Edited before staged reach)
    (revalued : Revalued staged after reach) (settled : before.Settled) : Beyond before after reach := by
  intro id there beyond
  refine ⟨settled.acyclic id, fun node found => ?_⟩
  obtain ⟨member, rfl⟩ := valid.node?_eq_some.mp found
  have stable := settled.stable node member
  unfold Stable at stable
  split
  · rename_i unknown
    rw [if_pos unknown] at stable
    rw [← (edited.apart.kept node.id (revalued.hasNode ▸ there) beyond).1] at found
    have unread := edited.unread node.id node found unknown stable
    unfold Unread
    rw [revalued.edges]
    exact unread
  · rename_i known
    rw [if_neg known] at stable
    exact stable

theorem pass_exact (valid : before.WellFormed) (grown : after.WellFormed) (edited : Edited before staged reach)
    (passed : Engine.Passed staged after reach) : after.Settled ↔ Beyond before after reach := by
  have apart := edited.apart.passed passed.revalued
  constructor
  · intro settled id there beyond
    refine ⟨fun cycle => settled.acyclic id ((apart.onCycle valid grown there beyond).mpr cycle), fun node found => ?_⟩
    rw [← (apart.kept id there beyond).1] at found
    have stable := settled.stable node (grown.node?_eq_some.mp found).1
    unfold Stable at stable
    rw [(grown.node?_eq_some.mp found).2] at stable
    rw [← apart.holds grown found beyond]
    exact stable
  · intro rest
    refine ⟨fun id cycle => ?_, fun node member => ?_⟩
    · by_cases inside : id ∈ reach
      · unfold OnCycle at cycle
        rw [passed.revalued.feeds] at cycle
        exact passed.acyclic id inside cycle
      · have there := onCycle_node grown cycle
        exact (rest id there inside).1 ((apart.onCycle valid grown there inside).mp cycle)
    · have found := grown.node?_eq_some.mpr ⟨member, rfl⟩
      by_cases inside : node.id ∈ reach
      · exact passed.stable node.id inside node found
      · have there := hasNode_of_found found
        have kept := (rest node.id there inside).2 node ((apart.kept node.id there inside).1 ▸ found)
        rw [← apart.holds grown found inside] at kept
        exact kept

end Graph

namespace Engine

variable {engine next : Engine} {changes : List Change}

theorem operation_settles (built : engine.graph.Built) (settled : engine.graph.Settled) {op : Operation}
    (done : op.apply engine = (next, .ok changes)) : next.graph.Settled := by
  have valid := built.wellFormed
  have course := operation_course valid op
  have grown := (apply_built built op).wellFormed
  rw [done] at grown
  generalize op.apply engine = outcome at done course
  cases course with
  | aside grown alike _ =>
    cases done
    exact alike.settled valid grown settled
  | pass stagedValid edited =>
    have passed := (settle_ok stagedValid done).2
    exact (Graph.pass_exact valid grown edited passed).mpr
      (Graph.settled_beyond valid edited passed.revalued settled)

theorem settleAll_settles (built : engine.graph.Built) (done : engine.settleAll = (next, .ok changes)) :
    next.graph.Settled := by
  have valid := built.wellFormed
  have grown := (settleAll_built built done).wellFormed
  have passed := (settle_ok valid done).2
  refine (Graph.pass_exact valid grown (Graph.same_edited valid _) passed).mpr fun id there beyond => ?_
  rw [passed.revalued.hasNode] at there
  exact absurd (Graph.forwardClosure_seed valid (Graph.hasNode_iff.mp there) there) beyond

theorem propagation_settles (built : engine.graph.Built) :
    (engine.graph.Settled → ∀ op next changes, Operation.apply engine op = (next, .ok changes) → next.graph.Settled) ∧
      ∀ next changes, engine.settleAll = (next, .ok changes) → next.graph.Settled :=
  ⟨fun settled _ _ _ done => operation_settles built settled done,
    fun _ _ done => settleAll_settles built done⟩

theorem outcome_ok {outcome : Outcome α} (succeeded : outcome.2.isOk) : ∃ value, outcome = (outcome.1, .ok value) := by
  obtain ⟨engine, result⟩ := outcome
  cases result with
  | ok value => exact ⟨value, rfl⟩
  | error fault => cases succeeded

theorem outcome_map {outcome : Outcome α} {f : α → β} {b : β} (shown : outcome.2.map f = .ok b) :
    ∃ value, outcome = (outcome.1, .ok value) ∧ f value = b := by
  obtain ⟨engine, result⟩ := outcome
  cases result with
  | ok value => exact ⟨value, rfl, Except.ok.inj shown⟩
  | error fault => cases shown

-- A text on a screen that has yet to show it, and another text in its place.
def screened : List Edit := [.addNode ⟨"text", .input .text, .text "before", none⟩,
  .addNode (.ofKind "screen" .display), .connect "text" "screen" none]

def shown : Engine := ofGraph (Graph.build screened)

def retyped : Operation := .setValue "text" (.text "after")

theorem retyped_settles : shown.settleAll.1.graph.Settled ∧ (retyped.apply shown.settleAll.1).1.graph.Settled ∧
    ((retyped.apply shown.settleAll.1).1.value? "screen").map Value.toText = some "after" := by
  have built : shown.graph.Built := ⟨_, rfl⟩
  obtain ⟨first, all⟩ : ∃ changes, shown.settleAll = (shown.settleAll.1, .ok changes) := outcome_ok (by decide +kernel)
  obtain ⟨second, done⟩ : ∃ changes, retyped.apply shown.settleAll.1 = ((retyped.apply shown.settleAll.1).1, .ok changes) :=
    outcome_ok (by decide +kernel)
  have settled := (propagation_settles built).2 _ _ all
  refine ⟨settled, (propagation_settles (settle_built built _ _)).1 settled _ _ _ done, ?_⟩
  decide +kernel

end Engine
end Dataflow
