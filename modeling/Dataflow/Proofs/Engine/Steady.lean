import Dataflow.Proofs.Engine.Propagation
import Dataflow.Proofs.Graph.Acyclic
import Dataflow.Proofs.Value.Same

namespace Dataflow

namespace Graph

variable {graph : Graph} {node : Node} {id : String} {ids : List String} {change : Change}

theorem setValue_held (valid : graph.WellFormed) (found : graph.node? id = some node) :
    graph.setValue id node.value = graph := by
  rw [setValue, update, valid.nodesIndexed.modify_same found rfl]

-- What a pass tells of a node that is in order.
def restless (graph : Graph) (id : String) : Option Change :=
  (graph.node? id).bind fun node =>
    if node.kind.isUnknown ∨ node.value.same node.value then none else some ⟨id, node.value⟩

theorem restless_eq_some : graph.restless id = some change ↔ ∃ node, graph.node? id = some node ∧
    node.kind.isUnknown = false ∧ ¬node.value.same node.value ∧ change = ⟨id, node.value⟩ := by
  rw [restless, Option.bind_eq_some_iff]
  refine exists_congr fun node => and_congr_right fun _ => ?_
  split
  · rename_i either
    simp only [reduceCtorEq, false_iff]
    rintro ⟨known, unequal, _⟩
    simp [known, unequal] at either
  · rename_i either
    rw [not_or, Bool.not_eq_true] at either
    simp [either.1, either.2, eq_comm]

theorem mem_restless (valid : graph.WellFormed) (all : ∀ id, graph.hasNode id → id ∈ ids) :
    change ∈ ids.filterMap graph.restless ↔ ∃ node ∈ graph.nodes, node.kind.isUnknown = false ∧
      ¬node.value.same node.value ∧ change = ⟨node.id, node.value⟩ := by
  simp only [List.mem_filterMap, restless_eq_some, valid.node?_eq_some]
  constructor
  · rintro ⟨_, _, node, ⟨member, rfl⟩, known, unequal, rfl⟩
    exact ⟨node, member, known, unequal, rfl⟩
  · rintro ⟨node, member, known, unequal, rfl⟩
    have there := hasNode_of_found (valid.node?_eq_some.mpr ⟨member, rfl⟩)
    exact ⟨node.id, all node.id there, node, ⟨member, rfl⟩, known, unequal, rfl⟩

theorem recompute_stable (valid : graph.WellFormed) (found : graph.node? id = some node) (stable : graph.Stable node) :
    graph.recompute id = .ok ((graph.restless id).map Change.value) := by
  obtain ⟨member, rfl⟩ := valid.node?_eq_some.mp found
  rw [restless, found, Option.bind_some]
  by_cases unknown : node.kind.isUnknown
  · obtain ⟨typeName, kind⟩ := Kind.isUnknown_iff.mp unknown
    rw [Stable, if_pos unknown] at stable
    have unread : ¬graph.hasOutgoing node.id := by
      rw [valid.hasOutgoing_iff]
      rintro ⟨edge, there, source⟩
      exact stable edge there source
    rw [recompute_unknown found kind, if_neg unread, if_pos (.inl unknown)]
    rfl
  · rw [Stable, if_neg unknown] at stable
    obtain ⟨value, live, equal⟩ := stable
    rw [recompute_known found (Bool.eq_false_iff.mpr unknown), live]
    simp only [unknown, Bool.false_eq_true, false_or]
    rcases equal with rfl | equal
    · split <;> rfl
    · rw [if_pos equal, if_pos (Value.same_right equal)]
      rfl

theorem restless_held (valid : graph.WellFormed) (id : String) :
    graph.revise id ((graph.restless id).map Change.value) = graph := by
  cases told : graph.restless id with
  | none => rfl
  | some change =>
    obtain ⟨node, found, _, _, rfl⟩ := restless_eq_some.mp told
    exact setValue_held valid found

theorem recomputeAll_stable (valid : graph.WellFormed)
    (stable : ∀ id ∈ ids, ∃ node, graph.node? id = some node ∧ graph.Stable node) (changes : List Change) :
    recomputeAll ids graph changes = (graph, .ok (changes ++ ids.filterMap graph.restless)) := by
  induction ids generalizing changes with
  | nil => rw [recomputeAll, List.filterMap_nil, List.append_nil]
  | cons id ids ih =>
    obtain ⟨⟨node, found, inOrder⟩, others⟩ := List.forall_mem_cons.mp stable
    rw [recomputeAll_cons, recompute_stable valid found inOrder]
    dsimp only
    rw [restless_held valid, ih others, List.filterMap_cons]
    cases told : graph.restless id with
    | none => rfl
    | some change =>
      obtain ⟨_, _, _, _, rfl⟩ := restless_eq_some.mp told
      rw [Option.map_some, Option.elim_some, List.append_assoc]
      rfl

end Graph

namespace Engine

variable {engine next : Engine} {graph : Graph} {seeds : List String} {changes : List Change}

-- A pass over a graph that is settled already, wherever it begins.
theorem settle_settled (valid : graph.WellFormed) (settled : graph.Settled) (seeds : List String) (changes : List Change) :
    ∃ order : List String, (∀ id, id ∈ order ↔ id ∈ graph.forwardClosure seeds) ∧
      settle graph seeds changes = (⟨graph, .idle⟩, .ok (changes ++ order.filterMap graph.restless)) := by
  have there : ∀ id ∈ graph.forwardClosure seeds, graph.hasNode id := fun _ => Graph.forwardClosure_node valid
  obtain ⟨order, ordered⟩ := settled.acyclic.ordered valid there
  have arranges := (Graph.orderSubset_ok valid ordered).2.2
  refine ⟨order, arranges.lists, ?_⟩
  have stable : ∀ id ∈ order, ∃ node, graph.node? id = some node ∧ graph.Stable node := by
    intro id listed
    obtain ⟨node, found⟩ := Option.isSome_iff_exists.mp (there id ((arranges.lists id).mp listed))
    exact ⟨node, found, settled.stable node (valid.node?_eq_some.mp found).1⟩
  rw [settle, ordered]
  dsimp only
  rw [Graph.recomputeAll_stable valid stable]

theorem settleAll_idempotent (built : engine.graph.Built) (settled : engine.settleAll = (next, .ok changes)) :
    ∃ again, next.settleAll = (next, .ok again) ∧
      (∀ change, change ∈ again ↔ ∃ node ∈ next.graph.nodes, node.kind.isUnknown = false ∧
        ¬node.value.same node.value ∧ change = ⟨node.id, node.value⟩) ∧
      ∀ change ∈ again, ¬change.value.Numeric := by
  have valid := built.wellFormed
  have grown := (settleAll_built built settled).wellFormed
  obtain ⟨order, lists, same⟩ := settle_settled grown (settleAll_settles built settled) next.graph.nodeIds []
  have all : ∀ id, next.graph.hasNode id → id ∈ order := fun id there =>
    (lists id).mpr (Graph.forwardClosure_seed grown (Graph.hasNode_iff.mp there) there)
  have idle := (settle_ok valid settled).1
  refine ⟨order.filterMap next.graph.restless, ?_, fun _ => Graph.mem_restless grown all, fun change listed => ?_⟩
  · obtain ⟨graph, state⟩ := next
    obtain rfl : state = .idle := idle
    exact same
  · obtain ⟨node, _, _, unequal, rfl⟩ := (Graph.mem_restless grown all).mp listed
    rw [Value.same_self_iff] at unequal
    exact unequal

-- A number that is none, on a screen, beside a text.
def undefined : Engine := ofGraph (Graph.build [.addNode ⟨"number", .input .number, .number Decimal.notANumber, none⟩,
  .addNode ⟨"text", .input .text, .text "zero", none⟩, .addNode (.ofKind "screen" .display),
  .connect "number" "screen" none])

theorem undefined_again : ∃ again, undefined.settleAll.1.settleAll = (undefined.settleAll.1, .ok again) ∧
    again.map Change.node = ["number", "screen"] ∧ ∀ change ∈ again, ¬change.value.Numeric := by
  obtain ⟨_, settled⟩ : ∃ changes, undefined.settleAll = (undefined.settleAll.1, .ok changes) :=
    outcome_ok (by decide +kernel)
  obtain ⟨again, same, _, numberless⟩ := settleAll_idempotent ⟨_, rfl⟩ settled
  have told : undefined.settleAll.1.settleAll.2.map (List.map Change.node) = .ok ["number", "screen"] := by
    decide +kernel
  rw [same] at told
  exact ⟨again, same, Except.ok.inj told, numberless⟩

end Engine
end Dataflow
