import Dataflow.Proofs.Engine.Operation
import Dataflow.Proofs.Engine.Pass
import Dataflow.Proofs.Graph.Acyclic
import Dataflow.Proofs.Value.Sorting

namespace Dataflow

def Node.form (node : Node) : String × Kind × Option String := (node.id, node.kind, node.name)

theorem Kind.evaluate_none {kind : Kind} {literal : Value} {inputs : Inputs Value} : kind.evaluate literal inputs = none ↔
    ∃ settings : ListSettings, kind = .list settings ∧ settings.operation = .sort ∧
      Value.sort? (targetItems inputs) = none := by
  cases kind with
  | list settings =>
    rw [evaluate, ListSettings.evaluate]
    cases operation : settings.operation <;> simp [operation]
  | _ => simp [evaluate]

namespace Graph

def forms (graph : Graph) : List (String × Kind × Option String) := graph.nodes.map Node.form

structure Misread (graph : Graph) (id typeName : String) : Prop where
  unknown : ∃ node ∈ graph.nodes, node.id = id ∧ node.kind = .unknown typeName
  read : ∃ edge ∈ graph.edges, edge.source = id

def Unsortable (graph : Graph) (id : String) : Prop :=
  ∃ node ∈ graph.nodes, node.id = id ∧ ∃ settings : ListSettings, node.kind = .list settings ∧
    settings.operation = .sort ∧ Value.sort? (targetItems (graph.liveInputs node)) = none

variable {before after graph : Graph} {id typeName : String} {ids : List String} {change : Option Value}
  {changes : List Change} {fault : EngineError}

theorem misread_iff : graph.Misread id typeName ↔
    (∃ form ∈ graph.forms, form.1 = id ∧ form.2.1 = .unknown typeName) ∧ ∃ edge ∈ graph.edges, edge.source = id := by
  have unknown : (∃ form ∈ graph.forms, form.1 = id ∧ form.2.1 = .unknown typeName) ↔
      ∃ node ∈ graph.nodes, node.id = id ∧ node.kind = .unknown typeName := by
    simp [forms, Node.form]
  rw [unknown]
  exact ⟨fun misread => ⟨misread.unknown, misread.read⟩, fun misread => ⟨misread.1, misread.2⟩⟩

theorem misread_same (forms : after.forms = before.forms) (edges : after.edges = before.edges) :
    after.Misread id typeName ↔ before.Misread id typeName := by
  rw [misread_iff, misread_iff, forms, edges]

theorem setValue_forms (graph : Graph) (id : String) (value : Value) : (graph.setValue id value).forms = graph.forms := by
  simp only [forms, nodes, setValue, update, Table.items, Table.modify, List.map_map]
  refine List.map_congr_left fun entry _ => ?_
  by_cases same : entry.1 = id <;> simp [same, Node.form]

theorem revise_forms : (graph.revise id change).forms = graph.forms := by
  cases change with
  | none => rfl
  | some value => exact setValue_forms graph id value

theorem unsortable_iff : graph.Unsortable id ↔ ∃ node ∈ graph.nodes, node.id = id ∧ graph.liveValue? node = none := by
  simp only [Unsortable, liveValue?, Kind.evaluate_none]

theorem Unsortable.unordered (unsortable : graph.Unsortable id) :
    ∃ node ∈ graph.nodes, node.id = id ∧ ¬Value.Consistent (targetItems (graph.liveInputs node)) := by
  obtain ⟨node, member, named, _, _, _, stuck⟩ := unsortable
  exact ⟨node, member, named, Value.sort?_none stuck⟩

theorem recompute_error (valid : graph.WellFormed) (failed : graph.recompute id = .error fault) :
    (fault = .nodeNotFound id ∧ graph.hasNode id = false) ∨
    (∃ typeName, fault = .unknownKind id typeName ∧ graph.Misread id typeName) ∨
    fault = .panic id ∧ graph.Unsortable id := by
  cases found : graph.node? id with
  | none =>
    rw [recompute, found] at failed
    cases failed
    exact .inl ⟨rfl, by rw [hasNode, Table.contains, ← node?, found]; rfl⟩
  | some node =>
    obtain ⟨member, rfl⟩ := valid.node?_eq_some.mp found
    by_cases unknown : node.kind.isUnknown
    · obtain ⟨typeName, kind⟩ := Kind.isUnknown_iff.mp unknown
      rw [recompute_unknown found kind] at failed
      split at failed
      · rename_i read
        cases failed
        exact .inr (.inl ⟨typeName, rfl, ⟨node, member, rfl, kind⟩, (valid.hasOutgoing_iff _).mp read⟩)
      · cases failed
    · rw [recompute_known found (Bool.eq_false_iff.mpr unknown)] at failed
      cases live : graph.liveValue? node with
      | none =>
        rw [live] at failed
        cases failed
        exact .inr (.inr ⟨rfl, unsortable_iff.mpr ⟨node, member, rfl, live⟩⟩)
      | some value =>
        rw [live] at failed
        cases failed

-- A pass that fails has been through with the nodes in front of the one that it fails at.
theorem recomputeAll_error (valid : graph.WellFormed) (ran : recomputeAll ids graph changes = (after, .error fault)) :
    ∃ done id rest all, ids = done ++ id :: rest ∧ recomputeAll done graph changes = (after, .ok all) ∧
      ((fault = .nodeNotFound id ∧ graph.hasNode id = false) ∨
        (∃ typeName, fault = .unknownKind id typeName ∧ graph.Misread id typeName) ∨
        fault = .panic id ∧ after.Unsortable id) := by
  induction ids generalizing graph changes with
  | nil => cases ran
  | cons id ids ih =>
    rw [recomputeAll_cons] at ran
    cases recomputed : graph.recompute id with
    | error early =>
      rw [recomputed] at ran
      cases ran
      exact ⟨[], id, ids, changes, rfl, rfl, recompute_error valid recomputed⟩
    | ok change =>
      rw [recomputed] at ran
      have revalued : Revalued graph (graph.revise id change) [id] := revise_revalued
      obtain ⟨done, last, rest, all, rfl, through, faults⟩ := ih (revise_wellFormed valid) ran
      rw [revalued.hasNode] at faults
      simp only [misread_same revise_forms revalued.edges] at faults
      refine ⟨id :: done, last, rest, all, rfl, ?_, faults⟩
      rw [recomputeAll_cons, recomputed]
      exact through

end Graph

namespace Engine

variable {graph : Graph} {engine : Engine} {seeds : List String} {changes : List Change} {fault : EngineError}

theorem settle_edges (graph : Graph) (seeds : List String) (changes : List Change) :
    (settle graph seeds changes).1.graph.edges = graph.edges :=
  settle_keeps (·.edges = graph.edges) (fun _ _ _ same => same) rfl seeds changes

theorem settle_forms (graph : Graph) (seeds : List String) (changes : List Change) :
    (settle graph seeds changes).1.graph.forms = graph.forms :=
  settle_keeps (·.forms = graph.forms) (fun other id value same => (Graph.setValue_forms other id value).trans same)
    rfl seeds changes

theorem settle_wellFormed (valid : graph.WellFormed) (seeds : List String) (changes : List Change) :
    (settle graph seeds changes).1.graph.WellFormed :=
  settle_keeps Graph.WellFormed (fun _ id _ valid => Graph.update_wellFormed valid id fun _ => rfl) valid seeds changes

-- What keeps a pass from its end. Cycles are looked for first.
inductive Stopped (graph after : Graph) (reach : List String) : EngineError → Prop where
  | cycle {id : String} : id ∈ reach → graph.OnCycle id → Stopped graph after reach (.cycle id)
  | misread {id typeName : String} : (∀ other ∈ reach, ¬graph.OnCycle other) → id ∈ reach →
      graph.Misread id typeName → Stopped graph after reach (.unknownKind id typeName)
  | panic {id : String} : (∀ other ∈ reach, ¬graph.OnCycle other) → id ∈ reach → after.Unsortable id →
      Stopped graph after reach (.panic id)

theorem settle_stopped (valid : graph.WellFormed) (failed : settle graph seeds changes = (engine, .error fault)) :
    Stopped graph engine.graph (graph.forwardClosure seeds) fault := by
  have there : ∀ id ∈ graph.forwardClosure seeds, graph.hasNode id = true := fun _ inside =>
    Graph.forwardClosure_node valid inside
  unfold settle at failed
  split at failed
  · rename_i unordered
    cases failed
    rcases Graph.orderSubset_error valid unordered with ⟨id, inside, _, absent⟩ | ⟨id, rfl, cycle⟩
    · rw [there id inside] at absent
      cases absent
    · exact .cycle cycle.member cycle.onCycle
  · rename_i order ordered
    obtain ⟨_, acyclic, arranges⟩ := Graph.orderSubset_ok valid ordered
    have free : ∀ id ∈ graph.forwardClosure seeds, ¬graph.OnCycle id := by
      intro id within cycle
      exact acyclic id (Graph.forwardClosure_cycle valid within cycle)
    split at failed
    · cases failed
    · rename_i ran
      cases failed
      obtain ⟨done, id, rest, _, rfl, _, faults⟩ := Graph.recomputeAll_error valid ran
      have inside : id ∈ graph.forwardClosure seeds := (arranges.lists id).mp (List.mem_append_right _ List.mem_cons_self)
      rcases faults with ⟨_, absent⟩ | ⟨typeName, rfl, misread⟩ | ⟨rfl, unsortable⟩
      · rw [there id inside] at absent
        cases absent
      · exact .misread free inside misread
      · exact .panic free inside unsortable

inductive Verdict (graph after : Graph) : Except EngineError (List Change) → Prop where
  | settled {changes : List Change} : graph.Acyclic → (∀ id typeName, ¬graph.Misread id typeName) →
      (∀ id, ¬after.Unsortable id) → Verdict graph after (.ok changes)
  | cycle {id : String} : graph.OnCycle id → Verdict graph after (.error (.cycle id))
  | misread {id typeName : String} : graph.Acyclic → graph.Misread id typeName →
      Verdict graph after (.error (.unknownKind id typeName))
  | panic {id : String} : graph.Acyclic → after.Unsortable id → Verdict graph after (.error (.panic id))

theorem settleAll_verdict (engine : Engine) (valid : engine.graph.WellFormed) :
    Verdict engine.graph engine.settleAll.1.graph engine.settleAll.2 := by
  have everywhere : ∀ id, engine.graph.hasNode id → id ∈ engine.graph.forwardClosure engine.graph.nodeIds :=
    fun id there => Graph.forwardClosure_seed valid (Graph.hasNode_iff.mp there) there
  have acyclic (free : ∀ id ∈ engine.graph.forwardClosure engine.graph.nodeIds, ¬engine.graph.OnCycle id) :
      engine.graph.Acyclic := by
    intro id cycle
    exact free id (everywhere id (Graph.onCycle_node valid cycle)) cycle
  have forms := settle_forms engine.graph engine.graph.nodeIds []
  have edges := settle_edges engine.graph engine.graph.nodeIds []
  have grown := settle_wellFormed valid engine.graph.nodeIds []
  rw [← settleAll] at forms edges grown
  cases settled : engine.settleAll with
  | mk next result =>
    rw [settled] at forms edges grown
    cases result with
    | ok changes =>
      obtain ⟨_, passed⟩ := settle_ok valid settled
      have stable : ∀ node ∈ next.graph.nodes, next.graph.Stable node := by
        intro node member
        have found := grown.node?_eq_some.mpr ⟨member, rfl⟩
        exact passed.stable node.id (everywhere node.id (passed.revalued.hasNode ▸ Graph.hasNode_of_found found)) node found
      refine .settled (acyclic passed.acyclic) ?_ ?_
      · intro id typeName misread
        obtain ⟨⟨node, member, rfl, kind⟩, edge, there, source⟩ := (Graph.misread_same forms edges).mpr misread
        have unread := stable node member
        rw [Graph.Stable, kind] at unread
        exact unread edge there source
      · intro id unsortable
        obtain ⟨node, member, _, settings, kind, sorting, stuck⟩ := unsortable
        have holds := stable node member
        rw [Graph.Stable, kind] at holds
        obtain ⟨value, live, _⟩ := holds
        rw [Graph.liveValue?, Kind.evaluate_none.mpr ⟨settings, kind, sorting, stuck⟩] at live
        cases live
    | error fault =>
      cases settle_stopped valid settled with
      | cycle _ cycle => exact .cycle cycle
      | misread free _ misread => exact .misread (acyclic free) misread
      | panic free _ unsortable => exact .panic (acyclic free) unsortable

theorem settleAll_cycles (engine : Engine) (valid : engine.graph.WellFormed) :
    (∃ id, engine.settleAll.2 = .error (.cycle id)) ↔ ∃ id, engine.graph.OnCycle id := by
  have verdict := settleAll_verdict engine valid
  generalize engine.settleAll.2 = result at verdict ⊢
  constructor
  · rintro ⟨id, rfl⟩
    cases verdict with
    | cycle cycle => exact ⟨id, cycle⟩
  · rintro ⟨id, cycle⟩
    cases verdict with
    | settled acyclic _ _ => exact absurd cycle (acyclic id)
    | cycle _ => exact ⟨_, rfl⟩
    | misread acyclic _ => exact absurd cycle (acyclic id)
    | panic acyclic _ => exact absurd cycle (acyclic id)

-- A full settle fails where there is a cycle, where an unknown kind is read and where a list cannot be sorted, and
-- nowhere else. A list that cannot be sorted has no order.
theorem settleAll_exact (built : graph.Built) :
    (¬graph.Acyclic → ∃ id, (ofGraph graph).settleAll.2 = .error (.cycle id) ∧ graph.OnCycle id) ∧
    (graph.Acyclic → (∃ id typeName, graph.Misread id typeName) →
      (∃ id typeName, (ofGraph graph).settleAll.2 = .error (.unknownKind id typeName) ∧ graph.Misread id typeName) ∨
      ∃ id, (ofGraph graph).settleAll.2 = .error (.panic id) ∧ (ofGraph graph).settleAll.1.graph.Unsortable id) ∧
    (graph.Acyclic → (∀ id typeName, ¬graph.Misread id typeName) →
      ((∃ changes, (ofGraph graph).settleAll.2 = .ok changes) ↔
        ∀ id, ¬(ofGraph graph).settleAll.1.graph.Unsortable id) ∧
      ∀ fault, (ofGraph graph).settleAll.2 = .error fault →
        ∃ id, fault = .panic id ∧ (ofGraph graph).settleAll.1.graph.Unsortable id) ∧
    ∀ id, (ofGraph graph).settleAll.1.graph.Unsortable id → ∃ node ∈ (ofGraph graph).settleAll.1.graph.nodes,
      node.id = id ∧ ¬Value.Consistent (targetItems ((ofGraph graph).settleAll.1.graph.liveInputs node)) := by
  have verdict : Verdict graph (ofGraph graph).settleAll.1.graph (ofGraph graph).settleAll.2 :=
    settleAll_verdict (ofGraph graph) built.wellFormed
  generalize (ofGraph graph).settleAll.2 = result at verdict ⊢
  generalize (ofGraph graph).settleAll.1.graph = after at verdict ⊢
  refine ⟨?_, ?_, ?_, fun _ => Graph.Unsortable.unordered⟩
  · intro cyclic
    cases verdict with
    | settled acyclic _ _ => exact absurd acyclic cyclic
    | cycle cycle => exact ⟨_, rfl, cycle⟩
    | misread acyclic _ => exact absurd acyclic cyclic
    | panic acyclic _ => exact absurd acyclic cyclic
  · intro acyclic read
    cases verdict with
    | settled _ clear _ =>
      obtain ⟨id, typeName, misread⟩ := read
      exact absurd misread (clear id typeName)
    | cycle cycle => exact absurd cycle (acyclic _)
    | misread _ misread => exact .inl ⟨_, _, rfl, misread⟩
    | panic _ unsortable => exact .inr ⟨_, rfl, unsortable⟩
  · intro acyclic clear
    cases verdict with
    | settled _ _ sorted => exact ⟨⟨fun _ => sorted, fun _ => ⟨_, rfl⟩⟩, nofun⟩
    | cycle cycle => exact absurd cycle (acyclic _)
    | misread _ misread => exact absurd misread (clear _ _)
    | panic _ unsortable =>
      refine ⟨⟨?_, fun sorted => absurd unsortable (sorted _)⟩, ?_⟩
      · rintro ⟨_, other⟩
        cases other
      · intro fault same
        cases same
        exact ⟨_, rfl, unsortable⟩

-- A node of unknown kind beside a screen, then shown on it, then with a loop on the screen as well.
def riddle : List Edit := [.addNode (.ofKind "riddle" (.unknown "widget")), .addNode (.ofKind "screen" .display),
  .connect "riddle" "screen" none, .connect "screen" "screen" none]

theorem riddle_verdicts :
    (∃ changes, (ofGraph (Graph.build (riddle.take 2))).settleAll.2 = .ok changes) ∧
    (∃ id typeName, (ofGraph (Graph.build (riddle.take 3))).settleAll.2 = .error (.unknownKind id typeName) ∧
      (Graph.build (riddle.take 3)).Misread id typeName) ∧
    ∃ id, (ofGraph (Graph.build riddle)).settleAll.2 = .error (.cycle id) ∧ (Graph.build riddle).OnCycle id := by
  refine ⟨((settleAll_exact ⟨riddle.take 2, rfl⟩).2.2.1 ?_ ?_).1.mpr ?_, ?_,
    (settleAll_exact ⟨riddle, rfl⟩).1 fun acyclic => ?_⟩
  · exact Graph.acyclic_of_ordered (Graph.Built.wellFormed ⟨_, rfl⟩)
      (by decide +kernel : (Graph.build (riddle.take 2)).orderSubset (Graph.build (riddle.take 2)).nodeIds =
        .ok ["riddle", "screen"])
  · intro id typeName misread
    have bare : ∀ edge ∈ (Graph.build (riddle.take 2)).edges, False := by decide +kernel
    obtain ⟨edge, there, _⟩ := misread.read
    exact bare edge there
  · intro id unsortable
    have valued : ∀ node ∈ (ofGraph (Graph.build (riddle.take 2))).settleAll.1.graph.nodes,
        ((ofGraph (Graph.build (riddle.take 2))).settleAll.1.graph.liveValue? node).isSome := by decide +kernel
    obtain ⟨node, member, _, none⟩ := Graph.unsortable_iff.mp unsortable
    have some := valued node member
    rw [none] at some
    cases some
  · have acyclic := Graph.acyclic_of_ordered (Graph.Built.wellFormed ⟨_, rfl⟩)
      (by decide +kernel : (Graph.build (riddle.take 3)).orderSubset (Graph.build (riddle.take 3)).nodeIds =
        .ok ["riddle", "screen"])
    have misread : (Graph.build (riddle.take 3)).Misread "riddle" "widget" := ⟨by decide +kernel, by decide +kernel⟩
    rcases (settleAll_exact ⟨riddle.take 3, rfl⟩).2.1 acyclic ⟨_, _, misread⟩ with told | ⟨id, panic, _⟩
    · exact told
    · have other : (ofGraph (Graph.build (riddle.take 3))).settleAll.2.map (fun _ => ()) =
          .error (.unknownKind "riddle" "widget") := by decide +kernel
      rw [panic] at other
      cases other
  · have loop : (Graph.build riddle).Feeds "screen" "screen" := by
      unfold Graph.Feeds
      decide +kernel
    exact acyclic "screen" (.single loop)

-- Lists of one number, all but one of one text. As it equals all others, the order of these tells nothing of it.
def muddle : List Value :=
  [[.number 0], [.number 8], [.number 16], [.number 3], [.number 11], [.number 19], [.number 6], [.number 14], [.number 1],
    [.number 9], [.text "a"], [.number 4], [.number 12], [.number 20], [.number 7], [.number 15], [.number 2], [.number 10],
    [.number 18], [.number 5], [.number 13]].map .list

def muddled : List Edit := [.addNode ⟨"muddle", .input .list, .list muddle, none⟩,
  .addNode (.ofKind "order" (.list { operation := .sort })), .connect "muddle" "order" none]

-- Nothing is amiss with this graph, but that the sort gives up.
theorem muddled_panics : (Graph.build muddled).Acyclic ∧ (∀ id typeName, ¬(Graph.build muddled).Misread id typeName) ∧
    (ofGraph (Graph.build muddled)).settleAll.2.map (fun _ => ()) = .error (.panic "order") := by
  refine ⟨?_, ?_, by decide +kernel⟩
  · exact Graph.acyclic_of_ordered (Graph.Built.wellFormed ⟨_, rfl⟩)
      (by decide +kernel : (Graph.build muddled).orderSubset (Graph.build muddled).nodeIds = .ok ["muddle", "order"])
  · intro id typeName misread
    have known : ∀ node ∈ (Graph.build muddled).nodes, node.kind.isUnknown = false := by decide +kernel
    obtain ⟨node, member, _, kind⟩ := misread.unknown
    have told := known node member
    rw [kind] at told
    cases told

end Engine
end Dataflow
