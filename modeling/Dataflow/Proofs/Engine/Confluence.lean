import Dataflow.Proofs.Engine.Ending
import Dataflow.Proofs.Engine.Propagation

namespace Dataflow

namespace Graph

-- The value a node is left with, if there is one: what its kind makes of its inputs, unless that equals what it holds.
def renewed? (graph : Graph) (node : Node) : Option Value :=
  if node.kind.isUnknown then some node.value
  else (graph.liveValue? node).map fun value => if value.same node.value then node.value else value

variable {first second before after graph : Graph} {node : Node} {id source target : String} {ids : List String}
  {change : Option Value} {changes all : List Change}

theorem recompute_renews (recomputed : graph.recompute id = .ok change) (found : graph.node? id = some node) :
    graph.renewed? node = some (change.getD node.value) := by
  by_cases unknown : node.kind.isUnknown
  · obtain ⟨typeName, kind⟩ := Kind.isUnknown_iff.mp unknown
    rw [recompute_unknown found kind] at recomputed
    split at recomputed
    · cases recomputed
    · cases recomputed
      rw [renewed?, if_pos unknown]
      rfl
  · rw [recompute_known found (Bool.eq_false_iff.mpr unknown)] at recomputed
    rw [renewed?, if_neg unknown]
    cases live : graph.liveValue? node with
    | none =>
      rw [live] at recomputed
      cases recomputed
    | some value =>
      rw [live] at recomputed
      cases recomputed
      rw [Option.map_some]
      split <;> rfl

theorem revise_renews (recomputed : graph.recompute id = .ok change) (found : graph.node? id = some node) :
    (graph.revise id change).node? id = some { node with value := change.getD node.value } := by
  cases change with
  | none => exact found
  | some value =>
    refine (setValue_node? _ _ _ _).trans ?_
    rw [if_pos rfl, found]
    rfl

-- Every node of the order ends with the value that its final inputs tell, for what it was at first.
theorem recomputeAll_renews (valid : graph.WellFormed) (route : graph.Route ids)
    (ran : recomputeAll ids graph changes = (after, .ok all)) (listed : id ∈ ids) (found : graph.node? id = some node) :
    ∃ value, after.renewed? node = some value ∧ after.node? id = some { node with value := value } := by
  induction ids generalizing graph changes with
  | nil => cases listed
  | cons next ids ih =>
    have complete := (recomputeAll_ok valid route ran).1
    rw [recomputeAll_cons] at ran
    cases recomputed : graph.recompute next with
    | error fault =>
      rw [recomputed] at ran
      cases ran
    | ok change =>
      rw [recomputed] at ran
      have revised : Revalued graph (graph.revise next change) [next] := revise_revalued
      have route' := route.rest revised
      have new := (List.nodup_cons.mp route.distinct).1
      rcases List.mem_cons.mp listed with rfl | later
      · -- No source of the node comes after it, nor is it one itself: its inputs are final already.
        have undrawn : ∀ source ∈ id :: ids, ¬graph.Feeds source id := by
          intro source member
          rcases List.mem_cons.mp member with rfl | member
          · exact route.loopless _ List.mem_cons_self
          · exact (List.pairwise_cons.mp route.forward).1 source member
        obtain ⟨_, rfl⟩ := valid.node?_eq_some.mp found
        have final : after.renewed? node = graph.renewed? node := by
          unfold renewed? liveValue?
          rw [complete.liveInputs valid undrawn]
        rw [(recomputeAll_ok (revise_wellFormed valid) route' ran).1.outside _ new, final]
        exact ⟨_, recompute_renews recomputed found, revise_renews recomputed found⟩
      · have apart : id ∉ [next] := by
          intro same
          rw [List.mem_singleton.mp same] at later
          exact new later
        exact ih (revise_wellFormed valid) route' ran later ((revised.outside id apart).trans found)

-- Graphs of the same nodes, names aside, each with the same inputs in the same order. How the nodes follow one
-- another and how the edges do, and what the edges are called, does not matter.
structure Congruent (first second : Graph) : Prop where
  nodes : ∀ id, (first.node? id).map (fun node => (node.kind, node.value)) =
    (second.node? id).map fun node => (node.kind, node.value)
  wires : ∀ id, first.hasNode id → (first.edgesInto id).map (fun edge => (edge.source, edge.targetHandle)) =
    (second.edgesInto id).map fun edge => (edge.source, edge.targetHandle)

namespace Congruent

theorem hasNode (congruent : first.Congruent second) (id : String) : second.hasNode id = first.hasNode id := by
  have same := congrArg Option.isSome (congruent.nodes id)
  rw [Option.isSome_map, Option.isSome_map] at same
  exact same.symm

theorem symm (congruent : first.Congruent second) : second.Congruent first := by
  refine ⟨fun id => (congruent.nodes id).symm, fun id there => ?_⟩
  rw [congruent.hasNode] at there
  exact (congruent.wires id there).symm

theorem sources (congruent : first.Congruent second) (there : first.hasNode id) :
    second.sources id = first.sources id := by
  have same := congrArg (List.map Prod.fst) (congruent.wires id there)
  simpa only [Graph.sources, List.map_map, Function.comp_def] using same.symm

theorem feeds (congruent : first.Congruent second) (firstValid : first.WellFormed) (secondValid : second.WellFormed)
    (feeds : first.Feeds source target) : second.Feeds source target := by
  rw [← mem_sources secondValid, congruent.sources (feeds_target firstValid feeds)]
  exact (mem_sources firstValid).mpr feeds

theorem acyclic (congruent : first.Congruent second) (firstValid : first.WellFormed) (secondValid : second.WellFormed)
    (acyclic : second.Acyclic) : first.Acyclic := by
  intro id cycle
  exact acyclic id (Relation.TransGen.mono (fun _ _ => congruent.feeds firstValid secondValid) _ _ cycle)

theorem misread (congruent : first.Congruent second) (firstValid : first.WellFormed) (secondValid : second.WellFormed)
    (misread : first.Misread id typeName) : second.Misread id typeName := by
  obtain ⟨⟨node, member, rfl, kind⟩, edge, there, source⟩ := misread
  have same := congruent.nodes node.id
  rw [firstValid.node?_eq_some.mpr ⟨member, rfl⟩] at same
  obtain ⟨other, found, same⟩ := Option.map_eq_some_iff.mp same.symm
  simp only [Prod.mk.injEq] at same
  obtain ⟨member, named⟩ := secondValid.node?_eq_some.mp found
  obtain ⟨edge, there, source, _⟩ := congruent.feeds firstValid secondValid ⟨edge, there, source, rfl⟩
  exact ⟨⟨other, member, named, same.1.trans kind⟩, edge, there, source⟩

end Congruent

theorem liveInputs_wires (graph : Graph) (node : Node) : graph.liveInputs node =
    Inputs.bind node.kind.slots (((graph.edgesInto node.id).map fun edge => (edge.source, edge.targetHandle)).filterMap
      fun wire => ((graph.node? wire.1).map Node.value).map fun value => (wire.2, value)) := by
  unfold liveInputs
  rw [List.filterMap_map]
  refine congrArg _ (List.filterMap_congr fun edge _ => ?_)
  rw [Function.comp_apply, Option.map_map]
  rfl

end Graph

namespace Engine

variable {engine first second : Engine} {before after before' after' graph : Graph} {node node' : Node} {id : String}
  {ids ids' done rest : List String} {changes all : List Change}

structure Renewal (before after : Graph) (ids : List String) : Prop where
  revalued : before.Revalued after ids
  closed : ∀ target ∈ ids, ∀ source, before.Feeds source target → source ∈ ids
  renewed : ∀ id ∈ ids, ∀ node, before.node? id = some node →
    ∃ value, after.renewed? node = some value ∧ after.node? id = some { node with value := value }

theorem full_order (valid : graph.WellFormed) (ordered : graph.orderSubset (graph.forwardClosure graph.nodeIds) = .ok ids)
    (id : String) : id ∈ ids ↔ graph.hasNode id := by
  rw [(Graph.orderSubset_ok valid ordered).2.2.lists]
  constructor
  · exact Graph.forwardClosure_node valid
  · exact fun there => Graph.forwardClosure_seed valid (Graph.hasNode_iff.mp there) there

theorem pass_renewal (valid : graph.WellFormed)
    (ordered : graph.orderSubset (graph.forwardClosure graph.nodeIds) = .ok (done ++ rest))
    (ran : Graph.recomputeAll done graph changes = (after, .ok all)) : Renewal graph after done := by
  have route := Graph.orderSubset_route valid ordered
  have part := route.sublist (List.sublist_append_left done rest)
  refine ⟨(Graph.recomputeAll_ok valid part ran).1, ?_, ?_⟩
  · intro target listed source feeds
    exact route.closed listed feeds ((full_order valid ordered source).mpr (Graph.feeds_source valid feeds))
  · intro id listed node found
    exact Graph.recomputeAll_renews valid part ran listed found

theorem inputs_alike (valid : before.WellFormed) (valid' : before'.WellFormed) (congruent : before.Congruent before')
    (revalued : before.Revalued after ids) (revalued' : before'.Revalued after' ids') (found : before.node? id = some node)
    (found' : before'.node? id = some node') (kind : node.kind = node'.kind)
    (sources : ∀ source, before.Feeds source id →
      (after.node? source).map Node.value = (after'.node? source).map Node.value) :
    after.liveInputs node = after'.liveInputs node' := by
  obtain ⟨_, rfl⟩ := valid.node?_eq_some.mp found
  have named := (valid'.node?_eq_some.mp found').2
  rw [Graph.liveInputs_wires, Graph.liveInputs_wires, kind, named, revalued.edgesInto, revalued'.edgesInto,
    ← congruent.wires node.id (Graph.hasNode_of_found found)]
  refine congrArg _ (List.filterMap_congr fun wire listed => ?_)
  obtain ⟨edge, into, rfl⟩ := List.mem_map.mp listed
  obtain ⟨there, target⟩ := valid.mem_edgesInto.mp into
  rw [sources edge.source ⟨edge, there, rfl, target⟩]

-- The induction is along the edges: sources that agree feed a node alike.
theorem renewal_unique (valid : before.WellFormed) (valid' : before'.WellFormed) (acyclic : before.Acyclic)
    (congruent : before.Congruent before') (renewal : Renewal before after ids) (renewal' : Renewal before' after' ids')
    (id : String) : before.hasNode id → id ∈ ids → id ∈ ids' →
      (after.node? id).map Node.value = (after'.node? id).map Node.value := by
  induction id using acyclic.induction valid with
  | step target ih =>
    intro there listed listed'
    obtain ⟨node, found⟩ := Option.isSome_iff_exists.mp there
    have same := congruent.nodes target
    rw [← Graph.node?] at found
    rw [found] at same
    obtain ⟨other, found', same⟩ := Option.map_eq_some_iff.mp same.symm
    simp only [Prod.mk.injEq] at same
    obtain ⟨kind, value⟩ := same
    have inputs : after.liveInputs node = after'.liveInputs other := by
      apply inputs_alike valid valid' congruent renewal.revalued renewal'.revalued found found' kind.symm
      intro source feeds
      apply ih source feeds (Graph.feeds_source valid feeds)
      · exact renewal.closed target listed source feeds
      · exact renewal'.closed target listed' source (congruent.feeds valid valid' feeds)
    obtain ⟨left, renewed, final⟩ := renewal.renewed target listed node found
    obtain ⟨right, renewed', final'⟩ := renewal'.renewed target listed' other found'
    have agree : some left = some right := by
      rw [← renewed, ← renewed']
      simp only [Graph.renewed?, Graph.liveValue?, inputs, kind, value]
    rw [final, final', Option.map_some, Option.map_some, agree]

theorem settleAll_renewal (valid : engine.graph.WellFormed) (settled : engine.settleAll.2 = .ok changes) :
    engine.graph.Acyclic ∧ (∀ id typeName, ¬engine.graph.Misread id typeName) ∧
      ∃ ids, (∀ id, id ∈ ids ↔ engine.graph.hasNode id) ∧ Renewal engine.graph engine.settleAll.1.graph ids := by
  have finished : engine.settleAll = (engine.settleAll.1, .ok changes) := Prod.ext rfl settled
  obtain ⟨_, order, ordered, ran⟩ := settle_ran finished
  have verdict := settleAll_verdict engine valid
  rw [settled] at verdict
  cases verdict with
  | settled acyclic clear _ =>
    refine ⟨acyclic, clear, order, full_order valid ordered, ?_⟩
    rw [← List.append_nil order] at ordered
    exact pass_renewal valid ordered ran

theorem renewal_sortable (valid : before.WellFormed) (valid' : before'.WellFormed) (acyclic : before.Acyclic)
    (congruent : before.Congruent before') (everywhere : ∀ id, id ∈ ids ↔ before.hasNode id)
    (renewal : Renewal before after ids)
    (ordered : before'.orderSubset (before'.forwardClosure before'.nodeIds) = .ok (done ++ id :: rest))
    (through : Graph.recomputeAll done before' changes = (after', .ok all)) : ¬after'.Unsortable id := by
  intro unsortable
  obtain ⟨node', member, named, settings, kind', sorting, stuck⟩ := unsortable
  have route := Graph.orderSubset_route valid' ordered
  have renewal' := pass_renewal valid' ordered through
  have grown := Graph.recomputeAll_keeps Graph.WellFormed (fun _ id _ valid => Graph.update_wellFormed valid id fun _ => rfl)
    done changes valid'
  rw [through] at grown
  have there : before'.hasNode id :=
    (full_order valid' ordered id).mp (List.mem_append_right _ List.mem_cons_self)
  have fresh : id ∉ done := fun listed => (List.nodup_append.mp route.distinct).2.2 id listed id List.mem_cons_self rfl
  have found' := grown.node?_eq_some.mpr ⟨member, named⟩
  rw [renewal'.revalued.outside id fresh] at found'
  have same := congruent.nodes id
  rw [found'] at same
  obtain ⟨node, found, same⟩ := Option.map_eq_some_iff.mp same
  simp only [Prod.mk.injEq] at same
  have inputs : after.liveInputs node = after'.liveInputs node' := by
    apply inputs_alike valid valid' congruent renewal.revalued renewal'.revalued found found' same.1
    intro source feeds
    apply renewal_unique valid valid' acyclic congruent renewal renewal' source (Graph.feeds_source valid feeds)
    · exact (everywhere source).mpr (Graph.feeds_source valid feeds)
    · have feeds' := congruent.feeds valid valid' feeds
      have split : done ++ id :: rest = (done ++ [id]) ++ rest := (List.append_cons done id rest)
      have listed := (full_order valid' ordered source).mpr (Graph.feeds_source valid' feeds')
      have loopless := route.loopless id (List.mem_append_right _ List.mem_cons_self)
      rw [split] at route listed
      rcases List.mem_append.mp (route.closed (List.mem_append_right _ List.mem_cons_self) feeds' listed) with inside | last
      · exact inside
      · rw [List.mem_singleton.mp last] at feeds'
        exact absurd feeds' loopless
  obtain ⟨value, renewed, _⟩ := renewal.renewed id ((everywhere id).mpr (Graph.hasNode_of_found found)) node found
  have kind := same.1.trans kind'
  rw [Graph.renewed?, if_neg (by simp [kind, Kind.isUnknown]), Graph.liveValue?,
    Kind.evaluate_none.mpr ⟨settings, kind, sorting, inputs ▸ stuck⟩] at renewed
  cases renewed

-- The second pass would have to fail at a node that is fed alike in the first one, and there it has a value.
theorem settleAll_congruent_ok (firstValid : first.graph.WellFormed) (secondValid : second.graph.WellFormed)
    (congruent : first.graph.Congruent second.graph) (settled : ∃ changes, first.settleAll.2 = .ok changes) :
    ∃ changes, second.settleAll.2 = .ok changes := by
  obtain ⟨changes, settled⟩ := settled
  obtain ⟨acyclic, clear, ids, everywhere, renewal⟩ := settleAll_renewal firstValid settled
  have back := congruent.symm
  have acyclic' := back.acyclic secondValid firstValid acyclic
  have there : ∀ id ∈ second.graph.forwardClosure second.graph.nodeIds, second.graph.hasNode id :=
    fun _ => Graph.forwardClosure_node secondValid
  obtain ⟨order, ordered⟩ := acyclic'.ordered secondValid there
  cases ran : Graph.recomputeAll order second.graph [] with
  | mk after result =>
    cases result with
    | ok all =>
      rw [settleAll, settle, ordered]
      dsimp only
      rw [ran]
      exact ⟨all, rfl⟩
    | error fault =>
      obtain ⟨done, id, rest, all, rfl, through, faults⟩ := Graph.recomputeAll_error secondValid ran
      have named : id ∈ done ++ id :: rest := List.mem_append_right _ List.mem_cons_self
      rcases faults with ⟨_, absent⟩ | ⟨typeName, _, misread⟩ | ⟨_, unsortable⟩
      · rw [(full_order secondValid ordered id).mp named] at absent
        cases absent
      · exact absurd (back.misread secondValid firstValid misread) (clear id typeName)
      · exact absurd unsortable (renewal_sortable firstValid secondValid acyclic congruent everywhere renewal ordered through)

theorem settleAll_confluent (firstBuilt : first.graph.Built) (secondBuilt : second.graph.Built)
    (congruent : first.graph.Congruent second.graph) :
    ((∃ changes, first.settleAll.2 = .ok changes) ↔ ∃ changes, second.settleAll.2 = .ok changes) ∧
      ((∃ changes, first.settleAll.2 = .ok changes) → ∀ id, first.settleAll.1.value? id = second.settleAll.1.value? id) := by
  have firstValid := firstBuilt.wellFormed
  have secondValid := secondBuilt.wellFormed
  have onward := settleAll_congruent_ok firstValid secondValid congruent
  refine ⟨⟨onward, settleAll_congruent_ok secondValid firstValid congruent.symm⟩, fun settled id => ?_⟩
  obtain ⟨_, settled'⟩ := onward settled
  obtain ⟨_, settled⟩ := settled
  obtain ⟨acyclic, _, ids, everywhere, renewal⟩ := settleAll_renewal firstValid settled
  obtain ⟨_, _, ids', everywhere', renewal'⟩ := settleAll_renewal secondValid settled'
  by_cases there : first.graph.hasNode id
  · apply renewal_unique firstValid secondValid acyclic congruent renewal renewal' id there
    · exact (everywhere id).mpr there
    · exact (everywhere' id).mpr (congruent.hasNode id ▸ there)
  · have absent : id ∉ ids := mt (everywhere id).mp there
    have absent' : id ∉ ids' := by
      rw [everywhere' id, congruent.hasNode id]
      exact there
    have values := congrArg (Option.map Prod.snd) (congruent.nodes id)
    rw [value?, value?, renewal.revalued.outside id absent, renewal'.revalued.outside id absent']
    simpa only [Option.map_map, Function.comp_def] using values

-- One greeting in two orders, under other names.
def greeting : List Edit := [.addNode ⟨"hello", .input .text, .text "Hello, ", none⟩,
  .addNode ⟨"who", .input .text, .text "you", none⟩, .addNode (.ofKind "line" (.text { operation := .concat })),
  .addNode (.ofKind "screen" .display), .addEdge ⟨"1", "hello", "line", none, none⟩,
  .addEdge ⟨"2", "who", "line", none, none⟩, .addEdge ⟨"3", "line", "screen", none, none⟩]

def greetingBackwards : List Edit := [.addNode (.ofKind "screen" .display),
  .addNode ⟨"line", .text { operation := .concat }, .text "", some "greeting"⟩,
  .addNode ⟨"who", .input .text, .text "you", none⟩, .addNode ⟨"hello", .input .text, .text "Hello, ", none⟩,
  .addEdge ⟨"1", "line", "screen", none, none⟩, .addEdge ⟨"2", "hello", "line", none, none⟩,
  .addEdge ⟨"3", "who", "line", none, none⟩]

theorem greeting_congruent : (Graph.build greeting).Congruent (Graph.build greetingBackwards) := by
  have listed : (Graph.build greeting).nodeIds = ["hello", "who", "line", "screen"] := by decide +kernel
  have listed' : (Graph.build greetingBackwards).nodeIds = ["screen", "line", "who", "hello"] := by decide +kernel
  refine ⟨fun id => ?_, fun id there => ?_⟩
  · by_cases there : id ∈ (Graph.build greeting).nodeIds
    · rw [listed] at there
      simp only [List.mem_cons, List.not_mem_nil, or_false] at there
      rcases there with rfl | rfl | rfl | rfl <;> rfl
    · have absent : id ∉ (Graph.build greetingBackwards).nodeIds := by
        rw [listed] at there
        rw [listed']
        simp only [List.mem_cons, List.not_mem_nil, or_false] at there ⊢
        tauto
      rw [Graph.node?, (Table.get?_eq_none _ _).mpr there, Graph.node?, (Table.get?_eq_none _ _).mpr absent]
  · rw [Graph.hasNode_iff, listed] at there
    simp only [List.mem_cons, List.not_mem_nil, or_false] at there
    rcases there with rfl | rfl | rfl | rfl <;> decide +kernel

theorem greeting_confluent : (Graph.build greeting).nodeIds ≠ (Graph.build greetingBackwards).nodeIds ∧
    (∃ changes, (ofGraph (Graph.build greetingBackwards)).settleAll.2 = .ok changes) ∧
    (ofGraph (Graph.build greeting)).settleAll.1.value? "screen" =
      (ofGraph (Graph.build greetingBackwards)).settleAll.1.value? "screen" ∧
    ((ofGraph (Graph.build greeting)).settleAll.1.value? "screen").map Value.toText = some "Hello, you" := by
  obtain ⟨both, alike⟩ := @settleAll_confluent (ofGraph (Graph.build greeting)) (ofGraph (Graph.build greetingBackwards))
    ⟨_, rfl⟩ ⟨_, rfl⟩ greeting_congruent
  obtain ⟨changes, done⟩ : ∃ changes, (ofGraph (Graph.build greeting)).settleAll =
      ((ofGraph (Graph.build greeting)).settleAll.1, .ok changes) := outcome_ok (by decide +kernel)
  have settled : ∃ changes, (ofGraph (Graph.build greeting)).settleAll.2 = .ok changes := ⟨changes, congrArg Prod.snd done⟩
  exact ⟨by decide +kernel, both.mp settled, alike settled "screen", by decide +kernel⟩

end Engine
end Dataflow
