import Dataflow.Proofs.Engine.Ending
import Dataflow.Proofs.Program.Structure

namespace Dataflow

namespace Graph

-- The node leads to one that is emitted for its own sake.
def Drains (graph : Graph) (id : String) : Prop :=
  ∃ sink ∈ graph.nodes, (sink.kind.isDisplay ∨ graph.Unread sink.id) ∧ graph.Reaches id sink.id

theorem drains_iff {graph : Graph} (valid : graph.WellFormed) (id : String) :
    graph.Drains id ↔ ∃ sink ∈ graph.sinks, graph.Reaches id sink.id := by
  simp only [Drains, mem_sinks valid, Unread, and_assoc]

end Graph

namespace Program

variable {graph : Graph} {options : Options} {session next : Session} {sinks : List Node} {fault : OrderError}
  {program : Program} {id : String}

theorem sinks_error (failed : sinks.foldlM (Session.emitSink graph) session = .error fault) :
    ∃ sink ∈ sinks, graph.evaluationOrder sink.id = .error fault := by
  induction sinks generalizing session with
  | nil => cases failed
  | cons sink sinks ih =>
    rw [List.foldlM_cons, Session.emitSink] at failed
    cases ordered : graph.evaluationOrder sink.id with
    | error early =>
      rw [ordered] at failed
      cases failed
      exact ⟨sink, List.mem_cons_self, ordered⟩
    | ok order =>
      rw [ordered] at failed
      obtain ⟨other, later, stuck⟩ := ih failed
      exact ⟨other, List.mem_cons_of_mem _ later, stuck⟩

theorem sinks_ordered (ran : sinks.foldlM (Session.emitSink graph) session = .ok next) :
    ∀ sink ∈ sinks, ∃ order, graph.evaluationOrder sink.id = .ok order := by
  induction sinks generalizing session with
  | nil => exact fun _ listed => absurd listed List.not_mem_nil
  | cons sink sinks ih =>
    rw [List.foldlM_cons, Session.emitSink] at ran
    cases ordered : graph.evaluationOrder sink.id with
    | error early =>
      rw [ordered] at ran
      cases ran
    | ok order =>
      rw [ordered] at ran
      intro other listed
      rcases List.mem_cons.mp listed with rfl | later
      · exact ⟨order, ordered⟩
      · exact ih ran other later

-- Only a cycle keeps a graph from having a program, and it is told of a node on it.
theorem compile_error (valid : graph.WellFormed) (failed : compile graph options = .error fault) :
    ∃ id, fault = .cycle id ∧ graph.OnCycle id ∧ graph.Drains id := by
  unfold compile at failed
  split at failed
  · cases failed
  · split at failed
    · rename_i stuck
      cases failed
      obtain ⟨sink, listed, unordered⟩ := sinks_error stuck
      rcases Graph.evaluationOrder_error valid unordered with ⟨_, absent⟩ | ⟨id, rfl, cycle, path⟩
      · rw [Graph.sink_found valid listed] at absent
        cases absent
      · exact ⟨id, rfl, cycle, (Graph.drains_iff valid id).mpr ⟨sink, listed, path⟩⟩
    · cases failed

theorem compile_undrained (valid : graph.WellFormed) (compiled : compile graph options = .ok program)
    (cycle : graph.OnCycle id) : ¬graph.Drains id := by
  intro drains
  obtain ⟨sink, listed, path⟩ := (Graph.drains_iff valid id).mp drains
  unfold compile at compiled
  split at compiled
  · rename_i empty
    have node := ((Graph.mem_sinks valid).mp listed).1
    rw [List.isEmpty_iff.mp empty] at node
    cases node
  · split at compiled
    · cases compiled
    · rename_i ran
      obtain ⟨order, ordered⟩ := sinks_ordered ran sink listed
      exact (Graph.evaluationOrder_ok valid ordered).2.1 id cycle path

theorem emit_entered (valid : graph.WellFormed) {entry : String × String}
    (entered : entry ∈ (Session.emit graph session id).assigned) : entry ∈ session.assigned ∨ entry.1 = id := by
  by_cases again : id ∈ session.emitted
  · rw [(Session.emit_again graph again).1] at entered
    exact .inl entered
  · cases found : graph.node? id with
    | none =>
      simp only [Session.emit, List.contains_iff_mem, again, if_false, found] at entered
      exact .inl entered
    | some node =>
      obtain ⟨_, rfl⟩ := valid.node?_eq_some.mp found
      rw [(Session.emit_gains found again).1.assigned] at entered
      rcases List.mem_append.mp entered with earlier | last
      · exact .inl earlier
      · obtain ⟨_, _, rfl⟩ := Option.map_eq_some_iff.mp (Option.mem_toList.mp last)
        exact .inr rfl

theorem emits_entered (valid : graph.WellFormed) (ids : List String) {entry : String × String}
    (entered : entry ∈ (ids.foldl (Session.emit graph) session).assigned) :
    entry ∈ session.assigned ∨ entry.1 ∈ ids := by
  induction ids generalizing session with
  | nil => exact .inl entered
  | cons id ids ih =>
    rcases ih entered with earlier | later
    · rcases emit_entered valid earlier with before | rfl
      · exact .inl before
      · exact .inr List.mem_cons_self
    · exact .inr (List.mem_cons_of_mem _ later)

theorem sinks_entered (valid : graph.WellFormed) (ran : sinks.foldlM (Session.emitSink graph) session = .ok next)
    {entry : String × String} (entered : entry ∈ next.assigned) :
    entry ∈ session.assigned ∨ ∃ sink ∈ sinks, graph.Reaches entry.1 sink.id := by
  induction sinks generalizing session with
  | nil =>
    cases ran
    exact .inl entered
  | cons sink sinks ih =>
    rw [List.foldlM_cons, Session.emitSink] at ran
    cases ordered : graph.evaluationOrder sink.id with
    | error early =>
      rw [ordered] at ran
      cases ran
    | ok order =>
      rw [ordered] at ran
      rcases ih ran with earlier | ⟨other, later, path⟩
      · rcases emits_entered valid order earlier with before | listed
        · exact .inl before
        · have path := ((Graph.evaluationOrder_ok valid ordered).2.2.1.lists entry.1).mp listed
          exact .inr ⟨sink, List.mem_cons_self, path⟩
      · exact .inr ⟨other, List.mem_cons_of_mem _ later, path⟩

-- What leads to no sink is left out of a program, without a word.
theorem compile_names (valid : graph.WellFormed) (compiled : compile graph options = .ok program)
    (named : (program.variableOf? id).isSome) : graph.Drains id := by
  obtain ⟨name, found⟩ := Option.isSome_iff_exists.mp named
  have entered := Session.Emits.mem_of_lookup found
  unfold compile at compiled
  split at compiled
  · cases compiled
    cases entered
  · split at compiled
    · cases compiled
    · rename_i ran
      cases compiled
      rcases sinks_entered valid ran entered with none | drawn
      · cases none
      · exact (Graph.drains_iff valid id).mpr drawn

theorem compile_cycles (valid : graph.WellFormed) (options : Options) :
    (∃ id, compile graph options = .error (.cycle id)) ↔ ∃ id, graph.OnCycle id ∧ graph.Drains id := by
  constructor
  · rintro ⟨id, failed⟩
    obtain ⟨other, _, cycle⟩ := compile_error valid failed
    exact ⟨other, cycle⟩
  · rintro ⟨id, cycle, drains⟩
    cases compiled : compile graph options with
    | ok program => exact absurd drains (compile_undrained valid compiled cycle)
    | error fault =>
      obtain ⟨other, rfl, _⟩ := compile_error valid compiled
      exact ⟨other, rfl⟩

theorem cycles_met_exactly (built : graph.Built) (options : Options) :
    ((∃ id, compile graph options = .error (.cycle id)) ↔ ∃ id, graph.OnCycle id ∧ graph.Drains id) ∧
    (∀ fault, compile graph options = .error fault → ∃ id, fault = .cycle id ∧ graph.OnCycle id) ∧
    (∀ program, compile graph options = .ok program → ∀ id, (program.variableOf? id).isSome → graph.Drains id) ∧
    ((∃ id, (Engine.ofGraph graph).settleAll.2 = .error (.cycle id)) ↔ ∃ id, graph.OnCycle id) := by
  have valid := built.wellFormed
  refine ⟨compile_cycles valid options, fun fault failed => ?_, fun program compiled id => compile_names valid compiled,
    Engine.settleAll_cycles (Engine.ofGraph graph) valid⟩
  obtain ⟨id, same, cycle, _⟩ := compile_error valid failed
  exact ⟨id, same, cycle⟩

-- A sum that takes in nothing but itself, at first shown on no screen.
def looped : List Edit := [.addNode (.ofKind "sum" .addition), .connect "sum" "sum" none,
  .addNode (.ofKind "screen" .display), .connect "sum" "screen" none]

theorem looped_refused : (∃ id, compile (Graph.build looped) {} = .error (.cycle id)) ∧
    ∃ id, (Engine.ofGraph (Graph.build looped)).settleAll.2 = .error (.cycle id) := by
  obtain ⟨compiled, _, _, settled⟩ := cycles_met_exactly ⟨looped, rfl⟩ {}
  have loop : (Graph.build looped).Feeds "sum" "sum" := by
    unfold Graph.Feeds
    decide +kernel
  have shown : (Graph.build looped).Feeds "sum" "screen" := by
    unfold Graph.Feeds
    decide +kernel
  have screen : ∃ sink ∈ (Graph.build looped).nodes, sink.kind.isDisplay ∧ sink.id = "screen" := by decide +kernel
  obtain ⟨sink, member, display, named⟩ := screen
  have drains : (Graph.build looped).Drains "sum" := ⟨sink, member, .inl display, named ▸ .single shown⟩
  exact ⟨compiled.mpr ⟨"sum", .single loop, drains⟩, settled.mpr ⟨"sum", .single loop⟩⟩

theorem looped_compiles : (Graph.build (looped.take 2)).OnCycle "sum" ∧
    (compile (Graph.build (looped.take 2)) {}).map Program.sinks = .ok [] ∧
    (Engine.ofGraph (Graph.build (looped.take 2))).settleAll.2.map (fun _ => ()) = .error (.cycle "sum") := by
  refine ⟨.single ?_, by decide +kernel, by decide +kernel⟩
  unfold Graph.Feeds
  decide +kernel

end Program
end Dataflow
