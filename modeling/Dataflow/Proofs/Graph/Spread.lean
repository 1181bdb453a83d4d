import Dataflow.Proofs.Graph.Closure
import Dataflow.Proofs.Graph.History

namespace Dataflow.Graph

variable {graph : Graph} {seeds reached queue result earlier later : List String} {id : String} {turns : Nat}

-- The loop turn by turn, from what has been reached and what waits to what it ends with. That there is a result
-- says that it ends.
inductive Runs (graph : Graph) : List String → List String → Nat → List String → Prop where
  | done {reached : List String} : Runs graph reached [] 0 reached
  | again {reached queue result : List String} {id : String} {turns : Nat} : id ∈ reached →
      Runs graph reached queue turns result → Runs graph reached (id :: queue) (turns + 1) result
  | add {reached queue result : List String} {id : String} {turns : Nat} : id ∉ reached →
      Runs graph (reached ++ [id]) (queue ++ graph.ahead (reached ++ [id]) id) turns result →
      Runs graph reached (id :: queue) (turns + 1) result

-- The loop has no choice.
theorem Runs.unique {others : Nat} {other : List String} (runs : graph.Runs reached queue turns result)
    (again : graph.Runs reached queue others other) : others = turns ∧ other = result := by
  induction runs generalizing others with
  | done =>
    cases again
    exact ⟨rfl, rfl⟩
  | again met _ ih =>
    cases again with
    | again _ rest =>
      obtain ⟨rfl, rfl⟩ := ih rest
      exact ⟨rfl, rfl⟩
    | add unmet _ => exact absurd met unmet
  | add unmet _ ih =>
    cases again with
    | again met _ => exact absurd met unmet
    | add _ rest =>
      obtain ⟨rfl, rfl⟩ := ih rest
      exact ⟨rfl, rfl⟩

-- The edges that can still put something on the queue.
def unspent (graph : Graph) (reached : List String) : Nat := graph.edges.countP fun edge => edge.source ∉ reached

theorem unspent_start (graph : Graph) : graph.unspent [] = graph.edges.length := by simp [unspent]

theorem unspent_add (valid : graph.WellFormed) (new : id ∉ reached) :
    graph.unspent (reached ++ [id]) + (graph.targets id).length = graph.unspent reached := by
  have own : (graph.targets id).length = (graph.edges.filter (·.source == id)).countP (·.source ∉ reached) := by
    rw [targets, List.length_map, valid.edgesOutOf_eq, eq_comm, List.countP_eq_length]
    intro edge member
    obtain ⟨_, source⟩ := List.mem_filter.mp member
    simpa [beq_iff_eq.mp source] using new
  have others : graph.unspent (reached ++ [id]) = (graph.edges.filter (!·.source == id)).countP (·.source ∉ reached) := by
    rw [unspent, List.countP_filter]
    refine List.countP_congr fun edge _ => ?_
    simp
  rw [own, others, unspent, List.countP_eq_countP_filter_add graph.edges _ (·.source == id), Nat.add_comm]

theorem closureFrom_ends (valid : graph.WellFormed) (reached queue : List String) :
    ∃ turns ≤ graph.unspent reached + queue.length, graph.Runs reached queue turns (graph.closureFrom reached queue) := by
  induction reached, queue using closureFrom.induct graph with
  | case1 reached =>
    rw [closureFrom]
    exact ⟨0, Nat.zero_le _, .done⟩
  | case2 reached id queue met ih =>
    obtain ⟨turns, few, runs⟩ := ih
    rw [closureFrom, dif_pos met]
    refine ⟨turns + 1, ?_, .again (List.contains_iff_mem.mp met) runs⟩
    rw [List.length_cons]
    omega
  | case3 reached id queue unmet ih =>
    obtain ⟨turns, few, runs⟩ := ih
    have new : id ∉ reached := fun met => unmet (List.contains_iff_mem.mpr met)
    rw [closureFrom, dif_neg unmet]
    refine ⟨turns + 1, ?_, .add new runs⟩
    have spent := unspent_add valid new
    have put : (graph.ahead (reached ++ [id]) id).length ≤ (graph.targets id).length := List.length_filter_le _ _
    rw [List.length_append] at few
    rw [List.length_cons]
    omega

-- A node is there for its own sake, or for one of its sources.
def Due (graph : Graph) (seeds earlier : List String) (id : String) : Prop :=
  id ∈ seeds ∨ ∃ source ∈ earlier, graph.Feeds source id

theorem Due.mono (due : graph.Due seeds earlier id) (within : earlier ⊆ later) : graph.Due seeds later id :=
  due.imp_right fun ⟨source, member, feeds⟩ => ⟨source, within member, feeds⟩

-- What was reached is due to what was reached before it, and what waits to what has been reached.
structure Led (graph : Graph) (seeds reached queue : List String) : Prop where
  listed : ∀ earlier id later, reached = earlier ++ id :: later → graph.Due seeds earlier id
  waiting : ∀ id ∈ queue, graph.Due seeds reached id

theorem led_start (within : queue ⊆ seeds) : graph.Led seeds [] queue :=
  ⟨fun _ _ _ split => by simp at split, fun _ member => .inl (within member)⟩

theorem Led.again (led : graph.Led seeds reached (id :: queue)) : graph.Led seeds reached queue :=
  ⟨led.listed, fun other member => led.waiting other (List.mem_cons_of_mem _ member)⟩

theorem Led.add (valid : graph.WellFormed) (led : graph.Led seeds reached (id :: queue)) :
    graph.Led seeds (reached ++ [id]) (queue ++ graph.ahead (reached ++ [id]) id) := by
  constructor
  · intro earlier other later split
    rcases List.eq_nil_or_concat later with rfl | ⟨before, last, rfl⟩
    · obtain ⟨rfl, same⟩ := List.append_inj' split rfl
      obtain rfl := List.singleton_inj.mp same
      exact led.waiting id List.mem_cons_self
    · rw [List.concat_eq_append, ← List.cons_append, ← List.append_assoc] at split
      exact led.listed earlier other before (List.append_inj' split rfl).1
  · intro other member
    rcases List.mem_append.mp member with queued | found
    · exact (led.waiting other (List.mem_cons_of_mem _ queued)).mono (List.subset_append_left _ _)
    · exact .inr ⟨id, List.mem_append_right _ List.mem_cons_self, ((mem_onward valid).mp found).1⟩

theorem Runs.led (valid : graph.WellFormed) (runs : graph.Runs reached queue turns result)
    (led : graph.Led seeds reached queue) : graph.Led seeds result [] := by
  induction runs with
  | done => exact led
  | again _ _ ih => exact ih led.again
  | add _ _ ih => exact ih (led.add valid)

theorem forwardClosure_ends (valid : graph.WellFormed) (seeds : List String) :
    ∃ turns ≤ (seeds.filter graph.hasNode).length + graph.edges.length,
      graph.Runs [] (seeds.filter graph.hasNode) turns (graph.forwardClosure seeds) := by
  obtain ⟨turns, few, runs⟩ := closureFrom_ends valid [] (seeds.filter graph.hasNode)
  rw [unspent_start, Nat.add_comm] at few
  exact ⟨turns, few, runs⟩

theorem forwardClosure_due (valid : graph.WellFormed) (split : graph.forwardClosure seeds = earlier ++ id :: later) :
    graph.Due seeds earlier id := by
  obtain ⟨_, _, runs⟩ := forwardClosure_ends valid seeds
  exact (runs.led valid (led_start (List.filter_subset_self _))).listed earlier id later split

theorem forwardClosure_exact (edits : List Edit) (seeds : List String) :
    (∃ turns ≤ (seeds.filter (build edits).hasNode).length + (build edits).edges.length, ∀ count result,
      (build edits).Runs [] (seeds.filter (build edits).hasNode) count result ↔
        count = turns ∧ result = (build edits).forwardClosure seeds) ∧
    ((build edits).forwardClosure seeds).Nodup ∧
    (∀ id, id ∈ (build edits).forwardClosure seeds ↔
      ∃ seed ∈ seeds, (build edits).hasNode seed ∧ (build edits).Reaches seed id) ∧
    ∀ earlier id later, (build edits).forwardClosure seeds = earlier ++ id :: later → id ∉ seeds →
      ∃ source ∈ earlier, (build edits).Feeds source id := by
  have valid : (build edits).WellFormed := Built.wellFormed ⟨edits, rfl⟩
  obtain ⟨turns, few, runs⟩ := forwardClosure_ends valid seeds
  refine ⟨⟨turns, few, fun count result => ⟨runs.unique, ?_⟩⟩, forwardClosure_distinct valid seeds,
    fun id => mem_forwardClosure valid, fun earlier id later split other => ?_⟩
  · rintro ⟨rfl, rfl⟩
    exact runs
  · exact (forwardClosure_due valid split).resolve_left other

-- A cycle of three with a loop and a chord, a node beside it, and seeds that are repeated or no nodes.
def whirl : List Edit :=
  [.addNode (.ofKind "a" .display), .addNode (.ofKind "b" .addition), .addNode (.ofKind "c" .addition),
    .addNode (.ofKind "d" .display)] ++
  [("a", "b"), ("b", "c"), ("c", "a"), ("b", "b"), ("b", "a"), ("d", "c")].map fun ends => .connect ends.1 ends.2 none

theorem whirl_closure : (build whirl).forwardClosure ["b", "x", "b"] = ["b", "c", "a"] ∧
    (∃ seed ∈ ["b", "x", "b"], (build whirl).hasNode seed ∧ (build whirl).Reaches seed "a") ∧
    ¬(build whirl).Reaches "b" "d" ∧ ∃ source ∈ ["b", "c"], (build whirl).Feeds source "a" := by
  obtain ⟨_, _, reached, led⟩ := forwardClosure_exact whirl ["b", "x", "b"]
  have listed : (build whirl).forwardClosure ["b", "x", "b"] = ["b", "c", "a"] := by decide +kernel
  have there : (build whirl).hasNode "b" := by decide +kernel
  refine ⟨listed, (reached "a").mp (by simp [listed]), fun path => ?_, led ["b", "c"] "a" [] listed (by decide)⟩
  have beside := (reached "d").mpr ⟨"b", List.mem_cons_self, there, path⟩
  simp [listed] at beside

end Dataflow.Graph
