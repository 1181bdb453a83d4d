import Dataflow.Proofs.Graph.History
import Dataflow.Proofs.Graph.Walk

namespace Dataflow
open Relation

namespace Walk

variable {graph : Graph} {follow : String → Bool} {id source target : String} {ids order : List String}
  {walk next : Walk}

theorem Ordered.nodup (ordered : Ordered graph follow order) : order.Nodup := by
  induction ordered with
  | nil => exact List.nodup_nil
  | snoc _ new _ ih =>
    refine List.nodup_append.mpr ⟨ih, List.nodup_singleton _, ?_⟩
    intro other member last lastMember same
    exact new (List.mem_singleton.mp lastMember ▸ same ▸ member)

theorem Ordered.before (ordered : Ordered graph follow order) (member : target ∈ order)
    (draws : Draws graph follow source target) : order.idxOf source < order.idxOf target := by
  induction ordered with
  | nil => cases member
  | @snoc order last _ new ready ih =>
    rcases List.mem_append.mp member with old | here
    · have earlier := ih old
      have bound := List.idxOf_lt_length_of_mem old
      have there : source ∈ order := List.idxOf_lt_length_iff.mp (by omega)
      rw [List.idxOf_append_of_mem there, List.idxOf_append_of_mem old]
      exact earlier
    · obtain rfl := List.mem_singleton.mp here
      have there := ready source draws
      rw [List.idxOf_append_of_mem there, List.idxOf_append_of_notMem new]
      have := List.idxOf_lt_length_of_mem there
      omega

theorem Ordered.along (ordered : Ordered graph follow order) (member : target ∈ order)
    (path : TransGen (Draws graph follow) source target) : order.idxOf source < order.idxOf target := by
  induction path using TransGen.head_induction_on with
  | single draws => exact ordered.before member draws
  | head draws _ ih =>
    have bound := List.idxOf_lt_length_of_mem member
    have there := List.idxOf_lt_length_iff.mp (Nat.lt_trans ih bound)
    exact Nat.lt_trans (ordered.before there draws) ih

-- A node that all others lead to comes last.
theorem Ordered.last (ordered : Ordered graph follow order) (member : id ∈ order)
    (leads : ∀ other ∈ order, ReflTransGen (Draws graph follow) other id) : order.getLast? = some id := by
  cases ordered with
  | nil => cases member
  | @snoc order last earlier new ready =>
    rcases reflTransGen_iff_eq_or_transGen.mp (leads last (by simp)) with rfl | path
    · exact List.getLast?_concat
    · have bound := List.idxOf_lt_length_of_mem member
      have below := Ordered.along (.snoc earlier new ready) member path
      rw [List.idxOf_append_of_notMem new] at below
      simp only [List.length_append, List.length_singleton] at bound
      omega

-- Between two visits the walk is on no path.
structure Rested (graph : Graph) (follow : String → Bool) (walk : Walk) : Prop where
  ordered : Ordered graph follow walk.done
  onPath : walk.onPath = []

theorem rested_start : Rested graph follow {} := ⟨.nil, rfl⟩

theorem Rested.sound (rested : Rested graph follow walk) : Sound graph follow id walk [.enter id] := by
  obtain ⟨ordered, onPath⟩ := rested
  refine ⟨ordered, ?_, ?_, ?_, ?_⟩
  · rw [onPath]
    trivial
  · rw [onPath]
    exact List.nodup_nil
  · rw [onPath]
    exact fun _ member => absurd member List.not_mem_nil
  · rw [onPath]
    exact .enter rfl (.nil (.inr List.mem_cons_self))

theorem Sound.rested (sound : Sound graph follow id walk []) : Rested graph follow walk ∧ id ∈ walk.done := by
  obtain ⟨ordered, _, _, _, nested⟩ := sound
  obtain ⟨onPath, done⟩ := walk
  cases nested with
  | nil goal => exact ⟨⟨ordered, rfl⟩, goal.resolve_right List.not_mem_nil⟩

theorem visit_ok (rested : Rested graph follow walk) (visited : visit graph follow walk id = .ok next) :
    Rested graph follow next ∧ (graph.hasNode id ∧ id ∈ next.done) ∧ Extends graph follow id walk next := by
  unfold visit at visited
  split at visited
  · rename_i there
    obtain ⟨sound, extended⟩ := run_sound rested.sound visited
    exact ⟨sound.rested.1, ⟨there, sound.rested.2⟩, extended⟩
  · cases visited

theorem visit_error (rested : Rested graph follow walk) (visited : visit graph follow walk id = .error fault) :
    (fault = .nodeNotFound id ∧ graph.hasNode id = false) ∨
    ∃ other, fault = .cycle other ∧ TransGen (Draws graph follow) other other ∧
      ReflTransGen (Draws graph follow) other id := by
  unfold visit at visited
  split at visited
  · exact .inr (run_stops rested.sound visited)
  · rename_i absent
    cases visited
    exact .inl ⟨rfl, by simpa using absent⟩

theorem visits_ok (rested : Rested graph follow walk)
    (visited : ids.foldlM (visit graph follow) walk = .ok next) :
    Rested graph follow next ∧ (∀ id ∈ ids, graph.hasNode id ∧ id ∈ next.done) ∧
      (∀ id ∈ walk.done, id ∈ next.done) ∧
      ∀ id ∈ next.done, id ∈ walk.done ∨ ∃ start ∈ ids, ReflTransGen (Draws graph follow) id start := by
  induction ids generalizing walk with
  | nil =>
    cases visited
    exact ⟨rested, by simp, fun _ member => member, fun _ member => .inl member⟩
  | cons start ids ih =>
    rw [List.foldlM_cons] at visited
    cases first : visit graph follow walk start with
    | error fault => rw [first] at visited; cases visited
    | ok middle =>
      rw [first] at visited
      obtain ⟨middleRested, ⟨startThere, startDone⟩, extended⟩ := visit_ok rested first
      obtain ⟨nextRested, all, kept, added⟩ := ih middleRested visited
      refine ⟨nextRested, ?_, fun id member => kept id (extended.kept id member), ?_⟩
      · intro id member
        rcases List.mem_cons.mp member with rfl | later
        · exact ⟨startThere, kept id startDone⟩
        · exact all id later
      · intro id member
        rcases added id member with early | ⟨other, later, path⟩
        · rcases extended.added id early with old | path
          · exact .inl old
          · exact .inr ⟨start, List.mem_cons_self, path⟩
        · exact .inr ⟨other, List.mem_cons_of_mem _ later, path⟩

theorem visits_error (rested : Rested graph follow walk)
    (visited : ids.foldlM (visit graph follow) walk = .error fault) :
    (∃ id ∈ ids, fault = .nodeNotFound id ∧ graph.hasNode id = false) ∨
    ∃ id, fault = .cycle id ∧ TransGen (Draws graph follow) id id ∧
      ∃ start ∈ ids, ReflTransGen (Draws graph follow) id start := by
  induction ids generalizing walk with
  | nil => cases visited
  | cons start ids ih =>
    rw [List.foldlM_cons] at visited
    cases first : visit graph follow walk start with
    | error early =>
      rw [first] at visited
      cases visited
      rcases visit_error rested first with ⟨rfl, absent⟩ | ⟨id, rfl, cycle, path⟩
      · exact .inl ⟨start, List.mem_cons_self, rfl, absent⟩
      · exact .inr ⟨id, rfl, cycle, start, List.mem_cons_self, path⟩
    | ok middle =>
      rw [first] at visited
      rcases ih (visit_ok rested first).1 visited with ⟨id, later, missing⟩ | ⟨id, same, cycle, other, later, path⟩
      · exact .inl ⟨id, List.mem_cons_of_mem _ later, missing⟩
      · exact .inr ⟨id, same, cycle, other, List.mem_cons_of_mem _ later, path⟩

end Walk

namespace Graph

variable {graph : Graph} {id source target : String} {ids order : List String} {fault : OrderError}

theorem draws_among (valid : graph.WellFormed) :
    Walk.Draws graph ids.contains source target ↔ graph.Feeds source target ∧ source ∈ ids := by
  simp only [Walk.Draws, mem_sources valid, List.contains_iff_mem]

theorem draws_all (valid : graph.WellFormed) :
    Walk.Draws graph (fun _ => true) = graph.Feeds := by
  funext source target
  simp only [Walk.Draws, mem_sources valid, and_true]

theorem drawn_among (valid : graph.WellFormed) (member : target ∈ ids)
    (path : ReflTransGen (Walk.Draws graph ids.contains) source target) : source ∈ ids := by
  cases path using ReflTransGen.head_induction_on with
  | refl => exact member
  | head draws _ => exact ((draws_among valid).mp draws).2

-- Every node on a path that ends among the given nodes is one of them.
theorem draws_path_among (valid : graph.WellFormed) (member : target ∈ ids) :
    TransGen (Walk.Draws graph ids.contains) source target ↔ TransGen (graph.FeedsAmong ids) source target := by
  constructor
  · refine path_back (fun source target inside draws => ?_) member
    obtain ⟨feeds, there⟩ := (draws_among valid).mp draws
    exact ⟨⟨there, inside, feeds⟩, there⟩
  · intro path
    exact TransGen.mono (fun _ _ feeds => (draws_among valid).mpr ⟨feeds.2.2, feeds.1⟩) _ _ path

theorem draws_cycle_among (valid : graph.WellFormed) :
    TransGen (Walk.Draws graph ids.contains) id id ↔ graph.OnCycleAmong ids id := by
  constructor
  · intro cycle
    obtain ⟨middle, draws, _⟩ := TransGen.head'_iff.mp cycle
    exact (draws_path_among valid ((draws_among valid).mp draws).2).mp cycle
  · intro cycle
    obtain ⟨middle, feeds, _⟩ := TransGen.head'_iff.mp cycle
    exact (draws_path_among valid feeds.1).mpr cycle

-- Every edge between two nodes of the list goes forward.
def Topological (graph : Graph) (order : List String) : Prop :=
  ∀ source ∈ order, ∀ target ∈ order, graph.Feeds source target → order.idxOf source < order.idxOf target

-- The list has just the wanted nodes, each once, in an order that edges go along.
structure Arranges (graph : Graph) (wanted : String → Prop) (order : List String) : Prop where
  distinct : order.Nodup
  lists : ∀ id, id ∈ order ↔ wanted id
  forward : graph.Topological order

theorem Arranges.pairwise {wanted : String → Prop} (arranges : graph.Arranges wanted order) :
    order.Pairwise fun earlier later => ¬graph.Feeds later earlier := by
  refine List.pairwise_iff_getElem.mpr fun i j below above less feeds => ?_
  have forward := arranges.forward _ (List.getElem_mem above) _ (List.getElem_mem below) feeds
  rw [arranges.distinct.idxOf_getElem, arranges.distinct.idxOf_getElem] at forward
  omega

theorem orderSubset_ok (valid : graph.WellFormed) (ordered : graph.orderSubset ids = .ok order) :
    (∀ id ∈ ids, graph.hasNode id) ∧ graph.AcyclicAmong ids ∧ graph.Arranges (· ∈ ids) order := by
  unfold orderSubset at ordered
  cases visited : ids.foldlM (Walk.visit graph ids.contains) {} with
  | error fault => rw [visited] at ordered; cases ordered
  | ok walk =>
    rw [visited] at ordered
    cases ordered
    obtain ⟨⟨ordered, _⟩, visits, _, added⟩ := Walk.visits_ok Walk.rested_start visited
    have listed : ∀ id, id ∈ walk.done ↔ id ∈ ids := by
      intro id
      constructor
      · intro member
        rcases added id member with none | ⟨start, asked, path⟩
        · cases none
        · exact drawn_among valid asked path
      · exact fun asked => (visits id asked).2
    refine ⟨fun id asked => (visits id asked).1, ?_, ordered.nodup, listed, ?_⟩
    · intro id cycle
      exact Nat.lt_irrefl _ (ordered.along ((listed id).mpr cycle.member) ((draws_cycle_among valid).mpr cycle))
    · intro source sourceListed target targetListed feeds
      exact ordered.before targetListed ((draws_among valid).mpr ⟨feeds, (listed source).mp sourceListed⟩)

theorem orderSubset_error (valid : graph.WellFormed) (ordered : graph.orderSubset ids = .error fault) :
    (∃ id ∈ ids, fault = .nodeNotFound id ∧ graph.hasNode id = false) ∨
    ∃ id, fault = .cycle id ∧ graph.OnCycleAmong ids id := by
  unfold orderSubset at ordered
  cases visited : ids.foldlM (Walk.visit graph ids.contains) {} with
  | ok walk => rw [visited] at ordered; cases ordered
  | error early =>
    rw [visited] at ordered
    cases ordered
    rcases Walk.visits_error Walk.rested_start visited with missing | ⟨id, same, cycle, _⟩
    · exact .inl missing
    · exact .inr ⟨id, same, (draws_cycle_among valid).mp cycle⟩

theorem evaluationOrder_ok (valid : graph.WellFormed) (ordered : graph.evaluationOrder id = .ok order) :
    graph.hasNode id ∧ (∀ other, graph.OnCycle other → ¬graph.Reaches other id) ∧
      graph.Arranges (graph.Reaches · id) order ∧ order.getLast? = some id := by
  unfold evaluationOrder at ordered
  cases visited : Walk.visit graph (fun _ => true) {} id with
  | error fault => rw [visited] at ordered; cases ordered
  | ok walk =>
    rw [visited] at ordered
    cases ordered
    obtain ⟨⟨ordered, _⟩, ⟨there, idDone⟩, _, added⟩ := Walk.visit_ok Walk.rested_start visited
    rw [draws_all valid] at added
    have along {first last : String} : last ∈ walk.done → TransGen graph.Feeds first last →
        walk.done.idxOf first < walk.done.idxOf last := by
      rw [← draws_all valid]
      exact ordered.along
    have listed : ∀ other, other ∈ walk.done ↔ graph.Reaches other id := by
      intro other
      refine ⟨fun member => (added other member).resolve_left List.not_mem_nil, fun path => ?_⟩
      rcases reflTransGen_iff_eq_or_transGen.mp path with rfl | path
      · exact idDone
      · have bound := List.idxOf_lt_length_of_mem idDone
        exact List.idxOf_lt_length_iff.mp (Nat.lt_trans (along idDone path) bound)
    refine ⟨there, ?_, ⟨ordered.nodup, listed, ?_⟩, ?_⟩
    · intro other cycle path
      exact Nat.lt_irrefl _ (along ((listed other).mpr path) cycle)
    · intro source _ target targetListed feeds
      exact along targetListed (.single feeds)
    · refine ordered.last idDone fun other member => ?_
      rw [draws_all valid]
      exact (listed other).mp member

theorem evaluationOrder_ordered (ordered : graph.evaluationOrder id = .ok order) :
    Walk.Ordered graph (fun _ => true) order := by
  unfold evaluationOrder at ordered
  cases visited : Walk.visit graph (fun _ => true) {} id with
  | error fault => rw [visited] at ordered; cases ordered
  | ok walk =>
    rw [visited] at ordered
    cases ordered
    exact (Walk.visit_ok Walk.rested_start visited).1.ordered

theorem evaluationOrder_error (valid : graph.WellFormed) (ordered : graph.evaluationOrder id = .error fault) :
    (fault = .nodeNotFound id ∧ graph.hasNode id = false) ∨
    ∃ other, fault = .cycle other ∧ graph.OnCycle other ∧ graph.Reaches other id := by
  unfold evaluationOrder at ordered
  cases visited : Walk.visit graph (fun _ => true) {} id with
  | ok walk => rw [visited] at ordered; cases ordered
  | error early =>
    rw [visited] at ordered
    cases ordered
    rcases Walk.visit_error Walk.rested_start visited with missing | ⟨other, same, cycle, path⟩
    · exact .inl missing
    · rw [draws_all valid] at cycle path
      exact .inr ⟨other, same, cycle, path⟩

theorem order_exact (built : graph.Built) :
    (∀ ids : List String,
      ((∃ order, graph.orderSubset ids = .ok order) ↔
        (∀ id ∈ ids, graph.hasNode id) ∧ graph.AcyclicAmong ids) ∧
      (∀ order, graph.orderSubset ids = .ok order → graph.Arranges (· ∈ ids) order) ∧
      (∀ id, graph.orderSubset ids = .error (.cycle id) → graph.OnCycleAmong ids id) ∧
      (∀ id, graph.orderSubset ids = .error (.nodeNotFound id) → id ∈ ids ∧ graph.hasNode id = false)) ∧
    ∀ id : String,
      ((∃ order, graph.evaluationOrder id = .ok order) ↔
        graph.hasNode id ∧ ∀ other, graph.OnCycle other → ¬graph.Reaches other id) ∧
      ∀ order, graph.evaluationOrder id = .ok order →
        graph.Arranges (graph.Reaches · id) order ∧ order.getLast? = some id := by
  have valid := built.wellFormed
  refine ⟨fun ids => ⟨⟨?_, ?_⟩, ?_, ?_, ?_⟩, fun id => ⟨⟨?_, ?_⟩, ?_⟩⟩
  · rintro ⟨order, ordered⟩
    obtain ⟨there, acyclic, _⟩ := orderSubset_ok valid ordered
    exact ⟨there, acyclic⟩
  · rintro ⟨there, acyclic⟩
    cases ordered : graph.orderSubset ids with
    | ok order => exact ⟨order, rfl⟩
    | error fault =>
      rcases orderSubset_error valid ordered with ⟨id, asked, _, absent⟩ | ⟨id, _, cycle⟩
      · simp [there id asked] at absent
      · exact absurd cycle (acyclic id)
  · exact fun order ordered => (orderSubset_ok valid ordered).2.2
  · intro id ordered
    rcases orderSubset_error valid ordered with ⟨_, _, other, _⟩ | ⟨_, same, cycle⟩
    · cases other
    · cases same
      exact cycle
  · intro id ordered
    rcases orderSubset_error valid ordered with ⟨_, asked, same, absent⟩ | ⟨_, other, _⟩
    · cases same
      exact ⟨asked, absent⟩
    · cases other
  · rintro ⟨order, ordered⟩
    obtain ⟨there, acyclic, _⟩ := evaluationOrder_ok valid ordered
    exact ⟨there, acyclic⟩
  · rintro ⟨there, acyclic⟩
    cases ordered : graph.evaluationOrder id with
    | ok order => exact ⟨order, rfl⟩
    | error fault =>
      rcases evaluationOrder_error valid ordered with ⟨_, absent⟩ | ⟨other, _, cycle, path⟩
      · simp [there] at absent
      · exact absurd path (acyclic other cycle)
  · exact fun order ordered => (evaluationOrder_ok valid ordered).2.2

-- Two ways from one node to another, and a loop that has to do with neither.
def diamond : List Edit :=
  ["a", "b", "c", "d", "e"].map (fun id => .addNode (.ofKind id .display)) ++
    [("a", "b"), ("a", "c"), ("c", "d"), ("b", "d"), ("e", "e")].map fun ends => .connect ends.1 ends.2 none

theorem diamond_order :
    (build diamond).evaluationOrder "d" = .ok ["a", "c", "b", "d"] ∧
    (build diamond).Arranges ((build diamond).Reaches · "d") ["a", "c", "b", "d"] ∧
    (build diamond).orderSubset ["d", "e"] = .error (.cycle "e") ∧ (build diamond).OnCycleAmong ["d", "e"] "e" := by
  have ordered : (build diamond).evaluationOrder "d" = .ok ["a", "c", "b", "d"] := by decide +kernel
  have looped : (build diamond).orderSubset ["d", "e"] = .error (.cycle "e") := by decide +kernel
  obtain ⟨subsets, orders⟩ := order_exact ⟨diamond, rfl⟩
  exact ⟨ordered, ((orders "d").2 _ ordered).1, looped, (subsets ["d", "e"]).2.2.1 _ looped⟩

end Graph
end Dataflow
