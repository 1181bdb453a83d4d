import Dataflow.Graph.Closure
import Dataflow.Proofs.Graph.Path

namespace Dataflow.Graph
open Relation

-- What has been reached, and what is still to be looked at, comes from the seeds; what has not been
-- looked at yet is on the queue.
structure Spreading (graph : Graph) (seeds reached queue : List String) : Prop where
  distinct : reached.Nodup
  seeded : ∀ id ∈ seeds, id ∈ reached ∨ id ∈ queue
  onward : ∀ id ∈ reached, ∀ target, graph.Feeds id target → target ∈ reached ∨ target ∈ queue
  fromSeeds : ∀ id, id ∈ reached ∨ id ∈ queue → ∃ seed ∈ seeds, graph.Reaches seed id

variable {graph : Graph} {seeds reached queue : List String} {id source target : String}

theorem spreading_start (graph : Graph) (seeds : List String) : graph.Spreading seeds [] seeds := by
  refine ⟨List.nodup_nil, fun id member => .inr member, fun id member => absurd member List.not_mem_nil, ?_⟩
  intro id member
  exact ⟨id, member.resolve_left List.not_mem_nil, .refl⟩

theorem spreading_skip (spreading : graph.Spreading seeds reached (id :: queue)) (met : id ∈ reached) :
    graph.Spreading seeds reached queue := by
  obtain ⟨distinct, seeded, onward, fromSeeds⟩ := spreading
  have passed : ∀ other, other ∈ reached ∨ other ∈ id :: queue → other ∈ reached ∨ other ∈ queue := by
    rintro other (old | waiting)
    · exact .inl old
    · rcases List.mem_cons.mp waiting with rfl | later
      · exact .inl met
      · exact .inr later
  refine ⟨distinct, fun other member => passed other (seeded other member),
    fun other member target feeds => passed target (onward other member target feeds), ?_⟩
  rintro other (old | later)
  · exact fromSeeds other (.inl old)
  · exact fromSeeds other (.inr (List.mem_cons_of_mem _ later))

theorem mem_onward (valid : graph.WellFormed) :
    target ∈ graph.ahead reached id ↔ graph.Feeds id target ∧ target ∉ reached := by
  simp only [ahead, List.mem_filter, mem_targets valid, Bool.not_eq_true', List.contains_eq_mem,
    decide_eq_false_iff_not]

theorem spreading_add (valid : graph.WellFormed) (spreading : graph.Spreading seeds reached (id :: queue))
    (new : id ∉ reached) :
    graph.Spreading seeds (reached ++ [id]) (queue ++ graph.ahead (reached ++ [id]) id) := by
  obtain ⟨distinct, seeded, onward, fromSeeds⟩ := spreading
  have passed : ∀ other, other ∈ reached ∨ other ∈ id :: queue →
      other ∈ reached ++ [id] ∨ other ∈ queue ++ graph.ahead (reached ++ [id]) id := by
    rintro other (old | waiting)
    · exact .inl (List.mem_append_left _ old)
    · rcases List.mem_cons.mp waiting with rfl | later
      · exact .inl (List.mem_append_right _ List.mem_cons_self)
      · exact .inr (List.mem_append_left _ later)
  refine ⟨?_, fun other member => passed other (seeded other member), ?_, ?_⟩
  · exact List.nodup_append.mpr ⟨distinct, List.nodup_singleton _, fun other member last lastMember same =>
      new (List.mem_singleton.mp lastMember ▸ same ▸ member)⟩
  · intro other member target feeds
    rcases List.mem_append.mp member with old | here
    · exact passed target (onward other old target feeds)
    · obtain rfl := List.mem_singleton.mp here
      by_cases met : target ∈ reached ++ [other]
      · exact .inl met
      · exact .inr (List.mem_append_right _ ((mem_onward valid).mpr ⟨feeds, met⟩))
  · rintro other (member | member)
    · rcases List.mem_append.mp member with old | here
      · exact fromSeeds other (.inl old)
      · rw [List.mem_singleton.mp here]
        exact fromSeeds id (.inr List.mem_cons_self)
    · rcases List.mem_append.mp member with later | found
      · exact fromSeeds other (.inr (List.mem_cons_of_mem _ later))
      · obtain ⟨seed, given, path⟩ := fromSeeds id (.inr List.mem_cons_self)
        exact ⟨seed, given, path.tail ((mem_onward valid).mp found).1⟩

theorem closureFrom_spreads (valid : graph.WellFormed) (spreading : graph.Spreading seeds reached queue) :
    graph.Spreading seeds (graph.closureFrom reached queue) [] := by
  induction reached, queue using closureFrom.induct graph with
  | case1 reached =>
    rw [closureFrom]
    exact spreading
  | case2 reached id queue met ih =>
    rw [closureFrom, dif_pos met]
    exact ih (spreading_skip spreading (List.contains_iff_mem.mp met))
  | case3 reached id queue new ih =>
    rw [closureFrom, dif_neg new]
    exact ih (spreading_add valid spreading fun met => new (List.contains_iff_mem.mpr met))

theorem forwardClosure_spreads (valid : graph.WellFormed) (seeds : List String) :
    graph.Spreading (seeds.filter graph.hasNode) (graph.forwardClosure seeds) [] :=
  closureFrom_spreads valid (spreading_start graph _)

theorem forwardClosure_distinct (valid : graph.WellFormed) (seeds : List String) :
    (graph.forwardClosure seeds).Nodup := (forwardClosure_spreads valid seeds).distinct

theorem forwardClosure_onward (valid : graph.WellFormed) (reached : source ∈ graph.forwardClosure seeds)
    (feeds : graph.Feeds source target) : target ∈ graph.forwardClosure seeds :=
  ((forwardClosure_spreads valid seeds).onward source reached target feeds).resolve_right List.not_mem_nil

theorem forwardClosure_seed (valid : graph.WellFormed) (seed : id ∈ seeds) (there : graph.hasNode id) :
    id ∈ graph.forwardClosure seeds :=
  ((forwardClosure_spreads valid seeds).seeded id (List.mem_filter.mpr ⟨seed, there⟩)).resolve_right
    List.not_mem_nil

theorem mem_forwardClosure (valid : graph.WellFormed) :
    id ∈ graph.forwardClosure seeds ↔ ∃ seed ∈ seeds, graph.hasNode seed ∧ graph.Reaches seed id := by
  constructor
  · intro reached
    obtain ⟨seed, given, path⟩ := (forwardClosure_spreads valid seeds).fromSeeds id (.inl reached)
    obtain ⟨given, there⟩ := List.mem_filter.mp given
    exact ⟨seed, given, there, path⟩
  · rintro ⟨seed, given, there, path⟩
    induction path with
    | refl => exact forwardClosure_seed valid given there
    | tail _ feeds ih => exact forwardClosure_onward valid ih feeds

theorem forwardClosure_node (valid : graph.WellFormed) (reached : id ∈ graph.forwardClosure seeds) :
    graph.hasNode id := by
  obtain ⟨seed, _, there, path⟩ := (mem_forwardClosure valid).mp reached
  cases path with
  | refl => exact there
  | tail _ feeds => exact feeds_target valid feeds

-- A closure is left by no edge, so a cycle that it meets is all inside it.
theorem forwardClosure_cycle (valid : graph.WellFormed) (reached : id ∈ graph.forwardClosure seeds)
    (cycle : graph.OnCycle id) : graph.OnCycleAmong (graph.forwardClosure seeds) id := by
  have inside : ∀ {other}, TransGen graph.Feeds id other →
      TransGen (graph.FeedsAmong (graph.forwardClosure seeds)) id other ∧
        other ∈ graph.forwardClosure seeds := by
    intro other path
    induction path with
    | single feeds =>
      have next := forwardClosure_onward valid reached feeds
      exact ⟨.single ⟨reached, next, feeds⟩, next⟩
    | tail _ feeds ih =>
      have next := forwardClosure_onward valid ih.2 feeds
      exact ⟨ih.1.tail ⟨ih.2, next, feeds⟩, next⟩
  exact (inside cycle).1

end Dataflow.Graph
