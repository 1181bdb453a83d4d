import Dataflow.Proofs.Engine.Staging
import Dataflow.Proofs.Engine.Steady
import Dataflow.Proofs.Engine.Truth

namespace Dataflow

namespace Graph

variable {graph after : Graph} {node : Node} {id : String} {ids names : List String} {changes all : List Change}

theorem recomputeAll_told (ran : recomputeAll ids graph changes = (after, .ok all)) :
    ∃ told, all = changes ++ told ∧ (told.map Change.node).Sublist ids := by
  induction ids generalizing graph changes with
  | nil =>
    cases ran
    exact ⟨[], (List.append_nil _).symm, .slnil⟩
  | cons id ids ih =>
    rw [recomputeAll_cons] at ran
    cases recomputed : graph.recompute id with
    | error fault =>
      rw [recomputed] at ran
      cases ran
    | ok change =>
      rw [recomputed] at ran
      obtain ⟨told, rfl, part⟩ := ih ran
      cases change with
      | none => exact ⟨told, rfl, part.cons id⟩
      | some value => exact ⟨⟨id, value⟩ :: told, List.append_assoc _ _ _, part.cons_cons id⟩

theorem stable_input (input : node.kind.isInput) : graph.Stable node := by
  obtain ⟨shape, kind⟩ := Kind.isInput_iff.mp input
  rw [Stable, if_neg (by simp [kind, Kind.isUnknown])]
  refine ⟨node.value, ?_, .inl rfl⟩
  rw [liveValue?, kind]
  rfl

theorem restless_input (found : graph.node? id = some node) (input : node.kind.isInput) :
    graph.restless id = if node.value.same node.value then none else some ⟨id, node.value⟩ := by
  obtain ⟨shape, kind⟩ := Kind.isInput_iff.mp input
  rw [restless, found, Option.bind_some, kind]
  simp [Kind.isUnknown]

-- Where no edge leads back, every edge leads on.
theorem forward_along {i j : Nat} {source target : String} (forward : names.Pairwise fun earlier later => ¬graph.Feeds later earlier)
    (loopless : ∀ id ∈ names, ¬graph.Feeds id id) (first : names[i]? = some source) (second : names[j]? = some target)
    (feeds : graph.Feeds source target) : i < j := by
  obtain ⟨below, rfl⟩ := List.getElem?_eq_some_iff.mp first
  obtain ⟨above, rfl⟩ := List.getElem?_eq_some_iff.mp second
  rcases Nat.lt_trichotomy i j with less | rfl | greater
  · exact less
  · exact absurd feeds (loopless _ (List.getElem_mem below))
  · exact absurd feeds (List.pairwise_iff_getElem.mp forward j i above below greater)

end Graph

namespace Engine

variable {engine next : Engine} {graph : Graph} {node : Node} {seeds : List String} {literal : Option Change}
  {op : Operation} {changes all : List Change}

-- The changes that an operation tells of, with the literal that it gives to an input node, if any: one for each node
-- that has changed, and the literal twice if it holds NaN.
inductive Told (graph : Graph) : Option Change → List Change → Prop where
  | once {literal : Option Change} {changes : List Change} : graph.Route (changes.map Change.node) →
      (∀ change, literal = some change → change.value.Numeric) → Told graph literal changes
  | twice {change : Change} {rest : List Change} : graph.Route (change.node :: rest.map Change.node) →
      ¬change.value.Numeric → Told graph (some change) (change :: change :: rest)

theorem settle_route (valid : graph.WellFormed) (settled : settle graph seeds changes = (next, .ok all)) :
    ∃ order, graph.orderSubset (graph.forwardClosure seeds) = .ok order ∧ next.graph.Route order ∧
      Graph.recomputeAll order graph changes = (next.graph, .ok all) := by
  obtain ⟨_, order, ordered, ran⟩ := settle_ran settled
  have route := Graph.orderSubset_route valid ordered
  have feeds := (settle_ok valid settled).2.revalued.feeds
  exact ⟨order, ordered, ⟨route.distinct, feeds ▸ route.forward, feeds ▸ route.loopless⟩, ran⟩

theorem settle_once (valid : graph.WellFormed) (settled : settle graph seeds [] = (next, .ok all))
    (numeric : ∀ change, literal = some change → change.value.Numeric) : Told next.graph literal all := by
  obtain ⟨order, _, route, ran⟩ := settle_route valid settled
  obtain ⟨told, rfl, part⟩ := Graph.recomputeAll_told ran
  exact .once (route.sublist part) numeric

-- A literal that has been told of is there when its node is recomputed.
theorem stored_told (valid : graph.WellFormed) (there : node ∈ graph.nodes) (input : node.kind.isInput)
    (settled : settle graph [node.id] [⟨node.id, node.value⟩] = (next, .ok all)) :
    Told next.graph (some ⟨node.id, node.value⟩) all := by
  have found := valid.node?_eq_some.mpr ⟨there, rfl⟩
  obtain ⟨order, ordered, route, ran⟩ := settle_route valid settled
  obtain ⟨rest, rfl⟩ := Graph.orderSubset_seed valid (Graph.hasNode_of_found found) ordered
  rw [Graph.recomputeAll_cons, Graph.recompute_stable valid found (Graph.stable_input input)] at ran
  dsimp only at ran
  obtain ⟨told, rfl, part⟩ := Graph.recomputeAll_told ran
  have onward : next.graph.Route (node.id :: told.map Change.node) := route.sublist (part.cons_cons node.id)
  rw [Graph.restless_input found input]
  split
  · rename_i equal
    refine .once onward fun change stored => ?_
    obtain rfl := Option.some.inj stored
    exact (Value.same_self_iff _).mp equal
  · rename_i unequal
    rw [Value.same_self_iff] at unequal
    exact .twice onward unequal

theorem operation_told (valid : engine.graph.WellFormed) (done : op.apply engine = (next, .ok changes)) :
    Told next.graph (op.literal? engine.graph) changes := by
  have staged := operation_staged valid op
  generalize op.literal? engine.graph = literal at staged ⊢
  generalize op.apply engine = outcome at staged done
  cases staged with
  | aside _ silent =>
    cases done
    rw [silent changes rfl]
    exact .once ⟨.nil, .nil, fun _ none => absurd none List.not_mem_nil⟩ fun _ none => by cases none
  | pass stagedValid _ => exact settle_once stagedValid done fun _ none => by cases none
  | replaced replaced _ equal =>
    exact settle_once replaced.valid done fun change stored => (Value.same_self_iff _).mp (equal change stored)
  | stored replaced input _ => exact stored_told replaced.valid replaced.there input done

theorem Told.forward (told : Told graph literal changes) :
    ((changes.map Change.node).Pairwise fun earlier later => ¬graph.Feeds later earlier) ∧
      ∀ id ∈ changes.map Change.node, ¬graph.Feeds id id := by
  cases told with
  | once route _ => exact ⟨route.forward, route.loopless⟩
  | @twice change rest route _ =>
    have loopless := route.loopless change.node List.mem_cons_self
    refine ⟨List.pairwise_cons.mpr ⟨fun id listed => ?_, route.forward⟩, fun id listed => ?_⟩
    · rcases List.mem_cons.mp listed with rfl | later
      · exact loopless
      · exact (List.pairwise_cons.mp route.forward).1 id later
    · rcases List.mem_cons.mp listed with rfl | listed
      · exact loopless
      · exact route.loopless id listed

theorem Told.nodup_iff (told : Told graph literal changes) :
    (changes.map Change.node).Nodup ↔ ∀ change, literal = some change → change.value.Numeric := by
  cases told with
  | once route numeric => exact ⟨fun _ => numeric, fun _ => route.distinct⟩
  | twice route numberless =>
    refine ⟨fun distinct => ?_, fun numeric => absurd (numeric _ rfl) numberless⟩
    exact absurd List.mem_cons_self (List.nodup_cons.mp distinct).1

theorem Told.repeated {change : Change} (told : Told graph (some change) changes) (numberless : ¬change.value.Numeric) :
    ∃ rest, changes = change :: change :: rest ∧ (change.node :: rest.map Change.node).Nodup := by
  cases told with
  | once _ numeric => exact absurd (numeric change rfl) numberless
  | @twice _ rest route _ => exact ⟨rest, rfl, route.distinct⟩

-- Each node is named at most once, and only a literal that holds NaN makes an exception.
theorem notices_exact (built : engine.graph.Built) (done : op.apply engine = (next, .ok changes)) :
    (∀ (i j : Nat) (first second : Change), changes[i]? = some first → changes[j]? = some second →
      next.graph.Feeds first.node second.node → i < j) ∧
    ((changes.map Change.node).Nodup ↔ ∀ literal, op.literal? engine.graph = some literal → literal.value.Numeric) ∧
    ∀ literal, op.literal? engine.graph = some literal → ¬literal.value.Numeric →
      ∃ rest, changes = literal :: literal :: rest ∧ (literal.node :: rest.map Change.node).Nodup := by
  have told := operation_told built.wellFormed done
  obtain ⟨forward, loopless⟩ := told.forward
  refine ⟨fun i j first second early late => ?_, told.nodup_iff, fun literal stored => ?_⟩
  · have named {k : Nat} {change : Change} (there : changes[k]? = some change) :
        (changes.map Change.node)[k]? = some change.node := by rw [List.getElem?_map, there, Option.map_some]
    exact Graph.forward_along forward loopless (named early) (named late)
  · rw [stored] at told
    exact told.repeated

-- A number that becomes NaN, on a screen.
def counter : Engine := Origin.blank.engine.after [.insertNode (.ofKind "count" (.input .number)),
  .insertNode (.ofKind "screen" .display), .connect "count" "screen" none]

def lapsed : Operation := .setValue "count" (.number Decimal.notANumber)

theorem lapsed_literal : lapsed.literal? counter.graph = some ⟨"count", .number Decimal.notANumber⟩ := by
  have kind : (counter.graph.node? "count").map Node.kind = some (.input .number) := by decide +kernel
  obtain ⟨node, found, kind⟩ := Option.map_eq_some_iff.mp kind
  rw [lapsed, Operation.literal?, found, Option.filter_some, kind]
  simp [kind, Kind.isInput, Kind.coerce, Value.asNumber]

theorem lapsed_names : ∃ next changes, lapsed.apply counter = (next, .ok changes) ∧
    changes.map Change.node = ["count", "count", "screen"] := by
  have names : (lapsed.apply counter).2.map (List.map Change.node) = .ok ["count", "count", "screen"] := by decide +kernel
  obtain ⟨changes, done, names⟩ := outcome_map names
  exact ⟨_, changes, done, names⟩

theorem lapsed_told : ∃ next changes, lapsed.apply counter = (next, .ok changes) ∧
    changes.map Change.node = ["count", "count", "screen"] ∧
    ∃ rest, changes = ⟨"count", .number Decimal.notANumber⟩ :: ⟨"count", .number Decimal.notANumber⟩ :: rest ∧
      ("count" :: rest.map Change.node).Nodup := by
  have built : counter.graph.Built := after_built (origin_built .blank) _
  obtain ⟨next, changes, done, names⟩ := lapsed_names
  have numberless : ¬(Value.number Decimal.notANumber).Numeric := by decide +kernel
  exact ⟨next, changes, done, names, (notices_exact built done).2.2 _ lapsed_literal numberless⟩

theorem lapsed_repeated : counter.graph.Built ∧ ∃ next changes, lapsed.apply counter = (next, .ok changes) ∧
    ¬(changes.map Change.node).Nodup := by
  obtain ⟨next, changes, done, names⟩ := lapsed_names
  refine ⟨after_built (origin_built .blank) _, next, changes, done, ?_⟩
  rw [names]
  decide

end Engine
end Dataflow
