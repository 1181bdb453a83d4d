import Dataflow.Proofs.Graph.Acyclic
import Mathlib.Data.List.Induction

namespace Dataflow
open Relation

namespace Walk

-- What is done after some more ids, each of which counts where it first comes up.
def record (done ids : List String) : List String :=
  ids.foldl (fun done id => if done.contains id then done else done ++ [id]) done

variable {graph : Graph} {walk : Walk} {id source : String} {done ids order : List String} {stack : List Step}

theorem record_cons (done : List String) (id : String) (ids : List String) :
    record done (id :: ids) = record (record done [id]) ids := rfl

theorem record_append (done first second : List String) :
    record done (first ++ second) = record (record done first) second := List.foldl_append

theorem record_old (old : id ∈ done) : record done [id] = done := if_pos (List.contains_iff_mem.mpr old)

theorem record_new (new : id ∉ done) : record done [id] = done ++ [id] :=
  if_neg fun old => new (List.contains_iff_mem.mp old)

theorem mem_record : id ∈ record done ids ↔ id ∈ done ∨ id ∈ ids := by
  induction ids generalizing done with
  | nil => simp [record]
  | cons other ids ih =>
    rw [record_cons, ih]
    by_cases old : other ∈ done
    · rw [record_old old, List.mem_cons]
      constructor
      · exact Or.imp_right .inr
      · rintro (before | rfl | later)
        · exact .inl before
        · exact .inl old
        · exact .inr later
    · rw [record_new old, List.mem_append, List.mem_singleton, List.mem_cons, or_assoc]

theorem record_known (known : ∀ id ∈ ids, id ∈ done) : record done ids = done := by
  induction ids with
  | nil => rfl
  | cons id ids ih =>
    rw [record_cons, record_old (known id List.mem_cons_self)]
    exact ih fun other member => known other (List.mem_cons_of_mem _ member)

theorem record_record (done first second : List String) :
    record done (record first second) = record (record done first) second := by
  induction second generalizing first with
  | nil => rfl
  | cons id second ih =>
    rw [record_cons first, record_cons (record done first), ih]
    by_cases old : id ∈ first
    · rw [record_old old, record_old (mem_record.mpr (.inr old))]
    · rw [record_new old, record_append]

theorem eraseDups_eq_record (ids : List String) : ids.eraseDups = record [] ids := by
  induction ids using List.reverseRecOn with
  | nil => rfl
  | append_singleton ids id ih =>
    rw [List.eraseDups_append, record_append, ← ih]
    by_cases old : id ∈ ids
    · rw [record_old (List.mem_eraseDups.mpr old)]
      simp [List.removeAll, old]
    · rw [record_new fun member => old (List.mem_eraseDups.mp member)]
      simp [List.removeAll, old, List.eraseDups_cons]

-- Sources that are done by now add nothing, as little as what is done behind them.
theorem record_undone {orderOf : String → List String} {finished : List String}
    (known : ∀ source ∈ ids, source ∈ finished → ∀ id ∈ orderOf source, id ∈ done) :
    record done ((ids.filter (!finished.contains ·)).flatMap orderOf) = record done (ids.flatMap orderOf) := by
  induction ids generalizing done with
  | nil => rfl
  | cons source ids ih =>
    have later : ∀ other ∈ ids, other ∈ finished → ∀ id ∈ orderOf other, id ∈ record done (orderOf source) :=
      fun other member old id listed => mem_record.mpr (.inl (known other (List.mem_cons_of_mem _ member) old id listed))
    rw [List.flatMap_cons, record_append, ← ih later]
    by_cases old : source ∈ finished
    · rw [record_known (known source List.mem_cons_self old)]
      simp [old]
    · rw [← record_append, ← List.flatMap_cons]
      simp [old]

def Closed (graph : Graph) (done : List String) : Prop :=
  ∀ id ∈ done, ∀ source, graph.Feeds source id → source ∈ done

def Clear (graph : Graph) (path : List String) (id : String) : Prop := ∀ other ∈ path, ¬graph.Reaches other id

-- Going into the node adds this list to what is done, wherever the walk is.
def Adds (graph : Graph) (id : String) (order : List String) : Prop :=
  ∀ (walk : Walk) (stack : List Step), Closed graph walk.done → Clear graph walk.onPath id →
    walk.run graph (fun _ => true) (.enter id :: stack) =
      run graph (fun _ => true) ⟨walk.onPath, record walk.done order⟩ stack

theorem run_step {follow : String → Bool} {next : Walk} {step : Step} {pushed : List Step}
    (stepped : walk.advance graph follow step = .ok (next, pushed)) (stack : List Step) :
    walk.run graph follow (step :: stack) = next.run graph follow (pushed ++ stack) := by
  rw [run, stepped]

theorem Closed.reaches (closed : Closed graph done) (finished : id ∈ done) (path : graph.Reaches source id) :
    source ∈ done := by
  induction path using ReflTransGen.head_induction_on with
  | refl => exact finished
  | head feeds _ ih => exact closed _ ih _ feeds

theorem Closed.recorded (closed : Closed graph done) (lists : ∀ other, other ∈ order ↔ graph.Reaches other id) :
    Closed graph (record done order) := by
  intro other member source feeds
  rcases mem_record.mp member with old | new
  · exact mem_record.mpr (.inl (closed other old source feeds))
  · exact mem_record.mpr (.inr ((lists source).mpr (.head feeds ((lists other).mp new))))

theorem Clear.enter (clear : Clear graph walk.onPath id) (acyclic : graph.Acyclic) (feeds : graph.Feeds source id) :
    Clear graph (walk.enter id).onPath source := by
  intro other met path
  rcases List.mem_cons.mp met with rfl | met
  · exact acyclic other (.tail' path feeds)
  · exact clear other met (path.tail feeds)

-- Sources that are on the stack one after another add their lists one after another.
theorem adds_each {orderOf : String → List String} (walk : Walk) (stack : List Step)
    (each : ∀ source ∈ ids, Adds graph source (orderOf source))
    (lists : ∀ source ∈ ids, ∀ other, other ∈ orderOf source ↔ graph.Reaches other source)
    (closed : Closed graph walk.done) (clear : ∀ source ∈ ids, Clear graph walk.onPath source) :
    walk.run graph (fun _ => true) (ids.map .enter ++ stack) =
      run graph (fun _ => true) ⟨walk.onPath, record walk.done (ids.flatMap orderOf)⟩ stack := by
  induction ids generalizing walk with
  | nil => rfl
  | cons source ids ih =>
    obtain ⟨first, others⟩ := List.forall_mem_cons.mp each
    obtain ⟨firstLists, otherLists⟩ := List.forall_mem_cons.mp lists
    obtain ⟨firstClear, otherClear⟩ := List.forall_mem_cons.mp clear
    rw [List.map_cons, List.cons_append, first walk _ closed firstClear, List.flatMap_cons, record_append]
    exact ih _ others otherLists (closed.recorded firstLists) otherClear

theorem adds_node {orderOf : String → List String} (valid : graph.WellFormed) (acyclic : graph.Acyclic)
    (each : ∀ source, graph.Feeds source id → Adds graph source (orderOf source))
    (lists : ∀ source, graph.Feeds source id → ∀ other, other ∈ orderOf source ↔ graph.Reaches other source) :
    Adds graph id ((graph.sources id).flatMap orderOf ++ [id]) := by
  intro walk stack closed clear
  have feeding : ∀ source ∈ graph.sources id, graph.Feeds source id := fun _ => (Graph.mem_sources valid).mp
  have leads : ∀ source ∈ graph.sources id, ∀ other ∈ orderOf source, graph.Reaches other source :=
    fun source member other => (lists source (feeding source member) other).mp
  by_cases finished : id ∈ walk.done
  · have known : ∀ other ∈ (graph.sources id).flatMap orderOf ++ [id], other ∈ walk.done := by
      intro other member
      rcases List.mem_append.mp member with drawn | itself
      · obtain ⟨source, listed, inside⟩ := List.mem_flatMap.mp drawn
        exact closed.reaches finished ((leads source listed other inside).tail (feeding source listed))
      · exact List.mem_singleton.mp itself ▸ finished
    have skipped : walk.advance graph (fun _ => true) (.enter id) = .ok (walk, []) :=
      if_pos (List.contains_iff_mem.mpr finished)
    rw [record_known known, run_step skipped]
    rfl
  · have offPath : id ∉ walk.onPath := fun met => clear id met .refl
    have entered : walk.advance graph (fun _ => true) (.enter id) =
        .ok (walk.enter id, (walk.ahead graph (fun _ => true) id).map .enter ++ [.leave id]) := by
      rw [advance, if_neg (by simpa using finished), if_neg (by simpa using offPath)]
    have left (done : List String) : (⟨(walk.enter id).onPath, done⟩ : Walk).advance graph (fun _ => true) (.leave id) =
        .ok (⟨walk.onPath, record done [id]⟩, []) := by
      simp [advance, leave, enter, record]
    have ahead : ∀ source ∈ walk.ahead graph (fun _ => true) id, graph.Feeds source id :=
      fun source member => feeding source (mem_ahead.mp member).1.1
    have undone : record walk.done ((walk.ahead graph (fun _ => true) id).flatMap orderOf) =
        record walk.done ((graph.sources id).flatMap orderOf) := by
      rw [Walk.ahead, List.filter_true]
      exact record_undone fun source member old other inside => closed.reaches old (leads source member other inside)
    calc
      walk.run graph (fun _ => true) (.enter id :: stack)
      _ = (walk.enter id).run graph (fun _ => true)
            ((walk.ahead graph (fun _ => true) id).map .enter ++ .leave id :: stack) := by
        rw [run_step entered, List.append_assoc, List.singleton_append]
      _ = run graph (fun _ => true)
            ⟨(walk.enter id).onPath, record walk.done ((walk.ahead graph (fun _ => true) id).flatMap orderOf)⟩
            (.leave id :: stack) :=
        adds_each (walk.enter id) _ (fun source member => each source (ahead source member))
          (fun source member => lists source (ahead source member)) closed
          fun source member => clear.enter acyclic (ahead source member)
      _ = run graph (fun _ => true) ⟨walk.onPath, record walk.done ((graph.sources id).flatMap orderOf ++ [id])⟩ stack := by
        rw [run_step (left _), undone, record_append]
        rfl

end Walk

namespace Graph

variable {graph : Graph} {id : String}

def orderOf (graph : Graph) (id : String) : List String := (graph.evaluationOrder id).toOption.getD []

theorem Acyclic.orderOf_ok (acyclic : graph.Acyclic) (valid : graph.WellFormed) (there : graph.hasNode id) :
    graph.evaluationOrder id = .ok (graph.orderOf id) := by
  obtain ⟨order, ordered⟩ := acyclic.evaluated valid there
  rw [orderOf, ordered]
  rfl

theorem Acyclic.mem_orderOf (acyclic : graph.Acyclic) (valid : graph.WellFormed) (there : graph.hasNode id) (other : String) :
    other ∈ graph.orderOf id ↔ graph.Reaches other id :=
  (evaluationOrder_ok valid (acyclic.orderOf_ok valid there)).2.2.1.lists other

theorem evaluationOrder_adds {order : List String} (there : graph.hasNode id) (adds : Walk.Adds graph id order) :
    graph.evaluationOrder id = .ok (Walk.record [] order) := by
  rw [evaluationOrder, Walk.visit, if_pos there,
    adds {} [] (fun _ none => absurd none List.not_mem_nil) fun _ none => absurd none List.not_mem_nil, Walk.run]
  rfl

-- The induction is along the edges: that the sources add their orders gives the order of the node, and that it adds it.
theorem Acyclic.adds (acyclic : graph.Acyclic) (valid : graph.WellFormed) (id : String) (there : graph.hasNode id) :
    Walk.Adds graph id ((graph.sources id).flatMap graph.orderOf ++ [id]) ∧ Walk.Adds graph id (graph.orderOf id) := by
  induction id using acyclic.induction valid with
  | step target ih =>
    have composed := Walk.adds_node valid acyclic (fun source feeds => (ih source feeds (feeds_source valid feeds)).2)
      fun source feeds => acyclic.mem_orderOf valid (feeds_source valid feeds)
    refine ⟨composed, fun walk stack closed clear => ?_⟩
    have same := Except.ok.inj ((acyclic.orderOf_ok valid there).symm.trans (evaluationOrder_adds there composed))
    rw [same, Walk.record_record]
    exact composed walk stack closed clear

theorem evaluationOrder_composed (built : graph.Built) (acyclic : graph.Acyclic) (there : graph.hasNode id) :
    ∃ orders, List.Forall₂ (fun edge order => graph.evaluationOrder edge.source = .ok order) (graph.edgesInto id) orders ∧
      graph.evaluationOrder id = .ok (orders.flatten.eraseDups ++ [id]) := by
  have valid := built.wellFormed
  refine ⟨(graph.edgesInto id).map (graph.orderOf ·.source), ?_, ?_⟩
  · refine List.forall₂_map_right_iff.mpr (List.forall₂_same.mpr fun edge listed => ?_)
    obtain ⟨member, _⟩ := valid.mem_edgesInto.mp listed
    exact acyclic.orderOf_ok valid (hasNode_iff.mpr (valid.ends edge member).1)
  · have apart : id ∉ (graph.sources id).flatMap graph.orderOf := by
      intro member
      obtain ⟨source, listed, inside⟩ := List.mem_flatMap.mp member
      have feeds := (mem_sources valid).mp listed
      exact acyclic id (.tail' ((acyclic.mem_orderOf valid (feeds_source valid feeds) id).mp inside) feeds)
    have orders : (graph.sources id).flatMap graph.orderOf = ((graph.edgesInto id).map (graph.orderOf ·.source)).flatten := by
      rw [sources, List.flatMap_def, List.map_map]
      rfl
    rw [evaluationOrder_adds there (acyclic.adds valid id there).1, Walk.record_append, ← orders, Walk.eraseDups_eq_record,
      Walk.record_new]
    exact fun member => apart ((Walk.mem_record.mp member).resolve_left List.not_mem_nil)

-- Two ways from one node to another, a short cut, and one of the ways taken twice.
def braid : List Edit :=
  ["a", "b", "c", "d"].map (fun id => .addNode (.ofKind id .addition)) ++
    [("a", "b"), ("a", "c"), ("c", "d"), ("b", "d"), ("a", "d"), ("c", "d")].map fun ends => .connect ends.1 ends.2 none

theorem braid_composed : (build braid).Acyclic ∧ (build braid).hasNode "d" ∧
    ∃ orders, List.Forall₂ (fun edge order => (build braid).evaluationOrder edge.source = .ok order)
        ((build braid).edgesInto "d") orders ∧
      (build braid).evaluationOrder "d" = .ok (orders.flatten.eraseDups ++ ["d"]) ∧
      orders.flatten.eraseDups = ["a", "c", "b"] := by
  have acyclic : (build braid).Acyclic := acyclic_of_ordered (Built.wellFormed ⟨braid, rfl⟩)
    (by decide +kernel : (build braid).orderSubset (build braid).nodeIds = .ok ["a", "b", "c", "d"])
  have there : (build braid).hasNode "d" := by decide +kernel
  have ordered : (build braid).evaluationOrder "d" = .ok ["a", "c", "b", "d"] := by decide +kernel
  obtain ⟨orders, sources, composed⟩ := evaluationOrder_composed ⟨braid, rfl⟩ acyclic there
  have same := Except.ok.inj (composed.symm.trans ordered)
  exact ⟨acyclic, there, orders, sources, composed, List.append_cancel_right same⟩

end Graph
end Dataflow
