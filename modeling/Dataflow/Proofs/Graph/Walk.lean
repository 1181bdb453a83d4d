import Dataflow.Proofs.Graph.Path

namespace Dataflow.Walk
open Relation

-- The edges the walk goes along, from a node to what it draws on.
def Draws (graph : Graph) (follow : String → Bool) (source target : String) : Prop :=
  source ∈ graph.sources target ∧ follow source

-- Each id once, and after all that it draws on.
inductive Ordered (graph : Graph) (follow : String → Bool) : List String → Prop where
  | nil : Ordered graph follow []
  | snoc {order : List String} {id : String} : Ordered graph follow order → id ∉ order →
      (∀ source, Draws graph follow source id → source ∈ order) → Ordered graph follow (order ++ [id])

-- What may be gone into from a path: a source of its last node, or where the walk starts.
def Below (graph : Graph) (follow : String → Bool) (start id : String) : List String → Prop
  | [] => id = start
  | last :: _ => Draws graph follow id last

def Linked (graph : Graph) (follow : String → Bool) (start : String) : List String → Prop
  | [] => True
  | id :: path => Below graph follow start id path ∧ Linked graph follow start path

-- A stack belongs to a path if it leaves the nodes of the path in turn, and each of them only when its
-- sources are done. A source that is not done is among those that come `above` it on the stack.
inductive Nested (graph : Graph) (follow : String → Bool) (start : String) (order : List String) :
    List String → List String → List Step → Prop where
  | nil : start ∈ order ∨ start ∈ above → Nested graph follow start order [] above []
  | enter {id : String} : Below graph follow start id path →
      Nested graph follow start order path (id :: above) stack →
      Nested graph follow start order path above (.enter id :: stack)
  | leave {id : String} : (∀ source, Draws graph follow source id → source ∈ order ∨ source ∈ above) →
      Nested graph follow start order path [id] stack →
      Nested graph follow start order (id :: path) above (.leave id :: stack)

structure Sound (graph : Graph) (follow : String → Bool) (start : String) (walk : Walk)
    (stack : List Step) : Prop where
  ordered : Ordered graph follow walk.done
  linked : Linked graph follow start walk.onPath
  distinct : walk.onPath.Nodup
  apart : ∀ id ∈ walk.onPath, id ∉ walk.done
  nested : Nested graph follow start walk.done walk.onPath [] stack

variable {graph : Graph} {follow : String → Bool} {start id other : String}
  {path above order : List String} {walk next : Walk} {step : Step} {stack pushed : List Step}

theorem linked_reaches (linked : Linked graph follow start path) (below : Below graph follow start id path) :
    ReflTransGen (Draws graph follow) id start := by
  induction path generalizing id with
  | nil => exact below ▸ .refl
  | cons last path ih => exact .head below (ih linked.2 linked.1)

theorem linked_meets (linked : Linked graph follow start path) (below : Below graph follow start id path)
    (met : other ∈ path) : TransGen (Draws graph follow) id other := by
  induction path generalizing id with
  | nil => cases met
  | cons last path ih =>
    rcases List.mem_cons.mp met with rfl | deeper
    · exact .single below
    · exact .head below (ih linked.2 linked.1 deeper)

theorem Nested.enter_parts (nested : Nested graph follow start order path above (.enter id :: stack)) :
    Below graph follow start id path ∧ Nested graph follow start order path (id :: above) stack := by
  cases nested with
  | enter below rest => exact ⟨below, rest⟩

theorem Nested.leave_parts (nested : Nested graph follow start order path above (.leave id :: stack)) :
    ∃ rest, path = id :: rest ∧ (∀ source, Draws graph follow source id → source ∈ order ∨ source ∈ above) ∧
      Nested graph follow start order rest [id] stack := by
  cases nested with
  | leave ready rest => exact ⟨_, rfl, ready, rest⟩

theorem Nested.mono {later waiting : List String} (nested : Nested graph follow start order path above stack)
    (kept : ∀ id ∈ order, id ∈ later) (covered : ∀ id ∈ above, id ∈ later ∨ id ∈ waiting) :
    Nested graph follow start later path waiting stack := by
  induction nested generalizing waiting with
  | nil goal =>
    refine .nil ?_
    rcases goal with finished | waits
    · exact .inl (kept _ finished)
    · exact covered _ waits
  | enter below _ ih =>
    refine .enter below (ih ?_)
    intro id member
    rcases List.mem_cons.mp member with rfl | old
    · exact .inr List.mem_cons_self
    · exact (covered id old).imp_right (List.mem_cons_of_mem _)
  | leave ready _ ih =>
    refine .leave ?_ (ih fun id member => .inr member)
    intro source draws
    rcases ready source draws with finished | waits
    · exact .inl (kept _ finished)
    · exact covered _ waits

theorem Nested.enters (ids : List String) (below : ∀ id ∈ ids, Below graph follow start id path)
    (nested : Nested graph follow start order path (ids.reverse ++ above) stack) :
    Nested graph follow start order path above (ids.map .enter ++ stack) := by
  induction ids generalizing above with
  | nil => exact nested
  | cons id ids ih =>
    refine .enter (below id List.mem_cons_self) (ih (fun other member => below other (List.mem_cons_of_mem _ member)) ?_)
    simpa using nested

theorem mem_ahead : other ∈ walk.ahead graph follow id ↔ Draws graph follow other id ∧ other ∉ walk.done := by
  simp only [ahead, Draws, List.mem_filter, Bool.not_eq_true', List.contains_eq_mem, decide_eq_false_iff_not]

theorem enter_sound (sound : Sound graph follow start walk (.enter id :: stack)) (new : id ∉ walk.onPath)
    (undone : id ∉ walk.done) :
    Sound graph follow start (walk.enter id) ((walk.ahead graph follow id).map .enter ++ [.leave id] ++ stack) := by
  obtain ⟨below, nested⟩ := sound.nested.enter_parts
  refine ⟨sound.ordered, ⟨below, sound.linked⟩, List.nodup_cons.mpr ⟨new, sound.distinct⟩, ?_, ?_⟩
  · intro other member
    rcases List.mem_cons.mp member with rfl | old
    · exact undone
    · exact sound.apart other old
  · rw [List.append_assoc]
    refine Nested.enters _ (fun other member => (mem_ahead.mp member).1) (.leave ?_ nested)
    intro source draws
    by_cases finished : source ∈ walk.done
    · exact .inl finished
    · exact .inr (by simpa using mem_ahead.mpr ⟨draws, finished⟩)

theorem skip_sound (sound : Sound graph follow start walk (.enter id :: stack)) (finished : id ∈ walk.done) :
    Sound graph follow start walk stack := by
  have nested := sound.nested.enter_parts.2
  refine ⟨sound.ordered, sound.linked, sound.distinct, sound.apart, nested.mono (fun _ kept => kept) ?_⟩
  intro other member
  rw [List.mem_singleton.mp member]
  exact .inl finished

-- Only the last node of the path is ever left, and it was not done before.
theorem leave_eq (sound : Sound graph follow start walk (.leave id :: stack)) :
    ∃ path, walk.onPath = id :: path ∧ walk.leave id = ⟨path, walk.done ++ [id]⟩ := by
  obtain ⟨path, onPath, _, _⟩ := sound.nested.leave_parts
  have undone : id ∉ walk.done := sound.apart id (onPath ▸ List.mem_cons_self)
  exact ⟨path, onPath, by simp [leave, onPath, undone]⟩

theorem leave_sound (sound : Sound graph follow start walk (.leave id :: stack)) :
    Sound graph follow start (walk.leave id) stack := by
  obtain ⟨path, onPath, left⟩ := leave_eq sound
  obtain ⟨rest, same, ready, nested⟩ := sound.nested.leave_parts
  obtain rfl : path = rest := by simpa [onPath] using same
  obtain ⟨ordered, linked, distinct, apart, _⟩ := sound
  rw [onPath] at linked distinct apart
  have distinct := List.nodup_cons.mp distinct
  have ready := fun source draws => (ready source draws).resolve_right List.not_mem_nil
  rw [left]
  refine ⟨.snoc ordered (apart id List.mem_cons_self) ready, linked.2, distinct.2, ?_, ?_⟩
  · intro other member finished
    rcases List.mem_append.mp finished with old | last
    · exact apart other (List.mem_cons_of_mem _ member) old
    · exact distinct.1 (List.mem_singleton.mp last ▸ member)
  · exact nested.mono (fun _ => List.mem_append_left _) fun other member => .inl (List.mem_append_right _ member)

structure Extends (graph : Graph) (follow : String → Bool) (start : String) (walk next : Walk) : Prop where
  kept : ∀ id ∈ walk.done, id ∈ next.done
  added : ∀ id ∈ next.done, id ∈ walk.done ∨ ReflTransGen (Draws graph follow) id start

theorem Extends.refl (walk : Walk) : Extends graph follow start walk walk :=
  ⟨fun _ member => member, fun _ member => .inl member⟩

theorem Extends.trans {last : Walk} (first : Extends graph follow start walk next)
    (second : Extends graph follow start next last) : Extends graph follow start walk last := by
  refine ⟨fun id member => second.kept id (first.kept id member), fun id member => ?_⟩
  rcases second.added id member with early | new
  · exact first.added id early
  · exact .inr new

theorem advance_sound (sound : Sound graph follow start walk (step :: stack))
    (stepped : walk.advance graph follow step = .ok (next, pushed)) :
    Sound graph follow start next (pushed ++ stack) ∧ Extends graph follow start walk next := by
  cases step with
  | enter id =>
    simp only [advance, List.contains_iff_mem] at stepped
    split at stepped
    · rename_i finished
      cases stepped
      exact ⟨skip_sound sound finished, .refl walk⟩
    · rename_i undone
      split at stepped
      · cases stepped
      · rename_i new
        cases stepped
        exact ⟨enter_sound sound new undone, fun _ member => member, fun _ member => .inl member⟩
  | leave id =>
    cases stepped
    refine ⟨leave_sound sound, ?_⟩
    obtain ⟨path, onPath, left⟩ := leave_eq sound
    have linked := onPath ▸ sound.linked
    rw [left]
    refine ⟨fun other member => List.mem_append_left _ member, fun other member => ?_⟩
    rcases List.mem_append.mp member with old | last
    · exact .inl old
    · rw [List.mem_singleton.mp last]
      exact .inr (linked_reaches linked.2 linked.1)

-- A walk stops only at a node that closes a cycle.
theorem advance_stops (sound : Sound graph follow start walk (step :: stack))
    (stopped : walk.advance graph follow step = .error fault) :
    ∃ id, fault = .cycle id ∧ TransGen (Draws graph follow) id id ∧
      ReflTransGen (Draws graph follow) id start := by
  cases step with
  | enter id =>
    have below := sound.nested.enter_parts.1
    simp only [advance, List.contains_iff_mem] at stopped
    split at stopped
    · cases stopped
    · split at stopped
      · rename_i met
        cases stopped
        exact ⟨id, rfl, linked_meets sound.linked below met, linked_reaches sound.linked below⟩
      · cases stopped
  | leave id => cases stopped

theorem run_sound (sound : Sound graph follow start walk stack) (ran : walk.run graph follow stack = .ok next) :
    Sound graph follow start next [] ∧ Extends graph follow start walk next := by
  induction walk, stack using run.induct graph follow with
  | case1 walk =>
    rw [run] at ran
    cases ran
    exact ⟨sound, .refl _⟩
  | case2 walk step stack fault stopped =>
    rw [run, stopped] at ran
    cases ran
  | case3 walk step stack after pushed stepped ih =>
    rw [run, stepped] at ran
    obtain ⟨afterSound, first⟩ := advance_sound sound stepped
    obtain ⟨nextSound, second⟩ := ih afterSound ran
    exact ⟨nextSound, first.trans second⟩

theorem run_stops (sound : Sound graph follow start walk stack) (ran : walk.run graph follow stack = .error fault) :
    ∃ id, fault = .cycle id ∧ TransGen (Draws graph follow) id id ∧
      ReflTransGen (Draws graph follow) id start := by
  induction walk, stack using run.induct graph follow with
  | case1 walk =>
    rw [run] at ran
    cases ran
  | case2 walk step stack early stopped =>
    rw [run, stopped] at ran
    cases ran
    exact advance_stops sound stopped
  | case3 walk step stack after pushed stepped ih =>
    rw [run, stepped] at ran
    exact ih (advance_sound sound stepped).1 ran

end Dataflow.Walk
