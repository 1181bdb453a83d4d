import Dataflow.Graph.Basic

namespace Dataflow

inductive OrderError where
  | cycle (node : String)
  | nodeNotFound (node : String)
deriving DecidableEq

def OrderError.message : OrderError → String
  | cycle node => "Cycle detected: node '" ++ node ++ "' transitively feeds its own input"
  | nodeNotFound node => "Node '" ++ node ++ "' not found in the graph"

namespace Graph

def sources (graph : Graph) (id : String) : List String := (graph.edgesInto id).map (·.source)

def targets (graph : Graph) (id : String) : List String := (graph.edgesOutOf id).map (·.target)

theorem sources_length (graph : Graph) (id : String) :
    (graph.sources id).length ≤ (graph.incoming.list id).length := by
  simpa [sources, edgesInto] using List.length_filterMap_le _ _

theorem targets_length (graph : Graph) (id : String) :
    (graph.targets id).length ≤ (graph.outgoing.list id).length := by
  simpa [targets, edgesOutOf] using List.length_filterMap_le _ _

end Graph

-- What the walk has on its stack: nodes to go into, and nodes to leave once all above them is done.
inductive Step where
  | enter (id : String)
  | leave (id : String)

def Step.weight : Step → Nat
  | .enter _ => 2
  | .leave _ => 1

def Step.load : List Step → Nat
  | [] => 0
  | step :: stack => step.weight + load stack

theorem Step.load_enter (ids : List String) (stack : List Step) :
    load (ids.map enter ++ stack) = 2 * ids.length + load stack := by
  induction ids with
  | nil => simp
  | cons id rest ih =>
    simp only [List.map_cons, List.cons_append, load, List.length_cons, ih, weight]
    omega

structure Walk where
  onPath : List String := []
  done : List String := []

namespace Walk

def entered (walk : Walk) (id : String) : Bool := walk.onPath.contains id || walk.done.contains id

def enter (walk : Walk) (id : String) : Walk := { walk with onPath := id :: walk.onPath }

def leave (walk : Walk) (id : String) : Walk :=
  ⟨walk.onPath.erase id, if walk.done.contains id then walk.done else walk.done ++ [id]⟩

def ahead (graph : Graph) (follow : String → Bool) (walk : Walk) (id : String) : List String :=
  ((graph.sources id).filter follow).filter (!walk.done.contains ·)

-- Takes one step; the second part is what it puts on the stack. The first connected source comes up
-- first.
def advance (graph : Graph) (follow : String → Bool) (walk : Walk) :
    Step → Except OrderError (Walk × List Step)
  | .enter id =>
    if walk.done.contains id then .ok (walk, [])
    else if walk.onPath.contains id then .error (.cycle id)
    else .ok (walk.enter id, (walk.ahead graph follow id).map .enter ++ [.leave id])
  | .leave id => .ok (walk.leave id, [])

theorem entered_enter (walk : Walk) (id other : String) :
    (walk.enter id).entered other = (other == id || walk.entered other) := by
  by_cases same : other = id <;> simp [entered, enter, same]

theorem entered_leave {walk : Walk} {id other : String} (before : walk.entered other) : (walk.leave id).entered other := by
  simp only [entered, leave, Bool.or_eq_true, List.contains_iff_mem] at before ⊢
  by_cases same : other = id
  · right
    by_cases done : id ∈ walk.done <;> simp [same, done]
  · rcases before with onPath | done
    · exact .inl ((List.mem_erase_of_ne same).mpr onPath)
    · right
      split
      · exact done
      · exact List.mem_append_left _ done

-- Bounds the steps that are left: one to go into each source that may still be put on the stack and one
-- to leave it, and what is on the stack now.
def pending (graph : Graph) (walk : Walk) (stack : List Step) : Nat :=
  2 * graph.incoming.count (!walk.entered ·) + Step.load stack

theorem pending_enter {graph : Graph} {walk : Walk} {id : String} (new : walk.entered id = false) (stack : List Step) :
    (walk.enter id).pending graph ((walk.ahead graph follow id).map .enter ++ [.leave id] ++ stack) <
      walk.pending graph (.enter id :: stack) := by
  have fewer := graph.incoming.count_without (!walk.entered ·) id (by simp [new])
  have others : (fun other => !walk.entered other && other != id) = (!(walk.enter id).entered ·) := by
    funext other
    simp [entered_enter, bne, Bool.and_comm]
  rw [others] at fewer
  have few := graph.sources_length id
  have followed := List.length_filter_le follow (graph.sources id)
  have undone := List.length_filter_le (!walk.done.contains ·) ((graph.sources id).filter follow)
  simp only [pending, ahead, List.append_assoc, Step.load_enter, List.singleton_append, Step.load, Step.weight]
  omega

theorem pending_leave (graph : Graph) (walk : Walk) (id : String) (stack : List Step) :
    (walk.leave id).pending graph stack < walk.pending graph (.leave id :: stack) := by
  have fewer := graph.incoming.count_mono (!(walk.leave id).entered ·) (!walk.entered ·)
    fun other unentered => by
      cases before : walk.entered other with
      | false => rfl
      | true => simp [entered_leave before] at unentered
  simp only [pending, Step.load, Step.weight]
  omega

theorem advance_pending {graph : Graph} {walk next : Walk}
    (stepped : walk.advance graph follow step = .ok (next, pushed)) (stack : List Step) :
    next.pending graph (pushed ++ stack) < walk.pending graph (step :: stack) := by
  cases step with
  | enter id =>
    simp only [advance] at stepped
    split at stepped
    · cases stepped
      simp [pending, Step.load, Step.weight]
    · split at stepped
      · cases stepped
      · rename_i undone offPath
        cases stepped
        exact pending_enter (by simp_all [entered]) stack
  | leave id =>
    cases stepped
    exact pending_leave graph walk id stack

-- Walks until the stack is empty.
def run (graph : Graph) (follow : String → Bool) (walk : Walk) : List Step → Except OrderError Walk
  | [] => .ok walk
  | step :: stack =>
    match _ : walk.advance graph follow step with
    | .error fault => .error fault
    | .ok (next, pushed) => next.run graph follow (pushed ++ stack)
termination_by stack => walk.pending graph stack
decreasing_by exact advance_pending ‹_› stack

-- Adds a node and what it depends on to what is done.
def visit (graph : Graph) (follow : String → Bool) (walk : Walk) (id : String) : Except OrderError Walk :=
  if graph.hasNode id then walk.run graph follow [.enter id] else .error (.nodeNotFound id)

end Walk

namespace Graph

-- A node and everything it depends on; the node comes last.
def evaluationOrder (graph : Graph) (id : String) : Except OrderError (List String) :=
  (Walk.visit graph (fun _ => true) {} id).map Walk.done

-- What a node depends on.
def dependencies (graph : Graph) (id : String) : Except OrderError (List String) :=
  (graph.evaluationOrder id).map List.dropLast

-- The given nodes, ordered by the edges among them.
def orderSubset (graph : Graph) (ids : List String) : Except OrderError (List String) :=
  (ids.foldlM (Walk.visit graph ids.contains) {}).map Walk.done

end Graph
end Dataflow
