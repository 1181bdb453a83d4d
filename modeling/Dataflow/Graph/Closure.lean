import Dataflow.Graph.Order

namespace Dataflow.Graph

def ahead (graph : Graph) (reached : List String) (id : String) : List String :=
  (graph.targets id).filter (!reached.contains ·)

theorem ahead_shrinks {graph : Graph} {reached queue : List String} {id : String}
    (new : reached.contains id = false) :
    graph.outgoing.count (!(reached ++ [id]).contains ·) + (queue ++ graph.ahead (reached ++ [id]) id).length <
      graph.outgoing.count (!reached.contains ·) + (id :: queue).length := by
  have fewer := graph.outgoing.count_without (!reached.contains ·) id (by simpa using new)
  have others : (fun other => !reached.contains other && other != id) = (!(reached ++ [id]).contains ·) := by
    funext other
    by_cases same : other = id <;> simp [same]
  rw [others] at fewer
  have few := graph.targets_length id
  have unreached := List.length_filter_le (!(reached ++ [id]).contains ·) (graph.targets id)
  simp only [ahead, List.length_append, List.length_cons]
  omega

def closureFrom (graph : Graph) (reached : List String) : List String → List String
  | [] => reached
  | id :: queue =>
    if _ : reached.contains id then graph.closureFrom reached queue
    else graph.closureFrom (reached ++ [id]) (queue ++ graph.ahead (reached ++ [id]) id)
termination_by queue => graph.outgoing.count (!reached.contains ·) + queue.length
decreasing_by
  · simp
  · exact ahead_shrinks (Bool.eq_false_iff.mpr ‹_›)

-- Seeds that are no nodes are passed over.
def forwardClosure (graph : Graph) (seeds : List String) : List String :=
  graph.closureFrom [] (seeds.filter graph.hasNode)

end Dataflow.Graph
