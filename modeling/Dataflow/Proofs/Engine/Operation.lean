import Dataflow.Engine
import Dataflow.Proofs.Graph.History

namespace Dataflow

inductive Operation where
  | setValue (id : String) (value : Value)
  | setKind (id : String) (kind : Kind)
  | setName (id : String) (name : Option String)
  | insertNode (node : Node)
  | removeNode (id : String)
  | connect (source target : String) (handle : Option String)
  | insertEdge (edge : Edge)
  | disconnect (id : String)
  | settleAll

namespace Operation

def apply (engine : Engine) : Operation → Engine.Outcome (List Change)
  | setValue id value => engine.setValue id value
  | setKind id kind => engine.setKind id kind
  | setName id name => engine.setName id name
  | insertNode node => engine.insertNode node
  | removeNode id => engine.removeNode id
  | connect source target handle =>
    let (engine, result) := engine.connect source target handle
    (engine, result.map (·.2))
  | insertEdge edge => engine.insertEdge edge
  | disconnect id => engine.disconnect id
  | settleAll => engine.settleAll

-- The nodes from which the pass of an operation spreads.
def seeds (graph : Graph) : Operation → List String
  | setValue id _ | setKind id _ => [id]
  | setName _ _ => []
  | insertNode node => [node.id]
  | removeNode id => (graph.targets id).filter (· != id)
  | connect _ target _ => [target]
  | insertEdge edge => [edge.target]
  | disconnect id => ((graph.edge? id).map Edge.target).toList
  | settleAll => graph.nodeIds

-- The edge that an operation is to add.
def edge? (graph : Graph) : Operation → Option Edge
  | connect source target handle => some (graph.connection source target handle)
  | insertEdge edge => some edge
  | _ => none

end Operation

namespace Graph

variable {graph : Graph}

-- Whatever new values leave as it is, recomputing nodes leaves as it is.
theorem recomputeAll_keeps (holds : Graph → Prop) (kept : ∀ graph id value, holds graph → holds (graph.setValue id value))
    (ids : List String) (changes : List Change) (start : holds graph) : holds (recomputeAll ids graph changes).1 := by
  induction ids generalizing graph changes with
  | nil => exact start
  | cons id ids ih =>
    rw [recomputeAll]
    split
    · exact start
    · exact ih _ start
    · exact ih _ (kept graph id _ start)

end Graph

namespace Engine

variable {graph : Graph} {engine : Engine}

-- A pass does nothing to the graph but to recompute nodes.
theorem settle_keeps (holds : Graph → Prop) (kept : ∀ graph id value, holds graph → holds (graph.setValue id value))
    (start : holds graph) (seeds : List String) (changes : List Change) :
    holds (settle graph seeds changes).1.graph := by
  unfold settle
  split
  · exact start
  · rename_i order _
    have recomputed := Graph.recomputeAll_keeps holds kept order changes start
    split
    · rename_i ran
      rw [ran] at recomputed
      exact recomputed
    · rename_i ran
      rw [ran] at recomputed
      exact recomputed

theorem settle_built (built : graph.Built) (seeds : List String) (changes : List Change) :
    (settle graph seeds changes).1.graph.Built :=
  settle_keeps Graph.Built (fun _ id value built => built.valued id value) built seeds changes

theorem settleAll_built {next : Engine} {changes : List Change} (built : engine.graph.Built)
    (done : engine.settleAll = (next, .ok changes)) : next.graph.Built := by
  have grown := settle_built built engine.graph.nodeIds []
  rwa [← settleAll, done] at grown

theorem store_built (built : graph.Built) (node : Node) (literal : Value) : (store graph node literal).1.Built := by
  unfold store
  split
  · exact built
  · exact built.valued node.id literal

theorem setValue_built (built : engine.graph.Built) (id : String) (value : Value) :
    (engine.setValue id value).1.graph.Built := by
  unfold setValue
  split
  · exact built
  · split
    · exact settle_built (store_built built _ _) _ _
    · exact built

theorem setKind_built (built : engine.graph.Built) (id : String) (kind : Kind) :
    (engine.setKind id kind).1.graph.Built := by
  unfold setKind
  split
  · exact built
  · have changed := built.edited (.update id (fun node => { node with kind := kind }) fun _ => rfl)
    dsimp only
    split
    · exact settle_built (store_built changed _ _) _ _
    · exact settle_built changed _ _

theorem setName_built (built : engine.graph.Built) (id : String) (name : Option String) :
    (engine.setName id name).1.graph.Built := by
  unfold setName
  split
  · exact built
  · exact built.edited (.update id (fun node => { node with name := usableName name }) fun _ => rfl)

theorem insertNode_built (built : engine.graph.Built) (node : Node) : (engine.insertNode node).1.graph.Built := by
  unfold insertNode
  split
  · rename_i refused
    exact built.left (.addNode _) (congrArg Prod.fst refused)
  · rename_i added
    exact settle_built (built.left (.addNode _) (congrArg Prod.fst added)) _ _

theorem removeNode_built (built : engine.graph.Built) (id : String) : (engine.removeNode id).1.graph.Built := by
  unfold removeNode
  split
  · rename_i refused
    exact built.left (.removeNode id) (congrArg Prod.fst refused)
  · rename_i removed
    exact settle_built (built.left (.removeNode id) (congrArg Prod.fst removed)) _ _

theorem reject_built (built : graph.Built) (state : EngineState) (edge : String) (fault : EngineError) :
    (reject ⟨graph, state⟩ edge fault : Outcome α).1.graph.Built := by
  unfold reject
  split
  · rename_i removed
    exact built.left (.removeEdge edge) (congrArg Prod.fst removed)
  · rename_i refused
    exact built.left (.removeEdge edge) (congrArg Prod.fst refused)

theorem accept_built (built : graph.Built) (state : EngineState) (edge source target : String) :
    (accept ⟨graph, state⟩ edge source target).1.graph.Built := by
  unfold accept
  split
  · exact reject_built built _ _ _
  · split
    · exact reject_built built _ _ _
    · exact built
    · exact settle_built built _ _

theorem insertEdge_built (built : engine.graph.Built) (edge : Edge) : (engine.insertEdge edge).1.graph.Built := by
  unfold insertEdge
  split
  · rename_i refused
    exact built.left (.addEdge edge) (congrArg Prod.fst refused)
  · rename_i added
    exact accept_built (built.left (.addEdge edge) (congrArg Prod.fst added)) _ _ _ _

theorem connect_built (built : engine.graph.Built) (source target : String) (handle : Option String) :
    (engine.connect source target handle).1.graph.Built := by
  unfold connect
  split
  · rename_i refused
    exact built.left (.connect source target handle) (congrArg Prod.fst refused)
  · rename_i id added
    have grown := built.left (.connect source target handle) (congrArg Prod.fst added)
    have accepted := accept_built grown engine.state id source target
    split
    · rename_i outcome
      rw [outcome] at accepted
      exact accepted
    · rename_i outcome
      rw [outcome] at accepted
      exact accepted

theorem disconnect_built (built : engine.graph.Built) (id : String) : (engine.disconnect id).1.graph.Built := by
  unfold disconnect
  split
  · rename_i refused
    exact built.left (.removeEdge id) (congrArg Prod.fst refused)
  · rename_i removed
    exact settle_built (built.left (.removeEdge id) (congrArg Prod.fst removed)) _ _

theorem apply_built (built : engine.graph.Built) (op : Operation) : (op.apply engine).1.graph.Built := by
  cases op with
  | setValue id value => exact setValue_built built id value
  | setKind id kind => exact setKind_built built id kind
  | setName id name => exact setName_built built id name
  | insertNode node => exact insertNode_built built node
  | removeNode id => exact removeNode_built built id
  | connect source target handle => exact connect_built built source target handle
  | insertEdge edge => exact insertEdge_built built edge
  | disconnect id => exact disconnect_built built id
  | settleAll => exact settle_built built _ _

end Engine
end Dataflow
