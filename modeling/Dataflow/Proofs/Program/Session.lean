import Dataflow.Proofs.Graph.Order
import Dataflow.Proofs.Program.Statement
import Dataflow.Proofs.Wiring

namespace Dataflow

-- Every node of the list comes after its sources. It may come up more than once.
inductive Graph.Sourced (graph : Graph) : List String → Prop where
  | nil : Sourced graph []
  | snoc {order : List String} {id : String} : Sourced graph order → graph.hasNode id →
      (∀ source, graph.Feeds source id → source ∈ order) → Sourced graph (order ++ [id])

namespace Program

structure Turn where
  node : Node
  name : String
  inputs : Inputs Operand

namespace Turn

variable {turn : Turn} {turns : List Turn} {name : String}

def emission (turn : Turn) : Emission := Emission.ofNode turn.node turn.name turn.inputs

def assigns? (turn : Turn) : Option String := if turn.node.kind.Computes then some turn.name else none

-- The variable that carries the node's value. A display passes on what it shows.
def carries? (turn : Turn) : Option String :=
  if turn.node.kind.isDisplay then (turn.inputs.get? "input").map Operand.name else turn.assigns?

def listing? (turn : Turn) : Option (String × String) := turn.carries?.map fun name => (turn.node.id, name)

-- The line that assigns a variable stands in one of the turns.
def Assigned (turns : List Turn) (name : String) : Prop :=
  ∃ turn ∈ turns, ∃ line ∈ turn.emission.statements, Python.assigned? line = some name

-- No turn reads a variable before a line has assigned it.
def Defined (turns : List Turn) : Prop :=
  ∀ before turn after, turns = before ++ turn :: after → ∀ operand ∈ turn.inputs.items, Assigned before operand.name

theorem assigns?_eq_some : turn.assigns? = some name ↔ turn.node.kind.Computes ∧ turn.name = name := by
  unfold assigns?
  split <;> simp_all

theorem statements_assign (word : turn.node.kind.Computes → Python.IsWord turn.name) :
    turn.emission.statements.filterMap Python.assigned? = turn.assigns?.toList := by
  rw [emission, Emission.ofNode_assigns word, assigns?]
  split <;> rfl

theorem Assigned.of_turn (words : ∀ turn ∈ turns, turn.node.kind.Computes → Python.IsWord turn.name)
    (member : turn ∈ turns) (assigns : turn.assigns? = some name) : Assigned turns name := by
  have there : name ∈ turn.emission.statements.filterMap Python.assigned? := by
    rw [statements_assign (words turn member), assigns]
    exact List.mem_singleton.mpr rfl
  obtain ⟨line, stands, assigned⟩ := List.mem_filterMap.mp there
  exact ⟨turn, member, line, stands, assigned⟩

theorem Defined.snoc (defined : Defined turns)
    (last : ∀ operand ∈ turn.inputs.items, Assigned turns operand.name) : Defined (turns ++ [turn]) := by
  intro before middle after split operand member
  rcases List.eq_nil_or_concat' after with rfl | ⟨rest, final, rfl⟩
  · obtain ⟨rfl, rfl⟩ := List.append_singleton_inj.mp split
    exact last operand member
  · rw [← List.cons_append, ← List.append_assoc] at split
    exact defined before middle rest (List.append_singleton_inj.mp split).1 operand member

end Turn

namespace Session

def turn (graph : Graph) (session : Session) (node : Node) : Turn :=
  ⟨node, (session.declare node (session.inputs graph node)).1, session.inputs graph node⟩

def turn? (graph : Graph) (session : Session) (id : String) : Option Turn :=
  if session.emitted.contains id then none else (graph.node? id).map (session.turn graph)

def turns (graph : Graph) : Session → List String → List Turn
  | _, [] => []
  | session, id :: rest => (session.turn? graph id).toList ++ turns graph (emit graph session id) rest

theorem turns_append (graph : Graph) (session : Session) (ids later : List String) :
    session.turns graph (ids ++ later) =
      session.turns graph ids ++ (ids.foldl (emit graph) session).turns graph later := by
  induction ids generalizing session with
  | nil => rfl
  | cons id ids ih => simp only [List.cons_append, turns, ih, List.foldl_cons, List.append_assoc]

variable {graph : Graph} {functionName id source name : String} {session before after : Session} {node : Node}
  {turn : Turn} {turns : List Turn}

structure Gains (before after : Session) (turn : Turn) : Prop where
  emitted : after.emitted = before.emitted ++ [turn.node.id]
  assigned : after.assigned = before.assigned ++ turn.listing?.toList
  taken : after.namer.taken = before.namer.taken ++ turn.assigns?.toList
  body : after.body = before.body ++ turn.emission.statements
  diagnostics : after.diagnostics = before.diagnostics ++ turn.emission.diagnostics

theorem emit_again (graph : Graph) (again : id ∈ session.emitted) :
    emit graph session id = session ∧ session.turn? graph id = none := by
  simp [emit, turn?, again]

-- A name is taken for a computed variable only, and the node is entered if something carries its value.
theorem declare_exact (session : Session) (node : Node) (inputs : Inputs Operand) (name : String) (next : Session)
    (declared : session.declare node inputs = (name, next)) :
    next = { session with
      namer := next.namer
      assigned := session.assigned ++ (Turn.listing? ⟨node, name, inputs⟩).toList } ∧
    next.namer.taken = session.namer.taken ++ (Turn.assigns? ⟨node, name, inputs⟩).toList := by
  obtain ⟨id, kind, value, called⟩ := node
  cases kind with
  | display =>
    cases fed : inputs.get? "input" with
    | none =>
      simp only [declare, fed] at declared
      cases declared
      simp [Turn.listing?, Turn.carries?, Turn.assigns?, fed, Kind.Computes, Kind.isDisplay]
    | some operand =>
      simp only [declare, fed] at declared
      cases declared
      simp [Turn.listing?, Turn.carries?, Turn.assigns?, fed, Kind.Computes, Kind.isDisplay]
  | unknown typeName =>
    cases declared
    simp [Turn.listing?, Turn.carries?, Turn.assigns?, Kind.Computes, Kind.isDisplay, Kind.isUnknown]
  | _ =>
    cases declared
    exact ⟨rfl, rfl⟩

theorem declare_again (session : Session) (node : Node) (inputs : Inputs Operand) (emitted : List String) :
    { session with emitted := emitted }.declare node inputs =
      ((session.declare node inputs).1, { (session.declare node inputs).2 with emitted := emitted }) := by
  unfold declare
  split
  · cases inputs.get? "input" <;> rfl
  · rfl
  · rfl

theorem emit_gains (found : graph.node? node.id = some node) (new : node.id ∉ session.emitted) :
    Gains session (emit graph session node.id) (session.turn graph node) ∧
      session.turn? graph node.id = some (session.turn graph node) := by
  refine ⟨?_, by simp [turn?, new, found]⟩
  obtain ⟨rest, taken⟩ := declare_exact session node (session.inputs graph node) _ _ rfl
  have emitted : emit graph session node.id =
      { (session.declare node (session.inputs graph node)).2 with emitted := session.emitted ++ [node.id] }.append
        (session.turn graph node).name (session.turn graph node).emission := by
    have same : { session with emitted := session.emitted ++ [node.id] }.inputs graph node = session.inputs graph node := rfl
    simp only [emit, found, List.contains_iff_mem, new, if_false, same, declare_again]
    rfl
  have body := congrArg Session.body rest
  have diagnostics := congrArg Session.diagnostics rest
  rw [emitted]
  exact ⟨rfl, congrArg Session.assigned rest, taken, congrArg (· ++ _) body, congrArg (· ++ _) diagnostics⟩

-- The sessions that there can be, each with the turns there were. A node comes after all that it draws on.
inductive Emits (graph : Graph) (functionName : String) : Session → List Turn → Prop where
  | start : Emits graph functionName { namer := .start functionName } []
  | turn {session : Session} {turns : List Turn} {node : Node} : Emits graph functionName session turns →
      graph.node? node.id = some node → node.id ∉ session.emitted →
      (∀ source, graph.Feeds source node.id → source ∈ session.emitted) →
      Emits graph functionName (emit graph session node.id) (turns ++ [session.turn graph node])

namespace Emits

theorem emitted (emits : Emits graph functionName session turns) : session.emitted = turns.map (·.node.id) := by
  induction emits with
  | start => rfl
  | turn _ found new _ ih => rw [(emit_gains found new).1.emitted, ih, List.map_append, List.map_singleton]

theorem body (emits : Emits graph functionName session turns) :
    session.body = turns.flatMap (·.emission.statements) := by
  induction emits with
  | start => rfl
  | turn _ found new _ ih => rw [(emit_gains found new).1.body, ih, List.flatMap_append, List.flatMap_singleton]

theorem diagnostics (emits : Emits graph functionName session turns) :
    session.diagnostics = turns.flatMap (·.emission.diagnostics) := by
  induction emits with
  | start => rfl
  | turn _ found new _ ih => rw [(emit_gains found new).1.diagnostics, ih, List.flatMap_append, List.flatMap_singleton]

theorem assigned (emits : Emits graph functionName session turns) :
    session.assigned = turns.filterMap Turn.listing? := by
  induction emits with
  | start => rfl
  | turn _ found new _ ih =>
    rw [(emit_gains found new).1.assigned, ih, List.filterMap_append, List.filterMap_cons]
    cases (Session.turn graph _ _).listing? <;> rfl

theorem taken (emits : Emits graph functionName session turns) :
    session.namer.taken = functionName :: turns.filterMap Turn.assigns? := by
  induction emits with
  | start => rfl
  | turn _ found new _ ih =>
    rw [(emit_gains found new).1.taken, ih, List.filterMap_append, List.cons_append, List.filterMap_cons]
    cases (Session.turn graph _ _).assigns? <;> rfl

theorem found (emits : Emits graph functionName session turns) (member : turn ∈ turns) :
    graph.node? turn.node.id = some turn.node := by
  induction emits with
  | start => cases member
  | turn _ found _ _ ih =>
    rcases List.mem_append.mp member with earlier | last
    · exact ih earlier
    · rw [List.mem_singleton.mp last]
      exact found

theorem ordered (emits : Emits graph functionName session turns) (valid : graph.WellFormed) :
    Walk.Ordered graph (fun _ => true) session.emitted := by
  induction emits with
  | start => exact .nil
  | turn _ found new drawn ih =>
    rw [(emit_gains found new).1.emitted]
    refine ih.snoc new fun source draws => drawn source ?_
    rwa [Graph.draws_all valid] at draws

theorem drawn (emits : Emits graph functionName session turns) (valid : graph.WellFormed) (member : turn ∈ turns)
    (feeds : graph.Feeds source turn.node.id) : source ∈ session.emitted := by
  have there : turn.node.id ∈ session.emitted := by
    rw [emits.emitted]
    exact List.mem_map_of_mem member
  rw [← Graph.draws_all valid] at feeds
  have before := (emits.ordered valid).before there feeds
  exact List.idxOf_lt_length_iff.mp (Nat.lt_trans before (List.idxOf_lt_length_of_mem there))

theorem turn_name (computes : (session.turn graph node).node.kind.Computes) :
    (session.turn graph node).name = (session.namer.assign node).1 := by
  change node.kind.Computes at computes
  unfold Session.turn declare
  cases kind : node.kind with
  | display => rw [kind] at computes; cases computes.1
  | unknown typeName => rw [kind] at computes; cases computes.2
  | _ => rfl

theorem words (emits : Emits graph functionName session turns) :
    ∀ turn ∈ turns, turn.node.kind.Computes → Python.IsWord turn.name := by
  induction emits with
  | start => exact fun _ member => absurd member List.not_mem_nil
  | turn _ _ _ _ ih =>
    intro turn member computes
    rcases List.mem_append.mp member with earlier | last
    · exact ih turn earlier computes
    · rw [List.mem_singleton.mp last] at computes ⊢
      rw [turn_name computes]
      exact (Namer.assign_exact _ _).2.1

theorem distinct (emits : Emits graph functionName session turns) : session.namer.taken.Nodup := by
  induction emits with
  | start => exact List.nodup_singleton _
  | @turn session turns node _ found new _ ih =>
    rw [(emit_gains found new).1.taken]
    refine List.nodup_append.mpr ⟨ih, ?_, fun taken earlier name given same => ?_⟩
    · cases (session.turn graph node).assigns? <;> simp
    · obtain ⟨computes, named⟩ := Turn.assigns?_eq_some.mp (Option.mem_toList.mp given)
      rw [turn_name computes] at named
      exact (Namer.assign_exact _ _).1 (named ▸ same ▸ earlier)

theorem mem_of_lookup {entries : List (String × String)} (found : entries.lookup id = some name) :
    (id, name) ∈ entries := by
  obtain ⟨before, after, rfl, _⟩ := List.lookup_eq_some_iff.mp found
  exact List.mem_append_right _ List.mem_cons_self

theorem listed (emits : Emits graph functionName session turns) (found : session.assigned.lookup id = some name) :
    id ∈ session.emitted := by
  have member := mem_of_lookup found
  rw [emits.assigned] at member
  obtain ⟨turn, there, entered⟩ := List.mem_filterMap.mp member
  obtain ⟨_, _, same⟩ := Option.map_eq_some_iff.mp entered
  rw [emits.emitted, ← (Prod.mk.inj same).1]
  exact List.mem_map_of_mem there

theorem listing_lookup (turn : Turn) (id : String) :
    turn.listing?.toList.lookup id = if id = turn.node.id then turn.carries? else none := by
  rw [Turn.listing?]
  cases turn.carries? with
  | none => simp
  | some name =>
    by_cases same : id = turn.node.id
    · simp [same]
    · simp [List.lookup_cons, same, beq_eq_false_iff_ne.mpr same]

theorem emit_lookup (found : graph.node? node.id = some node) (new : node.id ∉ session.emitted) (id : String) :
    (emit graph session node.id).assigned.lookup id =
      (session.assigned.lookup id).or (if id = node.id then (session.turn graph node).carries? else none) := by
  rw [(emit_gains found new).1.assigned, List.lookup_append, listing_lookup]
  rfl

theorem kept (found : graph.node? node.id = some node) (new : node.id ∉ session.emitted) (there : id ∈ session.emitted) :
    (emit graph session node.id).assigned.lookup id = session.assigned.lookup id := by
  have other : id ≠ node.id := fun same => new (same ▸ there)
  rw [emit_lookup found new, if_neg other, Option.or_none]

-- The variable of a node, in every session after its turn.
theorem carries (emits : Emits graph functionName session turns) :
    ∀ turn ∈ turns, session.assigned.lookup turn.node.id = turn.carries? := by
  induction emits with
  | start => exact fun _ member => absurd member List.not_mem_nil
  | @turn session turns node before found new _ ih =>
    intro turn member
    rcases List.mem_append.mp member with earlier | last
    · have there : turn.node.id ∈ session.emitted := before.emitted ▸ List.mem_map_of_mem earlier
      rw [kept found new there, ih turn earlier]
    · have unlisted : session.assigned.lookup node.id = none := by
        cases entered : session.assigned.lookup node.id with
        | none => rfl
        | some name => exact absurd (before.listed entered) new
      rw [List.mem_singleton.mp last]
      exact (emit_lookup found new node.id).trans (by rw [unlisted, if_pos rfl, Option.none_or])

-- What a turn read is what its wiring leads to, in every session after it.
theorem wired (emits : Emits graph functionName session turns) (valid : graph.WellFormed) :
    ∀ turn ∈ turns, turn.inputs.map Operand.name =
      (graph.wiring turn.node).filterMap fun edge => session.assigned.lookup edge.source := by
  induction emits with
  | start => exact fun _ member => absurd member List.not_mem_nil
  | @turn session turns node before found new drawn ih =>
    intro turn member
    have steady : (∀ source, graph.Feeds source turn.node.id → source ∈ session.emitted) →
        turn.inputs.map Operand.name = (graph.wiring turn.node).filterMap (session.assigned.lookup ·.source) →
        turn.inputs.map Operand.name =
          (graph.wiring turn.node).filterMap ((emit graph session node.id).assigned.lookup ·.source) := by
      intro drawn read
      rw [read]
      exact Inputs.filterMap_congr fun edge wired => (kept found new (drawn _ (Graph.wired_feeds valid wired))).symm
    rcases List.mem_append.mp member with earlier | last
    · exact steady (fun source feeds => before.drawn valid earlier feeds) (ih turn earlier)
    · obtain rfl := List.mem_singleton.mp last
      exact steady drawn (inputs_names session graph node)

-- Every variable that carries a value is one that some turn assigns.
theorem backed (emits : Emits graph functionName session turns) : ∀ entry ∈ session.assigned,
    ∃ turn ∈ turns, turn.assigns? = some entry.2 := by
  induction emits with
  | start => exact fun _ entered => absurd entered List.not_mem_nil
  | @turn session turns node _ found new _ ih =>
    intro entry entered
    have earlier {id : String} (old : (id, entry.2) ∈ session.assigned) :
        ∃ turn ∈ turns ++ [session.turn graph node], turn.assigns? = some entry.2 := by
      obtain ⟨turn, member, assigns⟩ := ih _ old
      exact ⟨turn, List.mem_append_left _ member, assigns⟩
    rw [(emit_gains found new).1.assigned] at entered
    rcases List.mem_append.mp entered with old | last
    · exact earlier old
    · obtain ⟨name, carried, rfl⟩ := Option.map_eq_some_iff.mp (Option.mem_toList.mp last)
      unfold Turn.carries? at carried
      split at carried
      · have read := congrArg (Inputs.get? · "input") (inputs_names session graph node)
        simp only [Inputs.get?_map, Inputs.get?_filterMap] at read
        obtain ⟨edge, _, lookup⟩ := Option.bind_eq_some_iff.mp (read.symm.trans carried)
        exact earlier (mem_of_lookup lookup)
      · exact ⟨_, List.mem_append_right _ List.mem_cons_self, carried⟩

theorem defined (emits : Emits graph functionName session turns) : Turn.Defined turns := by
  induction emits with
  | start => exact fun before turn after split => by simp at split
  | @turn session turns node before _ _ _ ih =>
    refine ih.snoc fun operand member => ?_
    have bound : operand ∈ (session.inputs graph node).items := member
    rw [inputs_wiring, Inputs.items_filterMap] at bound
    obtain ⟨edge, _, read⟩ := List.mem_filterMap.mp bound
    have entered := (operand?_name session edge.source).symm.trans (congrArg (Option.map Operand.name) read)
    obtain ⟨turn, there, assigns⟩ := before.backed _ (mem_of_lookup entered)
    exact .of_turn before.words there assigns

-- A node that comes up again is passed over.
theorem next (emits : Emits graph functionName session turns) (valid : graph.WellFormed) (there : graph.hasNode id)
    (drawn : ∀ source, graph.Feeds source id → source ∈ session.emitted) :
    Emits graph functionName (emit graph session id) (turns ++ (session.turn? graph id).toList) ∧
      ∀ other, other ∈ (emit graph session id).emitted ↔ other ∈ session.emitted ∨ other = id := by
  by_cases again : id ∈ session.emitted
  · obtain ⟨same, passed⟩ := emit_again graph again
    rw [same, passed, Option.toList_none, List.append_nil]
    refine ⟨emits, fun other => ⟨.inl, ?_⟩⟩
    rintro (member | rfl)
    · exact member
    · exact again
  · obtain ⟨node, found⟩ := Option.isSome_iff_exists.mp there
    obtain ⟨_, rfl⟩ := valid.node?_eq_some.mp found
    obtain ⟨gains, taken⟩ := emit_gains found again
    rw [taken, gains.emitted]
    exact ⟨emits.turn found again drawn, fun other => by rw [List.mem_append, List.mem_singleton]; rfl⟩

theorem along {order : List String} (emits : Emits graph functionName session turns) (valid : graph.WellFormed)
    (sourced : graph.Sourced order) :
    Emits graph functionName (order.foldl (emit graph) session) (turns ++ session.turns graph order) ∧
      ∀ id, id ∈ (order.foldl (emit graph) session).emitted ↔ id ∈ session.emitted ∨ id ∈ order := by
  induction sourced with
  | nil =>
    rw [Session.turns, List.append_nil]
    exact ⟨emits, fun id => by simp⟩
  | @snoc order last _ there ready ih =>
    obtain ⟨early, reached⟩ := ih
    obtain ⟨emits, grown⟩ := early.next valid there fun source feeds => (reached source).mpr (.inr (ready source feeds))
    rw [turns_append, ← List.append_assoc, List.foldl_append, List.foldl_cons, List.foldl_nil]
    refine ⟨?_, fun id => ?_⟩
    · simpa only [Session.turns, List.append_nil] using emits
    · rw [grown, reached, List.mem_append, List.mem_singleton, or_assoc]

end Emits
end Session
end Program
end Dataflow
