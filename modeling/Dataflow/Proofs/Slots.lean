import Dataflow.Proofs.Binding
import Mathlib

namespace Dataflow.Inputs

variable {α : Type}

-- Whether the edge at this place is the first one whose handle names a slot.
def Labels (names : List String) (handles : List (Option String)) (place : Nat) : Prop :=
  ∃ name ∈ names, handles.idxOf (some name) = place

instance (names : List String) (handles : List (Option String)) (place : Nat) : Decidable (Labels names handles place) :=
  inferInstanceAs (Decidable (∃ name ∈ names, _))

-- What all other edges carry, in order.
def others (names : List String) (edges : List (Option String × α)) : List α :=
  (edges.zipIdx.filter fun edge => ¬Labels names (edges.map Prod.fst) edge.2).map (·.1.2)

def unnamed (names : List String) (edges : List (Option String × α)) : List String :=
  names.filter fun name => some name ∉ edges.map Prod.fst

-- What remains of the other edges once each of those slots has one.
def leftOver (names : List String) (edges : List (Option String × α)) : List α :=
  (others names edges).drop (unnamed names edges).length

structure Follows (names : List String) (edges : List (Option String × α)) (inputs : Inputs α) : Prop where
  slots : inputs.named.map Prod.fst = names
  labelled (name : String) : name ∈ names → some name ∈ edges.map Prod.fst → inputs.get? name = edges.lookup (some name)
  positional (place : Nat) (name : String) : (unnamed names edges)[place]? = some name →
    inputs.get? name = (others names edges)[place]?
  variadic : inputs.variadic = []
  unbound : inputs.unbound = (leftOver names edges).length

def table (names : List String) (fed : String → Option α) : List (String × Option α) :=
  names.map fun name => (name, fed name)

variable {names : List String} {edges : List (Option String × α)} {fed : String → Option α} {name handle : String} {item : α}

theorem table_cons (first : String) (rest : List String) (fed : String → Option α) :
    table (first :: rest) fed = (first, fed first) :: table rest fed := rfl

theorem table_congr {other : String → Option α} (same : ∀ name ∈ names, fed name = other name) :
    table names fed = table names other :=
  List.map_congr_left fun name member => by rw [same name member]

theorem table_names (names : List String) (fed : String → Option α) : (table names fed).map Prod.fst = names := by
  simp [table, Function.comp_def]

theorem lookup_apart {β γ : Type} [BEq β] [LawfulBEq β] {key first : β} (other : key ≠ first) (held : γ) (rest : List (β × γ)) :
    ((first, held) :: rest).lookup key = rest.lookup key := by
  rw [List.lookup_cons, beq_false_of_ne other]

theorem lookup_table (member : name ∈ names) : (table names fed).lookup name = some (fed name) := by
  induction names with
  | nil => cases member
  | cons first rest ih =>
    rw [table_cons, List.lookup_cons]
    split
    · rename_i same
      rw [eq_of_beq same]
    · rename_i other
      exact ih ((List.mem_cons.mp member).resolve_left (ne_of_beq_false other))

theorem named_eq_table {named : List (String × Option α)} (distinct : (named.map Prod.fst).Nodup) :
    named = table (named.map Prod.fst) fun name => (named.lookup name).join := by
  induction named with
  | nil => rfl
  | cons first rest ih =>
    obtain ⟨name, bound⟩ := first
    obtain ⟨apart, distinct⟩ := List.nodup_cons.mp distinct
    have behind : table (rest.map Prod.fst) (fun other => (((name, bound) :: rest).lookup other).join) =
        table (rest.map Prod.fst) fun other => (rest.lookup other).join :=
      table_congr fun other member => by rw [lookup_apart (ne_of_mem_of_not_mem member apart)]
    rw [List.map_cons, table_cons, behind, ← ih distinct]
    simp

theorem lookup_none_iff : edges.lookup (some name) = none ↔ some name ∉ edges.map Prod.fst := by
  rw [List.lookup_eq_none_iff, List.mem_map]
  simp only [bne_iff_ne, not_exists, not_and]
  exact forall₂_congr fun edge _ => ne_comm

theorem fillNamed?_free (distinct : names.Nodup) (member : handle ∈ names) (free : fed handle = none) (item : α) :
    fillNamed? handle item (table names fed) = some (table names (Function.update fed handle (some item))) := by
  induction names with
  | nil => cases member
  | cons first rest ih =>
    obtain ⟨apart, distinct⟩ := List.nodup_cons.mp distinct
    rw [table_cons, table_cons, fillNamed?]
    by_cases same : first = handle
    · subst same
      have untouched : table rest (Function.update fed first (some item)) = table rest fed :=
        table_congr fun name there => Function.update_of_ne (ne_of_mem_of_not_mem there apart) _ _
      simp [free, untouched]
    · have onward := ih distinct ((List.mem_cons.mp member).resolve_left (Ne.symm same))
      simp [same, onward]

theorem fillNamed?_none (taken : handle ∈ names → fed handle ≠ none) (item : α) :
    fillNamed? handle item (table names fed) = none := by
  induction names with
  | nil => rfl
  | cons first rest ih =>
    have onward := ih fun member => taken (List.mem_cons_of_mem _ member)
    have bound : ¬(first = handle ∧ (fed first).isNone) := by
      rintro ⟨rfl, free⟩
      exact taken List.mem_cons_self (Option.isNone_iff_eq_none.mp free)
    rw [table_cons, fillNamed?, if_neg bound, onward, Option.map_none]

theorem byHandle_append (slots : List (String × Option α)) (front behind : List (Option String × α)) :
    byHandle slots (front ++ behind) = ((byHandle (byHandle slots front).1 behind).1,
      (byHandle slots front).2 ++ (byHandle (byHandle slots front).1 behind).2) := by
  induction front generalizing slots with
  | nil => rfl
  | cons edge rest ih =>
    obtain ⟨handle, item⟩ := edge
    rw [List.cons_append, byHandle, byHandle]
    cases handle.bind (fillNamed? · item slots) with
    | none => simp [ih]
    | some filled => exact ih filled

-- What stands behind an edge does not matter to whether it is the first.
theorem labels_concat {handles : List (Option String)} {place : Nat} (before : place < handles.length)
    (last : Option String) : Labels names (handles ++ [last]) place ↔ Labels names handles place := by
  refine exists_congr fun name => and_congr_right fun _ => ?_
  rw [List.idxOf_append]
  split
  · exact Iff.rfl
  · rename_i absent
    have beyond := List.idxOf_eq_length absent
    omega

theorem labels_last (handles : List (Option String)) (last : Option String) :
    Labels names (handles ++ [last]) handles.length ↔ ∃ name ∈ names, last = some name ∧ some name ∉ handles := by
  refine exists_congr fun name => and_congr_right fun _ => ?_
  rw [List.idxOf_append]
  split
  · rename_i present
    have inside := List.idxOf_lt_length_of_mem present
    exact ⟨fun last => absurd last (ne_of_lt inside), fun other => absurd present other.2⟩
  · rename_i absent
    by_cases same : last = some name <;> simp [same, absent]

theorem others_concat (names : List String) (edges : List (Option String × α)) (handle : Option String) (item : α) :
    others names (edges ++ [(handle, item)]) = others names edges ++
      if ∃ name ∈ names, handle = some name ∧ some name ∉ edges.map Prod.fst then [] else [item] := by
  have earlier : edges.zipIdx.filter (fun edge => ¬Labels names (edges.map Prod.fst ++ [handle]) edge.2) =
      edges.zipIdx.filter fun edge => ¬Labels names (edges.map Prod.fst) edge.2 := by
    refine List.filter_congr fun edge member => ?_
    have before : edge.2 < (edges.map Prod.fst).length := by
      rw [List.length_map]
      exact List.snd_lt_of_mem_zipIdx member
    simp only [labels_concat before]
  have last : Labels names (edges.map Prod.fst ++ [handle]) edges.length ↔
      ∃ name ∈ names, handle = some name ∧ some name ∉ edges.map Prod.fst := by
    rw [← List.length_map Prod.fst]
    exact labels_last _ handle
  unfold others
  rw [List.map_append, List.zipIdx_append, List.filter_append, List.map_append, List.map_cons, List.map_nil, earlier]
  congr 1
  by_cases first : ∃ name ∈ names, handle = some name ∧ some name ∉ edges.map Prod.fst
  · simp only [if_pos first]
    simp [last.mpr first]
  · simp only [if_neg first]
    simp [mt last.mp first]

-- Which edge is the first with its handle is settled by those in front of it, so the induction is from the end.
theorem byHandle_table (distinct : names.Nodup) (edges : List (Option String × α)) :
    byHandle (table names fun _ => none) edges = (table names fun name => edges.lookup (some name), others names edges) := by
  induction edges using List.reverseRecOn with
  | nil => rfl
  | append_singleton edges edge ih =>
    obtain ⟨handle, item⟩ := edge
    rw [byHandle_append, ih, others_concat]
    by_cases first : ∃ name ∈ names, handle = some name ∧ some name ∉ edges.map Prod.fst
    · rw [if_pos first]
      obtain ⟨handle, member, rfl, absent⟩ := first
      have free := lookup_none_iff.mpr absent
      have filled : table names (Function.update (fun name => edges.lookup (some name)) handle (some item)) =
          table names fun name => (edges ++ [(some handle, item)]).lookup (some name) := by
        refine table_congr fun name _ => ?_
        rw [List.lookup_append]
        by_cases same : name = handle
        · simp [same, free]
        · rw [Function.update_of_ne same, lookup_apart (by simpa using same), List.lookup_nil, Option.or_none]
      have taken : fillNamed? handle item (table names fun name => edges.lookup (some name)) =
          some (table names (Function.update (fun name => edges.lookup (some name)) handle (some item))) :=
        fillNamed?_free distinct member free item
      simp [byHandle, taken, filled]
    · rw [if_neg first]
      have passed : handle.bind (fillNamed? · item (table names fun name => edges.lookup (some name))) = none := by
        cases handle with
        | none => rfl
        | some handle =>
          exact fillNamed?_none (fun member free => first ⟨handle, member, rfl, lookup_none_iff.mp free⟩) item
      have kept : table names (fun name => (edges ++ [(handle, item)]).lookup (some name)) =
          table names fun name => edges.lookup (some name) := by
        refine table_congr fun name member => ?_
        rw [List.lookup_append]
        cases found : edges.lookup (some name) with
        | some earlier => rfl
        | none =>
          have other : some name ≠ handle := fun same => first ⟨name, member, same.symm, lookup_none_iff.mp found⟩
          rw [lookup_apart other, List.lookup_nil, Option.or_none]
      simp [byHandle, passed, kept]

theorem byPosition_table (distinct : names.Nodup) (fed : String → Option α) (items : List α) :
    byPosition (table names fed) items =
      (table names fun name => (fed name).or items[(names.filter fun name => (fed name).isNone).idxOf name]?,
        items.length - (names.filter fun name => (fed name).isNone).length) := by
  induction names generalizing items with
  | nil => cases items <;> rfl
  | cons first rest ih =>
    obtain ⟨apart, distinct⟩ := List.nodup_cons.mp distinct
    cases items with
    | nil => simp [table, byPosition]
    | cons item items =>
      cases free : fed first with
      | some bound =>
        have onward := ih distinct (item :: items)
        simp [table_cons, byPosition, free, onward]
      | none =>
        have shifted : table rest (fun name => (fed name).or
              (item :: items)[(first :: rest.filter fun name => (fed name).isNone).idxOf name]?) =
            table rest fun name => (fed name).or items[(rest.filter fun name => (fed name).isNone).idxOf name]? := by
          refine table_congr fun name member => ?_
          rw [List.idxOf_cons_ne _ (ne_of_mem_of_not_mem member apart).symm, List.getElem?_cons_succ]
        have onward := ih distinct items
        simp [table_cons, byPosition, free, onward, shifted]

def due (names : List String) (edges : List (Option String × α)) (name : String) : Option α :=
  (edges.lookup (some name)).or (others names edges)[(unnamed names edges).idxOf name]?

theorem unnamed_eq (names : List String) (edges : List (Option String × α)) :
    names.filter (fun name => (edges.lookup (some name)).isNone) = unnamed names edges := by
  refine List.filter_congr fun name _ => ?_
  rw [Bool.eq_iff_iff, Option.isNone_iff_eq_none, decide_eq_true_iff]
  exact lookup_none_iff

theorem bind_table (distinct : names.Nodup) (edges : List (Option String × α)) :
    bind (.named names) edges = ⟨table names (due names edges), [], (leftOver names edges).length⟩ := by
  have start : names.map (fun name => (name, (none : Option α))) = table names fun _ => none := rfl
  simp only [bind, bindNamed, start, byHandle_table distinct, byPosition_table distinct, unnamed_eq, leftOver,
    List.length_drop]
  rfl

theorem due_labelled (named : some name ∈ edges.map Prod.fst) : due names edges name = edges.lookup (some name) := by
  obtain ⟨item, found⟩ := Option.ne_none_iff_exists'.mp (mt lookup_none_iff.mp (not_not_intro named))
  rw [due, found, Option.some_or]

theorem due_positional (absent : some name ∉ edges.map Prod.fst) :
    due names edges name = (others names edges)[(unnamed names edges).idxOf name]? := by
  rw [due, lookup_none_iff.mpr absent, Option.none_or]

theorem mem_unnamed : name ∈ unnamed names edges ↔ name ∈ names ∧ some name ∉ edges.map Prod.fst := by
  simp [unnamed]

theorem table_follows (distinct : names.Nodup) (edges : List (Option String × α)) :
    Follows names edges ⟨table names (due names edges), [], (leftOver names edges).length⟩ where
  slots := table_names names _
  labelled name member named := by
    rw [get?, lookup_table member, Option.join_some, due_labelled named]
  positional place name there := by
    obtain ⟨member, absent⟩ := mem_unnamed.mp (List.mem_of_getElem? there)
    obtain ⟨inside, rfl⟩ := List.getElem?_eq_some_iff.mp there
    have index := (distinct.filter _).idxOf_getElem place inside
    rw [get?, lookup_table member, Option.join_some, due_positional absent]
    exact congrArg ((others names edges)[·]?) index
  variadic := rfl
  unbound := rfl

-- The rule leaves nothing open.
theorem Follows.eq_table {inputs : Inputs α} (follows : Follows names edges inputs) (distinct : names.Nodup) :
    inputs = ⟨table names (due names edges), [], (leftOver names edges).length⟩ := by
  have fed : ∀ name ∈ names, inputs.get? name = due names edges name := by
    intro name member
    by_cases named : some name ∈ edges.map Prod.fst
    · rw [follows.labelled name member named, due_labelled named]
    · have free := mem_unnamed.mpr ⟨member, named⟩
      rw [follows.positional _ name (List.getElem?_idxOf free), due_positional named]
  have named : inputs.named = table names inputs.get? := by
    have tabled := named_eq_table (follows.slots.symm ▸ distinct)
    rwa [follows.slots] at tabled
  rw [← table_congr fed, ← named, ← follows.variadic, ← follows.unbound]

theorem fillNamed?_items {slots filled : List (String × Option α)} (fills : fillNamed? handle item slots = some filled) :
    (filled.filterMap (·.2)).Perm (item :: slots.filterMap (·.2)) := by
  induction slots generalizing filled with
  | nil => cases fills
  | cons first rest ih =>
    obtain ⟨name, bound⟩ := first
    rw [fillNamed?] at fills
    split at fills
    · rename_i free
      cases fills
      rw [Option.isNone_iff_eq_none.mp free.2]
      exact .refl _
    · obtain ⟨behind, onward, rfl⟩ := Option.map_eq_some_iff.mp fills
      have inner := ih onward
      cases bound with
      | none => exact inner
      | some held => exact (inner.cons held).trans (.swap item held _)

-- Neither pass loses an item or takes one twice.
theorem byHandle_items (slots : List (String × Option α)) (edges : List (Option String × α)) :
    ((byHandle slots edges).1.filterMap (·.2) ++ (byHandle slots edges).2).Perm
      (slots.filterMap (·.2) ++ edges.map Prod.snd) := by
  induction edges generalizing slots with
  | nil => exact .refl _
  | cons edge rest ih =>
    obtain ⟨handle, item⟩ := edge
    rw [byHandle, List.map_cons]
    cases fills : handle.bind (fillNamed? · item slots) with
    | none => exact List.perm_middle.trans (((ih slots).cons item).trans List.perm_middle.symm)
    | some filled =>
      obtain ⟨handle, rfl, fills⟩ := Option.bind_eq_some_iff.mp fills
      have bound := (fillNamed?_items fills).append_right (rest.map Prod.snd)
      exact (ih filled).trans (bound.trans List.perm_middle.symm)

theorem byPosition_items (slots : List (String × Option α)) (items : List α) :
    ((byPosition slots items).1.filterMap (·.2) ++ items.drop (slots.filter (·.2.isNone)).length).Perm
      (slots.filterMap (·.2) ++ items) := by
  induction slots, items using byPosition.induct with
  | case1 slots => cases slots <;> simp [byPosition]
  | case2 items => cases items <;> simp [byPosition]
  | case3 name bound rest items positioned ih =>
    obtain ⟨item, items, rfl⟩ := List.exists_cons_of_ne_nil positioned
    simpa [byPosition] using ih
  | case4 name rest item items ih =>
    simpa [byPosition] using (ih.cons item).trans List.perm_middle.symm

theorem bind_items (distinct : names.Nodup) (edges : List (Option String × α)) :
    ((bind (.named names) edges).items ++ leftOver names edges).Perm (edges.map Prod.snd) := by
  have labelled := byHandle_items (table names fun _ => none) edges
  rw [byHandle_table distinct] at labelled
  have positioned := byPosition_items (table names fun name => edges.lookup (some name)) (others names edges)
  have free : ((table names fun name => edges.lookup (some name)).filter (·.2.isNone)).length =
      (unnamed names edges).length := by
    rw [table, List.filter_map, List.length_map, ← unnamed_eq]
    rfl
  have nothing : (table names fun _ => (none : Option α)).filterMap (·.2) = [] := by simp [table]
  rw [free, byPosition_table distinct, unnamed_eq] at positioned
  rw [bind_table distinct, items, List.append_nil]
  have bound := positioned.trans labelled
  rwa [nothing, List.nil_append] at bound

-- Edges are left over only where every slot is fed.
theorem bind_missing (distinct : names.Nodup) (exceeded : 0 < (bind (.named names) edges).unbound) :
    (bind (.named names) edges).missing = [] := by
  rw [bind_table distinct] at exceeded ⊢
  rw [missing, List.map_eq_nil_iff, List.filter_eq_nil_iff, table, List.forall_mem_map]
  intro name member
  by_cases named : some name ∈ edges.map Prod.fst
  · obtain ⟨item, found⟩ := Option.ne_none_iff_exists'.mp (mt lookup_none_iff.mp (not_not_intro named))
    simp [due_labelled named, found]
  · have inside := List.idxOf_lt_length_of_mem (mem_unnamed.mpr ⟨member, named⟩)
    have more : (unnamed names edges).length < (others names edges).length := by
      simpa [leftOver] using exceeded
    simp [due_positional named, List.getElem?_eq_getElem (inside.trans more)]

-- Binding follows the rule, and nothing else does. Every item feeds one slot or is left over, each time it is
-- carried, and none is left over where a slot is missing.
theorem bind_follows (distinct : names.Nodup) (edges : List (Option String × α)) :
    (∀ inputs, Follows names edges inputs ↔ inputs = bind (.named names) edges) ∧
    ((bind (.named names) edges).items ++ leftOver names edges).Perm (edges.map Prod.snd) ∧
    (0 < (bind (.named names) edges).unbound → (bind (.named names) edges).missing = []) := by
  refine ⟨fun inputs => ?_, bind_items distinct edges, bind_missing distinct⟩
  rw [bind_table distinct]
  exact ⟨fun follows => follows.eq_table distinct, fun same => same ▸ table_follows distinct edges⟩

-- The labelled edge comes late; one handle comes again and one names no slot.
def crowd : List (Option String × Nat) :=
  [(none, 1), (some "elsewhere", 2), (some "condition", 3), (some "condition", 4), (none, 5)]

theorem crowd_follows : ["condition", "true", "false"].Nodup ∧
    Follows ["condition", "true", "false"] crowd (bind (.named ["condition", "true", "false"]) crowd) ∧
    (bind (.named ["condition", "true", "false"]) crowd).named = [("condition", some 3), ("true", some 1), ("false", some 2)] ∧
    0 < (bind (.named ["condition", "true", "false"]) crowd).unbound ∧
    leftOver ["condition", "true", "false"] crowd = [4, 5] := by
  have distinct : ["condition", "true", "false"].Nodup := by decide
  exact ⟨distinct, ((bind_follows distinct crowd).1 _).mpr rfl, by decide, by decide, by decide⟩

end Dataflow.Inputs
