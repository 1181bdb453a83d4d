import Dataflow.Binding
import Mathlib.Data.List.Basic

namespace Dataflow.Inputs

-- What feeds each slot, with something else in its place.
def map (f : α → β) (inputs : Inputs α) : Inputs β :=
  ⟨inputs.named.map fun slot => (slot.1, slot.2.map f), inputs.variadic.map f, inputs.unbound⟩

-- The same where some items have nothing to put in their place: these are missing.
def filterMap (f : α → Option β) (inputs : Inputs α) : Inputs β :=
  ⟨inputs.named.map fun slot => (slot.1, slot.2.bind f), inputs.variadic.filterMap f, inputs.unbound⟩

-- Which of the incoming edges feeds which slot, by its place among them.
def plan (slots : Slots) (handles : List (Option String)) : Inputs Nat := bind slots handles.zipIdx

def items (inputs : Inputs α) : List α := inputs.named.filterMap (·.2) ++ inputs.variadic

variable {f : α → β}

theorem fillNamed?_map (handle : String) (item : α) (slots : List (String × Option α)) :
    fillNamed? handle (f item) (slots.map fun slot => (slot.1, slot.2.map f)) =
      (fillNamed? handle item slots).map (·.map fun slot => (slot.1, slot.2.map f)) := by
  induction slots with
  | nil => rfl
  | cons slot rest ih =>
    simp only [List.map_cons, fillNamed?, Option.isNone_map, ih]
    split <;> simp [Function.comp_def]

theorem byHandle_map (slots : List (String × Option α)) (edges : List (Option String × α)) :
    byHandle (slots.map fun slot => (slot.1, slot.2.map f)) (edges.map fun edge => (edge.1, f edge.2)) =
      ((byHandle slots edges).1.map fun slot => (slot.1, slot.2.map f), (byHandle slots edges).2.map f) := by
  induction edges generalizing slots with
  | nil => rfl
  | cons edge rest ih =>
    obtain ⟨handle, item⟩ := edge
    have fills : handle.bind (fillNamed? · (f item) (slots.map fun slot => (slot.1, slot.2.map f))) =
        (handle.bind (fillNamed? · item slots)).map (·.map fun slot => (slot.1, slot.2.map f)) := by
      cases handle with
      | none => rfl
      | some handle => exact fillNamed?_map handle item slots
    simp only [List.map_cons, byHandle, fills]
    cases handle.bind (fillNamed? · item slots) with
    | none => simp [ih]
    | some filled => exact ih filled

theorem byPosition_map (slots : List (String × Option α)) (items : List α) :
    byPosition (slots.map fun slot => (slot.1, slot.2.map f)) (items.map f) =
      ((byPosition slots items).1.map fun slot => (slot.1, slot.2.map f), (byPosition slots items).2) := by
  induction slots, items using byPosition.induct with
  | case1 slots => cases slots <;> rfl
  | case2 items => cases items <;> simp [byPosition]
  | case3 name bound rest items positioned ih =>
    cases items with
    | nil => exact absurd rfl positioned
    | cons item items =>
      rw [List.map_cons] at ih
      simp [byPosition, ih]
  | case4 name rest item items ih => simp [byPosition, ih]

theorem bind_map (slots : Slots) (edges : List (Option String × α)) :
    bind slots (edges.map fun edge => (edge.1, f edge.2)) = (bind slots edges).map f := by
  cases slots with
  | closed => simp [bind, map]
  | variadic => simp [bind, map]
  | named names =>
    have free : (names.map fun name => (name, (none : Option β))) =
        (names.map fun name => (name, (none : Option α))).map fun slot => (slot.1, slot.2.map f) := by
      simp
    simp only [bind, bindNamed, free, byHandle_map, byPosition_map, map, List.map_nil]

theorem flatten_map (f : α → Option β) (inputs : Inputs α) : (inputs.map f).flatten = inputs.filterMap f := by
  have joined (fed : Option α) : (fed.map f).join = fed.bind f := by cases fed <;> rfl
  simp [flatten, map, filterMap, Function.comp_def, List.filterMap_map, joined]

theorem filterMap_some (inputs : Inputs α) : inputs.filterMap (some ∘ f) = inputs.map f := by
  simp [filterMap, map, Option.map_eq_bind]

theorem map_filterMap (f : α → Option β) (g : β → γ) (inputs : Inputs α) :
    (inputs.filterMap f).map g = inputs.filterMap fun item => (f item).map g := by
  simp [filterMap, map, Function.comp_def, List.map_filterMap, Option.map_bind]

theorem lookup_map (g : α → β) (slots : List (String × α)) (name : String) :
    (slots.map fun slot => (slot.1, g slot.2)).lookup name = (slots.lookup name).map g := by
  induction slots with
  | nil => rfl
  | cons slot rest ih =>
    obtain ⟨first, item⟩ := slot
    simp only [List.map_cons, List.lookup_cons, ih]
    split <;> rfl

theorem get?_filterMap (f : α → Option β) (inputs : Inputs α) (slot : String) :
    (inputs.filterMap f).get? slot = (inputs.get? slot).bind f := by
  have fed := lookup_map (·.bind f) inputs.named slot
  simp only [get?, filterMap, fed]
  cases inputs.named.lookup slot <;> rfl

theorem get?_map (f : α → β) (inputs : Inputs α) (slot : String) :
    (inputs.map f).get? slot = (inputs.get? slot).map f := by
  rw [← filterMap_some, get?_filterMap]
  cases inputs.get? slot <;> rfl

theorem mem_of_get? {inputs : Inputs α} {item : α} (fed : inputs.get? slot = some item) : item ∈ inputs.items := by
  obtain ⟨named, variadic, unbound⟩ := inputs
  refine List.mem_append_left _ ?_
  unfold get? at fed
  induction named with
  | nil => cases fed
  | cons first rest ih =>
    rw [List.lookup_cons] at fed
    split at fed
    · exact List.mem_filterMap.mpr ⟨first, List.mem_cons_self, fed⟩
    · obtain ⟨other, member, bound⟩ := List.mem_filterMap.mp (ih fed)
      exact List.mem_filterMap.mpr ⟨other, List.mem_cons_of_mem _ member, bound⟩

theorem items_filterMap (f : α → Option β) (inputs : Inputs α) :
    (inputs.filterMap f).items = inputs.items.filterMap f := by
  simp only [items, filterMap, List.filterMap_append, List.filterMap_map, List.filterMap_filterMap]
  rfl

theorem filterMap_congr {f g : α → Option β} {inputs : Inputs α} (same : ∀ item ∈ inputs.items, f item = g item) :
    inputs.filterMap f = inputs.filterMap g := by
  have named : inputs.named.map (fun slot => (slot.1, slot.2.bind f)) =
      inputs.named.map fun slot => (slot.1, slot.2.bind g) := by
    refine List.map_congr_left fun slot member => ?_
    cases fed : slot.2 with
    | none => rfl
    | some item =>
      have bound := List.mem_append_left inputs.variadic (List.mem_filterMap.mpr ⟨slot, member, fed⟩)
      rw [Option.bind_some, Option.bind_some, same item bound]
  have variadic : inputs.variadic.filterMap f = inputs.variadic.filterMap g :=
    List.filterMap_congr fun item member => same item (List.mem_append_right _ member)
  rw [filterMap, filterMap, named, variadic]

-- The plan puts every item where binding puts it.
theorem bind_plan (slots : Slots) (edges : List (Option String × α)) :
    bind slots edges = (plan slots (edges.map (·.1))).filterMap ((edges.map (·.2))[·]?) := by
  have places : edges.map (fun edge => (edge.1, some edge.2)) =
      (edges.map (·.1)).zipIdx.map fun place => (place.1, (edges.map (·.2))[place.2]?) := by
    refine List.ext_getElem (by simp) fun i below _ => ?_
    rw [List.length_map] at below
    simp [below]
  have carried := bind_map (f := some) slots edges
  rw [places, bind_map] at carried
  calc bind slots edges = (bind slots edges).filterMap (some ∘ id) := by rw [filterMap_some]; simp [map]
    _ = ((bind slots edges).map some).flatten := (flatten_map _ _).symm
    _ = _ := by rw [← carried, flatten_map, plan]

theorem mem_of_bind {slots : Slots} {edges : List (Option String × α)} {item : α}
    (bound : item ∈ (bind slots edges).items) : item ∈ edges.map (·.2) := by
  rw [bind_plan, items_filterMap] at bound
  obtain ⟨place, _, there⟩ := List.mem_filterMap.mp bound
  exact List.mem_of_getElem? there

theorem bind_carried (slots : Slots) (handle : ε → Option String) (carried : ε → Option β) (edges : List ε) :
    (bind slots (edges.map fun edge => (handle edge, carried edge))).flatten =
      (bind slots (edges.map fun edge => (handle edge, edge))).filterMap carried := by
  have mapped := bind_map (f := carried) slots (edges.map fun edge => (handle edge, edge))
  rw [List.map_map] at mapped
  exact (congrArg flatten mapped).trans (flatten_map carried _)

-- Passing over what carries nothing comes to the same where all edges carry something.
theorem bind_filterMap [Inhabited β] (slots : Slots) (handle : ε → Option String) (carried : ε → Option β)
    {edges : List ε} (all : ∀ edge ∈ edges, (carried edge).isSome) :
    bind slots (edges.filterMap fun edge => (carried edge).map (handle edge, ·)) =
      (bind slots (edges.map fun edge => (handle edge, edge))).filterMap carried := by
  let held (edge : ε) : β := (carried edge).getD default
  have holds : ∀ edge ∈ edges, carried edge = some (held edge) := by
    intro edge member
    obtain ⟨item, found⟩ := Option.isSome_iff_exists.mp (all edge member)
    simp [held, found]
  have kept : edges.filterMap (fun edge => (carried edge).map (handle edge, ·)) =
      edges.map fun edge => (handle edge, held edge) := by
    rw [← List.filterMap_eq_map]
    exact List.filterMap_congr fun edge member => by simp [holds edge member]
  have optional : edges.map (fun edge => (handle edge, carried edge)) =
      (edges.map fun edge => (handle edge, held edge)).map fun edge => (edge.1, some edge.2) := by
    rw [List.map_map]
    exact List.map_congr_left fun edge member => by simp [holds edge member]
  rw [← bind_carried, optional, bind_map, flatten_map, kept, ← Function.comp_id some, filterMap_some]
  simp [map]

end Dataflow.Inputs
