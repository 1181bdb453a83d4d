import Dataflow.Value.Json

namespace Dataflow.Value

-- Something holds of every number in a value, however deep in its lists.
mutual
def EveryNumber (holds : Float → Prop) : Value → Prop
  | number n => holds n
  | text _ | bool _ => True
  | list items => EveryNumberIn holds items

def EveryNumberIn (holds : Float → Prop) : List Value → Prop
  | [] => True
  | item :: rest => EveryNumber holds item ∧ EveryNumberIn holds rest
end

mutual
def decideNumber (holds : Float → Prop) [DecidablePred holds] : (value : Value) → Decidable (EveryNumber holds value)
  | number n => inferInstanceAs (Decidable (holds n))
  | text _ | bool _ => .isTrue trivial
  | list items => decideNumberIn holds items

def decideNumberIn (holds : Float → Prop) [DecidablePred holds] : (items : List Value) → Decidable (EveryNumberIn holds items)
  | [] => .isTrue trivial
  | item :: rest => @instDecidableAnd _ _ (decideNumber holds item) (decideNumberIn holds rest)
end

instance (holds : Float → Prop) [DecidablePred holds] : DecidablePred (EveryNumber holds) := decideNumber holds

instance (holds : Float → Prop) [DecidablePred holds] : DecidablePred (EveryNumberIn holds) := decideNumberIn holds

abbrev Finite : Value → Prop := EveryNumber fun n => n.isFinite

abbrev FiniteIn : List Value → Prop := EveryNumberIn fun n => n.isFinite

mutual
theorem ofJson?_toJson (value read : Value) : ofJson? value.toJson = some read ↔ value.Finite ∧ value = read := by
  cases value with
  | number n => by_cases finite : n.isFinite <;> simp [toJson, ofJson?, EveryNumber, finite]
  | text s => simp [toJson, ofJson?, EveryNumber]
  | bool b => simp [toJson, ofJson?, EveryNumber]
  | list items =>
    have inner := itemsOfJson?_itemsToJson items
    simp only [toJson, ofJson?, Option.map_eq_some_iff, inner, EveryNumber]
    constructor
    · rintro ⟨_, ⟨finite, rfl⟩, rfl⟩
      exact ⟨finite, rfl⟩
    · rintro ⟨finite, rfl⟩
      exact ⟨items, ⟨finite, rfl⟩, rfl⟩

theorem itemsOfJson?_itemsToJson (items read : List Value) :
    itemsOfJson? (itemsToJson items) = some read ↔ FiniteIn items ∧ items = read := by
  cases items with
  | nil => simp [itemsToJson, itemsOfJson?, EveryNumberIn]
  | cons item rest =>
    have first := ofJson?_toJson item
    have others := itemsOfJson?_itemsToJson rest
    simp only [itemsToJson, itemsOfJson?, Option.bind_eq_bind, Option.bind_eq_some_iff, first, others, EveryNumberIn,
      Option.pure_def, Option.some.injEq]
    constructor
    · rintro ⟨_, ⟨finite, rfl⟩, _, ⟨restFinite, rfl⟩, rfl⟩
      exact ⟨⟨finite, restFinite⟩, rfl⟩
    · rintro ⟨⟨finite, restFinite⟩, rfl⟩
      exact ⟨item, ⟨finite, rfl⟩, rest, ⟨restFinite, rfl⟩, rfl⟩
end

end Dataflow.Value
