import Dataflow.Kind.Basic

namespace Dataflow

structure Inputs (α : Type) where
  named : List (String × Option α)
  variadic : List α
  -- How many edges found no slot.
  unbound : Nat

namespace Inputs

def fillNamed? (handle : String) (item : α) : List (String × Option α) → Option (List (String × Option α))
  | [] => none
  | (name, bound) :: rest =>
    if name = handle ∧ bound.isNone then some ((name, some item) :: rest)
    else (fillNamed? handle item rest).map ((name, bound) :: ·)

def byHandle (slots : List (String × Option α)) :
    List (Option String × α) → List (String × Option α) × List α
  | [] => (slots, [])
  | (handle, item) :: rest =>
    match handle.bind (fillNamed? · item slots) with
    | some filled => byHandle filled rest
    | none =>
      let result := byHandle slots rest
      (result.1, item :: result.2)

def byPosition : List (String × Option α) → List α → List (String × Option α) × Nat
  | slots, [] => (slots, 0)
  | [], items => ([], items.length)
  | (name, some bound) :: rest, items =>
    let result := byPosition rest items
    ((name, some bound) :: result.1, result.2)
  | (name, none) :: rest, item :: items =>
    let result := byPosition rest items
    ((name, some item) :: result.1, result.2)

def bindNamed (names : List String) (edges : List (Option String × α)) : Inputs α :=
  let (labelled, others) := byHandle (names.map fun name => (name, none)) edges
  let (filled, unbound) := byPosition labelled others
  ⟨filled, [], unbound⟩

-- The edges are given in connection order.
def bind (slots : Slots) (edges : List (Option String × α)) : Inputs α :=
  match slots with
  | .closed => ⟨[], [], edges.length⟩
  | .variadic => ⟨[], edges.map (·.2), 0⟩
  | .named names => bindNamed names edges

def get? (inputs : Inputs α) (slot : String) : Option α := (inputs.named.lookup slot).join

def missing (inputs : Inputs α) : List String :=
  (inputs.named.filter (·.2.isNone)).map (·.1)

-- Bindings that carry nothing leave their slot missing; all others stay where they are.
def flatten (inputs : Inputs (Option α)) : Inputs α :=
  ⟨inputs.named.map fun slot => (slot.1, slot.2.join), inputs.variadic.filterMap id, inputs.unbound⟩

end Inputs
end Dataflow
