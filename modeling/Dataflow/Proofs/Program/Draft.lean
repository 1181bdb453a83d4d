import Dataflow.Proofs.Program.Statement

namespace Dataflow

namespace Kind

def slotNames (kind : Kind) : List String :=
  match kind.slots with
  | .named names => names
  | .closed | .variadic => []

-- The literal that takes the place of a variable where nothing feeds the slot.
def substitute : Kind → String → String
  | boolean _, _ => "False"
  | text _, _ | display, _ => "\"\""
  | list _, _ => "[]"
  | ifElse, slot => if slot = "condition" then "False" else "0"
  | _, _ => "0"

end Kind

namespace Emission

variable {node : Node} {inputs : Inputs Operand}

-- The variable that feeds a slot, or what takes its place.
def operandText (inputs : Inputs Operand) (slot substitute : String) : String :=
  ((inputs.get? slot).map Operand.name).getD substitute

def vacancy (node : Node) (inputs : Inputs Operand) (slot substitute : String) : List Diagnostic :=
  if (inputs.get? slot).isNone then [.missingInput node.id slot substitute] else []

def placeholder (node : Node) : List Diagnostic :=
  match node.kind with
  | .unknown typeName => [.unknownKind node.id typeName]
  | _ => []

-- Actions have no effect but on the draft.
theorem run_pure (a : α) (draft : Draft) : (pure a : Drafting α).run draft = (a, draft) := rfl

theorem run_bind (action : Drafting α) (next : α → Drafting β) (draft : Draft) :
    (action >>= next).run draft = (next (action.run draft).1).run (action.run draft).2 := rfl

theorem run_map (f : α → β) (action : Drafting α) (draft : Draft) :
    (f <$> action).run draft = (f (action.run draft).1, (action.run draft).2) := rfl

theorem run_modify (change : Draft → Draft) (draft : Draft) :
    (modify change : Drafting PUnit).run draft = (⟨⟩, change draft) := rfl

attribute [local simp high] run_pure run_bind run_map run_modify

@[simp]
theorem run_operand (node : Node) (inputs : Inputs Operand) (slot substitute : String) (draft : Draft) :
    (operand node inputs slot substitute).run draft =
      (operandText inputs slot substitute, { draft with notes := draft.notes ++ vacancy node inputs slot substitute }) := by
  unfold operand operandText vacancy
  cases inputs.get? slot with
  | some operand => simp
  | none => rfl

@[simp]
theorem run_asText (expression : String) (float : Bool) (draft : Draft) :
    (asText expression float).run draft = ((if float then helperName else "str") ++ "(" ++ expression ++ ")",
      { draft with usesHelper := draft.usesHelper || float }) := by
  cases float with
  | true => simp [asText]
  | false => simp [asText]

theorem statement_notes (node : Node) (name : String) (inputs : Inputs Operand) (draft : Draft) :
    ((statement node name inputs).run draft).2.notes = draft.notes ++
      (node.kind.slotNames.flatMap fun slot => vacancy node inputs slot (node.kind.substitute slot)) ++ placeholder node := by
  unfold statement placeholder
  cases kind : node.kind with
  | text settings =>
    cases operation : settings.operation <;> simp [textExpression, operation, Kind.slotNames, Kind.slots, Kind.substitute]
    split <;> simp
  | list settings =>
    cases operation : settings.operation <;> simp [listExpression, operation, Kind.slotNames, Kind.slots, Kind.substitute]
    all_goals split <;> simp
  | boolean connective => cases connective <;> simp [Kind.slotNames, Kind.slots, Kind.substitute]
  | display => cases isFloat inputs "input" <;> simp [Kind.slotNames, Kind.slots, Kind.substitute]
  | unknown typeName => simp [Kind.slotNames, Kind.slots, note]
  | _ => simp [guardWith, Kind.slotNames, Kind.slots, Kind.substitute]

def notes (node : Node) (inputs : Inputs Operand) : List Diagnostic :=
  surplus node inputs ++ (node.kind.slotNames.flatMap fun slot => vacancy node inputs slot (node.kind.substitute slot)) ++
    placeholder node

theorem drafted_notes (node : Node) (name : String) (inputs : Inputs Operand) :
    (drafted node name inputs).2.notes = notes node inputs := statement_notes node name inputs _

end Emission
end Dataflow
