import Dataflow.Proofs.Program.Draft
import Dataflow.Proofs.Slots

namespace Dataflow

theorem Kind.slotNames_nodup (kind : Kind) : kind.slotNames.Nodup := by
  cases kind with
  | boolean connective => cases connective <;> decide
  | text settings =>
    unfold slotNames slots
    by_cases two : settings.operation = .concat <;> simp [two]
  | _ => simp [slotNames, slots]

namespace Inputs

variable {α : Type}

theorem bind_slotNames (kind : Kind) (edges : List (Option String × α)) :
    (bind kind.slots edges).named.map Prod.fst = kind.slotNames := by
  have distinct := kind.slotNames_nodup
  unfold Kind.slotNames at distinct ⊢
  cases slots : kind.slots with
  | closed => rfl
  | variadic => rfl
  | named names =>
    rw [slots] at distinct
    rw [bind_table distinct]
    exact table_names names _

theorem flatten_slotNames (inputs : Inputs (Option α)) :
    inputs.flatten.named.map Prod.fst = inputs.named.map Prod.fst := by
  simp [flatten, Function.comp_def]

theorem missing_eq {inputs : Inputs α} (distinct : (inputs.named.map Prod.fst).Nodup) :
    inputs.missing = (inputs.named.map Prod.fst).filter fun name => (inputs.get? name).isNone := by
  have tabled : inputs.named = table (inputs.named.map Prod.fst) inputs.get? := named_eq_table distinct
  rw [missing, tabled, table_names, table, List.filter_map, List.map_map]
  exact List.map_id _

theorem missing_bound (kind : Kind) (edges : List (Option String × Option α)) :
    (bind kind.slots edges).flatten.missing =
      kind.slotNames.filter fun name => ((bind kind.slots edges).flatten.get? name).isNone := by
  have names : (bind kind.slots edges).flatten.named.map Prod.fst = kind.slotNames :=
    (flatten_slotNames _).trans (bind_slotNames kind edges)
  have distinct := kind.slotNames_nodup
  rw [← names] at distinct ⊢
  exact missing_eq distinct

end Inputs

namespace Diagnostic

-- Guards stand in the code, behind it on the same line.
def isGuard : Diagnostic → Bool
  | divisionGuard _ => true
  | _ => false

end Diagnostic

namespace Emission

attribute [local simp high] run_pure run_bind run_map run_modify

variable {node : Node} {name : String} {inputs : Inputs Operand}

def remark (node : Node) : List Diagnostic :=
  match node.kind with
  | .division => [.divisionGuard node.id]
  | .unknown typeName => [.unknownKind node.id typeName]
  | _ => []

-- The code of a node: it assigns the variable. A display prints, and an unknown kind has none.
def Coded (kind : Kind) (name : String) (code : Option String) : Prop :=
  match kind with
  | .unknown _ => code = none
  | .display => ∃ shown, code = some ("print(" ++ shown ++ ")")
  | _ => ∃ expression, code = some (name ++ " = " ++ expression)

theorem statement_guards (node : Node) (name : String) (inputs : Inputs Operand) (draft : Draft) :
    ((statement node name inputs).run draft).2.guards = draft.guards ++ (remark node).filter Diagnostic.isGuard := by
  unfold statement remark
  cases kind : node.kind with
  | text settings =>
    cases operation : settings.operation <;> simp [textExpression, operation]
    split <;> simp
  | list settings =>
    cases operation : settings.operation <;> simp [listExpression, operation]
    all_goals split <;> simp
  | boolean connective => cases connective <;> simp
  | display => cases isFloat inputs "input" <;> simp
  | unknown typeName => simp [note, Diagnostic.isGuard]
  | division => simp [guardWith, List.filter_cons, Diagnostic.isGuard]
  | _ => simp

theorem statement_coded (node : Node) (name : String) (inputs : Inputs Operand) (draft : Draft) :
    Coded node.kind name ((statement node name inputs).run draft).1 := by
  cases kind : node.kind with
  | unknown typeName =>
    unfold statement
    rw [kind]
    rfl
  | display =>
    unfold statement
    rw [kind]
    cases isFloat inputs "input" <;> exact ⟨_, rfl⟩
  | _ =>
    have computes : node.kind.Computes := by
      rw [kind]
      exact ⟨rfl, rfl⟩
    exact statement_assigns name inputs computes draft

theorem vacancies (node : Node) (inputs : Inputs Operand) (names : List String) :
    names.flatMap (fun slot => vacancy node inputs slot (node.kind.substitute slot)) =
      (names.filter fun slot => (inputs.get? slot).isNone).map
        fun slot => .missingInput node.id slot (node.kind.substitute slot) := by
  induction names with
  | nil => rfl
  | cons slot rest ih =>
    rw [List.flatMap_cons, ih, vacancy]
    cases fed : inputs.get? slot <;> simp [fed]

theorem placeholder_remark (node : Node) : placeholder node ++ (remark node).filter Diagnostic.isGuard = remark node := by
  unfold placeholder remark
  cases node.kind <;> rfl

theorem placeholder_noted (node : Node) : (remark node).filter (!·.isGuard) = placeholder node := by
  unfold placeholder remark
  cases node.kind <;> rfl

theorem ofNode_diagnostics (node : Node) (name : String) (inputs : Inputs Operand) :
    (ofNode node name inputs).diagnostics = surplus node inputs ++
      ((node.kind.slotNames.filter fun slot => (inputs.get? slot).isNone).map
        fun slot => .missingInput node.id slot (node.kind.substitute slot)) ++ remark node := by
  have guards : (drafted node name inputs).2.guards = (remark node).filter Diagnostic.isGuard :=
    statement_guards node name inputs _
  have parts : (ofNode node name inputs).diagnostics =
      (drafted node name inputs).2.notes ++ (drafted node name inputs).2.guards := rfl
  rw [parts, drafted_notes, guards, notes, vacancies, List.append_assoc, placeholder_remark]

-- Everything but the guards stands in a comment.
theorem ofNode_comments (node : Node) (name : String) (inputs : Inputs Operand) :
    (ofNode node name inputs).diagnostics.filter (!·.isGuard) = notes node inputs := by
  have exceeded : (surplus node inputs).filter (!·.isGuard) = surplus node inputs := by
    unfold surplus
    split <;> rfl
  have missing (slots : List String) :
      (slots.map fun slot => Diagnostic.missingInput node.id slot (node.kind.substitute slot)).filter (!·.isGuard) =
        slots.map fun slot => .missingInput node.id slot (node.kind.substitute slot) :=
    List.filter_eq_self.mpr (List.forall_mem_map.mpr fun _ _ => rfl)
  rw [ofNode_diagnostics, List.filter_append, List.filter_append, exceeded, missing, placeholder_noted, notes, vacancies]

-- What was done with the inputs of a node, slot by slot, and where it is written down.
theorem ofNode_accounts (node : Node) (name : String) (edges : List (Option String × Option Operand)) :
    let inputs := (Inputs.bind node.kind.slots edges).flatten
    (ofNode node name inputs).diagnostics =
      (if 0 < inputs.unbound ∧ node.kind.isUnknown = false then [.surplusInputs node.id inputs.unbound] else []) ++
        (inputs.missing.map fun slot => .missingInput node.id slot (node.kind.substitute slot)) ++ remark node ∧
    ∃ code, Coded node.kind name code ∧ (ofNode node name inputs).statements =
      (((ofNode node name inputs).diagnostics.filter (!·.isGuard)).map fun diagnostic => "# " ++ diagnostic.text) ++
        code.toList := by
  intro inputs
  have exceeded : surplus node inputs =
      if 0 < inputs.unbound ∧ node.kind.isUnknown = false then [.surplusInputs node.id inputs.unbound] else [] := by
    simp [surplus]
  have vacant : inputs.missing = node.kind.slotNames.filter fun slot => (inputs.get? slot).isNone :=
    Inputs.missing_bound node.kind edges
  refine ⟨by rw [ofNode_diagnostics, exceeded, vacant], (drafted node name inputs).1, statement_coded node name inputs _, ?_⟩
  rw [ofNode_comments, ← drafted_notes node name inputs]
  exact ofNode_statements node name inputs

end Emission
end Dataflow
