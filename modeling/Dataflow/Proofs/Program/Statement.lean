import Dataflow.Emission
import Dataflow.Proofs.Program.Naming

namespace Dataflow

-- Displays only print, and nothing is known of unknown kinds. All other kinds compute a variable of their own.
def Kind.Computes (kind : Kind) : Prop := kind.isDisplay = false ∧ kind.isUnknown = false

instance (kind : Kind) : Decidable kind.Computes := inferInstanceAs (Decidable (_ ∧ _))

theorem Kind.isDisplay_iff {kind : Kind} : kind.isDisplay ↔ kind = .display := by
  cases kind <;> simp [isDisplay]

namespace Python

-- The variable that a statement begins with assigning. What else is assigned in it, `assignments` tells.
def assigned? (line : String) : Option String :=
  let word := line.toList.takeWhile isWordChar
  if word ≠ [] ∧ " = ".toList.isPrefixOf (line.toList.dropWhile isWordChar) then some (.ofList word) else none

theorem assigned?_assignment {name : String} (word : IsWord name) (expression : String) :
    assigned? (name ++ " = " ++ expression) = some name := by
  have split : (name ++ " = " ++ expression).toList.takeWhile isWordChar = name.toList ∧
      (name ++ " = " ++ expression).toList.dropWhile isWordChar = " = ".toList ++ expression.toList := by
    rw [String.append_assoc, String.toList_append, String.toList_append, List.takeWhile_append_of_pos word.2,
      List.dropWhile_append_of_pos word.2]
    exact ⟨List.append_nil _, rfl⟩
  have some_ : name.toList ≠ [] := fun empty => word.1 (String.toList_eq_nil_iff.mp empty)
  rw [assigned?, split.1, split.2]
  simp [some_]

theorem assigned?_comment (text : String) : assigned? ("# " ++ text) = none := by
  simp [assigned?, isWordChar]

theorem assigned?_print (text : String) : assigned? ("print(" ++ text) = none := by
  simp [assigned?, isWordChar]

end Python

namespace Emission

variable {node : Node} {name : String} {inputs : Inputs Operand}

theorem statement_assigns (name : String) (inputs : Inputs Operand) (computes : node.kind.Computes) (draft : Draft) :
    ∃ expression, ((statement node name inputs).run draft).1 = some (name ++ " = " ++ expression) := by
  unfold statement
  cases kind : node.kind with
  | boolean connective => cases connective <;> exact ⟨_, rfl⟩
  | display => rw [kind] at computes; cases computes.1
  | unknown typeName => rw [kind] at computes; cases computes.2
  | _ => exact ⟨_, rfl⟩

theorem statement_other (name : String) (inputs : Inputs Operand) (other : ¬node.kind.Computes) (draft : Draft) :
    ((statement node name inputs).run draft).1 = none ∨
      ∃ shown, ((statement node name inputs).run draft).1 = some ("print(" ++ shown) := by
  unfold statement
  cases kind : node.kind with
  | display =>
    refine .inr ?_
    dsimp only
    cases isFloat inputs "input" with
    | false => exact ⟨_, congrArg some (String.append_assoc ..)⟩
    | true => exact ⟨_, congrArg some (String.append_assoc ..)⟩
  | unknown typeName => exact .inl rfl
  | _ => rw [kind] at other; exact absurd ⟨rfl, rfl⟩ other

def drafted (node : Node) (name : String) (inputs : Inputs Operand) : Option String × Draft :=
  (statement node name inputs).run { notes := surplus node inputs }

theorem ofNode_statements (node : Node) (name : String) (inputs : Inputs Operand) :
    (ofNode node name inputs).statements =
      (drafted node name inputs).2.notes.map comment ++ (drafted node name inputs).1.toList := rfl

-- A node's statements assign its variable, once, and nothing else.
theorem ofNode_assigns (word : node.kind.Computes → Python.IsWord name) :
    (ofNode node name inputs).statements.filterMap Python.assigned? = if node.kind.Computes then [name] else [] := by
  have comments (notes : List Diagnostic) : (notes.map comment).filterMap Python.assigned? = [] := by
    rw [List.filterMap_map, List.filterMap_eq_nil_iff]
    exact fun note _ => Python.assigned?_comment note.text
  rw [ofNode_statements, List.filterMap_append, comments, List.nil_append, drafted]
  split
  · rename_i computes
    obtain ⟨expression, code⟩ := statement_assigns name inputs computes { notes := surplus node inputs }
    simp [code, Python.assigned?_assignment (word computes)]
  · rename_i other
    rcases statement_other name inputs other { notes := surplus node inputs } with none | ⟨shown, code⟩
    · simp [none]
    · simp [code, Python.assigned?_print]

end Emission
end Dataflow
