import Dataflow.Proofs.Evaluation
import Dataflow.Proofs.Program.Account

namespace Dataflow

-- The shape whose default a slot falls back on.
def Kind.slotShape : Kind → String → Shape
  | boolean _, _ => .bool
  | text _, _ | display, _ => .text
  | list _, _ => .list
  | ifElse, slot => if slot = "condition" then .bool else .number
  | _, _ => .number

def Kind.fallback (kind : Kind) (slot : String) : Value := (kind.slotShape slot).default

namespace Shape

theorem default_literal : number.default.literal = "0" ∧ text.default.literal = "\"\"" ∧
    bool.default.literal = "False" ∧ list.default.literal = "[]" := by decide +kernel

theorem default_literal_injective : Function.Injective fun shape : Shape => shape.default.literal := by
  obtain ⟨number, text, bool, list⟩ := default_literal
  intro shape other same
  cases shape <;> cases other <;> simp_all

end Shape

theorem Kind.substitute_literal (kind : Kind) (slot : String) : kind.substitute slot = (kind.fallback slot).literal := by
  obtain ⟨number, text, bool, list⟩ := Shape.default_literal
  unfold fallback
  cases kind with
  | boolean connective => exact bool.symm
  | text settings => exact text.symm
  | display => exact text.symm
  | list settings => exact list.symm
  | ifElse =>
    change (if slot = "condition" then "False" else "0") =
      (if slot = "condition" then Shape.bool else Shape.number).default.literal
    split
    · exact bool.symm
    · exact number.symm
  | _ => exact number.symm

namespace Inputs

-- The missing slots fed with what there is for them.
def fill (given : String → α) (inputs : Inputs α) : Inputs α :=
  ⟨inputs.named.map fun slot => (slot.1, some (slot.2.getD (given slot.1))), inputs.variadic, inputs.unbound⟩

variable {α β : Type} {given : String → α}

theorem get?_fill (given : String → α) (inputs : Inputs α) (slot : String) :
    (inputs.fill given).get? slot = inputs.get? slot ∨
      inputs.get? slot = none ∧ (inputs.fill given).get? slot = some (given slot) := by
  obtain ⟨named, variadic, unbound⟩ := inputs
  unfold fill get?
  induction named with
  | nil => exact .inl rfl
  | cons first rest ih =>
    rw [List.map_cons, List.lookup_cons, List.lookup_cons]
    split
    · rename_i same
      obtain rfl := eq_of_beq same
      cases first.2 with
      | none => exact .inr ⟨rfl, rfl⟩
      | some item => exact .inl rfl
    · exact ih

-- What reads a missing slot like one that is fed with what there is for it sees no difference.
theorem read_fill (inputs : Inputs α) (slot : String) (read : Option α → β) (same : read (some (given slot)) = read none) :
    read ((inputs.fill given).get? slot) = read (inputs.get? slot) := by
  rcases get?_fill given inputs slot with fed | ⟨missing, filled⟩
  · rw [fed]
  · rw [missing, filled, same]

variable {default : Value} {inputs : Inputs Value} {given : String → Value} {slot : String}

theorem number_fill (zero : (given slot).asNumber = 0.0) : (inputs.fill given).number slot = inputs.number slot :=
  read_fill inputs slot (fun fed => (fed.map Value.asNumber).getD 0.0) zero

theorem truthy_fill (no : (given slot).truthy = false) : (inputs.fill given).truthy slot = inputs.truthy slot :=
  read_fill inputs slot (fun fed => (fed.map Value.truthy).getD false) no

theorem getD_fill (there : given slot = default) :
    ((inputs.fill given).get? slot).getD default = (inputs.get? slot).getD default :=
  read_fill inputs slot (·.getD default) there

theorem text_fill (blank : given slot = .text "") : (inputs.fill given).text slot = inputs.text slot := by
  rw [text_eq, text_eq, getD_fill blank]

theorem targetItems_fill (empty : given "target" = .list []) : targetItems (inputs.fill given) = targetItems inputs := by
  unfold targetItems
  rcases get?_fill given inputs "target" with fed | ⟨missing, filled⟩
  · rw [fed]
  · rw [missing, filled, empty]
    rfl

end Inputs

theorem Kind.evaluate_fill (kind : Kind) (literal : Value) (inputs : Inputs Value) :
    kind.evaluate literal (inputs.fill kind.fallback) = kind.evaluate literal inputs := by
  cases kind with
  | input shape => rfl
  | addition => rfl
  | multiplication => rfl
  | unknown typeName => rfl
  | subtraction =>
    have numbers (slot : String) : (inputs.fill subtraction.fallback).number slot = inputs.number slot :=
      Inputs.number_fill rfl
    simp only [evaluate, numbers]
  | division =>
    have numbers (slot : String) : (inputs.fill division.fallback).number slot = inputs.number slot :=
      Inputs.number_fill rfl
    simp only [evaluate, numbers]
  | comparison operation =>
    have sides (slot : String) : ((inputs.fill (comparison operation).fallback).get? slot).getD (.number 0.0) =
        (inputs.get? slot).getD (.number 0.0) := Inputs.getD_fill rfl
    simp only [evaluate, sides]
  | boolean operation =>
    have sides (slot : String) : (inputs.fill (boolean operation).fallback).truthy slot = inputs.truthy slot :=
      Inputs.truthy_fill rfl
    simp only [evaluate, sides]
  | text settings =>
    have texts (slot : String) : (inputs.fill (text settings).fallback).text slot = inputs.text slot :=
      Inputs.text_fill rfl
    have left : ((inputs.fill (text settings).fallback).get? "left").getD (.text "") =
        (inputs.get? "left").getD (.text "") := Inputs.getD_fill rfl
    simp only [evaluate, TextSettings.evaluate, texts, left]
  | list settings =>
    have items : targetItems (inputs.fill (list settings).fallback) = targetItems inputs := Inputs.targetItems_fill rfl
    simp only [evaluate, ListSettings.evaluate, items]
  | ifElse =>
    have condition : (inputs.fill ifElse.fallback).truthy "condition" = inputs.truthy "condition" :=
      Inputs.truthy_fill rfl
    have branch : ∀ slot ∈ ["true", "false"], ((inputs.fill ifElse.fallback).get? slot).getD (.number 0.0) =
        (inputs.get? slot).getD (.number 0.0) := by
      intro slot branch
      refine Inputs.getD_fill ?_
      rcases List.mem_pair.mp branch with rfl | rfl <;> rfl
    simp only [evaluate, condition]
    rw [branch]
    split <;> simp
  | display => exact congrArg some (Inputs.getD_fill rfl)

namespace Emission

theorem mem_substituted {node : Node} {name slot text : String} {inputs : Inputs Operand} :
    Diagnostic.missingInput node.id slot text ∈ (ofNode node name inputs).diagnostics ↔
      (slot ∈ node.kind.slotNames ∧ (inputs.get? slot).isNone) ∧ text = (node.kind.fallback slot).literal := by
  have first : Diagnostic.missingInput node.id slot text ∉ surplus node inputs := by
    unfold surplus
    split <;> simp
  have last : Diagnostic.missingInput node.id slot text ∉ remark node := by
    unfold remark
    cases node.kind <;> simp
  rw [ofNode_diagnostics, List.mem_append, List.mem_append, or_iff_left last, or_iff_right first, List.mem_map]
  constructor
  · rintro ⟨other, vacant, same⟩
    cases same
    exact ⟨List.mem_filter.mp vacant, node.kind.substitute_literal slot⟩
  · rintro ⟨vacant, rfl⟩
    exact ⟨slot, List.mem_filter.mpr vacant, by rw [Kind.substitute_literal]⟩

end Emission

-- What a program is said to write for a missing slot is the literal of one default, and evaluation takes that default.
theorem defaults_agree (node : Node) (name : String) (edges : List (Option String × Option Operand)) :
    let operands := (Inputs.bind node.kind.slots edges).flatten
    (∀ slot text, Diagnostic.missingInput node.id slot text ∈ (Emission.ofNode node name operands).diagnostics ↔
      slot ∈ operands.missing ∧ text = (node.kind.slotShape slot).default.literal) ∧
    (∀ slot, ∀ shape : Shape, shape.default.literal = (node.kind.slotShape slot).default.literal ↔
      shape = node.kind.slotShape slot) ∧
    ∀ (literal : Value) (live : Inputs Value),
      node.kind.evaluate literal (live.fill fun slot => (node.kind.slotShape slot).default) =
        node.kind.evaluate literal live := by
  intro operands
  refine ⟨fun slot text => ?_, fun slot shape => Shape.default_literal_injective.eq_iff, node.kind.evaluate_fill⟩
  have missing : operands.missing = node.kind.slotNames.filter fun slot => (operands.get? slot).isNone :=
    Inputs.missing_bound node.kind edges
  rw [missing, List.mem_filter]
  exact Emission.mem_substituted

end Dataflow
