import Dataflow.Proofs.Program.Reading

namespace Dataflow

namespace Emission
open Python (Inert Passes Assigns IsWord assignments)

variable {node : Node} {name : String} {inputs : Inputs Operand}

-- What a formula is copied into.
def copying (node : Node) (inputs : Inputs Operand) : String :=
  let target := operandText inputs "target" "[]"
  match node.kind with
  | .list settings =>
    match settings.operation with
    | .map => "[" ++ Text.trim settings.mapping ++ " for x in " ++ target ++ "]"
    | .filter => "[x for x in " ++ target ++ " if " ++ Text.trim settings.condition ++ "]"
    | _ => ""
  | _ => ""

theorem copying_of_not_copies (other : ¬node.kind.copies) : copying node inputs = "" := by
  unfold copying
  cases kind : node.kind with
  | list settings =>
    rw [kind] at other
    cases operation : settings.operation with
    | map => exact absurd (by simp [Kind.copies, operation]) other
    | filter => exact absurd (by simp [Kind.copies, operation]) other
    | _ => simp only [operation]
  | _ => rfl

-- What the comments and the copied formula of a node assign.
def strays (node : Node) (inputs : Inputs Operand) : List String :=
  ((notes node inputs).map comment).flatMap assignments ++ assignments (copying node inputs)

theorem callee_word (float : Bool) : IsWord (if float then helperName else "str") := by cases float <;> decide

theorem inert_call {opening expression : String} (opened : Passes opening 1) (inert : Inert expression) :
    Inert (opening ++ expression ++ ")") := ((opened.append inert).mark ")" rfl).inert rfl

theorem passes_callee (float : Bool) : Passes ((if float then helperName else "str") ++ "(") 1 :=
  (Python.inert_word (callee_word float)).mark "(" rfl

theorem inert_joinCall {delimiter item source : String} (each : Inert item) (inert : Inert source) :
    Inert (joinCall delimiter item source) := by
  have joined := ((Python.inert_doubleQuoted delimiter).mark ".join(" rfl).append each
  exact (((joined.mark " for v in " rfl).append inert).mark ")" rfl).inert rfl

theorem inert_item (float : Bool) : Inert ((if float then helperName else "str") ++ "(" ++ "v" ++ ")") :=
  inert_call (passes_callee float) (Python.passes_quiet rfl)

theorem connect_inert (connective : Connective) {left right : String} (one : Inert left) (other : Inert right) :
    Inert (connect connective left right) := by
  have negated : Inert "not " := Python.passes_quiet rfl
  have opened : Passes "not (" 1 := Python.passes_quiet rfl
  cases connective with
  | not => exact negated.append one
  | and => exact ((one.mark " and " rfl).append other).inert rfl
  | or => exact ((one.mark " or " rfl).append other).inert rfl
  | xor => exact (one.append (Python.inert_comparison .notEqual)).append other
  | nand => exact ((((opened.append one).mark " and " rfl).append other).mark ")" rfl).inert rfl
  | nor => exact ((((opened.append one).mark " or " rfl).append other).mark ")" rfl).inert rfl

theorem guarded_assigns {dividend divisor : String} (one : Inert dividend) (other : Inert divisor) (text : String)
    (inline : Text.OneLine text) :
    Assigns (dividend ++ " / " ++ divisor ++ " if " ++ divisor ++ " != 0 else 0  # " ++ text) [] := by
  have quotient := ((((one.mark " / " rfl).append other).mark " if " rfl).append other).append
    (Python.inert_comparison .notEqual)
  have whole := (quotient.mark "0 else 0  " rfl).inert rfl
  have parts : dividend ++ " / " ++ divisor ++ " if " ++ divisor ++ " != 0 else 0  # " ++ text =
      dividend ++ " / " ++ divisor ++ " if " ++ divisor ++ (" " ++ Spelled.spelling Comparison.notEqual ++ " ") ++
        "0 else 0  " ++ ("# " ++ text) := by
    simp [← String.toList_inj, Spelled.spelling]
  rw [parts]
  exact whole.commented inline

theorem assignment_reads {expression : String} (computes : node.kind.Computes) (other : ¬node.kind.copies)
    (word : node.kind.Computes → IsWord name) (reads : Assigns expression []) :
    ∀ line ∈ some (name ++ " = " ++ expression), node.kind.Computes ∧ line = name ++ " = " ++ copying node inputs ∨
      Assigns line (if node.kind.Computes then [name] else []) ∧ Inert (copying node inputs) := by
  intro line same
  obtain rfl := Option.mem_some_iff.mp same
  rw [if_pos computes, copying_of_not_copies other]
  exact .inr ⟨reads.assignment (word computes), Python.inert_nothing⟩

section
variable (operands : ∀ operand ∈ inputs.items, IsWord operand.name)
include operands

theorem operandText_inert {slot substitute : String} (inert : Inert substitute) : Inert (operandText inputs slot substitute) := by
  unfold operandText
  cases fed : inputs.get? slot with
  | none => exact inert
  | some operand => exact Python.inert_word (operands operand (Inputs.mem_of_get? fed))

theorem fold_inert {operator : String} (inert : Inert operator) : Inert (fold operator inputs) := by
  unfold fold
  split
  · exact Python.passes_quiet rfl
  · refine .intercalate inert ?_
    rw [List.forall_mem_map]
    exact fun operand member => Python.inert_word (operands operand (List.mem_append_right _ member))

theorem textExpression_inert (settings : TextSettings) (draft : Draft) :
    Inert ((textExpression node inputs settings).run draft).1 := by
  have fed {slot : String} : Inert (operandText inputs slot "\"\"") := operandText_inert operands (Python.inert_doubleQuoted "")
  have left : Inert (operandText inputs "left" "\"\"") := fed
  unfold textExpression
  cases operation : settings.operation with simp only [run_bind, run_operand, run_asText, run_pure]
  | concat =>
    have called (slot : String) : Inert ((if isFloat inputs slot then helperName else "str") ++ "(" ++
        operandText inputs slot "\"\"" ++ ")") := inert_call (passes_callee _) fed
    exact (((called "left").mark " + " rfl).append (called "right")).inert rfl
  | length => exact inert_call (Python.passes_quiet rfl) left
  | substring =>
    have start : Inert (toString settings.start) := Python.inert_int settings.start
    have stop : Inert ((settings.effectiveStop.map toString).getD "") := Python.inert_bound _
    exact (((((left.mark "[" rfl).append start).mark ":" rfl).append stop).mark "]" rfl).inert rfl
  | uppercase => exact (left.mark ".upper()" rfl).inert rfl
  | lowercase => exact (left.mark ".lower()" rfl).inert rfl
  | replace =>
    exact (((((left.mark ".replace(" rfl).append (Python.inert_doubleQuoted _)).mark ", " rfl).append
      (Python.inert_doubleQuoted _)).mark ", 1)" rfl).inert rfl
  | split =>
    split
    · exact inert_call (Python.passes_quiet rfl) left
    · exact (((left.mark ".split(" rfl).append (Python.inert_doubleQuoted _)).mark ")" rfl).inert rfl
  | join => exact inert_joinCall (inert_item _) left
  | trim => exact (left.mark ".strip()" rfl).inert rfl
  | contains => exact ((Python.inert_doubleQuoted _).mark " in " rfl).append left |>.inert rfl

-- The formula is copied, or nothing is.
theorem listExpression_copies {settings : ListSettings} (kind : node.kind = .list settings) (draft : Draft) :
    ((listExpression node inputs settings).run draft).1 = copying node inputs ∨
      Inert ((listExpression node inputs settings).run draft).1 ∧ Inert (copying node inputs) := by
  have none : Inert "[]" := Python.passes_quiet rfl
  have target : Inert (operandText inputs "target" "[]") := operandText_inert operands none
  have listed : Inert ("list(" ++ operandText inputs "target" "[]" ++ ")") := inert_call (Python.passes_quiet rfl) target
  unfold listExpression copying
  cases operation : settings.operation with simp only [kind, operation, run_bind, run_operand, run_asText, run_pure]
  | push =>
    have pushed := (target.mark " + [" rfl).append (Python.inert_literal settings.pushedValue)
    exact .inr ⟨(pushed.mark "]" rfl).inert rfl, Python.inert_nothing⟩
  | pop => exact .inr ⟨(target.mark "[:-1]" rfl).inert rfl, Python.inert_nothing⟩
  | map =>
    split
    · rename_i blank
      have opened : Passes "[ for x in " 1 := Python.passes_quiet rfl
      rw [String.isEmpty_iff.mp blank]
      exact .inr ⟨listed, ((opened.append target).mark "]" rfl).inert rfl⟩
    · exact .inl rfl
  | filter =>
    split
    · rename_i blank
      have opened : Passes "[x for x in " 1 := Python.passes_quiet rfl
      rw [String.isEmpty_iff.mp blank]
      exact .inr ⟨listed, ((((opened.append target).mark " if " rfl).mark "" rfl).mark "]" rfl).inert rfl⟩
    · exact .inl rfl
  | length => exact .inr ⟨inert_call (Python.passes_quiet rfl) target, Python.inert_nothing⟩
  | join => exact .inr ⟨inert_joinCall (inert_item _) target, Python.inert_nothing⟩
  | slice =>
    have front := (target.mark "[" rfl).append (Python.inert_bound settings.bounds.1)
    have both := (front.mark ":" rfl).append (Python.inert_bound settings.bounds.2)
    exact .inr ⟨(both.mark "]" rfl).inert rfl, Python.inert_nothing⟩
  | reverse =>
    have opened : Passes "list(reversed(" 2 := Python.passes_quiet rfl
    exact .inr ⟨((opened.append target).mark "))" rfl).inert rfl, Python.inert_nothing⟩
  | sort => exact .inr ⟨inert_call (Python.passes_quiet rfl) target, Python.inert_nothing⟩

-- The line of code assigns the variable of the node, and what the formula that is copied into it assigns.
theorem statement_reads (word : node.kind.Computes → IsWord name) (draft : Draft) :
    ∀ line ∈ ((statement node name inputs).run draft).1,
      node.kind.Computes ∧ line = name ++ " = " ++ copying node inputs ∨
        Assigns line (if node.kind.Computes then [name] else []) ∧ Inert (copying node inputs) := by
  have zero (slot : String) : Inert (operandText inputs slot "0") := operandText_inert operands (Python.passes_quiet rfl)
  have no (slot : String) : Inert (operandText inputs slot "False") :=
    operandText_inert operands (Python.passes_quiet rfl)
  have asked (slot : String) : Inert ("bool(" ++ operandText inputs slot "False" ++ ")") :=
    inert_call (Python.passes_quiet rfl) (no slot)
  have empty (slot : String) : Inert (operandText inputs slot "\"\"") :=
    operandText_inert operands (Python.inert_doubleQuoted "")
  obtain ⟨id, kind, value, called⟩ := node
  have plain {expression : String} (computes : kind.Computes) (other : kind.copies = false) (reads : Assigns expression []) :
      ∀ line ∈ some (name ++ " = " ++ expression),
        kind.Computes ∧ line = name ++ " = " ++ copying ⟨id, kind, value, called⟩ inputs ∨
          Assigns line (if kind.Computes then [name] else []) ∧ Inert (copying ⟨id, kind, value, called⟩ inputs) :=
    @assignment_reads ⟨id, kind, value, called⟩ name inputs expression computes (by simp [other]) word reads
  unfold statement
  cases kind with
  | input shape => exact plain ⟨rfl, rfl⟩ rfl (Python.inert_literal value).assigns
  | addition =>
    have between : Inert " + " := Python.passes_quiet rfl
    exact plain ⟨rfl, rfl⟩ rfl (fold_inert operands between).assigns
  | multiplication =>
    have between : Inert " * " := Python.passes_quiet rfl
    exact plain ⟨rfl, rfl⟩ rfl (fold_inert operands between).assigns
  | subtraction =>
    simp only [run_bind, run_operand, run_pure]
    have difference := (((zero "a").mark " - " rfl).append (zero "b")).inert rfl
    exact plain ⟨rfl, rfl⟩ rfl difference.assigns
  | division =>
    simp only [guardWith, run_bind, run_operand, run_modify, run_pure]
    have inline : Text.OneLine "Prevent division by zero" := by decide
    exact plain ⟨rfl, rfl⟩ rfl (guarded_assigns (zero "a") (zero "b") _ inline)
  | comparison operation =>
    simp only [run_bind, run_operand, run_pure]
    have compared := ((zero "left").append (Python.inert_comparison operation)).append (zero "right")
    simp only [← String.append_assoc] at compared
    exact plain ⟨rfl, rfl⟩ rfl (compared.inert rfl).assigns
  | boolean connective =>
    have unasked : Inert ("bool(" ++ "" ++ ")") := inert_call (Python.passes_quiet rfl) Python.inert_nothing
    cases connective with simp only [run_bind, run_operand, run_pure, reduceCtorEq, if_true, if_false]
    | not => exact plain ⟨rfl, rfl⟩ rfl (connect_inert .not (asked "left") unasked).assigns
    | _ => exact plain ⟨rfl, rfl⟩ rfl (connect_inert _ (asked "left") (asked "right")).assigns
  | text settings =>
    simp only [run_bind, run_pure]
    exact plain ⟨rfl, rfl⟩ rfl (textExpression_inert operands settings draft).assigns
  | list settings =>
    simp only [run_bind, run_pure]
    intro line same
    obtain rfl := Option.mem_some_iff.mp same
    rcases @listExpression_copies ⟨id, .list settings, value, called⟩ inputs operands settings rfl draft with copied | ⟨inert, uncopied⟩
    · exact .inl ⟨⟨rfl, rfl⟩, by rw [copied]⟩
    · exact .inr ⟨inert.assigns.assignment (word ⟨rfl, rfl⟩), uncopied⟩
  | ifElse =>
    simp only [run_bind, run_operand, run_pure]
    have chosen := ((((zero "true").mark " if " rfl).append (no "condition")).mark " else " rfl).append (zero "false")
    exact plain ⟨rfl, rfl⟩ rfl (chosen.inert rfl).assigns
  | display =>
    have opened : Passes "print(" 1 := Python.passes_quiet rfl
    simp only [run_bind, run_operand]
    cases isFloat inputs "input" with
    | true =>
      intro line same
      obtain rfl := Option.mem_some_iff.mp same
      exact .inr ⟨(inert_call opened (inert_call (passes_callee true) (empty "input"))).assigns, Python.inert_nothing⟩
    | false =>
      intro line same
      obtain rfl := Option.mem_some_iff.mp same
      exact .inr ⟨(inert_call opened (empty "input")).assigns, Python.inert_nothing⟩
  | unknown typeName =>
    intro line none
    cases none

theorem code_assignments (word : node.kind.Computes → IsWord name) :
    (drafted node name inputs).1.toList.flatMap assignments =
      (if node.kind.Computes then [name] else []) ++ assignments (copying node inputs) := by
  cases code : (drafted node name inputs).1 with
  | none =>
    have other : ¬node.kind.Computes := by
      intro computes
      obtain ⟨expression, there⟩ := statement_assigns name inputs computes { notes := surplus node inputs }
      rw [drafted, there] at code
      cases code
    have uncopied : ¬node.kind.copies := by
      intro copies
      obtain ⟨line, there⟩ := drafted_of_copies copies name inputs
      rw [there] at code
      cases code
    rw [if_neg other, copying_of_not_copies uncopied]
    rfl
  | some line =>
    rw [Option.toList_some, List.flatMap_singleton]
    rcases statement_reads operands word _ line code with ⟨computes, rfl⟩ | ⟨assigns, inert⟩
    · rw [if_pos computes, Python.assignments_assignment (word computes)]
      rfl
    · rw [assigns.exact, inert.assigns.exact, List.append_nil]

theorem ofNode_assignments (word : node.kind.Computes → IsWord name) :
    ((ofNode node name inputs).statements.flatMap assignments).Perm
      ((if node.kind.Computes then [name] else []) ++ strays node inputs) := by
  rw [ofNode_statements, drafted_notes, List.flatMap_append, code_assignments operands word, strays, ← List.append_assoc,
    ← List.append_assoc]
  exact List.perm_append_comm.append_right _

-- A formula may assign a variable of the function around it.
example : strays (.ofKind "each" (.list { operation := .map, mapping := "(num_1 := x)" })) (.bind (.named ["target"]) []) =
    ["num_1"] := by decide +kernel

-- If nothing is astray, each statement is a line of its own.
theorem ofNode_plain (word : node.kind.Computes → IsWord name) (quotable : Quotable node inputs)
    (formula : Inert (copying node inputs)) :
    strays node inputs = [] ∧ ∀ line ∈ (ofNode node name inputs).statements, Assigns line (assignments line) := by
  have comments : ∀ diagnostic ∈ notes node inputs, Assigns (comment diagnostic) [] := by
    intro diagnostic member
    have inline := (notes_oneLine node inputs).mpr quotable diagnostic member
    exact Python.assigns_comment (Text.every_append.mp inline).2
  constructor
  · rw [strays, formula.assigns.exact, List.append_nil, List.flatMap_eq_nil_iff, List.forall_mem_map]
    exact fun diagnostic member => (comments diagnostic member).exact
  · rw [ofNode_statements, drafted_notes, List.forall_mem_append, List.forall_mem_map]
    constructor
    · intro diagnostic member
      have silent := comments diagnostic member
      rwa [silent.exact]
    · intro line member
      rcases statement_reads operands word _ line (Option.mem_toList.mp member) with ⟨computes, rfl⟩ | ⟨assigns, _⟩
      · have assigns := formula.assigns.assignment (word computes)
        rwa [assigns.exact]
      · rwa [assigns.exact]

end

end Emission
end Dataflow
