import Dataflow.Proofs.Binding
import Dataflow.Proofs.Program.Draft
import Dataflow.Proofs.Value.Literal

namespace Dataflow

namespace Text

-- A line of a program ends with a line feed or a carriage return.
def isInline (c : Char) : Bool := c != '\n' && c != '\r'

abbrev OneLine : String → Prop := Every isInline

variable {s : String}

theorem ne_of_holds {holds : Char → Bool} {c mark : Char} (mine : holds c) (other : holds mark = false) : c ≠ mark := by
  intro same
  rw [← same, mine] at other
  cases other

theorem isInline_of_holds {holds : Char → Bool} {c : Char} (mine : holds c) (feed : holds '\n' = false)
    (back : holds '\r' = false) : isInline c := by
  simp [isInline, ne_of_holds mine feed, ne_of_holds mine back]

theorem oneLine_of_shown (shown : Every isShown s) : OneLine s :=
  shown.mono fun _ shown => isInline_of_holds shown rfl rfl

theorem oneLine_literal (v : Value) : OneLine v.literal := oneLine_of_shown (Value.literal_shown v)

theorem oneLine_doubleQuoted (s : String) : OneLine (doubleQuoted s) := oneLine_literal (.text s)

theorem every_nat {holds : Char → Bool} (digit : ∀ c : Char, c.isDigit → holds c) (n : Nat) : Every holds (toString n) := by
  intro c member
  rw [Nat.toString_eq_repr, Nat.toList_repr] at member
  exact digit c (Nat.isDigit_of_mem_toDigits (by decide) (by decide) member)

theorem every_int {holds : Char → Bool} (digit : ∀ c : Char, c.isDigit → holds c) (minus : holds '-') (n : Int) :
    Every holds n.repr := by
  cases n with
  | ofNat n => exact every_nat digit n
  | negSucc n => exact every_append.mpr ⟨List.forall_mem_singleton.mpr minus, every_nat digit (n + 1)⟩

theorem oneLine_nat (n : Nat) : OneLine (toString n) := every_nat (fun _ digit => isInline_of_holds digit rfl rfl) n

theorem oneLine_int (n : Int) : OneLine n.repr := every_int (fun _ digit => isInline_of_holds digit rfl rfl) rfl n

theorem oneLine_bound (bound : Option Int) : OneLine ((bound.map toString).getD "") := by
  cases bound with
  | none => decide
  | some n => exact oneLine_int n

end Text

namespace Kind

def copies : Kind → Bool
  | list settings => settings.operation = .map || settings.operation = .filter
  | _ => false

def copied : Kind → String
  | list settings =>
    match settings.operation with
    | .map => Text.trim settings.mapping
    | .filter => Text.trim settings.condition
    | _ => ""
  | _ => ""

end Kind

namespace Emission
open Text (OneLine every_append)

attribute [local simp high] run_pure run_bind run_map run_modify

variable {node : Node} {name : String} {inputs : Inputs Operand}

theorem callee_oneLine (float : Bool) : OneLine (if float then helperName else "str") := by cases float <;> decide

-- Code is put together from names, literals and fixed marks. What `simp` leaves of each piece are the marks.
section
variable (operands : ∀ operand ∈ inputs.items, OneLine operand.name)
include operands

theorem operandText_oneLine {slot substitute : String} (inline : OneLine substitute) :
    OneLine (operandText inputs slot substitute) := by
  unfold operandText
  cases fed : inputs.get? slot with
  | none => exact inline
  | some operand => exact operands operand (Inputs.mem_of_get? fed)

theorem fold_oneLine {operator : String} (inline : OneLine operator) : OneLine (fold operator inputs) := by
  unfold fold
  split
  · decide
  · refine Text.every_intercalate inline ?_
    rw [List.forall_mem_map]
    exact fun operand member => operands operand (List.mem_append_right _ member)

theorem textExpression_oneLine (settings : TextSettings) (draft : Draft) :
    OneLine ((textExpression node inputs settings).run draft).1 := by
  have fed {slot : String} : OneLine (operandText inputs slot "\"\"") := operandText_oneLine operands (by decide)
  unfold textExpression
  cases settings.operation with
  | substring =>
    simp [fed, Text.oneLine_int, Text.oneLine_bound]
    decide
  | split =>
    by_cases undelimited : settings.delimiter = ""
    · simp [undelimited, fed]
      decide
    · simp [undelimited, fed, Text.oneLine_doubleQuoted]
      decide
  | _ =>
    simp [joinCall, fed, callee_oneLine, Text.oneLine_doubleQuoted]
    decide

theorem listExpression_oneLine (settings : ListSettings) (draft : Draft) :
    OneLine ((listExpression node inputs settings).run draft).1 ↔ OneLine (Kind.list settings).copied := by
  have fed : OneLine (operandText inputs "target" "[]") := operandText_oneLine operands (by decide)
  unfold listExpression Kind.copied
  cases operation : settings.operation with
  | map =>
    have marks : OneLine "[" ∧ OneLine " for x in " ∧ OneLine "]" := by decide
    by_cases blank : Text.trim settings.mapping = ""
    · simp [operation, blank, fed]
      decide
    · simp [operation, blank, fed, marks]
  | filter =>
    have marks : OneLine "[x for x in " ∧ OneLine " if " ∧ OneLine "]" := by decide
    by_cases blank : Text.trim settings.condition = ""
    · simp [operation, blank, fed]
      decide
    · simp [operation, blank, fed, marks]
  | push =>
    simp [operation, fed, Text.oneLine_literal]
    decide
  | slice =>
    simp [operation, fed, Text.oneLine_bound]
    decide
  | _ =>
    simp [operation, joinCall, fed, callee_oneLine, Text.oneLine_doubleQuoted]
    decide

-- The code breaks where the formula in it does, and nowhere else.
theorem statement_line (inline : OneLine name) (draft : Draft) :
    ∀ line ∈ ((statement node name inputs).run draft).1, OneLine line ↔ OneLine node.kind.copied := by
  have zero {slot : String} : OneLine (operandText inputs slot "0") := operandText_oneLine operands (by decide)
  have no {slot : String} : OneLine (operandText inputs slot "False") := operandText_oneLine operands (by decide)
  have empty {slot : String} : OneLine (operandText inputs slot "\"\"") := operandText_oneLine operands (by decide)
  have nothing : OneLine "" := by decide
  have equals : OneLine " = " := by decide
  unfold statement
  cases kind : node.kind with
  | input shape => simp [inline, equals, nothing, Text.oneLine_literal, Kind.copied]
  | addition =>
    have sum : OneLine (fold " + " inputs) := fold_oneLine operands (by decide)
    simp [inline, equals, nothing, sum, Kind.copied]
  | multiplication =>
    have product : OneLine (fold " * " inputs) := fold_oneLine operands (by decide)
    simp [inline, equals, nothing, product, Kind.copied]
  | text settings => simp [inline, equals, nothing, textExpression_oneLine operands, Kind.copied]
  | list settings => simp [inline, equals, listExpression_oneLine operands]
  | unknown typeName => simp [note]
  | boolean connective => cases connective <;> simp [connect, inline, equals, no, Kind.copied] <;> decide
  | comparison operation =>
    have spelled : OneLine (Spelled.spelling operation) := by cases operation <;> decide
    simp [inline, equals, zero, spelled, Kind.copied]
    decide
  | display => cases isFloat inputs "input" <;> simp [empty, Kind.copied] <;> decide
  | division =>
    have comment : OneLine (Diagnostic.divisionGuard node.id).text := by
      change OneLine "Prevent division by zero"
      decide
    simp [guardWith, inline, equals, zero, comment, Kind.copied]
    decide
  | subtraction | ifElse =>
    simp [inline, equals, zero, no, Kind.copied]
    decide

end

theorem comment_surplus (id : String) (count : Nat) : OneLine (comment (.surplusInputs id count)) ↔ OneLine id := by
  have marks : OneLine "# " ∧ OneLine "Ignoring " ∧ OneLine " extra input(s) on node '" ∧ OneLine "'" := by decide
  change OneLine ("# " ++ ("Ignoring " ++ toString count ++ " extra input(s) on node '" ++ id ++ "'")) ↔ _
  simp only [every_append, marks, Text.oneLine_nat, true_and, and_true]

theorem comment_missing (id : String) {slot substitute : String} (named : OneLine slot) (inline : OneLine substitute) :
    OneLine (comment (.missingInput id slot substitute)) ↔ OneLine id := by
  have marks : OneLine "# " ∧ OneLine "Missing input '" ∧ OneLine "' on node '" ∧ OneLine "', using " := by decide
  change OneLine ("# " ++ ("Missing input '" ++ slot ++ "' on node '" ++ id ++ "', using " ++ substitute)) ↔ _
  simp only [every_append, marks, named, inline, true_and, and_true]

theorem comment_unknown (id typeName : String) : OneLine (comment (.unknownKind id typeName)) ↔ OneLine typeName := by
  have marks : OneLine "# " ∧ OneLine "Unknown node type: " := by decide
  change OneLine ("# " ++ ("Unknown node type: " ++ typeName)) ↔ _
  simp only [every_append, marks, true_and]

theorem slotNames_oneLine (kind : Kind) : ∀ slot ∈ kind.slotNames, OneLine slot := by
  cases kind with
  | boolean connective => cases connective <;> decide
  | text settings =>
    obtain ⟨operation⟩ := settings
    cases operation with
    | concat => exact show ∀ slot ∈ ["left", "right"], OneLine slot by decide
    | _ => exact show ∀ slot ∈ ["left"], OneLine slot by decide
  | input shape => exact List.forall_mem_nil _
  | unknown typeName => exact List.forall_mem_nil _
  | comparison operation => exact show ∀ slot ∈ ["left", "right"], OneLine slot by decide
  | list settings => exact show ∀ slot ∈ ["target"], OneLine slot by decide
  | _ => decide

theorem substitute_oneLine (kind : Kind) (slot : String) : OneLine (kind.substitute slot) := by
  cases kind with
  | ifElse =>
    change OneLine (if slot = "condition" then "False" else "0")
    split <;> decide
  | boolean connective => exact show OneLine "False" by decide
  | text settings => exact show OneLine "\"\"" by decide
  | display => exact show OneLine "\"\"" by decide
  | list settings => exact show OneLine "[]" by decide
  | _ => exact show OneLine "0" by decide

-- Comments name the node: a slot is vacant, or more edges come in than there are slots.
def Remarked (node : Node) (inputs : Inputs Operand) : Prop :=
  0 < inputs.unbound ∧ node.kind.isUnknown = false ∨ ∃ slot ∈ node.kind.slotNames, inputs.get? slot = none

-- What comments quote has no line break in it.
structure Quotable (node : Node) (inputs : Inputs Operand) : Prop where
  id : Remarked node inputs → OneLine node.id
  typeName (typeName : String) : node.kind = .unknown typeName → OneLine typeName

theorem surplus_oneLine (node : Node) (inputs : Inputs Operand) :
    (∀ diagnostic ∈ surplus node inputs, OneLine (comment diagnostic)) ↔
      (0 < inputs.unbound ∧ node.kind.isUnknown = false → OneLine node.id) := by
  unfold surplus
  simp only [Bool.and_eq_true, decide_eq_true_eq, Bool.not_eq_true']
  split
  · rename_i exceeded
    rw [List.forall_mem_singleton, comment_surplus]
    exact ⟨fun inline _ => inline, fun inline => inline exceeded⟩
  · rename_i fits
    exact ⟨fun _ exceeded => absurd exceeded fits, fun _ => List.forall_mem_nil _⟩

theorem vacancy_oneLine {slot : String} (named : slot ∈ node.kind.slotNames) :
    (∀ diagnostic ∈ vacancy node inputs slot (node.kind.substitute slot), OneLine (comment diagnostic)) ↔
      (inputs.get? slot = none → OneLine node.id) := by
  unfold vacancy
  cases inputs.get? slot with
  | none =>
    have missing := comment_missing node.id (slotNames_oneLine _ _ named) (substitute_oneLine node.kind slot)
    simp [missing]
  | some operand => simp

theorem placeholder_oneLine (node : Node) : (∀ diagnostic ∈ placeholder node, OneLine (comment diagnostic)) ↔
    ∀ typeName, node.kind = .unknown typeName → OneLine typeName := by
  unfold placeholder
  cases node.kind with
  | unknown typeName => simp [comment_unknown]
  | _ => simp

theorem notes_oneLine (node : Node) (inputs : Inputs Operand) :
    (∀ diagnostic ∈ notes node inputs, OneLine (comment diagnostic)) ↔ Quotable node inputs := by
  have vacant : (∀ diagnostic ∈ node.kind.slotNames.flatMap fun slot => vacancy node inputs slot (node.kind.substitute slot),
      OneLine (comment diagnostic)) ↔ ∀ slot ∈ node.kind.slotNames, inputs.get? slot = none → OneLine node.id := by
    rw [List.forall_mem_flatMap]
    exact forall₂_congr fun slot named => vacancy_oneLine named
  rw [notes, List.forall_mem_append, List.forall_mem_append, surplus_oneLine, vacant, placeholder_oneLine]
  constructor
  · rintro ⟨⟨exceeded, missing⟩, unknown⟩
    refine ⟨?_, unknown⟩
    rintro (found | ⟨slot, named, none⟩)
    · exact exceeded found
    · exact missing slot named none
  · intro quotable
    exact ⟨⟨fun exceeded => quotable.id (.inl exceeded), fun slot named none => quotable.id (.inr ⟨slot, named, none⟩)⟩,
      quotable.typeName⟩

-- The statements but the one that a formula is copied into.
def uncopied (node : Node) (statements : List String) : List String :=
  if node.kind.copies then statements.dropLast else statements

theorem copied_of_not_copies {kind : Kind} (other : ¬kind.copies) : OneLine kind.copied := by
  cases kind with
  | list settings =>
    obtain ⟨operation⟩ := settings
    cases operation with
    | map => exact absurd rfl other
    | filter => exact absurd rfl other
    | _ => exact show OneLine "" by decide
  | _ => exact show OneLine "" by decide

theorem drafted_of_copies (copies : node.kind.copies) (name : String) (inputs : Inputs Operand) :
    ∃ line, (drafted node name inputs).1 = some line := by
  have computes : node.kind.Computes := by
    cases kind : node.kind with
    | list settings => exact ⟨rfl, rfl⟩
    | _ => rw [kind] at copies; cases copies
  obtain ⟨expression, code⟩ := statement_assigns name inputs computes { notes := surplus node inputs }
  exact ⟨_, code⟩

theorem uncopied_statements (name : String) (inputs : Inputs Operand) :
    uncopied node (ofNode node name inputs).statements = (notes node inputs).map comment ++
      if node.kind.copies then [] else (drafted node name inputs).1.toList := by
  rw [uncopied, ofNode_statements, drafted_notes]
  split
  · rename_i copies
    obtain ⟨line, code⟩ := drafted_of_copies copies name inputs
    rw [code, Option.toList_some, List.dropLast_concat, List.append_nil]
  · rfl

theorem code_oneLine (inline : OneLine name) (operands : ∀ operand ∈ inputs.items, OneLine operand.name) :
    (∀ line ∈ (drafted node name inputs).1.toList, OneLine line) ↔ OneLine node.kind.copied := by
  have lines : ∀ line ∈ (drafted node name inputs).1, OneLine line ↔ OneLine node.kind.copied := statement_line operands inline _
  by_cases copies : node.kind.copies
  · obtain ⟨line, code⟩ := drafted_of_copies copies name inputs
    rw [code, Option.toList_some, List.forall_mem_singleton]
    exact lines line code
  · have nothing := copied_of_not_copies copies
    exact ⟨fun _ => nothing, fun _ line member => (lines line (Option.mem_toList.mp member)).mpr nothing⟩

-- A node's statements stay on their lines, copied formulas apart, exactly if what their comments quote is one line.
theorem ofNode_lines (node : Node) (inline : OneLine name) (operands : ∀ operand ∈ inputs.items, OneLine operand.name) :
    ((∀ line ∈ uncopied node (ofNode node name inputs).statements, OneLine line) ↔ Quotable node inputs) ∧
    ((∀ line ∈ (ofNode node name inputs).statements, OneLine line) ↔ Quotable node inputs ∧ OneLine node.kind.copied) := by
  have code : (∀ line ∈ (drafted node name inputs).1.toList, OneLine line) ↔ OneLine node.kind.copied :=
    code_oneLine inline operands
  have comments : (∀ line ∈ (notes node inputs).map comment, OneLine line) ↔ Quotable node inputs := by
    rw [List.forall_mem_map]
    exact notes_oneLine node inputs
  constructor
  · rw [uncopied_statements, List.forall_mem_append, comments]
    by_cases copies : node.kind.copies
    · rw [if_pos copies]
      exact and_iff_left (List.forall_mem_nil _)
    · rw [if_neg copies, code]
      exact and_iff_left (copied_of_not_copies copies)
  · rw [ofNode_statements, drafted_notes, List.forall_mem_append, comments, code]

def breaker : Node :=
  { id := "breaker", kind := .text { operation := .replace, search := "\n", replacement := "\r" }, value := .text "" }

theorem breaker_lines : OneLine "out" ∧ Quotable breaker (.bind breaker.kind.slots [(none, { name := "page" })]) ∧
    ∀ line ∈ (ofNode breaker "out" (.bind breaker.kind.slots [(none, { name := "page" })])).statements, OneLine line :=
  have inline : OneLine "out" := by decide
  have quotable : Quotable breaker (.bind breaker.kind.slots [(none, { name := "page" })]) :=
    ⟨fun _ => by decide, fun _ unknown => by cases unknown⟩
  ⟨inline, quotable, (ofNode_lines breaker inline (by decide)).2.mpr ⟨quotable, by decide⟩⟩

-- The id of a display without an input goes on as a line of code.
def intruder : Node := { id := "a\nimport os #", kind := .display, value := .text "" }

theorem intruder_line : (ofNode intruder "out" (.bind intruder.kind.slots [])).statements =
      ["# Missing input 'input' on node 'a\nimport os #', using \"\"", "print(\"\")"] ∧
    ¬∀ line ∈ uncopied intruder (ofNode intruder "out" (.bind intruder.kind.slots [])).statements, OneLine line := by
  decide

end Emission
end Dataflow
