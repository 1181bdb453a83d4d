import Dataflow.Formula.Evaluate
import Dataflow.Proofs.Formula.Nesting
import Dataflow.Proofs.Formula.Reading

namespace Dataflow

namespace Token

theorem unified_isOperator (token : Token) : token.unified.isOperator = token.isOperator := by cases token <;> rfl

end Token

namespace Formula

def operators : Formula → Nat
  | element | literal _ => 0
  | neg operand | not operand => operand.operators + 1
  | binary _ left right => left.operators + right.operators + 1

-- The operators from the root to the deepest operand.
def height : Formula → Nat
  | element | literal _ => 0
  | neg operand | not operand => operand.height + 1
  | binary _ left right => max left.height right.height + 1

theorem height_le_operators (formula : Formula) : formula.height ≤ formula.operators := by
  induction formula with
  | element | literal => exact le_rfl
  | neg operand ih | not operand ih => exact Nat.succ_le_succ ih
  | binary op left right ihLeft ihRight =>
    simp only [height, operators]
    omega

-- The operators of a tree are those among its tokens.
theorem inorder_countP (formula : Formula) : formula.inorder.countP Token.isOperator = formula.operators := by
  induction formula with
  | element => rfl
  | literal value => cases value <;> rfl
  | neg operand ih | not operand ih => rw [inorder, operators, List.countP_cons_of_pos rfl, ih]
  | binary op left right ihLeft ihRight =>
    rw [inorder, operators, List.countP_append, List.countP_cons_of_pos rfl, ihLeft, ihRight, Nat.add_assoc]

theorem essential_countP_le (ended : Bool) (tokens : List Token) :
    (essential ended tokens).countP Token.isOperator ≤ tokens.countP Token.isOperator := by
  induction tokens generalizing ended with
  | nil => exact le_rfl
  | cons token tokens ih =>
    have later := ih token.endsOperand
    rw [essential]
    split
    · exact later.trans (List.sublist_cons_self token tokens).countP_le
    · rw [List.countP_cons, List.countP_cons, Token.unified_isOperator]
      exact Nat.add_le_add_right later _

end Formula

def Sustained (result : Except FormulaError α) : Prop := result ≠ .error .nestingTooDeep

theorem sustained_ok (a : α) : Sustained (.ok a : Except FormulaError α) := fun refused => nomatch refused

theorem Sustained.bind {result : Except FormulaError α} {next : α → Except FormulaError β} (first : Sustained result)
    (later : ∀ a, Sustained (next a)) : Sustained (result >>= next) := by
  cases result with
  | ok a => exact later a
  | error fault =>
    intro refused
    cases refused
    exact first rfl

theorem numeric_sustained (operation : String) (v : Value) : Sustained (v.numeric operation) := by
  cases v <;> simp [Sustained, Value.numeric]

namespace Operator

variable {op : Operator} {left right : Value}

theorem arithmetic_sustained {compute : Float → Float → Except FormulaError Float}
    (computed : ∀ a b, Sustained (compute a b)) : Sustained (op.arithmetic compute left right) :=
  .bind (numeric_sustained _ left) fun a => .bind (numeric_sustained _ right) fun b =>
    .bind (computed a b) fun _ => sustained_ok _

theorem divided_sustained (compute : Float → Float → Float) (a b : Float) :
    Sustained (if b == 0.0 then .error .divisionByZero else .ok (compute a b)) := by
  split <;> simp [Sustained]

theorem ordered_sustained {holds : Ordering → Bool} : Sustained (op.ordered holds left right) := by
  unfold ordered
  split <;> simp [Sustained]

theorem apply_sustained (op : Operator) (left right : Value) : Sustained (op.apply left right) := by
  cases op with
  | add =>
    simp only [apply]
    split
    · exact sustained_ok _
    · exact sustained_ok _
    · exact arithmetic_sustained fun _ _ => sustained_ok _
  | sub | mul => exact arithmetic_sustained fun _ _ => sustained_ok _
  | div => exact arithmetic_sustained (divided_sustained (· / ·))
  | mod => exact arithmetic_sustained (divided_sustained remainder)
  | eq | ne | and | or => exact sustained_ok _
  | gt | ge | lt | le => exact ordered_sustained

end Operator

namespace Formula

variable {formula : Formula} {source : String} {x : Value} {depth : Nat}

theorem evaluateAt_sustained (within : depth + formula.height ≤ maxNesting) : Sustained (formula.evaluateAt x depth) := by
  have shallow : ¬maxNesting < depth := by omega
  induction formula generalizing depth with
  | element | literal =>
    rw [evaluateAt, if_neg shallow]
    exact sustained_ok _
  | neg operand ih =>
    simp only [height] at within
    rw [evaluateAt, if_neg shallow]
    exact .bind (ih (by omega) (by omega)) fun value => .bind (numeric_sustained _ value) fun _ => sustained_ok _
  | not operand ih =>
    simp only [height] at within
    rw [evaluateAt, if_neg shallow]
    exact .bind (ih (by omega) (by omega)) fun _ => sustained_ok _
  | binary op left right ihLeft ihRight =>
    simp only [height] at within
    rw [evaluateAt, if_neg shallow]
    refine .bind (ihLeft (by omega) (by omega)) fun a => ?_
    split
    · exact sustained_ok _
    · exact .bind (ihRight (by omega) (by omega)) fun b => op.apply_sustained a b

theorem parse_operators (parsed : parse source = .ok formula) : formula.operators ≤ maxNesting := by
  obtain ⟨lexemes, _, checked, read⟩ := parse_cases parsed
  have consumed : remaining false lexemes = _ := parseFrom_consumes _ (ofLexemes_ok read)
  rw [remaining_nil, List.append_nil] at consumed
  have whole : nesting (lexemes.map Lexeme.token) ≤ maxNesting := (check_ok_iff.mp checked).2 _ List.prefix_rfl
  calc formula.operators
    _ = (remaining false lexemes).countP Token.isOperator := by rw [consumed, inorder_countP]
    _ ≤ (lexemes.map Lexeme.token).countP Token.isOperator := essential_countP_le _ _
    _ ≤ maxNesting := le_trans (Nat.le_add_left _ _) whole

-- What the reader lets through is never refused for its depth afterwards.
theorem parse_sustained (parsed : parse source = .ok formula) :
    formula.operators ≤ maxNesting ∧ ∀ x, formula.evaluate x ≠ .error .nestingTooDeep := by
  have few := parse_operators parsed
  refine ⟨few, fun x => evaluateAt_sustained ?_⟩
  rw [Nat.zero_add]
  exact formula.height_le_operators.trans few

-- As many signs as the limit allows.
def negations : Nat → Formula
  | 0 => element
  | count + 1 => neg (negations count)

theorem negations_sustained : parse (.ofList (List.replicate maxNesting '-' ++ ['x'])) = .ok (negations maxNesting) ∧
    (negations maxNesting).operators ≤ maxNesting ∧ ∀ x, (negations maxNesting).evaluate x ≠ .error .nestingTooDeep := by
  have parsed : parse (.ofList (List.replicate maxNesting '-' ++ ['x'])) = .ok (negations maxNesting) := by cbv
  exact ⟨parsed, parse_sustained parsed⟩

-- One more is refused by the reader.
example : parse (.ofList (List.replicate (maxNesting + 1) '-' ++ ['x'])) = .error .nestingTooDeep := by cbv

end Formula
end Dataflow
