import Dataflow.Formula.Evaluate
import Mathlib

namespace Dataflow

namespace Operator

def Compares (op : Operator) : Prop := op ∈ [eq, ne, gt, ge, lt, le]

instance (op : Operator) : Decidable op.Compares := inferInstanceAs (Decidable (_ ∈ _))

-- How a comparison of two values comes out, if it does.
def decides? (op : Operator) (left right : Value) : Option Bool :=
  match op with
  | eq => some (left.equals right)
  | ne => some (!left.equals right)
  | gt => (left.compare right).map (· == .gt)
  | ge => (left.compare right).map (· != .lt)
  | lt => (left.compare right).map (· == .lt)
  | le => (left.compare right).map (· != .gt)
  | _ => none

variable {op : Operator} {left right v : Value}

theorem ordered_ok {holds : Ordering → Bool} :
    op.ordered holds left right = .ok v ↔ ∃ truth, (left.compare right).map holds = some truth ∧ v = .bool truth := by
  unfold ordered
  cases left.compare right with
  | none => simp
  | some ordering => simp [eq_comm]

theorem apply_compares (comparing : op.Compares) :
    op.apply left right = .ok v ↔ ∃ truth, op.decides? left right = some truth ∧ v = .bool truth := by
  cases op with
  | eq | ne => simp [apply, decides?, eq_comm]
  | gt | ge | lt | le => exact ordered_ok
  | _ => exact absurd comparing (by decide)

theorem settledBy_compares (comparing : op.Compares) (left : Value) : op.settledBy left = false := by
  cases op with
  | and | or => exact absurd comparing (by decide)
  | _ => rfl

end Operator

namespace Formula

variable {op : Operator} {operand left right : Formula} {x v : Value} {depth : Nat}

theorem evaluateAt_neg : operand.neg.evaluateAt x depth = .ok v ↔ depth ≤ maxNesting ∧
    ∃ u n, operand.evaluateAt x (depth + 1) = .ok u ∧ u.numeric "-" = .ok n ∧ v = .number (-n) := by
  rw [evaluateAt]
  split
  · rename_i deep
    simp [not_le.mpr deep]
  · rename_i shallow
    cases operand.evaluateAt x (depth + 1) with
    | error fault => simp [bind, Except.bind]
    | ok u =>
      cases result : u.numeric "-" with
      | error fault => simp [bind, Except.bind, result]
      | ok n => simp [bind, Except.bind, pure, Except.pure, not_lt.mp shallow, result, eq_comm (b := v)]

theorem evaluateAt_not : operand.not.evaluateAt x depth = .ok v ↔ depth ≤ maxNesting ∧
    ∃ u, operand.evaluateAt x (depth + 1) = .ok u ∧ v = .bool (!u.truthy) := by
  rw [evaluateAt]
  split
  · rename_i deep
    simp [not_le.mpr deep]
  · rename_i shallow
    cases operand.evaluateAt x (depth + 1) with
    | error fault => simp [bind, Except.bind]
    | ok u => simp [bind, Except.bind, pure, Except.pure, not_lt.mp shallow, eq_comm]

theorem evaluateAt_binary : (binary op left right).evaluateAt x depth = .ok v ↔ depth ≤ maxNesting ∧
    ∃ a, left.evaluateAt x (depth + 1) = .ok a ∧ if op.settledBy a then a = v
      else ∃ b, right.evaluateAt x (depth + 1) = .ok b ∧ op.apply a b = .ok v := by
  rw [evaluateAt]
  split
  · rename_i deep
    simp [not_le.mpr deep]
  · rename_i shallow
    cases left.evaluateAt x (depth + 1) with
    | error fault => simp [bind, Except.bind]
    | ok a =>
      cases settled : op.settledBy a with
      | true => simp [bind, Except.bind, pure, Except.pure, not_lt.mp shallow, settled]
      | false =>
        cases right.evaluateAt x (depth + 1) <;> simp [bind, Except.bind, not_lt.mp shallow, settled]

theorem evaluateAt_comparison (comparing : op.Compares) : (binary op left right).evaluateAt x depth = .ok v ↔
    depth ≤ maxNesting ∧ ∃ a b truth, left.evaluateAt x (depth + 1) = .ok a ∧ right.evaluateAt x (depth + 1) = .ok b ∧
      op.decides? a b = some truth ∧ v = .bool truth := by
  rw [evaluateAt_binary]
  simp only [Operator.settledBy_compares comparing, Operator.apply_compares comparing, Bool.false_eq_true, if_false,
    exists_and_left]

-- Higher up there is only more room.
theorem evaluateAt_higher {formula : Formula} {above : Nat} (higher : above ≤ depth) (done : formula.evaluateAt x depth = .ok v) :
    formula.evaluateAt x above = .ok v := by
  induction formula generalizing depth above v with
  | element | literal =>
    rw [evaluateAt] at done ⊢
    split at done
    · cases done
    · rename_i shallow
      rwa [if_neg (not_lt.mpr (higher.trans (not_lt.mp shallow)))]
  | neg operand ih =>
    obtain ⟨shallow, u, n, inner, rest⟩ := evaluateAt_neg.mp done
    exact evaluateAt_neg.mpr ⟨higher.trans shallow, u, n, ih (Nat.succ_le_succ higher) inner, rest⟩
  | not operand ih =>
    obtain ⟨shallow, u, inner, rest⟩ := evaluateAt_not.mp done
    exact evaluateAt_not.mpr ⟨higher.trans shallow, u, ih (Nat.succ_le_succ higher) inner, rest⟩
  | binary op left right ihLeft ihRight =>
    obtain ⟨shallow, a, first, rest⟩ := evaluateAt_binary.mp done
    refine evaluateAt_binary.mpr ⟨higher.trans shallow, a, ihLeft (Nat.succ_le_succ higher) first, ?_⟩
    split at rest
    · rename_i settled
      rwa [if_pos settled]
    · rename_i open'
      obtain ⟨b, second, applied⟩ := rest
      rw [if_neg open']
      exact ⟨b, ihRight (Nat.succ_le_succ higher) second, applied⟩

end Formula
end Dataflow
