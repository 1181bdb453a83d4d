import Dataflow.Proofs.Value.Json
import Dataflow.Proofs.Value.Zero

namespace Dataflow

theorem beq_self_iff (x : Float) : x == x ↔ ¬x.isNaN := by
  rw [beq_iff, isNaN_iff]
  exact ⟨fun equal => equal.1, fun number => ⟨number, number, .inl rfl⟩⟩

theorem beq_right {x y : Float} (equal : x == y) : y == y := by
  rw [beq_self_iff, isNaN_iff]
  exact ((beq_iff x y).mp equal).2.1

namespace Value

-- No number in the value is NaN.
abbrev Numeric : Value → Prop := EveryNumber fun n => ¬n.isNaN

theorem same_shape {v w : Value} (equal : v.same w) : v.shape = w.shape := by
  cases v <;> cases w <;> first | rfl | cases equal

mutual
theorem same_self_iff (v : Value) : v.same v ↔ v.Numeric := by
  cases v with
  | number n =>
    rw [same]
    exact beq_self_iff n
  | text s => simp [same, EveryNumber]
  | bool b => simp [same, EveryNumber]
  | list items =>
    rw [same]
    exact sameItems_self_iff items

theorem sameItems_self_iff (items : List Value) : sameItems items items ↔ EveryNumberIn (fun n => ¬n.isNaN) items := by
  cases items with
  | nil => simp [sameItems, EveryNumberIn]
  | cons item rest =>
    rw [sameItems, Bool.and_eq_true, EveryNumberIn]
    exact and_congr (same_self_iff item) (sameItems_self_iff rest)
end

mutual
theorem same_right {v w : Value} (equal : v.same w) : w.same w := by
  match v, w with
  | number m, number n => exact beq_right equal
  | text s, text t => simp [same]
  | bool a, bool b => simp [same]
  | list xs, list ys => exact sameItems_right equal

theorem sameItems_right {xs ys : List Value} (equal : sameItems xs ys) : sameItems ys ys := by
  match xs, ys with
  | [], [] => rfl
  | x :: xs, y :: ys =>
    obtain ⟨first, rest⟩ := (Bool.and_eq_true _ _).mp equal
    exact (Bool.and_eq_true _ _).mpr ⟨same_right first, sameItems_right rest⟩
end

end Value
end Dataflow
