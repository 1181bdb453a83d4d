import Dataflow.Evaluation
import Dataflow.Proofs.Value.Place

namespace Dataflow

-- The comparison of two positions, each a number's place or a text; there may be none.
abbrev Position := Option (Int ⊕ String)

namespace Position

def compare : Position → Position → Option Ordering
  | some (.inl i), some (.inl j) => some (Ord.compare i j)
  | some (.inr s), some (.inr t) => some (Ord.compare s t)
  | _, _ => none

variable {p q r : Position}

theorem compare_swap (p q : Position) : q.compare p = (p.compare q).map Ordering.swap := by
  rcases p with _ | i | s <;> rcases q with _ | j | t <;> try rfl
  · exact congrArg some (Int.compare_swap i j).symm
  · exact congrArg some (Std.OrientedCmp.eq_swap)

theorem eq_of_compare (equal : p.compare q = some .eq) : p = q := by
  rcases p with _ | i | s <;> rcases q with _ | j | t <;> try cases equal
  · rw [compare_eq_iff_eq.mp (Option.some.inj equal)]
  · rw [compare_eq_iff_eq.mp (Option.some.inj equal)]

theorem compare_trans (first : p.compare q = some .lt) (second : q.compare r = some .lt) : p.compare r = some .lt := by
  rcases p with _ | i | s <;> rcases q with _ | j | t <;> try cases first
  · rcases r with _ | k | u <;> try cases second
    exact congrArg some (Std.TransCmp.lt_trans (Option.some.inj first) (Option.some.inj second))
  · rcases r with _ | k | u <;> try cases second
    exact congrArg some (Std.TransCmp.lt_trans (Option.some.inj first) (Option.some.inj second))

def ofWeight (x : Float) : Position := (place? x).map .inl

theorem compare_weights (x y : Float) : (ofWeight x).compare (ofWeight y) = Value.compareNumbers x y := by
  rw [compareNumbers_eq, ofWeight, ofWeight]
  cases place? x <;> cases place? y <;> rfl

theorem compare_mixed (x : Float) (s : String) : (ofWeight x).compare (some (.inr s)) = none := by
  rw [ofWeight]
  cases place? x <;> rfl

theorem compare_none (p : Position) : p.compare none = none := by
  rcases p with _ | i | s <;> rfl

end Position

namespace Value

variable {u v w : Value} {xs ys zs : List Value} {decided : Ordering}

def position : Value → Position
  | number n => .ofWeight n
  | bool b => .ofWeight (ofBool b)
  | text s => some (.inr s)
  | list _ => none

theorem compare_position (apart : v.shape ≠ .list ∨ w.shape ≠ .list) : v.compare w = v.position.compare w.position := by
  cases v with
  | number | bool =>
    cases w with
    | number | bool => exact (Position.compare_weights _ _).symm
    | text t => exact (Position.compare_mixed _ t).symm
    | list => exact (Position.compare_none _).symm
  | text s =>
    cases w with
    | number | bool =>
      rw [position, position, Position.compare_swap, Position.compare_mixed]
      rfl
    | text t => rw [compare, position, position, Position.compare, LinearOrder.compare_eq_compareOfLessAndEq]
    | list => rfl
  | list xs =>
    cases w with
    | list ys => exact absurd rfl (apart.resolve_left fun other => other rfl)
    | number | bool | text => rfl

-- Lists have an order with lists alone.
theorem list_of_compare (compared : (list xs).compare v = some decided) : ∃ ys, v = list ys := by
  cases v with
  | list ys => exact ⟨ys, rfl⟩
  | number | bool | text => cases compared

theorem scalar_of_compare (scalar : v.shape ≠ .list) (compared : v.compare w = some decided) : w.shape ≠ .list := by
  cases w with
  | list ys =>
    rw [compare_position (.inl scalar), position, Position.compare_none] at compared
    cases compared
  | number | bool | text => exact nofun

-- The first items decide, unless they are equal.
theorem compareItems_cons (v w : Value) (xs ys : List Value) :
    compareItems (v :: xs) (w :: ys) = if v.compare w = some .eq then compareItems xs ys else v.compare w := by
  rw [compareItems]
  rcases v.compare w with _ | _ | _ | _ <;> rfl

theorem compareItems_lt : compareItems (v :: xs) (w :: ys) = some .lt ↔
    v.compare w = some .lt ∨ v.compare w = some .eq ∧ compareItems xs ys = some .lt := by
  rw [compareItems_cons]
  split
  · rename_i equal
    simp [equal]
  · rename_i apart
    simp [apart]

theorem compareItems_eq : compareItems (v :: xs) (w :: ys) = some .eq ↔
    v.compare w = some .eq ∧ compareItems xs ys = some .eq := by
  rw [compareItems_cons]
  split
  · rename_i equal
    simp [equal]
  · rename_i apart
    simp [apart]

-- The order is the same from both sides.
mutual

theorem compare_swap (v w : Value) : w.compare v = (v.compare w).map Ordering.swap := by
  have direct (apart : v.shape ≠ .list ∨ w.shape ≠ .list) : w.compare v = (v.compare w).map Ordering.swap := by
    rw [compare_position apart, compare_position apart.symm, Position.compare_swap]
  cases v with
  | list xs =>
    cases w with
    | list ys => exact compareItems_swap xs ys
    | number | bool | text => exact direct (.inr nofun)
  | number | bool | text => exact direct (.inl nofun)

theorem compareItems_swap (xs ys : List Value) : compareItems ys xs = (compareItems xs ys).map Ordering.swap := by
  match xs, ys with
  | [], [] | [], _ :: _ | _ :: _, [] => rfl
  | v :: xs, w :: ys =>
    rw [compareItems_cons, compareItems_cons, compare_swap v w, compareItems_swap xs ys]
    rcases v.compare w with _ | _ | _ | _ <;> rfl

end

-- Equal values compare alike with all others.
mutual

theorem compare_congr {v w : Value} (equal : v.compare w = some .eq) (u : Value) : v.compare u = w.compare u := by
  have direct (scalar : v.shape ≠ .list) : v.compare u = w.compare u := by
    have same := Position.eq_of_compare ((compare_position (.inl scalar)).symm.trans equal)
    rw [compare_position (.inl scalar), compare_position (.inl (scalar_of_compare scalar equal)), same]
  cases v with
  | list xs =>
    obtain ⟨ys, rfl⟩ := list_of_compare equal
    cases u with
    | list zs => exact compareItems_congr equal zs
    | number | bool | text => rfl
  | number | bool | text => exact direct nofun

theorem compareItems_congr {xs ys : List Value} (equal : compareItems xs ys = some .eq) (zs : List Value) :
    compareItems xs zs = compareItems ys zs := by
  match xs, ys with
  | [], [] => rfl
  | v :: xs, w :: ys =>
    obtain ⟨first, rest⟩ := compareItems_eq.mp equal
    cases zs with
    | nil => rfl
    | cons u zs => rw [compareItems_cons, compareItems_cons, compare_congr first u, compareItems_congr rest zs]

end

theorem compare_congr_right (equal : v.compare w = some .eq) (u : Value) : u.compare v = u.compare w := by
  rw [compare_swap v u, compare_swap w u, compare_congr equal]

mutual

theorem compare_trans {u v w : Value} (first : u.compare v = some .lt) (second : v.compare w = some .lt) :
    u.compare w = some .lt := by
  have direct (scalar : u.shape ≠ .list) : u.compare w = some .lt := by
    rw [compare_position (.inl (scalar_of_compare scalar first))] at second
    rw [compare_position (.inl scalar)] at first ⊢
    exact Position.compare_trans first second
  cases u with
  | list xs =>
    obtain ⟨ys, rfl⟩ := list_of_compare first
    obtain ⟨zs, rfl⟩ := list_of_compare second
    exact compareItems_trans first second
  | number | bool | text => exact direct nofun

theorem compareItems_trans {xs ys zs : List Value} (first : compareItems xs ys = some .lt)
    (second : compareItems ys zs = some .lt) : compareItems xs zs = some .lt := by
  match xs, ys, zs with
  | [], _ :: _, _ :: _ => rfl
  | u :: xs, v :: ys, w :: zs =>
    rw [compareItems_lt] at first second ⊢
    rcases first with less | ⟨equal, less⟩
    · rcases second with less' | ⟨equal', _⟩
      · exact .inl (compare_trans less less')
      · exact .inl ((compare_congr_right equal' u).symm.trans less)
    · rw [compare_congr equal w]
      exact second.imp id fun ⟨equal', less'⟩ => ⟨equal', compareItems_trans less less'⟩

end

theorem equals_iff : v.equals w ↔ v.compare w = some .eq := by
  rw [equals, beq_iff_eq]

-- The order of values is coherent: it is the same from both sides, values that are equal are so in every comparison,
-- and what is less than a lesser value is less.
theorem compare_coherent (u v w : Value) :
    v.compare u = (u.compare v).map Ordering.swap ∧
    (u.compare v = some .eq → u.compare w = v.compare w ∧ w.compare u = w.compare v) ∧
    (u.compare v = some .lt → v.compare w = some .lt → u.compare w = some .lt) ∧
    u.equals v = v.equals u ∧ (u.equals v → v.equals w → u.equals w) ∧
    ∀ comparison : Comparison, u.equals v →
      comparison.holds u w = comparison.holds v w ∧ comparison.holds w u = comparison.holds w v := by
  have swapped := compare_swap u v
  refine ⟨swapped, fun equal => ⟨compare_congr equal w, compare_congr_right equal w⟩, compare_trans, ?_, ?_, ?_⟩
  · rw [equals, equals, swapped]
    rcases u.compare v with _ | _ | _ | _ <;> rfl
  · intro first second
    rw [equals_iff] at first second ⊢
    rw [compare_congr first, second]
  · intro comparison equal
    rw [equals_iff] at equal
    cases comparison <;> simp only [Comparison.holds, equals, compare_congr equal w, compare_congr_right equal w, and_self]

-- `[True, ['a']]`, `[1, ['a']]`, `[1, ['b']]`, `[2]` and `['a']`: the first two are equal, the next ones greater, and
-- the last one has no order with the others.
theorem nested_coherent :
    (list [bool true, list [text "a"]]).compare (list [number 1.0, list [text "a"]]) = some .eq ∧
    (list [bool true, list [text "a"]]).compare (list [number 1.0, list [text "b"]]) = some .lt ∧
    (list [number 1.0, list [text "b"]]).compare (list [number 2.0]) = some .lt ∧
    (list [bool true, list [text "a"]]).compare (list [number 2.0]) = some .lt ∧
    (list [bool true, list [text "a"]]).compare (list [text "a"]) = (list [number 1.0, list [text "a"]]).compare (list [text "a"]) := by
  have equal : (list [bool true, list [text "a"]]).compare (list [number 1.0, list [text "a"]]) = some .eq := by decide +kernel
  have less : (list [bool true, list [text "a"]]).compare (list [number 1.0, list [text "b"]]) = some .lt := by decide +kernel
  have less' : (list [number 1.0, list [text "b"]]).compare (list [number 2.0]) = some .lt := by decide +kernel
  have alike := (compare_coherent _ _ (list [text "a"])).2.1 equal
  have chained := (compare_coherent _ _ _).2.2.1 less less'
  exact ⟨equal, less, less', chained, alike.1⟩

end Value
end Dataflow
