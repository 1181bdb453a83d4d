import Dataflow.Proofs.Value.Order
import Dataflow.Proofs.Value.Same

namespace Dataflow.Value

variable {u v w : Value} {xs ys zs : List Value}

-- Behind equal items stand items of different ranks, or lists that clash in turn.
inductive Clash : List Value → List Value → Prop where
  | ranks {v w : Value} {xs ys : List Value} : v.rank ≠ w.rank → Clash (v :: xs) (w :: ys)
  | lists {inner other xs ys : List Value} : Clash inner other → Clash (list inner :: xs) (list other :: ys)
  | later {v w : Value} {xs ys : List Value} : v.compare w = some .eq → Clash xs ys → Clash (v :: xs) (w :: ys)

def Clashes : Value → Value → Prop
  | list xs, list ys => Clash xs ys
  | _, _ => False

theorem Clashes.lists (clashes : v.Clashes w) : ∃ xs ys, v = list xs ∧ w = list ys ∧ Clash xs ys := by
  cases v with
  | list xs =>
    cases w with
    | list ys => exact ⟨xs, ys, rfl, rfl, clashes⟩
    | number | bool | text => cases clashes
  | number | bool | text => cases clashes

theorem clash_cons : Clash (v :: xs) (w :: ys) ↔ (v.rank ≠ w.rank ∨ v.Clashes w) ∨ v.compare w = some .eq ∧ Clash xs ys := by
  constructor
  · intro clash
    cases clash with
    | ranks apart => exact .inl (.inl apart)
    | lists inner => exact .inl (.inr inner)
    | later equal rest => exact .inr ⟨equal, rest⟩
  · rintro ((apart | clashes) | ⟨equal, rest⟩)
    · exact .ranks apart
    · obtain ⟨inner, other, rfl, rfl, clash⟩ := clashes.lists
      exact .lists clash
    · exact .later equal rest

theorem compareItems_none : compareItems (v :: xs) (w :: ys) = none ↔
    v.compare w = none ∨ v.compare w = some .eq ∧ compareItems xs ys = none := by
  rw [compareItems_cons]
  split
  · rename_i equal
    simp [equal]
  · rename_i apart
    simp [apart]

theorem weights_decided {x y : Float} (number : ¬x.isNaN) (number' : ¬y.isNaN) : compareNumbers x y ≠ none := by
  rw [compareNumbers_eq, place?, place?, if_neg number, if_neg number', Option.bind_some, Option.map_some]
  exact Option.some_ne_none _

theorem ofBool_number (b : Bool) : ¬(ofBool b).isNaN := by
  cases b <;> decide +kernel

theorem scalars_apart (scalar : v.shape ≠ .list) (numeric : v.Numeric) (numeric' : w.Numeric) :
    v.compare w = none ↔ v.rank ≠ w.rank := by
  cases v with
  | number x =>
    cases w with
    | number y => exact iff_of_false (weights_decided numeric numeric') fun apart => apart rfl
    | bool b => exact iff_of_false (weights_decided numeric (ofBool_number b)) fun apart => apart rfl
    | text | list => exact iff_of_true rfl nofun
  | bool a =>
    cases w with
    | number y => exact iff_of_false (weights_decided (ofBool_number a) numeric') fun apart => apart rfl
    | bool b => exact iff_of_false (weights_decided (ofBool_number a) (ofBool_number b)) fun apart => apart rfl
    | text | list => exact iff_of_true rfl nofun
  | text s =>
    cases w with
    | text t => exact iff_of_false nofun fun apart => apart rfl
    | number | bool | list => exact iff_of_true rfl nofun
  | list => exact absurd rfl scalar

-- Apart from NaN only values of different ranks and lists that clash have no order.
mutual

theorem compare_none_iff {v w : Value} (numeric : v.Numeric) (numeric' : w.Numeric) :
    v.compare w = none ↔ v.rank ≠ w.rank ∨ v.Clashes w := by
  have direct (scalar : v.shape ≠ .list) (level : ¬v.Clashes w) : v.compare w = none ↔ v.rank ≠ w.rank ∨ v.Clashes w := by
    rw [scalars_apart scalar numeric numeric', or_iff_left level]
  cases v with
  | list xs =>
    cases w with
    | list ys =>
      change compareItems xs ys = none ↔ _
      rw [compareItems_none_iff numeric numeric']
      exact ⟨.inr, fun other => other.resolve_left fun apart => apart rfl⟩
    | number | bool | text => exact iff_of_true rfl (.inl nofun)
  | number | bool | text => exact direct nofun id

theorem compareItems_none_iff {xs ys : List Value} (numeric : EveryNumberIn (fun n => ¬n.isNaN) xs)
    (numeric' : EveryNumberIn (fun n => ¬n.isNaN) ys) : compareItems xs ys = none ↔ Clash xs ys := by
  match xs, ys with
  | [], [] | [], _ :: _ | _ :: _, [] => exact ⟨nofun, nofun⟩
  | v :: xs, w :: ys =>
    rw [compareItems_none, clash_cons, compare_none_iff numeric.1 numeric'.1, compareItems_none_iff numeric.2 numeric'.2]

end

theorem Clash.ne (clash : Clash xs ys) : xs ≠ ys := by
  induction clash with
  | ranks apart =>
    rintro ⟨⟩
    exact apart rfl
  | lists _ ih =>
    rintro ⟨⟩
    exact ih rfl
  | later _ _ ih =>
    rintro ⟨⟩
    exact ih rfl

theorem compare_self (numeric : v.Numeric) : v.compare v = some .eq := by
  have decided : v.compare v ≠ none := by
    rw [ne_eq, compare_none_iff numeric numeric]
    rintro (apart | clashes)
    · exact apart rfl
    · obtain ⟨xs, ys, rfl, same, clash⟩ := clashes.lists
      exact clash.ne (list.inj same)
  have swapped := compare_swap v v
  generalize v.compare v = result at *
  rcases result with _ | _ | _ | _
  · exact absurd rfl decided
  · cases swapped
  · rfl
  · cases swapped

theorem sortCompare_swap (v w : Value) : w.sortCompare v = (v.sortCompare w).swap := by
  have ranks : Ord.compare w.rank v.rank = (Ord.compare v.rank w.rank).swap := (Nat.compare_swap _ _).symm
  rw [sortCompare, sortCompare, Ordering.swap_then, ranks, compare_swap v w]
  rcases v.compare w with _ | _ | _ | _ <;> rfl

theorem sortCompare_ranks (apart : v.rank < w.rank) : v.sortCompare w = .lt := by
  rw [sortCompare, compare_lt_iff_lt.mpr apart]
  rfl

theorem sortCompare_level (level : v.rank = w.rank) : v.sortCompare w = (v.compare w).getD .eq := by
  rw [sortCompare, compare_eq_iff_eq.mpr level]
  rfl

theorem rank_le (sorted : v.sortCompare w ≠ .gt) : v.rank ≤ w.rank := by
  by_contra greater
  have less := sortCompare_ranks (not_le.mp greater)
  rw [sortCompare_swap, Ordering.swap_eq_lt] at less
  exact sorted less

theorem sortCompare_gt (level : v.rank = w.rank) : v.sortCompare w = .gt ↔ v.compare w = some .gt := by
  rw [sortCompare_level level]
  rcases v.compare w with _ | _ | _ | _ <;> simp

theorem compare_gt : v.compare w = some .gt ↔ w.compare v = some .lt := by
  rw [compare_swap v w]
  rcases v.compare w with _ | _ | _ | _ <;> simp

-- What stands between two values in the wrong order has an order with neither of them.
theorem compare_between (greater : u.compare w = some .gt) (first : u.compare v ≠ some .gt)
    (second : v.compare w ≠ some .gt) : u.compare v = none ∧ v.compare w = none := by
  have less := compare_gt.mp greater
  constructor
  · cases before : u.compare v with
    | none => rfl
    | some decided =>
      cases decided with
      | lt => exact absurd (compare_gt.mpr (compare_trans less before)) second
      | eq => exact absurd ((compare_congr before w).symm.trans greater) second
      | gt => exact absurd before first
  · cases behind : v.compare w with
    | none => rfl
    | some decided =>
      cases decided with
      | lt => exact absurd (compare_gt.mpr (compare_trans behind less)) first
      | eq => exact absurd ((compare_congr_right behind u).trans greater) first
      | gt => exact absurd behind second

theorem Clashes.unordered (clashes : v.Clashes w) (numeric : v.Numeric) (numeric' : w.Numeric) : v.compare w = none :=
  (compare_none_iff numeric numeric').mpr (.inr clashes)

theorem Clashes.level (clashes : v.Clashes w) : v.rank = w.rank := by
  obtain ⟨xs, ys, rfl, rfl, _⟩ := clashes.lists
  rfl

-- The sorting order goes on from one pair to the next, but for values that clash with a third one, and with it only.
theorem sortCompare_breaks (numeric : u.Numeric) (numeric' : v.Numeric) (numeric'' : w.Numeric) :
    (u.sortCompare v ≠ .gt ∧ v.sortCompare w ≠ .gt ∧ u.sortCompare w = .gt) ↔
      u.Clashes v ∧ v.Clashes w ∧ u.compare w = some .gt := by
  constructor
  · rintro ⟨first, second, greater⟩
    have back : w.sortCompare u ≠ .gt := by
      rw [sortCompare_swap u w, greater]
      exact nofun
    have before := rank_le first
    have behind := rank_le second
    have around := rank_le back
    have level : u.rank = v.rank := by omega
    have level' : v.rank = w.rank := by omega
    rw [ne_eq, sortCompare_gt level] at first
    rw [ne_eq, sortCompare_gt level'] at second
    rw [sortCompare_gt (level.trans level')] at greater
    obtain ⟨none, none'⟩ := compare_between greater first second
    rw [compare_none_iff numeric numeric'] at none
    rw [compare_none_iff numeric' numeric''] at none'
    exact ⟨none.resolve_left fun apart => apart level, none'.resolve_left fun apart => apart level', greater⟩
  · rintro ⟨clashes, clashes', greater⟩
    rw [ne_eq, sortCompare_gt clashes.level, ne_eq, sortCompare_gt clashes'.level,
      sortCompare_gt (clashes.level.trans clashes'.level), clashes.unordered numeric numeric',
      clashes'.unordered numeric' numeric'']
    exact ⟨nofun, nofun, greater⟩

-- A list with one more item comes behind, and it clashes with what the list clashes with.
theorem Clash.append (clash : Clash xs ys) (zs : List Value) : Clash (xs ++ zs) ys := by
  induction clash with
  | ranks apart => exact .ranks apart
  | lists inner => exact .lists inner
  | later equal _ ih => exact .later equal ih

theorem Clash.swap (clash : Clash xs ys) : Clash ys xs := by
  induction clash with
  | ranks apart => exact .ranks apart.symm
  | lists _ ih => exact .lists ih
  | @later v w xs ys equal _ ih =>
    refine .later ?_ ih
    rw [compare_swap v w, equal]
    rfl

theorem compareItems_append (numeric : EveryNumberIn (fun n => ¬n.isNaN) xs) (v : Value) :
    compareItems (xs ++ [v]) xs = some .gt := by
  induction xs with
  | nil => rfl
  | cons w xs ih => rw [List.cons_append, compareItems_cons, if_pos (compare_self numeric.1), ih numeric.2]

theorem everyNumberIn_append {holds : Float → Prop} :
    EveryNumberIn holds (xs ++ ys) ↔ EveryNumberIn holds xs ∧ EveryNumberIn holds ys := by
  induction xs with
  | nil => simp [EveryNumberIn]
  | cons v xs ih => rw [List.cons_append, EveryNumberIn, EveryNumberIn, ih, and_assoc]

theorem Clashes.broken (clashes : v.Clashes w) (numeric : w.Numeric) :
    ∃ u : Value, u.Numeric ∧ u.Clashes v ∧ u.compare w = some .gt := by
  obtain ⟨xs, ys, rfl, rfl, clash⟩ := clashes.lists
  exact ⟨list (ys ++ [text ""]), everyNumberIn_append.mpr ⟨numeric, trivial, trivial⟩, clash.swap.append _,
    compareItems_append numeric _⟩

-- The sorting order is the same from both sides. It is transitive exactly as long as a value does not clash with two
-- others that are in the wrong order, which any two values that clash are part of.
theorem sortCompare_exact (numeric : u.Numeric) (numeric' : v.Numeric) (numeric'' : w.Numeric) :
    v.sortCompare u = (u.sortCompare v).swap ∧
    ((u.sortCompare v ≠ .gt → v.sortCompare w ≠ .gt → u.sortCompare w ≠ .gt) ↔
      ¬(u.Clashes v ∧ v.Clashes w ∧ u.compare w = some .gt)) ∧
    (v.Clashes w → ∃ t : Value, t.Numeric ∧ t.sortCompare v ≠ .gt ∧ v.sortCompare w ≠ .gt ∧ t.sortCompare w = .gt) := by
  refine ⟨sortCompare_swap u v, ?_, fun clashes => ?_⟩
  · rw [← sortCompare_breaks numeric numeric' numeric'']
    simp only [not_and, ne_eq]
  · obtain ⟨t, numbers, clashes', greater⟩ := clashes.broken numeric''
    exact ⟨t, numbers, (sortCompare_breaks numbers numeric' numeric'').mpr ⟨clashes', clashes, greater⟩⟩

-- `[0]` comes before `[1, 2]`, and before `[True, 'a']`, with which `[1, 2]` clashes.
def lower : Value := list [number 0.0]
def numbered : Value := list [number 1.0, number 2.0]
def lettered : Value := list [bool true, text "a"]

theorem lettered_exact : lower.Numeric ∧ numbered.Numeric ∧ lettered.Numeric ∧
    numbered.sortCompare lower = (lower.sortCompare numbered).swap ∧ lower.sortCompare lettered ≠ .gt ∧
    numbered.Clashes lettered ∧ ∃ t : Value, t.Numeric ∧ t.sortCompare numbered ≠ .gt ∧
      numbered.sortCompare lettered ≠ .gt ∧ t.sortCompare lettered = .gt := by
  have numbers : lower.Numeric ∧ numbered.Numeric ∧ lettered.Numeric := by decide +kernel
  have ahead : lower.compare lettered ≠ some .gt := by decide +kernel
  have clashes : numbered.Clashes lettered := .later (by decide +kernel) (.ranks (by decide))
  obtain ⟨swapped, transitive, broken⟩ := sortCompare_exact numbers.1 numbers.2.1 numbers.2.2
  exact ⟨numbers.1, numbers.2.1, numbers.2.2, swapped,
    transitive.mpr (fun wrong => ahead wrong.2.2) (by decide +kernel) (by decide +kernel), clashes, broken clashes⟩

-- `[2]` comes before `['a']` or is level with it, and so does `['a']` before `[1]`, but `[2]` comes behind `[1]`.
theorem bracketed_intransitive : ¬∀ u v w : Value, u.Numeric → v.Numeric → w.Numeric →
    u.sortCompare v ≠ .gt → v.sortCompare w ≠ .gt → u.sortCompare w ≠ .gt := by
  intro transitive
  exact transitive (list [number 2.0]) (list [text "a"]) (list [number 1.0]) (by decide +kernel) (by decide +kernel)
    (by decide +kernel) (by decide +kernel) (by decide +kernel) (by decide +kernel)

end Dataflow.Value
