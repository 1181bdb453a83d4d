import Dataflow.Proofs.Value.Sign
import Dataflow.Value.Order

namespace Dataflow
open Float.Model (UnpackedFloat)
open Ratio (infinityBits)
open Decimal (isNegative)

variable {x y : Float} {u v : UnpackedFloat} {i j : Int} {bits other : Nat}

theorem compare_natCast (m n : Nat) : compare (m : Int) (n : Int) = compare m n := by
  rcases lt_trichotomy m n with less | same | greater
  · rw [compare_lt_iff_lt.mpr less, compare_lt_iff_lt.mpr (by omega)]
  · rw [compare_eq_iff_eq.mpr same, compare_eq_iff_eq.mpr (by omega)]
  · rw [compare_gt_iff_gt.mpr greater, compare_gt_iff_gt.mpr (by omega)]

theorem compare_neg (i j : Int) : compare (-i) (-j) = compare j i := by
  rcases lt_trichotomy i j with less | same | greater
  · rw [compare_gt_iff_gt.mpr (show -i > -j by omega), compare_gt_iff_gt.mpr less]
  · rw [compare_eq_iff_eq.mpr (show -i = -j by omega), compare_eq_iff_eq.mpr same.symm]
  · rw [compare_lt_iff_lt.mpr (show -i < -j by omega), compare_lt_iff_lt.mpr greater]

theorem compare_reversed (u v : UnpackedFloat) : v.compare u = (u.compare v).map Ordering.swap := by
  rcases u with (_ | _) | _ | (_ | _) | ⟨_ | _, _, _, _⟩ <;> rcases v with (_ | _) | _ | (_ | _) | ⟨_ | _, _, _, _⟩ <;>
    simp [UnpackedFloat.compare, Ordering.swap_then, Int.compare_swap, Nat.compare_swap] <;> rfl

theorem compare_negated (u v : UnpackedFloat) : u.neg.compare v.neg = v.compare u := by
  rcases u with (_ | _) | _ | (_ | _) | ⟨_ | _, _, _, _⟩ <;> rcases v with (_ | _) | _ | (_ | _) | ⟨_ | _, _, _, _⟩ <;>
    simp [UnpackedFloat.compare, UnpackedFloat.neg, Ordering.swap_then, Int.compare_swap, Nat.compare_swap] <;> rfl

-- A double with its sign set comes before all those without, the other zero apart.
theorem opposite_compare (first : Stands bits u) (second : Stands other v) (number : bits ≤ infinityBits)
    (number' : other ≤ infinityBits) : u.neg.compare v = some (compare (-bits : Int) other) := by
  cases first with
  | notANumber beyond => exact absurd number beyond.not_ge
  | zero =>
    cases second with
    | notANumber beyond => exact absurd number' beyond.not_ge
    | zero => rfl
    | infinity => rfl
    | finite some => exact congrArg Option.some (compare_lt_iff_lt.mpr (by omega)).symm
  | infinity =>
    cases second with
    | notANumber beyond => exact absurd number' beyond.not_ge
    | zero | infinity => rfl
    | finite some => exact congrArg Option.some (compare_lt_iff_lt.mpr (by omega)).symm
  | finite some =>
    cases second with
    | notANumber beyond => exact absurd number' beyond.not_ge
    | zero | infinity | finite => exact congrArg Option.some (compare_lt_iff_lt.mpr (by omega)).symm

-- An integer at which a double stands.
inductive Placed : Int → UnpackedFloat → Prop where
  | upwards {bits : Nat} {u : UnpackedFloat} : Stands bits u → bits ≤ infinityBits → Placed bits u
  | downwards {bits : Nat} {u : UnpackedFloat} : Stands bits u → bits ≤ infinityBits → Placed (-bits) u.neg

theorem Placed.compare (first : Placed i u) (second : Placed j v) : u.compare v = some (compare i j) := by
  cases first with
  | upwards stands number =>
    cases second with
    | upwards stands' number' => rw [stands.compare stands' number number', compare_natCast]
    | downwards stands' number' =>
      rw [compare_reversed, opposite_compare stands' stands number' number, Option.map_some, Int.compare_swap]
  | downwards stands number =>
    cases second with
    | upwards stands' number' => exact opposite_compare stands stands' number number'
    | downwards stands' number' => rw [compare_negated, stands'.compare stands number' number, compare_neg, compare_natCast]

-- The bits without the sign.
def sizeBits (x : Float) : Nat := (signless x.toBits.toBitVec).toNat

def place (x : Float) : Int := if isNegative x then -sizeBits x else sizeBits x

theorem sizeBits_le (number : ¬x.isNaN) : sizeBits x ≤ infinityBits := by
  have stands := stands_unpack (signless_lt x.toBits.toBitVec)
  refine stands.number fun form => number ?_
  rw [unpack_signless] at form
  rw [isNaN_iff]
  change (unpacked x).abs = .notANumber at form
  generalize unpacked x = u at *
  cases u with
  | notANumber => rfl
  | infinity | zero | finite => cases form

theorem placed (number : ¬x.isNaN) : Placed (place x) (unpacked x) := by
  have size := stands_unpack (signless_lt x.toBits.toBitVec)
  have bounded := sizeBits_le number
  unfold place
  cases sign : isNegative x with
  | false =>
    have same : sizeBits x = bitsOf x := by
      rw [isNegative, decide_eq_false_iff_not, not_le] at sign
      exact (signless_toNat _).trans (Nat.mod_eq_of_lt sign)
    rw [same] at bounded ⊢
    exact .upwards (stands sign) bounded
  | true =>
    have restored : (unpacked x).abs.neg = unpacked x := by
      rw [isNegative, decide_eq_true_iff] at sign
      exact @unpack_restored x.toBits.toBitVec sign.not_gt
    rw [unpack_signless] at size
    rw [if_pos rfl, ← restored]
    exact .downwards size bounded

theorem compare_places (number : ¬x.isNaN) (number' : ¬y.isNaN) :
    (unpacked x).compare (unpacked y) = some (compare (place x) (place y)) :=
  (placed number).compare (placed number')

theorem le_iff_place (number : ¬x.isNaN) (number' : ¬y.isNaN) : x ≤ y ↔ place x ≤ place y := by
  rw [le_iff_unpacked, UnpackedFloat.le, compare_places number number', Option.any_some, Int.isLE_compare]

theorem compare_nan (special : x.isNaN ∨ y.isNaN) : (unpacked x).compare (unpacked y) = none := by
  rw [isNaN_iff, isNaN_iff] at special
  rcases special with first | second
  · rw [first]
    rfl
  · rw [second]
    cases unpacked x with
    | notANumber => rfl
    | zero sign | infinity sign | finite sign => cases sign <;> rfl

theorem compareNumbers_unpacked (x y : Float) : Value.compareNumbers x y = (unpacked x).compare (unpacked y) := by
  have equal : (x == y) = ((unpacked x).compare (unpacked y) == some .eq) := rfl
  simp only [Value.compareNumbers, lt_iff_unpacked, UnpackedFloat.lt, equal, compare_reversed (unpacked x) (unpacked y)]
  rcases (unpacked x).compare (unpacked y) with _ | _ | _ | _ <;> rfl

-- NaN stands nowhere.
def place? (x : Float) : Option Int := if x.isNaN then none else some (place x)

theorem compareNumbers_eq (x y : Float) :
    Value.compareNumbers x y = (place? x).bind fun i => (place? y).map (compare i) := by
  rw [compareNumbers_unpacked]
  by_cases special : x.isNaN ∨ y.isNaN
  · rw [compare_nan special]
    rcases special with first | second
    · have nowhere : place? x = none := if_pos first
      rw [nowhere, Option.bind_none]
    · have nowhere : place? y = none := if_pos second
      rw [nowhere]
      cases place? x <;> rfl
  · obtain ⟨number, number'⟩ := not_or.mp special
    rw [compare_places number number', place?, place?, if_neg number, if_neg number', Option.bind_some, Option.map_some]

end Dataflow
