import Dataflow.Value.Basic
import Mathlib

namespace Dataflow
open Float.Model (Format UnpackedFloat)
open Float.Model.UnpackedFloat (Sign)

def unpacked (x : Float) : UnpackedFloat := x.toModel.unpack

-- What remains of a result once it is stored.
def stored (u : UnpackedFloat) : UnpackedFloat := (Float.Model.pack u).unpack

variable {x y z : Float}

theorem unpacked_add (x y : Float) :
    unpacked (x + y) = stored (UnpackedFloat.add Format.binary64 (unpacked x) (unpacked y)) := rfl

theorem unpacked_mul (x y : Float) :
    unpacked (x * y) = stored (UnpackedFloat.mul Format.binary64 (unpacked x) (unpacked y)) := rfl

theorem packed_unpacked (x : Float) : Float.Model.pack (unpacked x) = x.toModel := by
  obtain ⟨⟨⟨bits⟩, valid⟩⟩ := x
  have same : UnpackedFloat.pack Format.binary64 (UnpackedFloat.unpack Format.binary64 bits) = bits :=
    UnpackedFloat.pack_unpack_of_valid valid
  simp only [unpacked, Float.Model.unpack, Float.Model.pack, same]

theorem stored_unpacked (x : Float) : stored (unpacked x) = unpacked x :=
  congrArg Float.Model.unpack (packed_unpacked x)

theorem unpacked_injective (same : unpacked x = unpacked y) : x = y := by
  have models := congrArg Float.Model.pack same
  rw [packed_unpacked, packed_unpacked] at models
  obtain ⟨first⟩ := x
  obtain ⟨second⟩ := y
  exact congrArg Float.ofModel models

theorem stored_zero (sign : Sign) : stored (.zero sign) = .zero sign := by cases sign <;> rfl

theorem stored_infinity (sign : Sign) : stored (.infinity sign) = .infinity sign := by cases sign <;> rfl

theorem stored_nan : stored .notANumber = .notANumber := rfl

theorem unpacked_zero : unpacked 0.0 = .zero .positive := rfl

theorem unpacked_minus : unpacked (-0.0) = .zero .negative := rfl

theorem beq_iff (x y : Float) : x == y ↔ unpacked x ≠ .notANumber ∧ unpacked y ≠ .notANumber ∧
    (unpacked x = unpacked y ∨ unpacked x = .zero .positive ∧ unpacked y = .zero .negative ∨
      unpacked x = .zero .negative ∧ unpacked y = .zero .positive) :=
  UnpackedFloat.beq_iff_ne_notANumber_and_eq (unpacked x) (unpacked y)

theorem zero_iff (x : Float) : x == 0.0 ↔ ∃ sign, unpacked x = .zero sign := by
  rw [beq_iff, unpacked_zero]
  constructor
  · rintro ⟨_, _, same | ⟨_, other⟩ | ⟨minus, _⟩⟩
    · exact ⟨_, same⟩
    · cases other
    · exact ⟨_, minus⟩
  · rintro ⟨sign, zero⟩
    rw [zero]
    cases sign <;> simp

theorem isNaN_iff (x : Float) : x.isNaN ↔ unpacked x = .notANumber := UnpackedFloat.isNaN_iff

-- NaN is one value, whatever it came from.
theorem nan_unique (first : x.isNaN) (second : y.isNaN) : x = y :=
  unpacked_injective (((isNaN_iff x).mp first).trans ((isNaN_iff y).mp second).symm)

theorem zero_finite (zero : x == 0.0) : x.isFinite := by
  obtain ⟨sign, form⟩ := (zero_iff x).mp zero
  change (unpacked x).isFinite
  rw [form]
  rfl

theorem zeros_beq (first : x == 0.0) (second : y == 0.0) : x == y := by
  obtain ⟨sign, form⟩ := (zero_iff x).mp first
  obtain ⟨other, form'⟩ := (zero_iff y).mp second
  rw [beq_iff, form, form']
  cases sign <;> cases other <;> simp

-- Two floats that pass for each other: the same, or equal as numbers.
def Tied (x y : Float) : Prop := x = y ∨ x == y

theorem Tied.zero (tied : Tied x y) : x == 0.0 ↔ y == 0.0 := by
  rcases tied with rfl | equal
  · exact Iff.rfl
  · rw [zero_iff, zero_iff]
    obtain ⟨_, _, same | ⟨plus, minus⟩ | ⟨minus, plus⟩⟩ := (beq_iff x y).mp equal
    · rw [same]
    · exact ⟨fun _ => ⟨_, minus⟩, fun _ => ⟨_, plus⟩⟩
    · exact ⟨fun _ => ⟨_, plus⟩, fun _ => ⟨_, minus⟩⟩

theorem Tied.nan (tied : Tied x y) : x.isNaN ↔ y.isNaN := by
  rcases tied with rfl | equal
  · exact Iff.rfl
  · rw [isNaN_iff, isNaN_iff]
    obtain ⟨first, second, _⟩ := (beq_iff x y).mp equal
    exact ⟨fun nan => absurd nan first, fun nan => absurd nan second⟩

-- Zero leaves everything what it is but minus zero.
theorem zero_added (other : x ≠ -0.0) : x + 0.0 = x ∧ 0.0 + x = x := by
  have kept : UnpackedFloat.add Format.binary64 (unpacked x) (.zero .positive) = unpacked x ∧
      UnpackedFloat.add Format.binary64 (.zero .positive) (unpacked x) = unpacked x := by
    cases form : unpacked x with
    | zero sign =>
      cases sign with
      | positive => exact ⟨rfl, rfl⟩
      | negative => exact absurd (unpacked_injective (form.trans unpacked_minus.symm)) other
    | _ => exact ⟨rfl, rfl⟩
  constructor
  · exact unpacked_injective (by rw [unpacked_add, unpacked_zero, kept.1, stored_unpacked])
  · exact unpacked_injective (by rw [unpacked_add, unpacked_zero, kept.2, stored_unpacked])

theorem minus_added (x : Float) : -0.0 + x = x := by
  have kept : UnpackedFloat.add Format.binary64 (.zero .negative) (unpacked x) = unpacked x := by
    cases unpacked x with
    | zero sign => cases sign <;> rfl
    | _ => rfl
  exact unpacked_injective (by rw [unpacked_add, unpacked_minus, kept, stored_unpacked])

-- Two running totals, the second of them without some of the zeros that the first one has taken in.
def SumsAlike (x y : Float) : Prop := x = y ∨ x = 0.0 ∧ y = -0.0

theorem SumsAlike.add (alike : SumsAlike x y) (z : Float) : SumsAlike (x + z) (y + z) := by
  rcases alike with rfl | ⟨rfl, rfl⟩
  · exact .inl rfl
  · rw [minus_added]
    by_cases minus : z = -0.0
    · subst minus
      exact .inr ⟨rfl, rfl⟩
    · exact .inl (zero_added minus).2

theorem SumsAlike.zero (alike : SumsAlike x y) : SumsAlike (x + 0.0) y := by
  rcases alike with rfl | ⟨rfl, rfl⟩
  · by_cases minus : x = -0.0
    · subst minus
      exact .inr ⟨rfl, rfl⟩
    · exact .inl (zero_added minus).1
  · exact .inr ⟨rfl, rfl⟩

theorem SumsAlike.tied (alike : SumsAlike x y) (tied : Tied x z) : Tied y z := by
  rcases alike with rfl | ⟨rfl, rfl⟩
  · exact tied
  · exact .inr (zeros_beq (by decide +kernel) (tied.zero.mp (by decide +kernel)))

theorem stored_mul_finite {u v : UnpackedFloat} (finite : (stored (UnpackedFloat.mul Format.binary64 u v)).isFinite) :
    u.isFinite ∧ v.isFinite := by
  cases u <;> cases v <;> simp_all [UnpackedFloat.mul, UnpackedFloat.isFinite, stored_infinity, stored_nan]

-- What is not finite stays so in a product.
theorem finite_of_mul (finite : (x * y).isFinite) : x.isFinite ∧ y.isFinite := stored_mul_finite finite

-- A zero for a factor makes the product zero, or NaN where the other factor is not finite.
theorem stored_zero_mul (sign : Sign) (u : UnpackedFloat) :
    (∃ other, stored (UnpackedFloat.mul Format.binary64 (.zero sign) u) = .zero other) ∨
      u.isFinite = false ∧ stored (UnpackedFloat.mul Format.binary64 (.zero sign) u) = .notANumber := by
  cases u with
  | notANumber | infinity other => exact .inr ⟨rfl, stored_nan⟩
  | zero other | finite other mantissa exponent positive => exact .inl ⟨sign * other, stored_zero _⟩

theorem stored_mul_zero (u : UnpackedFloat) (sign : Sign) :
    (∃ other, stored (UnpackedFloat.mul Format.binary64 u (.zero sign)) = .zero other) ∨
      u.isFinite = false ∧ stored (UnpackedFloat.mul Format.binary64 u (.zero sign)) = .notANumber := by
  cases u with
  | notANumber | infinity other => exact .inr ⟨rfl, stored_nan⟩
  | zero other | finite other mantissa exponent positive => exact .inl ⟨other * sign, stored_zero _⟩

theorem zero_mul_cases (zero : x == 0.0) (y : Float) : x * y == 0.0 ∨ y.isFinite = false ∧ (x * y).isNaN := by
  obtain ⟨sign, form⟩ := (zero_iff x).mp zero
  rw [zero_iff, isNaN_iff, unpacked_mul, form]
  exact stored_zero_mul sign (unpacked y)

theorem mul_zero_cases (x : Float) : x * 0.0 == 0.0 ∨ x.isFinite = false ∧ (x * 0.0).isNaN := by
  rw [zero_iff, isNaN_iff, unpacked_mul, unpacked_zero]
  exact stored_mul_zero (unpacked x) .positive

theorem nan_mul (nan : x.isNaN) (y : Float) : (x * y).isNaN := by
  rw [isNaN_iff] at nan ⊢
  rw [unpacked_mul, nan]
  exact stored_nan

-- A running product that has taken in a zero, beside the one that has not.
structure Dulled (x y : Float) : Prop where
  null : x == 0.0 ∨ x.isNaN
  finite : y.isFinite → x == 0.0

theorem Dulled.start (x : Float) : Dulled (x * 0.0) x := by
  rcases mul_zero_cases x with zero | ⟨infinite, nan⟩
  · exact ⟨.inl zero, fun _ => zero⟩
  · refine ⟨.inr nan, fun finite => ?_⟩
    rw [infinite] at finite
    cases finite

theorem Dulled.mul (dulled : Dulled x y) (z : Float) : Dulled (x * z) (y * z) := by
  constructor
  · rcases dulled.null with zero | nan
    · exact (zero_mul_cases zero z).imp id And.right
    · exact .inr (nan_mul nan z)
  · intro finite
    obtain ⟨first, second⟩ := finite_of_mul finite
    refine (zero_mul_cases (dulled.finite first) z).resolve_right fun other => ?_
    rw [second] at other
    cases other.1

theorem Dulled.again (dulled : Dulled x y) : Dulled (x * 0.0) y := by
  refine ⟨(mul_zero_cases x).imp id And.right, fun finite => ?_⟩
  refine (zero_mul_cases (dulled.finite finite) 0.0).resolve_right fun other => ?_
  cases other.1

-- The two products pass for each other if the second is zero as well, or if neither is a number.
theorem Dulled.tied_iff (dulled : Dulled x y) (tied : Tied x z) : Tied y z ↔ y == 0.0 ∨ x.isNaN ∧ y.isNaN := by
  constructor
  · intro other
    rcases dulled.null with zero | nan
    · exact .inl (other.zero.mpr (tied.zero.mp zero))
    · exact .inr ⟨nan, other.nan.mpr (tied.nan.mp nan)⟩
  · rintro (zero | ⟨first, second⟩)
    · exact .inr (zeros_beq zero (tied.zero.mp (dulled.finite (zero_finite zero))))
    · exact .inl (nan_unique second (tied.nan.mp first))

end Dataflow
