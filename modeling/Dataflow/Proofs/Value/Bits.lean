import Dataflow.Decimal.Layout
import Dataflow.Proofs.Decimal.Rounding
import Dataflow.Proofs.Value.Zero

namespace Dataflow
open Float.Model (Format UnpackedFloat)
open Float.Model.UnpackedFloat (Sign)
open Ratio (hiddenBit infinityBits placeOf significandOf bits_split significandOf_lt le_significandOf)
open Decimal (isNegative)

variable {x y : Float} {bits : Nat}

def bitsOf (x : Float) : Nat := x.toBits.toNat

-- What bits with a clear sign stand for.
inductive Stands : Nat → UnpackedFloat → Prop where
  | zero : Stands 0 (.zero .positive)
  | finite {bits : Nat} (some : 0 < bits) (finite : bits < infinityBits) (positive : 0 < significandOf bits) :
      Stands bits (.finite .positive (significandOf bits) (placeOf bits - 1074) positive)
  | infinity : Stands infinityBits (.infinity .positive)
  | notANumber {bits : Nat} (beyond : infinityBits < bits) : Stands bits .notANumber

-- The three parts of the bits.
theorem mantissa_toNat (b : BitVec 64) :
    (@UnpackedFloat.unpackMantissa Format.binary64 b).toNat = b.toNat % hiddenBit := by
  rw [UnpackedFloat.unpackMantissa_def]
  simp [hiddenBit]

theorem exponent_toNat (b : BitVec 64) (clear : b.toNat < 2 ^ 63) :
    (@UnpackedFloat.unpackExponent Format.binary64 b).toNat = b.toNat / hiddenBit := by
  rw [UnpackedFloat.unpackExponent_def]
  simp [hiddenBit]
  omega

theorem sign_clear (b : BitVec 64) (clear : b.toNat < 2 ^ 63) :
    @UnpackedFloat.unpackSign Format.binary64 b = 0#1 := by
  rw [UnpackedFloat.unpackSign_def, ← BitVec.toNat_inj]
  simp [Nat.shiftRight_eq_div_pow]
  omega

theorem Stands.of_parts {mantissa : Nat} {exponent : Int} {positive : 0 < mantissa} (finite : bits < infinityBits)
    (first : mantissa = significandOf bits) (second : exponent = placeOf bits - 1074) :
    Stands bits (.finite .positive mantissa exponent positive) := by
  subst first second
  refine .finite ?_ finite positive
  have := bits_split bits
  omega

variable {b : BitVec 64}

-- The greatest exponent is that of infinity and NaN.
theorem stands_special (clear : b.toNat < 2 ^ 63) (full : b.toNat / hiddenBit = 2047) :
    Stands b.toNat (UnpackedFloat.unpack Format.binary64 b) := by
  have top : @UnpackedFloat.unpackExponent Format.binary64 b = -1#11 :=
    BitVec.toNat_inj.mp ((exponent_toNat b clear).trans full)
  have mantissa := mantissa_toNat b
  unfold UnpackedFloat.unpack
  dsimp only
  rw [if_pos top, sign_clear b clear]
  split
  · rename_i none
    have rest : b.toNat % hiddenBit = 0 := mantissa.symm.trans (congrArg BitVec.toNat none)
    have same : b.toNat = infinityBits := by
      unfold hiddenBit infinityBits at *
      omega
    rw [same]
    exact .infinity
  · rename_i some
    have rest : b.toNat % hiddenBit ≠ 0 := fun zero => some (BitVec.toNat_inj.mp (mantissa.trans zero))
    refine .notANumber ?_
    unfold hiddenBit infinityBits at *
    omega

-- The least exponent is that of zero and of the doubles that are not normal.
theorem stands_least (clear : b.toNat < 2 ^ 63) (least : b.toNat / hiddenBit = 0) :
    Stands b.toNat (UnpackedFloat.unpack Format.binary64 b) := by
  have exponent := (exponent_toNat b clear).trans least
  have bottom : @UnpackedFloat.unpackExponent Format.binary64 b = 0#11 := BitVec.toNat_inj.mp exponent
  have mantissa : (@UnpackedFloat.unpackMantissa Format.binary64 b).toNat = b.toNat := by
    rw [mantissa_toNat]
    unfold hiddenBit at *
    omega
  unfold UnpackedFloat.unpack
  dsimp only
  rw [if_neg (by rw [bottom]; decide), if_pos bottom, sign_clear b clear]
  split
  · rename_i none
    rw [show b.toNat = 0 from mantissa.symm.trans (congrArg BitVec.toNat none)]
    exact .zero
  · refine .of_parts ?_ ?_ ?_
    · unfold hiddenBit infinityBits at *
      omega
    · rw [mantissa, significandOf, placeOf, least]
      omega
    · rw [exponent, placeOf, least]
      rfl

theorem stands_normal (clear : b.toNat < 2 ^ 63) (partial' : b.toNat / hiddenBit ≠ 2047) (some : b.toNat / hiddenBit ≠ 0) :
    Stands b.toNat (UnpackedFloat.unpack Format.binary64 b) := by
  have exponent := exponent_toNat b clear
  have top : @UnpackedFloat.unpackExponent Format.binary64 b ≠ -1#11 := fun top =>
    partial' (exponent.symm.trans (congrArg BitVec.toNat top))
  have bottom : @UnpackedFloat.unpackExponent Format.binary64 b ≠ 0#11 := fun bottom =>
    some (exponent.symm.trans (congrArg BitVec.toNat bottom))
  unfold UnpackedFloat.unpack
  dsimp only
  rw [if_neg top, if_neg bottom, sign_clear b clear]
  have parts := Nat.div_add_mod b.toNat hiddenBit
  have below := Nat.mod_lt b.toNat (show 0 < hiddenBit by decide)
  refine .of_parts ?_ ?_ ?_
  · unfold hiddenBit infinityBits at *
    omega
  · rw [BitVec.toNat_append, ← Nat.shiftLeft_add_eq_or_of_lt (BitVec.isLt _), mantissa_toNat]
    change hiddenBit + b.toNat % hiddenBit = significandOf b.toNat
    unfold significandOf placeOf hiddenBit at *
    omega
  · rw [exponent, placeOf]
    change ((b.toNat / hiddenBit : Nat) : Int) - (1023 + 52) = _
    omega

theorem stands_unpack (clear : b.toNat < 2 ^ 63) : Stands b.toNat (UnpackedFloat.unpack Format.binary64 b) := by
  by_cases full : b.toNat / hiddenBit = 2047
  · exact stands_special clear full
  by_cases least : b.toNat / hiddenBit = 0
  · exact stands_least clear least
  · exact stands_normal clear full least

-- NaN apart, doubles without a sign are ordered as their bits are.
theorem compare_parts (bits other : Nat) :
    (compare (placeOf bits - 1074 : Int) (placeOf other - 1074)).then (compare (significandOf bits) (significandOf other)) =
      compare bits other := by
  have split := bits_split bits
  have split' := bits_split other
  have low := significandOf_lt bits
  have low' := significandOf_lt other
  rcases lt_trichotomy (placeOf bits) (placeOf other) with less | same | greater
  · have high := le_significandOf (show 0 < placeOf other by omega)
    have below : bits < other := by
      unfold hiddenBit at *
      omega
    rw [compare_lt_iff_lt.mpr below, compare_lt_iff_lt.mpr (by omega)]
    rfl
  · rw [same] at split ⊢
    rw [compare_eq_iff_eq.mpr rfl, Ordering.eq_then]
    rcases lt_trichotomy (significandOf bits) (significandOf other) with less | equal | greater
    · rw [compare_lt_iff_lt.mpr less, compare_lt_iff_lt.mpr (by omega)]
    · rw [compare_eq_iff_eq.mpr equal, compare_eq_iff_eq.mpr (by omega)]
    · rw [compare_gt_iff_gt.mpr greater, compare_gt_iff_gt.mpr (by omega)]
  · have high := le_significandOf (show 0 < placeOf bits by omega)
    have above : other < bits := by
      unfold hiddenBit at *
      omega
    rw [compare_gt_iff_gt.mpr above, compare_gt_iff_gt.mpr (by omega)]
    rfl

theorem Stands.compare {u v : UnpackedFloat} {other : Nat} (first : Stands bits u) (second : Stands other v)
    (number : bits ≤ infinityBits) (number' : other ≤ infinityBits) : u.compare v = some (compare bits other) := by
  cases first with
  | notANumber beyond => exact absurd number (not_le.mpr beyond)
  | zero =>
    cases second with
    | notANumber beyond => exact absurd number' (not_le.mpr beyond)
    | zero | infinity => rfl
    | finite some => exact congrArg Option.some (compare_lt_iff_lt.mpr some).symm
  | infinity =>
    cases second with
    | notANumber beyond => exact absurd number' (not_le.mpr beyond)
    | zero | infinity => rfl
    | finite _ finite => exact congrArg Option.some (compare_gt_iff_gt.mpr finite).symm
  | finite some finite =>
    cases second with
    | notANumber beyond => exact absurd number' (not_le.mpr beyond)
    | zero => exact congrArg Option.some (compare_gt_iff_gt.mpr some).symm
    | infinity => exact congrArg Option.some (compare_lt_iff_lt.mpr finite).symm
    | finite => exact congrArg Option.some (compare_parts bits other)

theorem stands (clear : isNegative x = false) : Stands (bitsOf x) (unpacked x) := by
  refine @stands_unpack x.toModel.toBits.toBitVec ?_
  simp only [isNegative, decide_eq_false_iff_not, not_le] at clear
  exact clear

theorem Stands.number {u : UnpackedFloat} (stands : Stands bits u) (number : u ≠ .notANumber) : bits ≤ infinityBits := by
  cases stands with
  | zero => exact Nat.zero_le _
  | finite _ finite => exact finite.le
  | infinity => exact le_rfl
  | notANumber => exact absurd rfl number

theorem lt_iff_unpacked : x < y ↔ (unpacked x).lt (unpacked y) := decide_eq_true_iff

theorem le_iff_unpacked : x ≤ y ↔ (unpacked x).le (unpacked y) := decide_eq_true_iff

theorem compared_numbers {u v : UnpackedFloat} {ordering : Ordering} (compared : u.compare v = some ordering) :
    u ≠ .notANumber ∧ v ≠ .notANumber := by
  constructor
  · rintro rfl
    cases compared
  · rintro rfl
    cases u <;> cases compared

theorem compare_bits {ordering : Ordering} (clear : isNegative x = false) (clear' : isNegative y = false)
    (compared : (unpacked x).compare (unpacked y) = some ordering) : compare (bitsOf x) (bitsOf y) = ordering := by
  obtain ⟨number, number'⟩ := compared_numbers compared
  have bits := (stands clear).compare (stands clear') ((stands clear).number number) ((stands clear').number number')
  exact Option.some.inj (bits.symm.trans compared)

theorem bits_lt (clear : isNegative x = false) (clear' : isNegative y = false) (less : x < y) : bitsOf x < bitsOf y := by
  rw [lt_iff_unpacked, UnpackedFloat.lt, beq_iff_eq] at less
  exact compare_lt_iff_lt.mp (compare_bits clear clear' less)

theorem bits_le (clear : isNegative x = false) (clear' : isNegative y = false) (least : x ≤ y) : bitsOf x ≤ bitsOf y := by
  rw [le_iff_unpacked, UnpackedFloat.le, Option.any_eq_true] at least
  obtain ⟨ordering, compared, notAbove⟩ := least
  rw [← compare_bits clear clear' compared] at notAbove
  exact Nat.isLE_compare.mp notAbove

theorem bitsOf_injective (same : bitsOf x = bitsOf y) : x = y :=
  Float.toBits_inj.mp (UInt64.toNat_inj.mp same)

theorem ofBits_bitsOf (x : Float) : Float.ofBits (.ofNat (bitsOf x)) = x := by
  rw [bitsOf, UInt64.ofNat_toNat, Float.ofBits_toBits]

theorem toFloat_eq_of_bits {r : Ratio} (nearest : r.nearestBits = bitsOf x) (finite : bitsOf x < infinityBits) : r.toFloat = x := by
  rw [Ratio.toFloat, nearest, Nat.min_eq_left finite.le, ofBits_bitsOf]

theorem numberBits {b : BitVec 64} (number : b.toNat ≤ infinityBits) :
    @UnpackedFloat.isNaNBits Format.binary64 b = false := by
  have clear : b.toNat < 2 ^ 63 := number.trans_lt (by decide)
  simp only [UnpackedFloat.isNaNBits, decide_eq_false_iff_not, not_and, not_not]
  intro top
  have full : b.toNat / hiddenBit = 2047 := (exponent_toNat b clear).symm.trans (congrArg BitVec.toNat top)
  refine BitVec.toNat_inj.mp ((mantissa_toNat b).trans ?_)
  unfold hiddenBit infinityBits at *
  change b.toNat % 4503599627370496 = 0
  omega

theorem bitsOf_ofBits (number : bits ≤ infinityBits) : bitsOf (Float.ofBits (.ofNat bits)) = bits := by
  have fits : bits < 2 ^ 64 := number.trans_lt (by decide)
  have same : (UInt64.ofNat bits).toBitVec.toNat = bits := UInt64.toNat_ofNat_of_lt' fits
  have packed : UnpackedFloat.pack Format.binary64 (UnpackedFloat.unpack Format.binary64 (UInt64.ofNat bits).toBitVec) =
      (UInt64.ofNat bits).toBitVec := by
    rw [UnpackedFloat.pack_unpack, numberBits (by rwa [same])]
    rfl
  change (UnpackedFloat.pack Format.binary64 (UnpackedFloat.unpack Format.binary64 (UInt64.ofNat bits).toBitVec)).toNat = bits
  rw [packed, same]

theorem bitsOf_toFloat (r : Ratio) : bitsOf r.toFloat = min r.nearestBits infinityBits :=
  bitsOf_ofBits (Nat.min_le_right _ _)

theorem Stands.status {u : UnpackedFloat} (stands : Stands bits u) (finite : bits < infinityBits) :
    u.isFinite = true ∧ u.isNaN = false ∧ u.isInf = false ∧ u.abs = u := by
  cases stands with
  | zero | finite => exact ⟨rfl, rfl, rfl, rfl⟩
  | infinity => exact absurd finite (lt_irrefl _)
  | notANumber beyond => exact absurd finite beyond.not_gt

theorem Stands.bits_zero {sign : Sign} (stands : Stands bits (.zero sign)) : bits = 0 := by
  cases stands
  rfl

-- Below infinity the bits are those of a number that is not negative.
theorem number_status (clear : isNegative x = false) (finite : bitsOf x < infinityBits) :
    x.isFinite = true ∧ x.isNaN = false ∧ x.isInf = false ∧ x.abs = x := by
  obtain ⟨proper, number, bounded, positive⟩ := (stands clear).status finite
  refine ⟨proper, number, bounded, ?_⟩
  change Float.ofModel (Float.Model.pack (unpacked x).abs) = x
  rw [positive, packed_unpacked]

theorem beq_zero (clear : isNegative x = false) (zero : x == 0.0) : x = 0.0 := by
  obtain ⟨sign, form⟩ := (zero_iff x).mp zero
  have none : bitsOf x = 0 := (form ▸ stands clear).bits_zero
  exact bitsOf_injective (none.trans (by decide +kernel))

end Dataflow
