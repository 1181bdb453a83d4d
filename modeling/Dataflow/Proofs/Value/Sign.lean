import Dataflow.Proofs.Value.Bits

namespace Dataflow
open Float.Model (Format UnpackedFloat)
open Float.Model.UnpackedFloat (Sign)
open Ratio (infinityBits)
open Decimal (isNegative)

variable {x : Float} {b : BitVec 64}

-- The bits with the sign cleared.
def signless (b : BitVec 64) : BitVec 64 := .ofNat 64 (b.toNat % 2 ^ 63)

theorem signless_toNat (b : BitVec 64) : (signless b).toNat = b.toNat % 2 ^ 63 := by
  simp only [signless, BitVec.toNat_ofNat]
  omega

theorem signless_lt (b : BitVec 64) : (signless b).toNat < 2 ^ 63 := by
  rw [signless_toNat]
  omega

theorem mantissa_signless (b : BitVec 64) :
    @UnpackedFloat.unpackMantissa Format.binary64 (signless b) = @UnpackedFloat.unpackMantissa Format.binary64 b := by
  refine BitVec.toNat_inj.mp ((mantissa_toNat _).trans (Eq.trans ?_ (mantissa_toNat _).symm))
  rw [signless_toNat, Ratio.hiddenBit]
  omega

theorem exponent_signless (b : BitVec 64) :
    @UnpackedFloat.unpackExponent Format.binary64 (signless b) = @UnpackedFloat.unpackExponent Format.binary64 b := by
  rw [UnpackedFloat.unpackExponent_def, UnpackedFloat.unpackExponent_def, ← BitVec.toNat_inj]
  simp [signless_toNat]
  omega

theorem sign_set (b : BitVec 64) (set : ¬b.toNat < 2 ^ 63) : @UnpackedFloat.unpackSign Format.binary64 b = 1#1 := by
  have fits := b.isLt
  rw [UnpackedFloat.unpackSign_def, ← BitVec.toNat_inj]
  simp [Nat.shiftRight_eq_div_pow]
  omega

-- NaN shows no sign, and all else the sign alone.
theorem unpack_signless (b : BitVec 64) :
    UnpackedFloat.unpack Format.binary64 (signless b) = (UnpackedFloat.unpack Format.binary64 b).abs := by
  unfold UnpackedFloat.unpack
  simp only [mantissa_signless, exponent_signless, sign_clear _ (signless_lt b)]
  split
  · split <;> rfl
  · split
    · split <;> rfl
    · rfl

theorem unpack_restored (set : ¬b.toNat < 2 ^ 63) :
    (UnpackedFloat.unpack Format.binary64 b).abs.neg = UnpackedFloat.unpack Format.binary64 b := by
  unfold UnpackedFloat.unpack
  simp only [sign_set b set]
  split
  · split <;> rfl
  · split
    · split <;> rfl
    · rfl

theorem Stands.bits_lt {bits : Nat} {u : UnpackedFloat} (stands : Stands bits u) (finite : u.isFinite = true) :
    bits < infinityBits := by
  cases stands with
  | zero => decide
  | finite _ bounded => exact bounded
  | infinity | notANumber => cases finite

theorem abs_finite (u : UnpackedFloat) : u.abs.isFinite = u.isFinite := by cases u <;> rfl

theorem neg_finite (u : UnpackedFloat) : u.neg.isFinite = u.isFinite := by cases u <;> rfl

theorem signless_finite (finite : x.isFinite = true) : (signless x.toBits.toBitVec).toNat < infinityBits := by
  have stands := stands_unpack (signless_lt x.toBits.toBitVec)
  rw [unpack_signless] at stands
  exact stands.bits_lt ((abs_finite _).trans finite)

theorem bitsOf_abs (finite : x.isFinite = true) : bitsOf x.abs = (signless x.toBits.toBitVec).toNat := by
  change (UnpackedFloat.pack Format.binary64 (UnpackedFloat.unpack Format.binary64 x.toBits.toBitVec).abs).toNat = _
  rw [← unpack_signless, UnpackedFloat.pack_unpack, numberBits (signless_finite finite).le]
  rfl

theorem abs_bits_lt (finite : x.isFinite = true) : bitsOf x.abs < infinityBits :=
  (bitsOf_abs finite).trans_lt (signless_finite finite)

theorem unpacked_abs (finite : x.isFinite = true) : unpacked x.abs = (unpacked x).abs := by
  have same : x.abs.toBits.toBitVec = signless x.toBits.toBitVec := BitVec.toNat_inj.mp (bitsOf_abs finite)
  exact (congrArg (UnpackedFloat.unpack Format.binary64) same).trans (unpack_signless _)

theorem finite_number (finite : x.isFinite = true) : x.isNaN = false ∧ x.isInf = false := by
  change (unpacked x).isFinite = true at finite
  change (unpacked x).isNaN = false ∧ (unpacked x).isInf = false
  generalize unpacked x = u at *
  cases u with
  | notANumber | infinity => cases finite
  | zero | finite => exact ⟨rfl, rfl⟩

theorem abs_zero_iff (finite : x.isFinite = true) : x.abs = 0.0 ↔ x == 0.0 := by
  rw [zero_iff]
  constructor
  · intro zero
    have form := (unpacked_abs finite).symm.trans (congrArg unpacked zero)
    rw [unpacked_zero] at form
    generalize unpacked x = u at form
    cases u with
    | zero sign => exact ⟨sign, rfl⟩
    | notANumber | infinity | finite => cases form
  · rintro ⟨sign, form⟩
    refine unpacked_injective ((unpacked_abs finite).trans ?_)
    rw [form]
    rfl

-- Changing the sign keeps a number finite.

def signed (b : BitVec 64) : BitVec 64 := .ofNat 64 (b.toNat % 2 ^ 63 + 2 ^ 63)

theorem signed_toNat (b : BitVec 64) : (signed b).toNat = b.toNat % 2 ^ 63 + 2 ^ 63 := by
  simp only [signed, BitVec.toNat_ofNat]
  omega

theorem unpack_signed (b : BitVec 64) :
    UnpackedFloat.unpack Format.binary64 (signed b) = (UnpackedFloat.unpack Format.binary64 b).abs.neg := by
  have same : signless (signed b) = signless b := by
    rw [← BitVec.toNat_inj, signless_toNat, signless_toNat, signed_toNat]
    omega
  have set : ¬(signed b).toNat < 2 ^ 63 := by
    rw [signed_toNat]
    omega
  rw [← unpack_restored set, ← unpack_signless, same, unpack_signless]

theorem stored_unpack (finite : (UnpackedFloat.unpack Format.binary64 b).isFinite = true) :
    stored (UnpackedFloat.unpack Format.binary64 b) = UnpackedFloat.unpack Format.binary64 b := by
  have number : @UnpackedFloat.isNaNBits Format.binary64 b = false := by
    by_contra special
    rw [Bool.not_eq_false, UnpackedFloat.isNaNBits, decide_eq_true_iff] at special
    simp only [UnpackedFloat.unpack, special.1, special.2, if_true, if_false] at finite
    cases finite
  have packed := @UnpackedFloat.pack_unpack Format.binary64 b (by decide)
  rw [number] at packed
  exact congrArg (UnpackedFloat.unpack Format.binary64) packed

-- The opposite of a number is stored as it is.
theorem unpack_neg (b : BitVec 64) :
    ∃ c, (UnpackedFloat.unpack Format.binary64 b).neg = UnpackedFloat.unpack Format.binary64 c := by
  by_cases clear : b.toNat < 2 ^ 63
  · have same : signless b = b := by
      rw [← BitVec.toNat_inj, signless_toNat, Nat.mod_eq_of_lt clear]
    refine ⟨signed b, ?_⟩
    rw [unpack_signed, ← unpack_signless, same]
  · refine ⟨signless b, ?_⟩
    rw [unpack_signless, ← unpack_restored clear]
    generalize UnpackedFloat.unpack Format.binary64 b = u
    cases u <;> rfl

theorem isFinite_neg (finite : x.isFinite = true) : (-x).isFinite = true := by
  have kept : (unpacked x).neg.isFinite = true := (neg_finite _).trans finite
  obtain ⟨c, form⟩ := unpack_neg x.toBits.toBitVec
  change (unpacked x).neg = _ at form
  change (stored (unpacked x).neg).isFinite = true
  rw [form] at kept ⊢
  rw [stored_unpack kept]
  exact kept

end Dataflow
