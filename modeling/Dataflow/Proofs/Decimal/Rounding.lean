import Dataflow.Decimal.Basic
import Mathlib

namespace Dataflow
namespace Ratio

variable {n d n' d' bits : Nat} {r s : Ratio}

theorem roundedQuotient_bounds (n d : Nat) : n / d ≤ roundedQuotient n d ∧ roundedQuotient n d ≤ n / d + 1 := by
  have parity : n / d % 2 < 2 := Nat.mod_lt _ (by decide)
  simp only [roundedQuotient]
  split
  · omega
  · split <;> omega

theorem roundedQuotient_exact (positive : 0 < d) (positive' : 0 < d') (k : Nat) :
    roundedQuotient (k * d * d') (d' * d) = k := by
  rw [Nat.mul_assoc, Nat.mul_comm d]
  simp [roundedQuotient, positive, positive']

theorem quotient_mono (positive : 0 < d) (positive' : 0 < d') (le : n * d' ≤ n' * d) : n / d ≤ n' / d' := by
  rw [Nat.le_div_iff_mul_le positive']
  refine Nat.le_of_mul_le_mul_right ?_ positive
  calc n / d * d' * d = n / d * d * d' := Nat.mul_right_comm _ _ _
    _ ≤ n * d' := Nat.mul_le_mul_right d' (Nat.div_mul_le_self n d)
    _ ≤ n' * d := le

-- Where the whole parts agree, the remainders decide, and a tie is settled alike on both sides.
theorem roundedQuotient_mono (positive : 0 < d) (positive' : 0 < d') (le : n * d' ≤ n' * d) :
    roundedQuotient n d ≤ roundedQuotient n' d' := by
  rcases lt_or_eq_of_le (quotient_mono positive positive' le) with less | same
  · exact (roundedQuotient_bounds n d).2.trans ((Nat.succ_le_of_lt less).trans (roundedQuotient_bounds n' d').1)
  · have remainders : n % d * d' ≤ n' % d' * d := by
      have split := Nat.div_add_mod n d
      have split' := Nat.div_add_mod n' d'
      rw [← split, ← split', same] at le
      refine Nat.le_of_add_le_add_left (a := d * d' * (n' / d')) ?_
      calc d * d' * (n' / d') + n % d * d' = (d * (n' / d') + n % d) * d' := by ring
        _ ≤ (d' * (n' / d') + n' % d') * d := le
        _ = d * d' * (n' / d') + n' % d' * d := by ring
    have upward : d < 2 * (n % d) → d' < 2 * (n' % d') := fun above => by
      refine Nat.lt_of_mul_lt_mul_left (a := d) ?_
      calc d * d' < 2 * (n % d) * d' := Nat.mul_lt_mul_of_pos_right above positive'
        _ ≤ d * (2 * (n' % d')) := by linarith
    have downward : 2 * (n' % d') < d' → 2 * (n % d) < d := fun below => by
      refine Nat.lt_of_mul_lt_mul_right (a := d') ?_
      calc 2 * (n % d) * d' ≤ 2 * (n' % d') * d := by linarith
        _ < d' * d := Nat.mul_lt_mul_of_pos_right below positive
        _ = d * d' := Nat.mul_comm _ _
    simp only [roundedQuotient, same]
    have parity : n' / d' % 2 < 2 := Nat.mod_lt _ (by decide)
    split_ifs <;> omega

theorem unit_pos : 0 < unit := by decide +kernel

theorem hiddenBit_eq : hiddenBit = 2 ^ 52 := by decide

-- The place of the nearest double, and its significand there.
def place (r : Ratio) : Nat := (r.numerator * unit / r.denominator).log2 - 52

def significand (r : Ratio) : Nat := roundedQuotient (r.numerator * unit) (r.denominator * 2 ^ r.place)

theorem nearestBits_eq (r : Ratio) : r.nearestBits = r.place * hiddenBit + r.significand := rfl

-- Rounding up may fill the next place.
theorem significand_le (r : Ratio) : r.significand ≤ 2 * hiddenBit := by
  have below : r.numerator * unit / r.denominator < 2 ^ (r.place + 53) :=
    Nat.lt_log2_self.trans_le (Nat.pow_le_pow_right (by decide) (by unfold place; omega))
  have quotient : r.numerator * unit / (r.denominator * 2 ^ r.place) < 2 ^ 53 := by
    rw [← Nat.div_div_eq_div_mul, Nat.div_lt_iff_lt_mul (by positivity), ← pow_add, Nat.add_comm]
    exact below
  exact (roundedQuotient_bounds _ _).2.trans quotient

theorem le_significand (wide : 0 < r.place) : hiddenBit ≤ r.significand := by
  have whole : 2 ^ (52 + r.place) ≤ r.numerator * unit / r.denominator := by
    refine (Nat.le_log2 fun none => ?_).mp (by unfold place at *; omega)
    rw [place, none] at wide
    exact absurd wide (by decide)
  refine le_trans ?_ (roundedQuotient_bounds _ _).1
  rw [← Nat.div_div_eq_div_mul, Nat.le_div_iff_mul_le (by positivity), hiddenBit_eq, ← pow_add]
  exact whole

def value (r : Ratio) : ℚ := r.numerator / r.denominator

theorem value_le_iff (positive : 0 < r.denominator) (positive' : 0 < s.denominator) :
    r.value ≤ s.value ↔ r.numerator * s.denominator ≤ s.numerator * r.denominator := by
  rw [value, value, div_le_div_iff₀ (by positivity) (by positivity)]
  norm_cast

theorem nearestBits_mono (positive : 0 < r.denominator) (positive' : 0 < s.denominator) (le : r.value ≤ s.value) :
    r.nearestBits ≤ s.nearestBits := by
  rw [value_le_iff positive positive'] at le
  have scaled : r.numerator * unit * s.denominator ≤ s.numerator * unit * r.denominator := by
    calc r.numerator * unit * s.denominator = r.numerator * s.denominator * unit := Nat.mul_right_comm _ _ _
      _ ≤ s.numerator * r.denominator * unit := Nat.mul_le_mul_right unit le
      _ = s.numerator * unit * r.denominator := Nat.mul_right_comm _ _ _
  have places : r.place ≤ s.place := by
    rw [place, place, Nat.log2_eq_log_two, Nat.log2_eq_log_two]
    exact Nat.sub_le_sub_right (Nat.log_mono_right (quotient_mono positive positive' scaled)) 52
  rw [nearestBits_eq, nearestBits_eq]
  rcases lt_or_eq_of_le places with below | same
  · have first := significand_le r
    have second := le_significand (r := s) (by omega)
    calc r.place * hiddenBit + r.significand ≤ r.place * hiddenBit + 2 * hiddenBit := by omega
      _ = (r.place + 1) * hiddenBit + hiddenBit := by ring
      _ ≤ s.place * hiddenBit + s.significand := Nat.add_le_add (Nat.mul_le_mul_right _ below) second
  · rw [significand, significand, same]
    refine Nat.add_le_add_left (roundedQuotient_mono (by positivity) (by positivity) ?_) _
    calc r.numerator * unit * (s.denominator * 2 ^ s.place) = r.numerator * unit * s.denominator * 2 ^ s.place := by ring
      _ ≤ s.numerator * unit * r.denominator * 2 ^ s.place := Nat.mul_le_mul_right _ scaled
      _ = s.numerator * unit * (r.denominator * 2 ^ s.place) := by ring

theorem nearestBits_congr (positive : 0 < r.denominator) (positive' : 0 < s.denominator) (same : r.value = s.value) :
    r.nearestBits = s.nearestBits :=
  le_antisymm (nearestBits_mono positive positive' same.le) (nearestBits_mono positive' positive same.ge)

-- The place of a double with these bits.
def placeOf (bits : Nat) : Nat := bits / hiddenBit - 1

def significandOf (bits : Nat) : Nat := bits - placeOf bits * hiddenBit

theorem bits_split (bits : Nat) : placeOf bits * hiddenBit + significandOf bits = bits := by
  unfold significandOf placeOf hiddenBit
  omega

theorem significandOf_lt (bits : Nat) : significandOf bits < 2 * hiddenBit := by
  unfold significandOf placeOf hiddenBit
  omega

theorem le_significandOf (wide : 0 < placeOf bits) : hiddenBit ≤ significandOf bits := by
  unfold significandOf placeOf hiddenBit at *
  omega

theorem ofBits_eq (bits : Nat) : ofBits bits = ⟨significandOf bits * 2 ^ placeOf bits, unit⟩ := by
  have fraction := Nat.div_add_mod bits hiddenBit
  rw [ofBits]
  split
  · rename_i least
    rw [significandOf, placeOf, least]
    simp only [least] at fraction
    simp
    omega
  · rename_i field
    have : hiddenBit + bits % hiddenBit = significandOf bits := by
      unfold significandOf placeOf hiddenBit at *
      omega
    rw [this]
    rfl

theorem ofBits_denominator (bits : Nat) : (ofBits bits).denominator = unit := by
  rw [ofBits_eq]

theorem place_ofBits (bits : Nat) : (ofBits bits).place = placeOf bits := by
  rw [place, ofBits_eq]
  dsimp only
  rw [Nat.mul_div_cancel _ unit_pos]
  have low : significandOf bits < 2 ^ 53 := significandOf_lt bits
  rcases Nat.eq_zero_or_pos (placeOf bits) with least | wide
  · rw [least, Nat.pow_zero, Nat.mul_one]
    rcases Nat.eq_zero_or_pos (significandOf bits) with none | some
    · rw [none, Nat.log2_zero]
    · have := (Nat.log2_lt (Nat.ne_of_gt some)).mpr low
      omega
  · have high : 2 ^ 52 ≤ significandOf bits := le_significandOf wide
    have width : (significandOf bits * 2 ^ placeOf bits).log2 = 52 + placeOf bits := by
      rw [Nat.log2_eq_iff (Nat.mul_ne_zero (by omega) (by positivity)), Nat.add_right_comm, pow_add, pow_add]
      exact ⟨Nat.mul_le_mul_right _ high, Nat.mul_lt_mul_of_pos_right low (by positivity)⟩
    rw [width, Nat.add_sub_cancel_left]

-- A double is the one nearest to what it means.
theorem nearestBits_ofBits (bits : Nat) : (ofBits bits).nearestBits = bits := by
  have exact : (ofBits bits).significand = significandOf bits := by
    rw [significand, place_ofBits, ofBits_eq]
    dsimp only
    rw [roundedQuotient_exact (Nat.two_pow_pos _) unit_pos]
  rw [nearestBits_eq, exact, place_ofBits, bits_split]

theorem toFloat_congr (positive : 0 < r.denominator) (positive' : 0 < s.denominator) (same : r.value = s.value) :
    r.toFloat = s.toFloat := by
  rw [toFloat, toFloat, nearestBits_congr positive positive' same]

end Ratio

namespace Decimal

variable {d e : Decimal}

def value (d : Decimal) : ℚ := d.coefficient * 10 ^ d.exponent

theorem toRatio_denominator (d : Decimal) : 0 < d.toRatio.denominator := by
  unfold toRatio
  split
  · exact Nat.pow_pos (by decide)
  · exact Nat.one_pos

theorem toRatio_value (d : Decimal) : d.toRatio.value = d.value := by
  obtain ⟨coefficient, exponent⟩ := d
  rw [toRatio, value, Ratio.value]
  dsimp only
  split
  · have negative : exponent = -(exponent.natAbs : ℤ) := by omega
    have power : (10 : ℚ) ^ exponent = (10 ^ exponent.natAbs)⁻¹ := by
      conv_lhs => rw [negative]
      rw [zpow_neg, zpow_natCast]
    rw [power, ← div_eq_mul_inv, Nat.pow_eq, Nat.cast_pow, Nat.cast_ofNat]
  · have natural : exponent = (exponent.natAbs : ℤ) := by omega
    have power : (10 : ℚ) ^ exponent = 10 ^ exponent.natAbs := by
      conv_lhs => rw [natural]
      rw [zpow_natCast]
    rw [power, Nat.pow_eq, Nat.cast_one, div_one, Nat.cast_mul, Nat.cast_pow, Nat.cast_ofNat]

theorem value_beyond (some : d.coefficient ≠ 0) (large : 400 < d.exponent) : (10 : ℚ) ^ 400 ≤ d.value := by
  have one : (1 : ℚ) ≤ d.coefficient := by exact_mod_cast Nat.one_le_iff_ne_zero.mpr some
  have power : (10 : ℚ) ^ ((400 : ℕ) : ℤ) ≤ 10 ^ d.exponent := zpow_le_zpow_right₀ (by norm_num) large.le
  calc (10 : ℚ) ^ 400 = 1 * 10 ^ ((400 : ℕ) : ℤ) := by rw [one_mul, zpow_natCast]
    _ ≤ d.value := mul_le_mul one power (by positivity) (by positivity)

theorem value_below (small : d.exponent < -(400 + d.coefficient.log2 : ℤ)) : d.value ≤ 1 / 10 ^ 400 := by
  have width : (d.coefficient : ℚ) ≤ 10 ^ (d.coefficient.log2 + 1 : ℤ) := by
    have : d.coefficient ≤ 10 ^ (d.coefficient.log2 + 1) :=
      Nat.lt_log2_self.le.trans (Nat.pow_le_pow_left (by decide) _)
    exact_mod_cast this
  have power : (10 : ℚ) ^ d.exponent ≤ 10 ^ (-(401 + d.coefficient.log2) : ℤ) :=
    zpow_le_zpow_right₀ (by norm_num) (by omega)
  calc d.value ≤ 10 ^ (d.coefficient.log2 + 1 : ℤ) * 10 ^ (-(401 + d.coefficient.log2) : ℤ) :=
        mul_le_mul width power (by positivity) (by positivity)
    _ = 10 ^ (-((400 : ℕ) : ℤ)) := by
      rw [← zpow_add₀ (by norm_num)]
      congr 1
      omega
    _ = 1 / 10 ^ 400 := by rw [zpow_neg, zpow_natCast, one_div]

-- The limits on the exponent leave nothing out but what is zero or infinite anyway.
theorem toFloat_eq (d : Decimal) : d.toFloat = d.toRatio.toFloat := by
  have positive := toRatio_denominator d
  rw [toFloat]
  split
  · rename_i none
    have same : d.toRatio.nearestBits = Ratio.nearestBits ⟨0, 1⟩ := by
      refine Ratio.nearestBits_congr positive Nat.one_pos ?_
      rw [toRatio_value, value, none, Ratio.value, Nat.cast_zero, zero_mul, zero_div]
    rw [Ratio.toFloat, same]
    decide +kernel
  · rename_i some
    split
    · rename_i large
      have beyond : Ratio.nearestBits ⟨10 ^ 400, 1⟩ ≤ d.toRatio.nearestBits := by
        refine Ratio.nearestBits_mono Nat.one_pos positive ?_
        rw [toRatio_value, Ratio.value, Nat.cast_one, div_one, Nat.cast_pow, Nat.cast_ofNat]
        exact value_beyond some large
      have infinite : Ratio.infinityBits ≤ Ratio.nearestBits ⟨10 ^ 400, 1⟩ := by decide +kernel
      rw [Ratio.toFloat, Nat.min_eq_right (infinite.trans beyond)]
    · split
      · rename_i small
        have below : d.toRatio.nearestBits ≤ Ratio.nearestBits ⟨1, 10 ^ 400⟩ := by
          refine Ratio.nearestBits_mono positive (by positivity) ?_
          rw [toRatio_value, Ratio.value, Nat.cast_one, Nat.cast_pow, Nat.cast_ofNat]
          exact value_below small
        have none : Ratio.nearestBits ⟨1, 10 ^ 400⟩ = 0 := by decide +kernel
        rw [Ratio.toFloat, Nat.eq_zero_of_le_zero (below.trans none.le)]
        decide +kernel
      · rfl

theorem toFloat_congr (same : d.value = e.value) : d.toFloat = e.toFloat := by
  rw [toFloat_eq, toFloat_eq]
  refine Ratio.toFloat_congr (toRatio_denominator d) (toRatio_denominator e) ?_
  rw [toRatio_value, toRatio_value, same]

theorem stripZeros_value (fuel : Nat) (d : Decimal) : (stripZeros fuel d).value = d.value := by
  induction fuel generalizing d with
  | zero => rfl
  | succ fuel ih =>
    rw [stripZeros]
    split
    · rename_i whole
      have tens : (d.coefficient : ℚ) = (d.coefficient / 10 : ℕ) * 10 := by
        exact_mod_cast (Nat.div_mul_cancel (Nat.dvd_of_mod_eq_zero whole.2)).symm
      rw [ih, value, value, tens, zpow_add_one₀ (by norm_num)]
      ring
    · rfl

end Decimal
end Dataflow
