import Dataflow.Proofs.Value.Bits
import Dataflow.Value.Display

namespace Dataflow
namespace Decimal
open Text (digitsValue)

variable {x : Float} {d : Decimal} {tie : Tie}

-- A unit of the last place of a double is a unit in the decimal places of this many digits.
theorem value_fives {unit places : Nat} (binary : unit = Nat.pow 2 places) (numerator : Nat) :
    value ⟨numerator * Nat.pow 5 places, -(places : Int)⟩ = Ratio.value ⟨numerator, unit⟩ := by
  rw [value, Ratio.value, zpow_neg, zpow_natCast, show (10 : ℚ) = 2 * 5 by norm_num, mul_pow]
  dsimp only
  rw [binary, Nat.pow_eq, Nat.pow_eq, Nat.cast_mul, Nat.cast_pow, Nat.cast_pow]
  field_simp
  ring

theorem value_exact (numerator : Nat) : (exact ⟨numerator, Ratio.unit⟩).value = Ratio.value ⟨numerator, Ratio.unit⟩ :=
  @value_fives Ratio.unit 1074 (by decide +kernel) numerator

theorem exact_reads (finite : bitsOf x < Ratio.infinityBits) : (exact (Ratio.ofBits (bitsOf x))).toFloat = x := by
  have nearest : (Ratio.ofBits (bitsOf x)).toFloat = x := toFloat_eq_of_bits (Ratio.nearestBits_ofBits _) finite
  have same : (exact (Ratio.ofBits (bitsOf x))).value = (Ratio.ofBits (bitsOf x)).value := by
    rw [Ratio.ofBits_eq, value_exact]
  have positive : 0 < (Ratio.ofBits (bitsOf x)).denominator := by
    rw [Ratio.ofBits_denominator]
    exact Ratio.unit_pos
  rw [toFloat_eq]
  exact (Ratio.toFloat_congr (toRatio_denominator _) positive ((toRatio_value _).trans same)).trans nearest

-- Whether the search finds a decimal or all digits are taken, the double comes back.
theorem shortest_reads (tie : Tie) (finite : bitsOf x < Ratio.infinityBits) : (shortest tie x).toFloat = x := by
  unfold shortest
  extract_lets r found
  rw [toFloat_congr (stripZeros_value _ found)]
  unfold found
  cases searched : search tie x r 1 17 with
  | none => exact exact_reads finite
  | some d => exact search_reads searched

theorem digitsValue_eq (cs : List Char) : digitsValue cs = Nat.ofDigitChars 10 cs 0 := by
  rw [digitsValue, Nat.ofDigitChars_eq_foldl]
  simp only [Nat.mul_comm]

theorem digitsValue_digits (d : Decimal) : digitsValue d.digits = d.coefficient := by
  rw [digitsValue_eq, digits, Nat.ofDigitChars_ten_toDigits]

theorem digits_isDigit (d : Decimal) : ∀ c ∈ d.digits, c.isDigit :=
  fun _ member => Nat.isDigit_of_mem_toDigits (by decide) (by decide) member

theorem coefficient_lt (d : Decimal) : d.coefficient < 10 ^ d.digits.length :=
  (Nat.length_toDigits_le_iff (by decide) Nat.length_toDigits_pos).mp le_rfl

theorem le_coefficient (some : d.coefficient ≠ 0) : 10 ^ (d.digits.length - 1) ≤ d.coefficient := by
  by_contra short
  have fewer : d.digits.length - 1 ≠ 0 := by
    intro one
    rw [one] at short
    omega
  have := (Nat.length_toDigits_le_iff (b := 10) (by decide) (Nat.pos_of_ne_zero fewer)).mpr (not_le.mp short)
  unfold digits at *
  omega

inductive Written : List Char → Decimal → Prop where
  | integer {whole : List Char} (some : whole ≠ []) (digits : ∀ c ∈ whole, c.isDigit) :
      Written whole ⟨digitsValue whole, 0⟩
  | fraction {whole point : List Char} (some : whole ≠ []) (digits : ∀ c ∈ whole, c.isDigit) (somePoint : point ≠ [])
      (pointDigits : ∀ c ∈ point, c.isDigit) :
      Written (whole ++ '.' :: point) ⟨digitsValue (whole ++ point), -(point.length : Int)⟩

variable {layout : Layout} {digits : List Char} {point : Int}

theorem positional_small (small : point ≤ 0) :
    (positional layout digits point).toList = ['0'] ++ '.' :: (List.replicate point.natAbs '0' ++ digits) := by
  rw [positional, if_pos small, String.toList_ofList]
  rfl

theorem positional_inner (some : ¬point ≤ 0) (inner : point.natAbs < digits.length) :
    (positional layout digits point).toList = digits.take point.natAbs ++ '.' :: digits.drop point.natAbs := by
  rw [positional, if_neg some, if_pos inner, String.toList_ofList]

theorem positional_whole (some : ¬point ≤ 0) (outer : ¬point.natAbs < digits.length) :
    (positional layout digits point).toList =
      digits ++ List.replicate (point.natAbs - digits.length) '0' ++ layout.wholeMark.toList := by
  rw [positional, if_neg some, if_neg outer, String.toList_append, String.toList_ofList]
  rfl

theorem isDigit_zeros (n : Nat) : ∀ c ∈ List.replicate n '0', c.isDigit := by
  intro c member
  rw [List.eq_of_mem_replicate member]
  decide

theorem value_of_parts {coefficient : Nat} {exponent : Int} (digits : coefficient = d.coefficient)
    (place : exponent = d.exponent) : value ⟨coefficient, exponent⟩ = d.value := by
  rw [value, value, digits, place]

theorem value_padded (d : Decimal) (k : Nat) {coefficient : Nat} {exponent : Int}
    (padded : coefficient = digitsValue (d.digits ++ List.replicate k '0')) (place : exponent = d.exponent - k) :
    value ⟨coefficient, exponent⟩ = d.value := by
  rw [value, value, padded, place, digitsValue_eq, Nat.ofDigitChars_append, Nat.ofDigitChars_replicate_zero, ← digitsValue_eq,
    digitsValue_digits, zpow_sub₀ (by norm_num), zpow_natCast]
  push_cast
  field_simp

-- The point is written where the exponent says, so that the same digits say the same number.
theorem positional_written (mark : layout.wholeMark = "" ∨ layout.wholeMark = ".0") (d : Decimal) :
    ∃ e, Written (positional layout d.digits (d.exponent + d.digits.length)).toList e ∧ e.value = d.value := by
  have digits := digits_isDigit d
  have some : d.digits ≠ [] := Nat.toDigits_ne_nil
  have positive : 0 < d.digits.length := Nat.length_toDigits_pos
  have spelled := digitsValue_digits d
  by_cases small : d.exponent + d.digits.length ≤ 0
  · rw [positional_small small]
    refine ⟨_, .fraction (by simp) (isDigit_zeros 1) (by simp [some]) ?_, value_of_parts ?_ ?_⟩
    · intro c member
      exact (List.mem_append.mp member).elim (isDigit_zeros _ c) (digits c)
    · rw [← List.append_assoc, ← spelled, digitsValue_eq, digitsValue_eq, Nat.ofDigitChars_append]
      congr 1
      simp [Nat.ofDigitChars_cons]
    · rw [List.length_append, List.length_replicate]
      omega
  by_cases inner : (d.exponent + d.digits.length).natAbs < d.digits.length
  · rw [positional_inner small inner]
    refine ⟨_, .fraction ?_ (fun c member => digits c (List.mem_of_mem_take member)) ?_
      (fun c member => digits c (List.mem_of_mem_drop member)), value_of_parts ?_ ?_⟩
    · rw [← List.length_pos_iff, List.length_take]
      omega
    · rw [← List.length_pos_iff, List.length_drop]
      omega
    · rw [List.take_append_drop, spelled]
    · rw [List.length_drop]
      omega
  · have whole : ∀ c ∈ d.digits ++ List.replicate ((d.exponent + d.digits.length).natAbs - d.digits.length) '0', c.isDigit :=
      fun c member => (List.mem_append.mp member).elim (digits c) (isDigit_zeros _ c)
    rw [positional_whole small inner]
    rcases mark with unmarked | marked
    · rw [unmarked, String.toList_empty, List.append_nil]
      exact ⟨_, .integer (by simp [some]) whole, value_padded d _ rfl (by omega)⟩
    · rw [marked, show ".0".toList = '.' :: ['0'] from rfl]
      refine ⟨_, .fraction (by simp [some]) whole (by simp) (isDigit_zeros 1),
        value_padded d ((d.exponent + d.digits.length).natAbs - d.digits.length + 1) ?_ ?_⟩
      · rw [List.append_assoc, List.replicate_succ']
      · rw [List.length_singleton]
        omega

theorem bitsOf_mono {e : Decimal} (le : d.value ≤ e.value) : bitsOf d.toFloat ≤ bitsOf e.toFloat := by
  rw [toFloat_eq, toFloat_eq, bitsOf_toFloat, bitsOf_toFloat]
  rw [← toRatio_value, ← toRatio_value] at le
  exact min_le_min_right _ (Ratio.nearestBits_mono (toRatio_denominator d) (toRatio_denominator e) le)

theorem value_lt (d : Decimal) : d.value < 10 ^ (d.exponent + d.digits.length) := by
  have digits : (d.coefficient : ℚ) < 10 ^ d.digits.length := by exact_mod_cast coefficient_lt d
  rw [zpow_add₀ (by norm_num), zpow_natCast, mul_comm, value]
  exact mul_lt_mul_of_pos_right digits (by positivity)

theorem le_value (some : d.coefficient ≠ 0) : 10 ^ (d.exponent + d.digits.length - 1) ≤ d.value := by
  have positive : 0 < d.digits.length := Nat.length_toDigits_pos
  have digits : (10 : ℚ) ^ (d.digits.length - 1) ≤ d.coefficient := by exact_mod_cast le_coefficient some
  have place : d.exponent + d.digits.length - 1 = d.exponent + (d.digits.length - 1 : ℕ) := by omega
  rw [place, zpow_add₀ (by norm_num), zpow_natCast, mul_comm, value]
  exact mul_le_mul_of_nonneg_right digits (by positivity)

-- The shortest decimal of a number between the bounds lies between them as well. Below the lower bound there are
-- decimals that mean the same double, but none of them is shorter.
theorem shortest_range (clear : isNegative x = false) (low : 1e-4 ≤ x) (high : x < 1e16) :
    -4 ≤ (shortest .up x).exponent + (shortest .up x).digits.length - 1 ∧
      (shortest .up x).exponent + (shortest .up x).digits.length - 1 < 16 := by
  have least : bitsOf 1e-4 ≤ bitsOf x := bits_le (by decide +kernel) clear low
  have less : bitsOf x < bitsOf 1e16 := bits_lt clear (by decide +kernel) high
  have reads : (shortest .up x).toFloat = x := shortest_reads .up (less.trans (by decide +kernel))
  have some : (shortest .up x).coefficient ≠ 0 := by
    intro none
    rw [toFloat, if_pos none] at reads
    rw [← reads] at least
    exact absurd least (by decide +kernel)
  constructor
  · by_contra small
    have below : (shortest .up x).value ≤ value ⟨1, -4⟩ :=
      calc (shortest .up x).value ≤ 10 ^ ((shortest .up x).exponent + (shortest .up x).digits.length) := (value_lt _).le
        _ ≤ 10 ^ (-4 : ℤ) := zpow_le_zpow_right₀ (by norm_num) (by omega)
        _ = value ⟨1, -4⟩ := by rw [value, Nat.cast_one, one_mul]
    have bottom := bitsOf_mono below
    rw [reads, show toFloat ⟨1, -4⟩ = 1e-4 by decide +kernel] at bottom
    have bound : x = 1e-4 := bitsOf_injective (le_antisymm bottom least)
    rw [bound, show shortest .up 1e-4 = ⟨1, -4⟩ by decide +kernel] at small
    exact small (by decide)
  · by_contra large
    have above : value ⟨1, 16⟩ ≤ (shortest .up x).value :=
      calc value ⟨1, 16⟩ = 10 ^ (16 : ℤ) := by rw [value, Nat.cast_one, one_mul]
        _ ≤ 10 ^ ((shortest .up x).exponent + (shortest .up x).digits.length - 1) :=
          zpow_le_zpow_right₀ (by norm_num) (not_lt.mp large)
        _ ≤ (shortest .up x).value := le_value some
    have top := bitsOf_mono above
    rw [reads, show toFloat ⟨1, 16⟩ = 1e16 by decide +kernel] at top
    exact absurd less top.not_gt

end Decimal

namespace Value
open Decimal (isNegative Written shortest)

variable {x : Float}

theorem numberLiteral_positional (clear : isNegative x = false) (low : 1e-4 ≤ x) (high : x < 1e16) :
    numberLiteral x = Decimal.positional numberLayout (shortest .up x).digits
      ((shortest .up x).exponent + (shortest .up x).digits.length) := by
  have least : bitsOf 1e-4 ≤ bitsOf x := bits_le (by decide +kernel) clear low
  have finite : bitsOf x < Ratio.infinityBits := (bits_lt clear (by decide +kernel) high).trans (by decide +kernel)
  obtain ⟨proper, number, bounded, positive⟩ := number_status clear finite
  have some : ¬(x == 0.0) := by
    intro zero
    rw [beq_zero clear zero] at least
    exact absurd least (by decide +kernel)
  have range := Decimal.shortest_range clear low high
  simp only [numberLiteral, proper, if_true, numberText, Decimal.Layout.write, number, bounded, some, clear, positive,
    Bool.false_eq_true, if_false, String.empty_append, Decimal.Layout.magnitude]
  refine (if_pos range).trans ?_
  rw [Int.sub_add_cancel]
  rfl

-- The literal of a number between the bounds says the number.
theorem numberLiteral_written (clear : isNegative x = false) (range : x == 0.0 ∨ 1e-4 ≤ x ∧ x < 1e16) :
    ∃ d, Written (numberLiteral x).toList d ∧ d.toFloat = x := by
  rcases range with zero | ⟨low, high⟩
  · have digit : numberLiteral 0.0 = "0" := by decide +kernel
    rw [beq_zero clear zero, digit]
    exact ⟨_, .integer (by simp) (Decimal.isDigit_zeros 1), by decide +kernel⟩
  · rw [numberLiteral_positional clear low high]
    obtain ⟨d, written, same⟩ := @Decimal.positional_written numberLayout (.inl rfl) (shortest .up x)
    have finite : bitsOf x < Ratio.infinityBits := (bits_lt clear (by decide +kernel) high).trans (by decide +kernel)
    exact ⟨d, written, (Decimal.toFloat_congr same).trans (Decimal.shortest_reads .up finite)⟩

end Value
end Dataflow
