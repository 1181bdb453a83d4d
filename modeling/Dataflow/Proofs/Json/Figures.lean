import Dataflow.Json.Writer
import Dataflow.Proofs.Decimal.Written
import Dataflow.Proofs.Json.Number

namespace Dataflow.Json
open Text (digitsValue natural?)

variable {cs : List Char} {d : Decimal} {n : Int} {x : Float}

-- The texts of integers.

theorem toDigits_head {n : Nat} (positive : n ≠ 0) : (Nat.toDigits 10 n).head? ≠ some '0' := by
  induction n using Nat.strongRecOn with
  | _ n ih =>
    by_cases single : n < 10
    · rw [Nat.toDigits_of_lt_base single]
      interval_cases n <;> first | contradiction | decide
    · rw [Nat.toDigits_of_base_le (by decide) (not_lt.mp single), List.head?_append_of_ne_nil _ Nat.toDigits_ne_nil]
      exact ih (n / 10) (by omega) (by omega)

theorem isDigits_toDigits (n : Nat) : Digits (Nat.toDigits 10 n) :=
  ⟨Nat.toDigits_ne_nil, fun _ member => Nat.isDigit_of_mem_toDigits (by decide) (by decide) member⟩

theorem wholePart_toDigits (n : Nat) : WholePart (Nat.toDigits 10 n) := by
  by_cases zero : n = 0
  · rw [zero]
    exact .zero
  · exact .digits (isDigits_toDigits n) (toDigits_head zero)

theorem natural?_toDigits (n : Nat) : natural? (Nat.toDigits 10 n) = some n := by
  rw [natural?_digits (isDigits_toDigits n), Decimal.digitsValue_eq, Nat.ofDigitChars_ten_toDigits]

theorem unsigned_toDigits (n : Nat) : Unsigned (Nat.toDigits 10 n) := by
  simpa using Unsigned.intro (wholePart_toDigits n) .none .none

theorem numeral_integer (n : Int) : Numeral (integerText n) := by
  rw [integerText]
  split
  · exact .minus (unsigned_toDigits _)
  · exact .clear (unsigned_toDigits _)

theorem number?_integer (least : Text.leastWord ≤ n) (bounded : n < Text.wordCount) :
    number? (integerText n) = some (.integer n) := by
  rw [integerText]
  split
  · rename_i negative
    have some : 0 < n.natAbs := by omega
    have range : n.natAbs ≤ Text.leastWord.natAbs := by
      unfold Text.leastWord at *
      omega
    simp only [number?, unsignedNumber?, natural?_toDigits]
    simp [some, range, abs_of_neg negative]
  · rename_i positive
    have range : n.natAbs < Text.wordCount := by omega
    simp only [number?_clear (unsigned_toDigits _), unsignedNumber?, natural?_toDigits]
    simp [range, abs_of_nonneg (not_lt.mp positive)]

-- The texts of doubles.

theorem magnitude_coefficient (finite : bitsOf x < Ratio.infinityBits) (some : x ≠ 0.0) :
    (Decimal.shortest .even x).coefficient ≠ 0 := by
  intro none
  have reads := Decimal.shortest_reads .even finite
  rw [Decimal.toFloat, if_pos none] at reads
  exact some reads.symm

-- Whichever digit comes first is no zero, unless the point follows.
def Unpadded (cs : List Char) : Prop := ∀ c rest, cs = '0' :: c :: rest → ¬c.isDigit

theorem WholePart.ofUnpadded (digits : Digits cs) (unpadded : Unpadded cs) : WholePart cs := by
  obtain ⟨c, rest, rfl⟩ := List.exists_cons_of_ne_nil digits.some
  by_cases zero : c = '0'
  · cases rest with
    | nil =>
      rw [zero]
      exact .zero
    | cons second rest =>
      exact absurd (digits.digits second (by simp)) (unpadded second rest (by rw [zero]))
  · exact .digits digits fun same => zero (Option.some.inj same)

theorem Unsigned.ofWritten (written : Decimal.Written cs d) (unpadded : Unpadded cs) : Unsigned cs := by
  cases written with
  | integer some digits => simpa using Unsigned.intro (.ofUnpadded ⟨some, digits⟩ unpadded) .none .none
  | @fraction whole point some digits somePoint pointDigits =>
    have first : WholePart whole := .ofUnpadded ⟨some, digits⟩ fun c rest padded => unpadded c (rest ++ '.' :: point) (by
      rw [padded]
      rfl)
    simpa using Unsigned.intro first (.some ⟨somePoint, pointDigits⟩) .none

theorem positional_unpadded (digits : List Char) (point : Int) (some : digits ≠ []) (head : digits.head? ≠ Option.some '0') :
    Unpadded (Decimal.positional floatLayout digits point).toList := by
  have unpadded {cs : List Char} (front : cs.head? ≠ Option.some '0') : Unpadded cs := by
    rintro c rest rfl
    exact absurd rfl front
  by_cases small : point ≤ 0
  · rw [Decimal.positional_small small]
    intro c rest same
    injection same with _ same
    injection same with point _
    rw [← point]
    decide
  by_cases inner : point.natAbs < digits.length
  · rw [Decimal.positional_inner small inner]
    have taken : digits.take point.natAbs ≠ [] := by
      rw [← List.length_pos_iff, List.length_take]
      omega
    apply unpadded
    rw [List.head?_append_of_ne_nil _ taken, List.head?_take, if_neg (by omega)]
    exact head
  · rw [Decimal.positional_whole small inner]
    apply unpadded
    rw [List.append_assoc, List.head?_append_of_ne_nil _ some]
    exact head

theorem positional_unsigned (some : d.coefficient ≠ 0) :
    Unsigned (Decimal.positional floatLayout d.digits (d.exponent + d.digits.length)).toList := by
  obtain ⟨_, written, _⟩ := @Decimal.positional_written floatLayout (.inr rfl) d
  exact .ofWritten written (positional_unpadded d.digits _ Nat.toDigits_ne_nil (toDigits_head some))

theorem exponential_chars (digits : List Char) (power : Int) :
    (Decimal.exponential floatLayout digits power).toList = (match digits with
      | [] | [_] => digits
      | first :: rest => first :: '.' :: rest) ++
        'e' :: (if power < 0 then '-' else '+') :: Nat.toDigits 10 power.natAbs := by
  have width : floatLayout.exponentWidth - (Nat.toDigits 10 power.natAbs).length = 0 :=
    Nat.sub_eq_zero_of_le Nat.length_toDigits_pos
  unfold Decimal.exponential
  simp only [String.toList_append, String.toList_ofList, width]
  by_cases negative : power < 0
  · simp only [negative, if_true, List.append_assoc]
    rfl
  · simp only [negative, if_false, List.append_assoc]
    rfl

theorem exponentPart_power (power : Int) :
    ExponentPart ('e' :: (if power < 0 then '-' else '+') :: Nat.toDigits 10 power.natAbs) := by
  split
  · exact .minus (isDigits_toDigits power.natAbs)
  · exact .plus (isDigits_toDigits power.natAbs)

theorem exponential_unsigned (some : d.coefficient ≠ 0) (power : Int) :
    Unsigned (Decimal.exponential floatLayout d.digits power).toList := by
  have digits := Decimal.digits_isDigit d
  have head : d.digits.head? ≠ Option.some '0' := toDigits_head some
  have third := exponentPart_power power
  have spelled : d.digits ≠ [] := Nat.toDigits_ne_nil
  rw [exponential_chars]
  generalize d.digits = written at *
  match written with
  | [] => exact absurd rfl spelled
  | [first] => simpa using Unsigned.intro (.digits ⟨spelled, digits⟩ head) .none third
  | first :: second :: rest =>
    have leading : WholePart [first] := .digits ⟨by simp, fun c member => digits c (by simp_all)⟩ head
    exact .intro leading (.some ⟨by simp, fun c member => digits c (List.mem_cons_of_mem _ member)⟩) third

theorem magnitude_unsigned (finite : bitsOf x < Ratio.infinityBits) (some : x ≠ 0.0) :
    Unsigned (floatLayout.magnitude x).toList := by
  have digit := magnitude_coefficient finite some
  unfold Decimal.Layout.magnitude
  extract_lets d power
  have place : power + 1 = d.exponent + d.digits.length := by omega
  split
  · rw [place]
    exact positional_unsigned digit
  · exact exponential_unsigned digit power

-- A finite double is written as a sign, if it has one, and a number without a sign.
theorem numeral_float (finite : x.isFinite = true) : Numeral (floatText x).toList := by
  obtain ⟨number, bounded⟩ := finite_number finite
  have signed {cs : List Char} (magnitude : Unsigned cs) :
      Numeral ((if Decimal.isNegative x then "-" else "").toList ++ cs) := by
    split
    · exact .minus magnitude
    · exact .clear magnitude
  simp only [floatText, finite, if_true, Decimal.Layout.write, number, bounded, Bool.false_eq_true, if_false]
  by_cases zero : x == 0.0
  · simp only [zero, if_true, floatLayout, Bool.and_true, String.toList_append]
    exact signed (.intro .zero (.some WholePart.zero.isDigits) .none)
  · simp only [zero, Bool.false_eq_true, if_false, String.toList_append]
    exact signed (magnitude_unsigned (abs_bits_lt finite) (mt (abs_zero_iff finite).mp zero))

-- The text of the double is read as this very double.
def ReadsBack (x : Float) : Prop := number? (floatText x).toList = some (.float x)

instance : DecidablePred ReadsBack := fun x =>
  match read : number? (floatText x).toList with
  | some (.float y) => decidable_of_iff (y = x) (by simp [ReadsBack, read])
  | none => isFalse (by simp [ReadsBack, read])
  | some .null | some (.bool _) | some (.integer _) | some (.string _) | some (.array _) | some (.object _) =>
    isFalse (by simp [ReadsBack, read])

theorem ReadsBack.finite (exact : ReadsBack x) : x.isFinite = true := number?_isNumber exact

-- The first of these is read as the second, whose text is not read as any third.
example : ¬ReadsBack 31.245270191439438 ∧ ReadsBack 31.24527019143944 := by decide +kernel

end Dataflow.Json
