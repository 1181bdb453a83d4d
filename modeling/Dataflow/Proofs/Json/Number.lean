import Dataflow.Json.Meaning
import Dataflow.Proofs.Value.Sign

namespace Dataflow.Json
open Decimal (isExponentMark)
open Text (digitsValue natural?)

variable {cs whole fraction exponent rest : List Char} {x : Float}

-- At least one digit.
structure Digits (cs : List Char) : Prop where
  some : cs ≠ []
  digits : ∀ c ∈ cs, c.isDigit

-- A zero stands in front of no other digit.
inductive WholePart : List Char → Prop where
  | zero : WholePart ['0']
  | digits {cs : List Char} (digits : Digits cs) (unpadded : cs.head? ≠ some '0') : WholePart cs

inductive FractionPart : List Char → Prop where
  | none : FractionPart []
  | some {point : List Char} (digits : Digits point) : FractionPart ('.' :: point)

inductive ExponentPart : List Char → Prop where
  | none : ExponentPart []
  | plus {cs : List Char} (digits : Digits cs) : ExponentPart ('e' :: '+' :: cs)
  | minus {cs : List Char} (digits : Digits cs) : ExponentPart ('e' :: '-' :: cs)

-- A number without a sign.
inductive Unsigned : List Char → Prop where
  | intro {whole fraction exponent : List Char} (first : WholePart whole) (second : FractionPart fraction)
      (third : ExponentPart exponent) : Unsigned (whole ++ fraction ++ exponent)

-- What follows a value does not go on with a number.
def Closed (rest : List Char) : Prop := ∀ c ∈ rest.head?, ¬c.isDigit ∧ c ≠ '.' ∧ isExponentMark c = false

theorem WholePart.isDigits (part : WholePart whole) : Digits whole := by
  cases part with
  | zero => exact ⟨by simp, by simp [Char.isDigit]⟩
  | digits digits _ => exact digits

-- Reading the parts.

theorem takeWhile_stops {p : Char → Bool} (kept : ∀ c ∈ cs, p c) (stop : ∀ c ∈ rest.head?, p c = false) :
    (cs ++ rest).takeWhile p = cs ∧ (cs ++ rest).dropWhile p = rest := by
  rw [List.takeWhile_append_of_pos kept, List.dropWhile_append_of_pos kept]
  cases rest with
  | nil => simp
  | cons c rest =>
    have other := stop c rfl
    simp [other]

theorem someDigits?_append (digits : Digits cs) (stop : ∀ c ∈ rest.head?, ¬c.isDigit) :
    Raw.someDigits? (cs ++ rest) = some (cs, rest) := by
  have taken := takeWhile_stops digits.digits fun c member => Bool.eq_false_iff.mpr (stop c member)
  rw [Raw.someDigits?, List.span_eq_takeWhile_dropWhile, taken.1, taken.2]
  obtain ⟨c, cs, rfl⟩ := List.exists_cons_of_ne_nil digits.some
  rfl

theorem wholePart?_append (part : WholePart whole) (stop : ∀ c ∈ rest.head?, ¬c.isDigit) :
    Raw.wholePart? (whole ++ rest) = some (whole, rest) := by
  cases part with
  | zero => rfl
  | digits digits unpadded =>
    obtain ⟨c, cs, rfl⟩ := List.exists_cons_of_ne_nil digits.some
    have other : c ≠ '0' := fun zero => unpadded (congrArg some zero)
    rw [List.cons_append, Raw.wholePart?]
    · exact someDigits?_append digits stop
    · intro after same
      exact other (List.cons.inj same).1

theorem fractionPart?_append (part : FractionPart fraction) (stop : ∀ c ∈ rest.head?, ¬c.isDigit ∧ c ≠ '.') :
    Raw.fractionPart? (fraction ++ rest) = some (fraction, rest) := by
  cases part with
  | none =>
    rw [List.nil_append, Raw.fractionPart?]
    intro after same
    exact (stop '.' (by rw [same]; rfl)).2 rfl
  | some digits =>
    rw [List.cons_append, Raw.fractionPart?, someDigits?_append digits fun c member => (stop c member).1]
    rfl

theorem exponentPart?_append (part : ExponentPart exponent) (closed : Closed rest) :
    Raw.exponentPart? (exponent ++ rest) = some (exponent, rest) := by
  have stop : ∀ c ∈ rest.head?, ¬c.isDigit := fun c member => (closed c member).1
  cases part with
  | none =>
    cases rest with
    | nil => rfl
    | cons c rest =>
      have other : (c == 'e' || c == 'E') = false := (closed c rfl).2.2
      simp [Raw.exponentPart?, other]
  | plus digits => simp [Raw.exponentPart?, someDigits?_append digits stop]
  | minus digits => simp [Raw.exponentPart?, someDigits?_append digits stop]

theorem ExponentPart.head (part : ExponentPart exponent) (closed : Closed rest) :
    ∀ c ∈ (exponent ++ rest).head?, ¬c.isDigit ∧ c ≠ '.' := by
  intro c member
  cases part with
  | none => exact ⟨(closed c member).1, (closed c member).2.1⟩
  | plus | minus =>
    cases member
    decide

theorem FractionPart.head (part : FractionPart fraction) (stop : ∀ c ∈ rest.head?, ¬c.isDigit ∧ c ≠ '.') :
    ∀ c ∈ (fraction ++ rest).head?, ¬c.isDigit := by
  intro c member
  cases part with
  | none => exact (stop c member).1
  | some =>
    cases member
    decide

theorem unsigned?_append (number : Unsigned cs) (closed : Closed rest) :
    Raw.unsigned? (cs ++ rest) = some (cs, rest) := by
  obtain ⟨first, second, third⟩ := number
  have stop := third.head closed
  rw [Raw.unsigned?, List.append_assoc, List.append_assoc, wholePart?_append first (second.head stop)]
  simp [fractionPart?_append second stop, exponentPart?_append third closed]

theorem natural?_digits (digits : Digits cs) : natural? cs = some (digitsValue cs) := by
  rw [natural?, if_neg]
  simpa [digits.some] using digits.digits

-- Signs.

inductive Numeral : List Char → Prop where
  | clear {cs : List Char} (number : Unsigned cs) : Numeral cs
  | minus {cs : List Char} (number : Unsigned cs) : Numeral ('-' :: cs)

theorem Unsigned.starts (number : Unsigned cs) : ∃ c rest, cs = c :: rest ∧ c.isDigit := by
  obtain ⟨first, second, third⟩ := number
  obtain ⟨c, rest, rfl⟩ := List.exists_cons_of_ne_nil first.isDigits.some
  exact ⟨c, _, rfl, first.isDigits.digits c List.mem_cons_self⟩

theorem Unsigned.not_minus (number : Unsigned cs) (rest after : List Char) : cs ++ rest ≠ '-' :: after := by
  obtain ⟨c, digits, rfl, digit⟩ := number.starts
  intro same
  rw [(List.cons.inj same).1] at digit
  cases digit

theorem number?_append (number : Numeral cs) (closed : Closed rest) : Raw.number? (cs ++ rest) = some (cs, rest) := by
  cases number with
  | clear number =>
    rw [Raw.number?]
    · exact unsigned?_append number closed
    · exact number.not_minus rest
  | minus number => simp [Raw.number?, unsigned?_append number closed]

theorem number?_clear (number : Unsigned cs) : number? cs = unsignedNumber? false cs := by
  rw [number?]
  intro after same
  exact number.not_minus [] after ((List.append_nil cs).trans same)

-- What is read is an integer of a word or a finite double.

def IsNumber : Json → Prop
  | .integer n => Text.leastWord ≤ n ∧ n < Text.wordCount
  | .float x => x.isFinite = true
  | _ => False

theorem finite?_isNumber {negative : Bool} {json : Json} (read : finite? negative cs = some json) : IsNumber json := by
  obtain ⟨x, _, found⟩ := Option.bind_eq_some_iff.mp read
  by_cases finite : x.isFinite = true
  · rw [if_pos finite, Option.some.injEq] at found
    rw [← found, IsNumber]
    split
    · exact isFinite_neg finite
    · exact finite
  · rw [if_neg finite] at found
    exact absurd found (Option.some_ne_none json).symm

theorem unsignedNumber?_isNumber {negative : Bool} {json : Json} (read : unsignedNumber? negative cs = some json) :
    IsNumber json := by
  unfold unsignedNumber? at read
  split at read
  · exact finite?_isNumber read
  · split at read
    · rename_i n _ fits
      simp only [Bool.and_eq_true, decide_eq_true_eq] at fits
      cases read
      refine ⟨?_, by exact_mod_cast fits.2⟩
      exact (by decide : Text.leastWord ≤ 0).trans (Int.natCast_nonneg n)
    · split at read
      · rename_i n _ _ fits
        simp only [Bool.and_eq_true, decide_eq_true_eq] at fits
        cases read
        unfold IsNumber Text.leastWord Text.wordCount at *
        omega
      · exact finite?_isNumber read

theorem number?_isNumber {json : Json} (read : number? cs = some json) : IsNumber json := by
  unfold number? at read
  split at read <;> exact unsignedNumber?_isNumber read

end Dataflow.Json
