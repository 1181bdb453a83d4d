import Dataflow.Proofs.Formula.Lexing
import Dataflow.Proofs.Json.Figures

namespace Dataflow.Text

variable {cs : List Char} {n : Int}

theorem trimChars_plain (plain : ∀ c ∈ cs, isBlank c = false) : trimChars cs = cs := by
  have kept {cs : List Char} (plain : ∀ c ∈ cs, isBlank c = false) : cs.dropWhile isBlank = cs := by
    cases cs with
    | nil => rfl
    | cons c cs => exact List.dropWhile_cons_of_neg (by simp [plain c])
  rw [trimChars, kept plain, kept fun c member => plain c (List.mem_reverse.mp member), List.reverse_reverse]

theorem integerChars?_digits (digits : Json.Digits cs) : integerChars? cs = (natural? cs).map fun n => (n : Int) := by
  unfold integerChars?
  split
  · exact absurd (digits.digits '-' List.mem_cons_self) (by decide)
  · exact absurd (digits.digits '+' List.mem_cons_self) (by decide)
  · rfl

theorem integerChars?_repr (n : Int) : integerChars? n.repr.toList = some n := by
  cases n with
  | ofNat n =>
    change integerChars? n.repr.toList = _
    rw [Nat.toList_repr, integerChars?_digits (Json.isDigits_toDigits n), Json.natural?_toDigits]
    rfl
  | negSucc n =>
    change integerChars? ("-" ++ (n + 1).repr).toList = _
    rw [String.toList_append, Nat.toList_repr, show "-".toList = ['-'] from rfl, List.singleton_append, integerChars?,
      Json.natural?_toDigits]
    rfl

theorem mem_repr {c : Char} (member : c ∈ n.repr.toList) : c = '-' ∨ c.isDigit := by
  cases n with
  | ofNat n =>
    change c ∈ n.repr.toList at member
    rw [Nat.toList_repr] at member
    exact .inr ((Json.isDigits_toDigits n).digits c member)
  | negSucc n =>
    change c ∈ ("-" ++ (n + 1).repr).toList at member
    rw [String.toList_append, Nat.toList_repr, List.mem_append] at member
    rcases member with sign | digit
    · exact .inl (by simpa using sign)
    · exact .inr ((Json.isDigits_toDigits (n + 1)).digits c digit)

theorem integer?_toString (word : InWord n) : integer? (trim (toString n)) = some n := by
  have same : toString n = n.repr := rfl
  have plain : ∀ c ∈ n.repr.toList, isBlank c = false := by
    intro c member
    rcases mem_repr member with rfl | digit
    · rfl
    · exact Formula.isBlank_of_isDigit digit
  rw [same, integer?, trim, trimChars_plain plain, String.toList_ofList, integerChars?_repr]
  simpa [Option.filter, InWord] using word

end Dataflow.Text
