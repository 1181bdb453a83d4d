import Dataflow.Proofs.Decimal.Written
import Dataflow.Proofs.Formula.Climbing
import Dataflow.Proofs.Formula.Lexing
import Dataflow.Proofs.Formula.Nesting

namespace Dataflow
open Decimal (isNegative Written)
open Formula (Sayable)

-- The literals whose text the reader of formulas takes for them.
def Value.Plain : Value → Prop
  | number n => isNegative n = false ∧ (n == 0.0 ∨ 1e-4 ≤ n ∧ n < 1e16)
  | text s => ∀ c ∈ s.toList, Sayable c
  | bool _ => True
  | list _ => False

theorem Value.Plain.token {value : Value} (plain : value.Plain) : value.token?.isSome := by
  cases value with
  | list => cases plain
  | _ => rfl

namespace Formula

variable {formula : Formula} {text inner : String} {tokens innerTokens : List Token} {place : Nat}

-- A text that is read as these tokens in front of everything that does not run on.
def Says (text : String) (tokens : List Token) : Prop :=
  ∀ rest behind, Spells rest behind → Parted rest → Spells (text.toList ++ rest) (tokens ++ behind)

theorem Says.group (bare : Says inner innerTokens) : Says ("(" ++ inner ++ ")") (.opening :: innerTokens ++ [.closing]) := by
  intro rest behind spells parted
  have inside := bare (')' :: rest) (.closing :: behind) spells.closing (.closing rest)
  simpa using inside.opening

theorem Says.grouped (bare : Says inner innerTokens) (needed : Bool) :
    Says (parenthesized needed inner) (Formula.grouped needed innerTokens) := by
  cases needed with
  | false => exact bare
  | true => exact bare.group

theorem Says.binary {op : Operator} (first : Says text tokens) (second : Says inner innerTokens) :
    Says (text ++ " " ++ op.spelling ++ " " ++ inner) (tokens ++ .operator op :: innerTokens) := by
  intro rest behind spells parted
  have later := (second rest behind spells parted).operator op
  have whole := first _ _ (.blank rfl later) (.blank _)
  simpa using whole

theorem Says.number {n : Float} {d : Decimal} (written : Written text.toList d) (same : d.toFloat = n) : Says text [.number n] := by
  intro rest behind spells parted
  subst same
  generalize text.toList = cs at written
  cases written with
  | integer some digits =>
    have read := spells.integer parted some digits
    simpa [digitsNumber] using read
  | fraction some digits somePoint pointDigits =>
    have read := spells.decimal parted some digits somePoint pointDigits
    simpa [digitsNumber] using read

theorem says_literal {value : Value} (plain : value.Plain) : Says value.literal value.token?.toList := by
  cases value with
  | number n =>
    obtain ⟨d, written, same⟩ := Value.numberLiteral_written plain.1 plain.2
    exact .number written same
  | text s => exact fun _ _ spells _ => spells.string plain
  | bool b => exact fun _ _ spells parted => spells.truth b parted
  | list items => cases plain

theorem says_text (plain : formula.Every Value.Plain) (place : Nat) : Says (formula.textAt place) (formula.tokensAt place) := by
  induction formula generalizing place with
  | element => exact fun _ _ spells parted => spells.element parted
  | literal value => exact says_literal plain
  | neg operand ih =>
    refine Says.grouped ?_ _
    intro rest behind spells parted
    have read := (ih plain negLevel rest behind spells parted).minus
    simpa using read
  | not operand ih =>
    refine Says.grouped ?_ _
    intro rest behind spells parted
    have read := (ih plain notLevel rest behind spells parted).not
    simpa using read
  | binary op left right ihLeft ihRight => exact Says.grouped ((ihLeft plain.1 op.level).binary (ihRight plain.2 (op.level + 1))) _

theorem tokens_text (plain : formula.Every Value.Plain) :
    ∃ lexemes, Formula.tokens formula.text.toList = .ok lexemes ∧ lexemes.map Lexeme.token = formula.tokensAt 0 := by
  have spells := says_text plain 0 [] [] .nil .nil
  rw [List.append_nil, List.append_nil] at spells
  exact tokens_spells spells

theorem legible_group (bare : ∀ token ∈ tokens, token.legible) : ∀ token ∈ .opening :: tokens ++ [.closing], token.legible :=
  List.forall_mem_cons.mpr ⟨rfl, List.forall_mem_append.mpr ⟨bare, List.forall_mem_singleton.mpr rfl⟩⟩

theorem legible_grouped {needed : Bool} (bare : ∀ token ∈ tokens, token.legible) :
    ∀ token ∈ Formula.grouped needed tokens, token.legible := by
  cases needed with
  | false => exact bare
  | true => exact legible_group bare

theorem tokensAt_legible (formula : Formula) (place : Nat) : ∀ token ∈ formula.tokensAt place, token.legible := by
  induction formula generalizing place with
  | element => simp [tokensAt, Token.legible]
  | literal value => cases value <;> simp [tokensAt, Value.token?, Token.legible]
  | neg operand ih | not operand ih => exact legible_grouped (List.forall_mem_cons.mpr ⟨rfl, ih _⟩)
  | binary op left right ihLeft ihRight =>
    exact legible_grouped (List.forall_mem_append.mpr ⟨ihLeft _, List.forall_mem_cons.mpr ⟨rfl, ihRight _⟩⟩)

-- What is written is read again, unless it nests too deep.
theorem parse_text (plain : formula.Every Value.Plain) : ∃ lexemes, Formula.tokens formula.text.toList = .ok lexemes ∧
    (Shallow (lexemes.map Lexeme.token) → parse formula.text = .ok formula) ∧
    (¬Shallow (lexemes.map Lexeme.token) → parse formula.text = .error .nestingTooDeep) := by
  obtain ⟨lexemes, lexed, written⟩ := tokens_text plain
  have legible : ∀ lexeme ∈ lexemes, lexeme.token.legible := by
    intro lexeme member
    exact tokensAt_legible formula 0 _ (written ▸ List.mem_map_of_mem member)
  have sayable : formula.Every fun value => value.token?.isSome := plain.imp fun _ => Value.Plain.token
  refine ⟨lexemes, lexed, fun shallow => ?_, fun deep => ?_⟩
  · rw [parse_checked lexed, check_ok_iff.mpr ⟨legible, shallow⟩]
    exact ofLexemes_tokens sayable written
  · have refused : check 0 0 lexemes ≠ .ok () := fun passed => deep (check_ok_iff.mp passed).2
    rw [parse_checked lexed, (check_legible legible).resolve_left refused]
    rfl

-- `x - (0.1 - -(x + "a\"b\n")) < x and not (not x == True) * 3`
def mixed : Formula :=
  .binary .and
    (.binary .lt
      (.binary .sub .element (.binary .sub (.literal (.number 0.1)) (.neg (.binary .add .element (.literal (.text "a\"b\n"))))))
      .element)
    (.not (.binary .mul (.not (.binary .eq .element (.literal (.bool true)))) (.literal (.number 3.0))))

theorem mixed_read : mixed.Every Value.Plain ∧ parse mixed.text = .ok mixed := by
  have tenth : (Value.number 0.1).Plain := ⟨by decide +kernel, .inr (by decide +kernel)⟩
  have three : (Value.number 3.0).Plain := ⟨by decide +kernel, .inr (by decide +kernel)⟩
  have quoted : (Value.text "a\"b\n").Plain := by simp [Value.Plain, Sayable]
  have plain : mixed.Every Value.Plain := ⟨⟨⟨trivial, tenth, trivial, quoted⟩, trivial⟩, ⟨trivial, trivial⟩, three⟩
  refine ⟨plain, ?_⟩
  obtain ⟨lexemes, lexed, read, _⟩ := parse_text plain
  obtain ⟨others, again, written⟩ := tokens_text plain
  cases lexed.symm.trans again
  refine read ?_
  rw [written]
  decide +kernel

end Formula
end Dataflow
