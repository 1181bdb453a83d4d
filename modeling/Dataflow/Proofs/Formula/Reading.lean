import Dataflow.Formula.Grammar
import Mathlib

namespace Dataflow

-- The token that a value is written as; lists have no place in a formula.
def Value.token? : Value → Option Token
  | number n => some (.number n)
  | text s => some (.string s)
  | bool b => some (.truth b)
  | list _ => none

namespace Token

def endsOperand : Token → Bool
  | number _ | string _ | element | truth _ | closing => true
  | _ => false

-- Whether the token leaves no trace: `ended` says that it stands behind an operand.
def silent (ended : Bool) : Token → Bool
  | opening | closing => true
  | operator .add => !ended
  | _ => false

-- The two spellings of negation are one.
def unified : Token → Token
  | bang => not
  | other => other

end Token

namespace Formula

def inorder : Formula → List Token
  | element => [.element]
  | literal value => value.token?.toList
  | neg operand => .operator .sub :: operand.inorder
  | not operand => .not :: operand.inorder
  | binary op left right => left.inorder ++ .operator op :: right.inorder

def essential (ended : Bool) : List Token → List Token
  | [] => []
  | token :: rest =>
    if token.silent ended then essential token.endsOperand rest
    else token.unified :: essential token.endsOperand rest

-- The tokens still to be read, behind an operand or in front of one.
def remaining (ended : Bool) (lexemes : List Lexeme) : List Token := essential ended (lexemes.map Lexeme.token)

variable {formula : Formula} {lexemes rest : List Lexeme} {position : Nat}

@[simp] theorem remaining_nil (ended : Bool) : remaining ended [] = [] := rfl

@[simp] theorem remaining_opening (ended : Bool) : remaining ended (⟨.opening, position⟩ :: rest) = remaining false rest := rfl

@[simp] theorem remaining_closing (ended : Bool) : remaining ended (⟨.closing, position⟩ :: rest) = remaining true rest := rfl

@[simp] theorem remaining_plus : remaining false (⟨.operator .add, position⟩ :: rest) = remaining false rest := rfl

@[simp] theorem remaining_minus (ended : Bool) :
    remaining ended (⟨.operator .sub, position⟩ :: rest) = .operator .sub :: remaining false rest := rfl

@[simp] theorem remaining_not (ended : Bool) : remaining ended (⟨.not, position⟩ :: rest) = .not :: remaining false rest := rfl

@[simp] theorem remaining_bang (ended : Bool) : remaining ended (⟨.bang, position⟩ :: rest) = .not :: remaining false rest := rfl

@[simp] theorem remaining_operator (op : Operator) :
    remaining true (⟨.operator op, position⟩ :: rest) = .operator op :: remaining false rest := by
  cases op <;> rfl

-- Between the text in front of an operand and the text behind it nothing is lost.
def Consumed (lexemes : List Lexeme) (formula : Formula) (rest : List Lexeme) : Prop :=
  remaining false lexemes = formula.inorder ++ remaining true rest

theorem Consumed.not (consumed : Consumed lexemes formula rest) :
    Consumed (⟨.not, position⟩ :: lexemes) formula.not rest ∧ Consumed (⟨.bang, position⟩ :: lexemes) formula.not rest := by
  simp_all [Consumed, inorder]

theorem Consumed.neg (consumed : Consumed lexemes formula rest) :
    Consumed (⟨.operator .sub, position⟩ :: lexemes) formula.neg rest := by
  simp_all [Consumed, inorder]

theorem Reading.map_ok {build : Formula → Formula} {reading : Reading} (mapped : reading.map build = .ok (formula, rest)) :
    ∃ inner, reading = .ok (inner, rest) ∧ formula = build inner := by
  cases reading with
  | error fault => cases mapped
  | ok result =>
    cases mapped
    exact ⟨_, rfl, rfl⟩

mutual

theorem parseFrom_consumes (fuel : Nat) {power : Nat} {lexemes rest : List Lexeme} {formula : Formula}
    (read : parseFrom fuel power lexemes = .ok (formula, rest)) : Consumed lexemes formula rest := by
  cases fuel with
  | zero => simp [parseFrom] at read
  | succ fuel =>
    rw [parseFrom] at read
    cases front : operand fuel lexemes with
    | error fault => simp [front] at read
    | ok result =>
      rw [front] at read
      exact (operand_consumes fuel front).trans (extend_consumes fuel read)
termination_by fuel

theorem operand_consumes (fuel : Nat) {lexemes rest : List Lexeme} {formula : Formula}
    (read : operand fuel lexemes = .ok (formula, rest)) : Consumed lexemes formula rest := by
  cases fuel with
  | zero => simp [operand] at read
  | succ fuel =>
    cases lexemes with
    | nil => simp [operand] at read
    | cons lexeme behind =>
      obtain ⟨token, position⟩ := lexeme
      cases token with
      | number | string | truth | element =>
        cases read
        rfl
      | unterminated | name | closing => simp [operand] at read
      | not =>
        obtain ⟨inner, inside, rfl⟩ := Reading.map_ok read
        exact (parseFrom_consumes fuel inside).not.1
      | bang =>
        obtain ⟨inner, inside, rfl⟩ := Reading.map_ok read
        exact (parseFrom_consumes fuel inside).not.2
      | operator op =>
        cases op with
        | sub =>
          obtain ⟨inner, inside, rfl⟩ := Reading.map_ok read
          exact (parseFrom_consumes fuel inside).neg
        | add =>
          rw [operand] at read
          have consumed := parseFrom_consumes fuel read
          rwa [Consumed, remaining_plus]
        | _ => simp [operand] at read
      | opening =>
        rw [operand] at read
        split at read
        · rename_i inside
          cases read
          have consumed := parseFrom_consumes fuel inside
          rwa [Consumed, remaining_closing] at consumed
        · cases read
        · cases read
termination_by fuel

-- What stands to the left of the operators to come has been read already.
theorem extend_consumes (fuel : Nat) {power : Nat} {left formula : Formula} {lexemes rest : List Lexeme}
    (read : extend fuel power left lexemes = .ok (formula, rest)) :
    left.inorder ++ remaining true lexemes = formula.inorder ++ remaining true rest := by
  cases fuel with
  | zero => simp [extend] at read
  | succ fuel =>
    cases lexemes with
    | nil =>
      cases read
      rfl
    | cons lexeme behind =>
      obtain ⟨token, position⟩ := lexeme
      cases token with
      | operator op =>
        rw [extend] at read
        split at read
        · cases found : parseFrom fuel (rightPower op) behind with
          | error fault => simp [found] at read
          | ok result =>
            rw [found] at read
            have consumed : remaining false behind = _ := parseFrom_consumes fuel found
            have onward := extend_consumes fuel read
            rw [← onward, remaining_operator, consumed, inorder, List.append_assoc, List.cons_append]
        · cases read
          rfl
      | _ =>
        cases read
        rfl
termination_by fuel

end

variable {source : String}

theorem parse_checked (lexed : tokens source.toList = .ok lexemes) :
    parse source = check 0 0 lexemes >>= fun _ => ofLexemes lexemes := by
  rw [parse, lexed]
  rfl

theorem parse_cases (parsed : parse source = .ok formula) :
    ∃ lexemes, tokens source.toList = .ok lexemes ∧ check 0 0 lexemes = .ok () ∧ ofLexemes lexemes = .ok formula := by
  cases lexed : tokens source.toList with
  | error fault => simp [parse, lexed, bind, Except.bind] at parsed
  | ok lexemes =>
    rw [parse_checked lexed] at parsed
    cases checked : check 0 0 lexemes with
    | error fault => simp [checked, bind, Except.bind] at parsed
    | ok passed =>
      rw [checked] at parsed
      exact ⟨lexemes, rfl, checked, parsed⟩

theorem ofLexemes_ok (read : ofLexemes lexemes = .ok formula) :
    parseFrom (3 * lexemes.length + 3) 0 lexemes = .ok (formula, []) := by
  unfold ofLexemes at read
  split at read
  · cases read
    assumption
  · cases read
  · cases read

theorem parse_inorder (parsed : parse source = .ok formula) :
    ∃ lexemes, tokens source.toList = .ok lexemes ∧ formula.inorder = essential false (lexemes.map Lexeme.token) := by
  obtain ⟨lexemes, lexed, _, read⟩ := parse_cases parsed
  have consumed : remaining false lexemes = _ := parseFrom_consumes _ (ofLexemes_ok read)
  rw [remaining_nil, List.append_nil] at consumed
  exact ⟨lexemes, lexed, consumed.symm⟩

-- `!(x + +'a') and not -True`
def signs : Formula := .binary .and (.not (.binary .add .element (.literal (.text "a")))) (.not (.neg (.literal (.bool true))))

theorem signs_inorder : parse "!(x + +'a') and not -True" = .ok signs ∧
    ∃ lexemes, tokens "!(x + +'a') and not -True".toList = .ok lexemes ∧
      signs.inorder = essential false (lexemes.map Lexeme.token) := by
  have parsed : parse "!(x + +'a') and not -True" = .ok signs := by cbv
  exact ⟨parsed, parse_inorder parsed⟩

end Formula
end Dataflow
