import Dataflow.Formula.Grammar
import Mathlib

namespace Dataflow

namespace Token

def legible : Token → Bool
  | unterminated | name _ => false
  | _ => true

def opens (opened : Nat) : Token → Nat
  | opening => opened + 1
  | closing => opened - 1
  | _ => opened

def counts (operators : Nat) (token : Token) : Nat := if token.isOperator then operators + 1 else operators

theorem counts_countP (operators : Nat) (token : Token) (rest : List Token) :
    operators + (token :: rest).countP isOperator = token.counts operators + rest.countP isOperator := by
  rw [List.countP_cons, counts]
  split <;> omega

theorem opens_mono {below opened : Nat} (le : below ≤ opened) (tokens : List Token) :
    tokens.foldl opens below ≤ tokens.foldl opens opened := by
  induction tokens generalizing below opened with
  | nil => exact le
  | cons token tokens ih =>
    refine ih ?_
    unfold opens
    split <;> omega

end Token

namespace Formula

-- The parentheses open behind the tokens, and the operators among them.
def nesting (tokens : List Token) : Nat := tokens.foldl Token.opens 0 + tokens.countP Token.isOperator

-- At no token there are more open parentheses and operators so far than the limit.
def Shallow (tokens : List Token) : Prop := ∀ front, front <+: tokens → nesting front ≤ maxNesting

instance (tokens : List Token) : Decidable (Shallow tokens) :=
  decidable_of_iff (∀ front ∈ tokens.inits, nesting front ≤ maxNesting) (by simp only [List.mem_inits, Shallow])

-- The same behind tokens that have been counted.
def ShallowBehind (opened operators : Nat) (tokens : List Token) : Prop :=
  ∀ front, front <+: tokens → front.foldl Token.opens opened + (operators + front.countP Token.isOperator) ≤ maxNesting

variable {opened operators : Nat} {token : Token} {rest : List Token} {lexemes : List Lexeme}

theorem shallowBehind_start (tokens : List Token) : ShallowBehind 0 0 tokens ↔ Shallow tokens := by
  simp [ShallowBehind, Shallow, nesting]

theorem shallowBehind_cons : ShallowBehind opened operators (token :: rest) ↔
    opened + operators ≤ maxNesting ∧ ShallowBehind (token.opens opened) (token.counts operators) rest := by
  constructor
  · intro shallow
    refine ⟨shallow [] List.nil_prefix, fun front before => ?_⟩
    rw [← Token.counts_countP]
    exact shallow (token :: front) (List.cons_prefix_cons.mpr ⟨rfl, before⟩)
  · rintro ⟨now, later⟩ front before
    cases front with
    | nil => exact now
    | cons first front =>
      obtain ⟨rfl, inside⟩ := List.cons_prefix_cons.mp before
      rw [Token.counts_countP]
      exact later front inside

theorem ShallowBehind.start (shallow : ShallowBehind opened operators rest) : opened + operators ≤ maxNesting :=
  shallow [] List.nil_prefix

theorem shallowBehind_append {front : List Token} : ShallowBehind opened operators (front ++ rest) ↔
    ShallowBehind opened operators front ∧
      ShallowBehind (front.foldl Token.opens opened) (operators + front.countP Token.isOperator) rest := by
  induction front generalizing opened operators with
  | nil =>
    refine ⟨fun shallow => ⟨?_, shallow⟩, fun shallow => shallow.2⟩
    simpa [ShallowBehind] using shallow.start
  | cons token front ih =>
    rw [List.cons_append, shallowBehind_cons, shallowBehind_cons, ih, List.foldl_cons, Token.counts_countP, and_assoc]

theorem ShallowBehind.fewer {below less : Nat} (shallow : ShallowBehind opened operators rest) (opening : below ≤ opened)
    (counted : less ≤ operators) : ShallowBehind below less rest := by
  intro front before
  have deepest := shallow front before
  have opens := Token.opens_mono opening front
  omega

-- Behind the tokens as many parentheses are open as in front of them.
def Closed (tokens : List Token) : Prop := ∀ opened, tokens.foldl Token.opens opened = opened

theorem Closed.group {inner : List Token} (closed : Closed inner) : Closed (.opening :: inner ++ [.closing]) := by
  intro opened
  rw [List.cons_append, List.foldl_cons, List.foldl_append, closed, List.foldl_cons, List.foldl_nil]
  exact Nat.add_sub_cancel opened 1

theorem Closed.binary {before behind : List Token} (first : Closed before) (second : Closed behind) (op : Operator) :
    Closed (before ++ .operator op :: behind) := by
  intro opened
  rw [List.foldl_append, first, List.foldl_cons]
  exact second opened

theorem check_cons (legible : token.legible) (position : Nat) (lexemes : List Lexeme) :
    check opened operators (⟨token, position⟩ :: lexemes) =
      if maxNesting < token.opens opened + token.counts operators then .error .nestingTooDeep
      else check (token.opens opened) (token.counts operators) lexemes := by
  cases token with
  | unterminated | name => cases legible
  | _ => rfl

theorem check_illegible (illegible : token.legible = false) (position : Nat) (lexemes : List Lexeme) :
    check opened operators (⟨token, position⟩ :: lexemes) ≠ .ok () := by
  intro passed
  cases token with
  | unterminated | name => cases passed
  | _ => cases illegible

theorem checkBehind_ok_iff (start : opened + operators ≤ maxNesting) : check opened operators lexemes = .ok () ↔
    (∀ lexeme ∈ lexemes, lexeme.token.legible) ∧ ShallowBehind opened operators (lexemes.map Lexeme.token) := by
  induction lexemes generalizing opened operators with
  | nil => simpa [check, ShallowBehind] using start
  | cons lexeme lexemes ih =>
    obtain ⟨token, position⟩ := lexeme
    cases legible : token.legible with
    | false => simp [check_illegible legible, legible]
    | true =>
      rw [check_cons legible, List.map_cons, shallowBehind_cons]
      by_cases deep : maxNesting < token.opens opened + token.counts operators
      · rw [if_pos deep]
        refine ⟨fun refused => (nomatch refused), fun passed => ?_⟩
        exact absurd passed.2.2.start (not_le.mpr deep)
      · rw [if_neg deep, ih (not_lt.mp deep)]
        simp [legible, start]

theorem check_ok_iff : check 0 0 lexemes = .ok () ↔
    (∀ lexeme ∈ lexemes, lexeme.token.legible) ∧ Shallow (lexemes.map Lexeme.token) := by
  rw [checkBehind_ok_iff (Nat.zero_le _), shallowBehind_start]

-- Tokens that have a place in a formula are refused for their depth only.
theorem check_legible (legible : ∀ lexeme ∈ lexemes, lexeme.token.legible) :
    check opened operators lexemes = .ok () ∨ check opened operators lexemes = .error .nestingTooDeep := by
  induction lexemes generalizing opened operators with
  | nil => exact .inl rfl
  | cons lexeme lexemes ih =>
    obtain ⟨token, position⟩ := lexeme
    rw [check_cons (legible _ List.mem_cons_self)]
    by_cases deep : maxNesting < token.opens opened + token.counts operators
    · exact .inr (if_pos deep)
    · rw [if_neg deep]
      exact ih fun other member => legible other (List.mem_cons_of_mem _ member)

end Formula
end Dataflow
