import Dataflow.Proofs.Formula.Reading

namespace Dataflow

theorem Operator.level_lt (op : Operator) : op.level < Formula.negLevel := by
  cases op <;> decide

theorem Operator.level_ne_not (op : Operator) : op.level ≠ Formula.notLevel := by
  cases op <;> decide

namespace Formula

def Every (good : Value → Prop) : Formula → Prop
  | element => True
  | literal value => good value
  | neg operand | not operand => operand.Every good
  | binary _ left right => left.Every good ∧ right.Every good

theorem Every.imp {good better : Value → Prop} (stronger : ∀ value, good value → better value) {formula : Formula}
    (every : formula.Every good) : formula.Every better := by
  induction formula with
  | element => trivial
  | literal value => exact stronger value every
  | neg operand ih | not operand ih => exact ih every
  | binary op left right ihLeft ihRight => exact ⟨ihLeft every.1, ihRight every.2⟩

def grouped (needed : Bool) (inner : List Token) : List Token :=
  if needed then .opening :: inner ++ [.closing] else inner

def tokensAt (place : Nat) : Formula → List Token
  | element => [.element]
  | literal value => value.token?.toList
  | neg operand => grouped (negLevel < place) (.operator .sub :: tokensAt negLevel operand)
  | not operand => grouped (notLevel < place) (.not :: tokensAt notLevel operand)
  | binary op left right =>
    grouped (op.level < place) (tokensAt op.level left ++ .operator op :: tokensAt (op.level + 1) right)

variable {place power fuel : Nat} {formula : Formula} {front rest : List Lexeme} {tokens : List Token}

-- Leaves stand in every place, other formulas in parentheses where the place asks for more.
theorem tokensAt_cases (formula : Formula) (inside : place ≤ leafLevel) :
    place ≤ formula.level ∧ formula.tokensAt place = formula.tokensAt formula.level ∨
      formula.tokensAt place = .opening :: formula.tokensAt formula.level ++ [.closing] := by
  cases formula with
  | element | literal => exact .inl ⟨inside, rfl⟩
  | neg | not | binary =>
    simp only [tokensAt, level, grouped]
    split <;> simp_all

-- No operator comes next that binds more tightly than the place asks for.
def Fits (place : Nat) : List Lexeme → Prop
  | ⟨.operator op, _⟩ :: _ => op.level ≤ place
  | _ => True

theorem Fits.mono {wider : Nat} (fits : Fits place rest) (below : place ≤ wider) : Fits wider rest := by
  unfold Fits at *
  split
  · exact le_trans fits below
  · trivial

theorem extend_stops (fits : Fits place rest) (high : ∀ op : Operator, op.level ≤ place → leftPower op < power) :
    extend (fuel + 1) power formula rest = .ok (formula, rest) := by
  unfold extend
  split
  · cases ‹fuel + 1 = 0›
  · exact if_neg (not_le.mpr (high _ fits))
  · rfl

-- In front of what fits, the reader takes the formula from the tokens and goes on behind them.
def Reads (tokens : List Token) (place : Nat) (formula : Formula) : Prop :=
  ∀ (front rest : List Lexeme) (power fuel : Nat), front.map Lexeme.token = tokens →
    power ≤ 2 * place → Fits place rest → 3 * front.length ≤ fuel →
    ∃ spare, fuel ≤ spare + front.length ∧ parseFrom fuel power (front ++ rest) = extend spare power formula rest

def Climbs (place : Nat) (formula : Formula) : Prop := Reads (formula.tokensAt place) place formula

theorem climbs_of_operand (some : front ≠ []) (read : operand (fuel + 1) (front ++ rest) = .ok (formula, rest)) :
    ∃ spare, fuel + 2 ≤ spare + front.length ∧
      parseFrom (fuel + 2) power (front ++ rest) = extend spare power formula rest := by
  have := List.length_pos_iff.mpr some
  refine ⟨fuel + 1, by omega, ?_⟩
  rw [parseFrom, read]

theorem Reads.below {lower : Nat} (reads : Reads tokens place formula) (below : lower ≤ place) : Reads tokens lower formula := by
  intro front rest power fuel written low fits enough
  exact reads _ _ _ _ written (by omega) (fits.mono below) enough

-- Inside parentheses nothing is asked for, so that everything is taken.
theorem Reads.group {inside : Nat} (reads : Reads tokens inside formula) (place : Nat) :
    Reads (.opening :: tokens ++ [.closing]) place formula := by
  intro front rest power fuel written low fits enough
  rw [List.cons_append, List.map_eq_cons_iff] at written
  obtain ⟨⟨_, position⟩, behind, rfl, rfl, written⟩ := written
  rw [List.map_eq_append_iff] at written
  obtain ⟨inner, last, rfl, written, ending⟩ := written
  rw [List.map_eq_singleton_iff] at ending
  obtain ⟨⟨_, end'⟩, rfl, rfl⟩ := ending
  simp only [List.length_cons, List.length_append, List.length_nil] at enough
  obtain ⟨fuel, rfl⟩ := Nat.exists_eq_add_of_le' (show 2 ≤ fuel by omega)
  obtain ⟨spare, plenty, read⟩ := reads inner (⟨.closing, end'⟩ :: rest) 0 fuel written (Nat.zero_le _) trivial (by omega)
  obtain ⟨spare, rfl⟩ := Nat.exists_eq_add_of_le' (show 1 ≤ spare by omega)
  refine climbs_of_operand (List.cons_ne_nil _ _) ?_
  simp [operand, read, extend]

theorem Climbs.anywhere (bare : Climbs formula.level formula) (inside : place ≤ leafLevel) : Climbs place formula := by
  unfold Climbs
  rcases tokensAt_cases formula inside with ⟨below, same⟩ | parenthesized
  · exact same ▸ bare.below below
  · exact parenthesized ▸ bare.group place

theorem climbs_leaf {leaf : Token} (shape : formula.tokensAt place = [leaf])
    (reads : ∀ fuel position lexemes, operand (fuel + 1) (⟨leaf, position⟩ :: lexemes) = .ok (formula, lexemes)) :
    Climbs place formula := by
  intro front rest power fuel written low fits enough
  rw [shape, List.map_eq_singleton_iff] at written
  obtain ⟨⟨_, position⟩, rfl, rfl⟩ := written
  rw [List.length_singleton] at enough
  obtain ⟨fuel, rfl⟩ := Nat.exists_eq_add_of_le' (show 2 ≤ fuel by omega)
  exact climbs_of_operand (List.cons_ne_nil _ _) (reads fuel position rest)

-- No infix operator has the level of a sign, so that none is taken behind the sign's operand.
theorem climbs_sign {sign : Token} {build : Formula → Formula} (apart : ∀ op : Operator, op.level ≠ place)
    (shape : (build formula).tokensAt place = sign :: formula.tokensAt place)
    (reads : ∀ fuel position lexemes,
      operand (fuel + 1) (⟨sign, position⟩ :: lexemes) = Reading.map build (parseFrom fuel (2 * place) lexemes))
    (inner : Climbs place formula) : Climbs place (build formula) := by
  intro front rest power fuel written low fits enough
  rw [shape, List.map_eq_cons_iff] at written
  obtain ⟨⟨_, position⟩, behind, rfl, rfl, written⟩ := written
  rw [List.length_cons] at enough
  obtain ⟨fuel, rfl⟩ := Nat.exists_eq_add_of_le' (show 2 ≤ fuel by omega)
  obtain ⟨spare, plenty, read⟩ := inner behind rest (2 * place) fuel written le_rfl fits (by omega)
  obtain ⟨spare, rfl⟩ := Nat.exists_eq_add_of_le' (show 1 ≤ spare by omega)
  have stopped : extend (spare + 1) (2 * place) formula rest = .ok (formula, rest) := by
    refine extend_stops fits fun op loose => ?_
    have := apart op
    unfold leftPower
    omega
  refine climbs_of_operand (List.cons_ne_nil _ _) ?_
  rw [List.cons_append, reads, read, stopped, Reading.map]

-- The operator is taken behind its left operand; its right operand leaves operators of the same level alone.
theorem Reads.binary {op : Operator} {left right : Formula} {tokensBehind : List Token} (first : Reads tokens op.level left)
    (second : Reads tokensBehind (op.level + 1) right) :
    Reads (tokens ++ .operator op :: tokensBehind) op.level (binary op left right) := by
  intro front rest power fuel written low fits enough
  obtain ⟨before, behind, rfl, earlier, written⟩ := List.map_eq_append_iff.mp written
  obtain ⟨⟨_, position⟩, after, rfl, rfl, later⟩ := List.map_eq_cons_iff.mp written
  simp only [List.length_append, List.length_cons] at enough ⊢
  obtain ⟨fuel, plenty, read⟩ := first before (⟨.operator op, position⟩ :: (after ++ rest)) power fuel earlier low le_rfl
    (by omega)
  obtain ⟨fuel, rfl⟩ := Nat.exists_eq_add_of_le' (show 1 ≤ fuel by omega)
  obtain ⟨spare, plentyBehind, readBehind⟩ := second after rest (rightPower op) fuel later (by unfold rightPower; omega)
    (fits.mono (Nat.le_succ _)) (by omega)
  obtain ⟨spare, rfl⟩ := Nat.exists_eq_add_of_le' (show 1 ≤ spare by omega)
  have stopped : extend (spare + 1) (rightPower op) right rest = .ok (right, rest) := by
    refine extend_stops fits fun other loose => ?_
    unfold leftPower rightPower
    omega
  refine ⟨fuel, by omega, ?_⟩
  rw [List.append_assoc, List.cons_append, read, extend, if_pos (show power ≤ leftPower op from low), readBehind, stopped]

theorem climbs_binary {op : Operator} {left right : Formula} (first : Climbs op.level left)
    (second : Climbs (op.level + 1) right) : Climbs op.level (binary op left right) := by
  rw [Climbs, tokensAt, grouped, if_neg (by simp)]
  exact first.binary second

theorem climbs_bare (sayable : formula.Every fun value => value.token?.isSome) : Climbs formula.level formula := by
  induction formula with
  | element => exact climbs_leaf rfl fun _ _ _ => rfl
  | literal value =>
    cases value with
    | list => cases sayable
    | number | text | bool => exact climbs_leaf rfl fun _ _ _ => rfl
  | neg operand ih =>
    exact climbs_sign (fun op => op.level_lt.ne) rfl (fun _ _ _ => rfl)
      (Climbs.anywhere (ih sayable) (show negLevel ≤ leafLevel by decide))
  | not operand ih =>
    exact climbs_sign Operator.level_ne_not rfl (fun _ _ _ => rfl)
      (Climbs.anywhere (ih sayable) (show notLevel ≤ leafLevel by decide))
  | binary op left right ihLeft ihRight =>
    have tight : op.level + 1 ≤ leafLevel := le_trans op.level_lt (by decide)
    exact climbs_binary (Climbs.anywhere (ihLeft sayable.1) (Nat.le_of_succ_le tight))
      (Climbs.anywhere (ihRight sayable.2) tight)

theorem Reads.ofLexemes {lexemes : List Lexeme} (reads : Reads tokens place formula)
    (written : lexemes.map Lexeme.token = tokens) : ofLexemes lexemes = .ok formula := by
  obtain ⟨spare, plenty, read⟩ := reads lexemes [] 0 (3 * lexemes.length + 3) written (Nat.zero_le _) trivial (by omega)
  obtain ⟨spare, rfl⟩ := Nat.exists_eq_add_of_le' (show 1 ≤ spare by omega)
  rw [List.append_nil] at read
  simp only [Formula.ofLexemes, read, extend]

theorem climbs (sayable : formula.Every fun value => value.token?.isSome) (inside : place ≤ leafLevel) : Climbs place formula :=
  Climbs.anywhere (climbs_bare sayable) inside

theorem ofLexemes_tokens {lexemes : List Lexeme} (sayable : formula.Every fun value => value.token?.isSome)
    (written : lexemes.map Lexeme.token = formula.tokensAt 0) : ofLexemes lexemes = .ok formula :=
  Reads.ofLexemes (climbs sayable (Nat.zero_le _)) written

end Formula
end Dataflow
