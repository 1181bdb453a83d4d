import Dataflow.Proofs.Formula.Evaluation
import Dataflow.Proofs.Formula.RoundTrip

namespace Dataflow

theorem Operator.Compares.level_eq {op : Operator} (comparing : op.Compares) : op.level = 4 := by
  revert comparing
  cases op <;> decide

namespace Formula

variable {text inner : String} {tokens innerTokens : List Token} {place lower : Nat} {formula left right : Formula}

theorem closed_grouped {needed : Bool} (bare : Closed tokens) : Closed (grouped needed tokens) := by
  cases needed with
  | false => exact bare
  | true => exact bare.group

theorem tokensAt_closed (formula : Formula) (place : Nat) : Closed (formula.tokensAt place) := by
  induction formula generalizing place with
  | element => exact fun _ => rfl
  | literal value => cases value <;> exact fun _ => rfl
  | neg operand ih | not operand ih => exact closed_grouped (ih _)
  | binary op left right ihLeft ihRight => exact closed_grouped ((ihLeft _).binary (ihRight _) op)

-- A text and its tokens that are read as the formula in every place that asks for a level of at most `place`.
structure Stated (text : String) (tokens : List Token) (place : Nat) (formula : Formula) : Prop where
  spelled : Says text tokens
  legible : ∀ token ∈ tokens, token.legible
  reads : Reads tokens place formula

theorem stated_textAt (plain : formula.Every Value.Plain) (inside : place ≤ leafLevel) :
    Stated (formula.textAt place) (formula.tokensAt place) place formula :=
  ⟨says_text plain place, tokensAt_legible formula place, climbs (plain.imp fun _ => Value.Plain.token) inside⟩

theorem Stated.below (stated : Stated text tokens place formula) (below : lower ≤ place) : Stated text tokens lower formula :=
  { stated with reads := stated.reads.below below }

theorem Stated.group (stated : Stated text tokens lower formula) (place : Nat) :
    Stated ("(" ++ text ++ ")") (.opening :: tokens ++ [.closing]) place formula :=
  ⟨stated.spelled.group, legible_group stated.legible, stated.reads.group place⟩

theorem Stated.binary {op : Operator} (first : Stated text tokens op.level left)
    (second : Stated inner innerTokens (op.level + 1) right) :
    Stated (text ++ " " ++ op.spelling ++ " " ++ inner) (tokens ++ .operator op :: innerTokens) op.level (binary op left right) :=
  ⟨first.spelled.binary second.spelled,
    List.forall_mem_append.mpr ⟨first.legible, List.forall_mem_cons.mpr ⟨rfl, second.legible⟩⟩,
    first.reads.binary second.reads⟩

theorem Stated.parse_eq (stated : Stated text tokens place formula) :
    parse text = if Shallow tokens then .ok formula else .error .nestingTooDeep := by
  have spells := stated.spelled [] [] .nil .nil
  rw [List.append_nil, List.append_nil] at spells
  obtain ⟨lexemes, lexed, rfl⟩ := tokens_spells spells
  have legible : ∀ lexeme ∈ lexemes, lexeme.token.legible := fun lexeme member => stated.legible _ (List.mem_map_of_mem member)
  rw [parse_checked lexed]
  split
  · rename_i shallow
    rw [check_ok_iff.mpr ⟨legible, shallow⟩]
    exact stated.reads.ofLexemes rfl
  · rename_i deep
    have refused : check 0 0 lexemes ≠ .ok () := fun passed => deep (check_ok_iff.mp passed).2
    rw [(check_legible legible).resolve_left refused]
    rfl

def chain (first second : Operator) (a b c : Formula) : Formula := binary second (binary first a b) c

def pairs (first second : Operator) (a b c : Formula) : Formula := binary .and (binary first a b) (binary second b c)

-- An operand of a comparison stands in parentheses where it binds more loosely than a sum.
def side (operand : Formula) : String := operand.textAt Operator.add.level

def comparisonText (op : Operator) (left right : Formula) : String := left.side ++ " " ++ op.spelling ++ " " ++ right.side

def comparisonTokens (op : Operator) (left right : Formula) : List Token :=
  left.tokensAt Operator.add.level ++ .operator op :: right.tokensAt Operator.add.level

def chainText (first second : Operator) (a b c : Formula) : String :=
  comparisonText first a b ++ " " ++ second.spelling ++ " " ++ c.side

def pairsText (first second : Operator) (a b c : Formula) : String :=
  "(" ++ comparisonText first a b ++ ")" ++ " " ++ Operator.and.spelling ++ " " ++ ("(" ++ comparisonText second b c ++ ")")

variable {op first second : Operator} {a b c : Formula} {x u v w : Value} {truth : Bool}

theorem stated_side (plain : formula.Every Value.Plain) :
    Stated formula.side (formula.tokensAt Operator.add.level) Operator.add.level formula :=
  stated_textAt plain (by decide)

theorem stated_comparison (comparing : op.Compares) (plainLeft : left.Every Value.Plain) (plainRight : right.Every Value.Plain) :
    Stated (comparisonText op left right) (comparisonTokens op left right) op.level (binary op left right) :=
  .binary ((stated_side plainLeft).below (by rw [comparing.level_eq]; decide))
    ((stated_side plainRight).below (by rw [comparing.level_eq]; decide))

-- Without the parentheses and the second mention of the middle operand there is less nesting at every token.
theorem shallow_chain {before between behind : List Token} (closedBefore : Closed before) (closedBetween : Closed between)
    (shallow : Shallow ((Token.opening :: (before ++ Token.operator first :: between) ++ [Token.closing]) ++
      Token.operator .and :: (Token.opening :: (between ++ Token.operator second :: behind) ++ [Token.closing]))) :
    Shallow ((before ++ Token.operator first :: between) ++ Token.operator second :: behind) := by
  have closed := closedBefore.binary closedBetween first
  -- In front of the last comparison stands all that the chain has there, and more.
  have reorder : Token.opening :: (before ++ Token.operator first :: between) ++ [Token.closing] ++
      Token.operator .and :: (Token.opening :: (between ++ Token.operator second :: behind) ++ [Token.closing]) =
      (Token.opening :: (before ++ Token.operator first :: between) ++
        Token.closing :: Token.operator .and :: Token.opening :: between) ++ (Token.operator second :: behind ++ [Token.closing]) := by simp
  rw [← shallowBehind_start] at shallow ⊢
  rw [reorder, shallowBehind_append, shallowBehind_append, shallowBehind_append, shallowBehind_cons] at shallow
  obtain ⟨⟨⟨-, earlier⟩, -⟩, later, -⟩ := shallow
  refine shallowBehind_append.mpr ⟨earlier.fewer (Nat.zero_le _) (Nat.zero_le _), later.fewer ?_ ?_⟩
  · rw [closed]
    exact Nat.zero_le _
  · simp only [List.countP_append, List.countP_cons]
    omega

theorem stated_pairs (firstCompares : first.Compares) (secondCompares : second.Compares)
    (plain : (chain first second a b c).Every Value.Plain) :
    Stated (pairsText first second a b c)
      ((Token.opening :: comparisonTokens first a b ++ [Token.closing]) ++
        Token.operator .and :: (Token.opening :: comparisonTokens second b c ++ [Token.closing]))
      Operator.and.level (pairs first second a b c) :=
  .binary ((stated_comparison firstCompares plain.1.1 plain.1.2).group _)
    ((stated_comparison secondCompares plain.1.2 plain.2).group _)

theorem stated_chain (firstCompares : first.Compares) (secondCompares : second.Compares)
    (plain : (chain first second a b c).Every Value.Plain) :
    Stated (chainText first second a b c) (comparisonTokens first a b ++ .operator second :: c.tokensAt Operator.add.level)
      second.level (chain first second a b c) := by
  have one := stated_comparison firstCompares plain.1.1 plain.1.2
  rw [firstCompares.level_eq, ← secondCompares.level_eq] at one
  exact one.binary ((stated_side plain.2).below (by rw [secondCompares.level_eq]; decide))

theorem parse_chain (firstCompares : first.Compares) (secondCompares : second.Compares)
    (plain : (chain first second a b c).Every Value.Plain) {read : Formula}
    (parsed : parse (pairsText first second a b c) = .ok read) :
    read = pairs first second a b c ∧ parse (chainText first second a b c) = .ok (chain first second a b c) := by
  rw [(stated_pairs firstCompares secondCompares plain).parse_eq] at parsed
  split at parsed
  · rename_i shallow
    cases parsed
    have flat := shallow_chain (tokensAt_closed a _) (tokensAt_closed b _) shallow
    exact ⟨rfl, (stated_chain firstCompares secondCompares plain).parse_eq.trans (if_pos flat)⟩
  · cases parsed

theorem evaluate_chain (firstCompares : first.Compares) (secondCompares : second.Compares) (one : a.evaluateAt x 2 = .ok u)
    (two : b.evaluateAt x 2 = .ok w) (decided : first.decides? u w = some truth) :
    (chain first second a b c).evaluate x = .ok v ↔
      ∃ right result, c.evaluateAt x 1 = .ok right ∧ second.decides? (.bool truth) right = some result ∧ v = .bool result := by
  have compared : (binary first a b).evaluateAt x 1 = .ok (.bool truth) :=
    (evaluateAt_comparison firstCompares).mpr ⟨by decide, u, w, truth, one, two, decided, rfl⟩
  rw [evaluate, chain, evaluateAt_comparison secondCompares]
  simp [compared]

theorem evaluate_pairs (firstCompares : first.Compares) (secondCompares : second.Compares) :
    (pairs first second a b c).evaluate x = .ok v ↔ ∃ left middle truth,
      a.evaluateAt x 2 = .ok left ∧ b.evaluateAt x 2 = .ok middle ∧ first.decides? left middle = some truth ∧
      if truth then ∃ right result, c.evaluateAt x 2 = .ok right ∧ second.decides? middle right = some result ∧ v = .bool result
      else v = .bool false := by
  rw [evaluate, pairs, evaluateAt_binary]
  constructor
  · rintro ⟨-, _, compared, rest⟩
    obtain ⟨-, left, middle, truth, one, two, decided, rfl⟩ := (evaluateAt_comparison firstCompares).mp compared
    refine ⟨left, middle, truth, one, two, decided, ?_⟩
    cases truth with
    | false => exact Eq.symm rest
    | true =>
      obtain ⟨_, again, same⟩ := rest
      cases same
      obtain ⟨-, other, right, result, repeated, three, compared, rfl⟩ := (evaluateAt_comparison secondCompares).mp again
      cases two.symm.trans repeated
      exact ⟨right, result, three, compared, rfl⟩
  · rintro ⟨left, middle, truth, one, two, decided, rest⟩
    refine ⟨Nat.zero_le _, .bool truth,
      (evaluateAt_comparison firstCompares).mpr ⟨by decide, left, middle, truth, one, two, decided, rfl⟩, ?_⟩
    cases truth with
    | false => exact Eq.symm rest
    | true =>
      obtain ⟨right, result, three, compared, rfl⟩ := rest
      exact ⟨_, (evaluateAt_comparison secondCompares).mpr ⟨by decide, middle, right, result, two, three, compared, rfl⟩, rfl⟩

-- Where both comparisons are read and have a value, the chain is read too, and has that value exactly if the truth value
-- of the first one compares to the last operand as the middle operand does, or, where it is false, comes out as false.
theorem chain_exact (firstCompares : first.Compares) (secondCompares : second.Compares) (a b c : Formula) :
    (∀ read, (chain first second a b c).Every Value.Plain → parse (pairsText first second a b c) = .ok read →
      read = pairs first second a b c ∧ parse (chainText first second a b c) = .ok (chain first second a b c)) ∧
    ∀ x v, (pairs first second a b c).evaluate x = .ok v → ∃ left middle truth,
      a.evaluate x = .ok left ∧ b.evaluate x = .ok middle ∧ first.decides? left middle = some truth ∧
      ((chain first second a b c).evaluate x = .ok v ↔ ∃ right, c.evaluateAt x 1 = .ok right ∧
        second.decides? (.bool truth) right = if truth then second.decides? middle right else some false) := by
  refine ⟨fun read plain parsed => parse_chain firstCompares secondCompares plain parsed, fun x v meant => ?_⟩
  obtain ⟨left, middle, truth, one, two, decided, rest⟩ := (evaluate_pairs firstCompares secondCompares).mp meant
  refine ⟨left, middle, truth, evaluateAt_higher (Nat.zero_le _) one, evaluateAt_higher (Nat.zero_le _) two, decided, ?_⟩
  rw [evaluate_chain firstCompares secondCompares one two decided]
  cases truth with
  | false =>
    obtain rfl : v = .bool false := rest
    simp
  | true =>
    obtain ⟨right, result, three, compared, rfl⟩ := rest
    -- The chain has its last operand one level further up.
    have higher := evaluateAt_higher (Nat.le_succ 1) three
    simp [higher, compared]

def number (n : Float) : Formula := .literal (.number n)

theorem interval_plain {upper : Float} (plain : (number upper).Every Value.Plain) :
    (chain .lt .lt (number 0.0) element (number upper)).Every Value.Plain :=
  ⟨⟨⟨by decide +kernel, .inl (by decide +kernel)⟩, trivial⟩, plain⟩

theorem interval_exact : Operator.lt.Compares ∧ (chain .lt .lt (number 0.0) element (number 2.0)).Every Value.Plain ∧
    parse "(0 < x) and (x < 2)" = .ok (pairs .lt .lt (number 0.0) element (number 2.0)) ∧
    parse "0 < x < 2" = .ok (chain .lt .lt (number 0.0) element (number 2.0)) ∧
    (pairs .lt .lt (number 0.0) element (number 2.0)).evaluate (.number 1.0) = .ok (.bool true) ∧
    (chain .lt .lt (number 0.0) element (number 2.0)).evaluate (.number 1.0) = .ok (.bool true) := by
  have lt : Operator.lt.Compares := by decide
  have plain : (chain .lt .lt (number 0.0) element (number 2.0)).Every Value.Plain :=
    interval_plain ⟨by decide +kernel, .inr (by decide +kernel)⟩
  have written : pairsText .lt .lt (number 0.0) element (number 2.0) = "(0 < x) and (x < 2)" := by decide +kernel
  have chained : chainText .lt .lt (number 0.0) element (number 2.0) = "0 < x < 2" := by decide +kernel
  have parsed := (stated_pairs lt lt plain).parse_eq.trans (if_pos (by decide +kernel))
  have meant : (pairs .lt .lt (number 0.0) element (number 2.0)).evaluate (.number 1.0) = .ok (.bool true) :=
    (evaluate_pairs lt lt).mpr ⟨_, _, true, rfl, rfl, by decide +kernel, _, true, rfl, by decide +kernel, rfl⟩
  obtain ⟨reading, agreeing⟩ := chain_exact lt lt (number 0.0) element (number 2.0)
  obtain ⟨left, middle, truth, one, two, decided, alike⟩ := agreeing _ _ meant
  cases one
  cases two
  have above : Operator.lt.decides? (.number 0.0) (.number 1.0) = some true := by decide +kernel
  cases above.symm.trans decided
  rw [← written, ← chained]
  exact ⟨lt, plain, parsed, (reading _ plain parsed).2, meant, alike.mpr ⟨_, rfl, by decide +kernel⟩⟩

-- 50 lies between 0 and 10 for the chain, which compares a truth value to 10.
theorem interval_differs : parse "(0 < x) and (x < 10)" = .ok (pairs .lt .lt (number 0.0) element (number 10.0)) ∧
    parse "0 < x < 10" = .ok (chain .lt .lt (number 0.0) element (number 10.0)) ∧
    (pairs .lt .lt (number 0.0) element (number 10.0)).evaluate (.number 50.0) = .ok (.bool false) ∧
    (chain .lt .lt (number 0.0) element (number 10.0)).evaluate (.number 50.0) = .ok (.bool true) := by
  have lt : Operator.lt.Compares := by decide
  have plain : (chain .lt .lt (number 0.0) element (number 10.0)).Every Value.Plain :=
    interval_plain ⟨by decide +kernel, .inr (by decide +kernel)⟩
  have written : pairsText .lt .lt (number 0.0) element (number 10.0) = "(0 < x) and (x < 10)" := by decide +kernel
  have chained : chainText .lt .lt (number 0.0) element (number 10.0) = "0 < x < 10" := by decide +kernel
  have parsed := (stated_pairs lt lt plain).parse_eq.trans (if_pos (by decide +kernel))
  have above : Operator.lt.decides? (.number 0.0) (.number 50.0) = some true := by decide +kernel
  rw [← written, ← chained]
  exact ⟨parsed, (parse_chain lt lt plain parsed).2,
    (evaluate_pairs lt lt).mpr ⟨_, _, true, rfl, rfl, above, _, false, rfl, by decide +kernel, rfl⟩,
    (evaluate_chain lt lt rfl rfl above).mpr ⟨_, true, rfl, by decide +kernel, rfl⟩⟩

end Formula
end Dataflow
