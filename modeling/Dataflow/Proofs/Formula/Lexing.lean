import Dataflow.Formula.Lexer
import Mathlib

namespace Dataflow.Formula
open Text (isBlank opensIdentifier continuesIdentifier escapeIn quoteWith)

-- The tokens that a text is read as, wherever they stand.
inductive Spells : List Char → List Token → Prop where
  | nil : Spells [] []
  | blank {c : Char} {rest : List Char} {tokens : List Token} (blank : isBlank c) (spells : Spells rest tokens) :
      Spells (c :: rest) tokens
  | token {c : Char} {rest after : List Char} {found : Token} {tokens : List Token} (solid : isBlank c = false)
      (read : token (c :: rest) = .ok (found, after)) (spells : Spells after tokens) : Spells (c :: rest) (found :: tokens)

variable {cs rest after whole : List Char} {found : Token} {tokens : List Token} {c : Char}

theorem span_suffix (p : Char → Bool) (cs : List Char) : (cs.span p).2 <:+ cs := by
  rw [List.span_eq_takeWhile_dropWhile]
  exact List.dropWhile_suffix p

theorem numberToken_suffix (whole cs : List Char) : (numberToken whole cs).2 <:+ cs := by
  unfold numberToken
  split
  · rename_i rest
    have behind : (rest.span Char.isDigit).2 <:+ '.' :: rest := (span_suffix _ _).trans (List.suffix_cons _ _)
    split
    · exact List.suffix_rfl
    · rename_i spanned
      rwa [spanned] at behind
  · exact List.suffix_rfl

theorem stringBody_suffix {quote : Char} {body : Option (List Char)} (read : stringBody quote cs = some (body, after)) :
    after <:+ cs := by
  induction cs using stringBody.induct quote generalizing body with
  | case1 =>
    cases read
    exact List.suffix_rfl
  | case2 => cases read
  | case3 c rest ih =>
    rw [stringBody, Option.map_eq_some_iff] at read
    obtain ⟨result, inner, same⟩ := read
    cases same
    exact (ih inner).trans ((List.suffix_cons _ _).trans (List.suffix_cons _ _))
  | case4 c rest plain plain' closes =>
    rw [stringBody.eq_4 quote c rest plain plain', if_pos closes] at read
    cases read
    exact List.suffix_cons _ _
  | case5 c rest plain plain' other ih =>
    rw [stringBody.eq_4 quote c rest plain plain', if_neg other, Option.map_eq_some_iff] at read
    obtain ⟨result, inner, same⟩ := read
    cases same
    exact (ih inner).trans (List.suffix_cons _ _)

theorem stringToken_suffix {quote : Char} (read : stringToken quote cs = .ok (found, after)) : after <:+ cs := by
  unfold stringToken at read
  split at read
  · cases read
  · rename_i body
    cases read
    exact stringBody_suffix body
  · rename_i body
    cases read
    exact stringBody_suffix body

theorem symbolToken_suffix (read : symbolToken cs = .ok (found, after)) : after <:+ cs.tail := by
  unfold symbolToken at read
  split at read
  all_goals cases read
  all_goals simp [List.suffix_cons, List.suffix_cons_iff]

-- The first character settles what is read: a number, a point with or without digits behind it, a string, a word or a
-- symbol.
theorem token_cases (c : Char) (rest : List Char) :
    (c.isDigit ∧ ∃ whole cs, cs <:+ rest ∧ token (c :: rest) = .ok (numberToken whole cs)) ∨
    (c = '.' ∧ token (c :: rest) = .error rest) ∨
    (c = '.' ∧ ∃ n, token (c :: rest) = .ok (.number n, (rest.span Char.isDigit).2)) ∨
    ((c = '"' ∨ c = '\x27') ∧ token (c :: rest) = stringToken c rest) ∨
    (opensIdentifier c ∧ ∃ word, token (c :: rest) = .ok (.ofWord word, (rest.span continuesIdentifier).2)) ∨
    token (c :: rest) = symbolToken (c :: rest) := by
  rw [token]
  split
  · rename_i digit
    refine .inl ⟨digit, _, ((c :: rest).span Char.isDigit).2, ?_, rfl⟩
    rw [List.span_eq_takeWhile_dropWhile, List.dropWhile_cons_of_pos digit]
    exact List.dropWhile_suffix _
  · split
    · rename_i point
      have point : c = '.' := by simpa using point
      split
      · exact .inr (.inl ⟨point, rfl⟩)
      · rename_i spanned
        exact .inr (.inr (.inl ⟨point, _, by rw [spanned]⟩))
    · split
      · rename_i quoted
        exact .inr (.inr (.inr (.inl ⟨by simpa using quoted, rfl⟩)))
      · split
        · rename_i opens
          exact .inr (.inr (.inr (.inr (.inl ⟨opens, _, rfl⟩))))
        · exact .inr (.inr (.inr (.inr (.inr rfl))))

-- Every token takes a character.
theorem token_suffix (read : token (c :: rest) = .ok (found, after)) : after <:+ rest := by
  rcases token_cases c rest with ⟨_, whole, cs, behind, number⟩ | ⟨_, point⟩ | ⟨_, n, fraction⟩ | ⟨_, string⟩ |
    ⟨_, word, name⟩ | symbol
  · have left := numberToken_suffix whole cs
    rw [Except.ok.inj (number.symm.trans read)] at left
    exact left.trans behind
  · cases point.symm.trans read
  · cases fraction.symm.trans read
    exact span_suffix _ _
  · exact stringToken_suffix (string.symm.trans read)
  · cases name.symm.trans read
    exact span_suffix _ _
  · exact symbolToken_suffix (symbol.symm.trans read)

-- Reading never stops for want of fuel.
theorem tokensFrom_spells {fuel : Nat} (spells : Spells cs tokens) (enough : cs.length < fuel) :
    ∃ found, tokensFrom fuel cs = .ok found ∧ found.map Prod.fst = tokens := by
  induction spells generalizing fuel with
  | nil =>
    obtain ⟨fuel, rfl⟩ := Nat.exists_eq_succ_of_ne_zero (Nat.ne_zero_of_lt enough)
    exact ⟨[], rfl, rfl⟩
  | blank blank spells ih =>
    obtain ⟨found, read, same⟩ := ih (Nat.lt_of_succ_lt enough)
    obtain ⟨fuel, rfl⟩ := Nat.exists_eq_succ_of_ne_zero (Nat.ne_zero_of_lt enough)
    refine ⟨found, ?_, same⟩
    rw [tokensFrom] at read ⊢
    rwa [List.dropWhile_cons_of_pos blank]
  | @token c rest after token tokens solid read spells ih =>
    obtain ⟨fuel, rfl⟩ := Nat.exists_eq_succ_of_ne_zero (Nat.ne_zero_of_lt enough)
    have shorter := (token_suffix read).length_le
    obtain ⟨found, readBehind, same⟩ := ih (lt_of_le_of_lt shorter (Nat.lt_of_succ_lt_succ enough))
    refine ⟨(token, c :: rest) :: found, ?_, by rw [List.map_cons, same]⟩
    rw [tokensFrom, List.dropWhile_cons_of_neg (by simp [solid])]
    simp only [read, readBehind]

theorem tokens_spells (spells : Spells cs tokens) :
    ∃ lexemes, Formula.tokens cs = .ok lexemes ∧ lexemes.map Lexeme.token = tokens := by
  obtain ⟨found, read, same⟩ := tokensFrom_spells spells (Nat.lt_succ_self _)
  refine ⟨found.map fun item => ⟨item.1, offset cs item.2⟩, by rw [Formula.tokens, read], ?_⟩
  rw [List.map_map]
  exact same

theorem span_apart {p : Char → Bool} {word : List Char} (all : ∀ c ∈ word, p c) (stops : ∀ c ∈ rest.head?, p c = false) :
    (word ++ rest).span p = (word, rest) := by
  rw [List.span_eq_takeWhile_dropWhile, List.takeWhile_append_of_pos all, List.dropWhile_append_of_pos all]
  cases rest with
  | nil => simp
  | cons c rest => simp [stops c rfl]

-- What ends a word or a number: the end of the text, a blank or a parenthesis.
def Parted (cs : List Char) : Prop := ∀ c ∈ cs.head?, c = ' ' ∨ c = ')'

theorem Parted.nil : Parted [] := fun _ none => nomatch none

theorem Parted.blank (rest : List Char) : Parted (' ' :: rest) := by simp [Parted]

theorem Parted.closing (rest : List Char) : Parted (')' :: rest) := by simp [Parted]

theorem Parted.stops {p : Char → Bool} (parted : Parted rest) (blank : p ' ' = false) (closing : p ')' = false) :
    ∀ c ∈ rest.head?, p c = false := by
  intro c first
  rcases parted c first with rfl | rfl
  · exact blank
  · exact closing

theorem Spells.opening (spells : Spells rest tokens) : Spells ('(' :: rest) (.opening :: tokens) := .token rfl rfl spells

theorem Spells.closing (spells : Spells rest tokens) : Spells (')' :: rest) (.closing :: tokens) := .token rfl rfl spells

theorem Spells.minus (spells : Spells rest tokens) : Spells ('-' :: rest) (.operator .sub :: tokens) := .token rfl rfl spells

theorem Spells.word (spells : Spells rest tokens) (c : Char) (word : List Char) (parted : Parted rest) (opens : opensIdentifier c)
    (continues : word.all continuesIdentifier) (solid : isBlank c = false)
    (other : (c.isDigit || c == '.' || c == '"' || c == '\x27') = false) :
    Spells (c :: (word ++ rest)) (.ofWord (.ofList (c :: word)) :: tokens) := by
  refine .token solid ?_ spells
  simp only [Bool.or_eq_false_iff] at other
  rw [Formula.token, span_apart (List.all_eq_true.mp continues) (parted.stops rfl rfl)]
  simp [other, opens]

theorem Spells.operator (op : Operator) (spells : Spells rest tokens) :
    Spells (op.spelling.toList ++ ' ' :: rest) (.operator op :: tokens) := by
  have behind : Spells (' ' :: rest) tokens := .blank rfl spells
  cases op with
  | and => exact behind.word 'a' ['n', 'd'] (.blank rest) rfl rfl rfl rfl
  | or => exact behind.word 'o' ['r'] (.blank rest) rfl rfl rfl rfl
  | _ => exact .token rfl rfl behind

theorem Spells.element (spells : Spells rest tokens) (parted : Parted rest) : Spells ("x".toList ++ rest) (.element :: tokens) :=
  spells.word 'x' [] parted rfl rfl rfl rfl

theorem Spells.truth (b : Bool) (spells : Spells rest tokens) (parted : Parted rest) :
    Spells ((Value.boolText b).toList ++ rest) (.truth b :: tokens) := by
  cases b with
  | false => exact spells.word 'F' ['a', 'l', 's', 'e'] parted rfl rfl rfl rfl
  | true => exact spells.word 'T' ['r', 'u', 'e'] parted rfl rfl rfl rfl

theorem Spells.not (spells : Spells rest tokens) : Spells ("not ".toList ++ rest) (.not :: tokens) :=
  Spells.word (.blank rfl spells) 'n' ['o', 't'] (.blank rest) rfl rfl rfl rfl

-- The characters that the reader of strings takes for what they are written for.
def Sayable (c : Char) : Prop := c = '\n' ∨ c = '\t' ∨ 0x20 ≤ c.toNat ∧ c.toNat ≠ 0x7F

theorem stringBody_escaped (sayable : Sayable c) (cs : List Char) : stringBody '"' (escapeIn '"' c ++ cs) =
    (stringBody '"' cs).map fun result => (result.1.map (c :: ·), result.2) := by
  by_cases backslash : c = '\\'
  · subst backslash
    exact stringBody.eq_3 '"' '\\' cs
  by_cases newline : c = '\n'
  · subst newline
    exact stringBody.eq_3 '"' 'n' cs
  by_cases tab : c = '\t'
  · subst tab
    exact stringBody.eq_3 '"' 't' cs
  by_cases closes : c = '"'
  · subst closes
    exact stringBody.eq_3 '"' '"' cs
  have graphic : 0x20 ≤ c.toNat ∧ c.toNat ≠ 0x7F := (sayable.resolve_left newline).resolve_left tab
  have notReturn : c ≠ '\r' := by
    rintro rfl
    exact absurd graphic.1 (by decide)
  have itself : escapeIn '"' c = [c] := by
    simp [escapeIn, backslash, newline, notReturn, tab, closes, not_lt.mpr graphic.1, graphic.2]
  rw [itself, List.singleton_append, stringBody.eq_4 _ _ _ (by simp [backslash]) (by simp [backslash])]
  simp [closes]

theorem stringBody_quoted (sayable : ∀ c ∈ cs, Sayable c) (rest : List Char) :
    stringBody '"' (cs.flatMap (escapeIn '"') ++ '"' :: rest) = some (some cs, rest) := by
  induction cs with
  | nil => simp [stringBody]
  | cons c cs ih =>
    rw [List.flatMap_cons, List.append_assoc, stringBody_escaped (sayable c List.mem_cons_self),
      ih fun other member => sayable other (List.mem_cons_of_mem _ member)]
    rfl

theorem Spells.string {s : String} (spells : Spells rest tokens) (sayable : ∀ c ∈ s.toList, Sayable c) :
    Spells ((Text.doubleQuoted s).toList ++ rest) (.string s :: tokens) := by
  have body := stringBody_quoted sayable rest
  rw [Text.doubleQuoted, quoteWith, String.toList_ofList, List.cons_append, List.append_assoc, List.singleton_append]
  refine .token rfl ?_ spells
  simp [Formula.token, stringToken, body]

theorem isBlank_of_isDigit (digit : c.isDigit) : isBlank c = false := by
  have bounds : 48 ≤ c.toNat ∧ c.toNat ≤ 57 := Char.isDigit_iff_toNat.mp digit
  simp [isBlank]
  omega

theorem token_number (some : whole ≠ []) (digits : ∀ c ∈ whole, c.isDigit) (stops : ∀ c ∈ rest.head?, c.isDigit = false) :
    token (whole ++ rest) = .ok (numberToken whole rest) := by
  have apart := span_apart digits stops
  cases whole with
  | nil => exact absurd rfl some
  | cons c tail =>
    rw [List.cons_append] at apart ⊢
    rw [token, if_pos (digits c List.mem_cons_self), apart]

theorem Spells.digits (spells : Spells rest tokens) (some : whole ≠ []) (digits : ∀ c ∈ whole, c.isDigit)
    (stops : ∀ c ∈ cs.head?, c.isDigit = false) (read : numberToken whole cs = (found, rest)) : Spells (whole ++ cs) (found :: tokens) := by
  obtain ⟨c, tail, rfl⟩ := List.exists_cons_of_ne_nil some
  exact .token (isBlank_of_isDigit (digits c List.mem_cons_self)) ((token_number some digits stops).trans (congrArg _ read)) spells

theorem Spells.integer (spells : Spells rest tokens) (parted : Parted rest) (some : whole ≠ [])
    (digits : ∀ c ∈ whole, c.isDigit) : Spells (whole ++ rest) (.number (digitsNumber whole []) :: tokens) := by
  refine spells.digits some digits (parted.stops rfl rfl) ?_
  unfold numberToken
  split
  · cases parted '.' rfl <;> contradiction
  · rfl

theorem Spells.decimal {point : List Char} (spells : Spells rest tokens) (parted : Parted rest) (some : whole ≠ [])
    (digits : ∀ c ∈ whole, c.isDigit) (somePoint : point ≠ []) (pointDigits : ∀ c ∈ point, c.isDigit) :
    Spells (whole ++ '.' :: (point ++ rest)) (.number (digitsNumber whole point) :: tokens) := by
  refine spells.digits some digits (by simp) ?_
  rw [numberToken, span_apart pointDigits (parted.stops rfl rfl)]
  cases point with
  | nil => exact absurd rfl somePoint
  | cons => rfl

end Dataflow.Formula
