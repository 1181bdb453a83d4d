import Dataflow.Proofs.Formula.Lexing
import Dataflow.Proofs.Formula.Nesting
import Dataflow.Proofs.Formula.Reading

namespace Dataflow.Formula

-- Behind `position` bytes, and between two characters, the source goes on with `rest`.
def StartsAt (source : String) (position : Nat) (rest : List Char) : Prop :=
  ∃ before, source = before ++ .ofList rest ∧ before.utf8ByteSize = position

-- The token that the source is read as at the lexeme's position.
def Stands (source : String) (lexeme : Lexeme) : Prop :=
  ∃ rest after, StartsAt source lexeme.position rest ∧ token rest = .ok (lexeme.token, after)

variable {cs rest after fault : List Char} {found : Token} {source : String} {lexemes behind : List Lexeme}
  {error : FormulaError}

theorem byteLength_eq (cs : List Char) : byteLength cs = (String.ofList cs).utf8ByteSize := by
  induction cs with
  | nil => rfl
  | cons c cs ih => rw [byteLength, ih, String.ofList_cons, String.utf8ByteSize_append, String.utf8ByteSize_singleton]

theorem startsAt_offset (left : rest <:+ source.toList) : StartsAt source (offset source.toList rest) rest := by
  obtain ⟨before, whole⟩ := left
  have split : source = .ofList before ++ .ofList rest := by
    rw [← String.ofList_append, whole, String.ofList_toList]
  refine ⟨.ofList before, split, ?_⟩
  rw [offset, byteLength_eq, byteLength_eq, String.ofList_toList, split, String.utf8ByteSize_append, Nat.add_sub_cancel]

theorem symbolToken_fault (failed : symbolToken cs = .error fault) : fault <:+ cs := by
  unfold symbolToken at failed
  split at failed
  all_goals cases failed
  all_goals simp [List.suffix_cons]

-- A string goes wrong only behind its end, where a backslash has nothing to stand for.
theorem stringToken_fault {quote : Char} (failed : stringToken quote cs = .error fault) : fault = [] := by
  unfold stringToken at failed
  split at failed
  all_goals cases failed
  rfl

theorem token_fault (failed : token cs = .error fault) : fault <:+ cs := by
  cases cs with
  | nil =>
    cases failed
    exact List.suffix_rfl
  | cons c rest =>
    rcases token_cases c rest with ⟨_, whole, cs, _, number⟩ | ⟨_, point⟩ | ⟨_, n, fraction⟩ | ⟨_, string⟩ |
      ⟨_, word, name⟩ | symbol
    · cases number.symm.trans failed
    · cases point.symm.trans failed
      exact List.suffix_cons _ _
    · cases fraction.symm.trans failed
    · rw [stringToken_fault (string.symm.trans failed)]
      exact List.nil_suffix
    · cases name.symm.trans failed
    · exact symbolToken_fault (symbol.symm.trans failed)

theorem numberToken_number (whole cs : List Char) : ∃ n, (numberToken whole cs).1 = .number n := by
  unfold numberToken
  split
  · split
    · exact ⟨_, rfl⟩
    · exact ⟨_, rfl⟩
  · exact ⟨_, rfl⟩

theorem ofWord_closed (word : String) : Token.ofWord word ≠ .unterminated := by
  unfold Token.ofWord
  split <;> exact nofun

theorem symbolToken_closed (read : symbolToken cs = .ok (found, after)) : found ≠ .unterminated := by
  unfold symbolToken at read
  split at read
  all_goals cases read
  all_goals exact nofun

theorem token_unterminated (read : token cs = .ok (.unterminated, after)) :
    ∃ quote rest, cs = quote :: rest ∧ (quote = '"' ∨ quote = '\x27') := by
  cases cs with
  | nil => cases read
  | cons c rest =>
    refine ⟨c, rest, rfl, ?_⟩
    rcases token_cases c rest with ⟨_, whole, cs, _, number⟩ | ⟨_, point⟩ | ⟨_, n, fraction⟩ | ⟨quoted, _⟩ |
      ⟨_, word, name⟩ | symbol
    · obtain ⟨n, same⟩ := numberToken_number whole cs
      rw [Except.ok.inj (number.symm.trans read)] at same
      cases same
    · cases point.symm.trans read
    · cases fraction.symm.trans read
    · exact quoted
    · have same := congrArg Prod.fst (Except.ok.inj (name.symm.trans read))
      exact absurd same (ofWord_closed word)
    · exact absurd rfl (symbolToken_closed (symbol.symm.trans read))

theorem tokensFrom_cases (fuel : Nat) (cs : List Char) :
    tokensFrom (fuel + 1) cs = .ok [] ∨ ∃ solid, solid <:+ cs ∧
      ((∃ fault, token solid = .error fault ∧ tokensFrom (fuel + 1) cs = .error fault) ∨
      ∃ first after, token solid = .ok (first, after) ∧ after <:+ cs ∧
        tokensFrom (fuel + 1) cs = (tokensFrom fuel after).map ((first, solid) :: ·)) := by
  have solid := List.dropWhile_suffix Text.isBlank (l := cs)
  rw [tokensFrom]
  split
  · exact .inl rfl
  · rename_i c rest left
    rw [left] at solid
    refine .inr ⟨c :: rest, solid, ?_⟩
    split
    · rename_i fault here
      exact .inl ⟨fault, here, rfl⟩
    · rename_i first after here
      have behind := ((token_suffix here).trans (List.suffix_cons c rest)).trans solid
      refine .inr ⟨first, after, here, behind, ?_⟩
      cases tokensFrom fuel after with
      | error fault => rfl
      | ok others => rfl

theorem tokensFrom_items {fuel : Nat} {items : List (Token × List Char)} (read : tokensFrom fuel cs = .ok items) :
    ∀ item ∈ items, item.2 <:+ cs ∧ ∃ after, token item.2 = .ok (item.1, after) := by
  induction fuel generalizing cs items with
  | zero =>
    cases read
    exact nofun
  | succ fuel ih =>
    rcases tokensFrom_cases fuel cs with none | ⟨solid, front, ⟨fault, _, stops⟩ | ⟨first, after, here, behind, goes⟩⟩
    · cases none.symm.trans read
      exact nofun
    · cases stops.symm.trans read
    · rw [goes] at read
      cases later : tokensFrom fuel after with
      | error fault =>
        rw [later] at read
        cases read
      | ok others =>
        rw [later] at read
        cases read
        intro item member
        rcases List.mem_cons.mp member with rfl | inside
        · exact ⟨front, after, here⟩
        · obtain ⟨suffix, spelled⟩ := ih later item inside
          exact ⟨suffix.trans behind, spelled⟩

theorem tokensFrom_fault {fuel : Nat} (failed : tokensFrom fuel cs = .error fault) : fault <:+ cs := by
  induction fuel generalizing cs with
  | zero => cases failed
  | succ fuel ih =>
    rcases tokensFrom_cases fuel cs with none | ⟨solid, front, ⟨fault', here, stops⟩ | ⟨first, after, _, behind, goes⟩⟩
    · cases none.symm.trans failed
    · cases stops.symm.trans failed
      exact (token_fault here).trans front
    · rw [goes] at failed
      cases later : tokensFrom fuel after with
      | error fault' =>
        rw [later] at failed
        cases failed
        exact (ih later).trans behind
      | ok others =>
        rw [later] at failed
        cases failed

theorem tokens_stand (lexed : tokens source.toList = .ok lexemes) : ∀ lexeme ∈ lexemes, Stands source lexeme := by
  unfold tokens at lexed
  split at lexed
  · rename_i items read
    cases lexed
    intro lexeme member
    obtain ⟨item, inside, rfl⟩ := List.mem_map.mp member
    obtain ⟨suffix, after, spelled⟩ := tokensFrom_items read item inside
    exact ⟨item.2, after, startsAt_offset suffix, spelled⟩
  · cases lexed
  · cases lexed

theorem tokens_error (failed : tokens source.toList = .error error) :
    error = .unexpectedEnd ∨ ∃ position c rest, error = .unexpectedCharacter position c ∧ StartsAt source position (c :: rest) := by
  unfold tokens at failed
  split at failed
  · cases failed
  · cases failed
    exact .inl rfl
  · rename_i c rest read
    cases failed
    exact .inr ⟨_, c, rest, rfl, startsAt_offset (tokensFrom_fault read)⟩

-- The first pass over the tokens points to a string that is not closed, and to nothing else.
theorem check_error {opened operators : Nat} (failed : check opened operators lexemes = .error error) :
    (∃ lexeme ∈ lexemes, lexeme.token = .unterminated ∧ error = .unterminatedString lexeme.position) ∨
      (∃ name, error = .unknownName name) ∨ error = .nestingTooDeep := by
  induction lexemes generalizing opened operators with
  | nil => cases failed
  | cons lexeme lexemes ih =>
    obtain ⟨token, position⟩ := lexeme
    cases legible : token.legible with
    | false =>
      cases token with
      | unterminated =>
        cases failed
        exact .inl ⟨_, List.mem_cons_self, rfl, rfl⟩
      | name word =>
        cases failed
        exact .inr (.inl ⟨word, rfl⟩)
      | _ => cases legible
    | true =>
      rw [check_cons legible] at failed
      split at failed
      · cases failed
        exact .inr (.inr rfl)
      · rcases ih failed with ⟨lexeme, member, unclosed⟩ | other
        · exact .inl ⟨lexeme, List.mem_cons_of_mem _ member, unclosed⟩
        · exact .inr other

-- Reading tokens ends, or goes wrong, in front of some rest of them.
def Within (lexemes : List Lexeme) : Reading → Prop
  | .ok (_, rest) => rest <:+ lexemes
  | .error fault => ∃ rest, rest <:+ lexemes ∧ fault = unexpected rest

theorem Within.mono {reading : Reading} (within : Within behind reading) (suffix : behind <:+ lexemes) :
    Within lexemes reading := by
  cases reading with
  | ok result => exact List.IsSuffix.trans within suffix
  | error fault =>
    obtain ⟨rest, inner, same⟩ := within
    exact ⟨rest, inner.trans suffix, same⟩

theorem Within.map {reading : Reading} {build : Formula → Formula} (within : Within lexemes reading) :
    Within lexemes (reading.map build) := by
  cases reading with
  | ok result => exact within
  | error fault => exact within

theorem Within.unexpected (lexemes : List Lexeme) : Within lexemes (.error (unexpected lexemes)) :=
  ⟨lexemes, List.suffix_rfl, rfl⟩

mutual

theorem parseFrom_within (fuel power : Nat) (lexemes : List Lexeme) : Within lexemes (parseFrom fuel power lexemes) := by
  cases fuel with
  | zero => exact .unexpected lexemes
  | succ fuel =>
    have front := operand_within fuel lexemes
    rw [parseFrom]
    split
    · rename_i left rest read
      rw [read] at front
      exact (extend_within fuel power left rest).mono front
    · rename_i fault failed
      rwa [failed] at front
termination_by fuel

theorem operand_within (fuel : Nat) (lexemes : List Lexeme) : Within lexemes (operand fuel lexemes) := by
  cases fuel with
  | zero => exact .unexpected lexemes
  | succ fuel =>
    cases lexemes with
    | nil => exact .unexpected []
    | cons lexeme rest =>
      obtain ⟨token, position⟩ := lexeme
      have behind : rest <:+ ⟨token, position⟩ :: rest := List.suffix_cons _ _
      have inner := fun power => (parseFrom_within fuel power rest).mono behind
      cases token with
      | number | string | truth | element => exact behind
      | unterminated | name | closing => exact .unexpected _
      | not => exact (inner _).map
      | bang => exact (inner _).map
      | operator op =>
        cases op with
        | sub => exact (inner _).map
        | add => exact inner _
        | _ => exact .unexpected _
      | opening =>
        have inside := inner 0
        rw [operand]
        split
        · rename_i read
          rw [read] at inside
          exact (List.suffix_cons _ _).trans inside
        · rename_i read
          rw [read] at inside
          exact ⟨_, inside, rfl⟩
        · rename_i failed
          rwa [failed] at inside
termination_by fuel

theorem extend_within (fuel power : Nat) (left : Formula) (lexemes : List Lexeme) :
    Within lexemes (extend fuel power left lexemes) := by
  cases fuel with
  | zero => exact .unexpected lexemes
  | succ fuel =>
    cases lexemes with
    | nil => exact List.suffix_rfl
    | cons lexeme rest =>
      obtain ⟨token, position⟩ := lexeme
      cases token with
      | operator op =>
        have right := (parseFrom_within fuel (rightPower op) rest).mono (List.suffix_cons ⟨.operator op, position⟩ rest)
        rw [extend]
        split
        · split
          · rename_i read
            rw [read] at right
            exact (extend_within fuel power _ _).mono right
          · rename_i failed
            rwa [failed] at right
        · exact List.suffix_rfl
      | _ => exact List.suffix_rfl
termination_by fuel

end

theorem ofLexemes_error (failed : ofLexemes lexemes = .error error) : ∃ rest, rest <:+ lexemes ∧ error = unexpected rest := by
  have within := parseFrom_within (3 * lexemes.length + 3) 0 lexemes
  unfold ofLexemes at failed
  split at failed
  · cases failed
  · rename_i read
    cases failed
    rw [read] at within
    exact ⟨_, within, rfl⟩
  · rename_i read
    cases failed
    rwa [read] at within

-- A text is refused where it has no tokens, in the first pass over them, or where they make no formula.
theorem parse_error_cases (failed : parse source = .error error) :
    tokens source.toList = .error error ∨ ∃ lexemes, tokens source.toList = .ok lexemes ∧
      (check 0 0 lexemes = .error error ∨ ofLexemes lexemes = .error error) := by
  cases lexed : tokens source.toList with
  | error fault =>
    rw [parse, lexed] at failed
    cases failed
    exact .inl rfl
  | ok lexemes =>
    rw [parse_checked lexed] at failed
    refine .inr ⟨lexemes, rfl, ?_⟩
    cases checked : check 0 0 lexemes with
    | error fault =>
      rw [checked] at failed
      cases failed
      exact .inl rfl
    | ok passed =>
      rw [checked] at failed
      exact .inr failed

def Located (source : String) : FormulaError → Prop
  | .unexpectedCharacter position found => ∃ rest, StartsAt source position (found :: rest)
  | .unterminatedString position => ∃ quote rest after, (quote = '"' ∨ quote = '\x27') ∧
      StartsAt source position (quote :: rest) ∧ token (quote :: rest) = .ok (.unterminated, after)
  | .unexpectedToken position found => ∃ lexemes, tokens source.toList = .ok lexemes ∧
      ∃ lexeme ∈ lexemes, lexeme.position = position ∧ lexeme.token.text = found ∧ Stands source lexeme
  | _ => True

theorem tokens_located (failed : tokens source.toList = .error error) : Located source error := by
  rcases tokens_error failed with rfl | ⟨position, c, rest, rfl, starts⟩
  · trivial
  · exact ⟨rest, starts⟩

theorem check_located (lexed : tokens source.toList = .ok lexemes) (failed : check 0 0 lexemes = .error error) :
    Located source error := by
  rcases check_error failed with ⟨lexeme, member, unclosed, rfl⟩ | ⟨name, rfl⟩ | rfl
  · obtain ⟨rest, after, starts, read⟩ := tokens_stand lexed lexeme member
    rw [unclosed] at read
    obtain ⟨quote, rest, rfl, quoted⟩ := token_unterminated read
    exact ⟨quote, rest, after, quoted, starts, read⟩
  · trivial
  · trivial

theorem ofLexemes_located (lexed : tokens source.toList = .ok lexemes) (failed : ofLexemes lexemes = .error error) :
    Located source error := by
  obtain ⟨rest, suffix, rfl⟩ := ofLexemes_error failed
  cases rest with
  | nil => trivial
  | cons lexeme rest =>
    have member := suffix.subset List.mem_cons_self
    exact ⟨lexemes, lexed, lexeme, member, rfl, rfl, tokens_stand lexed lexeme member⟩

theorem parse_located (failed : parse source = .error error) : Located source error := by
  rcases parse_error_cases failed with unlexed | ⟨lexemes, lexed, unchecked | unread⟩
  · exact tokens_located unlexed
  · exact check_located lexed unchecked
  · exact ofLexemes_located lexed unread

-- A character that takes two bytes stands in front of each of the faults.
theorem accented_located :
    (parse "'né' =! x" = .error (.unexpectedCharacter 7 '!') ∧
      Located "'né' =! x" (.unexpectedCharacter 7 '!')) ∧
    (parse "'né' + \"open" = .error (.unterminatedString 8) ∧
      Located "'né' + \"open" (.unterminatedString 8)) ∧
    parse "'né' && && x" = .error (.unexpectedToken 9 "and") ∧
      Located "'né' && && x" (.unexpectedToken 9 "and") := by
  have character : parse "'né' =! x" = .error (.unexpectedCharacter 7 '!') := by cbv
  have string : parse "'né' + \"open" = .error (.unterminatedString 8) := by cbv
  have token : parse "'né' && && x" = .error (.unexpectedToken 9 "and") := by cbv
  exact ⟨⟨character, parse_located character⟩, ⟨string, parse_located string⟩, token, parse_located token⟩

end Dataflow.Formula
