import Dataflow.Proofs.Json.Number

namespace Dataflow.Json

variable {cs ds rest blank : List Char} {raw : Raw} {pieces : List Piece} {items : List Raw}
  {members : List (List Piece × Raw)} {fuel : Nat}

-- The inside of a string.
inductive Body : List Char → List Piece → Prop where
  | nil : Body [] []
  | char {c : Char} {cs : List Char} {pieces : List Piece} (plain : ¬c.toNat < 0x20) (other : c ≠ '"' ∧ c ≠ '\\')
      (rest : Body cs pieces) : Body (c :: cs) (.char c :: pieces)
  | escape {c meant : Char} {cs : List Char} {pieces : List Piece} (escaped : Raw.escaped? c = some meant)
      (rest : Body cs pieces) : Body ('\\' :: c :: cs) (.char meant :: pieces)
  | unit {a b c d : Char} {code : Nat} {cs : List Char} {pieces : List Piece} (spelled : Raw.unit? a b c d = some code)
      (rest : Body cs pieces) : Body ('\\' :: 'u' :: a :: b :: c :: d :: cs) (.unit code :: pieces)

def Blank (cs : List Char) : Prop := ∀ c ∈ cs, Raw.isBlank c

-- What a stretch of text spells. Items and members are one or more.
inductive Part where
  | value (raw : Raw)
  | items (items : List Raw)
  | members (members : List (List Piece × Raw))

inductive Spells : List Char → Part → Prop where
  | null : Spells ['n', 'u', 'l', 'l'] (.value .null)
  | true : Spells ['t', 'r', 'u', 'e'] (.value (.bool .true))
  | false : Spells ['f', 'a', 'l', 's', 'e'] (.value (.bool .false))
  | number {cs : List Char} (number : Numeral cs) : Spells cs (.value (.number cs))
  | string {cs : List Char} {pieces : List Piece} (body : Body cs pieces) :
      Spells ('"' :: (cs ++ ['"'])) (.value (.string pieces))
  | noItems : Spells ['[', ']'] (.value (.array []))
  | array {cs blank : List Char} {items : List Raw} (inside : Spells cs (.items items)) (blanks : Blank blank) :
      Spells ('[' :: (cs ++ (blank ++ [']']))) (.value (.array items))
  | noMembers : Spells ['\x7b', '\x7d'] (.value (.object []))
  | object {cs blank : List Char} {members : List (List Piece × Raw)} (inside : Spells cs (.members members))
      (blanks : Blank blank) : Spells ('\x7b' :: (cs ++ (blank ++ ['\x7d']))) (.value (.object members))
  | behind {blank cs : List Char} {raw : Raw} (blanks : Blank blank) (value : Spells cs (.value raw)) :
      Spells (blank ++ cs) (.value raw)
  | lastItem {cs : List Char} {raw : Raw} (value : Spells cs (.value raw)) : Spells cs (.items [raw])
  | item {cs ds : List Char} {raw : Raw} {items : List Raw} (value : Spells cs (.value raw))
      (more : Spells ds (.items items)) : Spells (cs ++ ',' :: ds) (.items (raw :: items))
  | lastMember {blank ks cs : List Char} {pieces : List Piece} {raw : Raw} (blanks : Blank blank) (key : Body ks pieces)
      (value : Spells cs (.value raw)) : Spells (blank ++ '"' :: (ks ++ '"' :: ':' :: cs)) (.members [(pieces, raw)])
  | member {blank ks cs ds : List Char} {pieces : List Piece} {raw : Raw} {members : List (List Piece × Raw)}
      (blanks : Blank blank) (key : Body ks pieces) (value : Spells cs (.value raw)) (more : Spells ds (.members members)) :
      Spells (blank ++ '"' :: (ks ++ '"' :: ':' :: (cs ++ ',' :: ds))) (.members ((pieces, raw) :: members))

theorem stringBody_append (body : Body cs pieces) : Raw.stringBody (cs ++ '"' :: rest) = some (pieces, rest) := by
  induction body with
  | nil => rw [List.nil_append, Raw.stringBody]
  | @char c cs pieces plain other _ ih =>
    rw [List.cons_append, Raw.stringBody.eq_5 _ _ other.1 (fun _ _ _ _ _ same _ => other.2 same)
      (fun _ _ same _ => other.2 same), if_neg (by simp [other.2, plain]), ih]
    rfl
  | @escape c meant cs pieces escaped _ ih =>
    have named : c ≠ 'u' := by
      rintro rfl
      cases escaped
    rw [List.cons_append, List.cons_append, Raw.stringBody.eq_4 _ _ fun _ _ _ _ _ same _ => named same, escaped]
    simp only [ih]
    rfl
  | unit spelled _ ih =>
    simp only [List.cons_append, Raw.stringBody, spelled, ih]
    rfl

theorem skip_blank (blanks : Blank blank) (cs : List Char) : Raw.skip (blank ++ cs) = Raw.skip cs :=
  List.dropWhile_append_of_pos blanks

theorem skip_cons {c : Char} (other : Raw.isBlank c = false) (cs : List Char) : Raw.skip (c :: cs) = c :: cs :=
  List.dropWhile_cons_of_neg (by simp [other])

theorem skip_skip (cs : List Char) : Raw.skip (Raw.skip cs) = Raw.skip cs := List.dropWhile_idempotent _ _

theorem value?_skip (fuel : Nat) (cs : List Char) : Raw.value? fuel (Raw.skip cs) = Raw.value? fuel cs := by
  cases fuel with
  | zero => rw [Raw.value?, Raw.value?]
  | succ fuel => rw [Raw.value?, Raw.value?, skip_skip]

theorem items?_skip (fuel : Nat) (cs : List Char) : Raw.items? fuel (Raw.skip cs) = Raw.items? fuel cs := by
  cases fuel with
  | zero => rw [Raw.items?, Raw.items?]
  | succ fuel => rw [Raw.items?, Raw.items?, value?_skip]

theorem members?_skip (fuel : Nat) (cs : List Char) : Raw.members? fuel (Raw.skip cs) = Raw.members? fuel cs := by
  cases fuel with
  | zero => rw [Raw.members?, Raw.members?]
  | succ fuel => rw [Raw.members?, Raw.members?, skip_skip]

theorem closed_blank (blanks : Blank blank) (closed : Closed rest) : Closed (blank ++ rest) := by
  cases blank with
  | nil => exact closed
  | cons c blank =>
    rintro _ ⟨⟩
    have first : Raw.isBlank c := blanks c List.mem_cons_self
    simp only [Raw.isBlank, Bool.or_eq_true, beq_iff_eq] at first
    rcases first with ((rfl | rfl) | rfl) | rfl <;> decide

theorem closed_cons {c : Char} (mark : c = ',' ∨ c = ']' ∨ c = '\x7d') : Closed (c :: rest) := by
  rintro _ ⟨⟩
  rcases mark with rfl | rfl | rfl <;> decide

theorem Numeral.starts (number : Numeral cs) : ∃ c rest, cs = c :: rest ∧ (c = '-' ∨ c.isDigit) := by
  cases number with
  | clear number =>
    obtain ⟨c, rest, same, digit⟩ := number.starts
    exact ⟨c, rest, same, .inr digit⟩
  | minus => exact ⟨_, _, rfl, .inl rfl⟩

theorem first_not_blank {c : Char} (first : c = '-' ∨ c.isDigit) : Raw.isBlank c = false := by
  by_contra blank
  simp only [Raw.isBlank, Bool.not_eq_false, Bool.or_eq_true, beq_iff_eq] at blank
  rcases blank with ((rfl | rfl) | rfl) | rfl <;> exact absurd first (by decide)

theorem value?_numeral (number : Numeral cs) (closed : Closed rest) :
    Raw.value? (fuel + 1) (cs ++ rest) = some (.number cs, rest) := by
  have read := number?_append number closed
  obtain ⟨c, ds, rfl, first⟩ := number.starts
  rw [List.cons_append] at *
  rw [Raw.value?, skip_cons (first_not_blank first)]
  split
  case h_7 => rw [read]; rfl
  -- No other value starts like a number.
  all_goals
    rename_i same
    rw [(List.cons.inj same).1] at first
    exact absurd first (by decide)

theorem value?_array {c : Char} (start : Raw.skip cs = c :: ds) (other : c ≠ ']') :
    Raw.value? (fuel + 1) ('[' :: cs) = (Raw.items? fuel cs).map fun result => (.array result.1, result.2) := by
  rw [Raw.value?, skip_cons rfl]
  split
  case h_5 rest same =>
    obtain ⟨_, rfl⟩ := List.cons.inj same
    rw [start]
    split
    · rename_i close
      exact absurd (List.cons.inj close).1 other
    · rw [← start, items?_skip]
  case h_7 bracket _ => exact absurd rfl (bracket cs)
  all_goals
    rename_i same
    exact absurd (List.cons.inj same).1 (by decide)

theorem value?_object {c : Char} (start : Raw.skip cs = c :: ds) (other : c ≠ '\x7d') :
    Raw.value? (fuel + 1) ('\x7b' :: cs) = (Raw.members? fuel cs).map fun result => (.object result.1, result.2) := by
  rw [Raw.value?, skip_cons rfl]
  split
  case h_6 rest same =>
    obtain ⟨_, rfl⟩ := List.cons.inj same
    rw [start]
    split
    · rename_i close
      exact absurd (List.cons.inj close).1 other
    · rw [← start, members?_skip]
  case h_7 brace => exact absurd rfl (brace cs)
  all_goals
    rename_i same
    exact absurd (List.cons.inj same).1 (by decide)

-- No part starts like the bracket that closes it.
def Part.Starts : Part → Char → Prop
  | .value _, c | .items _, c => c ≠ ']'
  | .members _, c => c = '"'

theorem Spells.starts {part : Part} (spells : Spells cs part) (rest : List Char) :
    ∃ c ds, Raw.skip (cs ++ rest) = c :: ds ∧ part.Starts c := by
  induction spells generalizing rest with
  | null | true | false | string | noItems | array | noMembers | object =>
    exact ⟨_, _, skip_cons rfl _, by simp [Part.Starts]⟩
  | number number =>
    obtain ⟨c, ds, rfl, first⟩ := number.starts
    refine ⟨c, _, skip_cons (first_not_blank first) _, ?_⟩
    rintro rfl
    exact absurd first (by decide)
  | behind blanks _ ih =>
    rw [List.append_assoc, skip_blank blanks]
    exact ih rest
  | lastItem _ ih => exact ih rest
  | item _ _ ih _ =>
    rw [List.append_assoc]
    exact ih _
  | lastMember blanks | member blanks =>
    rw [List.append_assoc, skip_blank blanks]
    exact ⟨_, _, skip_cons rfl _, rfl⟩

theorem items?_last {after : List Char} (value : Raw.value? fuel cs = some (raw, rest)) (close : Raw.skip rest = ']' :: after) :
    Raw.items? (fuel + 1) cs = some ([raw], after) := by
  simp only [Raw.items?, value, close]

theorem items?_next {after : List Char} (value : Raw.value? fuel cs = some (raw, rest)) (comma : Raw.skip rest = ',' :: after) :
    Raw.items? (fuel + 1) cs = (Raw.items? fuel after).map fun result => (raw :: result.1, result.2) := by
  simp only [Raw.items?, value, comma]

theorem members?_last {ks after : List Char} (blanks : Blank blank) (key : Body ks pieces)
    (value : Raw.value? fuel cs = some (raw, rest)) (close : Raw.skip rest = '\x7d' :: after) :
    Raw.members? (fuel + 1) (blank ++ '"' :: (ks ++ '"' :: ':' :: cs)) = some ([(pieces, raw)], after) := by
  simp only [Raw.members?, skip_blank blanks, @skip_cons '"' rfl, stringBody_append key, @skip_cons ':' rfl, value, close]

theorem members?_next {ks after : List Char} (blanks : Blank blank) (key : Body ks pieces)
    (value : Raw.value? fuel cs = some (raw, rest)) (comma : Raw.skip rest = ',' :: after) :
    Raw.members? (fuel + 1) (blank ++ '"' :: (ks ++ '"' :: ':' :: cs)) =
      (Raw.members? fuel after).map fun result => ((pieces, raw) :: result.1, result.2) := by
  simp only [Raw.members?, skip_blank blanks, @skip_cons '"' rfl, stringBody_append key, @skip_cons ':' rfl, value, comma]

-- What the reader gives for a part in front of `rest`. The bracket that closes items or members may stand behind
-- blanks.
def Part.Read (cs : List Char) : Part → Prop
  | .value raw => ∀ fuel rest, cs.length ≤ fuel → Closed rest → Raw.value? (fuel + 1) (cs ++ rest) = some (raw, rest)
  | .items items => ∀ fuel blank rest, cs.length ≤ fuel → Blank blank →
      Raw.items? (fuel + 2) (cs ++ (blank ++ ']' :: rest)) = some (items, rest)
  | .members members => ∀ fuel blank rest, cs.length ≤ fuel → Blank blank →
      Raw.members? (fuel + 2) (cs ++ (blank ++ '\x7d' :: rest)) = some (members, rest)

theorem skip_close {c : Char} (blanks : Blank blank) (mark : Raw.isBlank c = false) (rest : List Char) :
    Raw.skip (blank ++ c :: rest) = c :: rest := (skip_blank blanks _).trans (skip_cons mark rest)

theorem Spells.read {part : Part} (spells : Spells cs part) : part.Read cs := by
  induction spells with
  | null | true | false | noItems | noMembers =>
    intro fuel rest _ _
    rfl
  | number number =>
    intro fuel rest _ closed
    exact value?_numeral number closed
  | string body =>
    intro fuel rest _ _
    rw [List.cons_append, Raw.value?, skip_cons rfl, List.append_assoc]
    simp only [List.singleton_append, stringBody_append body, Option.map_some]
  | @array cs blank items inside blanks ih =>
    intro fuel rest enough _
    simp only [List.length_cons, List.length_append, List.length_nil] at enough
    obtain ⟨fuel, rfl⟩ := @Nat.exists_eq_add_of_le' 2 fuel (by omega)
    simp only [List.cons_append, List.append_assoc, List.nil_append]
    obtain ⟨c, ds, start, other⟩ := inside.starts (blank ++ ']' :: rest)
    rw [value?_array start other, ih fuel blank rest (by omega) blanks]
    rfl
  | @object cs blank members inside blanks ih =>
    intro fuel rest enough _
    simp only [List.length_cons, List.length_append, List.length_nil] at enough
    obtain ⟨fuel, rfl⟩ := @Nat.exists_eq_add_of_le' 2 fuel (by omega)
    simp only [List.cons_append, List.append_assoc, List.nil_append]
    obtain ⟨c, ds, start, first⟩ := inside.starts (blank ++ '\x7d' :: rest)
    rw [value?_object start (by rw [show c = '"' from first]; decide), ih fuel blank rest (by omega) blanks]
    rfl
  | behind blanks value ih =>
    intro fuel rest enough closed
    rw [List.length_append] at enough
    rw [← value?_skip, List.append_assoc, skip_blank blanks, value?_skip]
    exact ih fuel rest (by omega) closed
  | lastItem value ih =>
    intro fuel blank rest enough blanks
    exact items?_last (ih fuel _ enough (closed_blank blanks (closed_cons (by simp)))) (skip_close blanks rfl rest)
  | item value more ih ih' =>
    intro fuel blank rest enough blanks
    simp only [List.length_cons, List.length_append] at enough
    obtain ⟨fuel, rfl⟩ := @Nat.exists_eq_add_of_le' 1 fuel (by omega)
    rw [List.append_assoc, List.cons_append, items?_next (ih (fuel + 1) _ (by omega) (closed_cons (by simp))) (skip_cons rfl _),
      ih' fuel blank rest (by omega) blanks]
    rfl
  | lastMember before key value ih =>
    intro fuel blank rest enough blanks
    simp only [List.length_cons, List.length_append] at enough
    simp only [List.append_assoc, List.cons_append]
    exact members?_last before key (ih fuel _ (by omega) (closed_blank blanks (closed_cons (by simp))))
      (skip_close blanks rfl rest)
  | member before key value more ih ih' =>
    intro fuel blank rest enough blanks
    simp only [List.length_cons, List.length_append] at enough
    obtain ⟨fuel, rfl⟩ := @Nat.exists_eq_add_of_le' 1 fuel (by omega)
    simp only [List.append_assoc, List.cons_append]
    rw [members?_next before key (ih (fuel + 1) _ (by omega) (closed_cons (by simp))) (skip_cons rfl _),
      ih' fuel blank rest (by omega) blanks]
    rfl

-- A text of the grammar is read as what it spells.
theorem ofText?_spells {s : String} (spells : Spells s.toList (.value raw)) : Raw.ofText? s = some raw := by
  have read := spells.read (2 * s.toList.length + 1) [] (by omega) (by simp [Closed])
  rw [List.append_nil] at read
  simp [Raw.ofText?, read, Raw.skip]

end Dataflow.Json
