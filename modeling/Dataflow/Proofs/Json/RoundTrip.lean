import Dataflow.Proofs.Json.Figures
import Dataflow.Proofs.Json.Grammar

namespace Dataflow.Json

variable {json : Json} {room : Nat} {items : List Json} {members : List (String × Json)} {key : String}

-- What a value must keep to: integers of a word, finite doubles, arrays and objects no deeper than `room`, and no
-- key twice in one object.
mutual
def Fits (room : Nat) : Json → Prop
  | .null | .bool _ | .string _ => True
  | .integer n => Text.leastWord ≤ n ∧ n < Text.wordCount
  | .float x => x.isFinite = true
  | .array items => match room with
    | 0 => False
    | room + 1 => ItemsFit room items
  | .object members => match room with
    | 0 => False
    | room + 1 => (members.map Prod.fst).Nodup ∧ MembersFit room members

def ItemsFit (room : Nat) : List Json → Prop
  | [] => True
  | item :: rest => Fits room item ∧ ItemsFit room rest

def MembersFit (room : Nat) : List (String × Json) → Prop
  | [] => True
  | (_, value) :: rest => Fits room value ∧ MembersFit room rest
end

-- The doubles in a value.
mutual
def floats : Json → List Float
  | .float x => [x]
  | .array items => floatsIn items
  | .object members => floatsOf members
  | .null | .bool _ | .integer _ | .string _ => []

def floatsIn : List Json → List Float
  | [] => []
  | item :: rest => floats item ++ floatsIn rest

def floatsOf : List (String × Json) → List Float
  | [] => []
  | (_, value) :: rest => floats value ++ floatsOf rest
end

-- Each double of the value is read back from its text.
def Exact (json : Json) : Prop := ∀ x ∈ json.floats, ReadsBack x

instance (json : Json) : Decidable json.Exact := inferInstanceAs (Decidable (∀ x ∈ json.floats, ReadsBack x))

theorem floatsIn_eq (items : List Json) : floatsIn items = items.flatMap floats := by
  induction items with
  | nil => rfl
  | cons item rest ih => rw [floatsIn, ih, List.flatMap_cons]

theorem floatsOf_eq (members : List (String × Json)) : floatsOf members = members.flatMap fun member => member.2.floats := by
  induction members with
  | nil => rfl
  | cons member rest ih => rw [floatsOf, ih, List.flatMap_cons]

theorem Exact.item (exact : (array items).Exact) : ∀ item ∈ items, item.Exact := by
  intro item member x inside
  apply exact x
  rw [floats, floatsIn_eq]
  exact List.mem_flatMap_of_mem member inside

theorem Exact.member (exact : (object members).Exact) : ∀ member ∈ members, member.2.Exact := by
  intro entry member x inside
  apply exact x
  rw [floats, floatsOf_eq]
  exact List.mem_flatMap_of_mem member inside

-- Control characters without a letter of their own are written as a code unit.
def pieceOf (c : Char) : Piece :=
  if c.toNat < 0x20 ∧ c ∉ ['\x08', '\t', '\n', '\x0c', '\r'] then .unit c.toNat else .char c

def pieces (s : String) : List Piece := s.toList.map pieceOf

-- The shape of the text of a value.
mutual
def raw : Json → Raw
  | .null => .null
  | .bool value => .bool value
  | .integer n => .number (integerText n)
  | .float x => if x.isFinite then .number (floatText x).toList else .null
  | .string s => .string (pieces s)
  | .array items => .array (rawItems items)
  | .object members => .object (rawMembers members)

def rawItems : List Json → List Raw
  | [] => []
  | item :: rest => raw item :: rawItems rest

def rawMembers : List (String × Json) → List (List Piece × Raw)
  | [] => []
  | (key, value) :: rest => (pieces key, raw value) :: rawMembers rest
end

-- Strings.

theorem unit?_control : ∀ n < 0x20, Raw.unit? '0' '0' (hexDigit (n / 16)) (hexDigit (n % 16)) = some n := by decide

theorem body_escape {cs : List Char} {read : List Piece} (c : Char) (body : Body cs read) :
    Body (escape c ++ cs) (pieceOf c :: read) := by
  by_cases lettered : c ∈ ['"', '\\', '\x08', '\t', '\n', '\x0c', '\r']
  · simp only [List.mem_cons, List.not_mem_nil, or_false] at lettered
    rcases lettered with rfl | rfl | rfl | rfl | rfl | rfl | rfl <;> exact .escape rfl body
  · simp only [List.mem_cons, List.not_mem_nil, or_false, not_or] at lettered
    obtain ⟨quote, slash, back, tab, line, feed, carriage⟩ := lettered
    simp only [escape, beq_iff_eq, quote, slash, back, tab, line, feed, carriage, if_false]
    by_cases control : c.toNat < 0x20
    · rw [if_pos control, show pieceOf c = .unit c.toNat by simp [pieceOf, control, back, tab, line, feed, carriage]]
      exact .unit (unit?_control c.toNat control) body
    · rw [if_neg control, show pieceOf c = .char c by simp [pieceOf, control]]
      exact .char control ⟨quote, slash⟩ body

theorem body_quoted (s : List Char) : Body (s.flatMap escape) (s.map pieceOf) := by
  induction s with
  | nil => exact .nil
  | cons c s ih => exact body_escape c ih

theorem textOf?_unit {code : Nat} (plain : code < 0xD800) (rest : List Piece) :
    textOf? (.unit code :: rest) = (textOf? rest).map (Char.ofNat code :: ·) := by
  have high : ¬0xD800 ≤ code := by omega
  have low : ¬0xDC00 ≤ code := by omega
  match rest with
  | [] | .char _ :: _ => simp [textOf?, high]
  | .unit _ :: _ => simp [textOf?.eq_3, high, low]

theorem textOf?_pieces (s : List Char) : textOf? (s.map pieceOf) = some s := by
  induction s with
  | nil => rfl
  | cons c s ih =>
    rw [List.map_cons, pieceOf]
    split
    · rename_i control
      rw [textOf?_unit (by omega), ih, Option.map_some, Char.ofNat_toNat]
    · rw [textOf?, ih, Option.map_some]

theorem string?_pieces (s : String) : string? (pieces s) = some s := by
  rw [string?, pieces, textOf?_pieces, Option.map_some, String.ofList_toList]

-- Texts.

theorem blank_newLine (level : Nat) : Blank (newLine level) := by
  rintro c (_ | ⟨_, member⟩)
  · rfl
  · rw [List.eq_of_mem_replicate member]
    rfl

theorem Spells.behindItems {blank cs : List Char} {items : List Raw} (blanks : Blank blank) (spells : Spells cs (.items items)) :
    Spells (blank ++ cs) (.items items) := by
  cases spells with
  | lastItem value => exact .lastItem (.behind blanks value)
  | item value more =>
    rw [← List.append_assoc]
    exact .item (.behind blanks value) more

theorem Spells.behindMembers {blank cs : List Char} {members : List (List Piece × Raw)} (blanks : Blank blank)
    (spells : Spells cs (.members members)) : Spells (blank ++ cs) (.members members) := by
  have both {before : List Char} (inner : Blank before) : Blank (blank ++ before) :=
    fun c member => (List.mem_append.mp member).elim (blanks c) (inner c)
  cases spells with
  | lastMember inner key value =>
    rw [← List.append_assoc]
    exact .lastMember (both inner) key value
  | member inner key value more =>
    rw [← List.append_assoc]
    exact .member (both inner) key value more

theorem body_pieces (s : String) : Body (s.toList.flatMap escape) (pieces s) := body_quoted s.toList

theorem blank_nil : Blank [] := fun _ member => by cases member

theorem Spells.apart {cs : List Char} {raw : Raw} (value : Spells cs (.value raw)) : Spells (' ' :: cs) (.value raw) :=
  @Spells.behind [' '] cs raw (by simp [Blank, Raw.isBlank]) value

theorem spells_float (x : Float) : Spells (floatText x).toList (.value (raw (.float x))) := by
  rw [raw]
  by_cases finite : x.isFinite
  · rw [if_pos finite]
    exact .number (numeral_float finite)
  · rw [if_neg finite, floatText, if_neg finite]
    exact .null

mutual
theorem spells_pretty (level : Nat) (json : Json) : Spells (prettyChars level json) (.value json.raw) := by
  cases json with
  | null => exact .null
  | bool value => cases value <;> first | exact .true | exact .false
  | integer n => exact .number (numeral_integer n)
  | float x => exact spells_float x
  | string s => exact .string (body_pieces s)
  | array items =>
    cases items with
    | nil => exact .noItems
    | cons item rest =>
      have inside := (spells_prettyItems (level + 1) (item :: rest) (List.cons_ne_nil _ _)).behindItems
        (blank_newLine (level + 1))
      simpa [prettyChars, raw] using inside.array (blank_newLine level)
  | object members =>
    cases members with
    | nil => exact .noMembers
    | cons member rest =>
      have inside := (spells_prettyMembers (level + 1) (member :: rest) (List.cons_ne_nil _ _)).behindMembers
        (blank_newLine (level + 1))
      simpa [prettyChars, raw] using inside.object (blank_newLine level)

theorem spells_prettyItems (level : Nat) (items : List Json) (some : items ≠ []) :
    Spells (prettyItems level items) (.items (rawItems items)) := by
  match items with
  | [] => exact absurd rfl some
  | [item] => exact .lastItem (spells_pretty level item)
  | item :: next :: rest =>
    have more := (spells_prettyItems level (next :: rest) (List.cons_ne_nil _ _)).behindItems (blank_newLine level)
    simpa [prettyItems, rawItems] using (spells_pretty level item).item more

theorem spells_prettyMembers (level : Nat) (members : List (String × Json)) (some : members ≠ []) :
    Spells (prettyMembers level members) (.members (rawMembers members)) := by
  match members with
  | [] => exact absurd rfl some
  | [(key, value)] =>
    simpa [prettyMembers, rawMembers, quoted] using
      @Spells.lastMember [] _ _ _ _ blank_nil (body_pieces key) (spells_pretty level value).apart
  | (key, value) :: next :: rest =>
    have more := (spells_prettyMembers level (next :: rest) (List.cons_ne_nil _ _)).behindMembers (blank_newLine level)
    simpa [prettyMembers, rawMembers, quoted] using
      @Spells.member [] _ _ _ _ _ _ blank_nil (body_pieces key) (spells_pretty level value).apart more
end

theorem ofText?_pretty (json : Json) : Raw.ofText? json.pretty = some json.raw :=
  ofText?_spells (by
    rw [pretty, String.toList_ofList]
    exact spells_pretty 0 json)

mutual
theorem spells_compact (json : Json) : Spells (compactChars json) (.value json.raw) := by
  cases json with
  | null => exact .null
  | bool value => cases value <;> first | exact .true | exact .false
  | integer n => exact .number (numeral_integer n)
  | float x => exact spells_float x
  | string s => exact .string (body_pieces s)
  | array items =>
    cases items with
    | nil => exact .noItems
    | cons item rest =>
      simpa [compactChars, raw] using (spells_compactItems (item :: rest) (List.cons_ne_nil _ _)).array blank_nil
  | object members =>
    cases members with
    | nil => exact .noMembers
    | cons member rest =>
      simpa [compactChars, raw] using (spells_compactMembers (member :: rest) (List.cons_ne_nil _ _)).object blank_nil

theorem spells_compactItems (items : List Json) (some : items ≠ []) :
    Spells (compactItems items) (.items (rawItems items)) := by
  match items with
  | [] => exact absurd rfl some
  | [item] => exact .lastItem (spells_compact item)
  | item :: next :: rest =>
    have more := spells_compactItems (next :: rest) (List.cons_ne_nil _ _)
    simpa [compactItems, rawItems] using (spells_compact item).item more

theorem spells_compactMembers (members : List (String × Json)) (some : members ≠ []) :
    Spells (compactMembers members) (.members (rawMembers members)) := by
  match members with
  | [] => exact absurd rfl some
  | [(key, value)] =>
    simpa [compactMembers, rawMembers, quoted] using
      @Spells.lastMember [] _ _ _ _ blank_nil (body_pieces key) (spells_compact value)
  | (key, value) :: next :: rest =>
    have more := spells_compactMembers (next :: rest) (List.cons_ne_nil _ _)
    simpa [compactMembers, rawMembers, quoted] using
      @Spells.member [] _ _ _ _ _ _ blank_nil (body_pieces key) (spells_compact value) more
end

theorem ofText?_compact (json : Json) : Raw.ofText? json.compact = some json.raw :=
  ofText?_spells (by
    rw [compact, String.toList_ofList]
    exact spells_compact json)

-- Members.

theorem put_new {value : Json} (new : key ∉ members.map Prod.fst) : put key value members = members ++ [(key, value)] := by
  induction members with
  | nil => rfl
  | cons member rest ih =>
    simp only [List.map_cons, List.mem_cons, not_or] at new
    rw [put, if_neg (Ne.symm new.1), ih new.2]
    rfl

theorem put_keys (key : String) (value : Json) (members : List (String × Json)) :
    (put key value members).map Prod.fst =
      if key ∈ members.map Prod.fst then members.map Prod.fst else members.map Prod.fst ++ [key] := by
  induction members with
  | nil => rfl
  | cons member rest ih =>
    by_cases same : member.1 = key
    · simp [put, same]
    · simp only [put, if_neg same, List.map_cons, ih, List.mem_cons, Ne.symm same, false_or]
      split <;> rfl

theorem put_distinct (key : String) (value : Json) (distinct : (members.map Prod.fst).Nodup) :
    ((put key value members).map Prod.fst).Nodup := by
  rw [put_keys]
  split
  · exact distinct
  · rename_i new
    exact distinct.append (List.nodup_singleton key) (by simpa using new)

theorem put_fits {value : Json} (fits : Fits room value) (others : MembersFit room members) :
    MembersFit room (put key value members) := by
  induction members with
  | nil => exact ⟨fits, trivial⟩
  | cons member rest ih =>
    rw [put]
    split
    · exact ⟨fits, others.2⟩
    · exact ⟨others.1, ih others.2⟩

-- Meaning.

mutual
theorem ofRaw?_raw (json : Json) (room : Nat) (fits : Fits room json) (exact : json.Exact) : ofRaw? room json.raw = some json := by
  cases json with
  | null | bool => rfl
  | integer n => exact number?_integer fits.1 fits.2
  | float x =>
    have reads : ReadsBack x := exact x List.mem_cons_self
    rw [raw, if_pos reads.finite]
    exact reads
  | string s => rw [raw, ofRaw?, string?_pieces, Option.map_some]
  | array items =>
    match room with
    | room + 1 => rw [raw, ofRaw?, itemsOfRaw?_rawItems items room fits exact.item, Option.map_some]
  | object members =>
    match room with
    | room + 1 =>
      rw [raw, ofRaw?, membersOfRaw?_rawMembers members room [] fits.2 exact.member fits.1, List.nil_append, Option.map_some]

theorem itemsOfRaw?_rawItems (items : List Json) (room : Nat) (fits : ItemsFit room items)
    (exact : ∀ item ∈ items, item.Exact) : itemsOfRaw? room (rawItems items) = some items := by
  cases items with
  | nil => rfl
  | cons item rest =>
    obtain ⟨first, others⟩ := List.forall_mem_cons.mp exact
    simp [rawItems, itemsOfRaw?, ofRaw?_raw item room fits.1 first, itemsOfRaw?_rawItems rest room fits.2 others]

-- Keys that differ are added in their order.
theorem membersOfRaw?_rawMembers (members : List (String × Json)) (room : Nat) (read : List (String × Json))
    (fits : MembersFit room members) (exact : ∀ member ∈ members, member.2.Exact) (distinct : ((read ++ members).map Prod.fst).Nodup) :
    membersOfRaw? room (rawMembers members) read = some (read ++ members) := by
  cases members with
  | nil => rw [rawMembers, membersOfRaw?, List.append_nil]
  | cons member rest =>
    obtain ⟨key, value⟩ := member
    have new : key ∉ read.map Prod.fst := by
      rw [List.map_append, List.map_cons, List.nodup_append] at distinct
      exact fun member => distinct.2.2 key member key List.mem_cons_self rfl
    rw [List.append_cons] at distinct
    obtain ⟨first, later⟩ := List.forall_mem_cons.mp exact
    have others := membersOfRaw?_rawMembers rest room (read ++ [(key, value)]) fits.2 later distinct
    simp [rawMembers, membersOfRaw?, string?_pieces, ofRaw?_raw value room fits.1 first, put_new new, others]
end

theorem ofText?_fits (fits : Fits nestingRoom json) (exact : json.Exact) : ofText? json.compact = some json := by
  rw [ofText?, ofText?_compact, Option.bind_some, ofRaw?_raw json nestingRoom fits exact]

-- What has been read.

mutual
theorem fits_of_read (raw : Raw) (room : Nat) (json : Json) (read : ofRaw? room raw = some json) : Fits room json := by
  cases raw with
  | null | bool =>
    cases read
    trivial
  | number spelling =>
    have number := number?_isNumber read
    cases json with
    | integer | float => exact number
    | null | bool | string | array | object => cases number
  | string pieces =>
    obtain ⟨s, _, rfl⟩ := Option.map_eq_some_iff.mp read
    trivial
  | array items =>
    match room with
    | 0 => cases read
    | room + 1 =>
      obtain ⟨_, inside, rfl⟩ := Option.map_eq_some_iff.mp read
      exact itemsFit_of_read items room _ inside
  | object members =>
    match room with
    | 0 => cases read
    | room + 1 =>
      obtain ⟨_, inside, rfl⟩ := Option.map_eq_some_iff.mp read
      exact membersFit_of_read members room [] _ inside List.nodup_nil trivial

theorem itemsFit_of_read (raws : List Raw) (room : Nat) (items : List Json) (read : itemsOfRaw? room raws = some items) :
    ItemsFit room items := by
  cases raws with
  | nil =>
    cases read
    trivial
  | cons raw rest =>
    simp only [itemsOfRaw?, Option.bind_eq_bind, Option.bind_eq_some_iff, Option.pure_def, Option.some.injEq] at read
    obtain ⟨item, first, others, more, rfl⟩ := read
    exact ⟨fits_of_read raw room item first, itemsFit_of_read rest room others more⟩

theorem membersFit_of_read (raws : List (List Piece × Raw)) (room : Nat) (before members : List (String × Json))
    (read : membersOfRaw? room raws before = some members) (distinct : (before.map Prod.fst).Nodup)
    (fits : MembersFit room before) : (members.map Prod.fst).Nodup ∧ MembersFit room members := by
  match raws with
  | [] =>
    cases read
    exact ⟨distinct, fits⟩
  | (_, raw) :: rest =>
    simp only [membersOfRaw?, Option.bind_eq_bind, Option.bind_eq_some_iff] at read
    obtain ⟨key, _, value, first, more⟩ := read
    exact membersFit_of_read rest room _ members more (put_distinct key value distinct)
      (put_fits (fits_of_read raw room value first) fits)
end

-- Null is read from null alone, and only null is written as null.

theorem raw_null {json : Json} (fits : json.Fits room) (null : raw json = .null) : json = .null := by
  cases json with
  | null => rfl
  | float x =>
    have finite : x.isFinite = true := fits
    rw [raw, if_pos finite] at null
    cases null
  | bool | integer | string | array | object => cases null

theorem null_of_read {raw : Raw} (read : ofRaw? room raw = some .null) : raw = .null := by
  cases raw with
  | null => rfl
  | number spelling => cases number?_isNumber read
  | bool => cases read
  | string =>
    obtain ⟨_, _, other⟩ := Option.map_eq_some_iff.mp read
    cases other
  | array =>
    match room with
    | room + 1 =>
      obtain ⟨_, _, other⟩ := Option.map_eq_some_iff.mp read
      cases other
  | object =>
    match room with
    | room + 1 =>
      obtain ⟨_, _, other⟩ := Option.map_eq_some_iff.mp read
      cases other

end Dataflow.Json
