import Dataflow.Proofs.Program.Line

namespace Dataflow

namespace Python

inductive Place where
  | code
  -- After a backslash, which joins the next line to this one.
  | joined
  | comment
  | quoted (quote : Char)
  | escaped (quote : Char)

-- Goes through a program for the names that are assigned with an equals sign.
structure Reader where
  place : Place := .code
  depth : Int := 0
  -- The code since the last assignment in the statement, in reverse.
  front : List Char := []
  names : List String := []

-- Names may have letters beyond ASCII.
def isNamed (c : Char) : Bool := isWordChar c || 0x80 ≤ c.toNat

def words (front : List Char) : List String :=
  ((front.reverse.splitOnP (!isNamed ·)).filter (!·.isEmpty)).map .ofList

-- Whether the code ends with an equals sign that does not belong to a comparison.
def endsAssigning : List Char → Bool
  | '=' :: '<' :: '<' :: _ | '=' :: '>' :: '>' :: _ => true
  | '=' :: c :: _ => c != '=' && c != '!' && c != '<' && c != '>'
  | ['='] => true
  | _ => false

namespace Reader

-- With a colon the sign assigns to the word in front of it, anywhere. Without one all words in front of it in the
-- statement count as assigned; within brackets it hands over an argument.
def targets (reader : Reader) : List String :=
  match reader.front with
  | '=' :: ':' :: front => (words front).getLast?.toList
  | front => if reader.depth = 0 then words front else []

def commit (reader : Reader) : Reader :=
  if endsAssigning reader.front then { reader with front := [], names := reader.names ++ reader.targets } else reader

-- A line ends a statement unless brackets are open.
def endLine (reader : Reader) : Reader :=
  { reader with place := .code, front := if reader.depth = 0 then [] else reader.front }

def push (reader : Reader) (c : Char) : Reader :=
  { reader with front := if reader.front.isEmpty && c == ' ' then [] else c :: reader.front }

def code (reader : Reader) (c : Char) : Reader :=
  if !Text.isInline c then reader.endLine
  else if c == '#' then { reader with place := .comment }
  else if Text.isQuote c then { reader with place := .quoted c }
  else if c == '\\' then { reader with place := .joined }
  else if c == ';' then { reader with front := [] }
  else if c == '(' || c == '[' || c == '\x7b' then { reader.push c with depth := reader.depth + 1 }
  else if c == ')' || c == ']' || c == '\x7d' then { reader.push c with depth := reader.depth - 1 }
  else reader.push c

-- The sign is known to assign when the next character is no equals sign.
def step (reader : Reader) (c : Char) : Reader :=
  match reader.place with
  | .code => if c == '=' then { reader with front := '=' :: reader.front } else reader.commit.code c
  | .joined => { reader with place := .code }
  | .comment => if Text.isInline c then reader else reader.endLine
  -- A text ends with its line at the latest.
  | .quoted quote =>
    if c == '\\' then { reader with place := .escaped quote }
    else if c == quote then { reader with place := .code }
    else if Text.isInline c then reader
    else reader.endLine
  | .escaped quote => { reader with place := .quoted quote }

def read (reader : Reader) (s : String) : Reader := s.toList.foldl step reader

theorem read_append (reader : Reader) (s t : String) : reader.read (s ++ t) = (reader.read s).read t := by
  rw [read, String.toList_append, List.foldl_append]
  rfl

end Reader

-- The names that lines of a program assign, as often as they do.
def assignments (lines : String) : List String := (({} : Reader).read (lines ++ "\n")).names

-- A comparison, an argument, a comment and a text assign nothing.
example : assignments "a = b == c; d <<= f(e=1, g := [(h := 2)])  # i = 3\nj, k = 'l = 4'" = ["a", "d", "g", "h", "j", "k"] := by
  decide +kernel

variable {reader : Reader} {c quote : Char} {s t name expression : String} {parts names : List String} {m n : Int}

-- A reader of code that is not at an equals sign.
structure Reader.Calm (reader : Reader) : Prop where
  code : reader.place = .code
  clear : reader.front.head? ≠ some '='

theorem Reader.calm_start (names : List String) : ({ names := names } : Reader).Calm := ⟨rfl, by simp⟩

-- Code that assigns nothing and leaves so many brackets open, wherever it stands.
def Passes (s : String) (opens : Int) : Prop := ∀ reader : Reader, reader.Calm →
  (reader.read s).Calm ∧ (reader.read s).names = reader.names ∧ (reader.read s).depth = reader.depth + opens

-- Code that assigns nothing and closes its brackets.
def Inert (s : String) : Prop := Passes s 0

namespace Reader

theorem Calm.commit (calm : reader.Calm) : reader.commit = reader := by
  have idle : endsAssigning reader.front = false := by
    have clear := calm.clear
    unfold endsAssigning
    split <;> simp_all
  rw [Reader.commit, idle]
  rfl

theorem push_calm (code : reader.place = .code) (other : c ≠ '=') : (reader.push c).Calm := by
  refine ⟨code, ?_⟩
  unfold push
  dsimp only
  split
  · simp
  · simpa using other

theorem endLine_calm (clear : reader.front.head? ≠ some '=') : reader.endLine.Calm := by
  refine ⟨rfl, ?_⟩
  unfold endLine
  dsimp only
  split
  · simp
  · exact clear

end Reader

def isQuiet (c : Char) : Bool := c != '=' && c != '#' && c != '\\' && !Text.isQuote c

def turn (c : Char) : Int :=
  if c == '(' || c == '[' || c == '\x7b' then 1 else if c == ')' || c == ']' || c == '\x7d' then -1 else 0

theorem Reader.Calm.quiet (calm : reader.Calm) (quiet : isQuiet c) :
    (reader.step c).Calm ∧ (reader.step c).names = reader.names ∧ (reader.step c).depth = reader.depth + turn c := by
  simp only [isQuiet, Bool.and_eq_true, bne_iff_ne, ne_eq, Bool.not_eq_true'] at quiet
  obtain ⟨⟨⟨other, outside⟩, apart⟩, unquoted⟩ := quiet
  have stepped : reader.step c = reader.code c := by simp [step, calm.code, calm.commit, other]
  have pushed := push_calm calm.code other
  rw [stepped, Reader.code]
  simp only [beq_iff_eq, outside, apart, unquoted, if_false, Bool.false_eq_true]
  split_ifs with broken semicolon opening closing
  · refine ⟨endLine_calm calm.clear, rfl, ?_⟩
    have level : turn c = 0 := by
      simp only [Text.isInline, Bool.not_eq_true', Bool.and_eq_false_iff, bne_eq_false_iff_eq] at broken
      rcases broken with rfl | rfl <;> rfl
    rw [level, Int.add_zero]
    rfl
  · subst semicolon
    exact ⟨⟨calm.code, by simp⟩, rfl, (Int.add_zero _).symm⟩
  · exact ⟨⟨pushed.code, pushed.clear⟩, rfl, by rw [turn, if_pos opening]⟩
  · exact ⟨⟨pushed.code, pushed.clear⟩, rfl, by rw [turn, if_neg opening, if_pos closing]; rfl⟩
  · exact ⟨pushed, rfl, by rw [turn, if_neg opening, if_neg closing, Int.add_zero]; rfl⟩

theorem Passes.append (first : Passes s m) (second : Passes t n) : Passes (s ++ t) (m + n) := by
  intro reader calm
  obtain ⟨middle, same, opened⟩ := first reader calm
  obtain ⟨ended, names, depth⟩ := second _ middle
  rw [Reader.read_append]
  exact ⟨ended, names.trans same, by rw [depth, opened, Int.add_assoc]⟩

theorem passes_quiet (quiet : s.toList.all isQuiet) : Passes s (s.toList.map turn).sum := by
  unfold Passes Reader.read
  generalize s.toList = cs at quiet
  induction cs with
  | nil => exact fun reader calm => ⟨calm, rfl, (Int.add_zero _).symm⟩
  | cons c cs ih =>
    intro reader calm
    obtain ⟨first, rest⟩ := Bool.and_eq_true_iff.mp quiet
    obtain ⟨stepped, same, opened⟩ := calm.quiet first
    obtain ⟨ended, names, depth⟩ := ih rest _ stepped
    refine ⟨ended, names.trans same, ?_⟩
    rw [List.foldl_cons, depth, opened, List.map_cons, List.sum_cons, Int.add_assoc]

theorem Passes.mark (passes : Passes s n) (mark : String) (quiet : mark.toList.all isQuiet) :
    Passes (s ++ mark) (n + (mark.toList.map turn).sum) := passes.append (passes_quiet quiet)

theorem Passes.inert (passes : Passes s n) (closed : n = 0) : Inert s := by
  rw [Inert, ← closed]
  exact passes

theorem Inert.append (first : Inert s) (second : Inert t) : Inert (s ++ t) := Passes.append first second

theorem inert_nothing : Inert "" := fun _ calm => ⟨calm, rfl, (Int.add_zero _).symm⟩

theorem Inert.intercalate (between : Inert s) (all : ∀ part ∈ parts, Inert part) : Inert (s.intercalate parts) := by
  induction parts with
  | nil => exact inert_nothing
  | cons first rest ih =>
    obtain ⟨head, tail⟩ := List.forall_mem_cons.mp all
    cases rest with
    | nil => rwa [String.intercalate_singleton]
    | cons next rest =>
      rw [String.intercalate_cons_cons]
      exact (head.append between).append (ih tail)

theorem read_within {cs : List Char} (within : reader.place = .quoted quote)
    (plain : ∀ c ∈ cs, c ≠ '\\' ∧ c ≠ quote ∧ Text.isInline c) : cs.foldl Reader.step reader = reader := by
  induction cs with
  | nil => rfl
  | cons c cs ih =>
    obtain ⟨⟨slash, closing, inline⟩, rest⟩ := List.forall_mem_cons.mp plain
    have same : reader.step c = reader := by simp [Reader.step, within, slash, closing, inline]
    rw [List.foldl_cons, same, ih rest]

theorem read_escape (within : reader.place = .quoted quote) (c : Char) : ['\\', c].foldl Reader.step reader = reader := by
  obtain ⟨place⟩ := reader
  obtain rfl : place = .quoted quote := within
  simp [Reader.step]

theorem lowHexDigit_within : ∀ digit < 16, Text.lowHexDigit digit ≠ '\\' ∧ Text.lowHexDigit digit ≠ '"' ∧
    Text.isInline (Text.lowHexDigit digit) := by decide

theorem read_escapeIn (within : reader.place = .quoted '"') (c : Char) :
    (Text.escapeIn '"' c).foldl Reader.step reader = reader := by
  unfold Text.escapeIn
  split_ifs with slash line carriage tab closing control
  · exact read_escape within _
  · exact read_escape within _
  · exact read_escape within _
  · exact read_escape within _
  · exact read_escape within _
  · simp only [Bool.or_eq_true, decide_eq_true_eq, beq_iff_eq] at control
    have digits : ∀ digit ∈ [Text.lowHexDigit (c.toNat / 16), Text.lowHexDigit (c.toNat % 16)],
        digit ≠ '\\' ∧ digit ≠ '"' ∧ Text.isInline digit := by
      rw [List.forall_mem_cons, List.forall_mem_singleton]
      exact ⟨lowHexDigit_within _ (by omega), lowHexDigit_within _ (by omega)⟩
    change (['\\', 'x'] ++ [Text.lowHexDigit (c.toNat / 16), Text.lowHexDigit (c.toNat % 16)]).foldl Reader.step reader = reader
    rw [List.foldl_append, read_escape within, read_within within digits]
  · refine read_within within (List.forall_mem_singleton.mpr ?_)
    simp_all [Text.isInline]

theorem read_quotes (calm : reader.Calm) (mark : Text.isQuote quote) {cs : List Char}
    (within : cs.foldl Reader.step { reader with place := .quoted quote } = { reader with place := .quoted quote }) :
    (quote :: (cs ++ [quote])).foldl Reader.step reader = reader := by
  have opened : reader.step quote = { reader with place := .quoted quote } := by
    simp only [Text.isQuote, Bool.or_eq_true, beq_iff_eq] at mark
    rcases mark with rfl | rfl <;> simp [Reader.step, calm.code, calm.commit, Reader.code, Text.isInline, Text.isQuote]
  have slash : quote ≠ '\\' := by
    rintro rfl
    cases mark
  rw [List.foldl_cons, opened, List.foldl_append, within]
  simp [Reader.step, slash, ← calm.code]

theorem inert_of_same (same : ∀ reader : Reader, reader.Calm → reader.read s = reader) : Inert s := by
  intro reader calm
  rw [same reader calm]
  exact ⟨calm, rfl, (Int.add_zero _).symm⟩

theorem inert_doubleQuoted (s : String) : Inert (Text.doubleQuoted s) := by
  refine inert_of_same fun reader calm => ?_
  rw [Reader.read, Text.doubleQuoted, String.toList_ofList]
  refine read_quotes calm rfl ?_
  induction s.toList with
  | nil => rfl
  | cons c cs ih => rw [List.flatMap_cons, List.foldl_append, read_escapeIn rfl, ih]

def isFlat (c : Char) : Bool := isQuiet c && turn c == 0

theorem inert_of_flat (flat : Text.Every isFlat s) : Inert s := by
  have quiet : s.toList.all isQuiet := List.all_eq_true.mpr fun c member => (Bool.and_eq_true_iff.mp (flat c member)).1
  have level : (s.toList.map turn).sum = 0 := by
    refine List.sum_eq_zero fun n member => ?_
    obtain ⟨c, there, rfl⟩ := List.mem_map.mp member
    exact beq_iff_eq.mp (Bool.and_eq_true_iff.mp (flat c there)).2
  rw [Inert, ← level]
  exact passes_quiet quiet

-- What a reader looks out for.
def marks : List Char := ['=', '#', '\\', '"', '\x27', '(', '[', '\x7b', ')', ']', '\x7d', ';', ' ', '\n', '\r']

theorem word_marks (word : isWordChar c) : ∀ mark ∈ marks, c ≠ mark := by
  have none : marks.all (!isWordChar ·) := by decide
  intro mark member
  exact Text.ne_of_holds word (by simpa using List.all_eq_true.mp none mark member)

theorem isFlat_word (word : isWordChar c) : isFlat c := by
  have other := word_marks word
  simp only [marks, List.forall_mem_cons] at other
  simp [isFlat, isQuiet, turn, Text.isQuote, other]

theorem inert_word (word : IsWord name) : Inert name := inert_of_flat fun c member => isFlat_word (word.2 c member)

def isNumeral (c : Char) : Bool := isWordChar c || c == '.' || c == '-' || c == '+'

theorem numeral_cases (numeral : isNumeral c) : isWordChar c ∨ c ∈ ['.', '-', '+'] := by
  simp only [isNumeral, Bool.or_eq_true, beq_iff_eq] at numeral
  simp only [List.mem_cons, List.not_mem_nil, or_false]
  tauto

theorem isFlat_numeral (numeral : isNumeral c) : isFlat c := by
  rcases numeral_cases numeral with word | sign
  · exact isFlat_word word
  · have flat : ['.', '-', '+'].all isFlat := by decide
    exact List.all_eq_true.mp flat c sign

theorem numeral_within (numeral : isNumeral c) : c ≠ '\\' ∧ c ≠ '\x27' ∧ Text.isInline c :=
  ⟨Text.ne_of_holds numeral rfl, Text.ne_of_holds numeral rfl, Text.isInline_of_holds numeral rfl rfl⟩

theorem isNumeral_digit (c : Char) (digit : c.isDigit) : isNumeral c := by
  simp [isNumeral, isWordChar, Char.isAlphanum, digit]

theorem numeral_numberText (n : Float) : Text.Every isNumeral (Value.numberText n) := by
  have numerals : Decimal.Numerals isNumeral := ⟨isNumeral_digit, rfl, rfl, rfl⟩
  exact numerals.write (by decide) (by decide) (by decide) n

theorem inert_int (n : Int) : Inert (toString n) :=
  inert_of_flat ((Text.every_int isNumeral_digit rfl n).mono fun _ => isFlat_numeral)

theorem inert_bound (bound : Option Int) : Inert ((bound.map toString).getD "") := by
  cases bound with
  | none => exact inert_nothing
  | some n => exact inert_int n

theorem inert_numberText (n : Float) : Inert (Value.numberText n) :=
  inert_of_flat ((numeral_numberText n).mono fun _ => isFlat_numeral)

theorem inert_numberLiteral (n : Float) : Inert (Value.numberLiteral n) := by
  unfold Value.numberLiteral
  split
  · exact inert_numberText n
  · have quoted : Inert ("\x27" ++ Value.numberText n ++ "\x27") := by
      refine inert_of_same fun reader calm => ?_
      have within := read_quotes calm rfl (@read_within { reader with place := .quoted '\x27' } '\x27' _ rfl
        fun c member => numeral_within (numeral_numberText n c member))
      simpa [Reader.read] using within
    have split : "float('" ++ Value.numberText n ++ "')" = "float(" ++ ("\x27" ++ Value.numberText n ++ "\x27") ++ ")" := by
      simp [← String.toList_inj]
    have opened : Passes "float(" 1 := passes_quiet rfl
    rw [split]
    exact ((opened.append quoted).mark ")" rfl).inert rfl

mutual
theorem inert_literal (v : Value) : Inert v.literal := by
  match v with
  | .number n =>
    rw [Value.literal]
    exact inert_numberLiteral n
  | .text s =>
    rw [Value.literal]
    exact inert_doubleQuoted s
  | .bool b =>
    rw [Value.literal]
    cases b <;> exact passes_quiet rfl
  | .list items =>
    have inside : Inert (", ".intercalate (Value.literals items)) := .intercalate (passes_quiet rfl) (inert_literals items)
    have opened : Passes "[" 1 := passes_quiet rfl
    rw [Value.literal]
    exact ((opened.append inside).mark "]" rfl).inert rfl

theorem inert_literals (items : List Value) : ∀ part ∈ Value.literals items, Inert part := by
  match items with
  | [] => exact List.forall_mem_nil _
  | item :: rest => exact List.forall_mem_cons.mpr ⟨inert_literal item, inert_literals rest⟩
end

theorem Reader.Calm.blank (calm : reader.Calm) :
    reader.read " " = { reader with front := if reader.front.isEmpty then [] else ' ' :: reader.front } := by
  change reader.step ' ' = _
  simp [step, calm.code, calm.commit, Reader.code, Reader.push, Text.isInline, Text.isQuote]

theorem inert_comparison (operation : Comparison) : Inert (" " ++ Spelled.spelling operation ++ " ") := by
  intro reader calm
  rw [Reader.read_append, Reader.read_append, calm.blank]
  obtain ⟨place, depth, front, names⟩ := reader
  obtain rfl : place = .code := calm.code
  have apart : some ' ' ≠ some '=' := by simp
  cases front with
  | nil => cases operation <;> exact ⟨⟨rfl, apart⟩, rfl, (Int.add_zero _).symm⟩
  | cons c rest => cases operation <;> exact ⟨⟨rfl, apart⟩, rfl, (Int.add_zero _).symm⟩

-- A line that assigns these names: a reader at its start is at the start of the next line after it.
def Assigns (line : String) (names : List String) : Prop :=
  ∀ before : List String, ({ names := before } : Reader).read (line ++ "\n") = { names := before ++ names }

theorem Assigns.exact (assigns : Assigns s names) : assignments s = names := congrArg Reader.names (assigns [])

theorem assigns_nothing : Assigns "" [] := by
  intro before
  rw [List.append_nil]
  rfl

theorem assigns_lines {lines : List String} {assigned : String → List String}
    (each : ∀ line ∈ lines, Assigns line (assigned line)) : Assigns ("\n".intercalate lines) (lines.flatMap assigned) := by
  induction lines with
  | nil => exact assigns_nothing
  | cons line rest ih =>
    obtain ⟨here, later⟩ := List.forall_mem_cons.mp each
    cases rest with
    | nil => rwa [String.intercalate_singleton, List.flatMap_singleton]
    | cons next rest =>
      intro before
      have again := ih later
      rw [String.intercalate_cons_cons, String.append_assoc, Reader.read_append, here before, again, List.append_assoc,
        ← List.flatMap_cons]

theorem Reader.Calm.finish (calm : reader.Calm) (closed : reader.depth = 0) : reader.read "\n" = { names := reader.names } := by
  have stepped : reader.read "\n" = reader.endLine := by
    change reader.step '\n' = _
    simp [step, calm.code, calm.commit, Reader.code, Text.isInline]
  rw [stepped, endLine, if_pos closed, closed]

theorem Inert.assigns (inert : Inert s) : Assigns s [] := by
  intro before
  obtain ⟨calm, names, depth⟩ := inert { names := before } (Reader.calm_start before)
  rw [Reader.read_append, calm.finish depth, names, List.append_nil]

theorem read_comment {cs : List Char} (outside : reader.place = .comment) (inline : ∀ c ∈ cs, Text.isInline c) :
    cs.foldl Reader.step reader = reader := by
  induction cs with
  | nil => rfl
  | cons c cs ih =>
    obtain ⟨first, rest⟩ := List.forall_mem_cons.mp inline
    have same : reader.step c = reader := by simp [Reader.step, outside, first]
    rw [List.foldl_cons, same, ih rest]

theorem Reader.Calm.comment (calm : reader.Calm) (closed : reader.depth = 0) (inline : Text.OneLine s) :
    reader.read ("# " ++ s ++ "\n") = { names := reader.names } := by
  have opened : reader.read "# " = { reader with place := .comment } := by
    change (reader.step '#').step ' ' = _
    simp [step, calm.code, calm.commit, Reader.code, Text.isInline]
  have within : ({ reader with place := .comment } : Reader).read s = { reader with place := .comment } :=
    read_comment rfl inline
  rw [read_append, read_append, opened, within]
  change ({ reader with place := .comment } : Reader).endLine = _
  rw [endLine, if_pos closed, closed]

theorem Inert.commented (inert : Inert s) (inline : Text.OneLine t) : Assigns (s ++ ("# " ++ t)) [] := by
  intro before
  obtain ⟨calm, names, depth⟩ := inert { names := before } (Reader.calm_start before)
  rw [String.append_assoc, Reader.read_append, calm.comment depth inline, names, List.append_nil]

theorem assigns_comment (inline : Text.OneLine s) : Assigns ("# " ++ s) [] := by
  have commented := inert_nothing.commented inline
  rwa [String.empty_append] at commented

theorem read_word {cs : List Char} (calm : reader.Calm) (word : ∀ c ∈ cs, isWordChar c) :
    cs.foldl Reader.step reader = { reader with front := cs.reverse ++ reader.front } := by
  induction cs generalizing reader with
  | nil => rfl
  | cons c cs ih =>
    obtain ⟨first, rest⟩ := List.forall_mem_cons.mp word
    have other := word_marks first
    simp only [marks, List.forall_mem_cons] at other
    have stepped : reader.step c = { reader with front := c :: reader.front } := by
      simp [Reader.step, calm.code, calm.commit, Reader.code, Reader.push, Text.isInline, Text.isQuote, other]
    have next : ({ reader with front := c :: reader.front } : Reader).Calm :=
      ⟨calm.code, by simpa using Text.ne_of_holds first rfl⟩
    rw [List.foldl_cons, stepped, ih next rest, List.reverse_cons, List.append_assoc]
    rfl

theorem words_target {cs : List Char} (word : ∀ c ∈ cs, isWordChar c) (nonempty : cs ≠ []) :
    words ('=' :: ' ' :: cs.reverse) = [.ofList cs] := by
  have named : ∀ c ∈ cs, (!isNamed c) = false := by
    intro c member
    simp [isNamed, word c member]
  have split : (cs ++ [' ', '=']).splitOnP (!isNamed ·) = [cs, [], []] := by
    rw [List.splitOnP_append_cons_of_forall_mem named ' ' rfl]
    rfl
  have front : ('=' :: ' ' :: cs.reverse).reverse = cs ++ [' ', '='] := by simp
  rw [words, front, split]
  simp [nonempty]

theorem read_target (word : IsWord name) (before : List String) :
    ({ names := before } : Reader).read (name ++ " = ") = { names := before ++ [name] } := by
  have nonempty : name.toList ≠ [] := fun empty => word.1 (String.toList_eq_nil_iff.mp empty)
  have named : ({ names := before } : Reader).read name = { front := name.toList.reverse, names := before } := by
    rw [Reader.read, read_word (Reader.calm_start before) word.2, List.append_nil]
  have calm : ({ front := name.toList.reverse, names := before } : Reader).Calm := by
    refine ⟨rfl, ?_⟩
    rw [List.head?_reverse]
    intro last
    exact Text.ne_of_holds (word.2 _ (List.mem_of_getLast? last)) rfl rfl
  have spaced : ({ front := name.toList.reverse, names := before } : Reader).step ' ' =
      { front := ' ' :: name.toList.reverse, names := before } := by
    simp [Reader.step, calm.commit, Reader.code, Reader.push, Text.isInline, Text.isQuote, nonempty]
  have target : ({ front := '=' :: ' ' :: name.toList.reverse, names := before } : Reader).targets = [name] := by
    change (if (0 : Int) = 0 then words ('=' :: ' ' :: name.toList.reverse) else []) = [name]
    rw [if_pos rfl, words_target word.2 nonempty, String.ofList_toList]
  rw [Reader.read_append, named]
  change ((Reader.step _ ' ').step '=').step ' ' = _
  rw [spaced]
  change ({ front := [], names := before ++
    ({ front := '=' :: ' ' :: name.toList.reverse, names := before } : Reader).targets } : Reader).code ' ' = _
  rw [target]
  rfl

theorem Assigns.assignment (word : IsWord name) (assigns : Assigns s names) : Assigns (name ++ " = " ++ s) (name :: names) := by
  intro before
  rw [String.append_assoc, Reader.read_append, read_target word, assigns, List.append_assoc]
  rfl

-- What was assigned before makes no difference.
def Reader.behind (reader : Reader) (before : List String) : Reader := { reader with names := before ++ reader.names }

theorem Reader.commit_behind (reader : Reader) (before : List String) :
    (reader.behind before).commit = reader.commit.behind before := by
  unfold commit
  change (if endsAssigning reader.front then
    { reader with front := [], names := (before ++ reader.names) ++ reader.targets } else reader.behind before) = _
  split
  · rw [List.append_assoc]
    rfl
  · rfl

theorem Reader.code_behind (reader : Reader) (before : List String) (c : Char) :
    (reader.behind before).code c = (reader.code c).behind before := by
  unfold code
  simp only [apply_ite (Reader.behind · before)]
  rfl

theorem Reader.step_behind (reader : Reader) (before : List String) (c : Char) :
    (reader.behind before).step c = (reader.step c).behind before := by
  have committed := commit_behind reader before
  obtain ⟨place, depth, front, names⟩ := reader
  cases place with
  | code =>
    by_cases sign : c = '='
    · subst sign
      rfl
    · simp only [step, behind, beq_iff_eq, sign, if_false] at committed ⊢
      rw [committed]
      exact code_behind _ before c
  | comment =>
    simp only [step, behind]
    split <;> rfl
  | quoted quote =>
    simp only [step, behind]
    split_ifs <;> rfl
  | _ => rfl

theorem Reader.read_behind (reader : Reader) (before : List String) (s : String) :
    (reader.behind before).read s = (reader.read s).behind before := by
  unfold read
  induction s.toList generalizing reader with
  | nil => rfl
  | cons c cs ih => rw [List.foldl_cons, step_behind, ih, List.foldl_cons]

theorem assignments_assignment (word : IsWord name) (expression : String) :
    assignments (name ++ " = " ++ expression) = name :: assignments expression := by
  have behind : ({ names := [name] } : Reader) = ({} : Reader).behind [name] := rfl
  rw [assignments, String.append_assoc, Reader.read_append, read_target word, List.nil_append, behind, Reader.read_behind]
  rfl

end Python
end Dataflow
