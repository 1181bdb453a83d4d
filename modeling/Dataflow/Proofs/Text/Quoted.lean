import Dataflow.Json.Raw
import Dataflow.Text.Quoted
import Mathlib.Data.List.Basic

namespace Dataflow

namespace Text

-- The control characters of Unicode. Those beyond ASCII need no escape in Python.
def isControl (c : Char) : Bool := c.toNat < 0x20 || 0x7F ≤ c.toNat && c.toNat < 0xA0

def isPlain (c : Char) : Bool := 0x20 ≤ c.toNat && c.toNat < 0x7F

def isShown (c : Char) : Bool := 0x20 ≤ c.toNat && c.toNat != 0x7F

def isQuote (c : Char) : Bool := c == '"' || c == '\x27'

-- Something holds of every character of a text.
def Every (holds : Char → Bool) (s : String) : Prop := ∀ c ∈ s.toList, holds c

instance (holds : Char → Bool) (s : String) : Decidable (Every holds s) := List.decidableBAll _ s.toList

variable {holds other : Char → Bool} {s t : String}

@[simp]
theorem every_append : Every holds (s ++ t) ↔ Every holds s ∧ Every holds t := by
  simp only [Every, String.toList_append, List.forall_mem_append]

theorem every_ofList {cs : List Char} : Every holds (.ofList cs) ↔ ∀ c ∈ cs, holds c := by
  rw [Every, String.toList_ofList]

theorem every_intercalate {separator : String} {parts : List String} (between : Every holds separator)
    (all : ∀ part ∈ parts, Every holds part) : Every holds (separator.intercalate parts) := by
  induction parts with
  | nil => exact fun _ member => absurd member List.not_mem_nil
  | cons first rest ih =>
    obtain ⟨head, tail⟩ := List.forall_mem_cons.mp all
    cases rest with
    | nil => rwa [String.intercalate_singleton]
    | cons next rest =>
      rw [String.intercalate_cons_cons, every_append, every_append]
      exact ⟨⟨head, between⟩, ih tail⟩

theorem Every.mono (every : Every holds s) (follows : ∀ c, holds c → other c) : Every other s :=
  fun c member => follows c (every c member)

end Text

namespace Python
open Json.Raw (hexDigit?)

def escaped? : Char → Option Char
  | '\\' => some '\\'
  | 'n' => some '\n'
  | 'r' => some '\r'
  | 't' => some '\t'
  | '\x27' => some '\x27'
  | '"' => some '"'
  | _ => none

def hexPair? (high low : Char) : Option Char := do
  return Char.ofNat ((← hexDigit? high) * 16 + (← hexDigit? low))

def withChar (c : Char) (read : Option (List Char × List Char)) : Option (List Char × List Char) :=
  read.map fun result => (c :: result.1, result.2)

-- What no line of a program may hold.
def isLineEnd (c : Char) : Bool := c == '\n' || c == '\r' || c == '\x00'

-- A text after its opening quote, up to the first such quote without a backslash, and what stands behind it. The
-- text has to end on its line.
def unquote? (quote : Char) : List Char → Option (List Char × List Char)
  | [] => none
  | '\\' :: 'x' :: high :: low :: rest =>
    match hexPair? high low with
    | some meant => withChar meant (unquote? quote rest)
    | none => none
  | '\\' :: c :: rest =>
    match escaped? c with
    | some meant => withChar meant (unquote? quote rest)
    | none => none
  | c :: rest =>
    if c == quote then some ([], rest)
    else if c == '\\' || isLineEnd c then none
    else withChar c (unquote? quote rest)

variable {quote c : Char} {cs rest s : List Char}

theorem unquote?_escaped {letter : Char} (meant : escaped? letter = some c) (read : unquote? quote cs = some (s, rest)) :
    unquote? quote ('\\' :: letter :: cs) = some (c :: s, rest) := by
  have other : letter ≠ 'x' := by
    rintro rfl
    cases meant
  rw [unquote?.eq_3 _ _ _ (by simp [other]), meant, read]
  rfl

theorem unquote?_hex {high low : Char} (meant : hexPair? high low = some c) (read : unquote? quote cs = some (s, rest)) :
    unquote? quote ('\\' :: 'x' :: high :: low :: cs) = some (c :: s, rest) := by
  rw [unquote?, meant, read]
  rfl

theorem unquote?_char (slash : c ≠ '\\') (other : c ≠ quote) (inside : isLineEnd c = false)
    (read : unquote? quote cs = some (s, rest)) : unquote? quote (c :: cs) = some (c :: s, rest) := by
  rw [unquote?.eq_4 _ _ _ (by simp [slash]) (by simp [slash])]
  simp [slash, other, inside, read, withChar]

theorem hexPair?_control : ∀ code < 0x80, hexPair? (Text.lowHexDigit (code / 16)) (Text.lowHexDigit (code % 16)) =
    some (Char.ofNat code) := by decide +kernel

theorem unquote?_escapeIn (isQuote : Text.isQuote quote) (c : Char) (read : unquote? quote cs = some (s, rest)) :
    unquote? quote (Text.escapeIn quote c ++ cs) = some (c :: s, rest) := by
  by_cases slash : c = '\\'
  · subst slash
    exact unquote?_escaped rfl read
  by_cases line : c = '\n'
  · subst line
    exact unquote?_escaped rfl read
  by_cases carriage : c = '\r'
  · subst carriage
    exact unquote?_escaped rfl read
  by_cases tab : c = '\t'
  · subst tab
    exact unquote?_escaped rfl read
  simp only [Text.escapeIn, beq_iff_eq, slash, line, carriage, tab, if_false]
  by_cases closing : c = quote
  · rw [if_pos closing]
    refine unquote?_escaped ?_ read
    simp only [Text.isQuote, Bool.or_eq_true, beq_iff_eq] at isQuote
    rcases isQuote with rfl | rfl <;> rw [closing] <;> rfl
  rw [if_neg closing]
  split
  · rename_i control
    simp only [Bool.or_eq_true, decide_eq_true_eq, beq_iff_eq] at control
    have meant := hexPair?_control c.toNat (by omega)
    rw [Char.ofNat_toNat] at meant
    exact unquote?_hex meant read
  · rename_i shown
    have inside : isLineEnd c = false := by
      have null : c ≠ '\x00' := by
        rintro rfl
        exact shown rfl
      simp [isLineEnd, line, carriage, null]
    exact unquote?_char slash closing inside read

theorem unquote?_quoteWith (isQuote : Text.isQuote quote) (s rest : List Char) :
    unquote? quote (s.flatMap (Text.escapeIn quote) ++ quote :: rest) = some (s, rest) := by
  induction s with
  | nil =>
    have opens : quote ≠ '\\' := by
      rintro rfl
      cases isQuote
    rw [List.flatMap_nil, List.nil_append, unquote?.eq_4 _ _ _ (by simp [opens]) (by simp [opens])]
    simp
  | cons c s ih =>
    rw [List.flatMap_cons, List.append_assoc]
    exact unquote?_escapeIn isQuote c ih

end Python

namespace Text

variable {quote c d : Char} {s : List Char}

theorem isShown_iff : isShown c ↔ isPlain c ∨ 0x80 ≤ c.toNat := by
  simp only [isShown, isPlain, Bool.and_eq_true, decide_eq_true_eq, bne_iff_ne]
  omega

theorem isShown_of_isPlain (plain : isPlain c) : isShown c := isShown_iff.mpr (.inl plain)

theorem not_isPlain (beyond : 0x80 ≤ c.toNat) : ¬isPlain c := by
  simp only [isPlain, Bool.and_eq_true, decide_eq_true_eq]
  omega

theorem isQuote_plain (isQuote : Text.isQuote quote) : isPlain quote := by
  simp only [Text.isQuote, Bool.or_eq_true, beq_iff_eq] at isQuote
  rcases isQuote with rfl | rfl <;> rfl

theorem isQuote_reprQuote (cs : List Char) : isQuote (reprQuote cs) := by
  unfold reprQuote
  split <;> rfl

theorem lowHexDigit_plain : ∀ digit < 16, isPlain (lowHexDigit digit) := by decide

-- Only characters beyond ASCII are written as they stand without being plain.
theorem mem_escapeIn (isQuote : Text.isQuote quote) (member : d ∈ escapeIn quote c) : isPlain d ∨ 0x80 ≤ d.toNat ∧ d = c := by
  unfold escapeIn at member
  split_ifs at member with slash line carriage tab closing control
  · left
    rw [List.mem_pair, or_self] at member
    subst member
    rfl
  · left
    rcases List.mem_pair.mp member with rfl | rfl <;> rfl
  · left
    rcases List.mem_pair.mp member with rfl | rfl <;> rfl
  · left
    rcases List.mem_pair.mp member with rfl | rfl <;> rfl
  · left
    rw [beq_iff_eq] at closing
    rcases List.mem_pair.mp member with rfl | rfl
    · rfl
    · rw [closing]
      exact isQuote_plain isQuote
  · left
    simp only [Bool.or_eq_true, decide_eq_true_eq, beq_iff_eq] at control
    simp only [List.mem_cons, List.not_mem_nil, or_false] at member
    rcases member with rfl | rfl | rfl | rfl
    · rfl
    · rfl
    · exact lowHexDigit_plain _ (by omega)
    · exact lowHexDigit_plain _ (by omega)
  · rw [List.mem_singleton] at member
    subst member
    simp only [Bool.or_eq_true, decide_eq_true_eq, beq_iff_eq, not_or, Nat.not_lt] at control
    simp only [isPlain, Bool.and_eq_true, decide_eq_true_eq, and_true]
    omega

theorem mem_escapeIn_self (isQuote : Text.isQuote quote) (beyond : 0x80 ≤ c.toNat) : c ∈ escapeIn quote c := by
  have apart (other : Char) (ascii : other.toNat < 0x80) : c ≠ other := by
    rintro rfl
    omega
  have closing : c ≠ quote := by
    rintro rfl
    exact not_isPlain beyond (isQuote_plain isQuote)
  have shown : ¬(c.toNat < 0x20 || c.toNat == 0x7F) := by
    simp only [Bool.or_eq_true, decide_eq_true_eq, beq_iff_eq]
    omega
  simp [escapeIn, closing, shown, apart '\\' (by decide), apart '\n' (by decide), apart '\r' (by decide),
    apart '\t' (by decide)]

theorem quoteWith_shown (isQuote : Text.isQuote quote) (member : d ∈ quoteWith quote s) : isShown d := by
  have closes : isShown quote := isShown_of_isPlain (isQuote_plain isQuote)
  simp only [quoteWith, List.mem_cons, List.mem_append, List.mem_flatMap, List.not_mem_nil, or_false] at member
  rcases member with rfl | ⟨c, -, member⟩ | rfl
  · exact closes
  · exact isShown_iff.mpr ((mem_escapeIn isQuote member).imp_right And.left)
  · exact closes

-- Beyond ASCII the quoted text has what the text has.
theorem mem_quoteWith (isQuote : Text.isQuote quote) (beyond : 0x80 ≤ d.toNat) : d ∈ quoteWith quote s ↔ d ∈ s := by
  have coarse := not_isPlain beyond
  have outside : d ≠ quote := by
    rintro rfl
    exact coarse (isQuote_plain isQuote)
  simp only [quoteWith, List.mem_cons, List.mem_append, List.mem_flatMap, List.not_mem_nil, outside, false_or, or_false]
  constructor
  · rintro ⟨c, among, member⟩
    rcases mem_escapeIn isQuote member with plain | ⟨-, rfl⟩
    · exact absurd plain coarse
    · exact among
  · intro among
    exact ⟨d, among, mem_escapeIn_self isQuote beyond⟩

-- Texts are put in quotes of some kind.
def Quotes (quoted : String → String) : Prop :=
  ∀ s, ∃ quote, isQuote quote ∧ (quoted s).toList = quoteWith quote s.toList

theorem quotes_doubleQuoted : Quotes doubleQuoted := fun _ => ⟨'"', rfl, String.toList_ofList⟩

theorem quotes_reprQuoted : Quotes reprQuoted := fun s => ⟨_, isQuote_reprQuote s.toList, String.toList_ofList⟩

end Text
end Dataflow
