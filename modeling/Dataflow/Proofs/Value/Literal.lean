import Dataflow.Proofs.Decimal.Written
import Dataflow.Proofs.Text.Quoted
import Dataflow.Proofs.Value.Json

namespace Dataflow

namespace Python

def skip (cs : List Char) : List Char := cs.dropWhile (· == ' ')

-- A text in either kind of quotes, and what stands behind it.
def text? : List Char → Option (String × List Char)
  | [] => none
  | quote :: rest => if Text.isQuote quote then (unquote? quote rest).map fun read => (.ofList read.1, read.2) else none

mutual
-- Texts, truth values and lists in brackets. There is fuel for one step per character.
def value? : Nat → List Char → Option (Value × List Char)
  | 0, _ => none
  | fuel + 1, cs =>
    match skip cs with
    | '[' :: rest => (items? fuel rest).map fun read => (.list read.1, read.2)
    | 'T' :: 'r' :: 'u' :: 'e' :: rest => some (.bool true, rest)
    | 'F' :: 'a' :: 'l' :: 's' :: 'e' :: rest => some (.bool false, rest)
    | start => (text? start).map fun read => (.text read.1, read.2)

-- What is left of a list, up to its closing bracket.
def items? : Nat → List Char → Option (List Value × List Char)
  | 0, _ => none
  | fuel + 1, cs =>
    match skip cs with
    | ']' :: rest => some ([], rest)
    | start =>
      match value? fuel start with
      | none => none
      | some (item, behind) =>
        match skip behind with
        | ']' :: rest => some ([item], rest)
        | ',' :: rest => (items? fuel rest).map fun read => (item :: read.1, read.2)
        | _ => none
end

-- The value that a whole text spells.
def literal? (s : String) : Option Value :=
  match value? (s.length + 1) s.toList with
  | none => none
  | some (value, rest) => if (skip rest).isEmpty then some value else none

variable {fuel : Nat} {quote : Char} {cs behind rest : List Char} {item : Value} {items : List Value}

theorem value?_list (fuel : Nat) (cs : List Char) :
    value? (fuel + 1) ('[' :: cs) = (items? fuel cs).map fun read => (.list read.1, read.2) := rfl

theorem value?_bool (fuel : Nat) (b : Bool) (rest : List Char) :
    value? (fuel + 1) ((Value.boolText b).toList ++ rest) = some (.bool b, rest) := by
  cases b <;> rfl

theorem value?_quoteWith (isQuote : Text.isQuote quote) (fuel : Nat) (s rest : List Char) :
    value? (fuel + 1) (Text.quoteWith quote s ++ rest) = some (.text (.ofList s), rest) := by
  have read := unquote?_quoteWith isQuote s rest
  have text : text? (quote :: (s.flatMap (Text.escapeIn quote) ++ quote :: rest)) = some (.ofList s, rest) := by
    rw [text?, if_pos isQuote, read]
    rfl
  have opened : value? (fuel + 1) (quote :: (s.flatMap (Text.escapeIn quote) ++ quote :: rest)) =
      (text? (quote :: (s.flatMap (Text.escapeIn quote) ++ quote :: rest))).map fun read => (.text read.1, read.2) := by
    simp only [Text.isQuote, Bool.or_eq_true, beq_iff_eq] at isQuote
    rcases isQuote with rfl | rfl <;> rfl
  rw [Text.quoteWith, List.cons_append, List.append_assoc, List.singleton_append, opened, text]
  rfl

theorem skip_skip (cs : List Char) : skip (skip cs) = skip cs := List.dropWhile_idempotent _ cs

theorem value?_skip (fuel : Nat) (cs : List Char) : value? fuel (skip cs) = value? fuel cs := by
  cases fuel with
  | zero => rfl
  | succ fuel => rw [value?, value?, skip_skip]

-- No value opens with the bracket that closes a list.
theorem skip_of_value? (read : value? fuel cs = some (item, behind)) : ∀ rest, skip cs ≠ ']' :: rest := by
  intro rest closes
  rw [← value?_skip, closes] at read
  cases fuel <;> cases read

theorem items?_closed (fuel : Nat) (rest : List Char) : items? (fuel + 1) (']' :: rest) = some ([], rest) := rfl

theorem items?_last (read : value? fuel cs = some (item, ']' :: rest)) : items? (fuel + 1) cs = some ([item], rest) := by
  rw [items?]
  split
  · rename_i closes
    exact absurd closes (skip_of_value? read _)
  · rw [value?_skip, read]
    rfl

theorem items?_more (read : value? fuel cs = some (item, ',' :: behind)) (others : items? fuel behind = some (items, rest)) :
    items? (fuel + 1) cs = some (item :: items, rest) := by
  rw [items?]
  split
  · rename_i closes
    exact absurd closes (skip_of_value? read _)
  · rw [value?_skip, read]
    change (items? fuel behind).map _ = _
    rw [others]
    rfl

theorem items?_blank (fuel : Nat) (cs : List Char) : items? fuel (' ' :: cs) = items? fuel cs := by
  cases fuel <;> rfl

end Python

namespace Value

abbrev Numberless : Value → Prop := EveryNumber fun _ => False

abbrev NumberlessIn : List Value → Prop := EveryNumberIn fun _ => False

-- The texts in a value.
mutual
def texts : Value → List String
  | text s => [s]
  | number _ | bool _ => []
  | list items => textsIn items

def textsIn : List Value → List String
  | [] => []
  | item :: rest => texts item ++ textsIn rest
end

-- How values are written, whatever stands for a number or a text.
mutual
def render (shown : Float → String) (quoted : String → String) : Value → List Char
  | number n => (shown n).toList
  | text s => (quoted s).toList
  | bool b => (boolText b).toList
  | list items => '[' :: (renderItems shown quoted items ++ [']'])

def renderItems (shown : Float → String) (quoted : String → String) : List Value → List Char
  | [] => []
  | [item] => render shown quoted item
  | item :: next :: rest => render shown quoted item ++ ',' :: ' ' :: renderItems shown quoted (next :: rest)
end

variable {shown : Float → String} {quoted : String → String} {write : Value → String} {c : Char}

-- A way of writing values that renders them.
structure Writes (shown : Float → String) (quoted : String → String) (write : Value → String) : Prop where
  number (n : Float) : write (.number n) = shown n
  text (s : String) : write (.text s) = quoted s
  bool (b : Bool) : write (.bool b) = boolText b
  list (items : List Value) : write (.list items) = "[" ++ ", ".intercalate (items.map write) ++ "]"

theorem literals_eq (items : List Value) : literals items = items.map literal := by
  induction items with
  | nil => rfl
  | cons item rest ih => rw [literals, ih, List.map_cons]

theorem reprs_eq (items : List Value) : reprs items = items.map repr := by
  induction items with
  | nil => rfl
  | cons item rest ih => rw [reprs, ih, List.map_cons]

theorem literal_writes : Writes numberLiteral Text.doubleQuoted literal :=
  ⟨fun _ => by rw [literal], fun _ => by rw [literal], fun _ => by rw [literal], fun items => by rw [literal, literals_eq]⟩

theorem repr_writes : Writes numberText Text.reprQuoted repr :=
  ⟨fun _ => by rw [repr], fun _ => by rw [repr], fun _ => by rw [repr], fun items => by rw [repr, reprs_eq]⟩

mutual
theorem Writes.rendered (writes : Writes shown quoted write) (v : Value) : (write v).toList = render shown quoted v := by
  cases v with
  | number n => rw [writes.number, render]
  | text s => rw [writes.text, render]
  | bool b => rw [writes.bool, render]
  | list items =>
    rw [writes.list, render, String.toList_append, String.toList_append, writes.renderedItems items]
    rfl

theorem Writes.renderedItems (writes : Writes shown quoted write) (items : List Value) :
    (", ".intercalate (items.map write)).toList = renderItems shown quoted items := by
  match items with
  | [] => rfl
  | [item] => simpa [renderItems] using writes.rendered item
  | item :: next :: rest =>
    have others := writes.renderedItems (next :: rest)
    rw [List.map_cons] at others
    rw [renderItems, ← writes.rendered item, ← others]
    simp [String.intercalate_cons_cons]
end

mutual
theorem value?_render (quotes : Text.Quotes quoted) {v : Value} (numberless : v.Numberless) {fuel : Nat} (rest : List Char)
    (enough : (render shown quoted v).length < fuel) :
    Python.value? fuel (render shown quoted v ++ rest) = some (v, rest) := by
  obtain ⟨fuel, rfl⟩ := Nat.exists_eq_add_one_of_ne_zero (Nat.ne_zero_of_lt enough)
  cases v with
  | number n => cases numberless
  | text s =>
    obtain ⟨quote, isQuote, chars⟩ := quotes s
    rw [render, chars, Python.value?_quoteWith isQuote, String.ofList_toList]
  | bool b => exact Python.value?_bool fuel b rest
  | list items =>
    simp only [render, List.length_cons, List.length_append, List.length_nil] at enough
    rw [render, List.cons_append, List.append_assoc, List.singleton_append, Python.value?_list,
      items?_render quotes numberless rest (by omega)]
    rfl

theorem items?_render (quotes : Text.Quotes quoted) {items : List Value} (numberless : NumberlessIn items) {fuel : Nat}
    (rest : List Char) (enough : (renderItems shown quoted items).length + 1 < fuel) :
    Python.items? fuel (renderItems shown quoted items ++ ']' :: rest) = some (items, rest) := by
  obtain ⟨fuel, rfl⟩ := Nat.exists_eq_add_one_of_ne_zero (Nat.ne_zero_of_lt enough)
  match items with
  | [] => exact Python.items?_closed fuel rest
  | [item] =>
    rw [renderItems] at enough ⊢
    exact Python.items?_last (value?_render quotes numberless.1 _ (by omega))
  | item :: next :: others =>
    simp only [renderItems, List.length_append, List.length_cons] at enough
    have behind : Python.items? fuel (renderItems shown quoted (next :: others) ++ ']' :: rest) = some (next :: others, rest) :=
      items?_render quotes numberless.2 rest (by omega)
    rw [renderItems, List.append_assoc]
    refine Python.items?_more (value?_render quotes numberless.1 _ (by omega)) ?_
    exact (Python.items?_blank fuel _).trans behind
end

theorem literal?_render (quotes : Text.Quotes quoted) {v : Value} (numberless : v.Numberless) {written : String}
    (chars : written.toList = render shown quoted v) : Python.literal? written = some v := by
  have read : Python.value? (written.length + 1) (render shown quoted v ++ []) = some (v, []) := by
    refine value?_render quotes numberless [] ?_
    rw [← chars, String.length_toList]
    omega
  rw [List.append_nil, ← chars] at read
  rw [Python.literal?, read]
  rfl

-- A text ends at its own quote, and nothing may follow the value.
example : Python.literal? "[ 'a\\x42\"', [True,] ]" = some (.list [.text "aB\"", .list [.bool true]]) ∧
    Python.literal? "'a'b'" = none := by
  constructor <;> cbv

end Value

namespace Decimal
open Text (Every isPlain every_append)

variable {layout : Layout} {digits : List Char} {holds : Char → Bool}

theorem isPlain_of_isDigit {c : Char} (digit : c.isDigit) : isPlain c := by
  have bounds : 48 ≤ c.toNat ∧ c.toNat ≤ 57 := Char.isDigit_iff_toNat.mp digit
  simp only [isPlain, Bool.and_eq_true, decide_eq_true_eq]
  omega

-- What holds of digits and of the signs of numbers holds of numbers, if it holds of the texts that their layout puts in.
structure Numerals (holds : Char → Bool) : Prop where
  digit (c : Char) : c.isDigit → holds c
  point : holds '.'
  minus : holds '-'
  exponent : holds 'e'

theorem isPlain_numerals : Numerals isPlain := ⟨fun _ => isPlain_of_isDigit, rfl, rfl, rfl⟩

theorem Numerals.figures (numerals : Numerals holds) (all : ∀ c ∈ digits, c.isDigit) : ∀ c ∈ digits, holds c :=
  fun c member => numerals.digit c (all c member)

theorem Numerals.zeros (numerals : Numerals holds) (n : Nat) : ∀ c ∈ List.replicate n '0', holds c :=
  numerals.figures (isDigit_zeros n)

theorem Numerals.positional (numerals : Numerals holds) (mark : Every holds layout.wholeMark)
    (all : ∀ c ∈ digits, c.isDigit) (point : Int) : Every holds (positional layout digits point) := by
  have every := numerals.figures all
  unfold Every
  by_cases small : point ≤ 0
  · rw [positional_small small]
    have fraction : ∀ c ∈ List.replicate point.natAbs '0' ++ digits, holds c :=
      List.forall_mem_append.mpr ⟨numerals.zeros _, every⟩
    exact List.forall_mem_cons.mpr ⟨numerals.digit '0' rfl, List.forall_mem_cons.mpr ⟨numerals.point, fraction⟩⟩
  by_cases inner : point.natAbs < digits.length
  · rw [positional_inner small inner]
    rw [List.forall_mem_append, List.forall_mem_cons]
    refine ⟨?_, numerals.point, ?_⟩
    · exact fun c member => every c (List.mem_of_mem_take member)
    · exact fun c member => every c (List.mem_of_mem_drop member)
  · rw [positional_whole small inner]
    rw [List.forall_mem_append, List.forall_mem_append]
    exact ⟨⟨every, numerals.zeros _⟩, mark⟩

theorem Numerals.exponential (numerals : Numerals holds) (plus : Every holds layout.plus)
    (all : ∀ c ∈ digits, c.isDigit) (power : Int) : Every holds (exponential layout digits power) := by
  have every := numerals.figures all
  have exponent : ∀ c ∈ Nat.toDigits 10 power.natAbs, holds c :=
    numerals.figures fun _ member => Nat.isDigit_of_mem_toDigits (by decide) (by decide) member
  unfold Decimal.exponential
  extract_lets mantissa exponentDigits padded
  have inMantissa : ∀ c ∈ mantissa, holds c := by
    unfold mantissa
    match digits with
    | [] | [_] => exact every
    | first :: second :: rest =>
      obtain ⟨head, tail⟩ := List.forall_mem_cons.mp every
      exact List.forall_mem_cons.mpr ⟨head, List.forall_mem_cons.mpr ⟨numerals.point, tail⟩⟩
  have sign : Every holds (if power < 0 then "-" else layout.plus) := by
    split
    · exact List.forall_mem_singleton.mpr numerals.minus
    · exact plus
  simp only [every_append, Text.every_ofList]
  refine ⟨⟨⟨inMantissa, List.forall_mem_singleton.mpr numerals.exponent⟩, sign⟩, ?_⟩
  exact List.forall_mem_append.mpr ⟨numerals.zeros _, exponent⟩

theorem Numerals.write (numerals : Numerals holds) (mark : Every holds layout.wholeMark) (plus : Every holds layout.plus)
    (words : Every holds (layout.notANumber ++ layout.infinite)) (x : Float) : Every holds (layout.write x) := by
  rw [every_append] at words
  have sign (negative : Bool) : Every holds (if negative then "-" else "") := by
    cases negative with
    | true => exact List.forall_mem_singleton.mpr numerals.minus
    | false => exact List.forall_mem_nil _
  have nought : Every holds "0" := List.forall_mem_singleton.mpr (numerals.digit '0' rfl)
  have exponent : Every holds "0e" :=
    List.forall_mem_cons.mpr ⟨numerals.digit '0' rfl, List.forall_mem_singleton.mpr numerals.exponent⟩
  have zero : Every holds layout.zero := by
    unfold Layout.zero
    split
    · exact every_append.mpr ⟨nought, mark⟩
    · exact every_append.mpr ⟨every_append.mpr ⟨exponent, plus⟩, nought⟩
  have magnitude (y : Float) : Every holds (layout.magnitude y) := by
    unfold Layout.magnitude
    extract_lets d power
    split
    · exact numerals.positional mark (digits_isDigit d) _
    · exact numerals.exponential plus (digits_isDigit d) _
  unfold Layout.write
  split
  · exact words.1
  split
  · exact every_append.mpr ⟨sign _, words.2⟩
  split
  · exact every_append.mpr ⟨sign _, zero⟩
  · exact every_append.mpr ⟨sign _, magnitude _⟩

end Decimal
namespace Value
open Text (Every isPlain isShown isControl)

theorem numberText_plain (n : Float) : Every isPlain (numberText n) := by
  unfold numberText
  exact Decimal.isPlain_numerals.write (by decide) (by decide) (by decide) n

theorem numberLiteral_plain (n : Float) : Every isPlain (numberLiteral n) := by
  unfold numberLiteral
  split
  · exact numberText_plain n
  · simpa using ⟨⟨by decide, numberText_plain n⟩, by decide⟩

theorem boolText_plain (b : Bool) : Every isPlain (boolText b) := by cases b <;> decide

variable {shown : Float → String} {quoted : String → String} {write : Value → String} {c : Char}

mutual
theorem render_shown (plain : ∀ n, Every isPlain (shown n)) (quotes : Text.Quotes quoted) (v : Value) :
    ∀ c ∈ render shown quoted v, isShown c := by
  cases v with
  | number n => exact fun c member => Text.isShown_of_isPlain (plain n c member)
  | bool b => exact fun c member => Text.isShown_of_isPlain (boolText_plain b c member)
  | text s =>
    obtain ⟨quote, isQuote, chars⟩ := quotes s
    rw [render, chars]
    exact fun c member => Text.quoteWith_shown isQuote member
  | list items =>
    rw [render, List.forall_mem_cons, List.forall_mem_append, List.forall_mem_singleton]
    exact ⟨rfl, renderItems_shown plain quotes items, rfl⟩

theorem renderItems_shown (plain : ∀ n, Every isPlain (shown n)) (quotes : Text.Quotes quoted) (items : List Value) :
    ∀ c ∈ renderItems shown quoted items, isShown c := by
  match items with
  | [] => exact List.forall_mem_nil _
  | [item] => exact render_shown plain quotes item
  | item :: next :: rest =>
    rw [renderItems, List.forall_mem_append, List.forall_mem_cons, List.forall_mem_cons]
    exact ⟨render_shown plain quotes item, rfl, rfl, renderItems_shown plain quotes (next :: rest)⟩
end

-- Beyond ASCII a rendered value has what its texts have.
mutual
theorem mem_render (plain : ∀ n, Every isPlain (shown n)) (quotes : Text.Quotes quoted) (beyond : 0x80 ≤ c.toNat)
    (v : Value) : c ∈ render shown quoted v ↔ ∃ s ∈ v.texts, c ∈ s.toList := by
  have coarse := Text.not_isPlain beyond
  cases v with
  | number n => simpa [render, texts] using fun member => coarse (plain n c member)
  | bool b => simpa [render, texts] using fun member => coarse (boolText_plain b c member)
  | text s =>
    obtain ⟨quote, isQuote, chars⟩ := quotes s
    simp only [render, chars, texts, List.mem_singleton, exists_eq_left]
    exact Text.mem_quoteWith isQuote beyond
  | list items =>
    have opens : c ≠ '[' := by
      rintro rfl
      exact coarse rfl
    have closes : c ≠ ']' := by
      rintro rfl
      exact coarse rfl
    simpa [render, texts, opens, closes] using mem_renderItems plain quotes beyond items

theorem mem_renderItems (plain : ∀ n, Every isPlain (shown n)) (quotes : Text.Quotes quoted) (beyond : 0x80 ≤ c.toNat)
    (items : List Value) : c ∈ renderItems shown quoted items ↔ ∃ s ∈ textsIn items, c ∈ s.toList := by
  match items with
  | [] => simp [renderItems, textsIn]
  | [item] => simpa [renderItems, textsIn] using mem_render plain quotes beyond item
  | item :: next :: rest =>
    have comma : c ≠ ',' := by
      rintro rfl
      exact Text.not_isPlain beyond rfl
    have blank : c ≠ ' ' := by
      rintro rfl
      exact Text.not_isPlain beyond rfl
    simp only [renderItems, textsIn, List.mem_append, List.mem_cons, comma, blank, false_or, mem_render plain quotes beyond item,
      mem_renderItems plain quotes beyond (next :: rest), or_and_right, exists_or]
end

theorem literal_shown (v : Value) : Every isShown v.literal := by
  rw [Every, literal_writes.rendered]
  exact render_shown numberLiteral_plain Text.quotes_doubleQuoted v

-- A text spells a value: it reads back as the value, and no control character of ASCII stands in it.
structure Spells (written : String) (v : Value) : Prop where
  reads : Python.literal? written = some v
  plain (c : Char) (control : isControl c) (ascii : c.toNat < 0x80) : c ∉ written.toList

theorem isShown_beyond (shown : isShown c) (control : isControl c) : 0x80 ≤ c.toNat := by
  simp only [isShown, isControl, Bool.and_eq_true, Bool.or_eq_true, decide_eq_true_eq, bne_iff_ne] at shown control
  omega

theorem Writes.spells (writes : Writes shown quoted write) (plain : ∀ n, Every isPlain (shown n)) (quotes : Text.Quotes quoted)
    {v : Value} (numberless : v.Numberless) : Spells (write v) v where
  reads := literal?_render quotes numberless (writes.rendered v)
  plain c control ascii := by
    intro member
    rw [writes.rendered] at member
    exact absurd (isShown_beyond (render_shown plain quotes v c member) control) (not_le.mpr ascii)

theorem literal_controls (v : Value) (control : isControl c) :
    c ∈ v.literal.toList ↔ 0x80 ≤ c.toNat ∧ ∃ s ∈ v.texts, c ∈ s.toList := by
  constructor
  · intro member
    have beyond : 0x80 ≤ c.toNat := isShown_beyond (literal_shown v c member) control
    rw [literal_writes.rendered] at member
    exact ⟨beyond, (mem_render numberLiteral_plain Text.quotes_doubleQuoted beyond v).mp member⟩
  · intro ⟨beyond, held⟩
    rw [literal_writes.rendered]
    exact (mem_render numberLiteral_plain Text.quotes_doubleQuoted beyond v).mpr held

-- What is written of a value without numbers spells it, as a literal and, of a list, as it is shown. The control
-- characters of the literal are those beyond ASCII that the texts of the value hold.
theorem literal_spells (v : Value) (numberless : v.Numberless) :
    (Spells v.literal v ∧
      ∀ c, isControl c → (c ∈ v.literal.toList ↔ 0x80 ≤ c.toNat ∧ ∃ s ∈ v.texts, c ∈ s.toList)) ∧
    (v.shape = .list → Spells v.toText v) := by
  have literal : Spells v.literal v := literal_writes.spells numberLiteral_plain Text.quotes_doubleQuoted numberless
  refine ⟨⟨literal, fun c control => literal_controls v control⟩, fun list => ?_⟩
  cases v with
  | list items => exact repr_writes.spells numberText_plain Text.quotes_reprQuoted numberless
  | _ => cases list

-- Both kinds of quotes, a line break, and the marks of lists inside texts.
def nested : Value := .list [.text "it's", .list [.text "\"a\nb\"", .bool true, .list []], .text "], [\u0085"]

theorem nested_spells : nested.Numberless ∧ Spells nested.literal nested ∧ nested.shape = .list ∧ Spells nested.toText nested :=
  have numberless : nested.Numberless := by decide
  have spells := literal_spells nested numberless
  ⟨numberless, spells.1.1, rfl, spells.2 rfl⟩

-- The next-line character stands in literals as it is.
theorem control_written : isControl '\u0085' ∧ (text "\u0085").Numberless ∧ '\u0085' ∈ (text "\u0085").literal.toList := by
  decide +kernel

end Value
end Dataflow
