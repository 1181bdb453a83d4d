import Dataflow.Evaluation
import Mathlib

namespace Dataflow
namespace Text

variable {delimiter cs rest : List Char} {c : Char}

theorem piecesFrom_skip (delimiter : List Char) (skip : Nat) (cs : List Char) :
    piecesFrom delimiter skip cs = pieces delimiter (cs.drop skip) := by
  induction skip generalizing cs with
  | zero => rfl
  | succ skip ih =>
    cases cs with
    | nil => rfl
    | cons c rest => exact ih rest

theorem pieces_found (some : delimiter ≠ []) (rest : List Char) :
    pieces delimiter (delimiter ++ rest) = [] :: pieces delimiter rest := by
  obtain ⟨d, others, rfl⟩ := List.exists_cons_of_ne_nil some
  have front : (d :: others).isPrefixOf (d :: (others ++ rest)) :=
    List.isPrefixOf_iff_prefix.mpr (List.prefix_append (d :: others) rest)
  rw [pieces, List.cons_append, piecesFrom, if_pos front, piecesFrom_skip]
  simp

theorem pieces_passed (apart : ¬delimiter <+: c :: rest) :
    pieces delimiter (c :: rest) = consPiece c (pieces delimiter rest) := by
  rw [pieces, piecesFrom, if_neg (mt List.isPrefixOf_iff_prefix.mp apart), pieces]

-- A text ends, goes on behind a delimiter, or goes on behind a character that no delimiter starts with.
theorem pieces_induction {motive : List Char → Prop} (some : delimiter ≠ []) (nil : motive [])
    (found : ∀ rest, motive rest → motive (delimiter ++ rest))
    (passed : ∀ c rest, ¬delimiter <+: c :: rest → motive rest → motive (c :: rest)) (cs : List Char) : motive cs := by
  induction size : cs.length using Nat.strong_induction_on generalizing cs with
  | h n ih =>
    subst size
    cases cs with
    | nil => exact nil
    | cons c rest =>
      by_cases front : delimiter <+: c :: rest
      · obtain ⟨behind, whole⟩ := front
        have shorter : behind.length < (c :: rest).length := by
          rw [← whole, List.length_append]
          exact Nat.lt_add_of_pos_left (List.length_pos_of_ne_nil some)
        exact whole ▸ found behind (ih _ shorter behind rfl)
      · exact passed c rest front (ih _ (Nat.lt_succ_self _) rest rfl)

theorem pieces_first (some : delimiter ≠ []) (cs : List Char) :
    ∃ first others, pieces delimiter cs = first :: others ∧ first <+: cs := by
  induction cs using pieces_induction some with
  | nil => exact ⟨[], [], rfl, List.nil_prefix⟩
  | found rest _ => exact ⟨[], _, pieces_found some rest, List.nil_prefix⟩
  | passed c rest apart ih =>
    obtain ⟨first, others, same, front⟩ := ih
    exact ⟨c :: first, others, by rw [pieces_passed apart, same, consPiece], List.cons_prefix_cons.mpr ⟨rfl, front⟩⟩

theorem pieces_joined (some : delimiter ≠ []) (cs : List Char) : delimiter.intercalate (pieces delimiter cs) = cs := by
  induction cs using pieces_induction some with
  | nil => rfl
  | found rest ih =>
    obtain ⟨first, others, same, _⟩ := pieces_first some rest
    rw [pieces_found some, same, List.intercalate_cons_cons, List.nil_append, ← same, ih]
  | passed c rest apart ih =>
    obtain ⟨first, others, same, _⟩ := pieces_first some rest
    rw [same] at ih
    rw [pieces_passed apart, same, consPiece, ← ih]
    cases others <;> simp

theorem pieces_apart (some : delimiter ≠ []) (cs : List Char) : ∀ piece ∈ pieces delimiter cs, ¬delimiter <:+: piece := by
  induction cs using pieces_induction some with
  | nil =>
    intro piece member
    rw [List.mem_singleton.mp member]
    exact fun inside => some (List.infix_nil.mp inside)
  | found rest ih =>
    intro piece member
    rw [pieces_found some] at member
    rcases List.mem_cons.mp member with rfl | later
    · exact fun inside => some (List.infix_nil.mp inside)
    · exact ih piece later
  | passed c rest apart ih =>
    obtain ⟨first, others, same, front⟩ := pieces_first some rest
    intro piece member inside
    rw [pieces_passed apart, same, consPiece] at member
    rw [same] at ih
    rcases List.mem_cons.mp member with rfl | later
    · -- An occurrence at the very front would have been a delimiter, the text going on as the piece does.
      rcases List.infix_cons_iff.mp inside with start | inner
      · exact apart (start.trans (List.cons_prefix_cons.mpr ⟨rfl, front⟩))
      · exact ih first List.mem_cons_self inner
    · exact ih piece (List.mem_cons_of_mem _ later) inside

-- What stands in front of any delimiter of one character goes to the first piece.
theorem pieces_append {mark : Char} (absent : mark ∉ cs) (rest : List Char) :
    pieces [mark] (cs ++ rest) = (pieces [mark] rest).modifyHead (cs ++ ·) := by
  obtain ⟨first, others, same, _⟩ := pieces_first (List.cons_ne_nil mark []) rest
  rw [same, List.modifyHead_cons]
  induction cs with
  | nil => exact same
  | cons c cs ih =>
    rw [List.mem_cons, not_or] at absent
    rw [List.cons_append, pieces_passed (by simpa using absent.1), ih absent.2, consPiece, List.cons_append]

theorem pieces_intercalate {mark : Char} {texts : List (List Char)} (some : texts ≠ [])
    (absent : ∀ text ∈ texts, mark ∉ text) : pieces [mark] ([mark].intercalate texts) = texts := by
  induction texts with
  | nil => exact absurd rfl some
  | cons text texts ih =>
    rw [List.forall_mem_cons] at absent
    cases texts with
    | nil =>
      have alone := pieces_append absent.1 []
      rw [List.append_nil] at alone
      rw [List.intercalate_singleton, alone]
      simp [pieces, piecesFrom]
    | cons next others =>
      rw [List.intercalate_cons_cons, List.append_assoc, pieces_append absent.1,
        pieces_found (List.cons_ne_nil mark []), ih (List.cons_ne_nil _ _) absent.2, List.modifyHead_cons, List.append_nil]

-- Texts that are joined by a character that is in none of them are got back.
theorem splitChar_intercalate {mark : Char} {texts : List String} (some : texts ≠ [])
    (absent : ∀ text ∈ texts, mark ∉ text.toList) :
    splitChar mark ((String.singleton mark).intercalate texts) = texts := by
  have back : texts.map (String.ofList ∘ String.toList) = texts := by
    simp [Function.comp_def]
  rw [splitChar, String.toList_intercalate, String.toList_singleton,
    pieces_intercalate (by simpa using some) (by simpa using absent), List.map_map, back]

theorem intercalate_empty (texts : List (List Char)) : [].intercalate texts = texts.flatten := by
  induction texts with
  | nil => rfl
  | cons first others ih =>
    cases others with
    | nil => simp
    | cons => rw [List.intercalate_cons_cons, ih, List.append_nil, ← List.flatten_cons]

theorem split_joined (delimiter s : String) : delimiter.intercalate (split delimiter s) = s := by
  refine String.toList_injective ?_
  rw [String.toList_intercalate, split]
  split
  · rename_i empty
    have none : delimiter.toList = [] := by simpa using empty
    simp [none, intercalate_empty, Function.comp_def, ← List.flatMap_def]
  · rename_i some
    have some : delimiter.toList ≠ [] := by simpa using some
    rw [List.map_map, Function.comp_def]
    simp only [String.toList_ofList, List.map_id']
    exact pieces_joined some s.toList

theorem split_apart {delimiter s piece : String} (some : delimiter ≠ "") (member : piece ∈ split delimiter s) :
    ¬delimiter.toList <:+: piece.toList := by
  have some' : delimiter.toList ≠ [] := by simpa using some
  rw [split, if_neg (by simpa using some)] at member
  obtain ⟨chars, inside, rfl⟩ := List.mem_map.mp member
  rw [String.toList_ofList]
  exact pieces_apart some' s.toList chars inside

end Text

theorem joinTexts_texts (delimiter : String) (texts : List String) :
    joinTexts delimiter (texts.map .text) = delimiter.intercalate texts := by
  have shown : texts.map (Value.toText ∘ .text) = texts := List.map_id texts
  rw [joinTexts, List.map_map, shown]

variable {inputs : Inputs Value} {items : List Value}

theorem evaluate_split {settings : TextSettings} (splits : settings.operation = .split) (inputs : Inputs Value) :
    settings.evaluate inputs = .list ((Text.split settings.delimiter (inputs.text "left")).map .text) := by
  rw [TextSettings.evaluate, splits]

theorem evaluate_join {settings : TextSettings} (joins : settings.operation = .join)
    (given : inputs.get? "left" = some (.list items)) : settings.evaluate inputs = .text (joinTexts settings.delimiter items) := by
  simp only [TextSettings.evaluate, joins, given, Option.getD_some, joined]

theorem evaluate_listJoin {settings : ListSettings} (joins : settings.operation = .join)
    (given : inputs.get? "target" = some (.list items)) : settings.evaluate inputs = some (.text (joinTexts settings.delimiter items)) := by
  simp only [ListSettings.evaluate, joins, targetItems, given, Value.toList]

-- A text that is split is a list of texts without the delimiter, and both ways of joining them give the text back.
theorem split_rejoins (splitting : TextSettings) (splits : splitting.operation = .split) (literal : Value)
    (inputs : Inputs Value) :
    ∃ items, (Kind.text splitting).evaluate literal inputs = some (.list items) ∧
      (∀ item ∈ items, ∃ piece, item = .text piece ∧
        (splitting.delimiter ≠ "" → ¬splitting.delimiter.toList <:+: piece.toList)) ∧
      (∀ joining : TextSettings, joining.operation = .join → joining.delimiter = splitting.delimiter →
        ∀ own next, next.get? "left" = some (.list items) →
          (Kind.text joining).evaluate own next = some (.text (inputs.text "left"))) ∧
      ∀ joining : ListSettings, joining.operation = .join → joining.delimiter = splitting.delimiter →
        ∀ own next, next.get? "target" = some (.list items) →
          (Kind.list joining).evaluate own next = some (.text (inputs.text "left")) := by
  have whole : joinTexts splitting.delimiter ((Text.split splitting.delimiter (inputs.text "left")).map .text) =
      inputs.text "left" := by
    rw [joinTexts_texts, Text.split_joined]
  refine ⟨_, congrArg some (evaluate_split splits inputs), ?_, ?_, ?_⟩
  · intro item member
    obtain ⟨piece, inside, rfl⟩ := List.mem_map.mp member
    exact ⟨piece, rfl, fun some => Text.split_apart some inside⟩
  · intro joining joins same own next given
    rw [Kind.evaluate, evaluate_join joins given, same, whole]
  · intro joining joins same own next given
    rw [Kind.evaluate, evaluate_listJoin joins given, same, whole]

-- A delimiter that overlaps itself, at both ends of the text and twice in a row.
def stutter : TextSettings := { operation := .split, delimiter := "aa" }

def stuttered : Inputs Value := .bind (Kind.text stutter).slots [(none, .text "aaabaaaac")]

def stutterPieces : List Value := [.text "", .text "ab", .text "", .text "c"]

theorem stutter_rejoins :
    (Kind.text stutter).evaluate (.text "") stuttered = some (.list stutterPieces) ∧
    (Kind.text { operation := .join, delimiter := "aa" }).evaluate (.text "")
      (.bind (.named ["left"]) [(none, .list stutterPieces)]) = some (.text "aaabaaaac") ∧
    (Kind.list { operation := .join, delimiter := "aa" }).evaluate (.list [])
      (.bind (.named ["target"]) [(none, .list stutterPieces)]) = some (.text "aaabaaaac") := by
  obtain ⟨items, split, _, joined, listed⟩ := split_rejoins stutter rfl (.text "") stuttered
  have found : (Kind.text stutter).evaluate (.text "") stuttered = some (.list stutterPieces) := by cbv
  cases split.symm.trans found
  exact ⟨found, joined { operation := .join, delimiter := "aa" } rfl rfl _ (.bind (.named ["left"]) _) rfl,
    listed { operation := .join, delimiter := "aa" } rfl rfl _ (.bind (.named ["target"]) _) rfl⟩

-- Without a delimiter each character is a piece, and a text without characters has none.
example : Text.split "" "ab" = ["a", "b"] ∧ Text.split "" "" = [] ∧ Text.split "," "" = [""] := by decide +kernel

end Dataflow
