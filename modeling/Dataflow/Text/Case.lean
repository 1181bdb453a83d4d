import Dataflow.Text.CaseTable
import Dataflow.Text.Identifier

namespace Dataflow.Text

private def moved (runs : List CaseTable.Run) (spelled : List (Nat × List Nat)) (c : Char) : List Char :=
  match spelled.lookup c.toNat with
  | some letters => letters.map Char.ofNat
  | none =>
    match runs.find? (·.covers c.toNat) with
    | some run => [Char.ofNat (c.toNat + run.shift).toNat]
    | none => [c]

def upperChar (c : Char) : List Char :=
  if c.toNat < 0x80 then [c.toUpper] else moved CaseTable.upperRuns CaseTable.upperSpelled c

def lowerChar (c : Char) : List Char :=
  if c.toNat < 0x80 then [c.toLower] else moved CaseTable.lowerRuns CaseTable.lowerSpelled c

-- A moved character is a letter that was spelled out for it, the end of a run's move, or itself.
private theorem mem_moved {runs : List CaseTable.Run} {spelled : List (Nat × List Nat)} {c d : Char}
    (member : d ∈ moved runs spelled c) :
    (∃ entry ∈ spelled, ∃ code ∈ entry.2, d = Char.ofNat code) ∨
      (∃ run ∈ runs, run.first ≤ c.toNat ∧ d = Char.ofNat (c.toNat + run.shift).toNat) ∨ d = c := by
  unfold moved at member
  split at member
  · rename_i letters found
    obtain ⟨before, after, rfl, _⟩ := List.lookup_eq_some_iff.mp found
    obtain ⟨code, listed, rfl⟩ := List.mem_map.mp member
    exact .inl ⟨_, List.mem_append_right _ List.mem_cons_self, code, listed, rfl⟩
  · split at member
    · rename_i run found
      have covered := List.find?_some found
      simp only [CaseTable.Run.covers, Bool.and_eq_true, decide_eq_true_eq] at covered
      exact .inr (.inl ⟨run, List.mem_of_find?_eq_some found, covered.1.1, List.mem_singleton.mp member⟩)
    · exact .inr (.inr (List.mem_singleton.mp member))

theorem mem_lowerChar {c d : Char} (member : d ∈ lowerChar c) :
    d = c.toLower ∨ (∃ entry ∈ CaseTable.lowerSpelled, ∃ code ∈ entry.2, d = Char.ofNat code) ∨
      (∃ run ∈ CaseTable.lowerRuns, run.first ≤ c.toNat ∧ d = Char.ofNat (c.toNat + run.shift).toNat) ∨
      0x80 ≤ c.toNat ∧ d = c := by
  unfold lowerChar at member
  split at member
  · exact .inl (List.mem_singleton.mp member)
  · rename_i beyond
    rcases mem_moved member with spelled | moves | same
    · exact .inr (.inl spelled)
    · exact .inr (.inr (.inl moves))
    · exact .inr (.inr (.inr ⟨Nat.le_of_not_lt beyond, same⟩))

def isCased (c : Char) : Bool :=
  if c.toNat < 0x80 then c.isAlpha else inRanges CaseTable.cased c.toNat

def isCaseIgnorable (c : Char) : Bool :=
  if c.toNat < 0x80 then c == '\x27' || c == '.' || c == ':' || c == '^' || c == '\x60'
  else inRanges CaseTable.ignorable c.toNat

-- Whether the nearest character that is not looked through has case.
def meetsCased (cs : List Char) : Bool :=
  match cs.dropWhile isCaseIgnorable with
  | [] => false
  | c :: _ => isCased c

-- `before` holds the characters already passed, the nearest one first.
def lowerFrom (before : List Char) : List Char → List Char
  | [] => []
  | c :: rest =>
    let image :=
      if c == '\u03A3' then [if meetsCased before && !meetsCased rest then '\u03C2' else '\u03C3']
      else lowerChar c
    image ++ lowerFrom (c :: before) rest

def upper (s : String) : String := .ofList (s.toList.flatMap upperChar)

def lower (s : String) : String := .ofList (lowerFrom [] s.toList)

end Dataflow.Text
