import Dataflow.Program.Naming
import Dataflow.Graph.Basic
import Mathlib.Data.List.Nodup
import Mathlib.Data.List.Perm.Subperm

namespace Dataflow

namespace Python

-- A text that reads as one word.
def IsWord (name : String) : Prop := name ≠ "" ∧ ∀ c ∈ name.toList, isWordChar c

instance (name : String) : Decidable (IsWord name) :=
  decidable_of_iff (name ≠ "" ∧ name.toList.all isWordChar) (by simp [IsWord])

variable {first second name : String}

theorem IsWord.append (word : IsWord first) (rest : ∀ c ∈ second.toList, isWordChar c) : IsWord (first ++ second) := by
  refine ⟨fun empty => word.1 (String.append_eq_empty_iff.mp empty).1, fun c member => ?_⟩
  rw [String.toList_append, List.mem_append] at member
  exact member.elim (word.2 c) (rest c)

theorem isWordChar_of_isDigit {c : Char} (digit : c.isDigit) : isWordChar c := by
  simp [isWordChar, Char.isAlphanum, digit]

theorem toString_wordChars (n : Nat) : ∀ c ∈ (toString n).toList, isWordChar c := by
  intro c member
  rw [Nat.toString_eq_repr, Nat.toList_repr] at member
  exact isWordChar_of_isDigit (Nat.isDigit_of_mem_toDigits (by decide) (by decide) member)

theorem IsWord.numbered (word : IsWord name) (n : Nat) : IsWord (name ++ "_" ++ toString n) := by
  refine (word.append fun c member => ?_).append (toString_wordChars n)
  rw [List.mem_singleton.mp member]
  decide

end Python

theorem squeeze_wordChars (underscored : Bool) (cs : List Char) : ∀ c ∈ squeeze underscored cs, Python.isWordChar c := by
  induction underscored, cs using squeeze.induct with
  | case1 => exact fun c member => absurd member List.not_mem_nil
  | case2 underscored c rest word ih =>
    rw [squeeze, if_pos word]
    exact List.forall_mem_cons.mpr ⟨word, ih⟩
  | case3 c rest other ih =>
    rw [squeeze, if_neg other]
    exact ih
  | case4 underscored c rest other apart ih =>
    rw [squeeze, if_neg other, if_neg apart]
    exact List.forall_mem_cons.mpr ⟨by decide, ih⟩

theorem mem_of_stripUnderscores {cs : List Char} {c : Char} (member : c ∈ stripUnderscores cs) : c ∈ cs := by
  have inner := (List.dropWhile_sublist _).mem (List.mem_reverse.mp member)
  exact (List.dropWhile_sublist _).mem (List.mem_reverse.mp inner)

theorem sanitize_wordChars (name : String) : ∀ c ∈ (sanitize name).toList, Python.isWordChar c := by
  have within : ∀ c ∈ stripUnderscores (squeeze false ((Text.trimChars name.toList).flatMap Text.lowerChar)),
      Python.isWordChar c := fun c member => squeeze_wordChars _ _ c (mem_of_stripUnderscores member)
  rw [sanitize, String.toList_ofList, sanitizeChars]
  split
  · exact fun c member => absurd member List.not_mem_nil
  · rename_i first rest stripped
    rw [stripped] at within
    split
    · exact List.forall_mem_cons.mpr ⟨by decide, within⟩
    · exact within

namespace Namer

variable {unavailable : List String} {name : String} {number : Nat} {namer : Namer}

theorem variableStem_word (kind : Kind) : Python.IsWord kind.variableStem := by
  cases kind with
  | input shape => cases shape <;> decide
  | addition | subtraction | multiplication | division => decide
  | comparison _ | boolean _ => exact (by decide : Python.IsWord "bool_result")
  | text _ => exact (by decide : Python.IsWord "str_result")
  | list _ => exact (by decide : Python.IsWord "list_result")
  | ifElse | display | unknown _ => exact (by decide : Python.IsWord "result")

theorem wish_word (node : Node) (number : Nat) : Python.IsWord (wish node number) := by
  unfold wish
  dsimp only
  split
  · exact (variableStem_word node.kind).numbered number
  · rename_i named
    refine ⟨fun empty => named (by simp [empty]), ?_⟩
    cases called : node.name with
    | none => exact fun c member => absurd member List.not_mem_nil
    | some name => exact sanitize_wordChars name

-- The name that is wished for and its numbered variants, one more than there are names to stay clear of.
def candidates (unavailable : List String) (wish : String) (number : Nat) : List String :=
  wish :: (List.range unavailable.length).map fun n => wish ++ "_" ++ toString (number + n)

theorem candidates_distinct (unavailable : List String) (wish : String) (number : Nat) :
    (candidates unavailable wish number).Nodup := by
  have numbered : Function.Injective fun n => wish ++ "_" ++ toString (number + n) := fun m n same => by
    have := Graph.toString_injective ((String.append_right_inj _).mp same)
    omega
  refine List.nodup_cons.mpr ⟨fun member => ?_, List.Nodup.map numbered List.nodup_range⟩
  obtain ⟨n, _, same⟩ := List.mem_map.mp member
  rw [String.append_assoc, String.append_eq_left_iff] at same
  simpa using congrArg String.length same

theorem settle_found (unavailable : List String) (wish : String) (number : Nat) :
    (candidates unavailable wish number).find? (!unavailable.contains ·) = some (settle unavailable wish number) := by
  have settled : settle unavailable wish number =
      ((candidates unavailable wish number).find? (!unavailable.contains ·)).getD wish := rfl
  cases found : (candidates unavailable wish number).find? (!unavailable.contains ·) with
  | some name => rw [settled, found, Option.getD_some]
  | none =>
    have taken : candidates unavailable wish number ⊆ unavailable := fun name member => by
      simpa using List.find?_eq_none.mp found name member
    have few := (List.subperm_of_subset (candidates_distinct unavailable wish number) taken).length_le
    simp only [candidates, List.length_cons, List.length_map, List.length_range] at few
    omega

theorem settle_free (unavailable : List String) (wish : String) (number : Nat) :
    settle unavailable wish number ∉ unavailable := by
  simpa using List.find?_some (settle_found unavailable wish number)

theorem settle_word (word : Python.IsWord name) : Python.IsWord (settle unavailable name number) := by
  rcases List.mem_cons.mp (List.mem_of_find?_eq_some (settle_found unavailable name number)) with same | variant
  · rwa [same]
  · obtain ⟨n, _, same⟩ := List.mem_map.mp variant
    exact same ▸ word.numbered (number + n)

-- What a name that was given is like. It is taken from then on.
theorem assign_exact (namer : Namer) (node : Node) : (namer.assign node).1 ∉ namer.taken ∧
    Python.IsWord (namer.assign node).1 ∧ (namer.assign node).2.taken = namer.taken ++ [(namer.assign node).1] := by
  have free := settle_free namer.unavailable (wish node (namer.counter + 1)) (namer.counter + 1)
  refine ⟨fun taken => free ?_, settle_word (wish_word node _), rfl⟩
  simp only [unavailable, List.mem_append]
  exact .inl (.inl taken)

end Namer
end Dataflow
