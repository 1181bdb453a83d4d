import Dataflow.Emission
import Dataflow.Proofs.Program.Naming
import Mathlib

namespace Dataflow

-- No character has a capital letter of ASCII for its lower case.
theorem Text.lowerChar_small {c d : Char} (member : d ∈ lowerChar c) : d.isUpper = false := by
  have beyond (code : Nat) (large : 90 < code) : (Char.ofNat code).isUpper = false := by
    rw [Char.isUpper, decide_eq_false_iff_not, not_and, ge_iff_le, UInt32.le_iff_toNat_le, UInt32.le_iff_toNat_le]
    have value := Char.toNat_ofNat code
    simp only [Char.toNat] at value
    have capital : 'Z'.val.toNat = 90 := rfl
    rw [value, capital]
    split
    · omega
    · decide
  rcases mem_lowerChar member with rfl | ⟨entry, listed, code, spelled, rfl⟩ | ⟨run, listed, first, rfl⟩ | ⟨large, rfl⟩
  · exact Char.isUpper_toLower_eq_false c
  · have large : ∀ entry ∈ CaseTable.lowerSpelled, ∀ code ∈ entry.2, 90 < code := by decide
    exact beyond code (large entry listed code spelled)
  · -- A run never leads below its first character's image.
    have large : ∀ run ∈ CaseTable.lowerRuns, 90 < (run.first : Int) + run.shift := by decide +kernel
    have := large run listed
    exact beyond _ (by omega)
  · rw [← Char.ofNat_toNat d]
    exact beyond _ (by omega)

namespace Python

-- What may stand in a variable: `[a-z0-9_]`.
def isNameChar (c : Char) : Bool := c.isLower || c.isDigit || c == '_'

-- The texts that `[a-z_][a-z0-9_]*` stands for.
def IsVariable (name : String) : Prop :=
  ∃ first rest, name.toList = first :: rest ∧ (first.isLower ∨ first = '_') ∧ ∀ c ∈ rest, isNameChar c

-- How the names start that are given out: an underscore only stands in front of a digit.
inductive Opens : List Char → Prop where
  | letter {c : Char} {rest : List Char} : c.isLower → (∀ d ∈ rest, isNameChar d) → Opens (c :: rest)
  | digit {c : Char} {rest : List Char} : c.isDigit → (∀ d ∈ rest, isNameChar d) → Opens ('_' :: c :: rest)

variable {name : String} {c : Char} {cs more : List Char}

theorem isNameChar_of_word (word : isWordChar c) (small : c.isUpper = false) : isNameChar c := by
  simpa [isWordChar, isNameChar, Char.isAlphanum, Char.isAlpha, small] using word

theorem Opens.of_letters (letters : cs.head?.any Char.isLower && cs.all isNameChar) : Opens cs := by
  cases cs with
  | nil => cases letters
  | cons c rest =>
    simp only [List.head?_cons, Option.any_some, List.all_cons, Bool.and_eq_true, List.all_eq_true] at letters
    exact .letter letters.1 letters.2.2

theorem Opens.isVariable (opens : Opens name.toList) : IsVariable name := by
  generalize chars : name.toList = cs at opens
  cases opens with
  | letter letter rest => exact ⟨_, _, chars, .inl letter, rest⟩
  | digit digit rest =>
    exact ⟨_, _, chars, .inr rfl, List.forall_mem_cons.mpr ⟨by simp [isNameChar, digit], rest⟩⟩

theorem Opens.append (opens : Opens cs) (names : ∀ c ∈ more, isNameChar c) : Opens (cs ++ more) := by
  cases opens with
  | letter letter rest => exact .letter letter (List.forall_mem_append.mpr ⟨rest, names⟩)
  | digit digit rest => exact .digit digit (List.forall_mem_append.mpr ⟨rest, names⟩)

theorem Opens.numbered (opens : Opens name.toList) (n : Nat) : Opens (name ++ "_" ++ toString n).toList := by
  rw [String.toList_append, String.toList_append]
  refine (opens.append ?_).append ?_
  · intro c member
    rw [List.mem_singleton.mp member]
    decide
  · intro c member
    rw [Nat.toString_eq_repr, Nat.toList_repr] at member
    have digit := Nat.isDigit_of_mem_toDigits (by decide) (by decide) member
    simp [isNameChar, digit]

theorem Opens.ne_helper (opens : Opens name.toList) : name ≠ Emission.helperName := by
  rintro rfl
  have chars : Emission.helperName.toList = ['_', 't', 'e', 'x', 't'] := rfl
  rw [chars] at opens
  cases opens with
  | letter letter _ => exact absurd letter (by decide)
  | digit digit _ => exact absurd digit (by decide)

end Python

theorem mem_squeeze {underscored : Bool} {cs : List Char} {c : Char} (member : c ∈ squeeze underscored cs) :
    c = '_' ∨ c ∈ cs ∧ Python.isWordChar c := by
  induction underscored, cs using squeeze.induct with
  | case1 => cases member
  | case2 underscored first rest word ih =>
    rw [squeeze, if_pos word] at member
    rcases List.mem_cons.mp member with rfl | later
    · exact .inr ⟨List.mem_cons_self, word⟩
    · exact (ih later).imp_right fun inside => ⟨List.mem_cons_of_mem _ inside.1, inside.2⟩
  | case3 first rest other ih =>
    rw [squeeze, if_neg other] at member
    exact (ih member).imp_right fun inside => ⟨List.mem_cons_of_mem _ inside.1, inside.2⟩
  | case4 underscored first rest other apart ih =>
    rw [squeeze, if_neg other, if_neg apart] at member
    rcases List.mem_cons.mp member with rfl | later
    · exact .inl rfl
    · exact (ih later).imp_right fun inside => ⟨List.mem_cons_of_mem _ inside.1, inside.2⟩

theorem stripUnderscores_head {cs rest : List Char} {c : Char} (stripped : stripUnderscores cs = c :: rest) : c ≠ '_' := by
  have inner : stripUnderscores cs <+: cs.dropWhile (· == '_') := by
    have tail := List.dropWhile_suffix (l := (cs.dropWhile (· == '_')).reverse) (· == '_')
    simpa [stripUnderscores] using List.reverse_prefix.mpr tail
  rw [stripped] at inner
  obtain ⟨more, whole⟩ := inner
  have some : cs.dropWhile (· == '_') ≠ [] := by simp [← whole]
  have first := List.head_dropWhile_not (· == '_') some
  simpa [← whole] using first

theorem sanitize_opens {name : String} (some : sanitize name ≠ "") : Python.Opens (sanitize name).toList := by
  have within : ∀ c ∈ stripUnderscores (squeeze false ((Text.trimChars name.toList).flatMap Text.lowerChar)),
      Python.isNameChar c := by
    intro c member
    rcases mem_squeeze (mem_of_stripUnderscores member) with rfl | ⟨lowered, word⟩
    · decide
    · obtain ⟨_, _, image⟩ := List.mem_flatMap.mp lowered
      exact Python.isNameChar_of_word word (Text.lowerChar_small image)
  rw [sanitize, sanitizeChars] at some ⊢
  rw [String.toList_ofList]
  split at some
  · exact absurd rfl some
  · rename_i first rest stripped
    rw [stripped] at within
    obtain ⟨opening, others⟩ := List.forall_mem_cons.mp within
    split
    · rename_i digit
      exact .digit digit others
    · rename_i letter
      have mark := stripUnderscores_head stripped
      refine .letter ?_ others
      simpa [Python.isNameChar, letter, mark] using opening

namespace Namer

variable {functionName name wish : String} {number : Nat} {unavailable : List String} {namer : Namer} {node : Node}
  {nodes : List Node}

theorem variableStem_opens (kind : Kind) : Python.Opens kind.variableStem.toList := by
  have letters : ∀ stem ∈ ["num", "str", "bool", "list", "sum", "diff", "product", "quotient", "bool_result", "str_result",
      "list_result", "result"], stem.toList.head?.any Char.isLower && stem.toList.all Python.isNameChar := by
    decide
  refine .of_letters (letters _ ?_)
  cases kind with
  | input shape => cases shape <;> simp [Kind.variableStem]
  | _ => simp [Kind.variableStem]

theorem wish_opens (node : Node) (number : Nat) : Python.Opens (Namer.wish node number).toList := by
  unfold Namer.wish
  dsimp only
  split
  · exact (variableStem_opens node.kind).numbered number
  · rename_i named
    cases called : node.name with
    | none => simp [called] at named
    | some name =>
      rw [called] at named
      exact sanitize_opens fun empty => named (by simp [empty])

theorem settle_opens (opens : Python.Opens name.toList) : Python.Opens (settle unavailable name number).toList := by
  rcases List.mem_cons.mp (List.mem_of_find?_eq_some (settle_found unavailable name number)) with same | variant
  · rwa [same]
  · obtain ⟨n, _, same⟩ := List.mem_map.mp variant
    exact same ▸ opens.numbered (number + n)

-- The search for a name as a loop: as long as the name at hand may not be used, the wish is tried with the next
-- number. That a name is found says that the loop ends.
inductive Finds (unavailable : List String) (wish : String) : Nat → String → String → Prop where
  | free {number : Nat} {name : String} : name ∉ unavailable → Finds unavailable wish number name name
  | next {number : Nat} {name found : String} : name ∈ unavailable →
      Finds unavailable wish (number + 1) (wish ++ "_" ++ toString number) found → Finds unavailable wish number name found

theorem finds_of_find? {found : String} (tries : Nat) (number : Nat) (name : String)
    (searched : (name :: (List.range tries).map fun n => wish ++ "_" ++ toString (number + n)).find?
      (!unavailable.contains ·) = some found) : Finds unavailable wish number name found := by
  induction tries generalizing number name with
  | zero =>
    obtain ⟨free, rfl⟩ : name ∉ unavailable ∧ name = found := by simpa using searched
    exact .free free
  | succ tries ih =>
    by_cases taken : name ∈ unavailable
    · refine .next taken (ih (number + 1) _ ?_)
      rw [List.find?_cons_of_neg (by simpa using taken), List.range_succ_eq_map, List.map_cons, List.map_map] at searched
      simpa only [Function.comp_def, Nat.add_zero, Nat.succ_eq_add_one, Nat.add_right_comm number 1, ← Nat.add_assoc]
        using searched
    · rw [List.find?_cons_of_pos (by simpa using taken)] at searched
      exact Option.some.inj searched ▸ .free taken

theorem settle_finds (unavailable : List String) (wish : String) (number : Nat) :
    Finds unavailable wish number wish (settle unavailable wish number) :=
  finds_of_find? unavailable.length number wish (settle_found unavailable wish number)

structure Proper (functionName name : String) : Prop where
  identifier : Python.IsVariable name
  keyword : name ∉ Python.keywords
  reserved : name ∉ Python.reserved
  function : name ≠ functionName
  helper : name ≠ Emission.helperName

def names (namer : Namer) : List Node → List String
  | [] => []
  | node :: rest => (namer.assign node).1 :: names (namer.assign node).2 rest

theorem assign_free (namer : Namer) (node : Node) : (namer.assign node).1 ∉ namer.unavailable :=
  settle_free namer.unavailable (Namer.wish node (namer.counter + 1)) (namer.counter + 1)

theorem assign_proper (taken : functionName ∈ namer.taken) (node : Node) : Proper functionName (namer.assign node).1 := by
  have free := assign_free namer node
  simp only [Namer.unavailable, List.mem_append, not_or] at free
  have opens : Python.Opens (namer.assign node).1.toList := settle_opens (wish_opens node _)
  exact ⟨opens.isVariable, free.1.2, free.2, fun same => free.1.1 (same ▸ taken), opens.ne_helper⟩

theorem names_taken (nodes : List Node) (namer : Namer) :
    (names namer nodes).Nodup ∧ ∀ name ∈ names namer nodes, name ∉ namer.taken := by
  induction nodes generalizing namer with
  | nil => exact ⟨List.nodup_nil, fun _ member => absurd member List.not_mem_nil⟩
  | cons node nodes ih =>
    obtain ⟨new, _, grown⟩ := assign_exact namer node
    obtain ⟨distinct, others⟩ := ih (namer.assign node).2
    simp only [grown, List.mem_append, List.mem_singleton, not_or] at others
    refine ⟨List.nodup_cons.mpr ⟨fun again => (others _ again).2 rfl, distinct⟩, ?_⟩
    exact List.forall_mem_cons.mpr ⟨new, fun name later => (others name later).1⟩

theorem names_proper (nodes : List Node) {namer : Namer} (taken : functionName ∈ namer.taken) :
    ∀ name ∈ names namer nodes, Proper functionName name := by
  induction nodes generalizing namer with
  | nil => exact fun _ member => absurd member List.not_mem_nil
  | cons node nodes ih =>
    have grown : functionName ∈ (namer.assign node).2.taken := by
      rw [(assign_exact namer node).2.2]
      exact List.mem_append_left _ taken
    exact List.forall_mem_cons.mpr ⟨assign_proper taken node, ih grown⟩

theorem names_length (nodes : List Node) (namer : Namer) : (names namer nodes).length = nodes.length := by
  induction nodes generalizing namer with
  | nil => rfl
  | cons node nodes ih => rw [names, List.length_cons, ih, List.length_cons]

theorem names_sound (functionName : String) (nodes : List Node) :
    (names (start functionName) nodes).length = nodes.length ∧ (names (start functionName) nodes).Nodup ∧
    (∀ name ∈ names (start functionName) nodes, Proper functionName name) ∧
    ∀ (namer : Namer) node, Finds namer.unavailable (Namer.wish node (namer.counter + 1)) (namer.counter + 1)
      (Namer.wish node (namer.counter + 1)) (namer.assign node).1 :=
  ⟨names_length nodes _, (names_taken nodes _).1, names_proper nodes (List.mem_singleton.mpr rfl),
    fun namer _ => settle_finds namer.unavailable _ _⟩

-- One name for two nodes, a keyword, a name that opens with a digit, and a Kelvin sign.
example : names (start "calculate") (["Total Price", "total price", "if", " 3rd-value! ", "\u212A", "%%%", "_text"].map
    fun name => ⟨"n", .division, .number 0, some name⟩) =
    ["total_price", "total_price_2", "if_3", "_3rd_value", "k", "quotient_6", "text"] := by
  decide +kernel

end Namer
end Dataflow
