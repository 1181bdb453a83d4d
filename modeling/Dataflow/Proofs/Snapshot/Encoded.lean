import Dataflow.Proofs.Json.RoundTrip
import Dataflow.Proofs.Text.Quoted
import Dataflow.Proofs.Value.Json
import Dataflow.Snapshot.Read

namespace Dataflow

namespace Text

variable {before after core : List Char}

theorem trimChars_between (front : ∀ c ∈ before, isBlank c) (behind : ∀ c ∈ after, isBlank c)
    (first : ∀ c ∈ core.head?, isBlank c = false) (last : ∀ c ∈ core.getLast?, isBlank c = false) (some : core ≠ []) :
    trimChars (before ++ (core ++ after)) = core := by
  have opened : (before ++ (core ++ after)).dropWhile isBlank = core ++ after :=
    (Json.takeWhile_stops front (by rwa [List.head?_append_of_ne_nil _ some])).2
  have closed : (after.reverse ++ core.reverse).dropWhile isBlank = core.reverse :=
    (Json.takeWhile_stops (fun c member => behind c (List.mem_reverse.mp member)) (by rwa [List.head?_reverse])).2
  rw [trimChars, opened, List.reverse_append, closed, List.reverse_reverse]

end Text

namespace Value

variable {items : List Value} {value : Value} {room : Nat} {before after : String}

-- How deep lists nest in a value.
mutual
def depth : Value → Nat
  | list items => depthIn items + 1
  | number _ | text _ | bool _ => 0

def depthIn : List Value → Nat
  | [] => 0
  | item :: rest => max (depth item) (depthIn rest)
end

mutual
theorem fits_toJson (value : Value) (room : Nat) (finite : value.Finite) (shallow : value.depth ≤ room) :
    Json.Fits room value.toJson := by
  cases value with
  | number n =>
    have bounded : n.isFinite = true := finite
    rw [toJson, if_pos bounded]
    exact bounded
  | text s => exact trivial
  | bool b => exact trivial
  | list items =>
    match room with
    | 0 => exact absurd shallow (Nat.not_succ_le_zero _)
    | room + 1 => exact itemsFit_toJson items room finite (Nat.le_of_succ_le_succ shallow)

theorem itemsFit_toJson (items : List Value) (room : Nat) (finite : FiniteIn items) (shallow : depthIn items ≤ room) :
    Json.ItemsFit room (itemsToJson items) := by
  cases items with
  | nil => exact trivial
  | cons item rest =>
    rw [depthIn, Nat.max_le] at shallow
    exact ⟨fits_toJson item room finite.1 shallow.1, itemsFit_toJson rest room finite.2 shallow.2⟩
end

-- The brackets are no blanks, so that trimming leaves the text of an array alone.
theorem trim_array (array : List Json) (front : Text.Every Text.isBlank before) (behind : Text.Every Text.isBlank after) :
    Text.trim (before ++ (Json.array array).compact ++ after) = (Json.array array).compact := by
  have core : (Json.array array).compact.toList = '[' :: Json.compactItems array ++ [']'] := by
    rw [Json.compact, String.toList_ofList, Json.compactChars]
  have trimmed : Text.trimChars (before.toList ++ ((Json.array array).compact.toList ++ after.toList)) =
      (Json.array array).compact.toList := by
    refine Text.trimChars_between front behind ?_ ?_ ?_ <;> rw [core]
    · rintro _ ⟨⟩
      decide
    · rw [List.getLast?_concat]
      rintro _ ⟨⟩
      decide
    · exact List.cons_ne_nil _ _
  rw [Text.trim, String.toList_append, String.toList_append, List.append_assoc, trimmed, String.ofList_toList]

theorem parseList_array {array : List Json} (fits : Json.Fits Json.nestingRoom (.array array))
    (exact : (Json.array array).Exact) (meant : itemsOfJson? array = some items) (front : Text.Every Text.isBlank before)
    (behind : Text.Every Text.isBlank after) : parseList (before ++ (Json.array array).compact ++ after) = items := by
  have opened : (Json.array array).compact.toList.head? = some '[' := by
    rw [Json.compact, String.toList_ofList, Json.compactChars]
    rfl
  have unempty : (Json.array array).compact.isEmpty = false := by
    rw [Bool.eq_false_iff]
    intro empty
    rw [String.isEmpty_iff.mp empty] at opened
    cases opened
  have read : listOfJsonText? (Json.array array).compact = some items := by
    rw [listOfJsonText?, Json.ofText?_fits fits exact]
    exact meant
  rw [parseList, trim_array array front behind]
  simp [unempty, opened, read]

theorem parseList_encoded (finite : FiniteIn items) (exact : (list items).toJson.Exact) (shallow : (list items).depth ≤ 127)
    (front : Text.Every Text.isBlank before) (behind : Text.Every Text.isBlank after) :
    parseList (before ++ (list items).jsonText ++ after) = items :=
  parseList_array (fits_toJson (list items) Json.nestingRoom finite shallow) exact
    ((itemsOfJson?_itemsToJson items items).mpr ⟨finite, rfl⟩) front behind

end Value

namespace Snapshot

-- A list input takes a stored list as it is, however its numbers are written.
theorem nodeValue_array {json : Json} {items : List Value} (meant : Value.ofJson? json = some (.list items))
    (data : DocumentData) : nodeValue (.input .list) { data with value := some json } = .ok (.list items) := by
  have literal : literal? json = .ok (some (.list items)) := by
    cases json with
    | null => cases meant
    | object members => cases meant
    | _ => simp only [literal?, meant]
  simp only [nodeValue, Kind.isInput, if_true, literal]
  rfl

theorem nodeValue_text (s : String) (data : DocumentData) :
    nodeValue (.input .list) { data with value := some (.string s) } = .ok (.list (Value.parseList s)) := rfl

theorem encoded_list {items : List Value} (finite : Value.FiniteIn items) (exact : (Value.list items).toJson.Exact)
    (shallow : (Value.list items).depth ≤ 127) {before after : String} (front : Text.Every Text.isBlank before)
    (behind : Text.Every Text.isBlank after) :
    Value.parseList (before ++ (Value.list items).jsonText ++ after) = items ∧
    (Kind.input .list).coerce (.text (before ++ (Value.list items).jsonText ++ after)) =
      (Kind.input .list).coerce (.list items) ∧
    ∀ (data : DocumentData) (json : Json), Value.ofJson? json = some (.list items) →
      nodeValue (.input .list) { data with value := some (.string (before ++ (Value.list items).jsonText ++ after)) } =
        .ok (.list items) ∧
      nodeValue (.input .list) { data with value := some json } = .ok (.list items) := by
  have parsed := Value.parseList_encoded finite exact shallow front behind
  refine ⟨parsed, ?_, fun data json meant => ⟨?_, nodeValue_array meant data⟩⟩
  · exact congrArg Value.list parsed
  · rw [nodeValue_text, parsed]

-- Marks of the format inside of texts, lists in lists, a fraction and a negative zero, between two blanks that JSON
-- has not.
def tricky : List Value := [.number 0.1, .number (-0.0), .text "a,\"]", .list [.bool true, .list [], .text "1"]]

theorem tricky_read :
    Value.parseList "\u00A0[0.1,-0.0,\"a,\\\"]\",[true,[],\"1\"]]\u2028" = tricky ∧
    nodeValue (.input .list) { value := some (.string "\u00A0[0.1,-0.0,\"a,\\\"]\",[true,[],\"1\"]]\u2028") } =
      .ok (.list tricky) ∧
    nodeValue (.input .list) { value := some (Value.list tricky).toJson } = .ok (.list tricky) := by
  have finite : Value.FiniteIn tricky := by decide +kernel
  have exact : (Value.list tricky).toJson.Exact := by decide +kernel
  have written : "\u00A0" ++ (Value.list tricky).jsonText ++ "\u2028" =
      "\u00A0[0.1,-0.0,\"a,\\\"]\",[true,[],\"1\"]]\u2028" := by decide +kernel
  have meant : Value.ofJson? (Value.list tricky).toJson = some (.list tricky) :=
    (Value.ofJson?_toJson _ _).mpr ⟨finite, rfl⟩
  obtain ⟨parsed, _, read⟩ := encoded_list finite exact (by decide) (by decide : Text.Every Text.isBlank "\u00A0")
    (by decide : Text.Every Text.isBlank "\u2028")
  rw [written] at parsed read
  exact ⟨parsed, read {} _ meant⟩

end Snapshot
end Dataflow
