import Dataflow.Json.Meaning
import Dataflow.Snapshot.Document

namespace Dataflow.Document
open Json (Raw Piece)

def known? (names : List String) : List (List Piece × Raw) → List (String × Raw) → Option (List (String × Raw))
  | [], found => some found
  | (pieces, value) :: rest, found => do
    let key ← Json.string? pieces
    if names.contains key then
      if (found.lookup key).isSome then none else known? names rest (found ++ [(key, value)])
    else known? names rest found

def fieldsOf? (names : List String) : Raw → Option (List (Option Raw))
  | .object members => (known? names members []).map fun found => names.map fun name => found.lookup name
  | .array items =>
    if items.length ≤ names.length then some ((List.range names.length).map fun n => items[n]?) else none
  | _ => none

def text? : Raw → Option String
  | .string pieces => Json.string? pieces
  | _ => none

def required? (read : Raw → Option α) : Option Raw → Option α
  | some raw => read raw
  | none => none

def defaulted? (default : α) (read : Raw → Option α) : Option Raw → Option α
  | some raw => read raw
  | none => some default

-- Null counts as not set.
def optional? (read : Raw → Option α) : Option Raw → Option (Option α)
  | none | some .null => some none
  | some raw => (read raw).map some

def items? (read : Raw → Option α) : Raw → Option (List α)
  | .array items => items.mapM read
  | _ => none

-- `room` is how deep values may still nest inside the record.
def data? (room : Nat) (raw : Raw) : Option DocumentData := do
  let json := optional? (Json.ofRaw? room)
  let text := optional? text?
  match ← fieldsOf? DocumentData.fields raw with
  | [value, name, operator, listOperation, mapFunction, filterCondition, joinDelimiter, sliceRange,
      startIndex, endIndex, searchText, replaceText, delimiter, pushValue] =>
    return {
      value := ← json value
      name := ← text name
      operator := ← text operator
      listOperation := ← text listOperation
      mapFunction := ← text mapFunction
      filterCondition := ← text filterCondition
      joinDelimiter := ← text joinDelimiter
      sliceRange := ← text sliceRange
      startIndex := ← json startIndex
      endIndex := ← json endIndex
      searchText := ← text searchText
      replaceText := ← text replaceText
      delimiter := ← text delimiter
      pushValue := ← json pushValue }
  | _ => none

def documentNode? (room : Nat) (raw : Raw) : Option DocumentNode := do
  match ← fieldsOf? DocumentNode.fields raw with
  | [id, typeName, position, data] =>
    return {
      id := ← required? text? id
      typeName := ← required? text? typeName
      position := ← optional? (Json.ofRaw? room) position
      data := ← defaulted? {} (data? (room - 1)) data }
  | _ => none

def documentEdge? (raw : Raw) : Option DocumentEdge := do
  match ← fieldsOf? DocumentEdge.fields raw with
  | [id, source, target, sourceHandle, targetHandle] =>
    return {
      id := ← defaulted? "" text? id
      source := ← required? text? source
      target := ← required? text? target
      sourceHandle := ← optional? text? sourceHandle
      targetHandle := ← optional? text? targetHandle }
  | _ => none

-- A node lies three levels deep, so its fields have that much less room.
def ofRaw? (raw : Raw) : Option Document := do
  match ← fieldsOf? fields raw with
  | [nodes, edges, viewport] =>
    return {
      nodes := ← defaulted? [] (items? (documentNode? (Json.nestingRoom - 3))) nodes
      edges := ← defaulted? [] (items? documentEdge?) edges
      viewport := ← optional? (Json.ofRaw? (Json.nestingRoom - 1)) viewport }
  | _ => none

def ofText? (s : String) : Option Document := (Raw.ofText? s).bind ofRaw?

end Dataflow.Document
