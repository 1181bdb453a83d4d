import Dataflow.Json.Writer

namespace Dataflow

-- The settings of a node. Which of them matter depends on its type.
structure DocumentData where
  value : Option Json := none
  name : Option String := none
  operator : Option String := none
  listOperation : Option String := none
  mapFunction : Option String := none
  filterCondition : Option String := none
  joinDelimiter : Option String := none
  sliceRange : Option String := none
  startIndex : Option Json := none
  endIndex : Option Json := none
  searchText : Option String := none
  replaceText : Option String := none
  delimiter : Option String := none
  pushValue : Option Json := none

structure DocumentNode where
  id : String
  typeName : String
  position : Option Json := none
  data : DocumentData := {}

structure DocumentEdge where
  -- Empty where the document gives none.
  id : String := ""
  source : String
  target : String
  sourceHandle : Option String := none
  targetHandle : Option String := none

structure Document where
  nodes : List DocumentNode := []
  edges : List DocumentEdge := []
  viewport : Option Json := none

def jsonField (key : String) (value : Option Json) : List (String × Json) :=
  (value.map fun value => (key, value)).toList

def textField (key : String) (value : Option String) : List (String × Json) :=
  jsonField key (value.map .string)

def DocumentData.fields : List String := [
  "value", "name", "operator", "listOperation", "mapFunction", "filterCondition", "joinDelimiter",
  "sliceRange", "startIndex", "endIndex", "searchText", "replaceText", "delimiter", "pushValue"]

def DocumentData.toJson (data : DocumentData) : Json := .object (
  jsonField "value" data.value ++
  textField "name" data.name ++
  textField "operator" data.operator ++
  textField "listOperation" data.listOperation ++
  textField "mapFunction" data.mapFunction ++
  textField "filterCondition" data.filterCondition ++
  textField "joinDelimiter" data.joinDelimiter ++
  textField "sliceRange" data.sliceRange ++
  jsonField "startIndex" data.startIndex ++
  jsonField "endIndex" data.endIndex ++
  textField "searchText" data.searchText ++
  textField "replaceText" data.replaceText ++
  textField "delimiter" data.delimiter ++
  jsonField "pushValue" data.pushValue)

def DocumentNode.fields : List String := ["id", "type", "position", "data"]

def DocumentNode.toJson (node : DocumentNode) : Json := .object (
  [("id", .string node.id), ("type", .string node.typeName)] ++
  jsonField "position" node.position ++
  [("data", node.data.toJson)])

def DocumentEdge.fields : List String := ["id", "source", "target", "sourceHandle", "targetHandle"]

def DocumentEdge.toJson (edge : DocumentEdge) : Json := .object (
  (if edge.id.isEmpty then [] else [("id", .string edge.id)]) ++
  [("source", .string edge.source), ("target", .string edge.target)] ++
  textField "sourceHandle" edge.sourceHandle ++
  textField "targetHandle" edge.targetHandle)

namespace Document

def fields : List String := ["nodes", "edges", "viewport"]

def toJson (document : Document) : Json := .object (
  [("nodes", .array (document.nodes.map DocumentNode.toJson)),
    ("edges", .array (document.edges.map DocumentEdge.toJson))] ++
  jsonField "viewport" document.viewport)

def toText (document : Document) : String := document.toJson.pretty

end Document
end Dataflow
