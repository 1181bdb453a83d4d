import Dataflow.Graph.Basic
import Dataflow.Snapshot.Document

namespace Dataflow.Snapshot

def exportData (node : Node) : DocumentData :=
  let data : DocumentData := { value := some node.value.toJson, name := node.name }
  match node.kind with
  | .comparison operation => { data with operator := some (Spelled.spelling operation) }
  | .boolean operation => { data with operator := some (Spelled.spelling operation) }
  | .text settings => { data with
      operator := some (Spelled.spelling settings.operation)
      startIndex := some (.integer settings.start)
      endIndex := settings.stop.map .integer
      searchText := some settings.search
      replaceText := some settings.replacement
      delimiter := some settings.delimiter }
  | .list settings => { data with
      listOperation := some (Spelled.spelling settings.operation)
      pushValue := some (.string settings.pushed)
      mapFunction := some settings.mapping
      filterCondition := some settings.condition
      joinDelimiter := some settings.delimiter
      sliceRange := some settings.range }
  | _ => data

def exportNode (node : Node) : DocumentNode :=
  { id := node.id, typeName := node.kind.typeName, data := exportData node }

def exportEdge (edge : Edge) : DocumentEdge :=
  ⟨edge.id, edge.source, edge.target, edge.sourceHandle, edge.targetHandle⟩

def toDocument (graph : Graph) : Document :=
  { nodes := graph.nodes.map exportNode, edges := graph.edges.map exportEdge }

def write (graph : Graph) : String := (toDocument graph).toText

end Dataflow.Snapshot
