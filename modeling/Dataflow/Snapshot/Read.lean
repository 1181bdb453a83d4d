import Dataflow.Graph.Basic
import Dataflow.Snapshot.Decode

namespace Dataflow

inductive SettingFault where
  | unknownOperation (message : String)
  | objectLiteral
  | listLiteral

inductive SnapshotError where
  | malformed
  | invalidValue (node : String) (fault : SettingFault)
  | graph (fault : GraphError)

def SettingFault.message : SettingFault → String
  | unknownOperation message => message
  | objectLiteral => "objects are not valid literals"
  | listLiteral => "data did not match any variant of untagged enum Value"

def SnapshotError.message : SnapshotError → String
  | malformed => "Failed to parse snapshot JSON"
  | invalidValue node fault => "Node '" ++ node ++ "' carries an invalid value: " ++ fault.message
  | graph fault => fault.message

namespace Snapshot

-- Pairs of a type name and the one it stands for; the last pair of a name counts.
abbrev Aliases := List (String × String)

def resolve (aliases : Aliases) (typeName : String) : String :=
  (aliases.reverse.lookup typeName).getD typeName

def operation (α : Type) [Spelled α] (default : α) (spelling : Option String) : Except SettingFault α :=
  let trimmed := Text.trim (spelling.getD "")
  if trimmed.isEmpty then .ok default
  else
    match Spelled.read? α trimmed with
    | some operation => .ok operation
    | none => .error (.unknownOperation (Spelled.unknownMessage α trimmed))

-- An index given as a number or as numeric text; fractions are cut off and the word's range is kept.
def index? : Json → Option Int
  | .integer n => some (min n Text.greatestWord)
  | .float x => some x.toInt64.toInt
  | .string s => Text.integer? (Text.trim s)
  | _ => none

def pushedText : Json → String
  | .string s => s
  | .null => ""
  | json => json.compact

-- A stored literal; null stores none.
def literal? : Json → Except SettingFault (Option Value)
  | .null => .ok none
  | .object _ => .error .objectLiteral
  | json =>
    match Value.ofJson? json with
    | some value => .ok (some value)
    | none => .error .listLiteral

def textSettings (operation : TextOperation) (data : DocumentData) : TextSettings where
  operation := operation
  start := (data.startIndex.bind index?).getD 0
  stop := data.endIndex.bind index?
  search := data.searchText.getD ""
  replacement := data.replaceText.getD ""
  delimiter := data.delimiter.getD ""

def listSettings (operation : ListOperation) (data : DocumentData) : ListSettings :=
  let default : ListSettings := { operation := operation }
  { default with
    pushed := (data.pushValue.map pushedText).getD default.pushed
    mapping := data.mapFunction.getD default.mapping
    condition := data.filterCondition.getD default.condition
    delimiter := data.joinDelimiter.getD default.delimiter
    range := data.sliceRange.getD default.range }

def configure (kind : Kind) (data : DocumentData) : Except SettingFault Kind :=
  match kind with
  | .comparison default => (operation Comparison default data.operator).map .comparison
  | .boolean default => (operation Connective default data.operator).map .boolean
  | .text default =>
    (operation TextOperation default.operation data.operator).map fun op => .text (textSettings op data)
  | .list default =>
    (operation ListOperation default.operation data.listOperation).map fun op => .list (listSettings op data)
  | kind => .ok kind

-- Only input nodes take a stored value; all others start with their default.
def nodeValue (kind : Kind) (data : DocumentData) : Except SettingFault Value :=
  if kind.isInput then
    match data.value with
    | none => .ok kind.defaultValue
    | some json => (literal? json).map fun value => (value.map kind.coerce).getD kind.defaultValue
  else .ok kind.defaultValue

def readNode (aliases : Aliases) (node : DocumentNode) : Except SettingFault Node := do
  let kind ← configure (.ofTypeName (resolve aliases node.typeName)) node.data
  let value ← nodeValue kind node.data
  return ⟨node.id, kind, value, node.data.name.filter fun name => !Text.isAllBlank name⟩

def addNode (aliases : Aliases) (graph : Graph) (node : DocumentNode) : Except SnapshotError Graph :=
  match readNode aliases node with
  | .error fault => .error (.invalidValue node.id fault)
  | .ok node =>
    match graph.addNode node with
    | (_, .error fault) => .error (.graph fault)
    | (graph, .ok ()) => .ok graph

def addEdge (graph : Graph) (edge : DocumentEdge) : Except SnapshotError Graph :=
  let (grown, added) :=
    if edge.id.isEmpty then
      let (grown, connected) := graph.connect edge.source edge.target edge.targetHandle
      (grown, connected.map fun _ => ())
    else graph.addEdge ⟨edge.id, edge.source, edge.target, edge.sourceHandle, edge.targetHandle⟩
  match added with
  | .error fault => .error (.graph fault)
  | .ok () => .ok grown

def ofDocument (aliases : Aliases) (document : Document) : Except SnapshotError Graph := do
  let graph ← document.nodes.foldlM (addNode aliases) .empty
  document.edges.foldlM addEdge graph

def read (aliases : Aliases) (s : String) : Except SnapshotError Graph :=
  match Document.ofText? s with
  | none => .error .malformed
  | some document => ofDocument aliases document

end Snapshot
end Dataflow
