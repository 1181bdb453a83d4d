import Dataflow.Proofs.Json.RoundTrip
import Dataflow.Snapshot.Decode

namespace Dataflow
open Json (Raw raw rawItems rawMembers nestingRoom)

-- The fields by name and in order, those that are not set among them.
abbrev Record := List (String × Option Json)

namespace Record

def members (record : Record) : List (String × Json) := record.flatMap fun entry => jsonField entry.1 entry.2

def names (record : Record) : List String := record.map Prod.fst

end Record

namespace Document

variable {record : Record} {room : Nat} {field : Option Json}

-- Keys that are known and differ are all found.
theorem known?_rawMembers (names : List String) (members : List (String × Json)) (found : List (String × Raw))
    (known : ∀ key ∈ members.map Prod.fst, key ∈ names) (distinct : (found.map Prod.fst ++ members.map Prod.fst).Nodup) :
    known? names (rawMembers members) found = some (found ++ members.map fun member => (member.1, raw member.2)) := by
  induction members generalizing found with
  | nil => rw [rawMembers, known?, List.map_nil, List.append_nil]
  | cons member rest ih =>
    obtain ⟨key, value⟩ := member
    have new : found.lookup key = none := by
      rw [List.lookup_eq_none_iff]
      intro other member
      rw [List.nodup_append] at distinct
      simpa using (distinct.2.2 other.1 (List.mem_map_of_mem member) key List.mem_cons_self).symm
    rw [rawMembers, known?]
    have contained : names.contains key = true := List.contains_iff_mem.mpr (known key List.mem_cons_self)
    simp only [Json.string?_pieces, Option.bind_eq_bind, Option.bind_some, contained, if_true, new, Option.isSome_none,
      Bool.false_eq_true, if_false]
    rw [ih (found ++ [(key, raw value)]) (fun key member => known key (List.mem_cons_of_mem _ member)) (by simpa using distinct)]
    simp

theorem members_names (record : Record) : (record.members.map Prod.fst).Sublist record.names := by
  induction record with
  | nil => exact .slnil
  | cons entry record ih =>
    obtain ⟨key, value⟩ := entry
    cases value with
    | none => exact .cons key ih
    | some json => exact .cons_cons key ih

def found (record : Record) : List (String × Raw) := record.members.map fun member => (member.1, raw member.2)

theorem found_none {name : String} (record : Record) (other : name ∉ record.names) : (found record).lookup name = none := by
  rw [List.lookup_eq_none_iff]
  intro pair member
  obtain ⟨known, inside, rfl⟩ := List.mem_map.mp member
  have named : known.1 ∈ record.names := (members_names record).subset (List.mem_map_of_mem inside)
  exact bne_iff_ne.mpr fun same => other (same ▸ named)

-- A field is found by its name, where no other has it.
theorem found_names (distinct : record.names.Nodup) :
    record.names.map (fun name => (found record).lookup name) = record.map fun entry => entry.2.map raw := by
  induction record with
  | nil => rfl
  | cons entry record ih =>
    obtain ⟨key, value⟩ := entry
    obtain ⟨new, distinct⟩ := List.nodup_cons.mp distinct
    have later : (Record.names record).map (fun name => (found ((key, value) :: record)).lookup name) =
        (Record.names record).map fun name => (found record).lookup name := by
      refine List.map_congr_left fun name member => ?_
      have other : (name == key) = false := beq_false_of_ne fun same => new (same ▸ member)
      cases value with
      | none => rfl
      | some json =>
        refine List.lookup_cons.trans ?_
        rw [other]
        rfl
    have first : (found ((key, value) :: record)).lookup key = value.map raw := by
      cases value with
      | none => exact found_none record new
      | some json => exact List.lookup_cons_self
    exact congrArg₂ List.cons first (later.trans (ih distinct))

theorem fieldsOf?_members (distinct : record.names.Nodup) :
    fieldsOf? record.names (.object (rawMembers record.members)) = some (record.map fun entry => entry.2.map raw) := by
  have sublist := members_names record
  rw [fieldsOf?, known?_rawMembers _ _ [] (fun key member => sublist.subset member) (by simpa using distinct.sublist sublist),
    Option.map_some, List.nil_append]
  exact congrArg some (found_names distinct)

end Document

-- The records of a document.

def DocumentData.record (data : DocumentData) : Record := [
  ("value", data.value), ("name", data.name.map .string), ("operator", data.operator.map .string),
  ("listOperation", data.listOperation.map .string), ("mapFunction", data.mapFunction.map .string),
  ("filterCondition", data.filterCondition.map .string), ("joinDelimiter", data.joinDelimiter.map .string),
  ("sliceRange", data.sliceRange.map .string), ("startIndex", data.startIndex), ("endIndex", data.endIndex),
  ("searchText", data.searchText.map .string), ("replaceText", data.replaceText.map .string),
  ("delimiter", data.delimiter.map .string), ("pushValue", data.pushValue)]

def DocumentNode.record (node : DocumentNode) : Record := [
  ("id", some (.string node.id)), ("type", some (.string node.typeName)), ("position", node.position),
  ("data", some node.data.toJson)]

def DocumentEdge.record (edge : DocumentEdge) : Record := [
  ("id", if edge.id.isEmpty then none else some (.string edge.id)), ("source", some (.string edge.source)),
  ("target", some (.string edge.target)), ("sourceHandle", edge.sourceHandle.map .string),
  ("targetHandle", edge.targetHandle.map .string)]

def Document.record (document : Document) : Record := [
  ("nodes", some (.array (document.nodes.map DocumentNode.toJson))),
  ("edges", some (.array (document.edges.map DocumentEdge.toJson))), ("viewport", document.viewport)]

theorem DocumentData.toJson_eq (data : DocumentData) : data.toJson = .object data.record.members := by
  simp [toJson, record, Record.members, textField]

theorem DocumentNode.toJson_eq (node : DocumentNode) : node.toJson = .object node.record.members := by
  simp [toJson, record, Record.members, jsonField]

theorem DocumentEdge.toJson_eq (edge : DocumentEdge) : edge.toJson = .object edge.record.members := by
  by_cases unnamed : edge.id.isEmpty <;> simp [toJson, record, Record.members, textField, jsonField, unnamed]

theorem Document.toJson_eq (document : Document) : document.toJson = .object document.record.members := by
  simp [toJson, record, Record.members, jsonField]

-- An optional field as reading can give it: null is not among its values.
def FieldFits (room : Nat) (field : Option Json) : Prop := ∀ json ∈ field, json.Fits room ∧ json ≠ .null

structure DocumentData.Fits (room : Nat) (data : DocumentData) : Prop where
  value : FieldFits room data.value
  startIndex : FieldFits room data.startIndex
  endIndex : FieldFits room data.endIndex
  pushValue : FieldFits room data.pushValue

structure DocumentNode.Fits (room : Nat) (node : DocumentNode) : Prop where
  position : FieldFits room node.position
  data : node.data.Fits (room - 1)

structure Document.Fits (document : Document) : Prop where
  nodes : ∀ node ∈ document.nodes, node.Fits (nestingRoom - 3)
  viewport : FieldFits (nestingRoom - 1) document.viewport

-- Doubles stand in the fields of a record, and nowhere else.
theorem Record.exact {record : Record} {name : String} (exact : (Json.object record.members).Exact)
    (listed : (name, field) ∈ record) : ∀ json ∈ field, json.Exact := by
  rintro json rfl
  have member : (name, json) ∈ record.members := List.mem_flatMap.mpr ⟨_, listed, List.mem_singleton.mpr rfl⟩
  exact exact.member _ member

namespace Document

-- Fields.

theorem optional?_json (fits : FieldFits room field) (exact : ∀ json ∈ field, json.Exact) :
    optional? (Json.ofRaw? room) (field.map raw) = some field := by
  cases field with
  | none => rfl
  | some json =>
    obtain ⟨fits, other⟩ := fits json rfl
    rw [Option.map_some, optional?, Json.ofRaw?_raw json room fits (exact json rfl), Option.map_some]
    intro null
    exact other (Json.raw_null fits null)

theorem text?_raw (s : String) : text? (raw (.string s)) = some s := Json.string?_pieces s

theorem optional?_text (field : Option String) : optional? text? ((field.map .string).map raw) = some field := by
  cases field with
  | none => rfl
  | some s => exact congrArg (Option.map some) (text?_raw s)

theorem fieldFits_of_read {raw : Option Raw} (read : optional? (Json.ofRaw? room) raw = some field) : FieldFits room field := by
  unfold optional? at read
  split at read
  · cases read
    simp [FieldFits]
  · cases read
    simp [FieldFits]
  · rename_i raw other
    obtain ⟨json, value, rfl⟩ := Option.map_eq_some_iff.mp read
    rintro _ ⟨⟩
    refine ⟨Json.fits_of_read raw room json value, ?_⟩
    rintro rfl
    exact other (Json.null_of_read value)

theorem defaulted?_holds {default : α} {read : Raw → Option α} {holds : α → Prop} (unset : holds default)
    (each : ∀ {raw a}, read raw = some a → holds a) {field : Option Raw} {a : α}
    (filled : defaulted? default read field = some a) : holds a := by
  cases field with
  | none =>
    cases filled
    exact unset
  | some raw => exact each filled

theorem given {a : Option α} {x : α} {f : α → Option β} {y : β} (first : a = some x) (next : f x = some y) :
    a >>= f = some y := Option.bind_eq_some_iff.mpr ⟨x, first, next⟩

theorem taken {a : Option α} {f : α → Option β} {y : β} (read : a >>= f = some y) : ∃ x, a = some x ∧ f x = some y :=
  Option.bind_eq_some_iff.mp read

-- Data.

theorem data?_toJson {data : DocumentData} (fits : data.Fits room) (exact : data.toJson.Exact) :
    data? room (raw data.toJson) = some data := by
  have distinct : data.record.names.Nodup := by simp [DocumentData.record, Record.names]
  rw [DocumentData.toJson_eq] at exact ⊢
  have value := Record.exact exact (by simp [DocumentData.record] : ("value", data.value) ∈ data.record)
  have startIndex := Record.exact exact (by simp [DocumentData.record] : ("startIndex", data.startIndex) ∈ data.record)
  have endIndex := Record.exact exact (by simp [DocumentData.record] : ("endIndex", data.endIndex) ∈ data.record)
  have pushValue := Record.exact exact (by simp [DocumentData.record] : ("pushValue", data.pushValue) ∈ data.record)
  refine given (fieldsOf?_members distinct) ?_
  refine given (optional?_json fits.value value) (given (optional?_text data.name) (given (optional?_text data.operator) ?_))
  refine given (optional?_text data.listOperation) (given (optional?_text data.mapFunction) ?_)
  refine given (optional?_text data.filterCondition) (given (optional?_text data.joinDelimiter) ?_)
  refine given (optional?_text data.sliceRange) (given (optional?_json fits.startIndex startIndex) ?_)
  refine given (optional?_json fits.endIndex endIndex) (given (optional?_text data.searchText) ?_)
  refine given (optional?_text data.replaceText) (given (optional?_text data.delimiter) ?_)
  exact given (optional?_json fits.pushValue pushValue) rfl

theorem data?_fits {raw : Raw} {data : DocumentData} (read : data? room raw = some data) : data.Fits room := by
  obtain ⟨fields, _, read⟩ := Option.bind_eq_some_iff.mp read
  split at read
  · obtain ⟨_, value, read⟩ := taken read
    iterate 7 obtain ⟨_, -, read⟩ := taken read
    obtain ⟨_, startIndex, read⟩ := taken read
    obtain ⟨_, endIndex, read⟩ := taken read
    iterate 3 obtain ⟨_, -, read⟩ := taken read
    obtain ⟨_, pushValue, read⟩ := taken read
    cases read
    exact ⟨fieldFits_of_read value, fieldFits_of_read startIndex, fieldFits_of_read endIndex, fieldFits_of_read pushValue⟩
  · cases read

-- Nodes and edges.

theorem documentNode?_toJson {node : DocumentNode} (fits : node.Fits room) (exact : node.toJson.Exact) :
    documentNode? room (raw node.toJson) = some node := by
  have distinct : node.record.names.Nodup := by simp [DocumentNode.record, Record.names]
  rw [DocumentNode.toJson_eq] at exact ⊢
  have position := Record.exact exact (by simp [DocumentNode.record] : ("position", node.position) ∈ node.record)
  have data := Record.exact exact (by simp [DocumentNode.record] : ("data", some node.data.toJson) ∈ node.record)
  refine given (fieldsOf?_members distinct) ?_
  refine given (text?_raw node.id) (given (text?_raw node.typeName) ?_)
  exact given (optional?_json fits.position position) (given (data?_toJson fits.data (data _ rfl)) rfl)

theorem data?_empty : ({} : DocumentData).Fits room := by
  constructor <;> simp [FieldFits]

theorem documentNode?_fits {raw : Raw} {node : DocumentNode} (read : documentNode? room raw = some node) : node.Fits room := by
  obtain ⟨fields, _, read⟩ := Option.bind_eq_some_iff.mp read
  split at read
  · simp only [Option.bind_eq_bind, Option.bind_eq_some_iff, Option.pure_def, Option.some.injEq] at read
    obtain ⟨_, -, _, -, _, position, _, data, rfl⟩ := read
    exact ⟨fieldFits_of_read position, defaulted?_holds data?_empty data?_fits data⟩
  · cases read

theorem documentEdge?_toJson (edge : DocumentEdge) : documentEdge? (raw edge.toJson) = some edge := by
  have distinct : edge.record.names.Nodup := by simp [DocumentEdge.record, Record.names]
  rw [DocumentEdge.toJson_eq]
  refine given (fieldsOf?_members distinct) ?_
  have id : defaulted? "" text? ((if edge.id.isEmpty then none else some (.string edge.id)).map raw) = some edge.id := by
    by_cases unnamed : edge.id.isEmpty
    · rw [if_pos unnamed, String.isEmpty_iff.mp unnamed]
      rfl
    · rw [if_neg unnamed]
      exact text?_raw edge.id
  refine given id (given (text?_raw edge.source) (given (text?_raw edge.target) ?_))
  exact given (optional?_text edge.sourceHandle) (given (optional?_text edge.targetHandle) rfl)

-- Documents.

theorem rawItems_eq (items : List Json) : rawItems items = items.map raw := by
  induction items with
  | nil => rfl
  | cons item rest ih => rw [rawItems, ih, List.map_cons]

theorem items?_toJson {read : Raw → Option α} {write : α → Json} {list : List α}
    (each : ∀ a ∈ list, read (raw (write a)) = some a) : items? read (raw (.array (list.map write))) = some list := by
  rw [raw, items?, rawItems_eq, List.map_map]
  induction list with
  | nil => rfl
  | cons a list ih =>
    rw [List.map_cons, List.mapM_cons]
    exact given (each a List.mem_cons_self) (given (ih fun b member => each b (List.mem_cons_of_mem _ member)) rfl)

theorem ofRaw?_toJson {document : Document} (fits : document.Fits) (exact : document.toJson.Exact) :
    ofRaw? (raw document.toJson) = some document := by
  have distinct : document.record.names.Nodup := by simp [Document.record, Record.names]
  rw [Document.toJson_eq] at exact ⊢
  have listed := Record.exact exact
    (by simp [Document.record] : ("nodes", some (.array (document.nodes.map DocumentNode.toJson))) ∈ document.record)
  have viewport := Record.exact exact (by simp [Document.record] : ("viewport", document.viewport) ∈ document.record)
  have nodes : ∀ node ∈ document.nodes, node.toJson.Exact := fun node member =>
    (listed _ rfl).item _ (List.mem_map_of_mem member)
  refine given (fieldsOf?_members distinct) ?_
  refine given (items?_toJson fun node member => documentNode?_toJson (fits.nodes node member) (nodes node member)) ?_
  exact given (items?_toJson fun edge _ => documentEdge?_toJson edge) (given (optional?_json fits.viewport viewport) rfl)

theorem items?_holds {read : Raw → Option α} {holds : α → Prop} (each : ∀ {raw a}, read raw = some a → holds a)
    {raw : Raw} {list : List α} (all : items? read raw = some list) : ∀ a ∈ list, holds a := by
  cases raw with
  | array items =>
    rw [items?] at all
    induction items generalizing list with
    | nil =>
      cases all
      simp
    | cons item items ih =>
      rw [List.mapM_cons] at all
      obtain ⟨a, first, all⟩ := taken all
      obtain ⟨others, more, all⟩ := taken all
      cases all
      exact List.forall_mem_cons.mpr ⟨each first, ih more⟩
  | null | bool | number | string | object => cases all

theorem ofRaw?_fits {raw : Raw} {document : Document} (read : ofRaw? raw = some document) : document.Fits := by
  obtain ⟨fields, _, read⟩ := Option.bind_eq_some_iff.mp read
  split at read
  · simp only [Option.bind_eq_bind, Option.bind_eq_some_iff, Option.pure_def, Option.some.injEq] at read
    obtain ⟨_, nodes, _, -, _, viewport, rfl⟩ := read
    exact ⟨defaulted?_holds (by simp) (items?_holds documentNode?_fits) nodes, fieldFits_of_read viewport⟩
  · cases read

-- The documents that come back from their text are those that keep the limits of the format.
theorem ofText?_toText {document : Document} (exact : document.toJson.Exact) :
    ofText? document.toText = some document ↔ document.Fits := by
  constructor
  · intro read
    obtain ⟨raw, _, decoded⟩ := taken read
    exact ofRaw?_fits decoded
  · intro fits
    exact given (Json.ofText?_pretty document.toJson) (ofRaw?_toJson fits exact)

theorem rewriting_stable {s : String} {document : Document} (read : ofText? s = some document)
    (exact : document.toJson.Exact) : ofText? document.toText = some document := by
  obtain ⟨raw, _, decoded⟩ := taken read
  exact (ofText?_toText exact).mpr (ofRaw?_fits decoded)

-- A node and an edge as arrays, an unset and an unknown field, an escape, and a key that is given twice.
def scrawl : String :=
  "\x7b\"nodes\":[[\"a\",\"\\u00e9\",null,\x7b\"value\":[1e2,-0,\x7b\"k\":1,\"k\":[]\x7d],\"name\":null,\"x\":2\x7d]]," ++
  "\"edges\":[[\"\",\"a\",\"b\"]]\x7d"

theorem scrawl_stable : ∃ document, ofText? scrawl = some document ∧ document.toJson.Exact ∧
    ofText? document.toText = some document := by
  have accepted : ∀ document ∈ ofText? scrawl, document.toJson.Exact := by decide +kernel
  have accepts : (ofText? scrawl).isSome = true := by decide +kernel
  obtain ⟨document, read⟩ := Option.isSome_iff_exists.mp accepts
  have exact := accepted document read
  exact ⟨document, read, exact, rewriting_stable read exact⟩

end Document
end Dataflow
