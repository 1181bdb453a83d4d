import Dataflow.Proofs.Program.Structure
import Mathlib.Data.List.DropRight

namespace Dataflow

inductive Setting where
  | indent (text : String)
  | functionName (name : String)
  | header (shown : Bool)
  | mainBlock (shown : Bool)

namespace Setting

def apply (options : Options) : Setting → Options
  | indent text => { options with indent := text }
  | functionName name => options.withFunctionName name
  | header shown => { options with header := shown }
  | mainBlock shown => { options with mainBlock := shown }

def name? : Setting → Option String
  | functionName name => some name
  | indent _ | header _ | mainBlock _ => none

end Setting

namespace Python

-- The texts that `[A-Za-z_][A-Za-z0-9_]*` stands for.
def IsIdentifier (name : String) : Prop :=
  ∃ first rest, name.toList = first :: rest ∧ (first.isAlpha ∨ first = '_') ∧ ∀ c ∈ rest, isWordChar c

theorem isFunctionName_iff {name : String} : Options.isFunctionName name ↔ IsIdentifier name := by
  unfold Options.isFunctionName IsIdentifier
  cases name.toList with
  | nil => exact ⟨nofun, nofun⟩
  | cons first rest =>
    rw [Bool.and_eq_true, Bool.or_eq_true, beq_iff_eq, List.all_eq_true]
    constructor
    · rintro ⟨opens, words⟩
      exact ⟨first, rest, rfl, opens, words⟩
    · rintro ⟨_, _, ⟨⟩, opens, words⟩
      exact ⟨opens, words⟩

-- The name in a line `def NAME():`.
def defined? (line : String) : Option String :=
  if "def ".toList <+: line.toList ∧ "():".toList <:+ line.toList then some (.ofList ((line.toList.drop 4).rdrop 3))
  else none

theorem defined?_def (name : String) : defined? ("def " ++ name ++ "():") = some name := by
  have chars : ("def " ++ name ++ "():").toList = "def ".toList ++ (name.toList ++ "():".toList) := by
    rw [String.toList_append, String.toList_append, List.append_assoc]
  have start : ("def ".toList ++ (name.toList ++ "():".toList)).drop 4 = name.toList ++ "():".toList := List.drop_left' rfl
  have inner : (name.toList ++ "():".toList).rdrop 3 = name.toList := List.rdrop_append_length
  rw [defined?, chars, if_pos ⟨List.prefix_append _ _, List.suffix_append_of_suffix (List.suffix_append _ _)⟩, start,
    inner, String.ofList_toList]

-- A line whose third character from the end does not open brackets.
theorem defined?_none (start : String) {tail : String} (other : tail.toList.reverse[2]?.any (· != '(')) :
    defined? (start ++ tail) = none := by
  refine if_neg fun both => ?_
  obtain ⟨front, same⟩ := both.2
  cases third : tail.toList.reverse[2]? with
  | none =>
    rw [third] at other
    cases other
  | some c =>
    have within := (List.getElem?_eq_some_iff.mp third).1
    have met : (start ++ tail).toList.reverse[2]? = some c := by
      rw [String.toList_append, List.reverse_append, List.getElem?_append_left within, third]
    rw [← same, List.reverse_append] at met
    cases met
    rw [third] at other
    cases other

end Python

namespace Emission

-- The builtins that statements call.
def called : List String := ["bool", "float", "len", "list", "print", "reversed", "sorted", "str"]

end Emission

namespace Options

variable {options : Options} {settings : List Setting} {name : String}

def build (settings : List Setting) : Options := settings.foldl Setting.apply {}

def accepted (settings : List Setting) : List String := (settings.filterMap Setting.name?).filter isFunctionName

theorem settings_functionName (settings : List Setting) (options : Options) :
    (settings.foldl Setting.apply options).functionName = (accepted settings).getLast?.getD options.functionName := by
  induction settings generalizing options with
  | nil => rfl
  | cons setting settings ih =>
    rw [List.foldl_cons, ih]
    cases setting with
    | functionName name =>
      by_cases taken : isFunctionName name
      · simp [accepted, Setting.name?, Setting.apply, withFunctionName, taken, List.getLast?_cons]
      · simp [accepted, Setting.name?, Setting.apply, withFunctionName, taken]
    | indent | header | mainBlock => rfl

theorem build_functionName (settings : List Setting) :
    (build settings).functionName = (accepted settings).getLast?.getD "calculate" := settings_functionName settings {}

structure Usable (name : String) : Prop where
  identifier : Python.IsIdentifier name
  keyword : name ∉ Python.keywords
  helper : name ≠ Emission.helperName
  builtin : name ∉ Emission.called

theorem calculate_usable : Usable "calculate" :=
  ⟨Python.isFunctionName_iff.mp (by decide), by decide, by decide, by decide⟩

theorem accepted_identifier (taken : name ∈ accepted settings) : Python.IsIdentifier name :=
  Python.isFunctionName_iff.mp (List.mem_filter.mp taken).2

theorem build_identifier (settings : List Setting) : Python.IsIdentifier (build settings).functionName := by
  rw [build_functionName]
  cases last : (accepted settings).getLast? with
  | none => exact calculate_usable.identifier
  | some name => exact accepted_identifier (List.mem_of_getLast? last)

-- A name is usable if the one that was taken last is no word that Python or the program needs.
theorem build_usable (settings : List Setting) : Usable (build settings).functionName ↔
    ∀ name ∈ (accepted settings).getLast?, name ∉ Python.keywords ∧ name ≠ Emission.helperName ∧ name ∉ Emission.called := by
  have identifier := build_identifier settings
  rw [build_functionName] at identifier ⊢
  cases last : (accepted settings).getLast? with
  | none => exact ⟨fun _ _ => nofun, fun _ => calculate_usable⟩
  | some name =>
    rw [last] at identifier
    constructor
    · rintro usable _ ⟨⟩
      exact ⟨usable.keyword, usable.helper, usable.builtin⟩
    · intro free
      obtain ⟨keyword, helper, builtin⟩ := free name rfl
      exact ⟨identifier, keyword, helper, builtin⟩

end Options

namespace Program

variable {graph : Graph}

def text (graph : Graph) (options : Options) : List String :=
  lines options (session graph options) (returned (session graph options) graph.sinks)

-- Nothing in front of the function opens with its form, the helper included, which has an argument.
theorem opening_defines (options : Options) (helper : Bool) :
    ((if options.header then ["# Generated Python code"] else []) ++
      (if helper then Emission.helperLines options.indent ++ [""] else [])).findSome? Python.defined? = none := by
  refine List.findSome?_eq_none_iff.mpr (List.forall_mem_append.mpr ⟨?_, ?_⟩)
  · cases options.header with
    | false => exact List.forall_mem_nil _
    | true => exact List.forall_mem_singleton.mpr (by decide)
  · cases helper with
    | false => exact List.forall_mem_nil _
    | true =>
      simp only [if_true, Emission.helperLines, List.forall_mem_append, List.forall_mem_cons]
      refine ⟨⟨?_, ?_, ?_, ?_, ?_, ?_, List.forall_mem_nil _⟩, by decide, List.forall_mem_nil _⟩ <;>
        (apply Python.defined?_none; rw [String.toList_ofList]; rfl)

theorem text_defines (graph : Graph) (options : Options) :
    (text graph options).findSome? Python.defined? = some options.functionName := by
  unfold text lines
  rw [List.append_assoc, List.append_assoc, List.append_assoc, List.findSome?_append, opening_defines, Option.none_or,
    List.singleton_append, List.findSome?_cons, Python.defined?_def]

theorem variable_apart (valid : graph.WellFormed) (acyclic : graph.Acyclic) (options : Options) :
    options.functionName ∉ (session graph options).assigned.map (·.2) := by
  obtain ⟨emits, _⟩ := session_emits valid acyclic options
  rw [mem_variables valid acyclic options]
  exact (List.nodup_cons.mp (emits.taken ▸ emits.distinct)).1

theorem function_named (built : graph.Built) (acyclic : graph.Acyclic) (nonempty : graph.nodes ≠ [])
    (settings : List Setting) :
    ∃ program name, compile graph (.build settings) = .ok program ∧
      program.source = "\n".intercalate (text graph (.build settings)) ∧
      (text graph (.build settings)).findSome? Python.defined? = some name ∧
      name = (Options.accepted settings).getLast?.getD "calculate" ∧ Python.IsIdentifier name ∧
      name ∉ program.assigned.map (·.2) ∧
      (Options.Usable name ↔ ∀ last ∈ (Options.accepted settings).getLast?,
        last ∉ Python.keywords ∧ last ≠ Emission.helperName ∧ last ∉ Emission.called) := by
  have valid := built.wellFormed
  exact ⟨_, (Options.build settings).functionName, compile_ok valid acyclic nonempty _, rfl, text_defines graph _,
    Options.build_functionName settings, Options.build_identifier settings, variable_apart valid acyclic _,
    Options.build_usable settings⟩

def halved : List Edit := [.addNode (.ofKind "half" .division), .addNode (.ofKind "screen" .display),
  .connect "half" "screen" none]

-- The helper's name is asked for and given up again for one that is taken, and two that are not.
def renamed : List Setting :=
  [.functionName "_text", .indent "\t", .functionName "Half_2", .functionName "2 bad", .header false, .functionName ""]

theorem halved_acyclic : (Graph.build halved).Acyclic :=
  Graph.acyclic_of_ordered (Graph.Built.wellFormed ⟨halved, rfl⟩)
    (by decide +kernel : (Graph.build halved).orderSubset (Graph.build halved).nodeIds = .ok ["half", "screen"])

theorem halved_named : ∃ program, compile (Graph.build halved) (.build renamed) = .ok program ∧
    program.source = "\n".intercalate (text (Graph.build halved) (.build renamed)) ∧
    (text (Graph.build halved) (.build renamed)).findSome? Python.defined? = some "Half_2" ∧ Options.Usable "Half_2" := by
  obtain ⟨program, name, compiled, source, defined, last, _, _, usable⟩ :=
    function_named ⟨halved, rfl⟩ halved_acyclic nofun renamed
  have accepted : (Options.accepted renamed).getLast? = some "Half_2" := by decide
  rw [accepted] at last usable
  subst last
  refine ⟨program, compiled, source, defined, usable.mpr ?_⟩
  rintro _ ⟨⟩
  decide

-- A keyword is no name to Python; the others leave the program without what it prints with, and without its helper.
theorem words_named :
    ["class", "print", "_text"].map (fun word => (compile (Graph.build halved) (.build [.functionName word])).map fun _ =>
      (text (Graph.build halved) (.build [.functionName word])).findSome? Python.defined?) =
      [.ok (some "class"), .ok (some "print"), .ok (some "_text")] ∧
    ¬Options.Usable "class" ∧ ¬Options.Usable "print" ∧ ¬Options.Usable "_text" := by
  have valid : (Graph.build halved).WellFormed := Graph.Built.wellFormed ⟨halved, rfl⟩
  have named (word : String) : ((compile (Graph.build halved) (.build [.functionName word])).map fun _ =>
      (text (Graph.build halved) (.build [.functionName word])).findSome? Python.defined?) =
      .ok (some (Options.build [.functionName word]).functionName) := by
    rw [compile_ok valid halved_acyclic nofun, Except.map, text_defines]
  refine ⟨?_, fun usable => ?_, fun usable => ?_, fun usable => usable.helper rfl⟩
  · simp only [List.map_cons, List.map_nil, named]
    decide
  · exact usable.keyword (by decide)
  · exact usable.builtin (by decide)

end Program
end Dataflow
