import Dataflow.CommandLine.Arguments
import Dataflow.Engine
import Dataflow.Program.Compile
import Dataflow.Snapshot.Read
import Dataflow.Value.Display

namespace Dataflow.CommandLine

-- A file operation that fails says why; the clock counts nanoseconds.
structure Host (m : Type → Type) where
  read : (path : String) → m (Except String String)
  write : (path content : String) → m (Except String Unit)
  now : m Nat

structure Report where
  exit : Nat
  -- The lines of standard output and of standard error.
  output : List String
  notes : List String

namespace Report

def failed (notes : List String) (message : String) : Report := ⟨1, [], notes ++ ["", "Error: " ++ message]⟩

-- A panic ends the run on the spot.
def ofFault (notes : List String) (activity : String) : EngineError → Report
  | .panic node => ⟨101, [], notes ++ [(EngineError.panic node).message]⟩
  | fault => failed notes (activity ++ ": " ++ fault.message)

def succeeded (output notes : List String) : Report := ⟨0, output, notes⟩

end Report

def pair? (s : String) : Option (String × String) :=
  match Text.splitOnce '=' s with
  | none => none
  | some (left, right) =>
    let left := Text.trim left
    if left.isEmpty then none else some (left, Text.trim right)

def aliasPair (s : String) : Except String (String × String) :=
  match pair? s with
  | some pair => .ok pair
  | none => .error ("Invalid alias '" ++ s ++ "', expected TYPE=KIND")

def readGraph (source : Source) (text : String) : Except String Graph := do
  let aliases ← source.aliases.mapM aliasPair
  match Snapshot.read aliases text with
  | .ok graph => return graph
  | .error fault => .error ("Failed to load snapshot: " ++ fault.message)

def loadGraph [Monad m] (host : Host m) (source : Source) : m (Except String Graph) := do
  match ← host.read source.path with
  | .ok text => return readGraph source text
  | .error fault => return .error ("Failed to read snapshot file '" ++ source.path ++ "': " ++ fault)

def durationText (nanoseconds : Nat) : String :=
  let (places, unit) :=
    if nanoseconds ≥ 1000000000 then (9, "s")
    else if nanoseconds ≥ 1000000 then (6, "ms")
    else if nanoseconds ≥ 1000 then (3, "µs")
    else (0, "ns")
  let whole := Nat.pow 10 places
  let digits := Nat.toDigits 10 (nanoseconds % whole)
  let fraction := List.replicate (places - digits.length) '0' ++ digits
  let shown := (fraction.reverse.dropWhile (· == '0')).reverse
  let point := if shown.isEmpty then "" else "."
  toString (nanoseconds / whole) ++ point ++ .ofList shown ++ unit

def warning (diagnostic : Diagnostic) : String := "warning: " ++ diagnostic.text

def compile [Monad m] (host : Host m) (graph : Graph) (output : Option String) (options : Options) : m Report := do
  let start ← host.now
  match Program.compile graph options with
  | .error fault => return .failed [] ("Compilation failed: " ++ fault.message)
  | .ok program =>
    let stop ← host.now
    let warnings := program.diagnostics.map warning
    match output with
    | none => return .succeeded [program.source] warnings
    | some path =>
      match ← host.write path (program.source ++ "\n") with
      | .error fault => return .failed warnings ("Failed to write '" ++ path ++ "': " ++ fault)
      | .ok () => return .succeeded [] (warnings ++ ["Compiled " ++ toString graph.nodes.length ++
          " nodes into '" ++ path ++ "' in " ++ durationText (stop - start)])

def literal (s : String) : Value := (Value.ofJsonText? s).getD (.text s)

def overrideAll : List String → Engine → List String → Except Report (Engine × List String)
  | [], engine, notes => .ok (engine, notes)
  | text :: rest, engine, notes =>
    match pair? text with
    | none => .error (.failed notes ("Invalid override '" ++ text ++ "', expected NODE=VALUE"))
    | some (id, value) =>
      match engine.setValue id (literal value) with
      | (_, .error fault) => .error (.ofFault notes ("Failed to set '" ++ id ++ "'") fault)
      | (engine, .ok changes) =>
        overrideAll rest engine (notes ++ [id ++ ": " ++ toString changes.length ++ " node(s) changed"])

def padded (width : Nat) (s : String) : String := s ++ .ofList (List.replicate (width - s.length) ' ')

def row (node : Node) : String :=
  padded 20 (node.name.getD node.id) ++ " " ++ padded 18 node.kind.label ++ " " ++ node.value.toText

def eval [Monad m] (host : Host m) (graph : Graph) (overrides : List String) : m Report := do
  let start ← host.now
  match (Engine.ofGraph graph).settleAll with
  | (_, .error fault) => return .ofFault [] "Evaluation failed" fault
  | (engine, .ok _) =>
    match overrideAll overrides engine [] with
    | .error report => return report
    | .ok (engine, notes) =>
      let stop ← host.now
      return .succeeded (["--- Live Values ---"] ++ engine.graph.nodes.map row ++
        ["-------------------", "Evaluation: " ++ durationText (stop - start)]) notes

def Request.run [Monad m] (host : Host m) : Request → m Report
  | .compile source output options => do
    match ← loadGraph host source with
    | .ok graph => CommandLine.compile host graph output options
    | .error message => return .failed [] message
  | .eval source overrides => do
    match ← loadGraph host source with
    | .ok graph => CommandLine.eval host graph overrides
    | .error message => return .failed [] message

end Dataflow.CommandLine
