import Dataflow.Program.Options
import Dataflow.Text.Integer

namespace Dataflow.CommandLine

inductive Command where
  | compile
  | eval
deriving DecidableEq

inductive Flag where
  | verbose
  | kindAlias
  | output
  | functionName
  | indent
  | noHeader
  | noMain
  | literal
deriving DecidableEq

namespace Flag

def all : List Flag := [verbose, kindAlias, output, functionName, indent, noHeader, noMain, literal]

def longName : Flag → String
  | verbose => "verbose"
  | kindAlias => "alias"
  | output => "output"
  | functionName => "function-name"
  | indent => "indent"
  | noHeader => "no-header"
  | noMain => "no-main"
  | literal => "set"

def shortName? : Flag → Option Char
  | verbose => some 'v'
  | output => some 'o'
  | _ => none

def takesValue : Flag → Bool
  | verbose | noHeader | noMain => false
  | kindAlias | output | functionName | indent | literal => true

def isRepeatable : Flag → Bool
  | kindAlias | literal => true
  | _ => false

def belongsTo (command : Command) : Flag → Bool
  | verbose | kindAlias => true
  | output | functionName | indent | noHeader | noMain => command == .compile
  | literal => command == .eval

def ofLongName? (command : Command) (name : String) : Option Flag :=
  all.find? fun flag => flag.belongsTo command && flag.longName == name

def ofShortName? (command : Command) (letter : Char) : Option Flag :=
  all.find? fun flag => flag.belongsTo command && flag.shortName? == some letter

end Flag

structure Given where
  flag : Flag
  value : String := ""

-- One argument by itself: flags, of which the last may still await its value.
structure Word where
  given : List Given := []
  awaits : Option Flag := none

def longWord? (command : Command) (body : List Char) : Option Word := do
  let flag ← Flag.ofLongName? command (.ofList (body.takeWhile (· != '=')))
  match flag.takesValue, body.dropWhile (· != '=') with
  | true, [] => return { awaits := some flag }
  | true, _ :: value => return { given := [⟨flag, .ofList value⟩] }
  | false, [] => return { given := [⟨flag, ""⟩] }
  | false, _ :: _ => none

-- Flags by their letters; one that takes a value takes the rest of the word.
def shortWord? (command : Command) : List Char → Option Word
  | [] => some {}
  | letter :: rest => do
    let flag ← Flag.ofShortName? command letter
    if flag.takesValue then
      match rest with
      | [] => return { awaits := some flag }
      | '=' :: value => return { given := [⟨flag, .ofList value⟩] }
      | value => return { given := [⟨flag, .ofList value⟩] }
    else
      let word ← shortWord? command rest
      return { word with given := ⟨flag, ""⟩ :: word.given }

-- A lone dash is no flag.
def isFlagged (argument : String) : Bool :=
  match argument.toList with
  | '-' :: _ :: _ => true
  | _ => false

def word? (command : Command) (argument : String) : Option Word :=
  match argument.toList with
  | '-' :: '-' :: body => longWord? command body
  | _ :: letters => shortWord? command letters
  | [] => none

structure Arguments where
  given : List Given := []
  paths : List String := []

namespace Arguments

def withGiven (given : List Given) (arguments : Arguments) : Arguments :=
  { arguments with given := given ++ arguments.given }

def withPath (path : String) (arguments : Arguments) : Arguments :=
  { arguments with paths := path :: arguments.paths }

def read? (command : Command) : List String → Option Arguments
  | [] => some {}
  | argument :: rest =>
    if argument == "--" then some { paths := rest }
    else if isFlagged argument then
      match word? command argument, rest with
      | none, _ => none
      | some ⟨given, none⟩, rest => (read? command rest).map (withGiven given)
      | some ⟨_, some _⟩, [] => none
      | some ⟨given, some flag⟩, value :: rest =>
        if isFlagged value then none
        else (read? command rest).map (withGiven (given ++ [⟨flag, value⟩]))
    else (read? command rest).map (withPath argument)

def valuesOf (arguments : Arguments) (flag : Flag) : List String :=
  (arguments.given.filter (·.flag == flag)).map (·.value)

def has (arguments : Arguments) (flag : Flag) : Bool := arguments.given.any (·.flag == flag)

def isRepeated (arguments : Arguments) (flag : Flag) : Bool :=
  !flag.isRepeatable && 1 < (arguments.valuesOf flag).length

def path? (arguments : Arguments) : Option String :=
  match arguments.paths with
  | [path] => if Flag.all.any arguments.isRepeated then none else some path
  | _ => none

end Arguments

-- Which snapshot to load; aliases are kept as they were written.
structure Source where
  path : String
  aliases : List String

inductive Request where
  -- Without an output the program is printed.
  | compile (source : Source) (output : Option String) (options : Options)
  | eval (source : Source) (overrides : List String)

-- A count that fits a word; a plus sign may stand in front.
def count? (s : String) : Option Nat :=
  let digits := match s.toList with
    | '+' :: digits => digits
    | digits => digits
  (Text.natural? digits).filter (· < Text.wordCount)

def options? (arguments : Arguments) : Option Options := do
  let standard : Options := {}
  let options := ((arguments.valuesOf .functionName).head?.map standard.withFunctionName).getD standard
  let indent ← match arguments.valuesOf .indent with
    | [] => some 4
    | text :: _ => count? text
  return { options with
    indent := .ofList (List.replicate indent ' ')
    header := !arguments.has .noHeader
    mainBlock := !arguments.has .noMain }

def Command.request? (command : Command) (arguments : List String) : Option Request := do
  let arguments ← Arguments.read? command arguments
  let source : Source := ⟨← arguments.path?, arguments.valuesOf .kindAlias⟩
  match command with
  | .compile => return .compile source (arguments.valuesOf .output).head? (← options? arguments)
  | .eval => return .eval source (arguments.valuesOf .literal)

-- In front of the command only `verbose` may stand, once.
def Request.ofArguments? : List String → Option Request
  | "compile" :: rest | "-v" :: "compile" :: rest | "--verbose" :: "compile" :: rest =>
    Command.request? .compile rest
  | "eval" :: rest | "-v" :: "eval" :: rest | "--verbose" :: "eval" :: rest => Command.request? .eval rest
  | _ => none

end Dataflow.CommandLine
