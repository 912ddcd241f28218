import Recase.Cli.Arguments

namespace Recase
namespace Cli

/-!
# What the command line asks for

The command line names one of two commands, `convert` and `analyze`, with the
options of the command and the file to read.  The request for more to be told
may stand before the command or behind it.
-/

structure ConvertRequest where
  input : String
  output : Option String
  config : Option String
  schema : Option String
  exclude : List String
  summary : Option String

structure AnalyzeRequest where
  input : String
  output : Option String
  layout : Json.Layout

/-- A command with all that it needs. -/
inductive Command where
  | convert (request : ConvertRequest)
  | analyze (request : AnalyzeRequest)

/-- The file that `convert` reads when none is named. -/
def usualInput : String := "migrations/004_schema_full.sql"

/-- The command with what has been given behind it.  Only `convert` can do
without a file. -/
def Given.command (given : Given) : Level -> Except Stop Command
  | .top => .error .misuse
  | .convert =>
      .ok <| .convert
        { input := given.files.head?.getD usualInput
          output := given.value? .output
          config := given.value? .config
          schema := given.value? .schema
          exclude := given.values .exclude
          summary := given.value? .summary }
  | .analyze =>
      match given.files with
      | [] => .error .misuse
      | input :: _ =>
          .ok <| .analyze
            { input := input
              output := given.value? .output
              layout := ((given.value? .layout).bind layout?).getD .pretty }

/-- A command, and whether it is to tell more of what it does. -/
structure Invocation where
  verbose : Bool
  command : Command

def level? (word : String) : Option Level :=
  if word = "convert" then some .convert
  else if word = "analyze" then some .analyze
  else none

/-- Take the arguments behind the word `help`, which may name a command. -/
def helpOn (words : List String) : Stop :=
  match words with
  | [] => .help
  | [word] => if (level? word).isSome || word = "help" then .help else .misuse
  | _ => .misuse

/-- Take the arguments from the first one on, with the options that have been
given before the command. -/
def invocationFrom (given : Given) : List String -> Except Stop Invocation
  | [] => .error .misuse
  | argument :: others =>
      match shape argument with
      | .endOfFlags => .error .misuse
      | .long form =>
          match given.addLong .top form with
          | .ok next => invocationFrom next others
          | .error stop => .error stop
      | .short letters =>
          match given.addShort .top letters with
          | .ok next => invocationFrom next others
          | .error stop => .error stop
      | .plain =>
          match level? argument with
          | some level => do
              let own ← Given.addAll {} level others
              let command ← own.command level
              return { verbose := given.has .verbose || own.has .verbose, command := command }
          | none => .error (if argument = "help" then helpOn others else .misuse)

/-- The command that the arguments ask for. -/
def invocation (arguments : List String) : Except Stop Invocation :=
  invocationFrom {} arguments

end Cli
end Recase
