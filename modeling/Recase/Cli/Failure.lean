import Recase.Cli.Host
import Recase.Options.Reading

namespace Recase
namespace Cli

/-!
# Failures of a command

A command that fails says what it could not do, and why.  The reasons are
listed from the nearest to the most remote one, with numbers if there are
several.
-/

inductive Product where
  | script
  | json
  deriving DecidableEq

/-- What could not be done when the system does not take a text.  The line feed
behind a script is written together with it, and the one behind a JSON text by
itself. -/
def Product.unfinished : Product -> Stage -> String
  | .script, .rest => "Failed to flush script"
  | .script, _ => "Failed to write script"
  | .json, .text => "Failed to write JSON"
  | .json, .lineFeed => "Failed to write trailing newline"
  | .json, .rest => "Failed to flush JSON output"

inductive Failure where
  | inputUnreadable (file : String) (fault : FileFault)
  | configUnreadable (file : String) (fault : FileFault)
  | configInvalid (file : String) (diagnosis : Json.Diagnosis)
  | refused (badName : BadName)
  | outputNotOpened (file : String) (fault : FileFault)
  | outputNotFilled (product : Product) (refusal : Refusal)

namespace Failure

def ofWriteFault (product : Product) (file : String) : WriteFault -> Failure
  | .notOpened fault => .outputNotOpened file fault
  | .notFilled refusal => .outputNotFilled product refusal

def message : Failure -> String
  | .inputUnreadable file _ => "Failed to read input file: " ++ file
  | .configUnreadable file _ => "Failed to read config file: " ++ file
  | .configInvalid file _ => "Failed to parse config from: " ++ file
  | .refused _ => "Conversion failed"
  | .outputNotOpened file _ => "Failed to create output file: " ++ file
  | .outputNotFilled product refusal => product.unfinished refusal.stage

def reasons : Failure -> List String
  | .inputUnreadable _ fault => [fault.message]
  | .configUnreadable _ fault => [fault.message]
  | .configInvalid _ diagnosis => [Options.unreadable diagnosis, diagnosis.message]
  | .refused badName => [badName.message]
  | .outputNotOpened _ fault => [fault.message]
  | .outputNotFilled _ refusal => [refusal.fault.message]

/-- The lines of several reasons, numbered from the given number on. -/
def numbered (number : Nat) : List String -> String
  | [] => ""
  | reason :: others =>
      "    " ++ toString number ++ ": " ++ reason ++ "\n" ++ numbered (number + 1) others

def report (failure : Failure) : String :=
  "Error: " ++ failure.message ++ "\n" ++
    match failure.reasons with
    | [] => ""
    | [reason] => "\nCaused by:\n    " ++ reason ++ "\n"
    | several => "\nCaused by:\n" ++ numbered 0 several

end Failure

end Cli
end Recase
