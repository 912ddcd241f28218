import Recase.Cli.Failure
import Recase.Cli.Invocation
import Recase.Cli.Log
import Recase.Report

namespace Recase
namespace Cli

/-!
# Running a command

The command `convert` reads the options first and the dump after them, and
nothing is written before the conversion has succeeded.  The script then goes
to its file or to the standard output, and a summary follows if one is asked
for.  What is told to the user goes to the standard error output, so that it
does not mix with the script.

A command ends with a number: zero if it succeeds, one if it fails, and two
if the arguments do not fit.
-/

section

variable {m : Type -> Type} [Monad m] [Host m]

/-- An action that can fail. -/
abbrev Attempt (m : Type -> Type) := ExceptT Failure m

/-- Print a line to the standard error output. -/
def tell (line : String) : Attempt m Unit :=
  ExceptT.lift (Host.printError (line ++ "\n"))

def logEntries (verbose : Bool) (entries : List Entry) : Attempt m Unit :=
  (entries.filter fun entry => entry.shown verbose).forM fun entry =>
    ExceptT.lift (Host.log entry.line)

/-- The text of a file, or a failure that depends on what the file is for. -/
def readFile (file : String) (failure : FileFault -> Failure) : Attempt m String :=
  ExceptT.mk do
    match ← Host.readText file with
    | .ok text => return .ok text
    | .error fault => return .error (failure fault)

/-- Put a text into a file, or print it to the standard output if no file is
given.  Either ends with a line feed. -/
def deliver (product : Product) (output : Option String) (text : String) : Attempt m Unit :=
  match output with
  | none =>
      ExceptT.mk do
        return (← Host.print (text ++ "\n")).mapError (.outputNotFilled product)
  | some file =>
      ExceptT.mk do
        return (← Host.writeText file (text ++ "\n")).mapError (.ofWriteFault product file)

/-- The options of a file, or the usual ones if no file is given. -/
def loadOptions (config : Option String) : Attempt m Options :=
  match config with
  | none => pure {}
  | some file => do
      let text ← readFile file (.configUnreadable file)
      match Options.ofJson text with
      | .ok options => return options
      | .error diagnosis => throw (.configInvalid file diagnosis)

/-- What is given on the command line takes precedence.  Excluded tables that
are given there replace all the others. -/
def ConvertRequest.adjust (request : ConvertRequest) (options : Options) : Options :=
  { options with
    schema := request.schema.getD options.schema
    excluded := if request.exclude.isEmpty then options.excluded else request.exclude }

/-- What remains to be done by hand. -/
def followUp : List String :=
  ["\nRequired follow-up after running the script:",
   "1. Recreate all constraints (PK, FK, UNIQUE, CHECK)",
   "2. Recreate all indices with the new names",
   "3. Recreate every function that references tables/columns",
   "4. Update the application to use the new names",
   "5. Test relationship integrity"]

def summarize (request : ConvertRequest) (conversion : Conversion) : Attempt m Unit :=
  match request.summary with
  | none => pure ()
  | some file => do
      let time ← ExceptT.lift (Host.time (m := m))
      deliver .json (some file) ((conversion.summary time request.input).render .pretty)

def runConvert (verbose : Bool) (request : ConvertRequest) : Attempt m Unit := do
  let options ← loadOptions request.config
  let dump ← readFile request.input (.inputUnreadable request.input)
  tell "Analyzing schema..."
  match convert dump (request.adjust options) with
  | .error badName => throw (.refused badName)
  | .ok conversion =>
      logEntries verbose (conversionEntries conversion)
      conversion.schema.listing.forM tell
      deliver .script request.output conversion.script
      match request.output with
      | some file => tell ("\nConversion script written: " ++ file)
      | none => pure ()
      summarize request conversion
      followUp.forM tell

/-- Print the tables of a dump as JSON. -/
def runAnalyze (verbose : Bool) (request : AnalyzeRequest) : Attempt m Unit := do
  let dump ← readFile request.input (.inputUnreadable request.input)
  let scan := Dump.scan dump
  logEntries verbose (scan.notices.toList.map noticeEntry)
  deliver .json request.output (scan.schema.toJson.render request.layout)

def Invocation.attempt (invocation : Invocation) : Attempt m Unit :=
  match invocation.command with
  | .convert request => runConvert invocation.verbose request
  | .analyze request => runAnalyze invocation.verbose request

def versionText : String := "ddl-camelcase 0.1.0\n"

/-- Run the program with its arguments.  The result is the number that it
ends with. -/
def run (arguments : List String) : m UInt32 := do
  match invocation arguments with
  | .error .version =>
      let _ ← Host.print versionText
      return 0
  | .error .help =>
      let _ ← Host.print (← Host.usage arguments)
      return 0
  | .error .misuse =>
      Host.printError (← Host.usage arguments)
      return 2
  | .ok request =>
      match ← request.attempt.run with
      | .ok () => return 0
      | .error failure =>
          Host.printError failure.report
          return 1

end

end Cli
end Recase
