import Recase.Cli.Run
import Std.Time

namespace Recase
namespace Cli

/-!
# The program

Here the effects of a command are carried out on the machine.  The lines of
the log get the time in front of them, which no other part of the program
depends on.
-/

/-- Why a file cannot be read or written, from the number and the text of the
system.  The number comes with either sign. -/
def refusal (code : UInt32) (text : String) : FileFault :=
  let number := if code.toNat < Nat.pow 2 31 then code.toNat else Nat.pow 2 32 - code.toNat
  match FileFault.known.find? fun fault => fault.code? == some number with
  | some fault => fault
  | none => .refused number text

/-- Why a file cannot be read or written, from what the system says. -/
def faultOf : IO.Error -> FileFault
  | .noFileOrDirectory _ code text => refusal code text
  | .inappropriateType _ code text => refusal code text
  | .permissionDenied _ code text => refusal code text
  | .invalidArgument _ code text => refusal code text
  | .resourceExhausted _ code text => refusal code text
  | .alreadyExists _ code text => refusal code text
  | .resourceBusy code text => refusal code text
  | .otherError code text => refusal code text
  | other => .other other.toString

def presentTime (format : String) : IO String := do
  let stamp ← Std.Time.Timestamp.now
  let wall := Std.Time.WallTime.ofTimestamp stamp .zero
  return (Std.Time.PlainDateTime.ofWallTime wall).format format

/-- Open a file to give it a new content. -/
def openFile (file : String) : IO (Except WriteFault IO.FS.Handle) := do
  try
    return .ok (← IO.FS.Handle.mk file .write)
  catch error => return .error (.notOpened (faultOf error))

def fill (stream : IO.FS.Stream) (text : String) : IO (Except Refusal Unit) := do
  try
    stream.putStr text
    stream.flush
    return .ok ()
  catch error => return .error ⟨.first text.utf8ByteSize, faultOf error⟩

instance : Host IO where
  readText file := do
    try
      match String.fromUTF8? (← IO.FS.readBinFile file) with
      | some text => return .ok text
      | none => return .error .notText
    catch error => return .error (faultOf error)
  writeText file text := do
    match ← openFile file with
    | .ok handle => return (← fill (IO.FS.Stream.ofHandle handle) text).mapError .notFilled
    | .error fault => return .error fault
  print text := do
    fill (← IO.getStdout) text
  printError text := IO.eprint text
  log line := do
    IO.eprintln ((← presentTime "uuuu-MM-dd'T'HH:mm:ss.SSSSSS'Z'") ++ " " ++ line)
  time := presentTime "uuuu-MM-dd'T'HH:mm:ss.SSSSSSSSS'+00:00'"
  usage _ := return "Usage: ddl-camelcase [OPTIONS] <COMMAND>\n"

end Cli
end Recase

def main (arguments : List String) : IO UInt32 :=
  Recase.Cli.run arguments
