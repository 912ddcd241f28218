import Recase.Cli.Run
import Recase.Disk

namespace Recase
namespace Cli

/-!
# Running on a model

The surroundings of a command as a value: the files, what has been printed,
and a clock that stands still.  Running a command turns one such value into
another, which makes what a command does a matter of computation.
-/

/-- The surroundings of a command.  What has been printed is given as text, so
that bytes without the rest of their character are left out. -/
structure World where
  disk : Disk
  clock : String
  output : String := ""
  errors : String := ""
  outputLimit : Option Limit := none
  usage : List String -> String := fun _ => ""

namespace World

def displayed (world : World) (text : String) : World :=
  { world with output := world.output ++ text }

def printError (world : World) (text : String) : World :=
  { world with errors := world.errors ++ text }

/-- The time in the log, which is given to the microsecond and with the letter
for Greenwich. -/
def stamp (world : World) : String :=
  String.ofList (world.clock.toList.take 26) ++ "Z"

/-- How many characters fit into a number of bytes. -/
def fitting : Nat -> List Char -> Nat
  | _, [] => 0
  | room, char :: others =>
      if char.utf8Size <= room then fitting (room - char.utf8Size) others + 1 else 0

def print (world : World) (text : String) : Except Refusal Unit × World :=
  match world.outputLimit with
  | none => (.ok (), world.displayed text)
  | some limit =>
      let taken := fitting (limit.room - world.output.utf8ByteSize) text.toList
      if text.length <= taken then (.ok (), world.displayed text)
      else (.error limit.refusal, world.displayed (String.ofList (text.toList.take taken)))

/-- Write a text to what stands at the end of a way. -/
def put (world : World) (way : Way) (text : String) : Except WriteFault Unit × World :=
  match world.disk.device? way with
  | none =>
      let (result, disk) := world.disk.fill way text
      (result.mapError .notFilled, { world with disk := disk })
  | some .unconnected => (.error (.notOpened .unconnected), world)
  | some .sink => (.ok (), world)
  | some .full => (.error (.notFilled ⟨.first text.utf8ByteSize, .noSpace⟩), world)
  | some .output =>
      let (result, after) := world.print text
      (result.mapError .notFilled, after)
  | some .errors => (.ok (), world.printError text)

def writeText (world : World) (name text : String) : Except WriteFault Unit × World :=
  match world.disk.target name with
  | .ok way => world.put way text
  | .error fault => (.error (.notOpened fault), world)

end World

instance : Host (StateM World) where
  readText file := do
    return (← get).disk.readText file
  writeText file text := modifyGet fun world => world.writeText file text
  print text := modifyGet fun world => world.print text
  printError text := modify fun world => world.printError text
  log line := modify fun world => world.printError (world.stamp ++ " " ++ line ++ "\n")
  time := do
    return (← get).clock
  usage arguments := do
    return (← get).usage arguments

/-- Run the program in given surroundings.  The result is the number that it
ends with, and the surroundings afterwards. -/
def World.run (world : World) (arguments : List String) : UInt32 × World :=
  (Cli.run (m := StateM World) arguments).run world

end Cli
end Recase
