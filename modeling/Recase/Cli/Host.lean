namespace Recase
namespace Cli

/-!
# What a command needs from its surroundings

A command reads and writes files by name, prints, and asks for the time.
These are all of its effects, and it is written in terms of them alone.  It
can therefore run on the files of a machine as well as on a model of them.
-/

/-- Why a file cannot be read or written. -/
inductive FileFault where
  /-- The system refuses, with a number and a text of its own. -/
  | refused (code : Nat) (text : String)
  /-- The bytes of the file are not the encoding of a text. -/
  | notText
  /-- There is another reason. -/
  | other (text : String)
  deriving DecidableEq

namespace FileFault

def missing : FileFault := .refused 2 "No such file or directory"

/-- There is nothing behind the name that could be opened. -/
def unconnected : FileFault := .refused 6 "No such device or address"

def notDirectory : FileFault := .refused 20 "Not a directory"

def isDirectory : FileFault := .refused 21 "Is a directory"

def noSpace : FileFault := .refused 28 "No space left on device"

def nameTooLong : FileFault := .refused 36 "File name too long"

/-- The refusals that are known by their numbers. -/
def known : List FileFault :=
  [missing, unconnected, notDirectory, isDirectory, noSpace, nameTooLong]

def code? : FileFault -> Option Nat
  | .refused code _ => some code
  | _ => none

def message : FileFault -> String
  | .refused code text => text ++ " (os error " ++ toString code ++ ")"
  | .notText => "stream did not contain valid UTF-8"
  | .other text => text

end FileFault

/-- The steps in which a text is handed to the system: the text itself, the
line feed behind it, and what has been collected until the end. -/
inductive Stage where
  | text
  | lineFeed
  | rest
  deriving DecidableEq

/-- How many bytes are collected before they are handed to the system. -/
def blockSize : Nat := 8192

/-- The first step at which the system is asked to take anything of a text, by
the number of bytes together with the line feed.  The system is asked when the
block is to hold more than its size, and at the end. -/
def Stage.first (size : Nat) : Stage :=
  if size <= blockSize then .rest
  else if size = blockSize + 1 then .lineFeed
  else .text

/-- The system takes no more of a text. -/
structure Refusal where
  stage : Stage
  fault : FileFault
  deriving DecidableEq

/-- Why a text is not in its file.  Either the file could not even be opened,
or it did not take all of the text. -/
inductive WriteFault where
  | notOpened (fault : FileFault)
  | notFilled (refusal : Refusal)
  deriving DecidableEq

/-- The effects of a command. -/
class Host (m : Type -> Type) where
  /-- The text of a file. -/
  readText : String -> m (Except FileFault String)
  /-- Give a file a new content, and make it if it is not there. -/
  writeText : String -> String -> m (Except WriteFault Unit)
  /-- Print to the standard output. -/
  print : String -> m (Except Refusal Unit)
  /-- Print to the standard error output. -/
  printError : String -> m Unit
  /-- Print a line of the log. -/
  log : String -> m Unit
  /-- The present time. -/
  time : m String
  /-- What is to be said of arguments that are not carried out.  The wording is
  not that of the program. -/
  usage : List String -> m String

end Cli
end Recase
