import Recase.Cli.Host
import Recase.Text.Pieces

namespace Recase

/-!
# Files by name

A model of the files of a machine.  A file is known by the names on the way
to it from the root, and so is a directory.  Every beginning of such a way
leads to a directory.  Some ways lead to a device instead of a file with bytes
of its own, and some stand for another way.

A name is followed part by part.  An empty part and a single dot stay in
place, two dots go up, and each part before the last one must lead to a
directory.  A link is left for what it stands for as soon as it is reached, so
two dots behind it go up from there.
-/

/-- The names on the way from the root to a file or directory. -/
abbrev Way := List String

/-- What stands behind a name in place of a file.  There is nothing to be read
from any of them. -/
inductive Device where
  /-- Nothing is connected, and opening is refused. -/
  | unconnected
  /-- All that is written is dropped. -/
  | sink
  /-- Nothing can be written. -/
  | full
  /-- What is written is printed to the standard output. -/
  | output
  /-- What is written is printed to the standard error output. -/
  | errors
  deriving DecidableEq

/-- How much can be taken in all, and the refusal of what goes beyond it. -/
structure Limit where
  room : Nat
  refusal : Cli.Refusal

/-- Files with their bytes, the directory at which names begin that do not
begin at the root, devices, directories that may be empty, ways that stand for
others, directories in or below which only the system makes files, and files
that do not take any number of bytes. -/
structure Disk where
  files : List (Way × ByteArray)
  working : Way
  devices : List (Way × Device) := []
  directories : List Way := []
  links : List (Way × Way) := []
  reserved : List Way := []
  limits : List (Way × Limit) := []

namespace Disk

/-- Where the open files of the program itself are listed by number. -/
def opened : Way := ["proc", "self", "fd"]

/-- The devices of a machine under their usual names, for a program without a
terminal. -/
def usualDevices : List (Way × Device) :=
  [(["dev", "null"], .sink), (["dev", "zero"], .sink), (["dev", "random"], .sink),
   (["dev", "urandom"], .sink), (["dev", "full"], .full), (["dev", "tty"], .unconnected),
   (opened ++ ["0"], .sink), (opened ++ ["1"], .output), (opened ++ ["2"], .errors)]

/-- The links of a machine under their usual names, for a program that works in
a given directory. -/
def usualLinks (working : Way) : List (Way × Way) :=
  [(["dev", "fd"], opened), (["dev", "stdin"], opened ++ ["0"]),
   (["dev", "stdout"], opened ++ ["1"]), (["dev", "stderr"], opened ++ ["2"]),
   (["proc", "self", "cwd"], working), (["proc", "self", "root"], [])]

/-- The directories of a machine in which only the system makes files. -/
def usualReserved : List Way :=
  [["proc"]]

/-- A machine without files of its own, for a program that works in a given
directory. -/
def usual (working : Way) : Disk where
  files := []
  working := working
  devices := usualDevices
  links := usualLinks working
  reserved := usualReserved

/-- Whether one way begins with another one and goes on. -/
def leadsOn (way other : Way) : Bool :=
  way.isPrefixOf other && decide (way.length < other.length)

def isDirectory (disk : Disk) (way : Way) : Bool :=
  way.isPrefixOf disk.working ||
    disk.directories.any (fun other => way.isPrefixOf other) ||
    disk.files.any (fun (other, _) => leadsOn way other) ||
    disk.devices.any (fun (other, _) => leadsOn way other)

def device? (disk : Disk) (way : Way) : Option Device :=
  (disk.devices.find? fun (other, _) => other == way).map fun (_, device) => device

def bytes? (disk : Disk) (way : Way) : Option ByteArray :=
  (disk.files.find? fun (other, _) => other == way).map fun (_, bytes) => bytes

/-- The bytes that can be read at the end of a way. -/
def contents? (disk : Disk) (way : Way) : Option ByteArray :=
  match disk.device? way with
  | some _ => some ByteArray.empty
  | none => disk.bytes? way

/-- The greatest length of one part of a name in bytes. -/
def partLimit : Nat := 255

/-- The length in bytes that a name must not reach. -/
def nameLimit : Nat := 4096

/-- The way that a part of a name leads to from another one. -/
def step (way : Way) (part : String) : Way :=
  if part = "" || part = "." then way
  else if part = ".." then way.dropLast
  else way ++ [part]

/-- The way that a link stands for, and any other way itself. -/
def behind (disk : Disk) (way : Way) : Way :=
  match disk.links.find? fun (other, _) => other == way with
  | some (_, actual) => actual
  | none => way

/-- Whether a way leads into a directory in which only the system makes
files. -/
def isReserved (disk : Disk) (way : Way) : Bool :=
  disk.reserved.any fun other => other.isPrefixOf way

/-- Follow one part of a name.  The system compares a name with those of its
own files before it looks at its length. -/
def follow (disk : Disk) (way : Way) (part : String) : Except Cli.FileFault Way :=
  if !disk.isDirectory way then
    .error (if (disk.contents? way).isSome then .notDirectory else .missing)
  else if partLimit < part.utf8ByteSize then
    .error (if disk.isReserved way then .missing else .nameTooLong)
  else .ok (disk.behind (step way part))

def parts (name : String) : List String :=
  (Text.pieces '/' name.toList).map String.ofList

def start (disk : Disk) (name : String) : Way :=
  if name.startsWith "/" then [] else disk.working

def resolve (disk : Disk) (name : String) : Except Cli.FileFault Way :=
  if nameLimit <= name.utf8ByteSize then .error .nameTooLong
  else (parts name).foldlM disk.follow (disk.start name)

def readText (disk : Disk) (name : String) : Except Cli.FileFault String := do
  let way ← disk.resolve name
  if disk.device? way = some .unconnected then throw .unconnected
  match disk.contents? way with
  | some bytes =>
      match String.fromUTF8? bytes with
      | some text => return text
      | none => throw .notText
  | none => throw (if disk.isDirectory way then .isDirectory else .missing)

def put (disk : Disk) (way : Way) (bytes : ByteArray) : Disk :=
  if (disk.bytes? way).isSome then
    { disk with
      files := disk.files.map fun (other, old) =>
        (other, if other = way then bytes else old) }
  else { disk with files := disk.files ++ [(way, bytes)] }

/-- The limit that a number of bytes goes beyond at the end of a way. -/
def exceeded? (disk : Disk) (way : Way) (size : Nat) : Option Limit :=
  (disk.limits.find? fun (other, limit) => other == way && decide (limit.room < size)).map
    fun (_, limit) => limit

/-- Give the file at the end of a way a new text.  Whatever was in the file is
gone, also if it does not take all of the text. -/
def fill (disk : Disk) (way : Way) (text : String) : Except Cli.Refusal Unit × Disk :=
  match disk.exceeded? way text.utf8ByteSize with
  | none => (.ok (), disk.put way text.toUTF8)
  | some limit => (.error limit.refusal, disk.put way (text.toUTF8.extract 0 limit.room))

/-- The disk with a file at the end of the parts of a name, which begin at a
way.  Each part before the last one becomes a directory, also if the name goes
up from it again. -/
def install (disk : Disk) (bytes : ByteArray) (way : Way) : List String -> Disk
  | [] => disk.put way bytes
  | part :: rest =>
      install { disk with directories := disk.directories ++ [way] } bytes (step way part) rest

/-- The way to a file that is to be written.  A name that ends with a slash
can only be that of a directory, so its last part is not looked at, but the
parts before it must lead to a directory. -/
def target (disk : Disk) (name : String) : Except Cli.FileFault Way := do
  if nameLimit <= name.utf8ByteSize then throw .nameTooLong
  let (slashes, proper) := (parts name).reverse.span (· == "")
  if slashes.isEmpty then
    let way ← proper.reverse.foldlM disk.follow (disk.start name)
    if disk.isDirectory way then throw .isDirectory
    if disk.isReserved way && (disk.contents? way).isNone then throw .missing
    return way
  else
    let _ ← (proper.tail.reverse ++ [""]).foldlM disk.follow (disk.start name)
    throw .isDirectory

end Disk
end Recase
