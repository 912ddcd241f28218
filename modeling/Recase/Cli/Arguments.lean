import Recase.Cli.Flag

namespace Recase
namespace Cli

/-!
# Taking arguments

The value of an option stands in the next argument, or behind an equals sign
in the same one, or directly behind a short form; short forms without a value
can be written together.  An argument of two hyphens ends the options, and
everything behind it is a file.

Arguments are taken from left to right, and the first one that does not fit
decides.  So does a request for the version or for help, whatever follows it.
-/

/-- Why the arguments are not taken to their end. -/
inductive Stop where
  /-- They do not fit. -/
  | misuse
  | version
  | help
  deriving DecidableEq

/-- What has been given at a level: options with their values, which are empty
for options without one, and files.  An option that still needs its value is
waiting for it. -/
structure Given where
  flags : List (Flag × String) := []
  files : List String := []
  waiting : Option Flag := none

namespace Given

def has (given : Given) (flag : Flag) : Bool :=
  given.flags.any fun (other, _) => other == flag

def values (given : Given) (flag : Flag) : List String :=
  (given.flags.filter fun (other, _) => other == flag).map fun (_, value) => value

/-- The value of an option that is given once at most. -/
def value? (given : Given) (flag : Flag) : Option String :=
  (given.values flag).head?

def add (given : Given) (flag : Flag) (value : String) : Except Stop Given :=
  if flag = .help then .error .help
  else if flag = .version then .error .version
  else if given.has flag && !flag.repeats then .error .misuse
  else if flag.admits value then
    .ok { given with flags := given.flags ++ [(flag, value)], waiting := none }
  else .error .misuse

/-- Add a file.  There is one at most, and it must have a name. -/
def addFile (given : Given) (file : String) : Except Stop Given :=
  if given.files.isEmpty && !file.isEmpty then .ok { given with files := [file] }
  else .error .misuse

/-- Take a long form, without its hyphens. -/
def addLong (given : Given) (level : Level) (form : List Char) : Except Stop Given :=
  let name := String.ofList (form.takeWhile (· != '='))
  let attached := form.dropWhile (· != '=')
  match level.flags.find? (fun flag => flag.long == name) with
  | none => .error .misuse
  | some flag =>
      match attached with
      | [] => if flag.takesValue then .ok { given with waiting := some flag } else given.add flag ""
      | _ :: value =>
          if flag.takesValue then given.add flag (String.ofList value) else .error .misuse

/-- Take short forms that are written together, without their hyphen. -/
def addShort (given : Given) (level : Level) : List Char -> Except Stop Given
  | [] => .ok given
  | letter :: rest =>
      match level.flags.find? (fun flag => flag.short? == some letter) with
      | none => .error .misuse
      | some flag =>
          if flag.takesValue then
            match rest with
            | [] => .ok { given with waiting := some flag }
            | '=' :: value => given.add flag (String.ofList value)
            | value => given.add flag (String.ofList value)
          else
            match given.add flag "" with
            | .ok next => next.addShort level rest
            | .error stop => .error stop

/-- Take the arguments behind the two hyphens that end the options. -/
def addFiles (given : Given) (files : List String) : Except Stop Given :=
  files.foldlM addFile given

end Given

inductive Shape where
  | endOfFlags
  | long (form : List Char)
  | short (letters : List Char)
  | plain

/-- How an argument is to be understood.  A single hyphen is a plain word. -/
def shape (argument : String) : Shape :=
  match argument.toList with
  | ['-', '-'] => .endOfFlags
  | '-' :: '-' :: form => .long form
  | ['-'] => .plain
  | '-' :: letters => .short letters
  | _ => .plain

/-- Take the arguments behind a command. -/
def Given.addAll (given : Given) (level : Level) : List String -> Except Stop Given
  | [] => if given.waiting.isSome then .error .misuse else .ok given
  | argument :: others =>
      match given.waiting, shape argument with
      | some flag, .plain =>
          match given.add flag argument with
          | .ok next => next.addAll level others
          | .error stop => .error stop
      | some _, _ => .error .misuse
      | none, .endOfFlags => given.addFiles others
      | none, .long form =>
          match given.addLong level form with
          | .ok next => next.addAll level others
          | .error stop => .error stop
      | none, .short letters =>
          match given.addShort level letters with
          | .ok next => next.addAll level others
          | .error stop => .error stop
      | none, .plain =>
          match given.addFile argument with
          | .ok next => next.addAll level others
          | .error stop => .error stop

end Cli
end Recase
