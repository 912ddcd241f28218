import Recase.Json.Value

namespace Recase
namespace Cli

/-!
# Options of the command line

An option has a long form and may have a short one.  Which options may be
given depends on where they stand: before the command there are only a few,
and each command has its own.
-/

inductive Flag where
  | verbose
  | help
  | version
  | output
  | config
  | schema
  | exclude
  | summary
  | layout
  deriving DecidableEq

/-- Where an argument stands: before the command, or behind one of the two. -/
inductive Level where
  | top
  | convert
  | analyze
  deriving DecidableEq

/-- The options that may be given at a level. -/
def Level.flags : Level -> List Flag
  | .top => [.verbose, .help, .version]
  | .convert => [.verbose, .help, .output, .config, .schema, .exclude, .summary]
  | .analyze => [.verbose, .help, .output, .layout]

def Flag.long : Flag -> String
  | .verbose => "verbose"
  | .help => "help"
  | .version => "version"
  | .output => "output"
  | .config => "config"
  | .schema => "schema"
  | .exclude => "exclude"
  | .summary => "summary"
  | .layout => "format"

def Flag.short? : Flag -> Option Char
  | .verbose => some 'v'
  | .help => some 'h'
  | .version => some 'V'
  | .output => some 'o'
  | _ => none

def Flag.takesValue : Flag -> Bool
  | .verbose | .help | .version => false
  | _ => true

def Flag.repeats : Flag -> Bool
  | .exclude => true
  | _ => false

/-- The layout that a word stands for. -/
def layout? (word : String) : Option Json.Layout :=
  if word = "pretty" then some .pretty
  else if word = "compact" then some .compact
  else none

/-- Whether an option may have a value.  A file must have a name. -/
def Flag.admits (flag : Flag) (value : String) : Bool :=
  match flag with
  | .output | .config | .summary => !value.isEmpty
  | .layout => (layout? value).isSome
  | _ => true

end Cli
end Recase
