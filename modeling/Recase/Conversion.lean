import Recase.Dump.Scan
import Recase.Script

namespace Recase

/-!
# From a dump to its script

A conversion reads a dump, plans the migration and writes the script.  It is
refused when the options have a name that cannot be written bare, and in no
other case.
-/

/-- What a conversion produces, together with what there is to tell about the
reading of the dump. -/
structure Conversion where
  schema : Schema
  plan : Plan
  script : String
  notices : List Dump.Notice

/-- The script for the tables of a schema.  The options are used as they are. -/
def generate (schema : Schema) (options : Options) : String :=
  Script.render (Plan.ofSchema schema options) options

/-- Convert a dump, unless the options are refused. -/
def convert (dump : String) (options : Options) : Except BadName Conversion :=
  match options.check with
  | .error badName => .error badName
  | .ok () =>
      let scan := Dump.scan dump
      let plan := Plan.ofSchema scan.schema options
      .ok
        { schema := scan.schema
          plan := plan
          script := Script.render plan options
          notices := scan.notices.toList }

end Recase
