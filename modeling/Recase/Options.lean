import Recase.Identifier
import Recase.Json.Value

namespace Recase

/-!
# Options of a migration

The options say which tables are dropped instead of renamed, and in which
schema a table lies whose declaration names none.  The relationships and the
permission notes only appear as advice in the comments of the script.

The schema and the names of the excluded tables end up in statements without
being quoted anew, so `check` refuses those that cannot be written bare.
-/

/-- A column of one table that refers to another table.  All three names are
those after the migration. -/
structure Relationship where
  referencing : String
  referenced : String
  column : String
  deriving DecidableEq

/-- The options of a migration, with the values they have when nothing else
is said. -/
structure Options where
  /-- The schema of dropped tables, and of tables declared without one. -/
  schema : String := "public"
  /-- The tables that are dropped, and left out of every renaming. -/
  excluded : List String := ["eventManagers"]
  /-- What to check by hand after the migration. -/
  relationships : List Relationship :=
    [⟨"eventSpaces", "hotels", "hotelId"⟩,
     ⟨"eventBookings", "eventSpaces", "eventSpaceId"⟩,
     ⟨"eventBookings", "hotels", "hotelId"⟩,
     ⟨"hotelBookings", "hotels", "hotelId"⟩,
     ⟨"hotelBookings", "roomTypes", "roomTypeId"⟩]
  /-- Remarks on permissions, in place of those derived from the exclusions. -/
  permissionNotes : List String := []
  deriving DecidableEq

/-- A name in the options that cannot be written bare. -/
inductive BadName where
  | schema (name : String)
  | excludedTable (name : String)
  deriving DecidableEq

def BadName.name : BadName -> String
  | .schema name => name
  | .excludedTable name => name

def BadName.message : BadName -> String
  | .schema name => "Invalid schema identifier: " ++ Text.literal name
  | .excludedTable name => "Invalid excluded table identifier: " ++ Text.literal name

namespace Options

/-- Refuse names that cannot be written bare.  The schema is looked at first,
then the excluded tables in their order. -/
def check (options : Options) : Except BadName Unit :=
  if Identifier.isPlain options.schema then
    match options.excluded.find? (fun name => !Identifier.isPlain name) with
    | some name => .error (.excludedTable name)
    | none => .ok ()
  else .error (.schema options.schema)

def excludes (options : Options) (name : String) : Bool :=
  options.excluded.contains name

end Options

def Relationship.toJson (relationship : Relationship) : Json :=
  .object
    [("from", .string relationship.referencing), ("to", .string relationship.referenced),
     ("column", .string relationship.column)]

/-- The options as JSON, in the form in which they are read back. -/
def Options.toJson (options : Options) : Json :=
  .object
    [("schema", .string options.schema),
     ("excluded-tables", .strings options.excluded),
     ("relationships", .array (options.relationships.map Relationship.toJson)),
     ("permission-notes", .strings options.permissionNotes)]

end Recase
