import Recase.Conversion
import Recase.Json.Value

namespace Recase

/-!
# Reports on a conversion

What was found and planned is reported in three forms: the tables of a schema
as a JSON object with their names as keys, a summary of a conversion as JSON,
and a listing of the tables for the reader at the screen.  The first two keep
the order of the dump, and the listing is sorted by name.
-/

/-- A table as JSON, without its name.  A schema that the dump does not give
is left out. -/
def Table.toJson (table : Table) : Json :=
  .object <|
    (match table.schema with
      | some schema => [("schema", .string schema)]
      | none => []) ++
    [("columns", .strings table.columns.toList),
     ("constraints", .strings table.constraints.toList),
     ("indices", .strings table.indices.toList)]

def Schema.toJson (schema : Schema) : Json :=
  .object (schema.toList.map fun table => (table.name, table.toJson))

def TableRename.toJson (rename : TableRename) : Json :=
  .object
    [("schema", .string rename.schema), ("from", .string rename.source),
     ("to", .string rename.target)]

def ColumnRename.toJson (rename : ColumnRename) : Json :=
  .object
    [("schema", .string rename.schema), ("table", .string rename.table),
     ("from", .string rename.source), ("to", .string rename.target)]

def Plan.toJson (plan : Plan) : Json :=
  .object
    [("drops", .strings plan.drops),
     ("tableRenames", .array (plan.tableRenames.map TableRename.toJson)),
     ("columnRenames", .array (plan.columnRenames.map ColumnRename.toJson)),
     ("processedTables", .count plan.processed)]

/-- The summary of a conversion, with the time at which it is made and the
file that the dump came from. -/
def Conversion.summary (conversion : Conversion) (time source : String) : Json :=
  .object
    [("generatedAt", .string time),
     ("source", .string source),
     ("tablesFound", .count conversion.schema.size),
     ("processedTables", .count conversion.plan.processed),
     ("tableRenames", .count conversion.plan.tableRenames.length),
     ("columnRenames", .count conversion.plan.columnRenames.length),
     ("plan", conversion.plan.toJson)]

/-- The tables of a schema in the order of their names, by code points. -/
def Schema.sorted (schema : Schema) : List Table :=
  schema.toList.mergeSort fun left right => decide (left.name <= right.name)

def Table.listed (table : Table) : String :=
  "  - " ++ table.name ++ " (" ++ toString table.columns.size ++ " columns)"

/-- The listing of the tables, line by line. -/
def Schema.listing (schema : Schema) : List String :=
  ("Found " ++ toString schema.size ++ " tables:") :: schema.sorted.map Table.listed

end Recase
