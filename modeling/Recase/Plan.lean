import Recase.CamelCase
import Recase.Identifier
import Recase.Options
import Recase.Schema

namespace Recase

/-!
# The plan of a migration

The plan says what is dropped and what is renamed, in the order in which it
is to be done: first all drops, then the tables, then the columns.  The
columns come last and therefore name their table as it is called by then.

A table or a column is renamed if its name has an underscore.  Columns that
are declared between double quotes are left alone, since their spelling was
chosen on purpose.  Excluded tables are dropped whether or not the dump
declares them, and nothing in them is renamed.
-/

structure TableRename where
  schema : String
  source : String
  target : String
  deriving DecidableEq

/-- A column that gets another name.  The table is named as it is called
after the tables have been renamed. -/
structure ColumnRename where
  schema : String
  table : String
  source : String
  target : String
  deriving DecidableEq

/-- All that a migration does, in its order. -/
structure Plan where
  drops : List String := []
  tableRenames : List TableRename := []
  columnRenames : List ColumnRename := []
  /-- How many tables of the dump are not dropped. -/
  processed : Nat := 0
  deriving DecidableEq

def Options.schemaOf (options : Options) (table : Table) : String :=
  table.schema.getD options.schema

/-- The tables that are not dropped, in their order. -/
def Options.kept (options : Options) (tables : List Table) : List Table :=
  tables.filter (fun table => !options.excludes table.name)

/-- How a table is renamed, if its name has an underscore. -/
def Table.rename? (options : Options) (table : Table) : Option TableRename :=
  if isSnake table.name then
    some
      { schema := options.schemaOf table
        source := table.name
        target := camelCase table.name }
  else none

def renamesColumn (column : String) : Bool :=
  isSnake column && !Identifier.isQuoted column

/-- How the columns of a table are renamed, in the order of their
declaration. -/
def Table.columnRenames (options : Options) (table : Table) : List ColumnRename :=
  (table.columns.toList.filter renamesColumn).map fun column =>
    { schema := options.schemaOf table
      table := tableName table.name
      source := column
      target := camelCase column }

def Plan.ofSchema (schema : Schema) (options : Options) : Plan :=
  let kept := options.kept schema.toList
  { drops := options.excluded
    tableRenames := kept.filterMap (Table.rename? options)
    columnRenames := kept.flatMap (Table.columnRenames options)
    processed := kept.length }

end Recase
