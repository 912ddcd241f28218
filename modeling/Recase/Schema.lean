import Std.Data.ExtHashMap

namespace Recase

/-!
# Tables and schemas

A schema holds the tables that a dump declares, in the order in which their
names first appeared.  A table that is declared again takes the place of its
earlier declaration.  To find a table by its name without walking over the
others, the position of every name is kept beside the tables.  The two are
only changed together, by `insert`.
-/

/-- A table, as one declaration gives it.  Its name and its schema are
without quotes, its columns are in the order of the declaration and keep the
quotes they are written with, and its constraints are whole lines.  Index
definitions are not read, and their list stays empty. -/
structure Table where
  name : String
  schema : Option String
  columns : Array String := #[]
  constraints : Array String := #[]
  indices : Array String := #[]
  deriving DecidableEq, Inhabited

/-- Tables in the order of the first appearance of their names, each with its
position under its name. -/
structure Schema where
  tables : Array Table := #[]
  positions : Std.ExtHashMap String Nat := ∅
  deriving DecidableEq

namespace Schema

def empty : Schema := {}

/-- The position that is kept for a name. -/
def position? (schema : Schema) (name : String) : Option Nat :=
  schema.positions[name]?

/-- Add a table at the end. -/
def push (schema : Schema) (table : Table) : Schema where
  tables := schema.tables.push table
  positions := schema.positions.insert table.name schema.tables.size

/-- Add a table at the end, or put it in the place of the table that has its
name. -/
def insert (schema : Schema) (table : Table) : Schema :=
  match schema.position? table.name with
  | some position => { schema with tables := schema.tables.setIfInBounds position table }
  | none => schema.push table

/-- The schema that holds the tables of a list, inserted one after another. -/
def ofList (tables : List Table) : Schema :=
  tables.foldl insert empty

/-- The tables in their order. -/
def toList (schema : Schema) : List Table :=
  schema.tables.toList

def get? (schema : Schema) (name : String) : Option Table :=
  match schema.position? name with
  | some position => schema.tables[position]?
  | none => none

def contains (schema : Schema) (name : String) : Bool :=
  schema.positions.contains name

def size (schema : Schema) : Nat :=
  schema.tables.size

def isEmpty (schema : Schema) : Bool :=
  schema.tables.isEmpty

def names (schema : Schema) : List String :=
  schema.toList.map (fun table => table.name)

end Schema
end Recase
