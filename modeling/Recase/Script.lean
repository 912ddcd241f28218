import Recase.Identifier
import Recase.Plan

namespace Recase

/-!
# The script of a migration

The script carries out a plan.  It has numbered parts with a banner each: the
statements of the plan in three of them, then advice on what remains to be
done by hand, and at the end a block that reports the number of tables when
the script is run.  All advice is in comments, and every line of the script
is one line of text unless a name or a note contains a line feed itself.
-/

/-- A statement that carries out one step of a plan. -/
inductive Statement where
  | dropTable (schema table : String)
  | renameTable (rename : TableRename)
  | renameColumn (rename : ColumnRename)
  deriving DecidableEq

/-- A name after that of its schema, both as a statement has to write them. -/
def qualified (schema name : String) : String :=
  Identifier.written schema ++ "." ++ Identifier.written name

/-- The text of a statement.  In a drop the names are not examined: the schema
stands as it is, and the table between quotes, which keep its capitals.  This
is right for the names that `Options.check` admits. -/
def Statement.sql : Statement -> String
  | .dropTable schema table =>
      "DROP TABLE IF EXISTS " ++ schema ++ ".\"" ++ table ++ "\" CASCADE;"
  | .renameTable rename =>
      "ALTER TABLE IF EXISTS " ++ qualified rename.schema rename.source ++
        " RENAME TO " ++ Identifier.written rename.target ++ ";"
  | .renameColumn rename =>
      "ALTER TABLE IF EXISTS " ++ qualified rename.schema rename.table ++
        " RENAME COLUMN " ++ Identifier.written rename.source ++
        " TO " ++ Identifier.written rename.target ++ ";"

namespace Script

inductive Line where
  | blank
  | comment (words : String)
  | statement (step : Statement)
  | code (words : String)
  deriving DecidableEq

def Line.text : Line -> String
  | .blank => ""
  | .comment words => "-- " ++ words
  | .statement step => step.sql
  | .code words => words

structure Part where
  title : String
  lines : List Line

/-- The line above and below the title of a part. -/
def banner : Line :=
  .comment "============================================"

/-- The lines of a part with its number. -/
def Part.numbered (number : Nat) (part : Part) : List Line :=
  .blank :: banner :: .comment (toString number ++ ". " ++ part.title) :: banner :: part.lines

/-- The lines of parts that are numbered from the given number on. -/
def numberedParts (number : Nat) : List Part -> List Line
  | [] => []
  | part :: others => part.numbered number ++ numberedParts (number + 1) others

/-- The comments at the beginning. -/
def opening (plan : Plan) : List Line :=
  [.comment "Generated by ddl-camelcase: snake_case to camelCase conversion",
   .comment
     (if plan.drops.isEmpty then "No tables excluded"
      else "Excluded (dropped) tables: " ++ String.intercalate ", " plan.drops)]

/-- The relationships to verify, counted from the given number on. -/
def relationshipLines (number : Nat) : List Relationship -> List Line
  | [] => []
  | relationship :: others =>
      .comment
        (toString number ++ ". " ++ relationship.referencing ++ " -> " ++
          relationship.referenced ++ " (" ++ relationship.column ++ ")") ::
        relationshipLines (number + 1) others

def relationshipAdvice (options : Options) : List Line :=
  if options.relationships.isEmpty then [.comment "No relationships configured"]
  else .comment "Relationships to verify:" :: relationshipLines 1 options.relationships

/-- The advice on permissions: the notes of the options, or what follows from
the tables that are dropped. -/
def permissionAdvice (plan : Plan) (options : Options) : List Line :=
  if options.permissionNotes.isEmpty then
    if plan.drops.isEmpty then
      [.comment "No tables removed; existing permissions are unchanged"]
    else
      [.comment
         ("With " ++ String.intercalate ", " plan.drops ++
           " removed, access granted through them"),
       .comment "must be reassigned to the owners of the remaining tables"]
  else options.permissionNotes.map .comment

/-- The numbered parts in their order. -/
def parts (plan : Plan) (options : Options) : List Part :=
  [⟨"DROP EXCLUDED TABLES",
    plan.drops.map fun table => .statement (.dropTable options.schema table)⟩,
   ⟨"RENAME snake_case TABLES TO camelCase",
    plan.tableRenames.map fun rename => .statement (.renameTable rename)⟩,
   ⟨"RENAME snake_case COLUMNS TO camelCase",
    plan.columnRenames.map fun rename => .statement (.renameColumn rename)⟩,
   ⟨"RECREATE CONSTRAINTS WITH NEW NAMES",
    [.comment "NOTE: constraints must be recreated manually",
     .comment "after checking the new table and column names"]⟩,
   ⟨"RECREATE INDICES",
    [.comment "NOTE: indices keep their old names and definitions;",
     .comment "recreate them against the new column names"]⟩,
   ⟨"UPDATE FUNCTIONS AND PROCEDURES",
    [.comment "NOTE: every function referencing renamed tables/columns",
     .comment "must be recreated with the new names"]⟩,
   ⟨"VERIFY RELATIONSHIPS", relationshipAdvice options⟩,
   ⟨"REVIEW PERMISSIONS", permissionAdvice plan options⟩]

/-- The block at the end, which reports on the migration when it is run. -/
def closing (plan : Plan) : List Line :=
  [.blank,
   .code "DO $$",
   .code "BEGIN",
   .code "    RAISE NOTICE 'camelCase conversion finished at %', NOW();",
   .code ("    RAISE NOTICE 'Tables processed: %', " ++ toString plan.processed ++ ";"),
   .code "END $$;"]

def lines (plan : Plan) (options : Options) : List Line :=
  opening plan ++ numberedParts 1 (parts plan options) ++ closing plan

/-- The script of a plan.  There is no line feed behind its last line. -/
def render (plan : Plan) (options : Options) : String :=
  String.intercalate "\n" ((lines plan options).map Line.text)

end Script
end Recase
