import Recase.Conversion

namespace Recase
namespace Cli

/-!
# The log

The log tells how a dump is read and converted.  An entry has a level, names
the part of the program that it comes from, and ends with the figures that
belong to it.  Warnings are always shown, and the other entries only when more
is asked for.
-/

inductive Importance where
  | warning
  | detail
  deriving DecidableEq

structure Entry where
  importance : Importance
  origin : String
  message : String
  figures : List (String × String)

/-- The line of an entry.  The names of the levels are aligned to the right. -/
def Entry.line (entry : Entry) : String :=
  let level := match entry.importance with
    | .warning => " WARN"
    | .detail => "DEBUG"
  level ++ " " ++ entry.origin ++ ": " ++ entry.message ++
    String.join (entry.figures.map fun (name, figure) => " " ++ name ++ "=" ++ figure)

def Entry.shown (entry : Entry) (verbose : Bool) : Bool :=
  verbose || entry.importance == .warning

def noticeEntry : Dump.Notice -> Entry
  | .registered table line columns constraints =>
      { importance := .detail
        origin := "ddl_camelcase_core::analyzer"
        message := "registered table"
        figures :=
          [("table", table), ("line", toString line), ("columns", toString columns),
           ("constraints", toString constraints)] }
  | .interrupted table line =>
      { importance := .warning
        origin := "ddl_camelcase_core::analyzer"
        message := "new CREATE TABLE before previous table was terminated"
        figures := [("table", table), ("line", toString line)] }
  | .unterminated table line =>
      { importance := .warning
        origin := "ddl_camelcase_core::analyzer"
        message := "table block not terminated before end of input"
        figures := [("table", table), ("line", toString line)] }

def conversionEntries (conversion : Conversion) : List Entry :=
  let plan := conversion.plan
  let drops := plan.drops.length
  let tables := plan.tableRenames.length
  let columns := plan.columnRenames.length
  conversion.notices.map noticeEntry ++
    [{ importance := .detail
       origin := "ddl_camelcase_core"
       message := "schema analyzed"
       figures := [("tables", toString conversion.schema.size)] },
     { importance := .detail
       origin := "ddl_camelcase_core::generator::plan"
       message := "rename plan built"
       figures :=
         [("drops", toString drops), ("table_renames", toString tables),
          ("column_renames", toString columns),
          ("processed_tables", toString plan.processed)] },
     { importance := .detail
       origin := "ddl_camelcase_core::generator"
       message := "script rendered"
       figures := [("statements", toString (drops + tables + columns))] }]

end Cli
end Recase
