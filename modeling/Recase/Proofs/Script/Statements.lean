import Recase.Script

namespace Recase

/-!
# The statements of a plan

The statements are the part of a script that acts on a database.  They are
the steps of the plan in the order in which they have to be carried out.
-/

/-- The steps of a plan: all drops, then the tables, then the columns.  The
dropped tables are looked for in the given schema. -/
def Plan.statements (plan : Plan) (schema : String) : List Statement :=
  plan.drops.map (Statement.dropTable schema) ++ plan.tableRenames.map Statement.renameTable ++
    plan.columnRenames.map Statement.renameColumn

private def Statement.dropped? : Statement -> Option String
  | .dropTable _ table => some table
  | _ => none

private def Statement.tableRename? : Statement -> Option TableRename
  | .renameTable rename => some rename
  | _ => none

private def Statement.columnRename? : Statement -> Option ColumnRename
  | .renameColumn rename => some rename
  | _ => none

/-- The steps say all that is in the plan, the number of tables apart. -/
theorem Plan.eq_of_statements_eq {first second : Plan} {schema : String}
    (statements : first.statements schema = second.statements schema)
    (processed : first.processed = second.processed) : first = second := by
  have nothing {Step Part : Type} (steps : List Step) :
      (steps.filterMap fun _ => (none : Option Part)) = [] := by
    rw [List.filterMap_eq_nil_iff]
    intro _ _
    rfl
  have drops (plan : Plan) : (plan.statements schema).filterMap Statement.dropped? = plan.drops := by
    simp only [Plan.statements, List.filterMap_append, List.filterMap_map, Function.comp_def,
      Statement.dropped?, List.filterMap_some, nothing, List.append_nil]
  have tables (plan : Plan) :
      (plan.statements schema).filterMap Statement.tableRename? = plan.tableRenames := by
    simp only [Plan.statements, List.filterMap_append, List.filterMap_map, Function.comp_def,
      Statement.tableRename?, List.filterMap_some, nothing, List.nil_append, List.append_nil]
  have columns (plan : Plan) :
      (plan.statements schema).filterMap Statement.columnRename? = plan.columnRenames := by
    simp only [Plan.statements, List.filterMap_append, List.filterMap_map, Function.comp_def,
      Statement.columnRename?, List.filterMap_some, nothing, List.nil_append]
  have sameDrops : first.drops = second.drops := by
    rw [← drops first, ← drops second, statements]
  have sameTables : first.tableRenames = second.tableRenames := by
    rw [← tables first, ← tables second, statements]
  have sameColumns : first.columnRenames = second.columnRenames := by
    rw [← columns first, ← columns second, statements]
  cases first
  cases second
  simp only at sameDrops sameTables sameColumns processed
  rw [sameDrops, sameTables, sameColumns, processed]

/-! ## The texts of statements -/

theorem sql_dropTable (schema table : String) :
    (Statement.dropTable schema table).sql =
      "DROP TABLE IF EXISTS " ++ schema ++ ".\"" ++ table ++ "\" CASCADE;" := by
  rfl

theorem sql_renameTable (rename : TableRename) :
    (Statement.renameTable rename).sql =
      "ALTER TABLE IF EXISTS " ++ qualified rename.schema rename.source ++
        " RENAME TO " ++ Identifier.written rename.target ++ ";" := by
  rfl

theorem sql_renameColumn (rename : ColumnRename) :
    (Statement.renameColumn rename).sql =
      "ALTER TABLE IF EXISTS " ++ qualified rename.schema rename.table ++
        " RENAME COLUMN " ++ Identifier.written rename.source ++
        " TO " ++ Identifier.written rename.target ++ ";" := by
  rfl

end Recase
