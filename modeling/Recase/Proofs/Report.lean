import Recase.Proofs.Script.Conversion
import Recase.Report

namespace Recase

/-!
# The counts in a report

A report on a conversion counts tables and renamings.  Its numbers come from
the schema and from the plan, and not from the script.  They are nevertheless
the numbers of what stands in the script: statements that rename a table,
statements that rename a column, and the number that the block at the end
prints when the script is run.

Statements that escape from the advice belong to no plan.  A report does not
count them.
-/

/-! ## What a script says -/

def Statement.isTableRename : Statement -> Bool
  | .renameTable _ => true
  | _ => false

def Statement.isColumnRename : Statement -> Bool
  | .renameColumn _ => true
  | _ => false

/-- The number of tables that the last line with such a number prints. -/
def Script.printedCount? (script : String) : Option Nat :=
  (executable script.toList).reverse.findSome? processed?

theorem countP_isTableRename_statements (plan : Plan) (schema : String) :
    (plan.statements schema).countP Statement.isTableRename = plan.tableRenames.length := by
  simp [Plan.statements, List.countP_map, Function.comp_def, Statement.isTableRename]

theorem countP_isColumnRename_statements (plan : Plan) (schema : String) :
    (plan.statements schema).countP Statement.isColumnRename = plan.columnRenames.length := by
  simp [Plan.statements, List.countP_map, Function.comp_def, Statement.isColumnRename]

/-- Behind the number there is only the end of the block. -/
theorem Script.printedCount?_script {options : Options} (admitted : options.check = .ok ())
    (dump : String) :
    printedCount? (render (Plan.ofSchema (Dump.analyze dump) options) options) =
      some (Plan.ofSchema (Dump.analyze dump) options).processed := by
  have ended : processed? "END $$;".toList = none :=
    processed?_of_behind? (behind?_ofList (by decide))
  rw [printedCount?, executable_script admitted, List.reverse_append, closingLines]
  simp only [List.reverse_cons, List.reverse_nil, List.nil_append, List.cons_append,
    List.findSome?_cons, ended, processed?_count]

/-! ## What a report says -/

/-- The numbers of a report are those of a dump and of its script. -/
structure CountedBy (report : List (String × Json)) (dump : String) (options : Options)
    (script : String) : Prop where
  tablesFound : report.lookup "tablesFound" = some (.count (Dump.analyze dump).size)
  processedTables : Exists fun processed =>
    report.lookup "processedTables" = some (.count processed) ∧
      Script.printedCount? script = some processed
  tableRenames : Exists fun renames =>
    report.lookup "tableRenames" = some (.count renames) ∧
      (Script.statements script).countP Statement.isTableRename =
        renames + (Script.escapingStatements options).countP Statement.isTableRename
  columnRenames : Exists fun renames =>
    report.lookup "columnRenames" = some (.count renames) ∧
      (Script.statements script).countP Statement.isColumnRename =
        renames + (Script.escapingStatements options).countP Statement.isColumnRename

theorem check_of_convert {dump : String} {options : Options} {conversion : Conversion}
    (converted : convert dump options = .ok conversion) : options.check = .ok () := by
  unfold convert at converted
  cases checked : options.check with
  | error badName =>
      rw [checked] at converted
      cases converted
  | ok _ => rfl

theorem Conversion.exists_report (conversion : Conversion) (time source : String) :
    Exists fun report => conversion.summary time source = .object report ∧
      report.lookup "tablesFound" = some (.count conversion.schema.size) ∧
      report.lookup "processedTables" = some (.count conversion.plan.processed) ∧
      report.lookup "tableRenames" = some (.count conversion.plan.tableRenames.length) ∧
      report.lookup "columnRenames" = some (.count conversion.plan.columnRenames.length) := by
  refine ⟨_, rfl, ?_⟩
  simp [List.lookup_cons]

/-- The report on a conversion counts what its script does. -/
theorem Conversion.counted_summary {dump : String} {options : Options} {conversion : Conversion}
    (converted : convert dump options = .ok conversion) (time source : String) :
    Exists fun report => conversion.summary time source = .object report ∧
      CountedBy report dump options conversion.script := by
  have admitted := check_of_convert converted
  rw [convert_of_check admitted] at converted
  rcases conversion.exists_report time source with
    ⟨report, summary, tables, processed, tableRenames, columnRenames⟩
  refine ⟨report, summary, ?_⟩
  obtain rfl := Except.ok.inj converted
  dsimp only at tables processed tableRenames columnRenames ⊢
  have statements := Script.statements_script admitted dump
  exact
    { tablesFound := tables
      processedTables := ⟨_, processed, Script.printedCount?_script admitted dump⟩
      tableRenames := ⟨_, tableRenames, by
        rw [statements, List.countP_append, countP_isTableRename_statements]⟩
      columnRenames := ⟨_, columnRenames, by
        rw [statements, List.countP_append, countP_isColumnRename_statements]⟩ }

end Recase
