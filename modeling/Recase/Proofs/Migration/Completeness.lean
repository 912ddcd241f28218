import Recase.Proofs.CamelCase
import Recase.Proofs.Migration.Redeclaration

namespace Recase

/-!
# What a plan renames

A plan goes over the tables of a schema once for the renamings of tables, once
for those of columns and once to count the tables.  Each time it decides anew
which tables are excluded, and it looks for an underscore where what matters
is whether camel case changes the name.  A renaming of a column also works out
by itself how its table is called by then.

The lemmas below say that these decisions agree.  A plan has one renaming for
every name that camel case changes and no other, and a column is looked for in
the table to which the renaming of the table leads.
-/

/-- The name of a table once the tables of a plan have been renamed.  It is
the new name in the renaming of the table, if the plan has one. -/
def Plan.renamedTable (plan : Plan) (name : String) : String :=
  match plan.tableRenames.find? fun rename => rename.source == name with
  | some rename => rename.target
  | none => name

section Planning

variable {options : Options}

/-! ## The renamings of tables -/

/-- A table is renamed exactly if its final name is another one. -/
theorem rename?_eq_ite (table : Table) :
    table.rename? options =
      if tableName table.name ≠ table.name then
        some ⟨options.schemaOf table, table.name, tableName table.name⟩
      else none := by
  unfold Table.rename?
  rw [tableName_eq_camelCase]
  exact if_congr camelCase_ne_self_iff.symm rfl rfl

/-- The renamings of tables, in the order of the tables. -/
theorem filterMap_rename? (tables : List Table) :
    tables.filterMap (Table.rename? options) =
      (tables.filter fun table => tableName table.name ≠ table.name).map fun table =>
        ⟨options.schemaOf table, table.name, tableName table.name⟩ := by
  rw [← List.filterMap_eq_map', List.filterMap_filter]
  apply List.filterMap_congr
  intro table _
  simp only [rename?_eq_ite, decide_eq_true_eq]

/-- Of the tables of a schema no two renamings start from one name. -/
theorem nodup_sources {tables : List Table} (distinct : (tables.map Table.name).Nodup) :
    ((tables.filterMap (Table.rename? options)).map TableRename.source).Nodup := by
  have changed : ((tables.filter fun table =>
      tableName table.name ≠ table.name).map Table.name).Sublist (tables.map Table.name) :=
    List.filter_sublist.map Table.name
  rw [filterMap_rename?, List.map_map]
  exact distinct.sublist changed

/-- A table that is kept goes by its final name once the tables have been
renamed. -/
theorem renamedTable_ofSchema {schema : Schema}
    (distinct : (schema.toList.map Table.name).Nodup) {table : Table}
    (member : table ∈ options.kept schema.toList) :
    (Plan.ofSchema schema options).renamedTable table.name = tableName table.name := by
  rcases List.mem_filter.mp member with ⟨listed, remains⟩
  have kept : options.excludes table.name = false := by simpa using remains
  unfold Plan.renamedTable
  rw [← List.head?_filter]
  cases snake : isSnake table.name with
  | true =>
      have only : (Plan.ofSchema schema options).tableRenames.filter
          (fun rename => rename.source == table.name) =
            [⟨options.schemaOf table, table.name, camelCase table.name⟩] :=
        tableRenames_of_name distinct listed kept snake
      rw [only, tableName_of_isSnake snake]
      rfl
  | false =>
      have none : (Plan.ofSchema schema options).tableRenames.filter
          (fun rename => rename.source == table.name) = [] := by
        apply List.filter_eq_nil_iff.mpr
        intro rename planned same
        rcases List.mem_filterMap.mp planned with ⟨other, _, renamed⟩
        have named : other.name = table.name :=
          (source_of_rename? renamed).symm.trans (beq_iff_eq.mp same)
        rw [Table.rename?, named, snake] at renamed
        cases renamed
      rw [none, tableName_of_not_isSnake snake]
      rfl

/-! ## The renamings of columns -/

/-- A column is renamed exactly if it is not quoted and camel case changes
it. -/
theorem renamesColumn_eq (column : String) :
    renamesColumn column = (!Identifier.isQuoted column && decide (camelCase column ≠ column)) := by
  have changes : isSnake column = decide (camelCase column ≠ column) := by
    rw [Bool.eq_iff_iff, decide_eq_true_eq]
    exact camelCase_ne_self_iff.symm
  rw [renamesColumn, changes, Bool.and_comm]

/-! ## The new names -/

theorem target_of_rename? {table : Table} {rename : TableRename}
    (renamed : table.rename? options = some rename) :
    '_' ∉ rename.target.toList ∧ rename.target ≠ rename.source := by
  rw [rename?_eq_ite] at renamed
  split at renamed
  · rename_i changed
    cases renamed
    exact ⟨isSnake_eq_false_iff.mp (isSnake_tableName table.name), changed⟩
  · cases renamed

theorem target_of_mem_columnRenames {table : Table} {rename : ColumnRename}
    (member : rename ∈ table.columnRenames options) :
    '_' ∉ rename.target.toList ∧ rename.target ≠ rename.source := by
  rcases List.mem_map.mp member with ⟨column, listed, rfl⟩
  have snake := (Bool.and_eq_true_iff.mp (List.mem_filter.mp listed).2).1
  exact ⟨isSnake_eq_false_iff.mp (isSnake_camelCase column), camelCase_ne_self_iff.mpr snake⟩

/-! ## The number of tables -/

/-- Every table is either kept or excluded. -/
theorem length_kept_add (tables : List Table) :
    (options.kept tables).length + tables.countP (fun table => options.excludes table.name) =
      tables.length := by
  have split := List.length_eq_countP_add_countP (fun table => options.excludes table.name)
    (l := tables)
  have others : tables.countP (fun table => decide ¬options.excludes table.name = true) =
      (options.kept tables).length := by
    rw [Options.kept, ← List.countP_eq_length_filter]
    apply List.countP_congr
    intro table _
    simp
  omega

end Planning

/-- The plan of a dump is complete and has nothing beside.  The kept tables
whose names camel case changes are renamed in their order, each in its schema.
The columns that are not quoted are renamed in theirs if camel case changes
them, in the table as it is called once the tables have been renamed.  No new
name has an underscore or is the old one, no table is renamed twice, and the
tables that are counted are all but the excluded ones. -/
theorem plan_renames_what_changes (dump : String) (options : Options) :
    let tables := (Dump.analyze dump).toList
    let plan := Plan.ofSchema (Dump.analyze dump) options
    plan.tableRenames =
        ((options.kept tables).filter fun table => tableName table.name ≠ table.name).map
          (fun table => ⟨options.schemaOf table, table.name, tableName table.name⟩) ∧
      plan.columnRenames =
        (options.kept tables).flatMap (fun table =>
          (table.columns.toList.filter fun column =>
              !Identifier.isQuoted column && decide (camelCase column ≠ column)).map fun column =>
            ⟨options.schemaOf table, plan.renamedTable table.name, column, camelCase column⟩) ∧
      (forall rename, rename ∈ plan.tableRenames ->
        '_' ∉ rename.target.toList ∧ rename.target ≠ rename.source) ∧
      (forall rename, rename ∈ plan.columnRenames ->
        '_' ∉ rename.target.toList ∧ rename.target ≠ rename.source) ∧
      (plan.tableRenames.map TableRename.source).Nodup ∧
      plan.processed + tables.countP (fun table => options.excludes table.name) =
        (Dump.analyze dump).size := by
  intro tables plan
  have distinct : (tables.map Table.name).Nodup := Dump.nodup_names_analyze dump
  refine ⟨filterMap_rename? _, ?_, ?_, ?_, ?_, length_kept_add tables⟩
  · apply List.flatMap_congr
    intro table kept
    rw [renamedTable_ofSchema distinct kept, ← funext renamesColumn_eq]
    rfl
  · intro rename planned
    rcases List.mem_filterMap.mp planned with ⟨table, _, renamed⟩
    exact target_of_rename? renamed
  · intro rename planned
    rcases List.mem_flatMap.mp planned with ⟨table, _, renamed⟩
    exact target_of_mem_columnRenames renamed
  · apply nodup_sources
    exact distinct.sublist (List.filter_sublist.map Table.name)

end Recase
