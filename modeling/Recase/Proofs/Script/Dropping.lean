import Recase.Proofs.Migration.Redeclaration
import Recase.Proofs.Script.Exclusion

namespace Recase

/-!
# The schema in which a table is dropped

A table is excluded by its name alone, and the schema of its header does not
matter for this.  The drops know nothing but names either, and look for all of
them in the schema of the options.  Every excluded table therefore has its
drop, and the drop reaches the table if this is the schema that the table
lies in.  A table of the same name in another schema is neither dropped nor
renamed.
-/

/-- A plan drops the names that it lists, and in one schema only. -/
theorem dropTable_mem_statements_iff {plan : Plan} {schema place name : String} :
    Statement.dropTable place name ∈ plan.statements schema ↔
      place = schema ∧ name ∈ plan.drops := by
  simp only [Plan.statements, List.mem_append, List.mem_map, Statement.dropTable.injEq,
    reduceCtorEq, and_false, exists_false, or_false]
  constructor
  · rintro ⟨listed, member, same, rfl⟩
    exact ⟨same.symm, member⟩
  · rintro ⟨rfl, member⟩
    exact ⟨name, member, rfl, rfl⟩

namespace Options

variable {options : Options}

theorem mem_of_excludes {name : String} (excluded : options.excludes name = true) :
    name ∈ options.excluded :=
  List.contains_iff_mem.mp excluded

/-- No renaming of a plan starts from an excluded table. -/
theorem source_ne_of_excludes {name : String} (excluded : options.excludes name = true)
    (schema : Schema) {rename : TableRename}
    (planned : rename ∈ (Plan.ofSchema schema options).tableRenames) : rename.source ≠ name := by
  rcases List.mem_filterMap.mp planned with ⟨table, kept, renamed⟩
  rw [source_of_rename? renamed]
  exact name_ne_of_mem_kept excluded kept

end Options

/-- The script of a dump drops the name of every excluded table in the schema
of the options.  The plan has a drop for the table in its own schema exactly
if this is the schema of the options, and it does not rename the table in any
case. -/
theorem excluded_dropped_in_schema_of_options (dump : String) {options : Options}
    (admitted : options.check = .ok ()) :
    Exists fun conversion => convert dump options = .ok conversion ∧
      forall table, table ∈ (Dump.analyze dump).toList -> options.excludes table.name = true ->
        Statement.dropTable options.schema table.name ∈ Script.statements conversion.script ∧
          (Statement.dropTable (options.schemaOf table) table.name ∈
              conversion.plan.statements options.schema ↔
            options.schemaOf table = options.schema) ∧
          forall rename, rename ∈ conversion.plan.tableRenames -> rename.source ≠ table.name := by
  rcases exists_convert admitted dump with ⟨conversion, converted, plan, script⟩
  refine ⟨conversion, converted, ?_⟩
  intro table _ excluded
  have listed : table.name ∈ (Plan.ofSchema (Dump.analyze dump) options).drops :=
    Options.mem_of_excludes excluded
  rw [plan, script]
  refine ⟨?_, ?_, fun rename planned => Options.source_ne_of_excludes excluded _ planned⟩
  · rw [Script.statements_script admitted dump]
    exact List.mem_append_left _ (dropTable_mem_statements_iff.mpr ⟨rfl, listed⟩)
  · rw [dropTable_mem_statements_iff]
    exact and_iff_left listed

/-- Of two excluded tables the one in the schema of the options is dropped and
the other one is left as it is. -/
theorem excluded_dropped_in_one_of_two_schemas :
    let dump := "CREATE TABLE public.old_rooms (\n);\nCREATE TABLE audit.old_log (\n);"
    let options : Options := { excluded := ["old_rooms", "old_log"] }
    options.check = .ok () ∧
      Exists fun conversion => convert dump options = .ok conversion ∧
        Statement.dropTable "public" "old_rooms" ∈ Script.statements conversion.script ∧
        Statement.dropTable "public" "old_log" ∈ Script.statements conversion.script ∧
        Statement.dropTable "audit" "old_log" ∉ conversion.plan.statements "public" := by
  intro dump options
  have admitted : options.check = .ok () := by decide
  have tables : (Dump.analyze dump).toList =
      [{ name := "old_rooms", schema := some "public" },
       { name := "old_log", schema := some "audit" }] := by
    rw [Dump.toList_analyze]
    decide +kernel
  rcases excluded_dropped_in_schema_of_options dump admitted with ⟨conversion, converted, rule⟩
  rw [tables] at rule
  have rooms := rule _ List.mem_cons_self (by decide)
  have log := rule _ (List.mem_cons_of_mem _ List.mem_cons_self) (by decide)
  refine ⟨admitted, conversion, converted, rooms.1, log.1, ?_⟩
  intro dropped
  exact absurd (log.2.1.mp dropped) (by decide)

/-- An excluded table can lie in a schema in which nothing is dropped. -/
theorem excluded_table_not_dropped :
    ¬ forall (dump : String) (options : Options) (conversion : Conversion) (table : Table),
      options.check = .ok () -> convert dump options = .ok conversion ->
        table ∈ (Dump.analyze dump).toList -> options.excludes table.name = true ->
          Statement.dropTable (options.schemaOf table) table.name ∈
            Script.statements conversion.script := by
  intro always
  let dump := "CREATE TABLE audit.\"eventManagers\" (\n);"
  let table : Table := { name := "eventManagers", schema := some "audit" }
  have admitted : ({} : Options).check = .ok () := Options.check_advice _ _
  have listed : table ∈ (Dump.analyze dump).toList := by
    have tables : (Dump.analyze dump).toList = [table] := by
      rw [Dump.toList_analyze]
      decide +kernel
    rw [tables]
    exact List.mem_cons_self
  have quiet : Script.escapingStatements {} = [] := by decide +kernel
  rcases script_convert admitted dump with ⟨conversion, converted, script⟩
  have dropped := always dump {} conversion table admitted converted listed (by decide)
  rw [script, Script.statements_script admitted dump, quiet, List.append_nil,
    dropTable_mem_statements_iff] at dropped
  exact absurd dropped.1 (by decide)

end Recase
