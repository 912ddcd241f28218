import Recase.Proofs.Script.Conversion

namespace Recase

/-!
# Excluded tables in a script

Every excluded table should be dropped by one statement of the script, and no
statement that renames something should name it.  The plan keeps to this for
the tables that have the name in the dump, but not for others.  A name that is
listed again is dropped again, and the camel case of a table that is kept may
be the name of one that is excluded.  Besides these two only the advice can
break the rule, by a statement that escapes from it.
-/

/-- Whether a statement drops the table of a name, in whatever schema. -/
def Statement.drops (name : String) : Statement -> Bool
  | .dropTable _ table => table == name
  | _ => false

/-- Whether a statement alters the table of a name, or gives a table this
name. -/
def Statement.renames (name : String) : Statement -> Bool
  | .dropTable _ _ => false
  | .renameTable rename => rename.source == name || rename.target == name
  | .renameColumn rename => rename.table == name

/-- The rule for an excluded table: one statement of the script drops it, and
none renames it or anything in it, or names a table like it. -/
structure Script.Excludes (script : String) (name : String) : Prop where
  droppedOnce : (Script.statements script).countP (Statement.drops name) = 1
  notRenamed : forall step, step ∈ Script.statements script -> step.renames name = false

/-- A plan drops a name as often as it lists the name. -/
theorem countP_drops_statements (plan : Plan) (schema name : String) :
    (plan.statements schema).countP (Statement.drops name) = plan.drops.count name := by
  have tables : (plan.tableRenames.map Statement.renameTable).countP (Statement.drops name) = 0 := by
    rw [List.countP_map]
    exact congrFun List.countP_false _
  have columns : (plan.columnRenames.map Statement.renameColumn).countP (Statement.drops name) =
      0 := by
    rw [List.countP_map]
    exact congrFun List.countP_false _
  rw [Plan.statements, List.countP_append, List.countP_append, tables, columns, List.countP_map]
  rfl

namespace Options

variable {options : Options} {name : String}

theorem excludes_of_mem (member : name ∈ options.excluded) : options.excludes name = true :=
  List.contains_iff_mem.mpr member

theorem name_ne_of_mem_kept (excluded : options.excludes name = true) {tables : List Table}
    {table : Table} (kept : table ∈ options.kept tables) : table.name ≠ name := by
  intro same
  have remains := (List.mem_filter.mp kept).2
  rw [same, excluded] at remains
  cases remains

/-- A plan renames to or in a table with the name of an excluded one exactly
if a kept table gets this name. -/
theorem exists_renames_statements_iff (excluded : options.excludes name = true) (schema : Schema) :
    (Exists fun step => step ∈ (Plan.ofSchema schema options).statements options.schema ∧
        step.renames name = true) ↔
      Exists fun table => table ∈ options.kept schema.toList ∧ tableName table.name = name := by
  constructor
  · rintro ⟨step, listed, names⟩
    rcases List.mem_append.mp listed with early | column
    · rcases List.mem_append.mp early with dropped | table
      · rcases List.mem_map.mp dropped with ⟨other, _, same⟩
        rw [← same] at names
        cases names
      · rcases List.mem_map.mp table with ⟨rename, planned, same⟩
        rcases List.mem_filterMap.mp planned with ⟨table, kept, renamed⟩
        unfold Table.rename? at renamed
        split at renamed
        · rename_i snake
          cases renamed
          rw [← same] at names
          rcases Bool.or_eq_true_iff.mp names with source | target
          · exact absurd (beq_iff_eq.mp source) (name_ne_of_mem_kept excluded kept)
          · exact ⟨table, kept, (tableName_of_isSnake snake).trans (beq_iff_eq.mp target)⟩
        · cases renamed
    · rcases List.mem_map.mp column with ⟨rename, planned, same⟩
      rcases List.mem_flatMap.mp planned with ⟨table, kept, renamed⟩
      rcases List.mem_map.mp renamed with ⟨column, _, made⟩
      rw [← same, ← made] at names
      exact ⟨table, kept, beq_iff_eq.mp names⟩
  · rintro ⟨table, kept, named⟩
    have snake : isSnake table.name = true := by
      cases plain : isSnake table.name with
      | true => rfl
      | false =>
          rw [tableName_of_not_isSnake plain] at named
          exact absurd named (name_ne_of_mem_kept excluded kept)
    have renamed : table.rename? options =
        some ⟨options.schemaOf table, table.name, camelCase table.name⟩ := if_pos snake
    refine ⟨.renameTable ⟨options.schemaOf table, table.name, camelCase table.name⟩, ?_, ?_⟩
    · apply List.mem_append_left
      apply List.mem_append_right
      exact List.mem_map_of_mem (List.mem_filterMap.mpr ⟨table, kept, renamed⟩)
    · rw [tableName_of_isSnake snake] at named
      exact Bool.or_eq_true_iff.mpr (Or.inr (beq_iff_eq.mpr named))

end Options

/-- The rule holds of an excluded table exactly if it is listed once, no kept
table gets its name, and nothing about it escapes from the advice. -/
theorem Script.excludes_render_iff {options : Options} (admitted : options.check = .ok ())
    (dump : String) {name : String} (member : name ∈ options.excluded) :
    Script.Excludes (Script.render (Plan.ofSchema (Dump.analyze dump) options) options) name ↔
      options.excluded.count name = 1 ∧
        (forall table, table ∈ options.kept (Dump.analyze dump).toList ->
          tableName table.name ≠ name) ∧
        forall step, step ∈ Script.escapingStatements options ->
          step.drops name = false ∧ step.renames name = false := by
  have statements := Script.statements_script admitted dump
  have counted : (Script.statements (Script.render (Plan.ofSchema (Dump.analyze dump) options)
      options)).countP (Statement.drops name) =
        options.excluded.count name +
          (Script.escapingStatements options).countP (Statement.drops name) := by
    rw [statements, List.countP_append, countP_drops_statements]
    rfl
  have listed : 0 < options.excluded.count name := List.count_pos_iff.mpr member
  have renamed := Options.exists_renames_statements_iff (Options.excludes_of_mem member)
    (Dump.analyze dump)
  constructor
  · rintro ⟨droppedOnce, notRenamed⟩
    rw [counted] at droppedOnce
    have escaped : (Script.escapingStatements options).countP (Statement.drops name) = 0 := by
      omega
    rw [statements] at notRenamed
    refine ⟨by omega, ?_, ?_⟩
    · intro table kept named
      rcases renamed.mpr ⟨table, kept, named⟩ with ⟨step, planned, names⟩
      rw [notRenamed step (List.mem_append_left _ planned)] at names
      cases names
    · intro step escapes
      refine ⟨?_, notRenamed step (List.mem_append_right _ escapes)⟩
      exact Bool.eq_false_iff.mpr (List.countP_eq_zero.mp escaped step escapes)
  · rintro ⟨once, apart, quiet⟩
    have escaped : (Script.escapingStatements options).countP (Statement.drops name) = 0 := by
      apply List.countP_eq_zero.mpr
      intro step escapes
      rw [(quiet step escapes).1]
      exact Bool.false_ne_true
    constructor
    · rw [counted, once, escaped]
    · rw [statements]
      intro step present
      rcases List.mem_append.mp present with planned | escapes
      · apply Bool.eq_false_iff.mpr
        intro names
        rcases renamed.mp ⟨step, planned, names⟩ with ⟨table, kept, named⟩
        exact apart table kept named
      · exact (quiet step escapes).2

/-- In the script of a dump an excluded table is dropped by exactly one
statement and renamed by none if and only if its name is listed once, no kept
table gets its name, and nothing about it escapes from the advice. -/
theorem excluded_once_and_unrenamed_iff (dump : String) {options : Options}
    (admitted : options.check = .ok ()) :
    Exists fun conversion => convert dump options = .ok conversion ∧
      forall name, name ∈ options.excluded ->
        (Script.Excludes conversion.script name ↔
          options.excluded.count name = 1 ∧
            (forall table, table ∈ options.kept (Dump.analyze dump).toList ->
              tableName table.name ≠ name) ∧
            forall step, step ∈ Script.escapingStatements options ->
              step.drops name = false ∧ step.renames name = false) := by
  rcases script_convert admitted dump with ⟨conversion, converted, script⟩
  refine ⟨conversion, converted, ?_⟩
  intro name member
  rw [script]
  exact Script.excludes_render_iff admitted dump member

/-- The rule holds of the table that is excluded by default if the dump has
just one table with another name. -/
theorem excluded_once_beside_room_types :
    ({} : Options).check = .ok () ∧
      Exists fun conversion => convert "CREATE TABLE room_types (\n);" {} = .ok conversion ∧
        Script.Excludes conversion.script "eventManagers" := by
  have admitted : ({} : Options).check = .ok () := Options.check_advice _ _
  have tables : (Dump.analyze "CREATE TABLE room_types (\n);").toList =
      [{ name := "room_types", schema := none }] := by
    rw [Dump.toList_analyze]
    decide +kernel
  rcases excluded_once_and_unrenamed_iff "CREATE TABLE room_types (\n);" admitted with
    ⟨conversion, converted, rule⟩
  refine ⟨admitted, conversion, converted, ?_⟩
  apply (rule "eventManagers" (by decide)).mpr
  rw [tables]
  refine ⟨by decide, by decide +kernel, ?_⟩
  have quiet : Script.escapingStatements {} = [] := by decide +kernel
  rw [quiet]
  intro step member
  cases member

/-- A table that is kept can get the name of an excluded one. -/
theorem excluded_name_given_again :
    ¬ forall (dump : String) (options : Options) (conversion : Conversion) (name : String),
      options.check = .ok () -> convert dump options = .ok conversion ->
        name ∈ options.excluded -> Script.Excludes conversion.script name := by
  intro always
  have admitted : ({} : Options).check = .ok () := Options.check_advice _ _
  have tables : (Dump.analyze "CREATE TABLE event_managers (\n);").toList =
      [{ name := "event_managers", schema := none }] := by
    rw [Dump.toList_analyze]
    decide +kernel
  rcases script_convert admitted "CREATE TABLE event_managers (\n);" with
    ⟨conversion, converted, script⟩
  have excluded : "eventManagers" ∈ ({} : Options).excluded := List.mem_singleton.mpr rfl
  have rule := always _ _ _ _ admitted converted excluded
  rw [script, Script.excludes_render_iff admitted _ excluded, tables] at rule
  revert rule
  decide +kernel

end Recase
