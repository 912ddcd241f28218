import Recase.Proofs.CamelCase
import Recase.Proofs.Dump.Names
import Recase.Proofs.Script.Advice
import Recase.Proofs.Script.Reading

namespace Recase

/-!
# The script of a dump

No name in a dump has a line feed, and no name becomes longer than a line by
being renamed.  So every statement of the plan of a dump stands on a line of
its own, whatever the advice is.  The other lines that are carried out are
those that escape from the advice, and the block at the end.
-/

/-! ## The names in the plan of a dump -/

theorem oneLine_schemaOf {options : Options} (plain : Identifier.isPlain options.schema = true)
    {table : Table} (names : Dump.OneLineNames table) : OneLine (options.schemaOf table) := by
  unfold Options.schemaOf
  cases given : table.schema with
  | none => exact oneLine_of_isPlain plain
  | some schema => exact names.schema schema given

/-- The statements for the tables of a dump are legible. -/
theorem legible_of_mem_statements {options : Options} (admitted : options.check = .ok ())
    (dump : String) {step : Statement}
    (member : step ∈ (Plan.ofSchema (Dump.analyze dump) options).statements options.schema) :
    step.Legible := by
  rcases options.check_eq_ok_iff.mp admitted with ⟨schemaPlain, dropsPlain⟩
  -- The statements do not depend on the advice, which need not be legible itself.
  let quiet : Options := { options with relationships := [], permissionNotes := [] }
  have legible : (Plan.ofSchema (Dump.analyze dump) options).Legible quiet :=
    { schema := schemaPlain
      drops := dropsPlain
      tableRenames := by
        intro rename listed
        rcases List.mem_filterMap.mp listed with ⟨table, kept, renamed⟩
        have names := Dump.oneLineNames_of_mem_analyze (List.mem_of_mem_filter kept)
        unfold Table.rename? at renamed
        split at renamed
        · cases renamed
          exact ⟨oneLine_schemaOf schemaPlain names, names.name, oneLine_camelCase names.name⟩
        · cases renamed
      columnRenames := by
        intro rename listed
        rcases List.mem_flatMap.mp listed with ⟨table, kept, renamed⟩
        rcases List.mem_map.mp renamed with ⟨column, declared, same⟩
        have names := Dump.oneLineNames_of_mem_analyze (List.mem_of_mem_filter kept)
        have column := names.columns column (List.mem_of_mem_filter declared)
        rw [← same]
        exact ⟨oneLine_schemaOf schemaPlain names, oneLine_tableName names.name, column,
          oneLine_camelCase column⟩
      relationships := fun _ listed => by cases listed
      permissionNotes := fun _ listed => by cases listed }
  exact legible.statements step member

/-! ## The lines of the script of a dump -/

namespace Script

/-- The lines of a script that are carried out: the statements of the plan,
whatever escapes from the advice, and the block at the end. -/
theorem executable_script {options : Options} (admitted : options.check = .ok ())
    (dump : String) :
    executable (render (Plan.ofSchema (Dump.analyze dump) options) options).toList =
      ((Plan.ofSchema (Dump.analyze dump) options).statements options.schema).map
          (fun step => step.sql.toList) ++
        options.advice.flatMap escaping ++
          closingLines (Plan.ofSchema (Dump.analyze dump) options) := by
  rw [executable_render_of_check admitted, List.map_eq_flatMap,
    List.flatMap_congr fun step member =>
      executable_statement (legible_of_mem_statements admitted dump member)]

/-- No line of the block at the end begins like a statement of the plan. -/
theorem behind?_closingLines {plan : Plan} {line : List Char} (member : line ∈ closingLines plan) :
    behind? "DROP TABLE IF EXISTS " line = none ∧
      behind? "ALTER TABLE IF EXISTS " line = none := by
  simp only [closingLines, closingMark, List.mem_cons, List.not_mem_nil, or_false] at member
  rcases member with here | here | here | here | here <;> rw [here] <;> exact ⟨rfl, rfl⟩

/-- A line that begins in neither way is not a statement. -/
theorem statement?_of_behind? {line : List Char}
    (dropped : behind? "DROP TABLE IF EXISTS " line = none)
    (altered : behind? "ALTER TABLE IF EXISTS " line = none) : statement? line = none := by
  simp only [statement?, dropTable?, renameTable?, renameColumn?, dropped, altered,
    Option.bind_eq_bind, Option.bind_none, Option.or_none]

/-- The statements among the lines of a script. -/
def statements (script : String) : List Statement :=
  (executable script.toList).filterMap statement?

/-- The statements that escape from the advice of options. -/
def escapingStatements (options : Options) : List Statement :=
  (options.advice.flatMap escaping).filterMap statement?

/-- The statements among the lines of the script of a dump are those of the
plan, and behind them those that escape from the advice. -/
theorem statements_script {options : Options} (admitted : options.check = .ok ())
    (dump : String) :
    statements (render (Plan.ofSchema (Dump.analyze dump) options) options) =
      (Plan.ofSchema (Dump.analyze dump) options).statements options.schema ++
        escapingStatements options := by
  have read : (((Plan.ofSchema (Dump.analyze dump) options).statements options.schema).map
      fun step => step.sql.toList).filterMap statement? =
        (Plan.ofSchema (Dump.analyze dump) options).statements options.schema := by
    rw [List.filterMap_map]
    conv_rhs => rw [← List.filterMap_some
      (l := (Plan.ofSchema (Dump.analyze dump) options).statements options.schema)]
    apply List.filterMap_congr
    intro step member
    exact statement?_sql (legible_of_mem_statements admitted dump member)
  have closed : (closingLines (Plan.ofSchema (Dump.analyze dump) options)).filterMap statement? =
      [] := by
    apply List.filterMap_eq_nil_iff.mpr
    intro line member
    have begins := behind?_closingLines member
    exact statement?_of_behind? begins.1 begins.2
  rw [statements, executable_script admitted, List.filterMap_append, List.filterMap_append, read,
    closed, List.append_nil]
  rfl

end Script
end Recase
