import Recase.Proofs.CamelCase
import Recase.Proofs.Dump.Tidiness
import Recase.Proofs.Migration.Completeness
import Recase.Proofs.Options

namespace Recase

/-!
# Nothing is smuggled into a plan

The names of a plan come from the dump and from the options.  Those of the
dump are tame, those of admitted options too, and camel case makes neither a
double quote nor a line feed out of another character, although it may make
several characters out of one.  So all names of a plan are tame, whatever the
dump is.
-/

/-- Whether all names of a plan are tame, and every renamed column is a
word. -/
structure Plan.Tidy (plan : Plan) : Prop where
  drops : forall name, name ∈ plan.drops -> Tame name
  tableRenames : forall rename, rename ∈ plan.tableRenames ->
    Tame rename.schema ∧ Tame rename.source ∧ Tame rename.target
  columnRenames : forall rename, rename ∈ plan.columnRenames ->
    Tame rename.schema ∧ Tame rename.table ∧ Tame rename.source ∧ Tame rename.target ∧
      forall char, char ∈ rename.source.toList -> Text.isWord char = true

/-! ## Names that stay tame -/

/-- A name that can be written bare is tame. -/
theorem tame_of_isPlain {name : String} (plain : Identifier.isPlain name = true) : Tame name where
  noQuote := by
    intro member
    have allowed := Identifier.isTail_of_mem_of_isPlain plain member
    cases allowed
  oneLine := oneLine_of_isPlain plain

/-- No character has a double quote or a line feed in its upper case unless it
is one itself. -/
theorem Tame.camelCase {name : String} (tame : Tame name) : Tame (camelCase name) where
  noQuote := by
    intro member
    rw [Recase.camelCase, String.toList_ofList] at member
    rcases exists_piece_of_mem_camelChars (by decide) (by decide +kernel) member with
      ⟨piece, listed, inside⟩
    exact tame.noQuote (Text.mem_and_ne_of_mem_pieces listed inside).1
  oneLine := oneLine_camelCase tame.oneLine

theorem Tame.tableName {name : String} (tame : Tame name) : Tame (tableName name) := by
  rw [tableName_eq_camelCase]
  exact tame.camelCase

theorem Table.Tidy.schemaOf {table : Table} (tidy : table.Tidy) {options : Options}
    (plain : Identifier.isPlain options.schema = true) : Tame (options.schemaOf table) := by
  unfold Options.schemaOf
  cases given : table.schema with
  | none => exact tame_of_isPlain plain
  | some schema => exact (tidy.schema schema given).2

/-! ## The columns that are renamed -/

/-- Between its quotes a column is quoted, so a spelled column that is not
quoted is a word. -/
theorem Dump.Spelled.isWord_of_not_isQuoted {name : List Char} (spelled : Dump.Spelled name)
    (bare : Identifier.isQuoted (String.ofList name) = false) :
    forall char, char ∈ name -> Text.isWord char = true := by
  cases spelled with
  | bare nonempty words => exact words
  | @quoted inner nonempty closed =>
      have closes : (inner ++ ['"']).getLast? = some '"' := List.getLast?_concat
      simp only [Identifier.isQuoted, Identifier.inner?, String.toList_ofList, List.cons_append,
        closes, if_true, Option.isSome_some] at bare
      cases bare

theorem tame_of_isWord {name : String}
    (words : forall char, char ∈ name.toList -> Text.isWord char = true) : Tame name where
  noQuote := by
    intro member
    have word := words '"' member
    rw [Dump.isWord_quote] at word
    cases word
  oneLine := by
    intro member
    have refused : Text.isWord '\n' = false := by decide
    rw [words '\n' member] at refused
    cases refused

/-- A column that is renamed is a word. -/
theorem Table.Tidy.isWord_of_renamesColumn {table : Table} (tidy : table.Tidy) {column : String}
    (declared : column ∈ table.columns.toList) (renamed : renamesColumn column = true) :
    forall char, char ∈ column.toList -> Text.isWord char = true := by
  have bare : Identifier.isQuoted column = false := by
    rw [renamesColumn, Bool.and_eq_true, Bool.not_eq_true'] at renamed
    exact renamed.2
  apply (tidy.columns column declared).1.isWord_of_not_isQuoted
  rw [String.ofList_toList]
  exact bare

/-! ## The plan of a dump -/

theorem Table.Tidy.rename {table : Table} (tidy : table.Tidy) {options : Options}
    (plain : Identifier.isPlain options.schema = true) {rename : TableRename}
    (renamed : table.rename? options = some rename) :
    Tame rename.schema ∧ Tame rename.source ∧ Tame rename.target := by
  unfold Table.rename? at renamed
  split at renamed
  · cases renamed
    exact ⟨tidy.schemaOf plain, tidy.name, tidy.name.camelCase⟩
  · cases renamed

theorem Table.Tidy.columnRename {table : Table} (tidy : table.Tidy) {options : Options}
    (plain : Identifier.isPlain options.schema = true) {rename : ColumnRename}
    (renamed : rename ∈ table.columnRenames options) :
    Tame rename.schema ∧ Tame rename.table ∧ Tame rename.source ∧ Tame rename.target ∧
      forall char, char ∈ rename.source.toList -> Text.isWord char = true := by
  rcases List.mem_map.mp renamed with ⟨column, listed, rfl⟩
  rcases List.mem_filter.mp listed with ⟨declared, renames⟩
  have words := tidy.isWord_of_renamesColumn declared renames
  have tame : Tame column := tame_of_isWord words
  exact ⟨tidy.schemaOf plain, tidy.name.tableName, tame, tame.camelCase, words⟩

/-- The plan for tidy tables under admitted options is tidy. -/
theorem tidy_ofSchema {schema : Schema} (tidy : forall table, table ∈ schema.toList -> table.Tidy)
    {options : Options} (admitted : options.check = .ok ()) :
    (Plan.ofSchema schema options).Tidy := by
  rcases options.check_eq_ok_iff.mp admitted with ⟨schemaPlain, dropsPlain⟩
  constructor
  · intro name listed
    exact tame_of_isPlain (dropsPlain name listed)
  · intro rename planned
    rcases List.mem_filterMap.mp planned with ⟨table, kept, renamed⟩
    exact (tidy table (List.mem_of_mem_filter kept)).rename schemaPlain renamed
  · intro rename planned
    rcases List.mem_flatMap.mp planned with ⟨table, kept, renamed⟩
    exact (tidy table (List.mem_of_mem_filter kept)).columnRename schemaPlain renamed

/-- Every dump gives tidy tables, and a tidy plan under all options that are
admitted. -/
theorem dump_smuggles_nothing (dump : String) :
    (forall table, table ∈ (Dump.analyze dump).toList -> table.Tidy) ∧
      forall options : Options, options.check = .ok () ->
        (Plan.ofSchema (Dump.analyze dump) options).Tidy := by
  have tidy : forall table, table ∈ (Dump.analyze dump).toList -> table.Tidy :=
    fun _ => Dump.tidy_of_mem_analyze
  exact ⟨tidy, fun _ admitted => tidy_ofSchema tidy admitted⟩

/-- A header that tries to end its name early, a column that ends its line
early, and a column with a letter that is raised to two. -/
theorem hostile_dump_smuggles_nothing :
    let dump := "CREATE TABLE \"a_b\"\"; DROP TABLE x\" (\r\n  c_ßd int,\n  \"e\nf_g\" int\n);"
    let options : Options := {}
    let plan := Plan.ofSchema (Dump.analyze dump) options
    options.check = .ok () ∧
      plan.tableRenames = [⟨"public", "a_b", "aB"⟩] ∧
      plan.columnRenames = [⟨"public", "aB", "c_ßd", "cSSd"⟩] ∧ plan.Tidy := by
  intro dump options plan
  have admitted : options.check = .ok () := by decide
  have tables : (Dump.analyze dump).toList =
      [{ name := "a_b", schema := none, columns := #["c_ßd"] }] := by
    rw [Dump.toList_analyze]
    decide +kernel
  refine ⟨admitted, ?_, ?_, (dump_smuggles_nothing dump).2 options admitted⟩
  · change (Plan.ofSchema (Dump.analyze dump) options).tableRenames = _
    rw [Plan.ofSchema, tables]
    decide +kernel
  · change (Plan.ofSchema (Dump.analyze dump) options).columnRenames = _
    rw [Plan.ofSchema, tables]
    decide +kernel

end Recase
