import Mathlib.Data.List.Nodup
import Recase.Proofs.Dump.Blocks
import Recase.Proofs.Migration.Execution
import Recase.Proofs.SnakeCase

namespace Recase

/-!
# Final names that meet

A plan does not look for collisions, and camel case can bring any number of
names together.  Two tables of one schema end up with one name exactly if
their names have one regular form, so tables with regular names stay apart.
For columns there are the quoted ones besides, whose spelling without the
quotes is final.  If it has an underscore, it cannot be met by a renamed
column, not even by one whose regular form reads the same: `"a_b"` stays `a_b`
beside `a__b`, which becomes `aB`.  A quoted column without an underscore
counts like one that is not quoted.
-/

/-- The name that a column goes by after the migration.  Quotes are no part of
a name. -/
def finalColumn (column : String) : String :=
  if renamesColumn column then camelCase column else Identifier.unquote column

/-- Whether a column has an underscore after the migration. -/
def keepsUnderscore (column : String) : Bool :=
  Identifier.isQuoted column && isSnake (Identifier.unquote column)

/-- Whether a column has a regular name, or an underscore that it keeps. -/
def isRegularColumn (column : String) : Bool :=
  keepsUnderscore column || isRegular (Identifier.unquote column)

/-- What decides with which columns a column can meet.  A spelling that is
kept and a regular form are different even if they read the same. -/
inductive ColumnForm where
  | kept (spelling : String)
  | regular (form : String)
  deriving DecidableEq

def ColumnForm.name : ColumnForm -> String
  | kept spelling => spelling
  | regular form => form

/-- A column without what camel case forgets of its name. -/
def columnForm (column : String) : ColumnForm :=
  if keepsUnderscore column then .kept (Identifier.unquote column)
  else .regular (regularForm (Identifier.unquote column))

/-! ## Lists of names -/

/-- If a map tells apart whatever another one does, it keeps a list free of
repetitions. -/
theorem nodup_map_of_nodup_map {Item Key Name : Type} {items : List Item} {key : Item -> Key}
    {name : Item -> Name}
    (apart : forall first, first ∈ items -> forall second, second ∈ items ->
      name first = name second -> key first = key second)
    (distinct : (items.map key).Nodup) : (items.map name).Nodup := by
  rw [List.Nodup, List.pairwise_map] at distinct ⊢
  refine distinct.imp_of_mem ?_
  intro first second here there differs same
  exact differs (apart first here second there same)

/-- Two maps that identify the same items repeat themselves on the same
lists. -/
theorem nodup_map_iff_of_eq_iff {Item Key Name : Type} {key : Item -> Key} {name : Item -> Name}
    (agree : forall first second, name first = name second ↔ key first = key second)
    (items : List Item) : (items.map name).Nodup ↔ (items.map key).Nodup :=
  ⟨nodup_map_of_nodup_map fun first _ second _ => (agree first second).mpr,
    nodup_map_of_nodup_map fun first _ second _ => (agree first second).mp⟩

/-! ## Columns -/

theorem unquote_of_not_isQuoted {column : String} (bare : Identifier.isQuoted column = false) :
    Identifier.unquote column = column := by
  unfold Identifier.isQuoted at bare
  rw [Identifier.unquote, Option.not_isSome_iff_eq_none.mp (Bool.eq_false_iff.mp bare)]
  rfl

/-- All columns are named in camel case, but for those that keep an
underscore. -/
theorem finalColumn_eq (column : String) :
    finalColumn column =
      if keepsUnderscore column then Identifier.unquote column
      else camelCase (Identifier.unquote column) := by
  unfold finalColumn renamesColumn keepsUnderscore
  cases quoted : Identifier.isQuoted column with
  | true =>
      cases snake : isSnake (Identifier.unquote column) with
      | true => simp
      | false => simp [camelCase_of_not_isSnake snake]
  | false =>
      rw [unquote_of_not_isQuoted quoted]
      cases snake : isSnake column with
      | true => simp
      | false => simp [camelCase_of_not_isSnake snake]

theorem isSnake_finalColumn (column : String) :
    isSnake (finalColumn column) = keepsUnderscore column := by
  rw [finalColumn_eq]
  cases keeps : keepsUnderscore column with
  | true => exact (Bool.and_eq_true_iff.mp keeps).2
  | false => exact isSnake_camelCase _

/-- Two columns end up with one name exactly if they have one form. -/
theorem finalColumn_eq_iff (first second : String) :
    finalColumn first = finalColumn second ↔ columnForm first = columnForm second := by
  cases keeps : keepsUnderscore first <;> cases alsoKeeps : keepsUnderscore second
  case false.false => simp [finalColumn_eq, columnForm, keeps, alsoKeeps, camelCase_eq_iff]
  case true.true => simp [finalColumn_eq, columnForm, keeps, alsoKeeps]
  -- Only one of the two names has an underscore in the end.
  all_goals
    constructor
    · intro same
      have snake := congrArg isSnake same
      rw [isSnake_finalColumn, isSnake_finalColumn, keeps, alsoKeeps] at snake
      cases snake
    · intro same
      simp [columnForm, keeps, alsoKeeps] at same

/-- Nothing of a regular column is forgotten but its quotes. -/
theorem name_columnForm {column : String} (regular : isRegularColumn column = true) :
    (columnForm column).name = Identifier.unquote column := by
  unfold columnForm
  cases keeps : keepsUnderscore column with
  | true => rfl
  | false =>
      rw [isRegularColumn, keeps, Bool.false_or] at regular
      exact regularForm_eq_self_iff.mpr regular

theorem nodup_finalColumn {columns : List String}
    (distinct : ((columns.filter isRegularColumn).map Identifier.unquote).Nodup) :
    ((columns.filter isRegularColumn).map finalColumn).Nodup := by
  refine nodup_map_of_nodup_map ?_ distinct
  intro first here second there same
  rw [← name_columnForm (List.mem_filter.mp here).2,
    ← name_columnForm (List.mem_filter.mp there).2,
    (finalColumn_eq_iff first second).mp same]

/-! ## Tables -/

theorem tableName_eq_iff (first second : Table) :
    tableName first.name = tableName second.name ↔
      regularForm first.name = regularForm second.name := by
  rw [tableName_eq_camelCase, tableName_eq_camelCase]
  exact camelCase_eq_iff

/-- The regular form of a name is the one regular name that it meets. -/
theorem eq_regularForm_iff (other name : String) :
    (isRegular other = true ∧ tableName other = tableName name) ↔ other = regularForm name := by
  rw [tableName_eq_camelCase, tableName_eq_camelCase]
  constructor
  · rintro ⟨regular, same⟩
    apply eq_of_camelCase_eq regular (isRegular_regularForm name)
    rw [same, camelCase_regularForm]
  · intro same
    rw [same]
    exact ⟨isRegular_regularForm name, camelCase_regularForm name⟩

theorem nodup_tableName {tables : List Table} (distinct : (tables.map Table.name).Nodup) :
    ((tables.filter fun table => isRegular table.name).map fun table =>
      tableName table.name).Nodup := by
  have regular : ((tables.filter fun table => isRegular table.name).map Table.name).Nodup :=
    distinct.sublist (List.filter_sublist.map Table.name)
  refine nodup_map_of_nodup_map ?_ regular
  intro first here second there same
  rw [tableName_eq_camelCase, tableName_eq_camelCase] at same
  exact eq_of_camelCase_eq (List.mem_filter.mp here).2 (List.mem_filter.mp there).2 same

/-- After the migration of a dump the kept tables of a schema have different
names exactly if their names have different regular forms, and so it is with
the columns of a kept table.  In particular the tables with regular names stay
apart, and so do the regular columns if they are different without their
quotes.  This cannot be said of more names, because every name shares its
camel case with exactly one regular name, its regular form, which is another
name unless it is regular itself. -/
theorem regular_names_stay_apart (dump : String) (options : Options) :
    let kept := options.kept (Dump.analyze dump).toList
    (forall schema : String,
      let tables := kept.filter fun table => options.schemaOf table = schema
      ((tables.map fun table => tableName table.name).Nodup ↔
        (tables.map fun table => regularForm table.name).Nodup)) ∧
      ((kept.filter fun table => isRegular table.name).map fun table =>
        tableName table.name).Nodup ∧
      (forall table, table ∈ kept ->
        let columns := table.columns.toList
        ((columns.map finalColumn).Nodup ↔ (columns.map columnForm).Nodup) ∧
          (((columns.filter isRegularColumn).map Identifier.unquote).Nodup ->
            ((columns.filter isRegularColumn).map finalColumn).Nodup)) ∧
      forall name,
        (forall other, (isRegular other = true ∧ tableName other = tableName name) ↔
          other = regularForm name) ∧
        (regularForm name = name ↔ isRegular name = true) := by
  intro kept
  refine ⟨fun schema => nodup_map_iff_of_eq_iff tableName_eq_iff _, ?_, ?_, ?_⟩
  · apply nodup_tableName
    exact (Dump.nodup_names_analyze dump).sublist (List.filter_sublist.map Table.name)
  · intro table _
    exact ⟨nodup_map_iff_of_eq_iff finalColumn_eq_iff _, nodup_finalColumn⟩
  · intro name
    exact ⟨fun other => eq_regularForm_iff other name, regularForm_eq_self_iff⟩

/-- A quoted column stays apart from the renamed ones. -/
theorem regular_names_stay_apart_in_room_types :
    let dump := "CREATE TABLE room_types (\nroom_id int,\n\"bed_count\" int,\nprice int\n);"
    let table : Table :=
      { name := "room_types", schema := none, columns := #["room_id", "\"bed_count\"", "price"] }
    table ∈ ({} : Options).kept (Dump.analyze dump).toList ∧
      ((table.columns.toList.filter isRegularColumn).map Identifier.unquote).Nodup ∧
      ((table.columns.toList.filter isRegularColumn).map finalColumn).Nodup := by
  intro dump table
  have tables : (Dump.analyze dump).toList = [table] := by
    rw [Dump.toList_analyze]
    decide +kernel
  have member : table ∈ ({} : Options).kept (Dump.analyze dump).toList := by
    rw [tables]
    decide
  have distinct : ((table.columns.toList.filter isRegularColumn).map Identifier.unquote).Nodup := by
    decide +kernel
  exact ⟨member, distinct, ((regular_names_stay_apart dump {}).2.2.1 table member).2 distinct⟩

/-- Two tables of a dump can end up with one name, and so can two columns of a
table. -/
theorem final_names_meet :
    (¬ forall (dump : String) (options : Options) (schema : String),
      (((options.kept (Dump.analyze dump).toList).filter fun table =>
        options.schemaOf table = schema).map fun table => tableName table.name).Nodup) ∧
      ¬ forall (dump : String) (options : Options) (table : Table),
        table ∈ options.kept (Dump.analyze dump).toList -> table.columns.toList.Nodup ->
          (table.columns.toList.map finalColumn).Nodup := by
  constructor
  · intro always
    have apart := always "CREATE TABLE a_b (\n);\nCREATE TABLE a__b (\n);" {} "public"
    have tables : (Dump.analyze "CREATE TABLE a_b (\n);\nCREATE TABLE a__b (\n);").toList =
        [{ name := "a_b", schema := none }, { name := "a__b", schema := none }] := by
      rw [Dump.toList_analyze]
      decide +kernel
    rw [tables] at apart
    revert apart
    decide +kernel
  · intro always
    let table : Table := { name := "t", schema := none, columns := #["a_b", "\"aB\""] }
    have tables : (Dump.analyze "CREATE TABLE t (\na_b int,\n\"aB\" int\n);").toList = [table] := by
      rw [Dump.toList_analyze]
      decide +kernel
    have member : table ∈ ({} : Options).kept
        (Dump.analyze "CREATE TABLE t (\na_b int,\n\"aB\" int\n);").toList := by
      rw [tables]
      decide
    have apart := always _ {} table member (by decide)
    revert apart
    decide +kernel

end Recase
