import Recase.Proofs.CamelCase
import Recase.Proofs.Dump.Blocks
import Recase.Proofs.Migration.Catalog

namespace Recase

/-!
# Carrying out a plan

A plan is carried out on the catalog that the dump describes.  If no two
tables that remain meet in one place, and no two columns of a table in one
name, then every statement is admitted when its turn comes, and every table
ends up where it belongs.

Each phase goes through the tables that remain, in their order.  Halfway
through, the tables that have been treated have their new entries and the
others still have their old ones.  A new name has no underscore and an old
name that is replaced has one, so that the two can only meet where two final
names meet.
-/

/-- The name that a column has after the migration. -/
def columnName (column : String) : String :=
  if renamesColumn column then camelCase column else column

namespace Options

variable (options : Options)

/-! ## Where the tables are, and where they go -/

/-- Whether a table of the dump is dropped.  An excluded table of another
schema is not, since the drops look in the schema of the options only. -/
def drops (table : Table) : Bool :=
  options.excludes table.name && options.schemaOf table == options.schema

def remaining (tables : List Table) : List Table :=
  tables.filter fun table => !options.drops table

def moves (table : Table) : Bool :=
  !options.excludes table.name && isSnake table.name

def sourcePlace (table : Table) : Place :=
  ⟨options.schemaOf table, table.name⟩

def targetPlace (table : Table) : Place :=
  ⟨options.schemaOf table,
    if options.excludes table.name then table.name else tableName table.name⟩

def targetColumns (table : Table) : List String :=
  if options.excludes table.name then table.columns.toList
  else table.columns.toList.map columnName

/-- The catalog that a dump describes. -/
def sourceCatalog (tables : List Table) : Catalog :=
  Catalog.ofEntries (tables.map fun table => (options.sourcePlace table, table.columns.toList))

/-- The catalog that the migration is meant to lead to: the tables that are
not dropped, with their new names and columns. -/
def targetCatalog (tables : List Table) : Catalog :=
  Catalog.ofEntries ((options.remaining tables).map fun table =>
    (options.targetPlace table, options.targetColumns table))

variable {options}

theorem targetPlace_of_moves {table : Table} (moving : options.moves table = true) :
    options.targetPlace table = ⟨options.schemaOf table, camelCase table.name⟩ := by
  have parts := Bool.and_eq_true_iff.mp moving
  have kept : options.excludes table.name = false := by simpa using parts.1
  rw [targetPlace, kept, tableName_of_isSnake parts.2]
  rfl

theorem targetPlace_of_stays {table : Table} (staying : options.moves table = false) :
    options.targetPlace table = options.sourcePlace table := by
  unfold targetPlace sourcePlace
  cases excluded : options.excludes table.name with
  | true => rfl
  | false =>
      rw [moves, excluded, Bool.not_false, Bool.true_and] at staying
      rw [tableName_of_not_isSnake staying]
      rfl

theorem sourcePlace_ne {table other : Table} (named : other.name ≠ table.name) :
    options.sourcePlace other ≠ options.sourcePlace table :=
  fun same => named (congrArg Place.table same)

/-- Nothing moves to the place of a table that is still to be moved. -/
theorem targetPlace_ne_sourcePlace {table other : Table} (moving : options.moves table = true)
    (named : other.name ≠ table.name) :
    options.targetPlace other ≠ options.sourcePlace table := by
  cases moved : options.moves other with
  | false =>
      rw [targetPlace_of_stays moved]
      exact sourcePlace_ne named
  | true =>
      rw [targetPlace_of_moves moved]
      intro same
      have snake := (Bool.and_eq_true_iff.mp moving).2
      exact ne_camelCase_of_isSnake snake other.name (congrArg Place.table same).symm

/-- A table that stands in the way of another one does not move out of it. -/
theorem sourcePlace_ne_targetPlace {table other : Table} (moving : options.moves table = true)
    (apart : options.targetPlace other ≠ options.targetPlace table) :
    options.sourcePlace other ≠ options.targetPlace table := by
  intro same
  rw [targetPlace_of_moves moving] at same apart
  have plain : isSnake other.name = false := by
    have named : other.name = camelCase table.name := congrArg Place.table same
    rw [named]
    exact isSnake_camelCase table.name
  have stays : options.moves other = false := by
    rw [moves, plain, Bool.and_false]
  rw [targetPlace_of_stays stays] at apart
  exact apart same

end Options

/-! ## The statements of each table -/

theorem flatMap_filter_ite {Item Step : Type} (items : List Item) (chosen : Item -> Bool)
    (work : Item -> List Step) :
    (items.filter chosen).flatMap work =
      items.flatMap fun item => if chosen item then work item else [] := by
  induction items with
  | nil => rfl
  | cons item items inductionHypothesis =>
      rw [List.flatMap_cons, ← inductionHypothesis, List.filter_cons]
      cases chosen item <;> rfl

namespace Options

variable (options : Options)

/-- The statement that renames a table, if it gets another name. -/
def tableSteps (table : Table) : List Statement :=
  if !options.excludes table.name then (table.rename? options).toList.map Statement.renameTable
  else []

/-- The statements that rename the columns of a table, if it is kept. -/
def columnSteps (table : Table) : List Statement :=
  if !options.excludes table.name then (table.columnRenames options).map Statement.renameColumn
  else []

/-- Only tables that remain are kept. -/
theorem kept_remaining (tables : List Table) :
    options.kept (options.remaining tables) = options.kept tables := by
  rw [kept, kept, remaining, List.filter_filter]
  apply List.filter_congr
  intro table _
  unfold drops
  cases options.excludes table.name <;> rfl

/-- The statements of a plan, table by table.  Tables that do not remain
contribute nothing but their drop. -/
theorem statements_ofSchema (schema : Schema) :
    (Plan.ofSchema schema options).statements options.schema =
      options.excluded.map (Statement.dropTable options.schema) ++
        (options.remaining schema.toList).flatMap options.tableSteps ++
        (options.remaining schema.toList).flatMap options.columnSteps := by
  unfold Plan.statements Plan.ofSchema
  simp only [← options.kept_remaining schema.toList]
  congr 1
  · congr 1
    rw [List.filterMap_eq_flatMap_toList, List.map_flatMap, kept, flatMap_filter_ite]
    rfl
  · rw [List.map_flatMap, kept, flatMap_filter_ite]
    rfl

variable {options}

theorem tableSteps_of_stays {table : Table} (staying : options.moves table = false) :
    options.tableSteps table = [] := by
  unfold moves at staying
  unfold tableSteps Table.rename?
  cases excluded : options.excludes table.name with
  | true => rfl
  | false =>
      rw [excluded, Bool.not_false, Bool.true_and] at staying
      rw [staying]
      rfl

theorem tableSteps_of_moves {table : Table} (moving : options.moves table = true) :
    options.tableSteps table =
      [.renameTable ⟨options.schemaOf table, table.name, camelCase table.name⟩] := by
  have parts := Bool.and_eq_true_iff.mp moving
  rw [tableSteps, if_pos parts.1, Table.rename?, if_pos parts.2]
  rfl

theorem columnSteps_of_kept {table : Table} (kept : options.excludes table.name = false) :
    options.columnSteps table = (table.columns.toList.filter renamesColumn).map fun column =>
      .renameColumn ⟨options.schemaOf table, tableName table.name, column, camelCase column⟩ := by
  rw [columnSteps, kept, Table.columnRenames, List.map_map]
  rfl

end Options

/-! ## The final names of columns -/

theorem columnName_of_plain {column : String} (plain : isSnake column = false) :
    columnName column = column := by
  rw [columnName, renamesColumn, plain]
  rfl

/-- A column that is renamed has a name that no column ends up with. -/
theorem columnName_ne_of_renames {column : String} (renamed : renamesColumn column = true)
    (other : String) : columnName other ≠ column := by
  unfold columnName
  cases otherRenamed : renamesColumn other with
  | true =>
      have snake := (Bool.and_eq_true_iff.mp renamed).1
      exact (ne_camelCase_of_isSnake snake other).symm
  | false =>
      intro same
      rw [if_neg Bool.false_ne_true] at same
      rw [same, renamed] at otherRenamed
      cases otherRenamed

/-! ## Halfway through a phase -/

namespace Options

variable (options : Options)

/-- The entries halfway through the table phase. -/
def halfMoved (done todo : List Table) : List (Place × List String) :=
  done.map (fun table => (options.targetPlace table, table.columns.toList)) ++
    todo.map fun table => (options.sourcePlace table, table.columns.toList)

/-- The entries halfway through the column phase. -/
def halfRenamed (done todo : List Table) : List (Place × List String) :=
  done.map (fun table => (options.targetPlace table, options.targetColumns table)) ++
    todo.map fun table => (options.targetPlace table, table.columns.toList)

variable {options}

theorem not_mem_halfMoved {done todo : List Table} {place : Place}
    (target : forall table, table ∈ done ++ todo -> options.targetPlace table ≠ place)
    (source : forall table, table ∈ done ++ todo -> options.sourcePlace table ≠ place) :
    place ∉ (options.halfMoved done todo).map Prod.fst := by
  intro member
  rw [halfMoved, List.map_append, List.map_map, List.map_map] at member
  rcases List.mem_append.mp member with before | behind
  · rcases List.mem_map.mp before with ⟨table, listed, same⟩
    exact target table (List.mem_append_left _ listed) same
  · rcases List.mem_map.mp behind with ⟨table, listed, same⟩
    exact source table (List.mem_append_right _ listed) same

end Options

/-! ## The three phases -/

namespace Catalog

variable {options : Options}

/-- Dropping tables one after another takes away the entries of all. -/
theorem runAll?_drops (names : List String) (schema : String)
    (entries : List (Place × List String)) :
    (ofEntries entries).runAll? (names.map (Statement.dropTable schema)) =
      some (ofEntries (entries.filter fun entry =>
        !(names.contains entry.1.table && entry.1.schema == schema))) := by
  induction names generalizing entries with
  | nil =>
      simp only [List.map_nil, runAll?_nil, List.contains_nil, Bool.false_and, Bool.not_false,
        List.filter_true]
  | cons name names inductionHypothesis =>
      rw [List.map_cons, ← List.singleton_append, runAll?_append, runAll?_singleton,
        run?_dropTable, Option.bind_some, inductionHypothesis, List.filter_filter]
      congr 2
      apply List.filter_congr
      intro entry _
      rcases entry with ⟨⟨there, table⟩, columns⟩
      have decided : decide ((⟨there, table⟩ : Place) ≠ ⟨schema, name⟩) =
          !(table == name && there == schema) := by
        rw [Bool.eq_iff_iff]
        simp [or_comm]
      rw [List.contains_cons, decided]
      cases table == name <;> cases there == schema <;> cases names.contains table <;> rfl

/-- The columns of one table.  A column that is done has its final name, and
the final names are different. -/
theorem runAll?_columnRenames {early : List (Place × List String)} {schema table : String}
    (first : (⟨schema, table⟩ : Place) ∉ early.map Prod.fst)
    (late : List (Place × List String)) (columns : List String)
    (distinct : (columns.map columnName).Nodup) :
    (ofEntries (early ++ (⟨schema, table⟩, columns) :: late)).runAll?
        ((columns.filter renamesColumn).map fun column =>
          .renameColumn ⟨schema, table, column, camelCase column⟩) =
      some (ofEntries (early ++ (⟨schema, table⟩, columns.map columnName) :: late)) := by
  rw [List.map_eq_flatMap, flatMap_filter_ite]
  have swept := runAll?_flatMap columns
    (fun done todo =>
      ofEntries (early ++ (⟨schema, table⟩, done.map columnName ++ todo) :: late))
    (fun column =>
      if renamesColumn column then [.renameColumn ⟨schema, table, column, camelCase column⟩]
      else [])
  simp only [List.map_nil, List.nil_append, List.append_nil] at swept
  apply swept
  intro done column todo split
  rw [split, List.map_append, List.map_cons, List.nodup_middle, ← List.map_append] at distinct
  have apart := (List.nodup_cons.mp distinct).1
  rw [List.map_append, List.map_cons, List.map_nil, List.append_assoc, List.singleton_append]
  cases renamed : renamesColumn column with
  | false =>
      rw [columnName, renamed]
      rfl
  | true =>
      have named : columnName column = camelCase column := if_pos renamed
      rw [named] at apart ⊢
      have alone : column ∉ done.map columnName ++ todo := by
        intro member
        rcases List.mem_append.mp member with before | behind
        · rcases List.mem_map.mp before with ⟨other, _, same⟩
          exact columnName_ne_of_renames renamed other same
        · apply apart
          exact List.mem_map.mpr ⟨column, List.mem_append_right _ behind, named⟩
      have free : camelCase column ∉ done.map columnName ++ todo := by
        intro member
        apply apart
        rcases List.mem_append.mp member with before | behind
        · rw [List.map_append]
          exact List.mem_append_left _ before
        · apply List.mem_map.mpr
          exact ⟨camelCase column, List.mem_append_right _ behind,
            columnName_of_plain (isSnake_camelCase column)⟩
      have differs : column ≠ camelCase column := by
        rw [← named]
        exact (columnName_ne_of_renames renamed column).symm
      rw [if_pos rfl, runAll?_singleton]
      exact run?_renameColumn first late alone free differs

/-- The table phase.  A table that is done has its final place, and the final
places are different. -/
theorem runAll?_tableSteps (tables : List Table)
    (named : (tables.map Table.name).Nodup) (placed : (tables.map options.targetPlace).Nodup) :
    (ofEntries (options.halfMoved [] tables)).runAll? (tables.flatMap options.tableSteps) =
      some (ofEntries (options.halfMoved tables [])) := by
  apply runAll?_flatMap tables (fun done todo => ofEntries (options.halfMoved done todo))
    options.tableSteps
  intro done table todo split
  rw [split, List.map_append, List.map_cons, List.nodup_middle, ← List.map_append] at named placed
  have nameApart := (List.nodup_cons.mp named).1
  have placeApart := (List.nodup_cons.mp placed).1
  cases moving : options.moves table with
  | false =>
      have same : options.halfMoved (done ++ [table]) todo =
          options.halfMoved done (table :: todo) := by
        rw [Options.halfMoved, Options.halfMoved, List.map_append, List.map_cons, List.map_cons,
          List.map_nil, List.append_assoc, List.singleton_append,
          Options.targetPlace_of_stays moving]
      rw [Options.tableSteps_of_stays moving, same]
      rfl
  | true =>
      have otherName : forall other, other ∈ done ++ todo -> other.name ≠ table.name :=
        fun other member same => nameApart (List.mem_map.mpr ⟨other, member, same⟩)
      have otherPlace : forall other, other ∈ done ++ todo ->
          options.targetPlace other ≠ options.targetPlace table :=
        fun other member same => placeApart (List.mem_map.mpr ⟨other, member, same⟩)
      -- No other table is at the old place or at the new one, whether it is done or not.
      have alone : options.sourcePlace table ∉ (options.halfMoved done todo).map Prod.fst :=
        Options.not_mem_halfMoved
          (fun other member => Options.targetPlace_ne_sourcePlace moving (otherName other member))
          (fun other member => Options.sourcePlace_ne (otherName other member))
      have free : options.targetPlace table ∉ (options.halfMoved done todo).map Prod.fst :=
        Options.not_mem_halfMoved otherPlace
          (fun other member =>
            Options.sourcePlace_ne_targetPlace moving (otherPlace other member))
      have snake := (Bool.and_eq_true_iff.mp moving).2
      rw [Options.tableSteps_of_moves moving, runAll?_singleton, Options.halfMoved,
        Options.halfMoved, List.map_append, List.map_cons, List.map_cons, List.map_nil,
        List.append_assoc, List.singleton_append]
      rw [Options.targetPlace_of_moves moving] at free ⊢
      exact run?_renameTable table.columns.toList alone free
        (ne_camelCase_of_isSnake snake table.name)

/-- The column phase.  The tables keep their places, and only the columns of
one table change at a time. -/
theorem runAll?_columnSteps (tables : List Table)
    (placed : (tables.map options.targetPlace).Nodup)
    (distinct : forall table, table ∈ options.kept tables ->
      (table.columns.toList.map columnName).Nodup) :
    (ofEntries (options.halfRenamed [] tables)).runAll? (tables.flatMap options.columnSteps) =
      some (ofEntries (options.halfRenamed tables [])) := by
  apply runAll?_flatMap tables (fun done todo => ofEntries (options.halfRenamed done todo))
    options.columnSteps
  intro done table todo split
  rw [Options.halfRenamed, Options.halfRenamed, List.map_append, List.map_cons, List.map_cons,
    List.map_nil, List.append_assoc, List.singleton_append]
  cases excluded : options.excludes table.name with
  | true =>
      rw [Options.columnSteps, Options.targetColumns, excluded]
      rfl
  | false =>
      have member : table ∈ options.kept tables := by
        apply List.mem_filter.mpr
        rw [split, excluded]
        exact ⟨List.mem_append_right _ List.mem_cons_self, rfl⟩
      have first : options.targetPlace table ∉
          (done.map fun table =>
            (options.targetPlace table, options.targetColumns table)).map Prod.fst := by
        rw [split, List.map_append, List.map_cons, List.nodup_middle] at placed
        rw [List.map_map]
        intro before
        exact (List.nodup_cons.mp placed).1 (List.mem_append_left _ before)
      have place : options.targetPlace table =
          ⟨options.schemaOf table, tableName table.name⟩ := by
        rw [Options.targetPlace, excluded]
        rfl
      have columns : options.targetColumns table = table.columns.toList.map columnName := by
        rw [Options.targetColumns, excluded]
        rfl
      rw [place] at first ⊢
      rw [Options.columnSteps_of_kept excluded, columns]
      exact runAll?_columnRenames first _ _ (distinct table member)

end Catalog

/-! ## The whole plan -/

namespace Options

variable {options : Options}

/-- The three phases after one another, for tables of different names. -/
theorem runAll?_sourceCatalog (schema : Schema)
    (named : (schema.toList.map Table.name).Nodup)
    (placed : ((options.remaining schema.toList).map options.targetPlace).Nodup)
    (distinct : forall table, table ∈ options.kept schema.toList ->
      (table.columns.toList.map columnName).Nodup) :
    (options.sourceCatalog schema.toList).runAll?
        ((Plan.ofSchema schema options).statements options.schema) =
      some (options.targetCatalog schema.toList) := by
  have remainingNamed : ((options.remaining schema.toList).map Table.name).Nodup :=
    named.sublist (List.filter_sublist.map Table.name)
  have dropped : (options.sourceCatalog schema.toList).runAll?
      (options.excluded.map (Statement.dropTable options.schema)) =
        some (options.sourceCatalog (options.remaining schema.toList)) := by
    rw [sourceCatalog, Catalog.runAll?_drops, List.filter_map]
    rfl
  have keptColumns : forall table, table ∈ options.kept (options.remaining schema.toList) ->
      (table.columns.toList.map columnName).Nodup := by
    rw [kept_remaining]
    exact distinct
  have begun : options.sourceCatalog (options.remaining schema.toList) =
      Catalog.ofEntries (options.halfMoved [] (options.remaining schema.toList)) :=
    rfl
  have between : options.halfMoved (options.remaining schema.toList) [] =
      options.halfRenamed [] (options.remaining schema.toList) := by
    rw [halfMoved, halfRenamed, List.map_nil, List.map_nil, List.append_nil, List.nil_append]
  have finished : Catalog.ofEntries (options.halfRenamed (options.remaining schema.toList) []) =
      options.targetCatalog schema.toList := by
    rw [halfRenamed, List.map_nil, List.append_nil]
    rfl
  rw [statements_ofSchema, Catalog.runAll?_append, Catalog.runAll?_append, dropped,
    Option.bind_some, begun, Catalog.runAll?_tableSteps _ remainingNamed placed,
    Option.bind_some, between, Catalog.runAll?_columnSteps _ placed keptColumns, finished]

end Options

/-- Carrying out the plan of a dump migrates the catalog that the dump
describes.  The places of the remaining tables have to be different at the
end, and so have the columns of every kept table.  Then each statement is
admitted when its turn comes.  In the end the remaining tables are at their
new places with their new columns, and there is nothing else. -/
theorem plan_migrates_catalog (dump : String) (options : Options)
    (placed : ((options.remaining (Dump.analyze dump).toList).map options.targetPlace).Nodup)
    (distinct : forall table, table ∈ options.kept (Dump.analyze dump).toList ->
      (table.columns.toList.map columnName).Nodup) :
    let tables := (Dump.analyze dump).toList
    let steps := (Plan.ofSchema (Dump.analyze dump) options).statements options.schema
    (options.sourceCatalog tables).runAll? steps = some (options.targetCatalog tables) ∧
      (forall before step after, steps = before ++ step :: after ->
        Exists fun reached =>
          (options.sourceCatalog tables).runAll? before = some reached ∧ reached.Admits step) ∧
      forall place columns, (options.targetCatalog tables).lookup place = some columns ↔
        Exists fun table => table ∈ options.remaining tables ∧
          options.targetPlace table = place ∧ options.targetColumns table = columns := by
  have named : ((Dump.analyze dump).toList.map Table.name).Nodup := by
    rw [Dump.analyze_eq_ofList]
    exact Schema.nodup_names_ofList _
  have carried := Options.runAll?_sourceCatalog (Dump.analyze dump) named placed distinct
  refine ⟨carried, ?_, ?_⟩
  · intro before step after split
    rw [split] at carried
    exact Catalog.admits_of_runAll? carried
  · intro place columns
    unfold Options.targetCatalog
    rw [Catalog.lookup_ofEntries_eq_some_iff (by rw [List.map_map]; exact placed), List.mem_map]
    simp only [Prod.mk.injEq]

theorem plan_migrates_three_tables :
    let schema := Dump.analyze
      "CREATE TABLE a_b (\nc_d int,\n\"e_f\" int\n);\nCREATE TABLE x.old (\ng_h int\n);\nCREATE TABLE gone ("
    let options : Options := { excluded := ["old", "gone"] }
    (options.sourceCatalog schema.toList).runAll?
        ((Plan.ofSchema schema options).statements options.schema) =
      some (Catalog.ofEntries
        [(⟨"public", "aB"⟩, ["cD", "\"e_f\""]), (⟨"x", "old"⟩, ["g_h"])]) := by
  intro schema options
  have tables : schema.toList =
      [{ name := "a_b", schema := none, columns := #["c_d", "\"e_f\""] },
       { name := "old", schema := some "x", columns := #["g_h"] },
       { name := "gone", schema := none }] := by
    rw [show schema = Schema.ofList _ from Dump.analyze_eq_ofList _, Schema.toList_ofList]
    decide +kernel
  have migrated := plan_migrates_catalog _ options
    (show ((options.remaining schema.toList).map options.targetPlace).Nodup by
      rw [tables]
      decide +kernel)
    (show forall table, table ∈ options.kept schema.toList ->
        (table.columns.toList.map columnName).Nodup by
      rw [tables]
      decide +kernel)
  have target : options.targetCatalog schema.toList =
      Catalog.ofEntries
        [(⟨"public", "aB"⟩, ["cD", "\"e_f\""]), (⟨"x", "old"⟩, ["g_h"])] := by
    rw [tables]
    apply congrArg Catalog.ofEntries
    decide +kernel
  rw [← target]
  exact migrated.1

end Recase
