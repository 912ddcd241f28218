import Recase.Proofs.Migration.Completeness
import Recase.Proofs.Script.Exclusion

namespace Recase

/-!
# One more excluded table

To exclude one more table should concern this table alone.  But the renaming
of a column names its table only by the new name, and two tables may get the
same one.  So what a plan loses cannot be told from its entries.  It is told
here from the tables: a schema has at most one table of a name, and the entries
which that table contributes stand in one place of the plan.
-/

namespace Options

/-- The options with one more table to drop. -/
def excluding (options : Options) (name : String) : Options :=
  { options with excluded := options.excluded ++ [name] }

variable {options : Options} {name : String} {tables : List Table}

/-! ## The tables that are kept -/

theorem excludes_excluding (other : String) :
    (options.excluding name).excludes other = (options.excludes other || other == name) := by
  rw [Bool.eq_iff_iff, Bool.or_eq_true, beq_iff_eq, excludes, excludes, List.contains_iff_mem,
    List.contains_iff_mem, ← List.mem_singleton]
  exact List.mem_append

/-- Of the tables that were kept all stay but the one of the name. -/
theorem kept_excluding (tables : List Table) :
    (options.excluding name).kept tables =
      (options.kept tables).filter fun table => table.name != name := by
  rw [kept, kept, List.filter_filter]
  apply List.filter_congr
  intro table _
  rw [excludes_excluding, Bool.not_or, Bool.and_comm]
  rfl

theorem kept_excluding_of_apart (apart : forall table, table ∈ options.kept tables ->
    table.name ≠ name) : (options.excluding name).kept tables = options.kept tables := by
  rw [kept_excluding]
  apply List.filter_eq_self.mpr
  intro table kept
  exact bne_iff_ne.mpr (apart table kept)

/-- Among tables of different names the one that is excluded as well is taken
out of its place. -/
theorem kept_excluding_append_cons {earlier later : List Table} {table : Table}
    (distinct : ((earlier ++ table :: later).map Table.name).Nodup) :
    (options.excluding table.name).kept (earlier ++ table :: later) =
      options.kept earlier ++ options.kept later := by
  have others := name_ne_of_nodup distinct
  have early : (options.excluding table.name).kept earlier = options.kept earlier :=
    kept_excluding_of_apart fun other remains =>
      others other (List.mem_append_left _ (List.mem_of_mem_filter remains))
  have late : (options.excluding table.name).kept later = options.kept later :=
    kept_excluding_of_apart fun other remains =>
      others other (List.mem_append_right _ (List.mem_of_mem_filter remains))
  have excluded : (options.excluding table.name).excludes table.name = true := by
    rw [excludes_excluding, beq_self_eq_true, Bool.or_true]
  rw [← early, ← late, Options.kept, List.filter_append, List.filter_cons, excluded]
  rfl

/-- Which tables are kept depends on which names are excluded, but neither on
their order nor on their number. -/
theorem kept_congr {left right : Options}
    (same : forall other, other ∈ left.excluded <-> other ∈ right.excluded)
    (tables : List Table) : left.kept tables = right.kept tables := by
  apply List.filter_congr
  intro table _
  have agrees : left.excludes table.name = right.excludes table.name := by
    rw [Bool.eq_iff_iff, excludes, excludes, List.contains_iff_mem, List.contains_iff_mem]
    exact same table.name
  rw [agrees]

end Options

/-! ## The plan -/

/-- The renamings of the tables but one are those that do not start from its
name. -/
theorem filterMap_rename?_filter (options : Options) (name : String) (tables : List Table) :
    (tables.filter fun table => table.name != name).filterMap (Table.rename? options) =
      (tables.filterMap (Table.rename? options)).filter fun rename => rename.source != name := by
  rw [List.filterMap_filter, List.filter_filterMap]
  apply List.filterMap_congr
  intro table _
  cases renamed : table.rename? options with
  | none => rw [ite_self]; rfl
  | some rename => rw [← source_of_rename? renamed]; rfl

/-- A plan depends on which names are excluded, and lists the drops as they
are given. -/
theorem Plan.ofSchema_excluded_congr (schema : Schema) {options : Options} {names : List String}
    (same : forall other, other ∈ names <-> other ∈ options.excluded) :
    Plan.ofSchema schema { options with excluded := names } =
      { Plan.ofSchema schema options with drops := names } := by
  have kept : Options.kept { options with excluded := names } schema.toList =
      options.kept schema.toList := Options.kept_congr same schema.toList
  unfold Plan.ofSchema
  rw [kept]
  rfl

/-- To exclude a table that is not kept changes the drops only. -/
theorem Plan.ofSchema_excluding_of_apart {schema : Schema} {options : Options} {name : String}
    (apart : forall table, table ∈ options.kept schema.toList -> table.name ≠ name) :
    Plan.ofSchema schema (options.excluding name) =
      { Plan.ofSchema schema options with drops := options.excluded ++ [name] } := by
  unfold Plan.ofSchema
  rw [Options.kept_excluding_of_apart apart]
  rfl

/-- To exclude a table that is kept takes the renamings of its columns away
from between those of the tables before and after it. -/
theorem Plan.columnRenames_excluding {schema : Schema} {options : Options}
    {earlier later : List Table} {table : Table}
    (distinct : (schema.toList.map Table.name).Nodup)
    (split : schema.toList = earlier ++ table :: later)
    (kept : options.excludes table.name = false) :
    let plan := Plan.ofSchema schema options
    let fewer := Plan.ofSchema schema (options.excluding table.name)
    let columnRenames := fun tables =>
      (options.kept tables).flatMap (Table.columnRenames options)
    plan.columnRenames =
        columnRenames earlier ++ table.columnRenames options ++ columnRenames later ∧
      fewer.columnRenames = columnRenames earlier ++ columnRenames later ∧
      plan.processed = fewer.processed + 1 := by
  intro plan fewer columnRenames
  rw [split] at distinct
  have before := kept_append_cons kept earlier later
  have after : (options.excluding table.name).kept (earlier ++ table :: later) =
      options.kept earlier ++ options.kept later :=
    Options.kept_excluding_append_cons distinct
  rw [← split] at before after
  refine ⟨?_, ?_, ?_⟩
  · change (options.kept schema.toList).flatMap (Table.columnRenames options) = _
    rw [before, List.flatMap_append, List.flatMap_cons, List.append_assoc]
  · change ((options.excluding table.name).kept schema.toList).flatMap
      (Table.columnRenames options) = _
    rw [after, List.flatMap_append]
  · change (options.kept schema.toList).length =
      ((options.excluding table.name).kept schema.toList).length + 1
    rw [before, after, List.length_append, List.length_append, List.length_cons]
    rfl

/-- To exclude one more table adds one drop to the plan of a dump and takes
away what the table contributes.  The one renaming that starts from its name
goes, if there is one, and the renamings of its columns go from the place
where they stand between those of the tables before and after it.  All else
stays, also if the table is not in the dump or was excluded before.  Apart from
the drops the order and the number of the excluded names do not matter. -/
theorem excluding_removes_one_table (dump : String) (options : Options) (name : String) :
    let tables := (Dump.analyze dump).toList
    let plan := Plan.ofSchema (Dump.analyze dump) options
    let fewer := Plan.ofSchema (Dump.analyze dump) (options.excluding name)
    let columnRenames := fun tables =>
      (options.kept tables).flatMap (Table.columnRenames options)
    fewer.drops = plan.drops ++ [name] ∧
      fewer.tableRenames = plan.tableRenames.filter (fun rename => rename.source != name) ∧
      (plan.tableRenames.map TableRename.source).Nodup ∧
      ((Exists fun earlier => Exists fun table => Exists fun later =>
          tables = earlier ++ table :: later ∧ table.name = name ∧
            options.excludes name = false ∧
            plan.columnRenames =
              columnRenames earlier ++ table.columnRenames options ++ columnRenames later ∧
            fewer.columnRenames = columnRenames earlier ++ columnRenames later ∧
            plan.processed = fewer.processed + 1) ∨
        ¬(name ∈ tables.map Table.name ∧ options.excludes name = false) ∧
          fewer.columnRenames = plan.columnRenames ∧ fewer.processed = plan.processed) ∧
      forall names, (forall other, other ∈ names <-> other ∈ options.excluded) ->
        Plan.ofSchema (Dump.analyze dump) { options with excluded := names } =
          { plan with drops := names } := by
  intro tables plan fewer columnRenames
  have distinct : (tables.map Table.name).Nodup := Dump.nodup_names_analyze dump
  refine ⟨rfl, ?_, ?_, ?_, ?_⟩
  · change ((options.excluding name).kept tables).filterMap (Table.rename? options) = _
    rw [Options.kept_excluding]
    exact filterMap_rename?_filter options name (options.kept tables)
  · apply nodup_sources
    exact distinct.sublist (List.filter_sublist.map Table.name)
  · by_cases keeps : name ∈ tables.map Table.name ∧ options.excludes name = false
    · rcases keeps with ⟨listed, kept⟩
      rcases List.mem_map.mp listed with ⟨table, member, rfl⟩
      rcases List.append_of_mem member with ⟨earlier, later, split⟩
      exact Or.inl ⟨earlier, table, later, split, rfl, kept,
        Plan.columnRenames_excluding distinct split kept⟩
    · have apart (table : Table) (remains : table ∈ options.kept tables) : table.name ≠ name := by
        intro named
        rcases List.mem_filter.mp remains with ⟨listed, kept⟩
        rw [named] at kept
        exact keeps ⟨List.mem_map.mpr ⟨table, listed, named⟩, by simpa using kept⟩
      have same : fewer = { plan with drops := options.excluded ++ [name] } :=
        Plan.ofSchema_excluding_of_apart apart
      refine Or.inr ⟨keeps, ?_, ?_⟩
      · rw [same]
      · rw [same]
  · intro names same
    exact Plan.ofSchema_excluded_congr (Dump.analyze dump) same

/-- Of two tables that get the same new name the one that is not excluded keeps
the renaming of its column. -/
example :
    let tables : List Table := ["a_b", "a__b"].map fun name =>
      { name := name, schema := none, columns := #["x_y"] }
    let renames := fun options : Options =>
      (options.kept tables).flatMap (Table.columnRenames options)
    renames {} = [⟨"public", "aB", "x_y", "xY"⟩, ⟨"public", "aB", "x_y", "xY"⟩] ∧
      renames { excluded := ["eventManagers", "a_b"] } = [⟨"public", "aB", "x_y", "xY"⟩] := by
  decide +kernel

end Recase
