import Recase.Plan
import Recase.Proofs.Dump.Blocks

namespace Recase

/-!
# Tables that are declared more than once

A schema keeps one table for every name, whatever schema the declarations of
the name are in.  Of several headers with one name only the last one is
planned for, and a table of this name that an earlier header put into another
schema is left out of the plan.
-/

namespace Dump

/-- Whether a header is the last one of its name. -/
def LastOfName (headers : List Header) (last : Header) : Prop :=
  Exists fun before => Exists fun after => headers = before ++ last :: after ∧
    forall later, later ∈ after -> later.table.name ≠ last.table.name

/-- Every name among the headers has a last header. -/
theorem exists_lastOfName {headers : List Header} {header : Header} (member : header ∈ headers) :
    Exists fun last => LastOfName headers last ∧ last.table.name = header.table.name := by
  have found : (headers.findRev? fun other =>
      other.table.name == header.table.name).isSome = true := by
    rw [List.findRev?_eq_find?_reverse, List.find?_isSome]
    exact ⟨header, List.mem_reverse.mpr member, beq_self_eq_true _⟩
  rcases Option.isSome_iff_exists.mp found with ⟨last, located⟩
  rcases Schema.findRev?_eq_some_iff_append.mp located with
    ⟨carries, before, after, split, others⟩
  have named : last.table.name = header.table.name := beq_iff_eq.mp carries
  refine ⟨last, ⟨before, after, split, ?_⟩, named⟩
  intro later behind
  rw [named]
  exact beq_eq_false_iff_ne.mp (others later behind)

/-- The table that remains under a name is that of the last header of the
name. -/
theorem exists_lastNamed_declared {lines : List (List Char)} {last : Header}
    (final : LastOfName (lines.filterMap header?) last) :
    Exists fun table => Schema.lastNamed (declared lines) last.table.name = some table ∧
      table.name = last.table.name ∧ table.schema = last.table.schema := by
  rcases final with ⟨before, after, split, others⟩
  have pairs := names_declared lines
  rw [split, List.map_append, List.map_cons] at pairs
  rcases List.map_eq_append_iff.mp pairs with ⟨early, rest, cut, _, restPairs⟩
  rcases List.map_eq_cons_iff.mp restPairs with ⟨table, late, restCut, same, latePairs⟩
  have name : table.name = last.table.name := congrArg Prod.fst same
  have schema : table.schema = last.table.schema := congrArg Prod.snd same
  refine ⟨table, Schema.lastNamed_eq_some_iff.mpr ⟨early, late, ?_, name, ?_⟩, name, schema⟩
  · rw [cut, restCut]
  · intro other behind
    have listed : (other.name, other.schema) ∈ after.map fun header =>
        (header.table.name, header.table.schema) := by
      rw [← latePairs]
      exact List.mem_map_of_mem behind
    rcases List.mem_map.mp listed with ⟨later, present, equal⟩
    have sameName : later.table.name = other.name := congrArg Prod.fst equal
    rw [← sameName]
    exact others later present

end Dump

/-! ## The renaming of one table -/

section Renames

variable {options : Options}

theorem source_of_rename? {table : Table} {rename : TableRename}
    (renamed : table.rename? options = some rename) : rename.source = table.name := by
  unfold Table.rename? at renamed
  split at renamed
  · cases renamed
    rfl
  · cases renamed

theorem tableRenames_of_other {tables : List Table} {name : String}
    (apart : forall table, table ∈ tables -> table.name ≠ name) :
    ((options.kept tables).filterMap (Table.rename? options)).filter
      (fun rename => rename.source == name) = [] := by
  apply List.filter_eq_nil_iff.mpr
  intro rename planned carries
  rcases List.mem_filterMap.mp planned with ⟨table, kept, renamed⟩
  apply apart table (List.mem_of_mem_filter kept)
  rw [← source_of_rename? renamed]
  exact beq_iff_eq.mp carries

/-- Among tables of different names the others do not have the name of one of
them. -/
theorem name_ne_of_nodup {before after : List Table} {table : Table}
    (distinct : ((before ++ table :: after).map Table.name).Nodup) :
    forall other, other ∈ before ++ after -> other.name ≠ table.name := by
  rw [List.map_append, List.map_cons, List.nodup_middle, ← List.map_append] at distinct
  intro other listed same
  exact (List.nodup_cons.mp distinct).1 (List.mem_map.mpr ⟨other, listed, same⟩)

theorem kept_append_cons {table : Table} (kept : options.excludes table.name = false)
    (before after : List Table) :
    options.kept (before ++ table :: after) =
      options.kept before ++ table :: options.kept after := by
  rw [Options.kept, List.filter_append, List.filter_cons, kept]
  rfl

/-- Among tables of different names the renaming of one of them is the only
one that starts from its name. -/
theorem tableRenames_of_name {tables : List Table} (distinct : (tables.map Table.name).Nodup)
    {table : Table} (member : table ∈ tables) (kept : options.excludes table.name = false)
    (snake : isSnake table.name = true) :
    ((options.kept tables).filterMap (Table.rename? options)).filter
        (fun rename => rename.source == table.name) =
      [⟨options.schemaOf table, table.name, camelCase table.name⟩] := by
  rcases List.append_of_mem member with ⟨before, after, split⟩
  rw [split] at distinct
  have others := name_ne_of_nodup distinct
  have early : ((options.kept before).filterMap (Table.rename? options)).filter
      (fun rename => rename.source == table.name) = [] :=
    tableRenames_of_other fun other listed => others other (List.mem_append_left _ listed)
  have late : ((options.kept after).filterMap (Table.rename? options)).filter
      (fun rename => rename.source == table.name) = [] :=
    tableRenames_of_other fun other listed => others other (List.mem_append_right _ listed)
  have renamed : table.rename? options =
      some ⟨options.schemaOf table, table.name, camelCase table.name⟩ := if_pos snake
  rw [split, kept_append_cons kept, List.filterMap_append, List.filterMap_cons_some renamed,
    List.filter_append, early, List.nil_append, List.filter_cons, late, beq_self_eq_true, if_pos rfl]

end Renames

/-! ## The schema that is planned for -/

theorem tableRenames_of_lastOfName {dump : String} {options : Options} {last : Dump.Header}
    (final : Dump.LastOfName ((Text.lines dump).filterMap Dump.header?) last)
    (snake : isSnake last.table.name = true) (kept : options.excludes last.table.name = false) :
    (Plan.ofSchema (Dump.analyze dump) options).tableRenames.filter
        (fun rename => rename.source == last.table.name) =
      [⟨options.schemaOf last.table, last.table.name, camelCase last.table.name⟩] := by
  rcases Dump.exists_lastNamed_declared final with ⟨table, found, name, schema⟩
  have listed : table ∈ (Dump.analyze dump).toList := by
    rw [Dump.toList_analyze]
    apply List.mem_filterMap.mpr
    refine ⟨last.table.name, Schema.mem_distinctNames.mpr ?_, found⟩
    exact List.mem_map.mpr ⟨table, Schema.mem_of_lastNamed found, name⟩
  have sameSchema : options.schemaOf table = options.schemaOf last.table := by
    unfold Options.schemaOf
    rw [schema]
  rw [← name] at kept snake ⊢
  rw [← sameSchema]
  exact tableRenames_of_name (Dump.nodup_names_analyze dump) listed kept snake

/-- The plan of a dump has one table rename for every name that has an
underscore and is not excluded.  The rename is in the schema of the last
header of the name, and for another header of the name there is one in its
own schema exactly if this is the same. -/
theorem plan_follows_last_header (dump : String) (options : Options) {header : Dump.Header}
    (declares : header ∈ (Text.lines dump).filterMap Dump.header?)
    (snake : isSnake header.table.name = true)
    (kept : options.excludes header.table.name = false) :
    let renames := (Plan.ofSchema (Dump.analyze dump) options).tableRenames
    Exists fun last =>
      Dump.LastOfName ((Text.lines dump).filterMap Dump.header?) last ∧
        last.table.name = header.table.name ∧
        renames.filter (fun rename => rename.source == header.table.name) =
          [⟨options.schemaOf last.table, header.table.name, camelCase header.table.name⟩] ∧
        ((Exists fun rename => rename ∈ renames ∧ rename.source = header.table.name ∧
            rename.schema = options.schemaOf header.table) ↔
          options.schemaOf last.table = options.schemaOf header.table) := by
  intro renames
  rcases Dump.exists_lastOfName declares with ⟨last, final, named⟩
  rw [← named] at snake kept ⊢
  have only : renames.filter (fun rename => rename.source == last.table.name) =
      [⟨options.schemaOf last.table, last.table.name, camelCase last.table.name⟩] :=
    tableRenames_of_lastOfName final snake kept
  have planned (rename : TableRename) : (rename ∈ renames ∧ rename.source = last.table.name) ↔
      rename = ⟨options.schemaOf last.table, last.table.name, camelCase last.table.name⟩ := by
    have selected : rename ∈ renames.filter (fun rename => rename.source == last.table.name) ↔
        rename ∈ renames ∧ (rename.source == last.table.name) = true := List.mem_filter
    rw [only, List.mem_singleton, beq_iff_eq] at selected
    exact selected.symm
  refine ⟨last, final, rfl, only, ?_⟩
  constructor
  · rintro ⟨rename, listed, source, there⟩
    rw [(planned rename).mp ⟨listed, source⟩] at there
    exact there
  · intro same
    rcases (planned _).mpr rfl with ⟨listed, source⟩
    exact ⟨_, listed, source, same⟩

/-- Two headers put tables of one name into two schemas. -/
theorem plan_follows_last_of_two_headers :
    let dump := "CREATE TABLE a.x_y (\n);\nCREATE TABLE b.x_y (\n);"
    let options : Options := {}
    let header : Dump.Header := { schema := some ['a'], name := ['x', '_', 'y'] }
    let renames := (Plan.ofSchema (Dump.analyze dump) options).tableRenames
    (header ∈ (Text.lines dump).filterMap Dump.header? ∧ isSnake header.table.name = true ∧
        options.excludes header.table.name = false) ∧
      Exists fun last =>
        Dump.LastOfName ((Text.lines dump).filterMap Dump.header?) last ∧
          last.table.name = header.table.name ∧
          renames.filter (fun rename => rename.source == header.table.name) =
            [⟨options.schemaOf last.table, header.table.name, camelCase header.table.name⟩] ∧
          ((Exists fun rename => rename ∈ renames ∧ rename.source = header.table.name ∧
              rename.schema = options.schemaOf header.table) ↔
            options.schemaOf last.table = options.schemaOf header.table) := by
  intro dump options header renames
  have declares : header ∈ (Text.lines dump).filterMap Dump.header? := by decide +kernel
  have snake : isSnake header.table.name = true := by decide
  have kept : options.excludes header.table.name = false := by decide
  exact ⟨⟨declares, snake, kept⟩, plan_follows_last_header dump options declares snake kept⟩

/-- A table can be missing from the plan although its header is in the dump. -/
theorem header_left_out_of_plan :
    ¬ forall (dump : String) (options : Options) (header : Dump.Header),
      header ∈ (Text.lines dump).filterMap Dump.header? -> isSnake header.table.name = true ->
        options.excludes header.table.name = false ->
          Exists fun rename =>
            rename ∈ (Plan.ofSchema (Dump.analyze dump) options).tableRenames ∧
              rename.source = header.table.name ∧
              rename.schema = options.schemaOf header.table := by
  intro always
  let dump := "CREATE TABLE a.x_y (\n);\nCREATE TABLE b.x_y (\n);"
  let header : Dump.Header := { schema := some ['a'], name := ['x', '_', 'y'] }
  have tables : (Dump.analyze dump).toList = [{ name := "x_y", schema := some "b" }] := by
    rw [Dump.toList_analyze]
    decide +kernel
  have planned := always dump {} header (by decide +kernel) (by decide) (by decide)
  unfold Plan.ofSchema at planned
  rw [tables] at planned
  revert planned
  decide +kernel

end Recase
