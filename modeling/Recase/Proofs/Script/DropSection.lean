import Recase.Conversion
import Recase.Proofs.Script.Reading

namespace Recase

/-!
# Drops of names that were not checked

A renaming writes its names so that they are read back whatever they are.  A
drop puts the schema and the table into its text as they are given.  The
conversion of a dump refuses the names for which this is wrong, but a script
can be generated from options that were not checked.  The lemmas below find
the drops in the text of such a script, and say which of them are read back.
-/

namespace Script

/-! ## The part of a script with the drops -/

/-- The line with the title of the drops. -/
def dropTitle : List Char :=
  "-- 1. DROP EXCLUDED TABLES".toList

/-- The lines of a script that stand below the title of the drops and the
banner under it, up to the next blank line. -/
def dropSection (script : String) : List (List Char) :=
  (((Text.pieces '\n' script.toList).dropWhile (· != dropTitle)).drop 2).takeWhile (· != [])

private def aboveDrops (plan : Plan) : List Line :=
  opening plan ++ [.blank, banner]

private def titledDrops (plan : Plan) (schema : String) : List Line :=
  .comment (toString 1 ++ ". " ++ "DROP EXCLUDED TABLES") :: banner ::
    plan.drops.map fun table => .statement (.dropTable schema table)

private theorem exists_lines_eq (plan : Plan) (options : Options) :
    Exists fun rest => lines plan options =
      aboveDrops plan ++ titledDrops plan options.schema ++ .blank :: rest := by
  simp only [lines, parts, numberedParts, Part.numbered, aboveDrops, titledDrops,
    List.append_assoc, List.cons_append, List.nil_append]
  exact ⟨_, rfl⟩

theorem pieces_of_oneLine {lines : List Line} (one : forall line, line ∈ lines -> OneLine line.text) :
    (lines.flatMap fun line => Text.pieces '\n' line.text.toList) =
      lines.map fun line => line.text.toList := by
  rw [List.map_eq_flatMap]
  apply List.flatMap_congr
  intro line member
  exact Text.pieces_of_not_mem (one line member)

theorem oneLine_comment {words : String} (one : OneLine words) :
    OneLine (Line.comment words).text :=
  OneLine.append (oneLine_ofList (by decide)) one

theorem oneLine_dropTable {schema table : String} (schemaOne : OneLine schema)
    (tableOne : OneLine table) : OneLine (Statement.dropTable schema table).sql := by
  rw [sql_dropTable]
  exact ((((oneLine_ofList (by decide)).append schemaOne).append (oneLine_ofList (by decide))).append
    tableOne).append (oneLine_ofList (by decide))

private theorem comment_ne_dropTitle {words : String} (other : words.toList.head? ≠ some '1') :
    (Line.comment words).text.toList ≠ dropTitle := by
  intro same
  rw [Line.text, String.toList_append] at same
  have rest : words.toList = "1. DROP EXCLUDED TABLES".toList := congrArg (List.drop 3) same
  rw [rest] at other
  exact other rfl

variable {plan : Plan} {options : Options}

private theorem oneLine_aboveDrops (plain : forall name, name ∈ plan.drops -> OneLine name) :
    forall line, line ∈ aboveDrops plan -> OneLine line.text ∧ line.text.toList ≠ dropTitle := by
  have listing : OneLine ("Excluded (dropped) tables: " ++ String.intercalate ", " plan.drops) :=
    OneLine.append (oneLine_ofList (by decide))
      (oneLine_intercalate (oneLine_ofList (by decide)) plan.drops plain)
  intro line member
  simp only [aboveDrops, opening, List.cons_append, List.nil_append, List.mem_cons,
    List.not_mem_nil, or_false] at member
  rcases member with generated | dropped | blank | ruled
  · rw [generated]
    exact ⟨oneLine_comment (oneLine_ofList (by decide)), comment_ne_dropTitle (by decide)⟩
  · rw [dropped]
    split
    · exact ⟨oneLine_comment (oneLine_ofList (by decide)), comment_ne_dropTitle (by decide)⟩
    · refine ⟨oneLine_comment listing, comment_ne_dropTitle ?_⟩
      have begins : "Excluded (dropped) tables: ".toList.head? = some 'E' := by decide
      rw [String.toList_append, List.head?_append, begins, Option.some_or]
      decide
  · rw [blank]
    exact ⟨oneLine_ofList (by decide), by decide⟩
  · rw [ruled]
    exact ⟨oneLine_comment (oneLine_ofList (by decide)), comment_ne_dropTitle (by decide)⟩

private theorem oneLine_titledDrops {schema : String} (schemaOne : OneLine schema)
    (plain : forall name, name ∈ plan.drops -> OneLine name) :
    forall line, line ∈ titledDrops plan schema -> OneLine line.text := by
  intro line member
  rcases List.mem_cons.mp member with title | below
  · rw [title]
    exact oneLine_comment (((oneLine_toString 1).append (oneLine_ofList (by decide))).append
      (oneLine_ofList (by decide)))
  · rcases List.mem_cons.mp below with ruled | dropped
    · rw [ruled]
      exact oneLine_comment (oneLine_ofList (by decide))
    · rcases List.mem_map.mp dropped with ⟨name, listed, same⟩
      rw [← same]
      exact oneLine_dropTable schemaOne (plain name listed)

private theorem sql_dropTable_ne_nil (schema table : String) :
    (Statement.dropTable schema table).sql.toList ≠ [] := by
  simp only [sql_dropTable, String.toList_append, ne_eq, List.append_eq_nil_iff]
  rintro ⟨⟨⟨⟨words, _⟩, _⟩, _⟩, _⟩
  exact absurd words (by decide)

/-- The drops are found in the script of a plan if their names stay on their
lines. -/
theorem dropSection_render (schemaOne : OneLine options.schema)
    (plain : forall name, name ∈ plan.drops -> OneLine name) :
    dropSection (render plan options) =
      plan.drops.map fun name => (Statement.dropTable options.schema name).sql.toList := by
  rcases exists_lines_eq plan options with ⟨rest, split⟩
  have above := oneLine_aboveDrops plain
  have cut : Text.pieces '\n' (render plan options).toList =
      (aboveDrops plan).map (fun line => line.text.toList) ++
        ((titledDrops plan options.schema).map (fun line => line.text.toList) ++
          [] :: rest.flatMap fun line => Text.pieces '\n' line.text.toList) := by
    rw [render, pieces_join (lines_ne_nil plan options), split, List.flatMap_append,
      List.flatMap_append, pieces_of_oneLine fun line member => (above line member).1,
      pieces_of_oneLine (oneLine_titledDrops schemaOne plain), List.flatMap_cons,
      List.append_assoc]
    rfl
  have untitled : forall line, line ∈ (aboveDrops plan).map (fun line => line.text.toList) ->
      (line != dropTitle) = true := by
    intro line member
    rcases List.mem_map.mp member with ⟨origin, listed, same⟩
    rw [← same]
    exact bne_iff_ne.mpr (above origin listed).2
  have filled : forall line, line ∈ (plan.drops.map fun name =>
      (Statement.dropTable options.schema name).sql.toList) -> (line != []) = true := by
    intro line member
    rcases List.mem_map.mp member with ⟨name, _, same⟩
    rw [← same]
    exact bne_iff_ne.mpr (sql_dropTable_ne_nil options.schema name)
  have title : (Line.comment (toString 1 ++ ". " ++ "DROP EXCLUDED TABLES")).text.toList =
      dropTitle := by
    decide +kernel
  have drops : (plan.drops.map fun table =>
      Line.statement (.dropTable options.schema table)).map (fun line => line.text.toList) =
        plan.drops.map fun name => (Statement.dropTable options.schema name).sql.toList :=
    List.map_map
  rw [dropSection, cut, List.dropWhile_append_of_pos untitled, titledDrops, List.map_cons,
    List.map_cons, title, drops, List.cons_append, List.dropWhile_cons, bne_self_eq_false,
    if_neg Bool.false_ne_true, List.cons_append, List.drop_succ_cons, List.drop_succ_cons,
    List.drop_zero, List.takeWhile_append_of_pos filled, List.takeWhile_cons, bne_self_eq_false,
    if_neg Bool.false_ne_true, List.append_nil]

/-! ## Which drops are read back -/

theorem eq_of_behind? {words : String} {text rest : List Char}
    (read : behind? words text = some rest) : text = words.toList ++ rest := by
  unfold behind? at read
  split at read
  · rename_i leads
    rcases List.isPrefixOf_iff_prefix.mp leads with ⟨behind, same⟩
    rw [← same, List.drop_left] at read
    cases read
    exact same.symm
  · cases read

theorem eq_of_closed? {Result : Type} {words : String} {text : List Char} {result found : Result}
    (read : closed? words text result = some found) : text = words.toList ∧ result = found := by
  unfold closed? at read
  split at read
  · rename_i ends
    exact ⟨ends, Option.some.inj read⟩
  · cases read

/-- Two names are read if each of them is, with a dot between them. -/
theorem eq_of_qualified? {text rest : List Char} {schema name : String}
    (read : qualified? text = some ((schema, name), rest)) :
    Exists fun behind => Identifier.read? text = some (schema, '.' :: behind) ∧
      Identifier.read? behind = some (name, rest) := by
  rcases Option.bind_eq_some_iff.mp read with ⟨⟨_, dotted⟩, first, later⟩
  rcases Option.bind_eq_some_iff.mp later with ⟨behind, dot, last⟩
  rcases Option.bind_eq_some_iff.mp last with ⟨⟨_, _⟩, second, same⟩
  cases same
  rw [eq_of_behind? dot] at first
  exact ⟨behind, first, second⟩

/-- The text of a drop behind the words that all drops begin with. -/
private def droppedNames (schema table : String) : List Char :=
  schema.toList ++ '.' :: '"' :: table.toList ++ "\" CASCADE;".toList

private theorem qualified?_of_dropTable? {schema table : String}
    (read : dropTable? (Statement.dropTable schema table).sql.toList =
      some (.dropTable schema table)) :
    qualified? (droppedNames schema table) = some ((schema, table), " CASCADE;".toList) := by
  have line : (Statement.dropTable schema table).sql.toList =
      "DROP TABLE IF EXISTS ".toList ++ droppedNames schema table := by
    simp only [sql_dropTable, droppedNames, String.toList_append, List.append_assoc]
    rfl
  rw [line, dropTable?, behind?_append, Option.bind_eq_bind, Option.bind_some] at read
  rcases Option.bind_eq_some_iff.mp read with ⟨⟨⟨_, _⟩, _⟩, names, closed⟩
  rcases eq_of_closed? closed with ⟨ends, same⟩
  cases same
  rw [names, ends]

/-- The schema of a drop is not read as a quoted one: either the dot before the
table or a quote in the schema itself would have to open it. -/
private theorem droppedNames_ne_quote_append {schema : String} (bare : '"' ∉ schema.toList)
    (table : String) (rest : List Char) :
    droppedNames schema table ≠ (Identifier.quote schema).toList ++ rest := by
  intro quoted
  rw [Identifier.toList_quote_of_not_mem bare] at quoted
  cases chars : schema.toList with
  | nil =>
      rw [droppedNames, chars] at quoted
      exact absurd (List.head_eq_of_cons_eq quoted) (by decide)
  | cons head tail =>
      rw [droppedNames, chars] at quoted
      rw [chars, List.head_eq_of_cons_eq quoted] at bare
      exact bare List.mem_cons_self

/-- The line of a drop is read back exactly if the schema is plain and the
table has no quotes. -/
theorem dropTable?_sql_iff (schema table : String) :
    dropTable? (Statement.dropTable schema table).sql.toList = some (.dropTable schema table) ↔
      Identifier.isPlain schema = true ∧ '"' ∉ table.toList := by
  constructor
  · intro read
    rcases eq_of_qualified? (qualified?_of_dropTable? read) with ⟨text, readSchema, readTable⟩
    -- A quoted name takes two characters more than a bare one, and one more for every quote
    -- in it.  The line has room for one quoted name without quotes.
    have room : (droppedNames schema table).length =
        schema.toList.length + table.toList.length + 12 := by
      have words : "\" CASCADE;".toList.length = 10 := by decide
      simp only [droppedNames, List.length_append, List.length_cons, words]
      omega
    have behind : text.length = table.toList.length + 9 ∨
        text.length = table.toList.length + table.toList.count '"' + 11 := by
      have words : " CASCADE;".toList.length = 9 := by decide
      rcases Identifier.eq_of_read? readTable with ⟨_, bare⟩ | quoted
      · left
        rw [bare, List.length_append, words]
      · right
        rw [quoted, List.length_append, Identifier.length_quote, words]
    rcases Identifier.eq_of_read? readSchema with ⟨plain, bare⟩ | quoted
    · rw [bare, List.length_append, List.length_cons] at room
      exact ⟨plain, List.count_eq_zero.mp (by omega)⟩
    · have lengths := room
      rw [quoted, List.length_append, List.length_cons, Identifier.length_quote] at lengths
      have bare : '"' ∉ schema.toList := List.count_eq_zero.mp (by omega)
      exact absurd quoted (droppedNames_ne_quote_append bare table _)
  · rintro ⟨plain, bare⟩
    exact dropTable?_sql plain bare

end Script

/-! ## Scripts of options that were not checked -/

/-- In the script of any schema and any options whose names stay on one line
the lines with the drops are those of the excluded tables, one for each in
their order.  Such a line is a drop of just this table in the schema of the
options if and only if the schema is plain and the name has no quotes. -/
theorem drop_names_excluded_iff (schema : Schema) {options : Options}
    (schemaOne : OneLine options.schema)
    (excludedOne : forall name, name ∈ options.excluded -> OneLine name) :
    let drops := Script.dropSection (generate schema options)
    drops.length = options.excluded.length ∧
      forall (index : Nat) (name : String), options.excluded[index]? = some name ->
        Exists fun line => drops[index]? = some line ∧
          (Script.dropTable? line = some (.dropTable options.schema name) ↔
            Identifier.isPlain options.schema = true ∧ '"' ∉ name.toList) := by
  intro drops
  have texts : drops = options.excluded.map fun name =>
      (Statement.dropTable options.schema name).sql.toList :=
    Script.dropSection_render schemaOne excludedOne
  rw [texts]
  refine ⟨List.length_map .., ?_⟩
  intro index name listed
  refine ⟨(Statement.dropTable options.schema name).sql.toList, ?_, ?_⟩
  · rw [List.getElem?_map, listed, Option.map_some]
  · exact Script.dropTable?_sql_iff options.schema name

/-- Of two names that are not plain the one without quotes is dropped.  In the
place of the other one a table of another name is. -/
theorem drop_names_one_of_two_excluded :
    let options : Options := { schema := "tenant", excluded := ["old users", "old\"\"users"] }
    let drops := Script.dropSection (generate {} options)
    (OneLine options.schema ∧ forall name, name ∈ options.excluded -> OneLine name) ∧
      drops.map Script.dropTable? =
        [some (.dropTable "tenant" "old users"), some (.dropTable "tenant" "old\"users")] ∧
      Exists fun line => drops[1]? = some line ∧
        Script.dropTable? line ≠ some (.dropTable "tenant" "old\"\"users") := by
  intro options drops
  have schemaOne : OneLine options.schema := by decide
  have excludedOne : forall name, name ∈ options.excluded -> OneLine name := by decide
  have texts : drops = options.excluded.map fun name =>
      (Statement.dropTable options.schema name).sql.toList :=
    Script.dropSection_render schemaOne excludedOne
  rcases drop_names_excluded_iff {} schemaOne excludedOne with ⟨_, named⟩
  rcases named 1 "old\"\"users" rfl with ⟨second, here, read⟩
  refine ⟨⟨schemaOne, excludedOne⟩, ?_, second, here, ?_⟩
  · rw [texts]
    decide +kernel
  · intro same
    exact (read.mp same).2 (by decide)

/-- The schema of a drop can be one that no reader finds there. -/
theorem drop_names_no_table_in_my_schema :
    ¬ forall (schema : Schema) (options : Options), OneLine options.schema ->
      (forall name, name ∈ options.excluded -> OneLine name) ->
        forall (index : Nat) (name : String), options.excluded[index]? = some name ->
          Exists fun line => (Script.dropSection (generate schema options))[index]? = some line ∧
            Script.dropTable? line = some (.dropTable options.schema name) := by
  intro always
  let options : Options := { schema := "my schema" }
  have schemaOne : OneLine options.schema := by decide
  have excludedOne : forall name, name ∈ options.excluded -> OneLine name := by decide
  rcases always {} options schemaOne excludedOne 0 "eventManagers" rfl with ⟨line, here, read⟩
  have drops : Script.dropSection (generate {} options) =
      [(Statement.dropTable "my schema" "eventManagers").sql.toList] :=
    Script.dropSection_render schemaOne excludedOne
  rw [drops, List.getElem?_cons_zero] at here
  cases here
  exact absurd ((Script.dropTable?_sql_iff _ _).mp read).1 (by decide)

end Recase
