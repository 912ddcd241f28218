import Mathlib.Data.List.Basic
import Recase.Proofs.Identifier
import Recase.Proofs.Script.Executable

namespace Recase

/-!
# Scripts read back

A script says all that its plan says.  A reader that knows nothing of the
plan looks at the executable lines, takes those before the block at the end
for statements, and finds in the block how many tables are processed.  What
it reads are the steps of the plan in their order.  So different plans have
different scripts.

The names in a plan may contain anything but line feeds: what looks like a
keyword or a comment inside a quoted identifier is part of the name.
-/

namespace Script

/-! ## Reading a statement -/

/-- What stands behind given words at the beginning of a text. -/
def behind? (words : String) (text : List Char) : Option (List Char) :=
  if words.toList.isPrefixOf text then some (text.drop words.toList.length) else none

/-- Give a result if the rest of a text is as it has to be. -/
def closed? {Result : Type} (words : String) (text : List Char) (result : Result) :
    Option Result :=
  if text = words.toList then some result else none

/-- Read a name after that of its schema. -/
def qualified? (text : List Char) : Option ((String × String) × List Char) := do
  let (schema, text) <- Identifier.read? text
  let text <- behind? "." text
  let (name, text) <- Identifier.read? text
  return ((schema, name), text)

/-- Read the new name at the end of a renaming. -/
def target? (text : List Char) : Option String := do
  let (name, text) <- Identifier.read? text
  closed? ";" text name

def dropTable? (line : List Char) : Option Statement := do
  let text <- behind? "DROP TABLE IF EXISTS " line
  let ((schema, table), text) <- qualified? text
  closed? " CASCADE;" text (.dropTable schema table)

def renameTable? (line : List Char) : Option Statement := do
  let text <- behind? "ALTER TABLE IF EXISTS " line
  let ((schema, source), text) <- qualified? text
  let text <- behind? " RENAME TO " text
  let target <- target? text
  return .renameTable { schema, source, target }

def renameColumn? (line : List Char) : Option Statement := do
  let text <- behind? "ALTER TABLE IF EXISTS " line
  let ((schema, table), text) <- qualified? text
  let text <- behind? " RENAME COLUMN " text
  let (source, text) <- Identifier.read? text
  let text <- behind? " TO " text
  let target <- target? text
  return .renameColumn { schema, table, source, target }

def statement? (line : List Char) : Option Statement :=
  (dropTable? line).or ((renameTable? line).or (renameColumn? line))

@[simp]
theorem behind?_append (words : String) (rest : List Char) :
    behind? words (words.toList ++ rest) = some rest := by
  unfold behind?
  rw [if_pos (List.isPrefixOf_iff_prefix.mpr (List.prefix_append _ _)), List.drop_left]

theorem behind?_ofList {words chars : List Char} (other : words.isPrefixOf chars = false) :
    behind? (String.ofList words) (String.ofList chars).toList = none := by
  unfold behind?
  rw [String.toList_ofList, String.toList_ofList, other]
  exact if_neg Bool.false_ne_true

@[simp]
theorem closed?_toList {Result : Type} (words : String) (result : Result) :
    closed? words words.toList result = some result := by
  unfold closed?
  exact if_pos rfl

theorem qualified?_append (schema name : String) {rest : List Char}
    (breaks : Identifier.breaksOff rest = true) :
    qualified? ((qualified schema name).toList ++ rest) = some ((schema, name), rest) := by
  have dotted : Identifier.breaksOff (".".toList ++ ((Identifier.written name).toList ++ rest)) =
      true := by
    rfl
  simp only [qualified?, qualified, String.toList_append, List.append_assoc,
    Identifier.read?_written schema dotted, Identifier.read?_written name breaks,
    behind?_append, Option.bind_eq_bind, Option.bind_some, Option.pure_def]

theorem target?_written (name : String) :
    target? ((Identifier.written name).toList ++ ";".toList) = some name := by
  have breaks : Identifier.breaksOff ";".toList = true := by decide
  simp only [target?, Identifier.read?_written name breaks, closed?_toList, Option.bind_eq_bind,
    Option.bind_some]

end Script

/-- Whether a statement is read back from its line.  A drop does not quote
its names anew, so they have to be plain. -/
def Statement.Legible : Statement -> Prop
  | .dropTable schema table =>
      Identifier.isPlain schema = true ∧ Identifier.isPlain table = true
  | .renameTable rename =>
      OneLine rename.schema ∧ OneLine rename.source ∧ OneLine rename.target
  | .renameColumn rename =>
      OneLine rename.schema ∧ OneLine rename.table ∧ OneLine rename.source ∧
        OneLine rename.target

instance : DecidablePred Statement.Legible
  | .dropTable _ _ => inferInstanceAs (Decidable (_ ∧ _))
  | .renameTable _ => inferInstanceAs (Decidable (_ ∧ _ ∧ _))
  | .renameColumn _ => inferInstanceAs (Decidable (_ ∧ _ ∧ _ ∧ _))

namespace Script

theorem qualified?_of_isPlain {schema table : String}
    (schemaPlain : Identifier.isPlain schema = true)
    {rest : List Char} (breaks : Identifier.breaksOff rest = true) :
    qualified? (schema.toList ++ (".".toList ++ ((Identifier.quote table).toList ++ rest))) =
      some ((schema, table), rest) := by
  have dotted : Identifier.breaksOff (".".toList ++ ((Identifier.quote table).toList ++ rest)) =
      true := by
    rfl
  simp only [qualified?, Identifier.read?_of_isPlain schemaPlain dotted, behind?_append,
    Identifier.read?_quote table breaks, Option.bind_eq_bind, Option.bind_some, Option.pure_def]

theorem dropTable?_sql {schema table : String} (schemaPlain : Identifier.isPlain schema = true)
    (bare : '"' ∉ table.toList) :
    dropTable? (Statement.dropTable schema table).sql.toList = some (.dropTable schema table) := by
  have text : (Statement.dropTable schema table).sql.toList = "DROP TABLE IF EXISTS ".toList ++
      (schema.toList ++ (".".toList ++ ((Identifier.quote table).toList ++
        " CASCADE;".toList))) := by
    simp only [sql_dropTable, String.toList_append, List.append_assoc,
      Identifier.toList_quote_of_not_mem bare]
    rfl
  have spaced : Identifier.breaksOff " CASCADE;".toList = true := by decide
  rw [text, dropTable?, behind?_append, Option.bind_eq_bind, Option.bind_some,
    qualified?_of_isPlain schemaPlain spaced, Option.bind_eq_bind, Option.bind_some]
  exact closed?_toList " CASCADE;" _

theorem renameTable?_sql (rename : TableRename) :
    renameTable? (Statement.renameTable rename).sql.toList = some (.renameTable rename) := by
  have spaced : Identifier.breaksOff (" RENAME TO ".toList ++
      ((Identifier.written rename.target).toList ++ ";".toList)) = true := by
    rfl
  simp only [renameTable?, sql_renameTable, String.toList_append, List.append_assoc, behind?_append,
    qualified?_append rename.schema rename.source spaced, target?_written, Option.bind_eq_bind,
    Option.bind_some, Option.pure_def]

theorem renameColumn?_sql (rename : ColumnRename) :
    renameColumn? (Statement.renameColumn rename).sql.toList = some (.renameColumn rename) := by
  have middle : Identifier.breaksOff (" TO ".toList ++
      ((Identifier.written rename.target).toList ++ ";".toList)) = true := by
    rfl
  have spaced : Identifier.breaksOff (" RENAME COLUMN ".toList ++
      ((Identifier.written rename.source).toList ++ (" TO ".toList ++
        ((Identifier.written rename.target).toList ++ ";".toList)))) = true := by
    rfl
  simp only [renameColumn?, sql_renameColumn, String.toList_append, List.append_assoc, behind?_append,
    qualified?_append rename.schema rename.table spaced,
    Identifier.read?_written rename.source middle, target?_written, Option.bind_eq_bind,
    Option.bind_some, Option.pure_def]

theorem dropTable?_alterTable (rest : List Char) :
    dropTable? ("ALTER TABLE IF EXISTS ".toList ++ rest) = none := by
  have other : behind? "DROP TABLE IF EXISTS " ("ALTER TABLE IF EXISTS ".toList ++ rest) = none := by
    rfl
  rw [dropTable?, other]
  rfl

/-- A statement that renames a column does not read as one that renames a
table, whatever the names are. -/
theorem renameTable?_renameColumn (rename : ColumnRename) :
    renameTable? (Statement.renameColumn rename).sql.toList = none := by
  have spaced : Identifier.breaksOff (" RENAME COLUMN ".toList ++
      ((Identifier.written rename.source).toList ++ (" TO ".toList ++
        ((Identifier.written rename.target).toList ++ ";".toList)))) = true := by
    rfl
  have other (rest : List Char) : behind? " RENAME TO " (" RENAME COLUMN ".toList ++ rest) = none := by
    rfl
  simp only [renameTable?, sql_renameColumn, String.toList_append, List.append_assoc, behind?_append,
    qualified?_append rename.schema rename.table spaced, other, Option.bind_eq_bind,
    Option.bind_some, Option.bind_none]

/-- A legible statement is read back. -/
theorem statement?_sql {step : Statement} (legible : step.Legible) :
    statement? step.sql.toList = some step := by
  cases step with
  | dropTable schema table =>
      rw [statement?, dropTable?_sql legible.1 (Identifier.not_mem_of_isPlain legible.2),
        Option.some_or]
  | renameTable rename =>
      have refused : dropTable? (Statement.renameTable rename).sql.toList = none := by
        simp only [sql_renameTable, String.toList_append, List.append_assoc, dropTable?_alterTable]
      rw [statement?, refused, renameTable?_sql, Option.none_or, Option.some_or]
  | renameColumn rename =>
      have refused : dropTable? (Statement.renameColumn rename).sql.toList = none := by
        simp only [sql_renameColumn, String.toList_append, List.append_assoc, dropTable?_alterTable]
      rw [statement?, refused, renameTable?_renameColumn, renameColumn?_sql, Option.none_or,
        Option.none_or]

/-! ## The line of a statement -/

theorem oneLine_qualified {schema name : String} (one : OneLine schema) (other : OneLine name) :
    OneLine (qualified schema name) :=
  ((oneLine_written one).append (by decide)).append (oneLine_written other)

theorem oneLine_sql {step : Statement} (legible : step.Legible) : OneLine step.sql := by
  cases step with
  | dropTable schema table =>
      have words : OneLine "DROP TABLE IF EXISTS " := oneLine_ofList (by decide)
      have behind : OneLine "\" CASCADE;" := oneLine_ofList (by decide)
      rw [sql_dropTable]
      exact (((words.append (oneLine_of_isPlain legible.1)).append (by decide)).append
        (oneLine_of_isPlain legible.2)).append behind
  | renameTable rename =>
      have words : OneLine "ALTER TABLE IF EXISTS " := oneLine_ofList (by decide)
      rcases legible with ⟨schema, source, target⟩
      rw [sql_renameTable]
      exact (((words.append (oneLine_qualified schema source)).append (by decide)).append
        (oneLine_written target)).append (by decide)
  | renameColumn rename =>
      have words : OneLine "ALTER TABLE IF EXISTS " := oneLine_ofList (by decide)
      rcases legible with ⟨schema, table, source, target⟩
      rw [sql_renameColumn]
      exact (((((words.append (oneLine_qualified schema table)).append (by decide)).append
        (oneLine_written source)).append (by decide)).append (oneLine_written target)).append
          (by decide)

theorem isExecutable_sql (step : Statement) : isExecutable step.sql.toList = true := by
  cases step with
  | dropTable schema table =>
      simp only [sql_dropTable, String.toList_append, List.append_assoc]
      exact isExecutable_ofList_append (by decide) (by decide) _
  | renameTable rename =>
      simp only [sql_renameTable, String.toList_append, List.append_assoc]
      exact isExecutable_ofList_append (by decide) (by decide) _
  | renameColumn rename =>
      simp only [sql_renameColumn, String.toList_append, List.append_assoc]
      exact isExecutable_ofList_append (by decide) (by decide) _

theorem executable_statement {step : Statement} (legible : step.Legible) :
    (Line.statement step).executable = [step.sql.toList] :=
  executable_oneLine (oneLine_sql legible) (isExecutable_sql step)

/-! ## Reading a script -/

/-- Read the number of tables processed from a line of the block at the
end. -/
def processed? (line : List Char) : Option Nat := do
  let text <- behind? "    RAISE NOTICE 'Tables processed: %', " line
  let digits := text.takeWhile Char.isDigit
  if digits = [] then none
  else closed? ";" (text.dropWhile Char.isDigit) (Nat.ofDigitChars 10 digits 0)

/-- Read the statements of a script, and the number of tables processed.
There is nothing to read if a line before the block at the end is not a
statement. -/
def read? (script : String) : Option (List Statement × Nat) := do
  let lines := executable script.toList
  let steps <- (lines.takeWhile (· != closingMark)).mapM statement?
  let processed <- (lines.dropWhile (· != closingMark)).findSome? processed?
  return (steps, processed)

theorem processed?_count (number : Nat) :
    processed? ("    RAISE NOTICE 'Tables processed: %', ".toList ++
      ((toString number).toList ++ ";".toList)) = some number := by
  have digits : (toString number).toList = Nat.toDigits 10 number := by
    rw [Nat.toString_eq_repr, Nat.repr_eq_ofList_toDigits, String.toList_ofList]
  have all : forall char, char ∈ Nat.toDigits 10 number -> char.isDigit = true := by
    intro char member
    exact Nat.isDigit_of_mem_toDigits (by decide) (by decide) member
  have taken : (Nat.toDigits 10 number ++ ";".toList).takeWhile Char.isDigit =
      Nat.toDigits 10 number := by
    rw [List.takeWhile_append_of_pos all, show ";".toList.takeWhile Char.isDigit = [] by decide,
      List.append_nil]
  have left : (Nat.toDigits 10 number ++ ";".toList).dropWhile Char.isDigit = ";".toList := by
    rw [List.dropWhile_append_of_pos all]
    decide
  simp only [processed?, behind?_append, digits, taken, left, Nat.toDigits_ne_nil, if_false,
    closed?_toList, Nat.ofDigitChars_ten_toDigits, Option.bind_eq_bind, Option.bind_some]

theorem processed?_of_behind? {line : List Char}
    (other : behind? "    RAISE NOTICE 'Tables processed: %', " line = none) :
    processed? line = none := by
  rw [processed?, other]
  rfl

theorem findSome?_closingLines (plan : Plan) :
    (closingLines plan).findSome? processed? = some plan.processed := by
  have mark : processed? closingMark = none :=
    processed?_of_behind? (behind?_ofList (by decide))
  have opened : processed? "BEGIN".toList = none :=
    processed?_of_behind? (behind?_ofList (by decide))
  have timed : processed? "    RAISE NOTICE 'camelCase conversion finished at %', NOW();".toList =
      none :=
    processed?_of_behind? (behind?_ofList (by decide))
  simp only [closingLines, List.findSome?_cons, mark, opened, timed, processed?_count]

theorem mapM_statement? {steps : List Statement}
    (legible : forall step, step ∈ steps -> step.Legible) :
    (steps.map fun step => step.sql.toList).mapM statement? = some steps := by
  induction steps with
  | nil => rfl
  | cons step steps inductionHypothesis =>
      rw [List.map_cons, List.mapM_cons, statement?_sql (legible step List.mem_cons_self),
        inductionHypothesis fun other member => legible other (List.mem_cons_of_mem _ member)]
      rfl

theorem sql_ne_closingMark {step : Statement} (legible : step.Legible) :
    step.sql.toList ≠ closingMark := by
  -- The mark is not a statement, and the line of a legible statement reads as one.
  have dropped : behind? "DROP TABLE IF EXISTS " closingMark = none := behind?_ofList (by decide)
  have altered : behind? "ALTER TABLE IF EXISTS " closingMark = none := behind?_ofList (by decide)
  have other : statement? closingMark = none := by
    simp only [statement?, dropTable?, renameTable?, renameColumn?, dropped, altered,
      Option.bind_eq_bind, Option.bind_none, Option.or_none]
  intro same
  rw [← same, statement?_sql legible] at other
  cases other

end Script

/-- Whether the script of a plan is read back.  The names that are dropped
are not quoted anew and have to be plain.  All other texts may be anything
that stays on one line. -/
structure Plan.Legible (plan : Plan) (options : Options) : Prop where
  schema : Identifier.isPlain options.schema = true
  drops : forall name, name ∈ plan.drops -> Identifier.isPlain name = true
  tableRenames : forall rename, rename ∈ plan.tableRenames ->
    (Statement.renameTable rename).Legible
  columnRenames : forall rename, rename ∈ plan.columnRenames ->
    (Statement.renameColumn rename).Legible
  relationships : forall relationship, relationship ∈ options.relationships ->
    OneLine relationship.referencing ∧ OneLine relationship.referenced ∧
      OneLine relationship.column
  permissionNotes : forall note, note ∈ options.permissionNotes -> OneLine note

namespace Plan.Legible

variable {plan : Plan} {options : Options}

theorem statements (legible : plan.Legible options) :
    forall step, step ∈ plan.statements options.schema -> step.Legible := by
  intro step member
  unfold Plan.statements at member
  rcases List.mem_append.mp member with early | column
  · rcases List.mem_append.mp early with dropped | table
    · rcases List.mem_map.mp dropped with ⟨name, listed, same⟩
      rw [← same]
      exact ⟨legible.schema, legible.drops name listed⟩
    · rcases List.mem_map.mp table with ⟨rename, listed, same⟩
      rw [← same]
      exact legible.tableRenames rename listed
  · rcases List.mem_map.mp column with ⟨rename, listed, same⟩
    rw [← same]
    exact legible.columnRenames rename listed

theorem advice (legible : plan.Legible options) :
    forall text, text ∈ options.advice -> OneLine text := by
  intro text member
  rcases List.mem_append.mp member with related | noted
  · rcases List.mem_map.mp related with ⟨relationship, listed, same⟩
    rcases legible.relationships relationship listed with ⟨referencing, referenced, column⟩
    rw [← same]
    exact ((((referencing.append (by decide)).append referenced).append (by decide)).append
      column).append (by decide)
  · exact legible.permissionNotes text noted

/-- The executable lines of a legible script are those of its statements and
of the block at the end. -/
theorem executable_render (legible : plan.Legible options) :
    Script.executable (Script.render plan options).toList =
      ((plan.statements options.schema).map fun step => step.sql.toList) ++
        Script.closingLines plan := by
  rw [Script.executable_render plan options fun name member =>
      oneLine_of_isPlain (legible.drops name member),
    Script.flatMap_escaping_of_oneLine legible.advice, List.append_nil, List.map_eq_flatMap,
    List.flatMap_congr fun step member =>
      Script.executable_statement (legible.statements step member)]

/-- The reader finds the steps of the plan, in their order and nothing else. -/
theorem read?_render (legible : plan.Legible options) :
    Script.read? (Script.render plan options) =
      some (plan.statements options.schema, plan.processed) := by
  have before : forall line, line ∈ ((plan.statements options.schema).map fun step =>
      step.sql.toList) -> (line != Script.closingMark) = true := by
    intro line member
    rcases List.mem_map.mp member with ⟨step, listed, same⟩
    rw [← same, bne_iff_ne]
    exact Script.sql_ne_closingMark (legible.statements step listed)
  have stopped : (Script.closingLines plan).takeWhile (· != Script.closingMark) = [] ∧
      (Script.closingLines plan).dropWhile (· != Script.closingMark) =
        Script.closingLines plan := by
    rw [Script.closingLines, List.takeWhile_cons, List.dropWhile_cons, bne_self_eq_false]
    exact ⟨rfl, rfl⟩
  simp only [Script.read?, legible.executable_render, List.takeWhile_append_of_pos before,
    List.dropWhile_append_of_pos before, stopped.1, stopped.2, List.append_nil,
    Script.mapM_statement? legible.statements, Script.findSome?_closingLines, Option.bind_eq_bind,
    Option.bind_some, Option.pure_def]

end Plan.Legible

/-- A legible script is read back, and no other plan has the same script. -/
theorem render_determines_plan {plan : Plan} {options : Options}
    (legible : plan.Legible options) :
    Script.read? (Script.render plan options) =
        some (plan.statements options.schema, plan.processed) ∧
      forall other : Plan, other.Legible options ->
        Script.render other options = Script.render plan options -> other = plan := by
  constructor
  · exact legible.read?_render
  · intro other otherLegible same
    have read := otherLegible.read?_render
    rw [same, legible.read?_render] at read
    have steps := congrArg Prod.fst (Option.some.inj read)
    have processed := congrArg Prod.snd (Option.some.inj read)
    exact Plan.eq_of_statements_eq steps.symm processed.symm

/-- Names that look like parts of a script are read back as well. -/
theorem render_determines_hostile_plan :
    let plan : Plan :=
      { drops := ["eventManagers", "old_users"]
        tableRenames := [⟨"", "a\"b.c", " RENAME TO x;"⟩, ⟨"public", "-- a_b", "aB"⟩]
        columnRenames := [⟨"my schema", "DO $$", "", "; DROP TABLE hotels; --"⟩]
        processed := 12 }
    plan.Legible {} ∧
      Script.read? (Script.render plan {}) = some (plan.statements "public", 12) ∧
        forall other : Plan, other.Legible {} ->
          Script.render other {} = Script.render plan {} -> other = plan := by
  intro plan
  have legible : plan.Legible {} :=
    { schema := by decide
      drops := by decide
      tableRenames := by decide
      columnRenames := by decide
      relationships := by decide
      permissionNotes := by decide }
  exact ⟨legible, render_determines_plan legible⟩

end Recase
