import Recase.Proofs.Script.Conversion

namespace Recase

/-!
# What the identifiers of a script denote

A database does not take a bare identifier as it is written: the ASCII letters
of such an identifier count as lower case.  Only a quoted identifier keeps its
capitals.  The renamings of a script write every name bare that can be, so a
planned name with capitals, as camel case has them, denotes another name in
the database than the plan says.  All other names denote themselves.
-/

namespace Identifier

/-! ## Names that are written and then resolved -/

/-- The name that the identifier at the beginning of a text denotes, and the
text behind it.  A bare identifier is folded to lower case, and a quoted one
is taken as it stands. -/
def denoted? (text : List Char) : Option (String × List Char) :=
  (read? text).map fun read =>
    (if text.head? = some '"' then read.1 else read.1.toLower, read.2)

/-- What a name denotes where a statement has to write it. -/
def denoted (name : String) : String :=
  if isPlain name then name.toLower else name

/-- Whether the case of a name is kept where a statement has to write it.  A
name that is written bare must not have capitals. -/
def KeepsCase (name : String) : Prop :=
  isPlain name = true -> name.toList.any Char.isUpper = false

instance : DecidablePred KeepsCase := fun name =>
  inferInstanceAs (Decidable (isPlain name = true -> name.toList.any Char.isUpper = false))

theorem denoted?_written (name : String) {rest : List Char} (breaks : breaksOff rest = true) :
    denoted? ((written name).toList ++ rest) = some (denoted name, rest) := by
  rw [denoted?, read?_written name breaks, Option.map_some, denoted, written]
  by_cases plain : isPlain name = true
  · rcases exists_cons_of_isPlain plain with ⟨head, tail, chars, begun, _⟩
    have unquoted : (name.toList ++ rest).head? ≠ some '"' := by
      rw [chars, List.cons_append, List.head?_cons]
      intro same
      rw [Option.some.inj same] at begun
      cases begun
    rw [if_pos plain, if_pos plain, if_neg unquoted]
  · have quoted : ((quote name).toList ++ rest).head? = some '"' := by
      rw [quote, String.toList_ofList]
      rfl
    rw [if_neg plain, if_neg plain, if_pos quoted]

theorem toLower_char_eq_self_iff (char : Char) : char.toLower = char ↔ char.isUpper = false := by
  have range : char.isUpper = true ↔ char.val ≥ 'A'.val ∧ char.val ≤ 'Z'.val := decide_eq_true_iff
  unfold Char.toLower
  split
  · rename_i upper
    constructor
    · intro same
      have value := congrArg Char.val same
      simp at value
    · intro lower
      rw [range.mpr upper] at lower
      cases lower
  · rename_i other
    constructor
    · intro _
      exact Bool.eq_false_iff.mpr fun upper => other (range.mp upper)
    · intro _
      rfl

theorem toLower_eq_self_iff (name : String) :
    name.toLower = name ↔ name.toList.any Char.isUpper = false := by
  have mapped : name.toLower = name.map Char.toLower := rfl
  rw [mapped, ← String.toList_inj, String.toList_map, List.any_eq_false]
  conv_lhs => rw [← List.map_id name.toList, List.map_map]
  rw [List.map_inj_left]
  apply forall_congr'
  intro char
  apply imp_congr_right
  intro _
  rw [Bool.not_eq_true]
  exact toLower_char_eq_self_iff char

/-- A name denotes itself exactly if its case is kept. -/
theorem denoted_eq_self_iff (name : String) : denoted name = name ↔ KeepsCase name := by
  unfold denoted KeepsCase
  by_cases plain : isPlain name = true
  · rw [if_pos plain, toLower_eq_self_iff]
    exact ⟨fun lower _ => lower, fun keeps => keeps plain⟩
  · rw [if_neg plain]
    exact ⟨fun _ bare => absurd bare plain, fun _ => rfl⟩

end Identifier

namespace Script

/-! ## Lines of words and identifiers -/

/-- Written names between given words. -/
def interleaved : List String -> List String -> List Char
  | words :: others, name :: names =>
      words.toList ++ ((Identifier.written name).toList ++ interleaved others names)
  | words :: _, [] => words.toList
  | [], _ => []

/-- The names that the identifiers between given words denote.  The last
words have to end the line. -/
def denotedNames? : List String -> List Char -> Option (List String)
  | [], _ => none
  | [last], text => closed? last text []
  | words :: others, text => do
      let text <- behind? words text
      let (name, text) <- Identifier.denoted? text
      let names <- denotedNames? others text
      return name :: names

theorem breaksOff_append {start : List Char} (nonempty : start ≠ [])
    (breaks : Identifier.breaksOff start = true) (rest : List Char) :
    Identifier.breaksOff (start ++ rest) = true := by
  cases start with
  | nil => exact absurd rfl nonempty
  | cons next others => exact breaks

/-- Whatever the names are, each of them is found between its words. -/
theorem denotedNames?_interleaved (words names : List String) (first : String)
    (separate : forall word, word ∈ words ->
      word.toList ≠ [] ∧ Identifier.breaksOff word.toList = true)
    (fits : words.length = names.length) :
    denotedNames? (first :: words) (interleaved (first :: words) names) =
      some (names.map Identifier.denoted) := by
  induction names generalizing first words with
  | nil =>
      rw [List.length_nil, List.length_eq_zero_iff] at fits
      rw [fits, interleaved, denotedNames?, closed?_toList, List.map_nil]
  | cons name names inductionHypothesis =>
      cases words with
      | nil => cases fits
      | cons next words =>
          have parts := separate next List.mem_cons_self
          have breaks : Identifier.breaksOff (interleaved (next :: words) names) = true := by
            cases names with
            | nil => exact parts.2
            | cons other names => exact breaksOff_append parts.1 parts.2 _
          have later := inductionHypothesis words next
            (fun word member => separate word (List.mem_cons_of_mem _ member))
            (Nat.succ.inj fits)
          rw [interleaved, denotedNames?]
          simp only [behind?_append, Identifier.denoted?_written name breaks, later,
            Option.bind_eq_bind, Option.bind_some, Option.pure_def, List.map_cons]
          exact List.cons_ne_nil next words

def tableWords : List String :=
  ["ALTER TABLE IF EXISTS ", ".", " RENAME TO ", ";"]

def columnWords : List String :=
  ["ALTER TABLE IF EXISTS ", ".", " RENAME COLUMN ", " TO ", ";"]

def denotedTable? (line : List Char) : Option Statement :=
  match denotedNames? tableWords line with
  | some [schema, source, target] => some (.renameTable { schema, source, target })
  | _ => none

def denotedColumn? (line : List Char) : Option Statement :=
  match denotedNames? columnWords line with
  | some [schema, table, source, target] =>
      some (.renameColumn { schema, table, source, target })
  | _ => none

def denotedRename? (line : List Char) : Option Statement :=
  (denotedTable? line).or (denotedColumn? line)

theorem denotedRename?_of_behind? {line : List Char}
    (other : behind? "ALTER TABLE IF EXISTS " line = none) : denotedRename? line = none := by
  simp only [denotedRename?, denotedTable?, denotedColumn?, tableWords, columnWords,
    denotedNames?, other, Option.bind_eq_bind, Option.bind_none, Option.or_none]

theorem interleaved_renameTable (rename : TableRename) :
    (Statement.renameTable rename).sql.toList =
      interleaved tableWords [rename.schema, rename.source, rename.target] := by
  simp only [sql_renameTable, qualified, interleaved, tableWords, String.toList_append,
    List.append_assoc]

theorem interleaved_renameColumn (rename : ColumnRename) :
    (Statement.renameColumn rename).sql.toList =
      interleaved columnWords [rename.schema, rename.table, rename.source, rename.target] := by
  simp only [sql_renameColumn, qualified, interleaved, columnWords, String.toList_append,
    List.append_assoc]

end Script

/-! ## The renamings of a script -/

def Statement.names : Statement -> List String
  | .dropTable schema table => [schema, table]
  | .renameTable rename => [rename.schema, rename.source, rename.target]
  | .renameColumn rename => [rename.schema, rename.table, rename.source, rename.target]

/-- Change every name in a statement. -/
def Statement.mapNames (change : String -> String) : Statement -> Statement
  | .dropTable schema table => .dropTable (change schema) (change table)
  | .renameTable rename =>
      .renameTable
        { schema := change rename.schema
          source := change rename.source
          target := change rename.target }
  | .renameColumn rename =>
      .renameColumn
        { schema := change rename.schema
          table := change rename.table
          source := change rename.source
          target := change rename.target }

theorem Statement.mapNames_eq_self_iff (change : String -> String) (step : Statement) :
    step.mapNames change = step ↔ forall name, name ∈ step.names -> change name = name := by
  rcases step with ⟨schema, table⟩ | ⟨schema, source, target⟩ | ⟨schema, table, source, target⟩ <;>
    simp only [mapNames, names, Statement.dropTable.injEq, Statement.renameTable.injEq,
      Statement.renameColumn.injEq, TableRename.mk.injEq, ColumnRename.mk.injEq,
      List.forall_mem_cons, List.not_mem_nil, false_implies, implies_true, and_true]

/-- The steps of a plan that rename something, in their order. -/
def Plan.renames (plan : Plan) : List Statement :=
  plan.tableRenames.map Statement.renameTable ++ plan.columnRenames.map Statement.renameColumn

theorem Plan.statements_eq_drops_append (plan : Plan) (schema : String) :
    plan.statements schema = plan.drops.map (Statement.dropTable schema) ++ plan.renames :=
  List.append_assoc _ _ _

/-- The renamings of a plan denote themselves exactly if every name in them
keeps its case. -/
theorem Plan.map_renames_eq_self_iff (plan : Plan) :
    plan.renames.map (Statement.mapNames Identifier.denoted) = plan.renames ↔
      forall step, step ∈ plan.renames ->
        forall name, name ∈ step.names -> Identifier.KeepsCase name := by
  conv_lhs =>
    rhs
    rw [← List.map_id plan.renames]
  rw [List.map_inj_left]
  apply forall_congr'
  intro step
  apply imp_congr_right
  intro _
  rw [id_eq, Statement.mapNames_eq_self_iff]
  exact forall_congr' fun name => imp_congr_right fun _ => Identifier.denoted_eq_self_iff name

namespace Script

theorem denotedRename?_renameTable (rename : TableRename) :
    denotedRename? (Statement.renameTable rename).sql.toList =
      some ((Statement.renameTable rename).mapNames Identifier.denoted) := by
  have separate : forall word, word ∈ [".", " RENAME TO ", ";"] ->
      word.toList ≠ [] ∧ Identifier.breaksOff word.toList = true := by
    decide
  have read := denotedNames?_interleaved [".", " RENAME TO ", ";"]
    [rename.schema, rename.source, rename.target] "ALTER TABLE IF EXISTS " separate rfl
  rw [interleaved_renameTable, denotedRename?, denotedTable?, tableWords, read]
  rfl

/-- The line of a statement that renames a column denotes no renaming of a
table, whatever the names are. -/
theorem denotedTable?_renameColumn (rename : ColumnRename) :
    denotedTable? (Statement.renameColumn rename).sql.toList = none := by
  have dotted (rest : List Char) : Identifier.breaksOff (".".toList ++ rest) = true := by
    rfl
  have spaced (rest : List Char) :
      Identifier.breaksOff (" RENAME COLUMN ".toList ++ rest) = true := by
    rfl
  have other (rest : List Char) : behind? " RENAME TO " (" RENAME COLUMN ".toList ++ rest) = none := by
    rfl
  rw [interleaved_renameColumn, denotedTable?, tableWords, columnWords]
  simp only [interleaved, denotedNames?, behind?_append,
    Identifier.denoted?_written rename.schema (dotted _),
    Identifier.denoted?_written rename.table (spaced _), other, Option.bind_eq_bind,
    Option.bind_some, Option.bind_none]

theorem denotedRename?_renameColumn (rename : ColumnRename) :
    denotedRename? (Statement.renameColumn rename).sql.toList =
      some ((Statement.renameColumn rename).mapNames Identifier.denoted) := by
  have separate : forall word, word ∈ [".", " RENAME COLUMN ", " TO ", ";"] ->
      word.toList ≠ [] ∧ Identifier.breaksOff word.toList = true := by
    decide
  have read := denotedNames?_interleaved [".", " RENAME COLUMN ", " TO ", ";"]
    [rename.schema, rename.table, rename.source, rename.target] "ALTER TABLE IF EXISTS "
    separate rfl
  rw [denotedRename?, denotedTable?_renameColumn, Option.none_or, interleaved_renameColumn,
    denotedColumn?, columnWords, read]
  rfl

theorem denotedRename?_dropTable (schema table : String) :
    denotedRename? (Statement.dropTable schema table).sql.toList = none := by
  apply denotedRename?_of_behind?
  simp only [sql_dropTable, String.toList_append, List.append_assoc]
  rfl

/-- The renamings among the lines of a script, as they are denoted. -/
def denotedRenames (script : String) : List Statement :=
  (executable script.toList).filterMap denotedRename?

/-- The renamings that escape from the advice of options, as they are
denoted. -/
def escapingRenames (options : Options) : List Statement :=
  (options.advice.flatMap escaping).filterMap denotedRename?

/-- The renamings of the script of a dump denote those of the plan with every
name as it is denoted.  Behind them are those that escape from the advice. -/
theorem denotedRenames_script {options : Options} (admitted : options.check = .ok ())
    (dump : String) :
    denotedRenames (render (Plan.ofSchema (Dump.analyze dump) options) options) =
      (Plan.ofSchema (Dump.analyze dump) options).renames.map
          (Statement.mapNames Identifier.denoted) ++
        escapingRenames options := by
  have drops (names : List String) : ((names.map (Statement.dropTable options.schema)).map
      fun step => step.sql.toList).filterMap denotedRename? = [] := by
    apply List.filterMap_eq_nil_iff.mpr
    intro line member
    rcases List.mem_map.mp member with ⟨step, listed, written⟩
    rcases List.mem_map.mp listed with ⟨table, _, dropped⟩
    rw [← written, ← dropped]
    exact denotedRename?_dropTable options.schema table
  have renames (plan : Plan) : (plan.renames.map fun step => step.sql.toList).filterMap
      denotedRename? = plan.renames.map (Statement.mapNames Identifier.denoted) := by
    rw [List.filterMap_map, ← List.filterMap_eq_map]
    apply List.filterMap_congr
    intro step member
    rw [Function.comp_apply, Function.comp_apply]
    rcases List.mem_append.mp member with table | column
    · rcases List.mem_map.mp table with ⟨rename, _, same⟩
      rw [← same, denotedRename?_renameTable]
    · rcases List.mem_map.mp column with ⟨rename, _, same⟩
      rw [← same, denotedRename?_renameColumn]
  have closed : (closingLines (Plan.ofSchema (Dump.analyze dump) options)).filterMap
      denotedRename? = [] := by
    apply List.filterMap_eq_nil_iff.mpr
    intro line member
    exact denotedRename?_of_behind? (behind?_closingLines member).2
  rw [denotedRenames, executable_script admitted, Plan.statements_eq_drops_append,
    List.map_append, List.filterMap_append, List.filterMap_append, List.filterMap_append, drops,
    renames, closed, List.nil_append, List.append_nil, escapingRenames]

end Script

/-- A conversion writes its renamings so that they denote the planned ones
with every name as it is denoted.  They denote what is planned exactly if
every name in them keeps its case, and a single name is written so that it
denotes itself exactly if it keeps its case. -/
theorem renamings_denoted_iff (dump : String) {options : Options}
    (admitted : options.check = .ok ()) :
    (Exists fun conversion => convert dump options = .ok conversion ∧
      Script.denotedRenames conversion.script =
        conversion.plan.renames.map (Statement.mapNames Identifier.denoted) ++
          Script.escapingRenames options ∧
      (conversion.plan.renames.map (Statement.mapNames Identifier.denoted) =
          conversion.plan.renames ↔
        forall step, step ∈ conversion.plan.renames ->
          forall name, name ∈ step.names -> Identifier.KeepsCase name)) ∧
      forall name, (Identifier.denoted? (Identifier.written name).toList = some (name, []) ↔
        Identifier.KeepsCase name) := by
  constructor
  · rcases exists_convert admitted dump with ⟨conversion, converted, plan, script⟩
    refine ⟨conversion, converted, ?_, ?_⟩
    · rw [script, plan]
      exact Script.denotedRenames_script admitted dump
    · exact Plan.map_renames_eq_self_iff conversion.plan
  · intro name
    have ends : Identifier.breaksOff [] = true := rfl
    have read := Identifier.denoted?_written name ends
    rw [List.append_nil] at read
    rw [read, Option.some.injEq, Prod.mk.injEq, Identifier.denoted_eq_self_iff]
    exact and_iff_left rfl

/-- A quoted schema keeps its capitals, and the other names have none. -/
theorem renaming_denoted_in_grand_hotel :
    ({} : Options).check = .ok () ∧
      Exists fun conversion =>
        convert "CREATE TABLE \"Grand Hotel\".room_2 (\n);" {} = .ok conversion ∧
          Script.denotedRenames conversion.script =
            [.renameTable { schema := "Grand Hotel", source := "room_2", target := "room2" }] := by
  have admitted : ({} : Options).check = .ok () := Options.check_advice _ _
  have tables : (Dump.analyze "CREATE TABLE \"Grand Hotel\".room_2 (\n);").toList =
      [{ name := "room_2", schema := some "Grand Hotel" }] := by
    rw [Dump.toList_analyze]
    decide +kernel
  rcases (renamings_denoted_iff "CREATE TABLE \"Grand Hotel\".room_2 (\n);" admitted).1 with
    ⟨conversion, converted, denoted, same⟩
  rcases exists_convert admitted "CREATE TABLE \"Grand Hotel\".room_2 (\n);" with
    ⟨other, again, plan, _⟩
  rw [converted] at again
  cases again
  have renames : conversion.plan.renames =
      [.renameTable { schema := "Grand Hotel", source := "room_2", target := "room2" }] := by
    rw [plan, Plan.ofSchema, tables]
    decide +kernel
  have quiet : Script.escapingRenames {} = [] := by decide +kernel
  have keeps : forall step, step ∈ conversion.plan.renames ->
      forall name, name ∈ step.names -> Identifier.KeepsCase name := by
    rw [renames]
    decide +kernel
  refine ⟨admitted, conversion, converted, ?_⟩
  rw [denoted, same.mpr keeps, quiet, List.append_nil, renames]

/-- A name in camel case is written bare, so that another name is denoted. -/
theorem renaming_denoted_otherwise :
    ¬ forall (dump : String) (options : Options) (conversion : Conversion),
      options.check = .ok () -> convert dump options = .ok conversion ->
        Script.denotedRenames conversion.script = conversion.plan.renames := by
  intro always
  have admitted : ({} : Options).check = .ok () := Options.check_advice _ _
  have tables : (Dump.analyze "CREATE TABLE room_types (\n);").toList =
      [{ name := "room_types", schema := none }] := by
    rw [Dump.toList_analyze]
    decide +kernel
  rcases exists_convert admitted "CREATE TABLE room_types (\n);" with
    ⟨conversion, converted, plan, script⟩
  have denotes := always _ _ _ admitted converted
  rw [script, plan, Script.denotedRenames_script admitted, Plan.ofSchema, tables] at denotes
  revert denotes
  decide +kernel

end Recase
