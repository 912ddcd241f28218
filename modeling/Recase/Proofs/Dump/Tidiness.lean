import Recase.Proofs.Dump.Names

namespace Recase

/-!
# What every table of a dump satisfies

A dump may be malformed or hostile, and what is read from it ends up in
statements.  A text is tame if it has neither a double quote nor a line feed,
so that it can leave neither the quotes that it is put between nor its line.
The names of tables and schemas are tame, columns are either words or tame
texts between quotes, and constraints are whole lines.

This is an invariant of the reader.  It speaks of the tables that are closed
and of the one that is open, and every line keeps it, whatever kind of line
it is.
-/

/-- Whether a text has neither a double quote nor a line feed. -/
structure Tame (text : String) : Prop where
  noQuote : '"' ∉ text.toList
  oneLine : OneLine text

/-- Whether a table is as a dump can make it. -/
structure Table.Tidy (table : Table) : Prop where
  named : table.name ≠ ""
  name : Tame table.name
  schema : forall schema, table.schema = some schema -> schema ≠ "" ∧ Tame schema
  columns : forall column, column ∈ table.columns.toList ->
    Dump.Spelled column.toList ∧ OneLine column
  constraints : forall constraint, constraint ∈ table.constraints.toList ->
    Text.trim constraint.toList = constraint.toList ∧ OneLine constraint ∧
      "CONSTRAINT".toList <:+: constraint.toList
  indices : table.indices = #[]

namespace Dump

/-! ## Names without their quotes -/

theorem unquote_spelled {name : List Char} (spelled : Spelled name) (whole : '\n' ∉ name) :
    Identifier.unquote (String.ofList name) ≠ "" ∧
      Tame (Identifier.unquote (String.ofList name)) := by
  have oneLine : OneLine (Identifier.unquote (String.ofList name)) :=
    oneLine_unquote (oneLine_ofList whole)
  cases spelled with
  | bare nonempty words =>
      have bare : '"' ∉ (String.ofList name).toList := by
        rw [String.toList_ofList]
        intro member
        have word := words '"' member
        rw [isWord_quote] at word
        cases word
      rw [Identifier.unquote_of_not_mem bare] at oneLine ⊢
      exact ⟨fun empty => nonempty (String.ofList_eq_empty_iff.mp empty), bare, oneLine⟩
  | @quoted inner nonempty closed =>
      rw [Identifier.unquote_quoted] at oneLine ⊢
      refine ⟨fun empty => nonempty (String.ofList_eq_empty_iff.mp empty), ?_, oneLine⟩
      rw [String.toList_ofList]
      exact closed

/-! ## What a line contributes -/

theorem SpelledIn.whole {line name : List Char} (spelled : SpelledIn line name)
    (whole : '\n' ∉ line) : '\n' ∉ name :=
  fun member => whole (spelled.2.subset member)

/-- A header opens a tidy table. -/
theorem tidy_header {line : List Char} {header : Header} (read : header? line = some header)
    (whole : '\n' ∉ line) : header.table.Tidy := by
  have spelled := spelledIn_of_header? read
  have name := unquote_spelled spelled.name.1 (spelled.name.whole whole)
  refine
    { named := name.1
      name := name.2
      schema := ?_
      columns := fun column member => by cases member
      constraints := fun constraint member => by cases member
      indices := rfl }
  intro schema given
  rcases Option.map_eq_some_iff.mp given with ⟨chars, written, rfl⟩
  have spelledSchema := spelled.schema chars written
  exact unquote_spelled spelledSchema.1 (spelledSchema.whole whole)

/-- A line in the body leaves a tidy table tidy. -/
theorem tidy_absorb {table : Table} (tidy : table.Tidy) {line : List Char}
    (trimmed : Text.trim line = line) (whole : '\n' ∉ line) : (absorb table line).Tidy := by
  unfold absorb
  split
  · rename_i constrains
    refine { tidy with constraints := ?_ }
    intro constraint member
    rw [Array.toList_push, List.mem_append, List.mem_singleton] at member
    rcases member with earlier | rfl
    · exact tidy.constraints constraint earlier
    · rw [String.toList_ofList]
      exact ⟨trimmed, oneLine_ofList whole, (Text.occursIn_iff_isInfix _ _).mp constrains⟩
  · split
    · exact tidy
    · split
      · rename_i name declares
        have spelled := spelledIn_of_column? declares
        refine { tidy with columns := ?_ }
        intro column member
        rw [Array.toList_push, List.mem_append, List.mem_singleton] at member
        rcases member with earlier | rfl
        · exact tidy.columns column earlier
        · rw [String.toList_ofList]
          exact ⟨spelled.1, oneLine_ofList (spelled.whole whole)⟩
      · exact tidy

end Dump

/-- After an insertion there are the tables from before and the inserted one. -/
theorem Schema.mem_of_mem_insert {schema : Schema} {table other : Table}
    (member : other ∈ (schema.insert table).toList) : other = table ∨ other ∈ schema.toList := by
  unfold Schema.insert at member
  split at member
  · rw [Schema.toList, Array.toList_setIfInBounds] at member
    exact (List.mem_or_eq_of_mem_set member).symm
  · rw [Schema.toList, Schema.push, Array.toList_push, List.mem_append,
      List.mem_singleton] at member
    exact member.symm

namespace Dump

/-! ## The invariant of the reader -/

structure Scan.Tidy (scan : Scan) : Prop where
  closed : forall table, table ∈ scan.schema.toList -> table.Tidy
  opened : forall block, scan.opened = some block -> block.table.Tidy

namespace Scan.Tidy

variable {scan : Scan}

theorem start : Scan.Tidy {} where
  closed := fun table member => by cases member
  opened := fun block opened => by cases opened

/-- To note something does not touch the tables. -/
theorem note (tidy : scan.Tidy) (notice : Notice) : (scan.note notice).Tidy where
  closed := tidy.closed
  opened := tidy.opened

theorem close (tidy : scan.Tidy) {block : Block} (table : block.table.Tidy) :
    (scan.close block).Tidy where
  closed := by
    intro other member
    rcases Schema.mem_of_mem_insert member with rfl | earlier
    · exact table
    · exact tidy.closed other earlier
  opened := fun other opened => by cases opened

theorem openTable (tidy : scan.Tidy) {header : Header} (table : header.table.Tidy)
    (number : Nat) : (scan.openTable header number).Tidy where
  closed := by
    unfold Scan.openTable
    split
    · rename_i block opened
      exact ((tidy.note _).close (tidy.opened block opened)).closed
    · exact tidy.closed
  opened := by
    intro block opened
    cases opened
    exact table

theorem body (tidy : scan.Tidy) {block : Block} (opened : scan.opened = some block)
    {line : List Char} (trimmed : Text.trim line = line) (whole : '\n' ∉ line) :
    (scan.body block line).Tidy := by
  have filled : (absorb block.table line).Tidy :=
    tidy_absorb (tidy.opened block opened) trimmed whole
  unfold Scan.body
  split
  · exact tidy.close filled
  · refine { tidy with opened := ?_ }
    intro other same
    cases same
    exact filled

/-- Every line keeps the invariant. -/
theorem step (tidy : scan.Tidy) {line : List Char} (trimmed : Text.trim line = line)
    (whole : '\n' ∉ line) (number : Nat) : (scan.step line number).Tidy := by
  unfold Scan.step
  split
  · rename_i header read
    exact tidy.openTable (tidy_header read whole) number
  · split
    · rename_i block opened
      exact tidy.body opened trimmed whole
    · exact tidy

theorem scanFrom (tidy : scan.Tidy) {lines : List (List Char)}
    (trimmed : forall line, line ∈ lines -> Text.trim line = line)
    (whole : forall line, line ∈ lines -> '\n' ∉ line) (number : Nat) :
    (scanFrom scan number lines).Tidy := by
  induction lines generalizing scan number with
  | nil => exact tidy
  | cons line others inductionHypothesis =>
      have next := tidy.step (trimmed line List.mem_cons_self) (whole line List.mem_cons_self)
        number
      exact inductionHypothesis next
        (fun other member => trimmed other (List.mem_cons_of_mem _ member))
        (fun other member => whole other (List.mem_cons_of_mem _ member)) (number + 1)

theorem finish (tidy : scan.Tidy) : scan.finish.Tidy := by
  unfold Scan.finish
  split
  · rename_i block opened
    exact (tidy.note _).close (tidy.opened block opened)
  · exact tidy

end Scan.Tidy

theorem trim_of_mem_lines {text : String} {line : List Char} (member : line ∈ Text.lines text) :
    Text.trim line = line := by
  rcases List.mem_map.mp member with ⟨piece, _, rfl⟩
  exact Text.trim_trim piece

/-- Every table of a dump is tidy. -/
theorem tidy_of_mem_analyze {text : String} {table : Table}
    (member : table ∈ (analyze text).toList) : table.Tidy := by
  have read : (scanFrom {} 1 (Text.lines text)).Tidy :=
    Scan.Tidy.start.scanFrom (fun _ => trim_of_mem_lines) (fun _ => not_mem_of_mem_lines) 1
  exact read.finish.closed table member

end Dump
end Recase
