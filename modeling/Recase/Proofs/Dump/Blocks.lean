import Recase.Dump.Scan
import Recase.Proofs.Schema.Latest

namespace Recase
namespace Dump

/-!
# A dump as a list of blocks

The reader of a dump goes from line to line and carries an open table with
it.  What it finds can be said without a state.  Every header stands before a
block: the lines behind it up to the first terminator, which still belongs to
the block, but never beyond the next header or the end of the dump.  The
header and its block determine a table, and the dump declares the last of
these tables under every name.

The link between the two readings is `schema_scanFrom`: it tells what the
reader will have inserted at the end, for every state in which it can be.  An
open table then still misses the block of the lines to come.
-/

/-! ## Blocks -/

/-- The block of a header, given the lines behind the header. -/
def block (lines : List (List Char)) : List (List Char) :=
  let body := lines.takeWhile fun line => (header? line).isNone
  body.takeWhile (fun line => line ≠ terminator) ++
    (body.dropWhile fun line => line ≠ terminator).take 1

def columnsOf (block : List (List Char)) : List String :=
  ((block.filter fun line => !isConstraint line && !isCheck line).filterMap column?).map
    String.ofList

/-- The constraints in a block, each of them a whole line. -/
def constraintsOf (block : List (List Char)) : List String :=
  (block.filter isConstraint).map String.ofList

theorem columnsOf_append (first second : List (List Char)) :
    columnsOf (first ++ second) = columnsOf first ++ columnsOf second := by
  simp only [columnsOf, List.filter_append, List.filterMap_append, List.map_append]

theorem constraintsOf_append (first second : List (List Char)) :
    constraintsOf (first ++ second) = constraintsOf first ++ constraintsOf second := by
  simp only [constraintsOf, List.filter_append, List.map_append]

/-- The table that a header declares together with its block. -/
def declaredTable (header : Header) (block : List (List Char)) : Table where
  name := Identifier.unquote (String.ofList header.name)
  schema := header.schema.map fun schema => Identifier.unquote (String.ofList schema)
  columns := (columnsOf block).toArray
  constraints := (constraintsOf block).toArray
  indices := #[]

/-- The table that is declared where a dump has been read up to the given
lines, if the first of them is a header. -/
def declaredHere? : List (List Char) -> Option Table
  | [] => none
  | line :: others => (header? line).map fun header => declaredTable header (block others)

/-- The tables that the headers of a dump declare, in the order of the
headers. -/
def declared (lines : List (List Char)) : List Table :=
  lines.tails.filterMap declaredHere?

theorem block_nil : block [] = [] :=
  rfl

/-- The next header is not a part of the block. -/
theorem block_of_header {line : List Char} {header : Header} (read : header? line = some header)
    (others : List (List Char)) : block (line :: others) = [] := by
  simp only [block, List.takeWhile_cons, read, Option.isNone_some, Bool.false_eq_true, if_false,
    List.takeWhile_nil, List.dropWhile_nil, List.take_nil, List.append_nil]

theorem header?_terminator : header? terminator = none := by
  decide +kernel

/-- The terminator is the last line of the block. -/
theorem block_of_terminator (others : List (List Char)) :
    block (terminator :: others) = [terminator] := by
  simp only [block, List.takeWhile_cons, header?_terminator, Option.isNone_none, if_true, ne_eq,
    not_true_eq_false, decide_false, Bool.false_eq_true, if_false, List.dropWhile_cons,
    List.take_succ_cons, List.take_zero, List.nil_append]

/-- Any other line belongs to the block and does not end it. -/
theorem block_of_body {line : List Char} (read : header? line = none)
    (continues : line ≠ terminator) (others : List (List Char)) :
    block (line :: others) = line :: block others := by
  simp only [block, List.takeWhile_cons, read, Option.isNone_none, if_true, ne_eq, continues,
    not_false_eq_true, decide_true, List.dropWhile_cons, List.cons_append]

theorem declared_nil : declared [] = [] :=
  rfl

theorem declared_of_header {line : List Char} {header : Header} (read : header? line = some header)
    (others : List (List Char)) :
    declared (line :: others) = declaredTable header (block others) :: declared others := by
  rw [declared, List.tails, List.filterMap_cons, declaredHere?, read]
  rfl

theorem declared_of_other {line : List Char} (read : header? line = none)
    (others : List (List Char)) : declared (line :: others) = declared others := by
  rw [declared, List.tails, List.filterMap_cons, declaredHere?, read]
  rfl

/-- There is one table for each header, in the order of the headers. -/
theorem names_declared (lines : List (List Char)) :
    (declared lines).map (fun table => (table.name, table.schema)) =
      (lines.filterMap header?).map fun header => (header.table.name, header.table.schema) := by
  induction lines with
  | nil => rfl
  | cons line others inductionHypothesis =>
      cases read : header? line with
      | none => rw [declared_of_other read, List.filterMap_cons_none read, inductionHypothesis]
      | some header =>
          rw [declared_of_header read, List.filterMap_cons_some read, List.map_cons, List.map_cons,
            inductionHypothesis]
          rfl

/-! ## Lines outside all blocks -/

/-- Whether no block that begins among the first lines reaches the lines
behind them. -/
def Outside (before after : List (List Char)) : Prop :=
  forall early line late, before = early ++ line :: late -> (header? line).isSome = true ->
    (block (late ++ after)).length ≤ late.length

/-- A block that ends before a line is the same without the line. -/
theorem block_of_stray {line : List Char} (read : header? line = none)
    (before after : List (List Char))
    (ends : (block (before ++ line :: after)).length ≤ before.length) :
    block (before ++ line :: after) = block (before ++ after) := by
  induction before with
  | nil =>
      rw [List.nil_append] at ends
      by_cases last : line = terminator
      · rw [last, block_of_terminator] at ends
        cases ends
      · rw [block_of_body read last] at ends
        cases ends
  | cons first before inductionHypothesis =>
      rw [List.cons_append] at ends
      rw [List.cons_append, List.cons_append]
      cases firstRead : header? first with
      | some header => rw [block_of_header firstRead, block_of_header firstRead]
      | none =>
          by_cases last : first = terminator
          · rw [last, block_of_terminator, block_of_terminator]
          · rw [block_of_body firstRead last, List.length_cons, List.length_cons] at ends
            rw [block_of_body firstRead last, block_of_body firstRead last,
              inductionHypothesis (Nat.le_of_succ_le_succ ends)]

/-- A line outside all blocks contributes nothing. -/
theorem declared_of_stray {line : List Char} (read : header? line = none)
    (before after : List (List Char)) (outside : Outside before (line :: after)) :
    declared (before ++ line :: after) = declared (before ++ after) := by
  induction before with
  | nil => exact declared_of_other read after
  | cons first before inductionHypothesis =>
      have further : Outside before (line :: after) := by
        intro early header late split
        apply outside (first :: early) header late
        rw [split, List.cons_append]
      rw [List.cons_append, List.cons_append]
      cases firstRead : header? first with
      | none =>
          rw [declared_of_other firstRead, declared_of_other firstRead,
            inductionHypothesis further]
      | some header =>
          have ends := outside [] first before rfl (by rw [firstRead]; rfl)
          rw [declared_of_header firstRead, declared_of_header firstRead,
            block_of_stray read before after ends, inductionHypothesis further]

/-! ## What a block adds to a table -/

/-- A table with the columns and the constraints of a block behind its own. -/
def extended (table : Table) (block : List (List Char)) : Table :=
  { table with
    columns := table.columns ++ (columnsOf block).toArray
    constraints := table.constraints ++ (constraintsOf block).toArray }

theorem extended_nil (table : Table) : extended table [] = table := by
  simp only [extended, columnsOf, constraintsOf, List.filter_nil, List.filterMap_nil, List.map_nil,
    Array.append_empty]

theorem extended_append (table : Table) (first second : List (List Char)) :
    extended (extended table first) second = extended table (first ++ second) := by
  simp only [extended, columnsOf_append, constraintsOf_append, ← List.append_toArray,
    Array.append_assoc]

/-- To absorb a line is to be extended by the block that consists of it. -/
theorem absorb_eq_extended (table : Table) (line : List Char) :
    absorb table line = extended table [line] := by
  unfold absorb extended columnsOf constraintsOf
  by_cases constraint : isConstraint line = true
  · simp only [constraint, if_true, List.filter_cons, Bool.not_true, Bool.false_and,
      Bool.false_eq_true, if_false, List.filter_nil, List.filterMap_nil, List.map_nil,
      List.map_cons, Array.append_empty, Array.push_eq_append]
  · have ordinary : isConstraint line = false := Bool.eq_false_iff.mpr constraint
    cases check : isCheck line with
    | true =>
        simp only [ordinary, check, Bool.false_eq_true, if_false, if_true, List.filter_cons,
          Bool.not_true, Bool.and_false, List.filter_nil, List.filterMap_nil, List.map_nil,
          Array.append_empty]
    | false =>
        cases named : column? line with
        | none =>
            simp only [ordinary, check, named, Bool.false_eq_true, if_false, if_true,
              List.filter_cons, Bool.not_false, Bool.and_true, List.filter_nil,
              List.filterMap_cons, List.filterMap_nil, List.map_nil, Array.append_empty]
        | some name =>
            simp only [ordinary, check, named, Bool.false_eq_true, if_false, if_true,
              List.filter_cons, Bool.not_false, Bool.and_true, List.filter_nil,
              List.filterMap_cons, List.filterMap_nil, List.map_cons, List.map_nil,
              Array.append_empty, Array.push_eq_append]

theorem extended_header (header : Header) (block : List (List Char)) :
    extended header.table block = declaredTable header block := by
  simp only [extended, declaredTable, Header.table, Array.empty_append]

/-! ## The reader and the blocks -/

/-- The table that is open in a state of the reader, once the lines to come
have been read. -/
def Scan.unfinished (scan : Scan) (lines : List (List Char)) : List Table :=
  scan.opened.toList.map fun opened => extended opened.table (block lines)

/-- What the reader will have inserted when it reaches the end: the table that
is open now, completed by the rest of its block, and then the table of every
header to come.  The induction follows the lines, and what a line does to the
open table is what it adds to its block. -/
theorem schema_scanFrom (scan : Scan) (number : Nat) (lines : List (List Char)) :
    (scanFrom scan number lines).finish.schema =
      (scan.unfinished lines ++ declared lines).foldl Schema.insert scan.schema := by
  induction lines generalizing scan number with
  | nil =>
      cases opened : scan.opened with
      | none =>
          simp only [scanFrom, Scan.finish, Scan.unfinished, opened, Option.toList_none,
            List.map_nil, declared_nil, List.append_nil, List.foldl_nil]
      | some table =>
          simp only [scanFrom, Scan.finish, Scan.unfinished, opened, Scan.close, Scan.note,
            Option.toList_some, List.map_cons, List.map_nil, block_nil, extended_nil,
            declared_nil, List.append_nil, List.foldl_cons, List.foldl_nil]
  | cons line others inductionHypothesis =>
      rw [scanFrom, inductionHypothesis]
      cases read : header? line with
      | some header =>
          rw [declared_of_header read, ← extended_header]
          cases opened : scan.opened with
          | none =>
              simp only [Scan.step, read, Scan.openTable, Scan.unfinished, opened,
                Option.toList_some, Option.toList_none, List.map_cons, List.map_nil,
                List.cons_append, List.nil_append]
          | some table =>
              simp only [Scan.step, read, Scan.openTable, Scan.unfinished, opened, Scan.close,
                Scan.note, Option.toList_some, List.map_cons, List.map_nil, List.cons_append,
                List.nil_append, block_of_header read, extended_nil, List.foldl_cons]
      | none =>
          rw [declared_of_other read]
          cases opened : scan.opened with
          | none =>
              simp only [Scan.step, read, Scan.unfinished, opened, Option.toList_none,
                List.map_nil, List.nil_append]
          | some table =>
              by_cases last : line = terminator
              · subst last
                simp only [Scan.step, read, Scan.unfinished, opened, Scan.body, if_true,
                  Scan.close, absorb_eq_extended, block_of_terminator, Option.toList_none,
                  Option.toList_some, List.map_cons, List.map_nil, List.nil_append,
                  List.cons_append, List.foldl_cons]
              · simp only [Scan.step, read, Scan.unfinished, opened, Scan.body, if_neg last,
                  absorb_eq_extended, block_of_body read last, Option.toList_some,
                  List.map_cons, List.map_nil, extended_append, List.singleton_append]

/-- Reading a dump inserts the declared tables one after another. -/
theorem analyze_eq_ofList (text : String) :
    analyze text = Schema.ofList (declared (Text.lines text)) :=
  schema_scanFrom {} 1 (Text.lines text)

theorem toList_analyze (text : String) :
    (analyze text).toList = Schema.latest (declared (Text.lines text)) := by
  rw [analyze_eq_ofList, Schema.toList_ofList]

theorem nodup_names_analyze (text : String) :
    ((analyze text).toList.map Table.name).Nodup := by
  rw [analyze_eq_ofList]
  exact Schema.nodup_names_ofList _

/-- A dump is read as its blocks say.  Every header declares one table, in the
order of the headers.  The dump has one table for every name among them, in
the order of the first header of the name, and this table is the one that the
last header of the name declares.  A line in no block might as well be
missing. -/
theorem analyze_reads_blocks (text : String) :
    ((declared (Text.lines text)).map fun table => (table.name, table.schema)) =
        ((Text.lines text).filterMap header?).map
          (fun header => (header.table.name, header.table.schema)) ∧
      (analyze text).names = Schema.distinctNames (declared (Text.lines text)) ∧
      (analyze text).toList = Schema.latest (declared (Text.lines text)) ∧
      forall before line after, Text.lines text = before ++ line :: after ->
        header? line = none -> Outside before (line :: after) ->
          (analyze text).toList = Schema.latest (declared (before ++ after)) := by
  have tables : (analyze text).toList = Schema.latest (declared (Text.lines text)) := by
    rw [analyze_eq_ofList, Schema.toList_ofList]
  refine ⟨names_declared _, ?_, tables, ?_⟩
  · rw [← Schema.names_latest, ← tables]
    rfl
  · intro before line after split read outside
    rw [tables, split, declared_of_stray read before after outside]

end Dump
end Recase
