import Recase.Dump.Header
import Recase.Identifier
import Recase.Schema

namespace Recase
namespace Dump

/-!
# Reading a dump

A dump is read line by line, in one pass from its beginning to its end.
Between two tables every line but a header is passed over.  Within a table
each line may declare a column or be a constraint, and the line `);` closes
the table.  A header closes the table before it as well, and so does the end
of the dump.  There is no dump that cannot be read.

What is worth telling the user on the way is noted in order.  The notices do
not influence the result.
-/

/-- What is told about the reading of a dump.  Lines are counted from one. -/
inductive Notice where
  /-- A table is complete.  The line is that of its header. -/
  | registered (table : String) (line columns constraints : Nat)
  /-- A header was read within a table.  The line is that of the new header. -/
  | interrupted (table : String) (line : Nat)
  /-- The dump ended within a table.  The line is that of its header. -/
  | unterminated (table : String) (line : Nat)
  deriving DecidableEq

/-- A table that is not closed yet, and the line of its header. -/
structure Block where
  table : Table
  line : Nat

/-- The table that a header opens, without columns or constraints. -/
def Header.table (header : Header) : Table where
  name := Identifier.unquote (String.ofList header.name)
  schema := header.schema.map (fun schema => Identifier.unquote (String.ofList schema))

/-- Add what a line in the body of a table contributes.  A line that is a
constraint or has a check declares no column. -/
def absorb (table : Table) (line : List Char) : Table :=
  if isConstraint line then
    { table with constraints := table.constraints.push (String.ofList line) }
  else if isCheck line then table
  else
    match column? line with
    | some name => { table with columns := table.columns.push (String.ofList name) }
    | none => table

/-- How far the reading has come: the tables that are closed, the table that
is open if there is one, and what has been noted. -/
structure Scan where
  schema : Schema := Schema.empty
  opened : Option Block := none
  notices : Array Notice := #[]

namespace Scan

def note (scan : Scan) (notice : Notice) : Scan :=
  { scan with notices := scan.notices.push notice }

def close (scan : Scan) (block : Block) : Scan where
  schema := scan.schema.insert block.table
  opened := none
  notices := scan.notices.push
    (.registered block.table.name block.line block.table.columns.size
      block.table.constraints.size)

/-- Open the table of a header.  A table that is still open is closed first. -/
def openTable (scan : Scan) (header : Header) (line : Nat) : Scan :=
  let ready :=
    match scan.opened with
    | some block => (scan.note (.interrupted block.table.name line)).close block
    | none => scan
  { ready with opened := some { table := header.table, line := line } }

def body (scan : Scan) (block : Block) (line : List Char) : Scan :=
  let filled := { block with table := absorb block.table line }
  if line = terminator then scan.close filled
  else { scan with opened := some filled }

/-- Read one line, given with its number. -/
def step (scan : Scan) (line : List Char) (number : Nat) : Scan :=
  match header? line with
  | some header => scan.openTable header number
  | none =>
      match scan.opened with
      | some block => scan.body block line
      | none => scan

/-- Come to the end of the dump.  A table that is still open is closed. -/
def finish (scan : Scan) : Scan :=
  match scan.opened with
  | some block => (scan.note (.unterminated block.table.name block.line)).close block
  | none => scan

end Scan

/-- Read lines, of which the first one has the given number. -/
def scanFrom (scan : Scan) (number : Nat) : List (List Char) -> Scan
  | [] => scan
  | line :: others => scanFrom (scan.step line number) (number + 1) others

def scan (text : String) : Scan :=
  (scanFrom {} 1 (Text.lines text)).finish

/-- The tables that a dump declares. -/
def analyze (text : String) : Schema :=
  (scan text).schema

end Dump
end Recase
