import Recase.Dump.Name
import Recase.Text.Pieces

namespace Recase
namespace Dump

/-!
# Lines that open or fill a table

A table begins with a header, the line `CREATE TABLE`, possibly
`IF NOT EXISTS`, and the name of the table with or without its schema before
a dot.  What follows the name is not looked at.  When no name follows
`IF NOT EXISTS`, these words are read as the beginning of a name, so that
their first one names the table.  In the body of a table a line declares a
column when it begins with a name and a blank follows.
-/

/-- The names in a header, with the quotes that they are written with. -/
structure Header where
  schema : Option (List Char)
  name : List Char
  deriving DecidableEq

/-- The name of a table, preceded by the name of its schema when a dot and a
second name follow the first one. -/
def qualifiedName? (chars : List Char) : Option Header :=
  match leadingName? chars with
  | none => none
  | some (first, rest) =>
      match rest with
      | '.' :: afterDot =>
          match leadingName? afterDot with
          | some (second, _) => some { schema := some first, name := second }
          | none => some { schema := none, name := first }
      | _ => some { schema := none, name := first }

/-- The names that follow the words `CREATE TABLE`. -/
def declaredName? (chars : List Char) : Option Header :=
  ((afterKeyword? "IF NOT EXISTS".toList chars).bind qualifiedName?).or (qualifiedName? chars)

def header? (line : List Char) : Option Header :=
  (afterKeyword? "CREATE TABLE".toList line).bind declaredName?

def column? (line : List Char) : Option (List Char) :=
  match leadingName? line with
  | some (name, char :: _) => if Text.isBlank char then some name else none
  | _ => none

def isConstraint (line : List Char) : Bool :=
  Text.occursIn "CONSTRAINT".toList line

/-- Whether a line has a check.  Such a line declares no column. -/
def isCheck (line : List Char) : Bool :=
  Text.occursIn "CHECK".toList line

/-- The line that closes a table. -/
def terminator : List Char :=
  [')', ';']

end Dump
end Recase
