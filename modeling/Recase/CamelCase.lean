import Recase.Text.Pieces
import Recase.Text.Uppercase

namespace Recase

/-!
# From snake case to camel case

The segments of a name are the pieces between its underscores.  The first
segment stays as it is, and each of the others has its first character raised
to upper case, with its remaining characters untouched.  The underscores go.
An empty segment contributes nothing, so that a leading underscore makes the
first letter after it a capital, and underscores at the end or in a row leave
no trace.
-/

/-- Raise the first character of a text to upper case. -/
def capitalize : List Char -> List Char
  | [] => []
  | head :: tail => Text.upper head ++ tail

/-- The camel case of a text, character by character. -/
def camelChars (chars : List Char) : List Char :=
  match Text.pieces '_' chars with
  | [] => []
  | first :: others => first ++ others.flatMap capitalize

def camelCase (name : String) : String :=
  String.ofList (camelChars name.toList)

/-- Whether a name has an underscore, which is what makes it a candidate for
renaming. -/
def isSnake (name : String) : Bool :=
  name.toList.contains '_'

/-- The name that a table has after the migration. -/
def tableName (name : String) : String :=
  if isSnake name then camelCase name else name

end Recase
