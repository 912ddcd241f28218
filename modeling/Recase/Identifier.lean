namespace Recase
namespace Identifier

/-!
# Identifiers

A name of a table, a column or a schema is an arbitrary text.  In a script it
is written bare where that is possible: a bare identifier consists of ASCII
letters, digits and underscores and does not begin with a digit.  Every other
name is written between double quotes, each double quote in it twice.  In a
dump names may carry their quotes, and these are removed to obtain the name.
-/

/-- Whether a character may begin a bare identifier. -/
def isHead (char : Char) : Bool :=
  char.isAlpha || char == '_'

def isTail (char : Char) : Bool :=
  char.isAlphanum || char == '_'

/-- Whether a name can be written bare. -/
def isPlain (name : String) : Bool :=
  match name.toList with
  | [] => false
  | head :: tail => isHead head && tail.all isTail

/-- The text between the double quotes around a name, if it stands between
two of them.  A single double quote is not its own partner. -/
def inner? (name : String) : Option String :=
  match name.toList with
  | '"' :: rest =>
      if rest.getLast? = some '"' then some (String.ofList rest.dropLast) else none
  | _ => none

def isQuoted (name : String) : Bool :=
  (inner? name).isSome

/-- A name without the double quotes around it.  Doubled quotes inside are
kept as they are. -/
def unquote (name : String) : String :=
  (inner? name).getD name

/-- A name between double quotes, with each double quote in it doubled. -/
def quote (name : String) : String :=
  String.ofList
    ('"' :: name.toList.flatMap (fun char => if char = '"' then ['"', '"'] else [char]) ++ ['"'])

/-- A name as a statement has to write it: bare if it can be, and between
double quotes otherwise. -/
def written (name : String) : String :=
  if isPlain name then name else quote name

end Identifier
end Recase
