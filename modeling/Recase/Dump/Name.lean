import Recase.Text.Blank
import Recase.Text.Word

namespace Recase
namespace Dump

/-!
# Names at the beginning of a line

A dump writes a name in one of two ways.  A bare name is a run of word
characters, and it is read as far as the run goes.  A quoted name stands
between double quotes and has at least one character between them, which may
be any character but a double quote.  The quotes are kept here, since columns
are listed with them.
-/

/-- The quoted name at the beginning of a text, once its opening quote has
been read, and what follows the closing quote. -/
def quotedName? (chars : List Char) : Option (List Char × List Char) :=
  match chars.takeWhile (· != '"'), chars.dropWhile (· != '"') with
  | head :: tail, _ :: rest => some ('"' :: head :: tail ++ ['"'], rest)
  | _, _ => none

/-- The name at the beginning of a text, and what follows it. -/
def leadingName? : List Char -> Option (List Char × List Char)
  | [] => none
  | char :: chars =>
      if char = '"' then quotedName? chars
      else if Text.isWord char then
        some (char :: chars.takeWhile Text.isWord, chars.dropWhile Text.isWord)
      else none

/-- What follows a keyword and at least one blank.  All the blanks are read. -/
def afterKeyword? (keyword line : List Char) : Option (List Char) :=
  if keyword.isPrefixOf line then
    match line.drop keyword.length with
    | char :: rest => if Text.isBlank char then some (Text.trimLeft rest) else none
    | [] => none
  else none

end Dump
end Recase
