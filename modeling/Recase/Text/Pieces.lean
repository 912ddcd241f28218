import Recase.Text.Blank

namespace Recase
namespace Text

/-!
# Pieces of a text

A text is cut at a separating character into the pieces between its
occurrences.  There is always one piece more than there are separators, so a
separator at either end, and two in a row, leave an empty piece.  Lines are
the pieces at the line feed, and the segments of a name are its pieces at the
underscore.
-/

/-- Extend a text that is cut already by one character on its left. -/
def extendPieces (separator char : Char) : List (List Char) -> List (List Char)
  | [] => [[char]]
  | piece :: others =>
      if char = separator then [] :: piece :: others
      else (char :: piece) :: others

/-- The pieces of a text between the occurrences of a separator. -/
def pieces (separator : Char) (chars : List Char) : List (List Char) :=
  chars.foldr (extendPieces separator) [[]]

theorem pieces_nil (separator : Char) : pieces separator [] = [[]] :=
  rfl

theorem pieces_cons (separator char : Char) (chars : List Char) :
    pieces separator (char :: chars) =
      extendPieces separator char (pieces separator chars) :=
  rfl

theorem pieces_ne_nil (separator : Char) (chars : List Char) :
    pieces separator chars ≠ [] := by
  cases chars with
  | nil => simp [pieces_nil]
  | cons char chars =>
    rw [pieces_cons]
    cases pieces separator chars with
    | nil => simp [extendPieces]
    | cons piece others =>
      by_cases same : char = separator <;> simp [extendPieces, same]

/-- Cutting at a separator between two texts cuts each of them by itself. -/
theorem pieces_append_separator (separator : Char) (left right : List Char) :
    pieces separator (left ++ separator :: right) =
      pieces separator left ++ pieces separator right := by
  induction left with
  | nil =>
    rw [List.nil_append, pieces_cons, pieces_nil]
    cases rest : pieces separator right with
    | nil => exact absurd rest (pieces_ne_nil separator right)
    | cons piece others => simp [extendPieces]
  | cons char left ih =>
    rw [List.cons_append, pieces_cons, pieces_cons, ih]
    cases rest : pieces separator left with
    | nil => exact absurd rest (pieces_ne_nil separator left)
    | cons piece others =>
      by_cases same : char = separator <;> simp [extendPieces, same]

/-- The lines of a text, without the blanks around them.  A carriage return
before the line feed is a blank and goes with the others, and a line feed at
the very end leaves an empty last line. -/
def lines (text : String) : List (List Char) :=
  (pieces '\n' text.toList).map trim

def occursIn (word : List Char) : List Char -> Bool
  | [] => word.isEmpty
  | char :: rest => word.isPrefixOf (char :: rest) || occursIn word rest

end Text
end Recase
