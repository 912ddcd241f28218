namespace Recase
namespace Text

/-!
# Sets of characters given by ranges

A character property of the Unicode standard is kept as the increasing list
of its maximal ranges of code points, both ends included.  The modules that
use one say which property they hold and nothing else, and membership is
decided here for all of them.
-/

/-- Whether no range is empty and each begins beyond the end of the one
before it, with a gap between the two. -/
def isIncreasing : List (Nat × Nat) -> Bool
  | [] => true
  | [(first, last)] => decide (first <= last)
  | (first, last) :: (next, limit) :: others =>
      decide (first <= last) && decide (last + 1 < next) &&
        isIncreasing ((next, limit) :: others)

/-- A search that stops at the first range that begins beyond the code point,
so that the low code points, which are the common ones, are decided by the
first few ranges. -/
def reaches : List (Nat × Nat) -> Nat -> Bool
  | [], _ => false
  | (first, last) :: others, point =>
      if point < first then false
      else if point <= last then true
      else reaches others point

structure Ranges where
  list : List (Nat × Nat)
  increasing : isIncreasing list = true

def Ranges.covers (ranges : Ranges) (point : Nat) : Bool :=
  reaches ranges.list point

end Text
end Recase
