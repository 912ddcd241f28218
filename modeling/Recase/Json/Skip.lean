import Recase.Json.Numeral
import Recase.Json.Quoted

namespace Recase
namespace Json

/-!
# Passing over a value

A member that is not known may have any value.  It is passed over without
being built, at whatever depth it nests, so the brackets that are open are
kept in a list.  Every step takes at least one character, which bounds their
number.  Numbers and strings are held to their grammar only: their range and
the pairing of surrogates do not matter.
-/

/-- Pass over a run of at least one digit. -/
def skipDigits (text : List Char) : Except Fault (Shorter text) :=
  match text with
  | [] => .error (.atEnd .badNumber)
  | first :: rest =>
      if first.isDigit then
        .ok ⟨rest.dropWhile Char.isDigit,
          Nat.lt_succ_of_le (List.dropWhile_suffix Char.isDigit).length_le⟩
      else .error (.on .badNumber first rest)

def skipIntegral (text : List Char) : Except Fault (Shorter text) :=
  match text with
  | '0' :: next :: rest =>
      if next.isDigit then .error (.on .badNumber next rest)
      else .ok (Shorter.tail '0' (next :: rest))
  | other => skipDigits other

/-- Pass over the digits of an exponent and their sign. -/
def skipSigned (text : List Char) : Except Fault (Shorter text) :=
  match text with
  | [] => skipDigits []
  | sign :: rest =>
      if sign = '+' || sign = '-' then
        (skipDigits rest).map fun left => (Shorter.tail sign rest).within left
      else skipDigits (sign :: rest)

/-- Pass over an exponent, if there is one. -/
def skipExponent (text : List Char) : Except Fault (NoLonger text) :=
  match text with
  | [] => .ok ⟨[], Nat.le_refl _⟩
  | mark :: rest =>
      if isExponentMark mark then
        (skipSigned rest).map fun left =>
          ⟨left.val, Nat.le_of_lt (Nat.lt_trans left.property (Nat.lt_succ_self _))⟩
      else .ok ⟨mark :: rest, Nat.le_refl _⟩

/-- Pass over a fraction and an exponent, if there are any. -/
def skipFraction (text : List Char) : Except Fault (NoLonger text) :=
  match text with
  | '.' :: rest =>
      match skipDigits rest with
      | .ok digits =>
          let behind := (Shorter.tail '.' rest).within digits
          (skipExponent digits.val).map fun left =>
            ⟨left.val, Nat.le_of_lt (behind.upTo left).property⟩
      | .error fault => .error fault
  | other => skipExponent other

def skipNumber (text : List Char) : Except Fault (Shorter text) :=
  match skipIntegral text with
  | .ok integral => (skipFraction integral.val).map fun left => integral.upTo left
  | .error fault => .error fault

inductive Bracket where
  | list
  | object
  deriving DecidableEq

/-- The fault of a text that ends within a bracket. -/
def Bracket.endCause : Bracket -> Cause
  | .list => .endInList
  | .object => .endInObject

/-- The fault of a value within a bracket that neither a comma nor the end of
the bracket follows. -/
def Bracket.commaCause : Bracket -> Cause
  | .list => .noCommaInList
  | .object => .noCommaInObject

def Bracket.closing : Bracket -> Char
  | .list => ']'
  | .object => '\x7d'

/-- Where the reading stands, with the brackets that are open, the innermost
one first. -/
inductive Place where
  /-- A value must come next. -/
  | value (outer : List Bracket)
  /-- A bracket has just been opened. -/
  | opened (bracket : Bracket) (outer : List Bracket)
  /-- A value in a bracket is complete. -/
  | complete (bracket : Bracket) (outer : List Bracket)

/-- Where the reading stands behind a value.  Outside all brackets it is at
its end. -/
def Place.behind? : List Bracket -> Option Place
  | [] => none
  | bracket :: outer => some (.complete bracket outer)

/-- Pass over a value without brackets, or over the bracket that opens one.
The first character of the value has been read. -/
def skipHead {text : List Char} (outer : List Bracket) (char : Char) (rest : Shorter text) :
    Except Fault (Option Place × Shorter text) :=
  let behind := Place.behind? outer
  if char = 'n' then (word ['u', 'l', 'l'] rest.val).map fun left => (behind, rest.upTo left)
  else if char = 't' then (word ['r', 'u', 'e'] rest.val).map fun left => (behind, rest.upTo left)
  else if char = 'f' then
    (word ['a', 'l', 's', 'e'] rest.val).map fun left => (behind, rest.upTo left)
  else if char = '-' then (skipNumber rest.val).map fun left => (behind, rest.within left)
  else if char = '"' then (skipQuoted rest).map fun left => (behind, left)
  else if char = '[' then .ok (some (.opened .list outer), rest)
  else if char = '\x7b' then .ok (some (.opened .object outer), rest)
  else if char.isDigit then
    (skipNumber (char :: rest.val)).map fun left =>
      (behind, rest.upTo ⟨left.val, Nat.le_of_lt_succ left.property⟩)
  else .error (.on .noValue char rest.val)

def skipKey (text : List Char) : Except Fault (Shorter text) :=
  match token? text with
  | none => .error (.atEnd .endInObject)
  | some (char, rest) =>
      if char = '"' then
        match skipQuoted rest with
        | .ok key => (colon key.val).map fun left => key.within left
        | .error fault => .error fault
      else .error (.on .keyWithoutQuotes char rest)

/-- Take one step: a value without brackets, an opening or closing bracket, or
a comma or an opening brace with the key behind it.  There is no further place
once the value is complete. -/
def skipStep (place : Place) (text : List Char) : Except Fault (Option Place × Shorter text) :=
  match place with
  | .value outer =>
      match token? text with
      | none => .error (.atEnd .endInValue)
      | some (char, rest) => skipHead outer char rest
  | .opened bracket outer =>
      match token? text with
      | none => .error (.atEnd bracket.endCause)
      | some (char, rest) =>
          if char = bracket.closing then .ok (Place.behind? outer, rest)
          else
            match bracket with
            | .list => skipHead (.list :: outer) char rest
            | .object => (skipKey text).map fun left => (some (.value (.object :: outer)), left)
  | .complete bracket outer =>
      match token? text with
      | none => .error (.atEnd bracket.endCause)
      | some (char, rest) =>
          if char = bracket.closing then .ok (Place.behind? outer, rest)
          else if char = ',' then
            match bracket with
            | .list => .ok (some (.value (.list :: outer)), rest)
            | .object =>
                (skipKey rest.val).map fun left =>
                  (some (.value (.object :: outer)), rest.within left)
          else .error (.on bracket.commaCause char rest)

/-- Take steps until the value is complete. -/
def skipFrom {text : List Char} (place : Place) (current : Shorter text) :
    Except Fault (Shorter text) :=
  match skipStep place current.val with
  | .error fault => .error fault
  | .ok (none, left) => .ok (current.within left)
  | .ok (some next, left) => skipFrom next (current.within left)
  termination_by current.val.length
  decreasing_by exact left.property

def skipValue (text : List Char) : Except Fault (Shorter text) :=
  match skipStep (.value []) text with
  | .error fault => .error fault
  | .ok (none, left) => .ok left
  | .ok (some next, left) => skipFrom next left

end Json
end Recase
