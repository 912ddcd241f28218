import Recase.Decimal.Text
import Recase.Json.Token

namespace Recase
namespace Json

/-!
# Numbers of a JSON text

No option is a number, so numbers are only read to tell the user what was
found in the place of something else.  A number has an optional minus sign,
digits without a superfluous zero in front, and optionally a point with digits
and an exponent.

A number with neither point nor exponent is an integer if it fits into
sixty-four bits, with or without a sign.  Any other number is brought to
double precision in the quick way: the leading digits that fit into sixty-four
bits are converted and then multiplied or divided by a power of ten.  The
result can differ from the nearest number in the last place, and the message
shows it as it is.
-/

/-- A run of digits at the beginning of a text, and what follows it. -/
def digitRun (text : List Char) : List Char × List Char :=
  (text.takeWhile Char.isDigit, text.dropWhile Char.isDigit)

def integralDigits (text : List Char) : Except Fault (List Char × List Char) :=
  match text with
  | [] => .error (.atEnd .endInValue)
  | first :: rest =>
      if first = '0' then
        match rest with
        | next :: after =>
            if next.isDigit then .error (.on .badNumber next after)
            else .ok (['0'], next :: after)
        | [] => .ok (['0'], [])
      else if first.isDigit then .ok (digitRun (first :: rest))
      else .error (.on .badNumber first rest)

def fractionDigits (text : List Char) : Except Fault (List Char × List Char) :=
  match text with
  | [] => .error (.atEnd .endInValue)
  | first :: rest =>
      if first.isDigit then .ok (digitRun (first :: rest))
      else .error (.on .badNumber first rest)

/-- Read the sign of an exponent.  The result says whether it is negative. -/
def exponentSign (text : List Char) : Bool × List Char :=
  match text with
  | '+' :: rest => (false, rest)
  | '-' :: rest => (true, rest)
  | other => (false, other)

def isExponentMark (char : Char) : Bool :=
  char == 'e' || char == 'E'

/-- The largest natural number of sixty-four bits. -/
def wordLimit : Nat := Nat.pow 2 64 - 1

/-- Append digits to a number of sixty-four bits.  From the first digit on that
does not fit all are dropped, and their number is counted. -/
def appendDigits (number : Nat) : List Char -> Nat × Nat
  | [] => (number, 0)
  | digit :: others =>
      let longer := number * 10 + (digit.toNat - '0'.toNat)
      if wordLimit < longer then (number, others.length + 1)
      else appendDigits longer others

def powerOfTen (exponent : Nat) : Float :=
  Float.ofScientific 1 false exponent

/-- Multiply a number by a power of ten, or divide it by one.  No power beyond
the range of the numbers is used: a larger exponent gives a result that is too
large, and a smaller one is reached in steps, which stop at zero. -/
def scaleByTen (value : Float) (exponent : Int) : Option Float :=
  if 0 <= exponent then
    if exponent <= 308 then
      let scaled := value * powerOfTen exponent.toNat
      if scaled.isInf then none else some scaled
    else if value == 0 then some value
    else none
  else if -308 <= exponent then some (value / powerOfTen (-exponent).toNat)
  else if value == 0 then some value
  else scaleByTen (value / powerOfTen 308) (exponent + 308)
  termination_by (-exponent).toNat
  decreasing_by omega

/-- The value of an unsigned number, when a power of ten is still to be
applied to its leading digits. -/
def realOf (leading : Nat) (exponent : Int) (rest : List Char) :
    Except Fault (Float × List Char) :=
  match scaleByTen (Float.ofNat leading) exponent with
  | some value => .ok (value, rest)
  | none => .error (.before .numberTooLarge rest)

/-- The largest exponent that is computed with. -/
def exponentLimit : Nat := Nat.pow 2 31 - 1

/-- The number of the digits of an exponent, and those that remain when it
grows too large. -/
def exponentDigits (number : Nat) : List Char -> Nat × Option (List Char)
  | [] => (number, none)
  | digit :: others =>
      let longer := number * 10 + (digit.toNat - '0'.toNat)
      if exponentLimit < longer then (number, some others) else exponentDigits longer others

/-- Read an exponent behind its mark, and apply it.  An exponent that is too
large to compute with gives zero if the digits are zero or its sign is
negative, and is a fault at the digit where this shows otherwise. -/
def realWithExponent (leading : Nat) (exponent : Int) (text : List Char) :
    Except Fault (Float × List Char) :=
  let (negative, unsigned) := exponentSign text
  match unsigned with
  | [] => .error (.atEnd .endInValue)
  | first :: after =>
      if first.isDigit then
        let (digits, rest) := digitRun (first :: after)
        match exponentDigits 0 digits with
        | (number, none) =>
            realOf leading (if negative then exponent - number else exponent + number) rest
        | (_, some others) =>
            if leading ≠ 0 ∧ negative = false then
              .error (.before .numberTooLarge (others ++ rest))
            else .ok (0, rest)
      else .error (.on .badNumber first after)

/-- Read what may follow the digits that have been read so far. -/
def realFrom (leading : Nat) (exponent : Int) (text : List Char) :
    Except Fault (Float × List Char) :=
  match text with
  | char :: rest =>
      if isExponentMark char then realWithExponent leading exponent rest
      else realOf leading exponent text
  | [] => realOf leading exponent text

/-- Read the digits behind the point, and what may follow them. -/
def realWithFraction (leading : Nat) (exponent : Int) (text : List Char) :
    Except Fault (Float × List Char) :=
  match fractionDigits text with
  | .error fault => .error fault
  | .ok (digits, rest) =>
      let (longer, dropped) := appendDigits leading digits
      realFrom longer (exponent - (digits.length - dropped : Nat)) rest

/-- What is said about a real number with its sign. -/
def foundReal (negative : Bool) : Float × List Char -> Found × List Char
  | (value, rest) => (.real (Decimal.text (if negative then -value else value)), rest)

/-- What is said about an integer with its sign.  There is no negative zero
among the integers, and no integer below the least one with a sign. -/
def foundInteger (negative : Bool) (number : Nat) : Found :=
  if negative then
    if number = 0 ∨ Nat.pow 2 63 < number then .real (Decimal.text (-Float.ofNat number))
    else .integer (-number)
  else .integer number

/-- Read a number behind its sign, to say what it is. -/
def number (negative : Bool) (text : List Char) : Except Fault (Found × List Char) := do
  let (digits, rest) ← integralDigits text
  let (leading, dropped) := appendDigits 0 digits
  match rest with
  | char :: after =>
      if char = '.' then
        return foundReal negative (← realWithFraction leading dropped after)
      else if isExponentMark char || decide (0 < dropped) then
        return foundReal negative (← realFrom leading dropped rest)
      else return (foundInteger negative leading, rest)
  | [] =>
      if 0 < dropped then return foundReal negative (← realFrom leading dropped [])
      else return (foundInteger negative leading, [])

end Json
end Recase
