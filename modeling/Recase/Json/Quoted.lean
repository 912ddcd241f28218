import Recase.Json.Token

namespace Recase
namespace Json

/-!
# Strings of a JSON text

A string is read behind its opening quote and up to its closing one.  An
escape with four hexadecimal digits gives one unit of the sixteen bit
encoding, so that a character beyond U+FFFF takes two of them, a first and a
second half in this order; a half without the other is a fault.

A string whose value is of no interest is only passed over.  There an escape
may give any unit.
-/

/-- The value of a hexadecimal digit of either case. -/
def hexValue? (char : Char) : Option Nat :=
  if char.isDigit then some (char.toNat - '0'.toNat)
  else if 'a' <= char ∧ char <= 'f' then some (char.toNat - 'a'.toNat + 10)
  else if 'A' <= char ∧ char <= 'F' then some (char.toNat - 'A'.toNat + 10)
  else none

def hexUnit? (first second third fourth : Char) : Option Nat := do
  let first ← hexValue? first
  let second ← hexValue? second
  let third ← hexValue? third
  let fourth ← hexValue? fourth
  return ((first * 16 + second) * 16 + third) * 16 + fourth

/-- The fault when four digits are missing.  Four bytes are taken for them
whatever they are, unless the text ends within them. -/
def hexFault (text : List Char) : Fault :=
  if (encoded (text.take 4)).length < 4 then .atEnd .endInString
  else { cause := .badEscape, rest := text, extra := 4 }

/-- Read the four digits of an escape. -/
def readUnit (text : List Char) : Outcome Nat text :=
  match text with
  | first :: second :: third :: fourth :: rest =>
      match hexUnit? first second third fourth with
      | some unit => .ok (unit, ⟨rest, by simp only [List.length_cons]; omega⟩)
      | none => .error (hexFault (first :: second :: third :: fourth :: rest))
  | short => .error (hexFault short)

def isFirstHalf (unit : Nat) : Bool :=
  decide (0xD800 <= unit) && decide (unit < 0xDC00)

def isSecondHalf (unit : Nat) : Bool :=
  decide (0xDC00 <= unit) && decide (unit < 0xE000)

def joinHalves (first second : Nat) : Char :=
  Char.ofNat (0x10000 + (first - 0xD800) * 0x400 + (second - 0xDC00))

/-- Read one character that must follow the first half of a pair. -/
def expectInPair (expected : Char) (text : List Char) : Except Fault (Shorter text) :=
  match text with
  | [] => .error (.atEnd .endInString)
  | char :: rest =>
      if char = expected then .ok (Shorter.tail char rest)
      else .error (.on .noSecondSurrogate char rest)

/-- Read the second half of a character, and join the two. -/
def secondHalf (first : Nat) (text : List Char) : Outcome Char text := do
  let backslash ← expectInPair '\\' text
  let letter ← expectInPair 'u' backslash.val
  let (second, rest) ← readUnit letter.val
  if isSecondHalf second then
    return (joinHalves first second, backslash.within (letter.within rest))
  else throw (.before .loneSurrogate rest.val)

/-- Read the character that is escaped by units. -/
def escapedUnits (text : List Char) : Outcome Char text := do
  let (unit, rest) ← readUnit text
  if isSecondHalf unit then throw (.before .loneSurrogate rest.val)
  else if isFirstHalf unit then
    let (char, left) ← secondHalf unit rest.val
    return (char, rest.within left)
  else return (Char.ofNat unit, rest)

/-- The character that a letter behind a backslash stands for. -/
def shortEscape? (letter : Char) : Option Char :=
  match letter with
  | '"' => some '"'
  | '\\' => some '\\'
  | '/' => some '/'
  | 'b' => some '\x08'
  | 'f' => some '\x0c'
  | 'n' => some '\n'
  | 'r' => some '\r'
  | 't' => some '\t'
  | _ => none

/-- Read an escaped character behind the backslash. -/
def escaped (text : List Char) : Outcome Char text :=
  match text with
  | [] => .error (.atEnd .endInString)
  | letter :: rest =>
      match shortEscape? letter with
      | some char => .ok (char, Shorter.tail letter rest)
      | none =>
          if letter = 'u' then
            match escapedUnits rest with
            | .ok (char, left) => .ok (char, (Shorter.tail letter rest).within left)
            | .error fault => .error fault
          else .error (.on .badEscape letter rest)

/-- Read characters up to the closing quote, behind those that have been read
already and are given in reverse. -/
def quotedFrom {text : List Char} (reversed : List Char) (current : Shorter text) :
    Outcome String text :=
  match current with
  | ⟨[], _⟩ => .error (.atEnd .endInString)
  | ⟨char :: rest, shorter⟩ =>
      let next : Shorter text := ⟨rest, Nat.lt_trans (Nat.lt_succ_self _) shorter⟩
      if char = '"' then .ok (String.ofList reversed.reverse, next)
      else if char = '\\' then
        match escaped rest with
        | .ok (escapedChar, left) => quotedFrom (escapedChar :: reversed) (next.within left)
        | .error fault => .error fault
      else if char.toNat < 0x20 then .error (.on .rawControl char rest)
      else quotedFrom (char :: reversed) next
  termination_by current.val.length
  decreasing_by
    · exact Nat.lt_trans left.property (Nat.lt_succ_self _)
    · exact Nat.lt_succ_self _

def skipEscaped (text : List Char) : Except Fault (Shorter text) :=
  match text with
  | [] => .error (.atEnd .endInString)
  | letter :: rest =>
      match shortEscape? letter with
      | some _ => .ok (Shorter.tail letter rest)
      | none =>
          if letter = 'u' then
            match readUnit rest with
            | .ok (_, left) => .ok ((Shorter.tail letter rest).within left)
            | .error fault => .error fault
          else .error (.on .badEscape letter rest)

/-- Pass over the characters up to the closing quote. -/
def skipQuoted {text : List Char} (current : Shorter text) : Except Fault (Shorter text) :=
  match current with
  | ⟨[], _⟩ => .error (.atEnd .endInString)
  | ⟨char :: rest, shorter⟩ =>
      let next : Shorter text := ⟨rest, Nat.lt_trans (Nat.lt_succ_self _) shorter⟩
      if char = '"' then .ok next
      else if char = '\\' then
        match skipEscaped rest with
        | .ok left => skipQuoted (next.within left)
        | .error fault => .error fault
      else if char.toNat < 0x20 then .error (.before .rawControl (char :: rest))
      else skipQuoted next
  termination_by current.val.length
  decreasing_by
    · exact Nat.lt_trans left.property (Nat.lt_succ_self _)
    · exact Nat.lt_succ_self _

end Json
end Recase
