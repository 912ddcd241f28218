import Recase.Json.Skip

namespace Recase
namespace Json

/-!
# Readers of typed values

A reader takes a text at the place where a value must begin.  It gives the
value, if one of its type is there, and what is left of the text.  A value of
another type is looked at as far as is needed to tell the user what it is; a
list or an object is not entered for that.
-/

/-- A reader of values of one type. -/
abbrev Reader (α : Type) := (text : List Char) -> Outcome α text

/-- What a value is that begins with a given character, and what is left
behind it. -/
def found (char : Char) (rest : List Char) : Except Fault (Found × List Char) :=
  if char = 'n' then (word ['u', 'l', 'l'] rest).map fun left => (.null, left.val)
  else if char = 't' then (word ['r', 'u', 'e'] rest).map fun left => (.boolean true, left.val)
  else if char = 'f' then
    (word ['a', 'l', 's', 'e'] rest).map fun left => (.boolean false, left.val)
  else if char = '-' then number true rest
  else if char = '"' then
    (quotedFrom [] (Shorter.tail char rest)).map fun (value, left) => (.string value, left.val)
  else if char = '[' then .ok (.list, char :: rest)
  else if char = '\x7b' then .ok (.object, char :: rest)
  else if char.isDigit then number false (char :: rest)
  else .error (.on .noValue char rest)

/-- The fault of a value that begins with a given character and is not of the
expected type.  A value that cannot be read has a fault of its own. -/
def mismatch (expected : Expected) (char : Char) (rest : List Char) : Fault :=
  match found char rest with
  | .ok (what, left) => .before (.wrongType what expected) left
  | .error fault => fault

def readString : Reader String := fun text =>
  match token? text with
  | none => .error (.atEnd .endInValue)
  | some (char, rest) =>
      if char = '"' then quotedFrom [] rest else .error (mismatch .string char rest.val)

/-- Read the items of a list up to its closing bracket. -/
def itemsFrom {α : Type} (reader : Reader α) (first : Bool) (text : List Char) :
    Outcome (List α) text :=
  match listTurn first text with
  | .error fault => .error fault
  | .ok (.close rest) => .ok ([], rest)
  | .ok (.item start) =>
      match reader start.val with
      | .error fault => .error fault
      | .ok (item, rest) =>
          match itemsFrom reader false rest.val with
          | .error fault => .error fault
          | .ok (items, left) => .ok (item :: items, start.within (rest.within left))
  termination_by text.length
  decreasing_by exact Nat.lt_of_lt_of_le rest.property start.property

def readList {α : Type} (reader : Reader α) : Reader (List α) := fun text =>
  match token? text with
  | none => .error (.atEnd .endInValue)
  | some (char, rest) =>
      if char = '[' then
        (itemsFrom reader true rest.val).map fun (items, left) => (items, rest.within left)
      else .error (mismatch .list char rest.val)

def readStrings : Reader (List String) :=
  readList readString

/-- Read one item of a list whose items are of different types.  There is none
when the list has come to its end, behind which the text goes on. -/
def itemOrEnd {α : Type} (reader : Reader α) (first : Bool) : Reader (Option α) := fun text =>
  match listTurn first text with
  | .error fault => .error fault
  | .ok (.close rest) => .ok (none, rest)
  | .ok (.item start) =>
      (reader start.val).map fun (item, rest) => (some item, start.within rest)

/-- How a member of an object changes what has been read of it, from its key
and the text behind the key. -/
abbrev MemberReader (σ : Type) := σ -> String -> Reader σ

/-- Read the members of an object up to its closing brace. -/
def membersFrom {σ : Type} (member : MemberReader σ) (state : σ) (first : Bool)
    (text : List Char) : Outcome σ text :=
  match objectTurn first text with
  | .error fault => .error fault
  | .ok (.close rest) => .ok (state, rest)
  | .ok (.key start) =>
      match quotedFrom [] start with
      | .error fault => .error fault
      | .ok (key, behindKey) =>
          match member state key behindKey.val with
          | .error fault => .error fault
          | .ok (next, rest) =>
              match membersFrom member next false rest.val with
              | .error fault => .error fault
              | .ok (final, left) => .ok (final, behindKey.within (rest.within left))
  termination_by text.length
  decreasing_by exact Nat.lt_trans rest.property behindKey.property

/-- The fault of a key that occurs for the second time.  It is noticed behind
the key and the blanks that follow it; a closing brace there is counted in. -/
def repeatedFault (key : String) (text : List Char) : Fault :=
  match token? text with
  | none => .atEnd (.repeatedField key)
  | some (char, rest) =>
      .before (.repeatedField key) (if char = '\x7d' then rest.val else char :: rest.val)

/-- Read a member whose key is known, unless it has a value already. -/
def readField {α : Type} (key : String) (present : Option α) (reader : Reader α) :
    Reader α := fun text =>
  match present with
  | some _ => .error (repeatedFault key text)
  | none =>
      match colon text with
      | .error fault => .error fault
      | .ok rest => (reader rest.val).map fun (value, left) => (value, rest.within left)

/-- Pass over a member whose key is not known. -/
def skipField (text : List Char) : Except Fault (Shorter text) :=
  match colon text with
  | .error fault => .error fault
  | .ok rest => (skipValue rest.val).map fun left => rest.within left

/-- Read a record in either of its forms. -/
def readRecord {α : Type} (name : String) (items members : Reader α) :
    Reader α := fun text =>
  match token? text with
  | none => .error (.atEnd .endInValue)
  | some (char, rest) =>
      if char = '[' then
        (items rest.val).map fun (value, left) => (value, rest.within left)
      else if char = '\x7b' then
        (members rest.val).map fun (value, left) => (value, rest.within left)
      else .error (mismatch (.record name) char rest.val)

end Json
end Recase
