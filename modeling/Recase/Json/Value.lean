import Recase.Text.Literal

namespace Recase

/-!
# JSON values and their two texts

The values that are written as JSON, and the two ways of writing them.  The
compact text has no space in it.  The pretty text has one item on each line,
two spaces for each level and a space behind the colon, and writes an empty
array or object as in the compact text.  The members of an object keep their
order.

Both texts write a string in the same way.  Only what the format does not
allow within quotes is escaped: the double quote, the backslash and the
controls below U+0020, those with a letter of their own by this letter and
the others by four digits.
-/

/-- A JSON value.  The only numbers that are ever written are counts. -/
inductive Json where
  | count (number : Nat)
  | string (text : String)
  | array (items : List Json)
  | object (members : List (String × Json))

namespace Json

def strings (texts : List String) : Json :=
  .array (texts.map .string)

/-- A number in base sixteen by exactly four digits, lower-case. -/
def fourDigits (number : Nat) : List Char :=
  let digits := Text.hexDigits number
  List.replicate (4 - digits.length) '0' ++ digits

/-- How a character is written within a string. -/
def escape (char : Char) : List Char :=
  match char with
  | '"' => ['\\', '"']
  | '\\' => ['\\', '\\']
  | '\x08' => ['\\', 'b']
  | '\x0c' => ['\\', 'f']
  | '\n' => ['\\', 'n']
  | '\r' => ['\\', 'r']
  | '\t' => ['\\', 't']
  | other => if other.toNat < 0x20 then '\\' :: 'u' :: fourDigits other.toNat else [other]

def quoted (text : String) : List Char :=
  '"' :: text.toList.flatMap escape ++ ['"']

mutual

def compactChars : Json -> List Char
  | .count number => Nat.toDigits 10 number
  | .string text => quoted text
  | .array items => '[' :: compactItems items ++ [']']
  | .object members => '\x7b' :: compactMembers members ++ ['\x7d']

def compactItems : List Json -> List Char
  | [] => []
  | [item] => compactChars item
  | item :: next :: others => compactChars item ++ ',' :: compactItems (next :: others)

def compactMembers : List (String × Json) -> List Char
  | [] => []
  | [(key, value)] => quoted key ++ ':' :: compactChars value
  | (key, value) :: next :: others =>
      quoted key ++ ':' :: compactChars value ++ ',' :: compactMembers (next :: others)

end

def compact (value : Json) : String :=
  String.ofList value.compactChars

/-- A new line at a level of nesting. -/
def newLine (level : Nat) : List Char :=
  '\n' :: List.replicate (2 * level) ' '

mutual

/-- The pretty text of a value that stands at a level of nesting. -/
def prettyChars (level : Nat) : Json -> List Char
  | .count number => Nat.toDigits 10 number
  | .string text => quoted text
  | .array [] => ['[', ']']
  | .array (item :: others) =>
      '[' :: newLine (level + 1) ++ prettyItems (level + 1) (item :: others) ++
        newLine level ++ [']']
  | .object [] => ['\x7b', '\x7d']
  | .object (member :: others) =>
      '\x7b' :: newLine (level + 1) ++ prettyMembers (level + 1) (member :: others) ++
        newLine level ++ ['\x7d']

/-- The pretty texts of items, each on a line of its own. -/
def prettyItems (level : Nat) : List Json -> List Char
  | [] => []
  | [item] => prettyChars level item
  | item :: next :: others =>
      prettyChars level item ++ ',' :: newLine level ++ prettyItems level (next :: others)

/-- The pretty texts of members, each on a line of its own. -/
def prettyMembers (level : Nat) : List (String × Json) -> List Char
  | [] => []
  | [(key, value)] => quoted key ++ ':' :: ' ' :: prettyChars level value
  | (key, value) :: next :: others =>
      quoted key ++ ':' :: ' ' :: prettyChars level value ++ ',' :: newLine level ++
        prettyMembers level (next :: others)

end

def pretty (value : Json) : String :=
  String.ofList (value.prettyChars 0)

inductive Layout where
  | compact
  | pretty
  deriving DecidableEq

def render (layout : Layout) (value : Json) : String :=
  match layout with
  | .compact => value.compact
  | .pretty => value.pretty

end Json
end Recase
