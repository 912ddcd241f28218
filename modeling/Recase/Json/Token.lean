import Recase.Json.Fault

namespace Recase
namespace Json

/-!
# Reading along a JSON text

A text is read from its beginning, and each reader returns what is left of
it, together with the fact that this is shorter than what it was given.  The
readers of nested values therefore end for a reason that is in their types.
Here are the steps that all of them share: the next character that is not a
blank, and what stands between the items of a list or the members of an
object.
-/

/-- A text that is shorter than another one. -/
abbrev Shorter (text : List Char) := { rest : List Char // rest.length < text.length }

/-- What is shorter than a shorter text. -/
def Shorter.within {text : List Char} (nearer : Shorter text) (rest : Shorter nearer.val) :
    Shorter text :=
  ⟨rest.val, Nat.lt_trans rest.property nearer.property⟩

abbrev NoLonger (text : List Char) := { rest : List Char // rest.length <= text.length }

/-- What is not longer than a shorter text. -/
def Shorter.upTo {text : List Char} (nearer : Shorter text) (rest : NoLonger nearer.val) :
    Shorter text :=
  ⟨rest.val, Nat.lt_of_le_of_lt rest.property nearer.property⟩

/-- What is shorter than a text that is not longer. -/
def NoLonger.within {text : List Char} (nearer : NoLonger text) (rest : Shorter nearer.val) :
    Shorter text :=
  ⟨rest.val, Nat.lt_of_lt_of_le rest.property nearer.property⟩

/-- A text behind its first character. -/
def Shorter.tail (char : Char) (rest : List Char) : Shorter (char :: rest) :=
  ⟨rest, Nat.lt_succ_self _⟩

/-- What a reader makes of a text: a value and what is left, or a fault. -/
abbrev Outcome (α : Type) (text : List Char) := Except Fault (α × Shorter text)

/-- The blanks of a JSON text. -/
def isSpace (char : Char) : Bool :=
  char == ' ' || char == '\t' || char == '\n' || char == '\r'

/-- The first character that is not a blank, and what follows it. -/
def token? : (text : List Char) -> Option (Char × Shorter text)
  | [] => none
  | char :: rest =>
      if isSpace char then
        match token? rest with
        | some (next, left) => some (next, (Shorter.tail char rest).within left)
        | none => none
      else some (char, Shorter.tail char rest)

/-- What comes next in a list: its end, behind which the text goes on, or an
item, with which the text goes on. -/
inductive ListTurn (text : List Char) where
  | close (rest : Shorter text)
  | item (rest : NoLonger text)

/-- What comes next in a list, behind its opening bracket if `first` is set
and behind an item otherwise.  The item itself is not read. -/
def listTurn (first : Bool) (text : List Char) : Except Fault (ListTurn text) :=
  match token? text with
  | none => .error (.atEnd .endInList)
  | some (char, rest) =>
      if char = ']' then .ok (.close rest)
      else if first then .ok (.item ⟨text, Nat.le_refl _⟩)
      else if char = ',' then
        match token? rest.val with
        | none => .error (.atEnd .endInValue)
        | some (next, after) =>
            if next = ']' then .error (.on .commaAtEnd next after)
            else .ok (.item ⟨rest.val, Nat.le_of_lt rest.property⟩)
      else .error (.on .noCommaInList char rest)

/-- What comes next in an object: its end, or a key, which the text goes on
with behind the opening quote. -/
inductive ObjectTurn (text : List Char) where
  | close (rest : Shorter text)
  | key (rest : Shorter text)

/-- The opening quote of a key, which the given character should be. -/
def keyQuote {text : List Char} (char : Char) (rest : Shorter text) :
    Except Fault (ObjectTurn text) :=
  if char = '"' then .ok (.key rest) else .error (.on .keyWithoutQuotes char rest)

/-- What comes next in an object, behind its opening brace if `first` is set
and behind a member otherwise. -/
def objectTurn (first : Bool) (text : List Char) : Except Fault (ObjectTurn text) :=
  match token? text with
  | none => .error (.atEnd .endInObject)
  | some (char, rest) =>
      if char = '\x7d' then .ok (.close rest)
      else if first then keyQuote char rest
      else if char = ',' then
        match token? rest.val with
        | none => .error (.atEnd .endInValue)
        | some (next, after) =>
            if next = '\x7d' then .error (.on .commaAtEnd next after)
            else keyQuote next (rest.within after)
      else .error (.on .noCommaInObject char rest)

def colon (text : List Char) : Except Fault (Shorter text) :=
  match token? text with
  | none => .error (.atEnd .endInObject)
  | some (char, rest) => if char = ':' then .ok rest else .error (.on .noColon char rest)

/-- Read the end of the list behind all the items that it may have. -/
def listEnd (text : List Char) : Except Fault (Shorter text) :=
  match token? text with
  | none => .error (.atEnd .endInList)
  | some (char, rest) =>
      if char = ']' then .ok rest
      else if char = ',' then
        match token? rest.val with
        | none => .error (.atEnd .moreText)
        | some (next, after) =>
            .error (.on (if next = ']' then .commaAtEnd else .moreText) next after)
      else .error (.on .moreText char rest)

/-- Refuse anything but blanks behind the whole value. -/
def textEnd (text : List Char) : Except Fault Unit :=
  match token? text with
  | none => .ok ()
  | some (char, rest) => .error (.on .moreText char rest)

/-- Read the rest of a word, of which the first letter has been read. -/
def word : List Char -> (text : List Char) -> Except Fault (NoLonger text)
  | [], text => .ok ⟨text, Nat.le_refl _⟩
  | _ :: _, [] => .error (.atEnd .endInValue)
  | letter :: letters, char :: rest =>
      if char = letter then
        match word letters rest with
        | .ok left => .ok ⟨left.val, Nat.le_succ_of_le left.property⟩
        | .error fault => .error fault
      else .error (.on .wrongWord char rest)

end Json
end Recase
