import Recase.Json.Skip
import Recase.Proofs.Json.Layout

namespace Recase
namespace Json

/-!
# Well-formed texts

What the format allows as the text of a value, whoever reads it and whatever
it stands for.  The layouts in `Layout` are those of the values that are ever
written.  Here there are all the others as well: words, numbers with fractions
and exponents, and escapes of half a character, which stand for no text at all.

Nothing here depends on how a text is read.
-/

/-! ## Strings -/

/-- Whether a character is a digit in base sixteen, of either case. -/
def isHexDigit (char : Char) : Bool :=
  char.isDigit || (decide ('a' <= char) && decide (char <= 'f')) ||
    (decide ('A' <= char) && decide (char <= 'F'))

/-- What may stand for one character within quotes.  A unit of four digits may
also be half of a character, with or without its other half behind it. -/
inductive QuotedChar : List Char -> Prop where
  | raw (char : Char) (notQuote : char ≠ '"') (notBackslash : char ≠ '\\')
      (notControl : 0x20 <= char.toNat) : QuotedChar [char]
  | short (letter : Char) (known : letter ∈ ['"', '\\', '/', 'b', 'f', 'n', 'r', 't']) :
      QuotedChar ['\\', letter]
  | unit (first second third fourth : Char)
      (digits : [first, second, third, fourth].all isHexDigit = true) :
      QuotedChar ['\\', 'u', first, second, third, fourth]

inductive QuotedChars : List Char -> Prop where
  | nil : QuotedChars []
  | cons {char others : List Char} (head : QuotedChar char) (tail : QuotedChars others) :
      QuotedChars (char ++ others)

/-- The texts of strings with their quotes. -/
inductive QuotedText : List Char -> Prop where
  | mk {opening chars : List Char} (token : Token '"' opening) (quoted : QuotedChars chars) :
      QuotedText (opening ++ (chars ++ ['"']))

/-! ## Numbers -/

def IsDigits (text : List Char) : Prop :=
  text ≠ [] ∧ forall char, char ∈ text -> char.isDigit = true

/-- The integral part of a number, which has no superfluous zero in front. -/
inductive Integral : List Char -> Prop where
  | zero : Integral ['0']
  | digits {first : Char} {others : List Char} (digits : IsDigits (first :: others))
      (notZero : first ≠ '0') : Integral (first :: others)

/-- The fraction of a number, if there is one. -/
inductive Fraction : List Char -> Prop where
  | none : Fraction []
  | some {digits : List Char} (isDigits : IsDigits digits) : Fraction ('.' :: digits)

/-- The exponent of a number, if there is one. -/
inductive Exponent : List Char -> Prop where
  | none : Exponent []
  | some {mark : Char} {sign digits : List Char} (isMark : mark = 'e' ∨ mark = 'E')
      (isSign : sign = [] ∨ sign = ['+'] ∨ sign = ['-']) (isDigits : IsDigits digits) :
      Exponent (mark :: (sign ++ digits))

inductive Unsigned : List Char -> Prop where
  | mk {integral fraction exponent : List Char} (front : Integral integral)
      (middle : Fraction fraction) (back : Exponent exponent) :
      Unsigned (integral ++ (fraction ++ exponent))

inductive Numeral : List Char -> Prop where
  | positive {text : List Char} (unsigned : Unsigned text) : Numeral text
  | negative {text : List Char} (unsigned : Unsigned text) : Numeral ('-' :: text)

/-! ## Values -/

/-- The words of the format, by their first letter and the others. -/
inductive IsWord : Char -> List Char -> Prop where
  | null : IsWord 'n' ['u', 'l', 'l']
  | true : IsWord 't' ['r', 'u', 'e']
  | false : IsWord 'f' ['a', 'l', 's', 'e']

structure MemberText where
  key : List Char
  colon : List Char
  value : List Char

def MemberText.whole (member : MemberText) : List Char :=
  member.key ++ (member.colon ++ member.value)

/-- The texts of values of any kind, with blanks in front of every token. -/
inductive Wellformed : List Char -> Prop where
  | word {first : Char} {opening others : List Char} (token : Token first opening)
      (known : IsWord first others) : Wellformed (opening ++ others)
  | number {gap number : List Char} (blank : IsGap gap) (numeral : Numeral number) :
      Wellformed (gap ++ number)
  | string {text : List Char} (quoted : QuotedText text) : Wellformed text
  | list {opening inner : List Char} {items : List (List Char)} (token : Token '[' opening)
      (wellformed : forall item, item ∈ items -> Wellformed item)
      (joined : Joined ']' true items inner) : Wellformed (opening ++ inner)
  | object {opening inner : List Char} {members : List MemberText} (token : Token '\x7b' opening)
      (quoted : forall member, member ∈ members -> QuotedText member.key)
      (colons : forall member, member ∈ members -> Token ':' member.colon)
      (wellformed : forall member, member ∈ members -> Wellformed member.value)
      (joined : Joined '\x7d' true (members.map MemberText.whole) inner) :
      Wellformed (opening ++ inner)

/-! ## First characters -/

theorem Unsigned.exists_cons {text : List Char} (unsigned : Unsigned text) :
    Exists fun digit => Exists fun others => text = digit :: others ∧ digit.isDigit = true := by
  cases unsigned with
  | mk front middle back =>
      cases front with
      | zero => exact ⟨'0', _, rfl, rfl⟩
      | digits digits _ => exact ⟨_, _, rfl, digits.2 _ List.mem_cons_self⟩

end Json
end Recase
