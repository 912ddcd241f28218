import Recase.Text.Printable

namespace Recase
namespace Text

/-!
# Quoted texts in messages

A message that reports a text from the user shows it between double quotes,
in such a way that the reader can tell every character of it: what cannot be
shown as it is, or would be mistaken for something else, is escaped.
-/

/-- The digits of a number in base sixteen, lower-case and without leading
zeros. -/
def hexDigits (number : Nat) : List Char :=
  Nat.toDigits 16 number

/-- How one character is shown within the quotes. -/
def literalChar (char : Char) : List Char :=
  match char with
  | '"' => ['\\', '"']
  | '\\' => ['\\', '\\']
  | '\x00' => ['\\', '0']
  | '\t' => ['\\', 't']
  | '\n' => ['\\', 'n']
  | '\r' => ['\\', 'r']
  | other =>
      if isPrintable other then [other]
      else '\\' :: 'u' :: '\x7b' :: hexDigits other.toNat ++ ['\x7d']

/-- A text between double quotes, as a message shows it. -/
def literal (text : String) : String :=
  String.ofList ('"' :: text.toList.flatMap literalChar ++ ['"'])

end Text
end Recase
