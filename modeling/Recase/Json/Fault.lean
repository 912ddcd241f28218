import Recase.Text.Literal

namespace Recase
namespace Json

/-!
# Faults in a JSON text

A text that cannot be read is refused with the cause and the place of the
first fault.  The cause is a fact about the text; its wording is given once,
by `Cause.message`.  The place is counted in bytes of the encoded text, as
editors do, and in lines that end with a line feed.
-/

/-- What stood in a place where a value of another type was expected.  A
number with a point or an exponent comes with its own text. -/
inductive Found where
  | null
  | boolean (value : Bool)
  | integer (value : Int)
  | real (digits : String)
  | string (text : String)
  | list
  | object

def Found.message : Found -> String
  | .null => "null"
  | .boolean true => "boolean `true`"
  | .boolean false => "boolean `false`"
  | .integer value => "integer `" ++ toString value ++ "`"
  | .real digits => "floating point `" ++ digits ++ "`"
  | .string text => "string " ++ Text.literal text
  | .list => "sequence"
  | .object => "map"

/-- What was expected in a place.  A record is known by its name. -/
inductive Expected where
  | string
  | list
  | record (name : String)

def Expected.message : Expected -> String
  | .string => "a string"
  | .list => "a sequence"
  | .record name => "struct " ++ name

inductive Cause where
  /-- The text ends where a value must begin, or within a value that is
  neither a string nor a list nor an object. -/
  | endInValue
  | endInString
  | endInList
  | endInObject
  | noValue
  | wrongWord
  | noColon
  | noCommaInList
  | noCommaInObject
  | keyWithoutQuotes
  | commaAtEnd
  | moreText
  | badNumber
  | numberTooLarge
  | badEscape
  | rawControl
  /-- Half of a surrogate pair stands alone. -/
  | loneSurrogate
  /-- The escape of the second half of a surrogate pair is missing. -/
  | noSecondSurrogate
  | wrongType (found : Found) (expected : Expected)
  | missingField (name : String)
  | repeatedField (name : String)
  /-- A record that is written as a list has too few items. -/
  | tooFewItems (count : Nat) (record : String) (fields : Nat)

def Cause.message : Cause -> String
  | .endInValue => "EOF while parsing a value"
  | .endInString => "EOF while parsing a string"
  | .endInList => "EOF while parsing a list"
  | .endInObject => "EOF while parsing an object"
  | .noValue => "expected value"
  | .wrongWord => "expected ident"
  | .noColon => "expected `:`"
  | .noCommaInList => "expected `,` or `]`"
  | .noCommaInObject => "expected `,` or `\x7d`"
  | .keyWithoutQuotes => "key must be a string"
  | .commaAtEnd => "trailing comma"
  | .moreText => "trailing characters"
  | .badNumber => "invalid number"
  | .numberTooLarge => "number out of range"
  | .badEscape => "invalid escape"
  | .rawControl => "control character (\\u0000-\\u001F) found while parsing a string"
  | .loneSurrogate => "lone leading surrogate in hex escape"
  | .noSecondSurrogate => "unexpected end of hex escape"
  | .wrongType found expected =>
      "invalid type: " ++ found.message ++ ", expected " ++ expected.message
  | .missingField name => "missing field `" ++ name ++ "`"
  | .repeatedField name => "duplicate field `" ++ name ++ "`"
  | .tooFewItems count record fields =>
      "invalid length " ++ toString count ++ ", expected struct " ++ record ++
        " with " ++ toString fields ++ " elements"

/-- A fault in a text.  Its place is given by what is left of the text, and by
how many bytes of that are counted in, so that the place can be on the byte
that is at fault or behind it. -/
structure Fault where
  cause : Cause
  rest : List Char
  extra : Nat := 0

def Fault.atEnd (cause : Cause) : Fault :=
  { cause := cause, rest := [] }

/-- A fault on a character, of which the first byte is counted in. -/
def Fault.on (cause : Cause) (char : Char) (rest : List Char) : Fault :=
  { cause := cause, rest := char :: rest, extra := 1 }

/-- A fault behind all that has been read. -/
def Fault.before (cause : Cause) (rest : List Char) : Fault :=
  { cause := cause, rest := rest }

/-- A place in a text: a line, counted from one, and the number of bytes from
its beginning. -/
structure Position where
  line : Nat
  column : Nat
  deriving DecidableEq

/-- The place behind a byte. -/
def Position.advance (position : Position) (byte : UInt8) : Position :=
  if byte = 10 then { line := position.line + 1, column := 0 }
  else { position with column := position.column + 1 }

/-- The place behind some bytes at the beginning of a text. -/
def Position.behind (bytes : List UInt8) : Position :=
  bytes.foldl Position.advance { line := 1, column := 0 }

def encoded (chars : List Char) : List UInt8 :=
  chars.flatMap String.utf8EncodeChar

/-- The place of a fault in a text.  Bytes beyond the end of the text are not
counted. -/
def Fault.position (fault : Fault) (text : List Char) : Position :=
  Position.behind
    (encoded (text.take (text.length - fault.rest.length)) ++
      (encoded (fault.rest.take fault.extra)).take fault.extra)

/-- What is reported on a text that is refused: the cause and its place. -/
structure Diagnosis where
  cause : Cause
  position : Position

def Fault.diagnosis (fault : Fault) (text : List Char) : Diagnosis where
  cause := fault.cause
  position := fault.position text

def Diagnosis.message (diagnosis : Diagnosis) : String :=
  diagnosis.cause.message ++ " at line " ++ toString diagnosis.position.line ++
    " column " ++ toString diagnosis.position.column

end Json
end Recase
