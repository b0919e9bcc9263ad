import StartupBench.Decimal.Layout
import StartupBench.Text.Quoted

/-!
# What is wrong with a JSON document

A fault has a cause and a place, which is a line and a column counted in bytes.  Causes are of three
kinds: the document ends too early, it is not JSON, or it is JSON of another shape than expected.
-/

namespace StartupBench

/-- The kind of a value that was found where another was expected. -/
inductive Json.Found where
  | null
  | bool (value : Bool)
  | integer (value : Int)
  | number (value : Float)
  | text (value : String)
  | list
  | record

/-- The value as it stands in messages. -/
def Json.Found.description : Json.Found → String
  | null => "null"
  | bool value => "boolean `" ++ (if value then "true" else "false") ++ "`"
  | integer value => "integer `" ++ toString value ++ "`"
  | number value => "floating point `" ++ Decimal.data value ++ "`"
  | text value => "string " ++ Text.quoted value
  | list => "sequence"
  | record => "map"

/-- Why a document cannot be read. -/
inductive Json.Cause where
  | endInList
  | endInRecord
  | endInText
  | endInValue
  | expectedColon
  | expectedCommaOrListEnd
  | expectedCommaOrRecordEnd
  | expectedIdentifier
  | expectedValue
  | invalidEscape
  | invalidNumber
  | numberOutOfRange
  | invalidCodePoint
  | controlCharacter
  | keyNotText
  | loneSurrogate
  | trailingComma
  | trailingCharacters
  | endOfSurrogate
  /-- A value of another kind stands where `expected` was to be. -/
  | wrongType (found : Json.Found) (expected : String)
  /-- A negative integer stands where `expected` was to be. -/
  | wrongValue (value : Int) (expected : String)
  | wrongLength (length : Nat) (expected : String)
  | missingField (name : String)
  | duplicateField (name : String)

namespace Json.Cause

/-- The cause in words. -/
def message : Cause → String
  | endInList => "EOF while parsing a list"
  | endInRecord => "EOF while parsing an object"
  | endInText => "EOF while parsing a string"
  | endInValue => "EOF while parsing a value"
  | expectedColon => "expected `:`"
  | expectedCommaOrListEnd => "expected `,` or `]`"
  | expectedCommaOrRecordEnd => "expected `,` or `\x7d`"
  | expectedIdentifier => "expected ident"
  | expectedValue => "expected value"
  | invalidEscape => "invalid escape"
  | invalidNumber => "invalid number"
  | numberOutOfRange => "number out of range"
  | invalidCodePoint => "invalid unicode code point"
  | controlCharacter =>
    "control character (\\u0000-\\u001F) found while parsing a string"
  | keyNotText => "key must be a string"
  | loneSurrogate => "lone leading surrogate in hex escape"
  | trailingComma => "trailing comma"
  | trailingCharacters => "trailing characters"
  | endOfSurrogate => "unexpected end of hex escape"
  | wrongType found expected => "invalid type: " ++ found.description ++ ", expected " ++ expected
  | wrongValue value expected =>
    "invalid value: " ++ (Found.integer value).description ++ ", expected " ++ expected
  | wrongLength length expected =>
    "invalid length " ++ toString length ++ ", expected " ++ expected
  | missingField name => "missing field `" ++ name ++ "`"
  | duplicateField name => "duplicate field `" ++ name ++ "`"

end Json.Cause

/-- The kinds of faults. -/
inductive Json.Category where
  | unfinished
  | malformed
  | unexpected
  deriving DecidableEq, Repr

/-- The kind of a cause. -/
def Json.Cause.category : Json.Cause → Json.Category
  | endInList | endInRecord | endInText | endInValue => .unfinished
  | wrongType .. | wrongValue .. | wrongLength .. | missingField .. | duplicateField .. =>
    .unexpected
  | _ => .malformed

/-- A fault of a document. -/
structure Json.Fault where
  cause : Json.Cause
  /-- How many bytes of the document come after the fault. -/
  left : Nat

namespace Json.Fault

/-- The line and the column of a fault.  The column is how many bytes of the line come before the
place. -/
def place (f : Fault) (document : List UInt8) : Nat × Nat :=
  let before := document.take (document.length - f.left)
  let column := (before.reverse.takeWhile (· != 0x0A)).length
  (1 + before.count 0x0A, column)

/-- The fault in words, with its place. -/
def message (f : Fault) (document : List UInt8) : String :=
  let (line, column) := f.place document
  f.cause.message ++ " at line " ++ toString line ++ " column " ++ toString column

end Json.Fault

end StartupBench
