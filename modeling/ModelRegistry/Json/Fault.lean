import ModelRegistry.Json.Basic
import ModelRegistry.Text.Bytes

/-!
# What can be wrong with a document

A document is read from left to right and the first problem in that order is the one reported.  A
`Fault` names it; `Fault.kind` sorts the faults into a text that ended too early, a text that is
not JSON, and a well-formed text of the wrong shape.  `Failure` adds how much of the document was
unread, from which the report computes line and column.

A fault of the shape that is noticed between two tokens is placed by the array or object around it,
which first looks for its own end (`Place.pending`).
-/

namespace ModelRegistry
namespace Json

/-- The three kinds of problem. -/
inductive FaultKind
  /-- The text ended inside a value. -/
  | ended
  /-- The text breaks the grammar. -/
  | malformed
  /-- The text has another shape than the one asked for. -/
  | mismatch
  deriving DecidableEq, Repr

/-- The first problem met in a document. -/
inductive Fault
  | endInArray
  | endInObject
  | endInText
  | endInValue
  | expectedColon
  | expectedCommaOrBracket
  | expectedCommaOrBrace
  | expectedWord
  | expectedValue
  | badEscape
  | badNumber
  | numberOutOfRange
  | badText
  | controlCharacter
  | nameNotText
  | loneSurrogate
  | unfinishedSurrogate
  | trailingComma
  | trailingCharacters
  | tooDeep
  | wrongType (found : Found) (expected : String)
  | outOfRange (value : Int) (expected : String)
  | wrongLength (length : Nat) (expected : String)
  | missingField (name : String)
  | duplicateField (name : String)
  | unknownVariant (name : String) (known : List String)
  deriving DecidableEq, Repr

namespace Fault

def kind : Fault → FaultKind
  | endInArray | endInObject | endInText | endInValue => .ended
  | wrongType .. | outOfRange .. | wrongLength .. | missingField .. | duplicateField ..
  | unknownVariant .. => .mismatch
  | _ => .malformed

/-- A name between backticks. -/
def ticked (name : String) : String := "`" ++ name ++ "`"

/-- A list of alternatives. -/
def alternatives : List String → String
  | [] => "there are no variants"
  | [a] => "expected " ++ ticked a
  | [a, b] => "expected " ++ ticked a ++ " or " ++ ticked b
  | names => "expected one of " ++ ", ".intercalate (names.map ticked)

/-- The fault in words, without its place. -/
def message : Fault → String
  | endInArray => "EOF while parsing a list"
  | endInObject => "EOF while parsing an object"
  | endInText => "EOF while parsing a string"
  | endInValue => "EOF while parsing a value"
  | expectedColon => "expected `:`"
  | expectedCommaOrBracket => "expected `,` or `]`"
  | expectedCommaOrBrace => "expected `,` or `\x7d`"
  | expectedWord => "expected ident"
  | expectedValue => "expected value"
  | badEscape => "invalid escape"
  | badNumber => "invalid number"
  | numberOutOfRange => "number out of range"
  | badText => "invalid unicode code point"
  | controlCharacter => "control character (\\u0000-\\u001F) found while parsing a string"
  | nameNotText => "key must be a string"
  | loneSurrogate => "lone leading surrogate in hex escape"
  | unfinishedSurrogate => "unexpected end of hex escape"
  | trailingComma => "trailing comma"
  | trailingCharacters => "trailing characters"
  | tooDeep => "recursion limit exceeded"
  | wrongType found expected => "invalid type: " ++ found.describe ++ ", expected " ++ expected
  | outOfRange value expected =>
    "invalid value: integer `" ++ toString value ++ "`, expected " ++ expected
  | wrongLength length expected =>
    "invalid length " ++ toString length ++ ", expected " ++ expected
  | missingField name => "missing field " ++ ticked name
  | duplicateField name => "duplicate field " ++ ticked name
  | unknownVariant name known =>
    "unknown variant " ++ ticked name ++ ", " ++ alternatives known

end Fault

/-- Where a fault was noticed, by the number of bytes that were then unread. -/
inductive Place
  /-- At this place. -/
  | settled (unread : Nat)
  /-- Only after this place, which the array or object around the value decides. -/
  | pending (unread : Nat)
  deriving DecidableEq, Repr

/-- A fault and where it was noticed. -/
structure Failure where
  fault : Fault
  place : Place
  deriving DecidableEq, Repr

/-- Line and column of the end of what was read. -/
def lineAndColumn (read : Bytes) : Nat × Nat :=
  (1 + read.count 0x0A, (read.reverse.takeWhile (· != 0x0A)).length)

/-- The whole report about a document.  A fault that no array or object has given a place is
reported without one. -/
def Failure.report (document : Bytes) (f : Failure) : String :=
  match f.place with
  | .pending _ => f.fault.message
  | .settled unread =>
    let (line, column) := lineAndColumn (document.take (document.length - unread))
    f.fault.message ++ " at line " ++ toString line ++ " column " ++ toString column

end Json
end ModelRegistry
