import Callwire.Bytes

/-!
# Faults of JSON documents

What is wrong with a document, and the line and column where it shows. Lines
count from one; columns count the bytes of the line up to the fault.
-/

set_option autoImplicit false

namespace Callwire.Json

inductive Cause
  | endInList
  | endInObject
  | endInText
  | endInValue
  | noColon
  | noListComma
  | noObjectComma
  | noWord
  | noValue
  | escape
  | number
  | numberRange
  | codePoint
  | control
  | keyNotText
  | surrogate
  | hexEnd
  | trailingComma
  | trailing
  | wrongType (found expected : String)
  | wrongValue (found expected : String)
  | wrongLength (length : Nat) (expected : String)
  | missingField (name : String)
  | duplicateField (name : String)
  deriving DecidableEq, Repr

def Cause.text : Cause → String
  | .endInList => "EOF while parsing a list"
  | .endInObject => "EOF while parsing an object"
  | .endInText => "EOF while parsing a string"
  | .endInValue => "EOF while parsing a value"
  | .noColon => "expected `:`"
  | .noListComma => "expected `,` or `]`"
  | .noObjectComma => "expected `,` or `\x7d`"
  | .noWord => "expected ident"
  | .noValue => "expected value"
  | .escape => "invalid escape"
  | .number => "invalid number"
  | .numberRange => "number out of range"
  | .codePoint => "invalid unicode code point"
  | .control => "control character (\\u0000-\\u001F) found while parsing a string"
  | .keyNotText => "key must be a string"
  | .surrogate => "lone leading surrogate in hex escape"
  | .hexEnd => "unexpected end of hex escape"
  | .trailingComma => "trailing comma"
  | .trailing => "trailing characters"
  | .wrongType found expected => "invalid type: " ++ found ++ ", expected " ++ expected
  | .wrongValue found expected => "invalid value: " ++ found ++ ", expected " ++ expected
  | .wrongLength length expected =>
    "invalid length " ++ toString length ++ ", expected " ++ expected
  | .missingField name => "missing field `" ++ name ++ "`"
  | .duplicateField name => "duplicate field `" ++ name ++ "`"

/-- A cause and how many bytes of the document were left when it showed. -/
structure Fault where
  cause : Cause
  left : Nat
  deriving DecidableEq, Repr

structure PlacedFault where
  cause : Cause
  line : Nat
  column : Nat
  deriving DecidableEq, Repr

def newline : UInt8 := 10

def place (read : Bytes) : Nat × Nat :=
  (read.count newline + 1, (read.reverse.takeWhile (· != newline)).length)

def Fault.within (f : Fault) (document : Bytes) : PlacedFault :=
  let (line, column) := place (document.take (document.length - f.left))
  ⟨f.cause, line, column⟩

def PlacedFault.message (f : PlacedFault) : String :=
  f.cause.text ++ " at line " ++ toString f.line ++ " column " ++ toString f.column

end Callwire.Json
