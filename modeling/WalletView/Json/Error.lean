/-
# Json.Error — why a text was not read

A read ends at the first problem in the order of the text.  Problems are of three classes: the
text ends too early, it is not JSON, or it is JSON of the wrong shape.  `ReadError.message`
words each of them.
-/
import WalletView.Number.Shortest
import WalletView.Text.Quoted

set_option autoImplicit false

namespace WalletView.Json

/-- What a text was inside of when it ended. -/
inductive Construct where
  | value
  | string
  | object
  | list
deriving DecidableEq, Repr

/-- What stood where something else had to stand. -/
inductive Found where
  | null
  | boolean (value : Bool)
  | integer (value : Int)
  | double (value : Binary64)
  | string (value : String)
  | sequence
  | map
deriving DecidableEq, Repr

/-- What had to stand somewhere. -/
inductive Expected where
  | string
  | boolean
  | word
  | sequence
  | map
  | idMap
  | record (name : String)
  | unit
deriving DecidableEq, Repr

/-- The first problem met while reading a text. -/
inductive ReadError where
  | ended (inside : Construct)
  | expectedValue
  | expectedIdent
  | expectedListEnd
  | expectedObjectEnd
  | expectedColon
  | keyNotString
  | trailingComma
  | trailingText
  | invalidNumber
  | numberOutOfRange
  | invalidEscape
  | unpairedSurrogate
  | loneSurrogate
  | controlCharacter
  | tooDeep
  | wrongType (found : Found) (expected : Expected)
  | wrongValue (found : Int) (expected : Expected)
  | wrongLength (length : Nat) (record : String) (size : Nat)
  | missingField (name : String)
  | duplicateField (name : String)
deriving DecidableEq, Repr

/-- The classes of problems. -/
inductive Category where
  | eof
  | syntactic
  | data
deriving DecidableEq, Repr

def Category.name : Category → String
  | .eof => "eof"
  | .syntactic => "syntax"
  | .data => "data"

def Construct.name : Construct → String
  | .value => "a value"
  | .string => "a string"
  | .object => "an object"
  | .list => "a list"

def Found.describe : Found → String
  | .null => "null"
  | .boolean value => "boolean `" ++ (if value then "true" else "false") ++ "`"
  | .integer value => "integer `" ++ toString value ++ "`"
  | .double value => "floating point `" ++ String.ofList value.text ++ "`"
  | .string value => "string " ++ Text.quoted value
  | .sequence => "sequence"
  | .map => "map"

def Expected.describe : Expected → String
  | .string => "a string"
  | .boolean => "a boolean"
  | .word => "u64"
  | .sequence => "a sequence"
  | .map => "a map"
  | .idMap => "a map of id to record"
  | .record name => "struct " ++ name
  | .unit => "unit"

namespace ReadError

def category : ReadError → Category
  | .ended _ => .eof
  | .wrongType .. | .wrongValue .. | .wrongLength .. | .missingField _ | .duplicateField _ => .data
  | _ => .syntactic

def message : ReadError → String
  | .ended inside => "EOF while parsing " ++ inside.name
  | .expectedValue => "expected value"
  | .expectedIdent => "expected ident"
  | .expectedListEnd => "expected `,` or `]`"
  | .expectedObjectEnd => "expected `,` or `\x7d`"
  | .expectedColon => "expected `:`"
  | .keyNotString => "key must be a string"
  | .trailingComma => "trailing comma"
  | .trailingText => "trailing characters"
  | .invalidNumber => "invalid number"
  | .numberOutOfRange => "number out of range"
  | .invalidEscape => "invalid escape"
  | .unpairedSurrogate => "unexpected end of hex escape"
  | .loneSurrogate => "lone leading surrogate in hex escape"
  | .controlCharacter => "control character (\\u0000-\\u001F) found while parsing a string"
  | .tooDeep => "recursion limit exceeded"
  | .wrongType found expected =>
    "invalid type: " ++ found.describe ++ ", expected " ++ expected.describe
  | .wrongValue found expected =>
    "invalid value: integer `" ++ toString found ++ "`, expected " ++ expected.describe
  | .wrongLength length record size =>
    "invalid length " ++ toString length ++ ", expected struct " ++ record ++ " with "
      ++ toString size ++ (if size = 1 then " element" else " elements")
  | .missingField name => "missing field `" ++ name ++ "`"
  | .duplicateField name => "duplicate field `" ++ name ++ "`"

end ReadError

end WalletView.Json
