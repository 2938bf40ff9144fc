import Unbundled.Json.Value
import Unbundled.Text.Columns

namespace Unbundled.Json

inductive Found where
  | null | sequence | map
  | boolean (value : Bool)
  | integer (value : Int)
  | floating (value : Number.Double)
  | string (value : String)
deriving Repr, DecidableEq, Inhabited

inductive Cause where
  | eofInList | eofInObject | eofInString | eofInValue
  | colon | commaOrBracket | commaOrBrace | ident | value
  | escape | number | numberRange | controlCharacter | keyString
  | loneSurrogate | hexEscapeEnd | trailingComma | trailingCharacters | recursion
  | wrongType (found : Found) (expected : String)
  | wrongValue (found : Found) (expected : String)
  | wrongLength (length : Nat) (expected : String)
  | duplicate (field : String)
deriving Repr, DecidableEq, Inhabited

def Found.describe : Found → String
  | .null => "null"
  | .sequence => "sequence"
  | .map => "map"
  | .boolean b => if b then "boolean `true`" else "boolean `false`"
  | .integer i => "integer `" ++ toString i ++ "`"
  | .floating d => "floating point `" ++ d.compact ++ "`"
  | .string s => "string " ++ Text.shown s

def Cause.message : Cause → String
  | .eofInList => "EOF while parsing a list"
  | .eofInObject => "EOF while parsing an object"
  | .eofInString => "EOF while parsing a string"
  | .eofInValue => "EOF while parsing a value"
  | .colon => "expected `:`"
  | .commaOrBracket => "expected `,` or `]`"
  | .commaOrBrace => "expected `,` or `\x7d`"
  | .ident => "expected ident"
  | .value => "expected value"
  | .escape => "invalid escape"
  | .number => "invalid number"
  | .numberRange => "number out of range"
  | .controlCharacter =>
    "control character (\\u0000-\\u001F) found while parsing a string"
  | .keyString => "key must be a string"
  | .loneSurrogate => "lone leading surrogate in hex escape"
  | .hexEscapeEnd => "unexpected end of hex escape"
  | .trailingComma => "trailing comma"
  | .trailingCharacters => "trailing characters"
  | .recursion => "recursion limit exceeded"
  | .wrongType found expected => "invalid type: " ++ found.describe ++ ", expected " ++ expected
  | .wrongValue found expected =>
    "invalid value: " ++ found.describe ++ ", expected " ++ expected
  | .wrongLength n expected => "invalid length " ++ toString n ++ ", expected " ++ expected
  | .duplicate field => "duplicate field `" ++ field ++ "`"

structure Fault where
  offset : Nat
  cause : Cause
deriving Repr, DecidableEq, Inhabited

/-- Line and column after `n` bytes; lines count from 1 and columns are the bytes behind
the last line feed. -/
def placeAfter : List Char → Nat → Nat × Nat → Nat × Nat
  | [], n, (line, column) => (line, column + n)
  | c :: cs, n, (line, column) =>
    if n = 0 then (line, column)
    else if c = '\n' then placeAfter cs (n - 1) (line + 1, 0)
    else if c.utf8Size ≤ n then placeAfter cs (n - c.utf8Size) (line, column + c.utf8Size)
    else (line, column + n)

def Fault.message (text : String) (f : Fault) : String :=
  let (line, column) := placeAfter text.toList f.offset (1, 0)
  f.cause.message ++ " at line " ++ toString line ++ " column " ++ toString column

end Unbundled.Json
