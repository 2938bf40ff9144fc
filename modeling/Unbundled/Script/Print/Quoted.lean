import Unbundled.Script.Token
import Unbundled.Number.Shortest

namespace Unbundled.Script

def isHexDigit (c : Char) : Bool :=
  c.isDigit || ('a' ≤ c && c ≤ 'f') || ('A' ≤ c && c ≤ 'F')

/-- Whether what follows a backslash makes it the escape of half a character, which a
string can only hold in this form: `u` or `u` and a brace, and a number from `d800`. -/
def halfCharFollows : List Char → Bool
  | 'u' :: '{' :: d :: a :: b :: c :: _ => half d a b c
  | 'u' :: d :: a :: b :: c :: _ => half d a b c
  | _ => false
where
  half (d a b c : Char) : Bool :=
    (d = 'd' || d = 'D') && isHexDigit a && isHexDigit b && isHexDigit c && !('0' ≤ a && a ≤ '7')

def hex2 (n : Nat) : String :=
  String.ofList ['\\', 'x', Nat.digitChar (n / 16), Nat.digitChar (n % 16)]

def escapeChar (c : Char) (rest : List Char) : String :=
  match c with
  | '\x00' => if (rest.head?.map Char.isDigit).getD false then "\\x00" else "\\0"
  | '\x08' => "\\b"
  | '\x0c' => "\\f"
  | '\n' => "\\n"
  | '\r' => "\\r"
  | '\x0b' => "\\v"
  | '\t' => "\t"
  | '\\' => if halfCharFollows rest then "\\" else "\\\\"
  | '\u2028' => "\\u2028"
  | '\u2029' => "\\u2029"
  | '\ufeff' => "\\uFEFF"
  | c => if c.toNat < 32 then hex2 c.toNat else c.toString

def quotedWith (q : Char) : List Char → String
  | [] => q.toString
  | c :: cs => (if c = q then "\\" ++ q.toString else escapeChar c cs) ++ quotedWith q cs

/-- A string literal, in double quotes unless it holds more of them than single ones. -/
def quoted (s : String) : String :=
  let cs := s.toList
  let q := if cs.count '"' > cs.count '\'' then '\'' else '"'
  q.toString ++ quotedWith q cs

def StringLit.spelling (lit : StringLit) : String := lit.raw.getD (quoted lit.value)

def plainLineEnds : List Char → List Char
  | '\r' :: '\n' :: cs | '\r' :: cs => '\n' :: plainLineEnds cs
  | c :: cs => c :: plainLineEnds cs
  | [] => []

def Quasi.spelling (q : Quasi) : String := String.ofList (plainLineEnds q.raw.toList)

def numberText (value : Number.Double) (raw : Option String) : String :=
  match raw, value with
  | some raw, _ => raw
  | none, .infinite negative => if negative then "-Infinity" else "Infinity"
  | none, v => v.positional

/-- Whether the point of a member access would be read as part of the number. -/
def numberTakesPoint (value : Number.Double) (raw : Option String) : Bool :=
  match raw, value with
  | some raw, _ => raw.toList.all Char.isDigit && !(raw.length ≥ 2 && raw.startsWith "0")
  | none, .infinite _ => false
  | none, v => !v.positional.toList.contains '.'

def VarKind.text : VarKind → String
  | .var => "var"
  | .let => "let"
  | .const => "const"
  | .using => "using"
  | .awaitUsing => "await using"

def Access.text : Access → String
  | .open => "public"
  | .inherited => "protected"
  | .hidden => "private"

def TyKeyword.text : TyKeyword → String
  | .any => "any"
  | .unknown => "unknown"
  | .number => "number"
  | .object => "object"
  | .boolean => "boolean"
  | .bigint => "bigint"
  | .string => "string"
  | .symbol => "symbol"
  | .void => "void"
  | .undefined => "undefined"
  | .null => "null"
  | .never => "never"
  | .intrinsic => "intrinsic"

def TyOperator.text : TyOperator → String
  | .keyof => "keyof"
  | .unique => "unique"
  | .readonly => "readonly"

end Unbundled.Script
