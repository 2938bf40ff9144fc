import Unbundled.Script.Fault
import Unbundled.Script.Tree
import Unbundled.Number.Shortest

namespace Unbundled.Script

open Number (Double)

inductive Punct where
  | arrow | hash | at | dot | dots | bang | lparen | rparen | lbracket | rbracket | lbrace | rbrace
  | semi | comma | backquote | colon | dollarBrace | question | plusPlus | minusMinus | tilde
  | op (op : BinaryOp)
  | assign (op : AssignOp)
deriving Repr, DecidableEq, Inhabited

inductive Token where
  | punct (p : Punct)
  | keyword (name : String)
  | ident (name : String)
  | str (value raw : String)
  | num (value : Double) (raw : String)
  | bigint (raw : String)
  | regex (pattern flags : String)
  /-- A piece of a template; without a cooked text, what is wrong with it. -/
  | template (cooked : Except Fault String) (raw : String)
  | jsxName (name : String)
  | jsxText (value raw : String)
  | jsxTagStart
  | jsxTagEnd
  | shebang (text : String)
  | fault (fault : Fault)
deriving Inhabited

def keywords : List String :=
  ["await", "break", "case", "catch", "class", "const", "continue", "debugger", "default",
   "delete", "do", "else", "export", "extends", "false", "finally", "for", "function", "if",
   "import", "in", "instanceof", "let", "new", "null", "return", "super", "switch", "this",
   "throw", "true", "try", "typeof", "var", "void", "while", "with", "yield"]

def BinaryOp.text : BinaryOp → String
  | .eq => "==" | .notEq => "!=" | .strictEq => "===" | .strictNotEq => "!=="
  | .lt => "<" | .ltEq => "<=" | .gt => ">" | .gtEq => ">="
  | .shiftLeft => "<<" | .shiftRight => ">>" | .shiftRightZero => ">>>"
  | .add => "+" | .sub => "-" | .mul => "*" | .div => "/" | .mod => "%" | .exp => "**"
  | .bitOr => "|" | .bitXor => "^" | .bitAnd => "&" | .or => "||" | .and => "&&"
  | .coalesce => "??" | .in_ => "in" | .instanceof => "instanceof"

def AssignOp.text : AssignOp → String
  | .plain => "="
  | .with op => op.text ++ "="

def UnaryOp.text : UnaryOp → String
  | .minus => "-" | .plus => "+" | .bang => "!" | .tilde => "~"
  | .typeof => "typeof" | .void => "void" | .delete => "delete"

def Punct.text : Punct → String
  | .arrow => "=>" | .hash => "#" | .at => "@" | .dot => "." | .dots => "..." | .bang => "!"
  | .lparen => "(" | .rparen => ")" | .lbracket => "[" | .rbracket => "]"
  | .lbrace => "\x7b" | .rbrace => "\x7d" | .semi => ";" | .comma => "," | .backquote => "`"
  | .colon => ":" | .dollarBrace => "$\x7b" | .question => "?" | .plusPlus => "++"
  | .minusMinus => "--" | .tilde => "~"
  | .op o => o.text
  | .assign o => o.text

def Token.describe : Token → String
  | .punct p => p.text
  | .keyword n => n
  | .ident n => n
  | .str v r => "string literal (" ++ v ++ ", " ++ r ++ ")"
  | .num v r => "numeric literal (" ++ v.positional ++ ", " ++ r ++ ")"
  | .bigint r => "bigint literal (" ++ String.ofList (r.toList.dropLast) ++ ", " ++ r ++ ")"
  | .regex p f => "regexp literal (" ++ p ++ ", " ++ f ++ ")"
  | .template _ r => "template token (" ++ r ++ ")"
  | .jsxName n => "jsx name (" ++ n ++ ")"
  | .jsxText _ r => "jsx text (" ++ r ++ ")"
  | .jsxTagStart => "< (jsx tag start)"
  | .jsxTagEnd => "> (jsx tag end)"
  | .shebang _ => "#!"
  | .fault _ => "<lexing error>"

/-- A token with its place. `lineBreak` tells whether a line ended before it. -/
structure Tok where
  token : Token
  span : Span
  lineBreak : Bool
deriving Inhabited

end Unbundled.Script
