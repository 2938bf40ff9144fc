import Unbundled.Number.Shortest

namespace Unbundled

namespace Json

/-- A number: an integer of at most 64 bits, or any other number as a double. -/
inductive Number where
  | int (value : Int)
  | float (value : Number.Double)
deriving Repr, DecidableEq, Inhabited

end Json

/-- The members of an object have distinct names, in ascending order. -/
inductive Json where
  | null
  | bool (value : Bool)
  | num (value : Json.Number)
  | str (value : String)
  | arr (items : List Json)
  | obj (members : List (String × Json))
deriving Repr, Inhabited

namespace Json

def put (name : String) (value : Json) : List (String × Json) → List (String × Json)
  | [] => [(name, value)]
  | (n, v) :: ms =>
    if name = n then (n, value) :: ms
    else if name < n then (name, value) :: (n, v) :: ms
    else (n, v) :: put name value ms

def hex4 (n : Nat) : List Char :=
  [n / 4096 % 16, n / 256 % 16, n / 16 % 16, n % 16].map Nat.digitChar

def escapeChar (c : Char) : List Char :=
  match c with
  | '"' => ['\\', '"']
  | '\\' => ['\\', '\\']
  | '\x08' => ['\\', 'b']
  | '\x0c' => ['\\', 'f']
  | '\n' => ['\\', 'n']
  | '\r' => ['\\', 'r']
  | '\t' => ['\\', 't']
  | c => if c.toNat < 32 then '\\' :: 'u' :: hex4 c.toNat else [c]

/-- The JSON literal of a string: quotes, backslashes and control characters are escaped
and all else stands for itself. -/
def quote (s : String) : String :=
  String.ofList ('"' :: s.toList.flatMap escapeChar ++ ['"'])

end Json

end Unbundled
