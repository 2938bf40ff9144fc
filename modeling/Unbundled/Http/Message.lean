import Unbundled.Text.Affix

namespace Unbundled.Http

structure Request where
  method : String
  target : String
  headers : List (String × String) := []
deriving Repr, DecidableEq, Inhabited

structure Response where
  status : Nat
  headers : List (String × String) := []
  body : ByteArray := ByteArray.empty

def isVisible (c : Char) : Bool := c == '\t' || (' ' ≤ c && c ≤ '~')

/-- The value of the first header with a name in lower case, if it is plain text. -/
def Request.header? (r : Request) (name : String) : Option String :=
  ((r.headers.find? fun h => Text.lower h.1 = name).map (·.2)).filter (·.toList.all isVisible)

/-- The target of a request. The origin is empty unless the target is a whole URL. -/
structure Target where
  origin : String := ""
  path : String
  query : Option String := none
deriving Repr, DecidableEq, Inhabited

/-- What stands before and behind the first `c`; the latter is missing if there is no `c`. -/
def cut (c : Char) (cs : List Char) : List Char × Option (List Char) :=
  (cs.takeWhile (· ≠ c), ((cs.dropWhile (· ≠ c)).head?).map fun _ => (cs.dropWhile (· ≠ c)).drop 1)

def splitOrigin : List Char → List Char × List Char
  | [] => ([], [])
  | ':' :: '/' :: '/' :: cs =>
    (':' :: '/' :: '/' :: cs.takeWhile (· ≠ '/'), cs.dropWhile (· ≠ '/'))
  | c :: cs =>
    let (origin, path) := splitOrigin cs
    (c :: origin, path)

/-- Takes a target apart. What it says about a part of a page does not count. -/
def Target.ofText (text : String) : Target :=
  let (whole, _) := cut '#' text.toList
  let (place, query) := cut '?' whole
  let query := query.map String.ofList
  if place.head? = some '/' then ⟨"", String.ofList place, query⟩
  else
    let (origin, path) := splitOrigin place
    if path.isEmpty ∧ ¬ Text.contains "://" (String.ofList place) then
      ⟨"", String.ofList place, query⟩
    else ⟨String.ofList origin, if path.isEmpty then "/" else String.ofList path, query⟩

def Target.text (t : Target) : String :=
  t.origin ++ t.path ++ t.query.elim "" ("?" ++ ·)

namespace Response

def header? (r : Response) (name : String) : Option String := r.headers.lookup name

def withDefault (r : Response) (name value : String) : Response :=
  if (r.header? name).isSome then r else { r with headers := r.headers ++ [(name, value)] }

def withLength (r : Response) : Response :=
  r.withDefault "content-length" (toString r.body.size)

end Response

end Unbundled.Http
