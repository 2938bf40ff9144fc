import Unbundled.Text.Affix

namespace Unbundled.Files.Path

def isAbsolute (path : String) : Bool := Text.startsWith "/" path

/-- The path `rest` as seen from `base`; an absolute one is not affected by `base`. -/
def join (base rest : String) : String :=
  if isAbsolute rest then rest
  else if base.isEmpty ∨ base.toList.getLast? = some '/' then base ++ rest
  else base ++ "/" ++ rest

/-- The names of a path. An empty one stands in front of a leading slash, behind a trailing
one and between two in a row. -/
def segments (path : String) : List String := Text.split '/' path

/-- An absolute path without empty names, `.` and `..`, in a tree without links. -/
def direct (path : String) : String :=
  let names := (segments path).foldl (fun names name =>
    if name = "" ∨ name = "." then names
    else if name = ".." then names.drop 1
    else name :: names) []
  "/" ++ "/".intercalate names.reverse

def fileName? (path : String) : Option String :=
  match ((segments path).filter fun s => s ≠ "" ∧ s ≠ ".").getLast? with
  | some ".." => none
  | name => name

/-- What stands behind the last dot of a name that does not start with it. -/
def nameExtension? (name : List Char) : Option (List Char) :=
  let ext := name.reverse.takeWhile (· ≠ '.')
  let stem := name.take (name.length - ext.length - 1)
  if stem.isEmpty ∨ ext.length = name.length then none else some ext.reverse

def extension? (path : String) : Option String := do
  let name ← fileName? path
  return String.ofList (← nameExtension? name.toList)

end Unbundled.Files.Path
