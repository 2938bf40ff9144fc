namespace Unbundled

inductive Notice where
  | invalidManifest (manifest fault : String)
  | droppedImport (specifier : String)
  | skippedValue (key : String)
  | outsideRoot (path : String)
  | notFound (path : String)
  | failed (path fault : String)
deriving Repr, DecidableEq, Inhabited

namespace Notice

def isError : Notice → Bool
  | .failed .. => true
  | _ => false

def message : Notice → String
  | .invalidManifest .. => "invalid package.json"
  | .droppedImport _ => "dropping side-effect import of unresolved module"
  | .skippedValue _ => "skipping non-literal config value"
  | .outsideRoot _ => "rejecting path outside the project root"
  | .notFound path => "[" ++ path ++ "] not found"
  | .failed .. => "failed to serve module"

def fields : Notice → List (String × String)
  | .invalidManifest manifest fault => [("manifest", manifest), ("error", fault)]
  | .droppedImport specifier => [("specifier", specifier)]
  | .skippedValue key => [("key", key)]
  | .outsideRoot path => [("path", path)]
  | .notFound _ => []
  | .failed path fault => [("path", path), ("error", fault)]

end Notice

/-- A value, and what there is to tell about how it came about. -/
abbrev Noted (α : Type) := α × List Notice

end Unbundled
