import Unbundled.Text.Columns

namespace Unbundled

structure SourceFault where
  path : String
  place : Text.Place
  message : String
deriving Repr, DecidableEq, Inhabited

def SourceFault.text (f : SourceFault) : String :=
  "Failed to parse " ++ f.path ++ ":" ++ toString f.place.line ++ ":" ++ toString f.place.column
    ++ ": " ++ f.message

inductive Failure where
  | io (fault : String)
  | rootNotFound (root : String)
  | configUnreadable (path fault : String)
  | configInvalid (path fault : String)
  | source (fault : SourceFault)
  | unprintable (path fault : String)
  | other (text : String)
deriving Repr, DecidableEq, Inhabited

def Failure.text : Failure → String
  | .io fault => "IO error: " ++ fault
  | .rootNotFound root => "Project root not found: " ++ root
  | .configUnreadable path fault => "Failed to read config at " ++ path ++ ": " ++ fault
  | .configInvalid path fault => "Failed to parse config at " ++ path ++ ": " ++ fault
  | .source fault => fault.text
  | .unprintable path fault => "Failed to emit " ++ path ++ ": " ++ fault
  | .other text => text

end Unbundled
