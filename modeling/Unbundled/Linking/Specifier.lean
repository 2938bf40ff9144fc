import Unbundled.Notice
import Unbundled.Resolver

namespace Unbundled.Linking

open Files

inductive Treatment where
  | keep
  | replace (url : String)
  | unresolved (reason : Reason)
deriving Repr, DecidableEq, Inhabited

def isUrl (specifier : String) : Bool :=
  Text.contains "://" specifier || Text.startsWith "data:" specifier

def isLoadable (specifier : String) : Bool :=
  Text.startsWith "." specifier || Text.startsWith "/" specifier || isUrl specifier

/-- `@/` stands for `/src/`, and a bare specifier for a file of `node_modules`. -/
def classify (fs : FileSystem) (root specifier : String) : Treatment :=
  match Text.afterPrefix? "@/" specifier with
  | some rest => .replace ("/src/" ++ rest)
  | none =>
    if isLoadable specifier then .keep
    else
      match Resolver.resolve fs root specifier with
      | .resolved url => .replace url
      | .unresolved reason => .unresolved reason

end Unbundled.Linking

namespace Unbundled

def Reason.notices : Reason → List Notice
  | .manifestInvalid manifest fault => [.invalidManifest manifest fault]
  | _ => []

def Linking.Treatment.notices : Linking.Treatment → List Notice
  | .unresolved reason => reason.notices
  | _ => []

def Resolution.notices : Resolution → List Notice
  | .unresolved reason => reason.notices
  | .resolved _ => []

end Unbundled
