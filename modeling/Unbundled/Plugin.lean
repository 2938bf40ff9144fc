import Unbundled.Failure
import Unbundled.Pattern.Matches
import Unbundled.Text.Columns

namespace Unbundled

/-- `transform root path code` is the new code, or nothing if the code stays. -/
structure Plugin where
  name : String
  patternText : String
  pattern : Pattern
  transform : (root path code : String) → Option String

namespace Plugin

def make (name patternText : String) (transform : (root path code : String) → Option String) :
    Except Failure Plugin :=
  match Pattern.read patternText with
  | .ok pattern => .ok ⟨name, patternText, pattern, transform⟩
  | .error fault =>
    .error (.other ("invalid pattern for plugin " ++ name ++ ": " ++ fault.message))

def isFor (p : Plugin) (path : String) : Bool := p.pattern.occursIn path

def description (p : Plugin) : String :=
  "PatternPlugin \x7b name: " ++ Text.shown p.name ++ ", pattern: " ++ Text.shown p.patternText
    ++ ", .. \x7d"

def applyAll (plugins : List Plugin) (root path code : String) : String :=
  (plugins.filter (·.isFor path)).foldl (fun code p => (p.transform root path code).getD code) code

end Plugin

end Unbundled
