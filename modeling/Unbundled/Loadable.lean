import Unbundled.Erasure.Lowering
import Unbundled.Linking.Imports
import Unbundled.Linking.Usage
import Unbundled.Script.Parens
import Unbundled.Script.Print.Module
import Unbundled.Script.Source

namespace Unbundled

open Files

/-- A module that a browser can load, whether the source exports a value, and what there is
to tell. -/
structure Loadable where
  code : String
  exports : Bool
  notices : List Notice
deriving Repr, DecidableEq, Inhabited

namespace Loadable

def exportsLine : String := "var exports = \x7b\x7d;\n"

def moduleLine : String := "var module = \x7bexports\x7d;\n"

def defaultLine : String := "export default exports.default || module.exports;\n"

/-- Code that exports nothing, with its `module.exports` as the default export. -/
def wrapped (code : String) : String :=
  exportsLine ++ moduleLine ++ code ++ "\n" ++ defaultLine

def ofSource (fs : FileSystem) (root path source : String) : Except SourceFault Loadable := do
  let m ← Script.readSource path source
  let l := Linking.link fs root m.items
  let plain := if (Script.Dialect.ofPath path).typescript then Erasure.erased l.items else l.items
  let m := { m with items := Linking.pruneImports plain }
  let code := m.trimmed.text
  return ⟨if l.exports then code else wrapped code, l.exports, l.notices⟩

end Loadable

end Unbundled
