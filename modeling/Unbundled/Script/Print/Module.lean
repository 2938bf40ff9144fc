import Unbundled.Script.Source
import Unbundled.Script.Print.Tree

namespace Unbundled.Script

namespace Print

def moduleItem (s : Stmt) : Print := do
  leading s.span.lo
  s.print true
  trailing s.span.hi true

def moduleItems : List Stmt → Print
  | [] => skip
  | s :: ss => do
    moduleItem s
    moduleItems ss

def module (m : Module) : Print := do
  leading m.span.lo
  if let some text := m.shebang then
    write ("#!" ++ text)
    line
  moduleItems m.items
  trailing m.span.hi true

end Print

def Module.text (m : Module) : String :=
  ((Print.module m).run { comments := m.comments }).2.out

end Unbundled.Script
