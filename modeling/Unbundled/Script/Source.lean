import Unbundled.Failure
import Unbundled.Files.Path
import Unbundled.Script.Read.Item
import Unbundled.Script.Read.Jsx

namespace Unbundled.Script

/-- `.ts`, `.mts` and `.cts` are TypeScript, `.tsx` is TypeScript with JSX, `.jsx` is JSX
and all else plain, whatever the case of the letters. -/
def Dialect.ofPath (path : String) : Dialect :=
  match (Files.Path.extension? path).map Text.lower with
  | some "ts" | some "mts" | some "cts" => ⟨true, false⟩
  | some "tsx" => ⟨true, true⟩
  | some "jsx" => ⟨false, true⟩
  | _ => ⟨false, false⟩

def Dialect.name : Dialect → String
  | ⟨false, false⟩ => "JavaScript"
  | ⟨false, true⟩ => "Jsx"
  | ⟨true, false⟩ => "TypeScript"
  | ⟨true, true⟩ => "Tsx"

namespace Read

def grammar : Nat → Grammar
  | 0 => fun _ => Parse.failAt 1 .depth
  | n + 1 => fun goal =>
    let g := grammar n
    match goal with
    | .expr => expr g
    | .assign => assign g
    | .binary => binary g
    | .operators left prec => operators g left prec
    | .unary => unary g
    | .leftHandSide => leftHandSide g
    | .memberOrNew => memberOrNew g
    | .arrowBody async simple => arrowBody g async simple
    | .jsx => jsxElement g
    | .decorators allowExport => decorators g allowExport
    | .classExpr start ds => classExpr g start ds
    | .pattern noLet => pattern g noLet
    | .params => paramList g false
    | .ty => ty g
    | .plainTy => plainTy g
    | .operatorTy => operatorTy g
    | .moduleBody start => namespaceDecl g start
    | .block _ => block g
    | .stmt declarations topLevel => item g declarations topLevel

def moduleItems (g : Grammar) : Parse (Span × Option String × List Stmt) := do
  let start ← curPos
  let shebang ← match ← curToken with
    | some (.shebang t) => do
      bump
      pure (some t)
    | _ => pure none
  let items ← Parse.collect do
    if ← atEnd then return none else return some (← g.stmt true true)
  return (← spanFrom start, shebang, items)

end Read

/-- A module with its comments, which have their places in the text it was read from. -/
structure Module where
  span : Span
  shebang : Option String
  items : List Stmt
  comments : Comments
deriving Inhabited

/-- Reads a module. Of several faults one that stops the reading counts, else the first. -/
def Module.read (dialect : Dialect) (text : String) : Except Fault Module :=
  let chars := text.toList.toArray
  let chars := if chars[0]? == some '\ufeff' then chars.extract 1 chars.size else chars
  let g := Read.grammar (64 * (chars.size + 4))
  match Read.moduleItems g dialect { text := chars } with
  | .error fault _ => .error fault
  | .ok (span, shebang, items) s =>
    match s.faults.getLast? with
    | some fault => .error fault
    | none => .ok ⟨span, shebang, items, s.placed⟩

/-- A byte order mark at the start of a text belongs to no line. -/
def withoutMark : List Char → List Char
  | '\ufeff' :: cs => cs
  | cs => cs

def readSource (path text : String) : Except SourceFault Module :=
  match Module.read (Dialect.ofPath path) text with
  | .ok m => .ok m
  | .error f =>
    .error ⟨path, Text.Place.of (withoutMark text.toList) (f.pos - 1), f.cause.message⟩

end Unbundled.Script
