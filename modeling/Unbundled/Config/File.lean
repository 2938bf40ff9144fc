import Unbundled.Config.Literal
import Unbundled.Failure
import Unbundled.Files.Tree
import Unbundled.Options
import Unbundled.Script.Source

namespace Unbundled.Config

open Files Script

/-- The names of configuration files. Of several files the first one counts. -/
def fileNames : List String := ["esms.config.json", "esms.config.ts", "esms.config.js"]

def find? (fs : FileSystem) (root : String) : Option String :=
  (fileNames.map (Path.join root)).find? fs.isFile

def exported? : Stmt → Option Expr
  | .exportDefaultExpr _ e => some e
  | .expr _ (.assign _ .plain (.expr (.member _ (.ident obj) (.word prop))) value) =>
    if obj.name = "module" ∧ prop.name = "exports" then some value else none
  | _ => none

def unwrapped : Expr → Expr
  | .paren _ e | .asType _ e _ | .satisfies _ e _ | .asConst _ e | .constAssertion _ e =>
    unwrapped e
  | e => e

/-- The settings within what is exported: as they are, or as the first argument of a call. -/
def settingsExpr (e : Expr) : Expr :=
  match unwrapped e with
  | .call _ _ _ (.spread ..  :: _) | .call _ _ _ [] => e
  | .call _ _ _ (arg :: _) => unwrapped arg
  | e => e

def ofScript (path source : String) : Noted (Except String Json) :=
  match readSource path source with
  | .error fault => (.error fault.text, [])
  | .ok m =>
    match m.items.reverse.findSome? exported? with
    | none =>
      (.error "no `export default \x7b ... \x7d` or `module.exports = \x7b ... \x7d` found", [])
    | some e =>
      match settingsExpr e with
      | .object s props =>
        let (v, notices) := literal "" (.object s props)
        (.ok (v.getD .null), notices)
      | _ => (.error "exported config is not an object literal", [])

def isJson (path : String) : Bool :=
  (Path.extension? path).any fun ext => Text.lower ext = "json"

def value (path source : String) : Noted (Except String Json) :=
  if isJson path then
    (match Json.read source with
      | .ok v => .ok v
      | .error fault => .error (fault.message source), [])
  else ofScript path source

def parse (path source : String) : Noted (Except Failure Settings) :=
  let (v, notices) := value path source
  let settings := v.bind fun v =>
    match Settings.ofJson v with
    | .ok s => .ok s
    | .error cause => .error cause.message
  (settings.mapError (.configInvalid path), notices)

/-- Which file to read: the given one, as seen from the root, or the one of the project. -/
def path? (fs : FileSystem) (root : String) (explicit : Option String) : Option String :=
  match explicit with
  | some p => some (Path.join root p)
  | none => find? fs root

def load (fs : FileSystem) (root : String) (explicit : Option String) :
    Noted (Except Failure (Option (String × Settings))) :=
  match path? fs root explicit with
  | none => (.ok none, [])
  | some path =>
    match fs.readText path with
    | .error fault => (.error (.configUnreadable path fault.message), [])
    | .ok source =>
      let (settings, notices) := parse path source
      (settings.map fun s => some (path, s), notices)

/-- The defaults, then the configuration of a project, then what is asked for. -/
def options (fs : FileSystem) (root : String) (explicit : Option String) (asked : Settings) :
    Noted (Except Failure Options) :=
  let (found, notices) := load fs root explicit
  (found.map fun f => asked.onto (f.elim {} fun f => f.2.onto {}), notices)

end Unbundled.Config
