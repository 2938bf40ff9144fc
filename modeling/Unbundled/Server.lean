import Unbundled.Date.Http
import Unbundled.Loadable
import Unbundled.Options
import Unbundled.Plugin
import Unbundled.Resolver

namespace Unbundled

open Files

structure Server where
  root : String
  options : Options := {}
  plugins : List Plugin := []

structure Query where
  path : String
  ifModifiedSince : Option String := none
  /-- What the answer is for. -/
  destination : Option String := none
deriving Repr, DecidableEq, Inhabited

def Query.isForScript (q : Query) : Bool := q.destination.any fun d => Text.lower d = "script"

inductive ContentType where
  | script | json | css
deriving Repr, DecidableEq, Inhabited

def ContentType.text : ContentType → String
  | script => "application/javascript; charset=UTF-8"
  | json => "application/json; charset=UTF-8"
  | css => "text/css; charset=UTF-8"

/-- What is sent for a module. `path` is the one it has been found under. -/
structure Content where
  body : String
  type : ContentType
  cacheControl : String
  lastModified : Option String
  path : String
deriving Repr, DecidableEq, Inhabited

inductive Outcome where
  | content (c : Content)
  | notModified
  | notFound
  /-- Not a module, but there may be a file to send as it is. -/
  | other
deriving Repr, DecidableEq, Inhabited

namespace Server

def start (fs : FileSystem) (root : String) (options : Options) : Except Failure Server :=
  if fs.isDir root then .ok ⟨root, options, []⟩ else .error (.rootNotFound root)

def description (s : Server) : String :=
  "ModuleServer \x7b root: " ++ Text.shown s.root ++ ", options: EsmsOptions \x7b port: "
    ++ toString s.options.port ++ ", host: " ++ Text.shown s.options.host ++ ", index: "
    ++ Text.shown s.options.index ++ " \x7d, plugins: ["
    ++ ", ".intercalate (s.plugins.map fun p => Text.shown p.name) ++ "] \x7d"

/-- What may be missing at the end of the path of a file. -/
def suffixes : List String := [".ts", ".js"]

def moduleExtensions : List String := ["css", "js", "ts", "json"]

def packagesPath : String := "/node_modules/"

structure Location where
  file : String
  path : String
deriving Repr, DecidableEq, Inhabited

/-- What lies at a path within the root. -/
def under (root path : String) : String := Path.join root (Text.withoutLeading "/" path)

def locatePackage (fs : FileSystem) (root path : String) : Noted (Option Location) :=
  match Text.afterPrefix? packagesPath path with
  | none => (none, [])
  | some specifier =>
    let r := Resolver.resolve fs root specifier
    match r with
    | .resolved url => (some ⟨under root url, url⟩, r.notices)
    | .unresolved _ => (none, r.notices)

/-- What is behind a path: the file itself, else the file that the path names without its
suffix, else what it names among the packages, else a directory. -/
def locate (fs : FileSystem) (root path : String) : Noted (Option Location) :=
  let exact := under root path
  if fs.isFile exact then (some ⟨exact, path⟩, [])
  else
    match suffixes.find? fun s => fs.isFile (Path.join root (Text.withoutLeading "/" path ++ s)) with
    | some s => (some ⟨Path.join root (Text.withoutLeading "/" path ++ s), path ++ s⟩, [])
    | none =>
      let (found, notices) := locatePackage fs root path
      (found.orElse fun _ => if fs.exists exact then some ⟨exact, path⟩ else none, notices)

def extension (path : String) : String := Text.lower ((Path.extension? path).getD "")

def isFresh (q : Query) (modified : Instant) : Bool :=
  (q.ifModifiedSince.bind HttpDate.parse?).any fun since => modified.seconds ≤ since.seconds

def cacheControl (path : String) : String :=
  if Text.startsWith packagesPath path then "max-age=100000"
  else "no-cache, no-store, must-revalidate, max-age=0"

/-- The body for a file before the plugins see it. -/
def body (fs : FileSystem) (root : String) (q : Query) (path source : String) :
    Noted (Except Failure (String × ContentType)) :=
  match extension path with
  | "js" | "ts" =>
    match Loadable.ofSource fs root path source with
    | .ok l => (.ok (l.code, .script), l.notices)
    | .error fault => (.error (.source fault), [])
  | "json" =>
    if q.isForScript then (.ok ("export default " ++ Text.trim source ++ ";\n", .script), [])
    else (.ok (source, .json), [])
  | _ => (.ok (source, .css), [])

def content (s : Server) (fs : FileSystem) (q : Query) (l : Location) (modified : Instant) :
    Noted (Except Failure Outcome) :=
  match fs.readText l.file with
  | .error fault => (.error (.io fault.message), [])
  | .ok source =>
    let (made, notices) := body fs s.root q l.path source
    (made.map fun (text, type) => .content
      ⟨Plugin.applyAll s.plugins s.root l.path text, type, cacheControl l.path,
        HttpDate.text? modified, l.path⟩, notices)

def load (s : Server) (fs : FileSystem) (q : Query) : Noted (Except Failure Outcome) :=
  if (Path.segments q.path).contains ".." then (.ok .notFound, [.outsideRoot q.path])
  else
    let (found, notices) := locate fs s.root q.path
    match found with
    | none => (.ok .notFound, notices ++ [.notFound q.path])
    | some l =>
      match fs.readFile l.file with
      | .error _ => (.ok .other, notices)
      | .ok file =>
        if !moduleExtensions.contains (extension l.path) then (.ok .other, notices)
        else if isFresh q file.modified then (.ok .notModified, notices)
        else
          let (answer, more) := content s fs q l file.modified
          (answer, notices ++ more)

end Server

end Unbundled
