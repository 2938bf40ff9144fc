import Unbundled.Files.Tree
import Unbundled.Json.Record

namespace Unbundled

open Files

structure Manifest where
  module : Option String := none
  main : Option String := none
deriving Repr, DecidableEq, Inhabited

namespace Manifest

def shape : Json.Shape :=
  ⟨"PackageDescriptor", [("module", .text), ("main", .text)], true, true⟩

def read (text : String) : Except Json.Fault Manifest := do
  let r ← shape.read text
  return ⟨r.text 0, r.text 1⟩

/-- A field without leading `./`, unless nothing is left of it. -/
def pick (field : Option String) : Option String :=
  (field.map (Text.withoutLeading "./")).filter (· ≠ "")

/-- The file a package starts with, relative to its directory. -/
def entry (m : Manifest) : String :=
  ((pick m.module).orElse fun _ => pick m.main).getD "index.js"

end Manifest

inductive Reason where
  | notFound
  | manifestNotFound
  | manifestInvalid (manifest : String) (fault : String)
  | entryNotFound
deriving Repr, DecidableEq, Inhabited

def Reason.code : Reason → String
  | .notFound => "NOT_FOUND"
  | .manifestNotFound => "PACKAGE_JSON_NOT_FOUND"
  | .manifestInvalid .. => "PACKAGE_JSON_INVALID"
  | .entryNotFound => "ENTRY_NOT_FOUND"

inductive Resolution where
  | resolved (url : String)
  | unresolved (reason : Reason)
deriving Repr, DecidableEq, Inhabited

namespace Resolver

/-- What a specifier with a slash may lack at its end, in the order of trial. -/
def suffixes : List String := ["", ".ts", ".js", ".json"]

def nodeModules (root : String) : String := Path.join root "node_modules"

def resolvePackage (fs : FileSystem) (root name : String) : Resolution :=
  let dir := Path.join (nodeModules root) name
  let manifest := Path.join dir "package.json"
  match fs.readText manifest with
  | .error _ => .unresolved .manifestNotFound
  | .ok text =>
    match Manifest.read text with
    | .error f => .unresolved (.manifestInvalid manifest (f.message text))
    | .ok m =>
      if fs.isFile (Path.join dir m.entry) then
        .resolved ("/node_modules/" ++ name ++ "/" ++ m.entry)
      else .unresolved .entryNotFound

def probe (fs : FileSystem) (root specifier : String) : Option String :=
  (suffixes.map (specifier ++ ·)).find? fun name =>
    fs.isFile (Path.join (nodeModules root) name)

/-- Resolves a bare specifier. One with a slash names a file or, if there is none, a
directory that has a manifest; one without a slash names a package. -/
def resolve (fs : FileSystem) (root specifier : String) : Resolution :=
  let specifier := Text.withoutTrailing '/' specifier
  if specifier.toList.contains '/' then
    match probe fs root specifier with
    | some name => .resolved ("/node_modules/" ++ name)
    | none =>
      if fs.isFile (Path.join (Path.join (nodeModules root) specifier) "package.json") then
        resolvePackage fs root specifier
      else .unresolved .notFound
  else resolvePackage fs root specifier

end Resolver

end Unbundled
