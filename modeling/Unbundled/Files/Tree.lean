import Unbundled.Date.Calendar
import Unbundled.Files.Path

namespace Unbundled.Files

structure File where
  bytes : ByteArray
  modified : Instant

inductive Node where
  | file (file : File)
  | dir (entries : List (String × Node))

instance : Inhabited Node := ⟨.dir []⟩

inductive Fault where
  | notFound | notDirectory | isDirectory | nameTooLong | nulInName | notText
deriving Repr, DecidableEq, Inhabited

def Fault.message : Fault → String
  | .notFound => "No such file or directory (os error 2)"
  | .notDirectory => "Not a directory (os error 20)"
  | .isDirectory => "Is a directory (os error 21)"
  | .nameTooLong => "File name too long (os error 36)"
  | .nulInName => "file name contained an unexpected NUL byte"
  | .notText => "stream did not contain valid UTF-8"

def maxName : Nat := 255

def maxPath : Nat := 4096

def follow (here : Node) (up : List Node) : List String → Except Fault Node
  | [] => .ok here
  | name :: names =>
    match here with
    | .file _ => .error .notDirectory
    | .dir entries =>
      if name = "" ∨ name = "." then follow here up names
      else if name = ".." then
        match up with
        | [] => follow here [] names
        | parent :: up => follow parent up names
      else if name.utf8ByteSize > maxName then .error .nameTooLong
      else
        match entries.lookup name with
        | none => .error .notFound
        | some node => follow node (here :: up) names

structure FileSystem where
  top : Node
deriving Inhabited

namespace FileSystem

variable (fs : FileSystem)

def stat (path : String) : Except Fault Node :=
  if path.toList.contains '\x00' then .error .nulInName
  else if path.isEmpty then .error .notFound
  else if path.utf8ByteSize ≥ maxPath then .error .nameTooLong
  else follow fs.top [] (Path.segments path)

def isFile (path : String) : Bool :=
  match fs.stat path with
  | .ok (.file _) => true
  | _ => false

def isDir (path : String) : Bool :=
  match fs.stat path with
  | .ok (.dir _) => true
  | _ => false

def «exists» (path : String) : Bool := (fs.stat path).toOption.isSome

def readFile (path : String) : Except Fault File :=
  match fs.stat path with
  | .ok (.file f) => .ok f
  | .ok (.dir _) => .error .isDirectory
  | .error e => .error e

def readText (path : String) : Except Fault String := do
  match String.fromUTF8? (← fs.readFile path).bytes with
  | some s => .ok s
  | none => .error .notText

end FileSystem

def setEntry (name : String) (node : Node) : List (String × Node) → List (String × Node)
  | [] => [(name, node)]
  | (n, old) :: es => if n = name then (n, node) :: es else (n, old) :: setEntry name node es

/-- Puts a node at the end of a path of plain names, making directories on the way. -/
def Node.put (new : Node) : List String → Node → Node
  | [], old =>
    match new, old with
    | .dir [], .dir es => .dir es
    | _, _ => new
  | _, .file f => .file f
  | name :: names, .dir es =>
    .dir (setEntry name (Node.put new names ((es.lookup name).getD (.dir []))) es)

def Node.remove : List String → Node → Except Fault Node
  | [], _ => .ok (.dir [])
  | _, .file _ => .error .notDirectory
  | name :: names, .dir es =>
    match es.lookup name, names with
    | none, _ => .error .notFound
    | some _, [] => .ok (.dir (es.filter (·.1 ≠ name)))
    | some node, names => do return .dir (setEntry name (← Node.remove names node) es)

def plainNames (path : String) : List String :=
  (Path.segments path).filter fun s => s ≠ "" ∧ s ≠ "."

def FileSystem.put (fs : FileSystem) (path : String) (new : Node) : FileSystem :=
  ⟨Node.put new (plainNames path) fs.top⟩

def FileSystem.remove (fs : FileSystem) (path : String) : Except Fault FileSystem := do
  return ⟨← Node.remove (plainNames path) fs.top⟩

end Unbundled.Files
