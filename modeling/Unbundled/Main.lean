import Unbundled.Cli.Run
import Unbundled.Http.Site
import Unbundled.Http.Wire

/-!
The command line. Requests come in on standard input and answers go out on standard output,
so that whatever accepts connections can hand each of them to a process of its own.
-/

namespace Unbundled

open Files

partial def nodeAt (path : String) : IO Node := do
  let place ← IO.FS.realPath path
  let about ← place.metadata
  match about.type with
  | .dir =>
    let names := (← place.readDir).toList.map (·.fileName)
    return .dir (← names.mapM fun name => return (name, ← nodeAt (Path.join path name)))
  | _ =>
    let modified : Instant := ⟨about.modified.sec, about.modified.nsec.toNat⟩
    return .file ⟨← IO.FS.readBinFile path, modified⟩

def treeOf (paths : List String) : IO FileSystem :=
  paths.foldlM (fun fs path => do
    try return fs.put (Path.direct path) (← nodeAt path)
    catch _ => return fs) ⟨.dir []⟩

def pathsOf (here : String) (a : Cli.Arguments) : List String :=
  let root := Path.direct (Path.join here a.root)
  root :: a.config.toList.map (Path.join root)

def tell (notices : List Notice) : IO Unit :=
  notices.forM fun n => IO.eprintln (" ".intercalate
    ((if n.isError then "ERROR" else "WARN") :: n.message :: n.fields.map fun (k, v) => k ++ "=" ++ v))

partial def readHead (input : IO.FS.Stream) : IO (List String) := do
  let line := Text.withoutTrailing '\r' (Text.withoutTrailing '\n' (← input.getLine))
  if line.isEmpty then return [] else return line :: (← readHead input)

partial def serve (s : Server) (input output : IO.FS.Stream) : IO Unit := do
  let lines ← readHead input
  if lines.isEmpty then return
  let response ← match Http.Request.ofLines? lines with
    | none => pure ({ status := 400 } : Http.Response).withLength
    | some request =>
      let (response, notices) := Http.answer s (← treeOf [s.root]) request
      tell notices
      pure response
  output.write (response.head.toUTF8 ++ response.body)
  output.flush
  serve s input output

end Unbundled

open Unbundled in
def main (words : List String) : IO UInt32 := do
  let here := (← IO.currentDir).toString
  let fs ← match Cli.read words with
    | .ok a => treeOf (pathsOf here a)
    | .error _ => pure default
  let (ending, notices) := Cli.run fs here words
  tell notices
  IO.print ending.output
  match ending with
  | .misused text => IO.eprint text
  | .failed f => IO.eprintln ("Error: " ++ f.text)
  | .serves s => serve s (← IO.getStdin) (← IO.getStdout)
  | .shown _ => pure ()
  return ending.status.toUInt32
