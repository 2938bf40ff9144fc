import Unbundled.Date.Exact
import Unbundled.Files.Tree
import Unbundled.Http.MediaType
import Unbundled.Http.Message
import Unbundled.Http.Range

namespace Unbundled.Http

open Files

def hexDigit? (b : UInt8) : Option UInt8 :=
  if 48 ≤ b ∧ b ≤ 57 then some (b - 48)
  else if 97 ≤ b ∧ b ≤ 102 then some (b - 87)
  else if 65 ≤ b ∧ b ≤ 70 then some (b - 55)
  else none

def percentDecoded : List UInt8 → List UInt8
  | 37 :: a :: b :: bs =>
    match hexDigit? a, hexDigit? b with
    | some x, some y => (x * 16 + y) :: percentDecoded bs
    | _, _ => 37 :: percentDecoded (a :: b :: bs)
  | b :: bs => b :: percentDecoded bs
  | [] => []
termination_by bs => bs.length

/-- The file or directory within the root that a path means, if it leads to no parent. -/
def fileOf? (root path : String) : Option String := do
  let bytes := percentDecoded (Text.withoutLeading "/" path).toUTF8.toList
  let decoded ← String.fromUTF8? ⟨bytes.toArray⟩
  let names := (Path.segments decoded).filter fun s => s ≠ "" ∧ s ≠ "."
  if Path.isAbsolute decoded ∨ names.contains ".." then none
  else some (names.foldl Path.join root)

def notFound : Response := ⟨404, [], ByteArray.empty⟩

def notAllowed : Response := ⟨405, [("allow", "GET,HEAD")], ByteArray.empty⟩

def redirect (location : String) : Response := ⟨307, [("location", location)], ByteArray.empty⟩

/-- Whether a request is not to be answered because the file has not changed, or because it
has, and with which status. -/
def precondition? (r : Request) (modified : Instant) : Option Nat :=
  let date? (name : String) : Option Instant := (r.header? name).bind HttpDate.parseExact?
  if (date? "if-unmodified-since").any fun since => since.seconds < modified.seconds then some 412
  else if (date? "if-modified-since").any fun since => modified.seconds ≤ since.seconds then
    some 304
  else none

/-- The answer with a file or the part of it that is asked for. Only for the years 1970 to 9999 is the
date that of the header: files of other years are left out. -/
def sendFile (r : Request) (path : String) (file : File) : Response :=
  let size := file.bytes.size
  let headers := [("content-type", mediaType path), ("accept-ranges", "bytes"),
    ("last-modified", (HttpDate.text? file.modified).getD "")]
  let body (bytes : ByteArray) : ByteArray := if r.method = "HEAD" then ByteArray.empty else bytes
  let unsatisfiable := ("content-range", "bytes */" ++ toString size)
  match r.header? "range" with
  | none =>
    ⟨200, headers ++ [("content-length", toString size)], body file.bytes⟩
  | some header =>
    match ranges? size header with
    | some [(first, last)] =>
      ⟨206, headers ++ [
          ("content-range", "bytes " ++ toString first ++ "-" ++ toString last ++ "/"
            ++ toString size),
          ("content-length", toString (last - first + 1))],
        body (file.bytes.extract first (last + 1))⟩
    | some (_ :: _) =>
      ⟨416, headers ++ [unsatisfiable], "Cannot serve multipart range requests".toUTF8⟩
    | _ => ⟨416, headers ++ [unsatisfiable], ByteArray.empty⟩

/-- The answer with what lies at a path within the root. A directory without a slash at its
end leads to the same path with a slash, and one with a slash to its index page. -/
def sendStatic (fs : FileSystem) (root : String) (r : Request) : Response :=
  if r.method ≠ "GET" ∧ r.method ≠ "HEAD" then notAllowed
  else
    let target := Target.ofText r.target
    match fileOf? root target.path with
    | none => notFound
    | some path =>
      let isDir := fs.isDir path
      if isDir ∧ target.path.toList.getLast? ≠ some '/' then
        redirect { target with path := target.path ++ "/" }.text
      else
        let path := if isDir then Path.join path "index.html" else path
        match fs.readFile path with
        | .error _ => notFound
        | .ok file =>
          match precondition? r file.modified with
          | some status => ⟨status, [], ByteArray.empty⟩
          | none => sendFile r path file

end Unbundled.Http
