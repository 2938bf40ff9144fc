import Unbundled.Http.Message
import Unbundled.Text.Chars

namespace Unbundled.Http

def headerOf? (line : String) : Option (String × String) :=
  match cut ':' line.toList with
  | (name, some value) => some (String.ofList name, Text.trim (String.ofList value))
  | (_, none) => none

def Request.ofLines? : List String → Option Request
  | [] => none
  | line :: lines =>
    match Text.split ' ' line with
    | [method, target, _] => some ⟨method, target, lines.filterMap headerOf?⟩
    | _ => none

def reason (status : Nat) : String :=
  match status with
  | 200 => "OK"
  | 206 => "Partial Content"
  | 304 => "Not Modified"
  | 307 => "Temporary Redirect"
  | 400 => "Bad Request"
  | 404 => "Not Found"
  | 405 => "Method Not Allowed"
  | 412 => "Precondition Failed"
  | 416 => "Range Not Satisfiable"
  | _ => "Internal Server Error"

def Response.head (r : Response) : String :=
  "HTTP/1.1 " ++ toString r.status ++ " " ++ reason r.status ++ "\r\n"
    ++ String.join (r.headers.map fun (k, v) => k ++ ": " ++ v ++ "\r\n") ++ "\r\n"

end Unbundled.Http
