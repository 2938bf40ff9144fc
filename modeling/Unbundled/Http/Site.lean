import Unbundled.Http.Static
import Unbundled.Server

namespace Unbundled.Http

open Files

def failureScript (message : String) : String := "console.error(" ++ Json.quote message ++ ");\n"

def failed (message : String) : Response :=
  ⟨500, [("content-type", ContentType.script.text)], (failureScript message).toUTF8⟩

def sendContent (c : Content) : Response :=
  ⟨200, [("content-type", c.type.text), ("cache-control", c.cacheControl)]
    ++ c.lastModified.toList.map fun d => ("last-modified", d), c.body.toUTF8⟩

def indexPath (o : Options) : String := "/" ++ Text.withoutLeading "/" o.index

def sendOther (s : Server) (fs : FileSystem) (r : Request) : Response :=
  if (Target.ofText r.target).path = "/" then
    if r.method = "GET" ∨ r.method = "HEAD" then redirect (indexPath s.options)
    else ⟨405, [], ByteArray.empty⟩
  else sendStatic fs s.root r

def queryOf (r : Request) : Query :=
  ⟨(Target.ofText r.target).path, r.header? "if-modified-since", r.header? "sec-fetch-dest"⟩

def respond (s : Server) (fs : FileSystem) (r : Request) : Noted Response :=
  if r.method ≠ "GET" ∧ r.method ≠ "HEAD" then (sendOther s fs r, [])
  else
    let q := queryOf r
    match s.load fs q with
    | (.ok (.content c), notices) => (sendContent c, notices)
    | (.ok .notModified, notices) => (⟨304, [], ByteArray.empty⟩, notices)
    | (.ok .notFound, notices) => (notFound, notices)
    | (.ok .other, notices) => (sendOther s fs r, notices)
    | (.error f, notices) => (failed f.text, notices ++ [.failed q.path f.text])

def sharing : List (String × String) :=
  [("access-control-allow-origin", "*"),
    ("vary", "origin, access-control-request-method, access-control-request-headers")]

def permission : Response :=
  ⟨200, [("access-control-allow-methods", "PUT,POST,GET,DELETE,OPTIONS"),
    ("access-control-allow-headers",
      "content-type,content-length,authorization,accept,x-requested-with")], ByteArray.empty⟩

def withAllowed (r : Request) (answer : Response) : Response :=
  if (Target.ofText r.target).path = "/" ∧ r.method ≠ "GET" ∧ r.method ≠ "HEAD" then
    answer.withDefault "allow" "GET,HEAD"
  else answer

def answer (s : Server) (fs : FileSystem) (r : Request) : Noted Response :=
  let (response, notices) := if r.method = "OPTIONS" then (permission, []) else respond s fs r
  let shared := { response with headers := response.headers ++ sharing }
  ((withAllowed r shared).withLength, notices)

end Unbundled.Http
