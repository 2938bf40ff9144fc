import Unbundled.Cli.Read
import Unbundled.Launch

namespace Unbundled.Cli

open Files

inductive Ending where
  | shown (text : String)
  | misused (text : String)
  | failed (f : Failure)
  | serves (s : Server)

def Ending.status : Ending → Nat
  | shown _ | serves _ => 0
  | misused _ => 2
  | failed _ => 1

def Ending.output : Ending → String
  | shown text => text
  | _ => ""

def launchOf (here : String) (a : Arguments) : Launch :=
  ⟨here, a.root, a.config, ⟨a.port, a.host, a.index⟩⟩

def run (fs : FileSystem) (here : String) (words : List String) : Noted Ending :=
  match read words with
  | .error .help => (.shown helpText, [])
  | .error .version => (.shown versionText, [])
  | .error (.fault f) => (.misused f.text, [])
  | .ok a =>
    let (server, notices) := (launchOf here a).server fs
    (match server with
      | .ok s => .serves s
      | .error f => .failed f, notices)

end Unbundled.Cli
