import Unbundled.Config.File
import Unbundled.Server

namespace Unbundled

open Files

/-- What a launch is asked for: the root as seen from `here`, the configuration file as seen
from the root, and settings that go before those of the file. -/
structure Launch where
  here : String
  root : String
  config : Option String := none
  settings : Settings := {}
deriving Repr, DecidableEq, Inhabited

namespace Launch

def addressFault? (address : String) : Option Failure :=
  if address.toList.contains '\x00' then some (.other Fault.nulInName.message) else none

def server (fs : FileSystem) (l : Launch) : Noted (Except Failure Server) :=
  let path := Path.join l.here l.root
  if !fs.exists path then (.error (.rootNotFound l.root), [])
  else
    let root := Path.direct path
    let (options, notices) := Config.options fs root l.config l.settings
    (do
      let s ← Server.start fs root (← options)
      match addressFault? s.options.address with
      | some f => throw f
      | none => return s, notices)

end Launch

end Unbundled
