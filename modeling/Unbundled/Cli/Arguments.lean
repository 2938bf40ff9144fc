import Unbundled.Text.Similar

namespace Unbundled.Cli

inductive Flag where
  | port | host | index | config | verbose | json | help | version
deriving Repr, DecidableEq, Inhabited

namespace Flag

def all : List Flag := [port, host, index, config, verbose, json, help, version]

def long : Flag → String
  | port => "port"
  | host => "host"
  | index => "index"
  | config => "config"
  | verbose => "verbose"
  | json => "json"
  | help => "help"
  | version => "version"

def short? : Flag → Option Char
  | port => some 'p'
  | config => some 'c'
  | verbose => some 'v'
  | help => some 'h'
  | version => some 'V'
  | _ => none

def valueName? : Flag → Option String
  | port => some "PORT"
  | host => some "HOST"
  | index | config => some "FILE"
  | _ => none

def purpose : Flag → String
  | port => "Port to listen on [default: 3000]"
  | host => "Address to bind [default: 127.0.0.1]"
  | index => "Page `/` redirects to [default: index.html]"
  | config => "Config file (default: esms.config.\x7bjson,ts,js\x7d in ROOT)"
  | verbose => "Increase logging verbosity (-v for DEBUG, -vv for TRACE)"
  | json => "Emit logs as JSON lines"
  | help => "Print help"
  | version => "Print version"

def text (f : Flag) : String :=
  "--" ++ f.long ++
    match f.valueName? with
    | some v => " <" ++ v ++ ">"
    | none => if f = verbose then "..." else ""

end Flag

inductive Item where
  | flag (f : Flag)
  | root
deriving Repr, DecidableEq, Inhabited

def Item.text : Item → String
  | .flag f => f.text
  | .root => "[ROOT]"

structure Arguments where
  root : String := "."
  port : Option Nat := none
  host : Option String := none
  index : Option String := none
  config : Option String := none
  verbosity : Nat := 0
  json : Bool := false
deriving Repr, DecidableEq, Inhabited

inductive Fault where
  /-- Nothing is called `text`. It may be meant as a value, if `asValue`, or as one of the
  options. `given` is what is given besides. -/
  | unexpected (text : String) (asValue : Bool) (similar : Option Flag) (given : List Item)
  | missingValue (item : Item)
  | invalidValue (flag : Flag) (value cause : String)
  | unneededValue (flag : Flag) (value : String) (given : List Item)
  | repeated (item : Item)
deriving Repr, DecidableEq, Inhabited

def programName : String := "esms"

def programVersion : String := "0.3.0"

def usage (given : List Item) : String :=
  let flags := given.filterMap fun i => match i with
    | .flag f => some f.text
    | .root => none
  let root := if given.contains .root then "<ROOT>" else "[ROOT]"
  "Usage: " ++ " ".intercalate
    (programName :: (if given.isEmpty then ["[OPTIONS]"] else flags) ++ [root])

namespace Fault

def message : Fault → String
  | unexpected text .. => "unexpected argument '" ++ text ++ "' found"
  | missingValue item => "a value is required for '" ++ item.text ++ "' but none was supplied"
  | invalidValue f value cause =>
    "invalid value '" ++ value ++ "' for '" ++ f.text ++ "': " ++ cause
  | unneededValue f value _ =>
    "unexpected value '" ++ value ++ "' for '" ++ f.text ++ "' found; no more were expected"
  | repeated item => "the argument '" ++ item.text ++ "' cannot be used multiple times"

def tip? : Fault → Option String
  | unexpected _ _ (some f) _ => some ("a similar argument exists: '--" ++ f.long ++ "'")
  | unexpected text true none _ =>
    some ("to pass '" ++ text ++ "' as a value, use '-- " ++ text ++ "'")
  | _ => none

def usage? : Fault → Option String
  | unexpected _ _ _ given => some (usage given)
  | unneededValue f _ given => some (usage (given ++ [.flag f]))
  | repeated _ => some (usage [])
  | missingValue _ | invalidValue .. => none

def text (f : Fault) : String :=
  "error: " ++ f.message ++ f.tip?.elim "" ("\n\n  tip: " ++ ·) ++ f.usage?.elim "" ("\n\n" ++ ·)
    ++ "\n\nFor more information, try '--help'.\n"

end Fault

def versionText : String := programName ++ " " ++ programVersion ++ "\n"

def leftAligned (width : Nat) (s : String) : String :=
  s ++ String.ofList (List.replicate (width - s.length) ' ')

def flagColumn (f : Flag) : String :=
  (f.short?.elim "    " fun c => "-" ++ c.toString ++ ", ") ++ f.text

def flagLine (f : Flag) : String := "  " ++ leftAligned 19 (flagColumn f) ++ "  " ++ f.purpose

def helpText : String :=
  "\n".intercalate (["Serve a project to the browser as native ES modules", "",
    usage [], "",
    "Arguments:", "  [ROOT]  Project root to serve [default: .]", "", "Options:"]
    ++ Flag.all.map flagLine) ++ "\n"

end Unbundled.Cli
