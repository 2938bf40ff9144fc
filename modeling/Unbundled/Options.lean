import Unbundled.Json.Record

namespace Unbundled

structure Options where
  port : Nat := 3000
  host : String := "127.0.0.1"
  index : String := "index.html"
deriving Repr, DecidableEq, Inhabited

/-- What a configuration says. What it does not say stays as it is. -/
structure Settings where
  port : Option Nat := none
  host : Option String := none
  index : Option String := none
deriving Repr, DecidableEq, Inhabited

namespace Options

def fieldKinds : List (String × Json.FieldKind) :=
  [("port", .port), ("host", .text), ("index", .text)]

def shape : Json.Shape := ⟨"EsmsOptions", fieldKinds, false, true⟩

def ofRecord (r : Json.Record) : Options :=
  let d : Options := {}
  ⟨(r.port 0).getD d.port, (r.text 1).getD d.host, (r.text 2).getD d.index⟩

def read (text : String) : Except Json.Fault Options := ofRecord <$> shape.read text

def ofJson (j : Json) : Except Json.Cause Options := ofRecord <$> shape.ofJson j

def address (o : Options) : String := o.host ++ ":" ++ toString o.port

end Options

namespace Settings

def shape : Json.Shape := ⟨"ConfigFile", Options.fieldKinds, true, false⟩

def ofRecord (r : Json.Record) : Settings := ⟨r.port 0, r.text 1, r.text 2⟩

def read (text : String) : Except Json.Fault Settings := ofRecord <$> shape.read text

def ofJson (j : Json) : Except Json.Cause Settings := ofRecord <$> shape.ofJson j

def onto (s : Settings) (o : Options) : Options :=
  ⟨s.port.getD o.port, s.host.getD o.host, s.index.getD o.index⟩

end Settings

end Unbundled
