import Unbundled.Json.Value
import Unbundled.Notice
import Unbundled.Script.Tree

namespace Unbundled.Config

open Number (Double)

open Script

/-- A whole number below `2 ^ 53` in size is an integer; one that is not finite has no value. -/
def numberValue (d : Double) : Json :=
  match d.toInt? with
  | some i => if i.natAbs < 0x20000000000000 then .num (.int i) else .num (.float d)
  | none =>
    match d with
    | .finite .. => .num (.float d)
    | _ => .null

def memberName? : Key → Option String
  | .word w => some w.name
  | .str lit => some lit.value
  | .num _ d _ => some d.positional
  | _ => none

def placeOf (place name : String) : String := if place.isEmpty then name else place ++ "." ++ name

def skipped (place : String) : Noted (Option Json) := (none, [.skippedValue place])

mutual

def literal (place : String) : Expr → Noted (Option Json)
  | .paren _ e | .asType _ e _ | .satisfies _ e _ | .asConst _ e | .constAssertion _ e =>
    literal place e
  | .str lit => (some (.str lit.value), [])
  | .bool _ b => (some (.bool b), [])
  | .null _ => (some .null, [])
  | .num _ d _ => (some (numberValue d), [])
  | .unary _ .minus (.num _ d _) => (some (numberValue d.neg), [])
  | .template _ quasis [] => (quasis.head?.bind (·.cooked) |>.map .str, [])
  | .array _ es =>
    let (items, notices) := literals place es
    (some (.arr items), notices)
  | .object _ props =>
    let (members, notices) := members place [] props
    (some (.obj members), notices)
  | _ => skipped place
termination_by structural e => e

/-- The values of the elements of an array. Missing and spread elements just go. -/
def literals (place : String) : List Expr → Noted (List Json)
  | [] => ([], [])
  | .hole :: es | .spread _ _ :: es => literals place es
  | e :: es =>
    let (item, notices) := literal place e
    let (items, more) := literals place es
    (item.toList ++ items, notices ++ more)
termination_by structural es => es

/-- The members of an object. Of two with one name the last one counts. -/
def members (place : String) (ms : List (String × Json)) :
    List Property → Noted (List (String × Json))
  | [] => (ms, [])
  | p :: ps =>
    let (ms, notices) := member place ms p
    let (ms, more) := members place ms ps
    (ms, notices ++ more)
termination_by structural ps => ps

def member (place : String) (ms : List (String × Json)) :
    Property → Noted (List (String × Json))
  | .keyed key value =>
    match memberName? key with
    | none => (ms, [.skippedValue place])
    | some name =>
      let (v, notices) := literal (placeOf place name) value
      (v.elim ms (Json.put name · ms), notices)
  | _ => (ms, [.skippedValue place])
termination_by structural p => p

end

end Unbundled.Config
