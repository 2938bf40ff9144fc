import Unbundled.Json.Read

namespace Unbundled.Json

inductive FieldKind where
  | text
  | port
deriving Repr, DecidableEq, Inhabited

inductive Field where
  | text (value : String)
  | port (value : Nat)
deriving Repr, DecidableEq, Inhabited

/-- A type of records: its name in messages and its fields; whether a field may be `null`,
and whether a list may end before all fields are given. -/
structure Shape where
  name : String
  fields : List (String × FieldKind)
  nullable : Bool
  partialList : Bool
deriving Repr, DecidableEq, Inhabited

def FieldKind.expected : FieldKind → String
  | .text => "a string"
  | .port => "u16"

def FieldKind.ofNumber (kind : FieldKind) (n : Json.Number) : Except Cause Field :=
  match kind, n with
  | .port, .int i =>
    if 0 ≤ i ∧ i < 65536 then .ok (.port i.toNat) else .error (.wrongValue (.integer i) "u16")
  | _, .int i => .error (.wrongType (.integer i) kind.expected)
  | _, .float d => .error (.wrongType (.floating d) kind.expected)

def FieldKind.ofString (kind : FieldKind) (s : String) : Except Cause Field :=
  match kind with
  | .text => .ok (.text s)
  | .port => .error (.wrongType (.string s) kind.expected)

def Shape.index? (shape : Shape) (name : String) : Option Nat :=
  shape.fields.findIdx? fun f => f.1 = name

def Shape.tooShort (shape : Shape) (n : Nat) : Cause :=
  .wrongLength n ("struct " ++ shape.name ++ " with " ++ toString shape.fields.length ++ " elements")

def Shape.expected (shape : Shape) : String := "struct " ++ shape.name

/-- The fields of a record, in the order of the shape. -/
abbrev Record := List (Option Field)

def Record.text (r : Record) (i : Nat) : Option String :=
  match r[i]? with
  | some (some (.text s)) => some s
  | _ => none

def Record.port (r : Record) (i : Nat) : Option Nat :=
  match r[i]? with
  | some (some (.port n)) => some n
  | _ => none

namespace Reader

def unexpected {α : Type} (expected : String) : Reader α := do
  match ← peekToken with
  | none => fail .eofInValue
  | some 'n' =>
    skip
    word ['u', 'l', 'l']
    fail (.wrongType .null expected)
  | some 't' =>
    skip
    word ['r', 'u', 'e']
    fail (.wrongType (.boolean true) expected)
  | some 'f' =>
    skip
    word ['a', 'l', 's', 'e']
    fail (.wrongType (.boolean false) expected)
  | some '"' =>
    skip
    fail (.wrongType (.string (← string)) expected)
  | some '[' => fail (.wrongType .sequence expected)
  | some '{' => fail (.wrongType .map expected)
  | some c =>
    if c = '-' ∨ c.isDigit then
      if c = '-' then skip
      match ← number (c = '-') with
      | .int i => fail (.wrongType (.integer i) expected)
      | .float d => fail (.wrongType (.floating d) expected)
    else failNext .value

def presentField : FieldKind → Reader Field
  | .text => do
    match ← peekToken with
    | none => fail .eofInValue
    | some '"' =>
      skip
      return .text (← string)
    | some _ => unexpected FieldKind.text.expected
  | .port => do
    match ← peekToken with
    | none => fail .eofInValue
    | some c =>
      if c = '-' ∨ c.isDigit then
        if c = '-' then skip
        lift (FieldKind.port.ofNumber (← number (c = '-')))
      else unexpected FieldKind.port.expected

def field (shape : Shape) (kind : FieldKind) : Reader (Option Field) := do
  if shape.nullable ∧ (← peekToken) = some 'n' then
    skip
    word ['u', 'l', 'l']
    return none
  return some (← presentField kind)

def listedFields (shape : Shape) : Nat → List (String × FieldKind) → Reader Record
  | _, [] => do
    endList
    return []
  | n, (_, kind) :: fields => do
    if ← moreItems (n = 0) then
      let f ← field shape kind
      return f :: (← listedFields shape (n + 1) fields)
    else
      endList
      if shape.partialList then return none :: fields.map fun _ => none
      else fail (shape.tooShort n)

/-- A field that is given twice is reported behind its name, or behind the brace that
closes the record if one follows. -/
def duplicateField {α : Type} (name : String) : Reader α := do
  if (← peekToken) = some '}' then skip
  fail (.duplicate name)

def namedFields (shape : Shape) : Nat → Bool → List Nat → Record → Reader Record
  | 0, _, _, r => return r
  | fuel + 1, first, seen, r => do
    if ← moreMembers first then
      skip
      let name ← string
      match shape.index? name with
      | none =>
        colon
        ignored
        namedFields shape fuel false seen r
      | some i =>
        if seen.contains i then duplicateField name
        colon
        let kind := ((shape.fields[i]?).map (·.2)).getD .text
        let f ← field shape kind
        namedFields shape fuel false (i :: seen) (r.set i f)
    else
      endObject
      return r

def record (shape : Shape) : Reader Record := do
  match ← peekToken with
  | none => fail .eofInValue
  | some '[' =>
    skip
    listedFields shape 0 shape.fields
  | some '{' =>
    skip
    namedFields shape (← turns) true [] (shape.fields.map fun _ => none)
  | some _ => unexpected shape.expected

end Reader

def Shape.read (shape : Shape) (text : String) : Except Fault Record :=
  Reader.run (Reader.record shape) text

def found : Json → Found
  | .null => .null
  | .bool b => .boolean b
  | .num (.int i) => .integer i
  | .num (.float d) => .floating d
  | .str s => .string s
  | .arr _ => .sequence
  | .obj _ => .map

def FieldKind.ofJson (kind : FieldKind) : Json → Except Cause Field
  | .num n => kind.ofNumber n
  | .str s => kind.ofString s
  | j => .error (.wrongType (found j) kind.expected)

def Shape.fieldOf (shape : Shape) (kind : FieldKind) (j : Json) : Except Cause (Option Field) :=
  match j with
  | .null =>
    if shape.nullable then .ok none else .error (.wrongType .null kind.expected)
  | j => some <$> kind.ofJson j

def Shape.ofItems (shape : Shape) (total : Nat) :
    Nat → List (String × FieldKind) → List Json → Except Cause Record
  | _, [], [] => .ok []
  | _, [], _ :: _ => .error (.wrongLength total "fewer elements in array")
  | n, (_, kind) :: fields, j :: js => do
    return (← shape.fieldOf kind j) :: (← shape.ofItems total (n + 1) fields js)
  | n, _ :: fields, [] =>
    if shape.partialList then .ok (none :: fields.map fun _ => none)
    else .error (shape.tooShort n)

def Shape.ofMembers (shape : Shape) : List (String × Json) → Record → Except Cause Record
  | [], r => .ok r
  | (name, j) :: ms, r =>
    match shape.index? name with
    | none => shape.ofMembers ms r
    | some i => do
      let kind := ((shape.fields[i]?).map (·.2)).getD .text
      shape.ofMembers ms (r.set i (← shape.fieldOf kind j))

def Shape.ofJson (shape : Shape) : Json → Except Cause Record
  | .arr js => shape.ofItems js.length 0 shape.fields js
  | .obj ms => shape.ofMembers ms (shape.fields.map fun _ => none)
  | j => .error (.wrongType (found j) shape.expected)

end Unbundled.Json
