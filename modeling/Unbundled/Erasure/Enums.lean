import Unbundled.Erasure.Imports
import Unbundled.Number.Shortest

/-!
The values of enum members. A member is a number or a text if its initialiser can be
computed from literals and from members before it; then uses of the member give way to it.
-/

namespace Unbundled.Erasure

open Number (Double pow2)

open Script

inductive EnumValue where
  | text (s : String)
  | number (d : Double)
  /-- Known only at run time. -/
  | late (e : Expr)
  /-- A member without an initialiser that follows none that is a number. -/
  | missing
deriving Inhabited

/-- The values of members, by enum and name. Later entries stand first. -/
abbrev EnumTable := List ((Key × String) × EnumValue)

namespace EnumTable

def find? (t : EnumTable) (enum : Key) (name : String) : Option EnumValue := t.lookup (enum, name)

end EnumTable

namespace EnumValue

def textExpr (s : String) : Expr := .str ⟨s, none, .absent⟩

def isConstant : EnumValue → Bool
  | text _ | number _ => true
  | _ => false

def isText : EnumValue → Bool
  | text _ => true
  | _ => false

def toExpr : EnumValue → Expr
  | text s => textExpr s
  | number d => .num .absent d none
  | late e => e
  | missing => .unary .absent .void (.num .absent (Double.ofNat 0) none)

def next : EnumValue → EnumValue
  | number d => number (d.add (Double.ofNat 1))
  | _ => missing

def inText? : EnumValue → Option String
  | text s => some s
  | number d => some d.script
  | _ => none

def signed (n : Int) : Double :=
  let r := n % 0x100000000
  Double.ofInt (if r ≥ 0x80000000 then r - 0x100000000 else r)

def bitwise (op : Nat → Nat → Nat) (a b : Double) : Double :=
  signed (op a.toUInt32 b.toUInt32)

def arithmetic? : BinaryOp → Option (Double → Double → Double)
  | .add => some Double.add
  | .sub => some Double.sub
  | .mul => some Double.mul
  | .div => some Double.div
  | .mod => some Double.rem
  | .exp => some Double.pow
  | .shiftLeft => some fun a b => signed (a.toInt32 * pow2 (b.toUInt32 % 32))
  | .shiftRight => some fun a b => Double.ofInt (a.toInt32 / pow2 (b.toUInt32 % 32))
  | .shiftRightZero => some fun a b => Double.ofNat (a.toUInt32 / pow2 (b.toUInt32 % 32))
  | .bitOr => some (bitwise Nat.lor)
  | .bitAnd => some (bitwise Nat.land)
  | .bitXor => some (bitwise Nat.xor)
  | _ => none

def lateBinary (s : Span) (op : BinaryOp) (e e' : Expr) (a b : EnumValue) : EnumValue :=
  late (.binary s op (if a.isConstant then a.toExpr else e) (if b.isConstant then b.toExpr else e'))

def binary (s : Span) (op : BinaryOp) (e e' : Expr) (a b : EnumValue) : EnumValue :=
  match arithmetic? op with
  | none => late (.binary s op e e')
  | some f =>
    match op, a, b with
    | _, number x, number y => number (f x y)
    | .add, text x, text y => text (x ++ y)
    | .add, number x, text y => text (x.script ++ y)
    | .add, text x, number y => text (x ++ y.script)
    | _, a, b => lateBinary s op e e' a b

def unary (s : Span) (op : UnaryOp) (e : Expr) (a : EnumValue) : EnumValue :=
  match op, a with
  | .plus, number d => number d
  | .minus, number d => number d.neg
  | .tilde, number d => number (Double.ofInt (-1 - d.toInt32))
  | .plus, a | .minus, a | .tilde, a => late (.unary s op a.toExpr)
  | op, _ => late (.unary s op e)

def memberName? : Script.Key → Option String
  | .word w => some w.name
  | .computed _ (.str lit) => some lit.value
  | _ => none

def access (owner : String) (prop : Ident) : Expr :=
  .member .absent (.ident { name := owner, span := .absent }) (.word ⟨prop.name, prop.span⟩)

def ofName (t : EnumTable) (enum : Key) (id : Ident) : EnumValue :=
  if id.scope = 0 ∧ id.name = "NaN" then number .nan
  else if id.scope = 0 ∧ id.name = "Infinity" then number (.infinite false)
  else
    match t.find? enum id.name with
    | some (late _) | some missing => late (access enum.1 id)
    | some v => v
    | none => late (.ident id)

def ofAccess (t : EnumTable) (s : Span) (obj : Expr) (key : Script.Key) : EnumValue :=
  let same := late (.member s obj key)
  match memberName? key, obj with
  | some name, .ident id =>
    match t.find? (keyOf id) name with
    | some missing | none => same
    | some v => v
  | _, _ => same

def joined : List Quasi → List EnumValue → Option String
  | [], _ => some ""
  | [q], _ => some q.raw
  | q :: _, [] => some q.raw
  | q :: qs, v :: vs => do return q.raw ++ (← v.inText?) ++ (← joined qs vs)

mutual

def compute (t : EnumTable) (enum : Key) : Expr → EnumValue
  | .str lit => text lit.value
  | .num _ d _ => number d
  | .ident id => ofName t enum id
  | .paren _ e => compute t enum e
  | .unary s op e => unary s op e (compute t enum e)
  | .binary s op e e' => binary s op e e' (compute t enum e) (compute t enum e')
  | .member s obj key => ofAccess t s obj key
  | .template s qs es =>
    match joined qs (computeList t enum es) with
    | some s => text s
    | none => late (.template s qs es)
  | e => late e
termination_by structural e => e

def computeList (t : EnumTable) (enum : Key) : List Expr → List EnumValue
  | [] => []
  | e :: es => compute t enum e :: computeList t enum es
termination_by structural es => es

end

def qualifier (t : EnumTable) (enum : Key) : Visitor Id where
  ref := id
  bind := id
  expr _ go :=
    match (go : Expr) with
    | .ident id => if (t.find? enum id.name).isSome then access enum.1 id else .ident id
    | e => e

def ofInit (t : EnumTable) (enum : Key) (init : Expr) : EnumValue :=
  match compute t enum init with
  | late e => late (e.visit (qualifier t enum))
  | v => v

end EnumValue

def caseName : Script.Key → String
  | .word w => w.name
  | .str lit => lit.value
  | _ => ""

def EnumTable.add (enum : Key) : EnumTable → EnumValue → List Member → EnumTable
  | t, _, [] => t
  | t, default, .enumCase _ key init :: ms =>
    let v := match init.map (EnumValue.ofInit t enum) with
      | some .missing | none => default
      | some v => v
    EnumTable.add enum (((enum, caseName key), v) :: t) v.next ms
  | t, default, _ :: ms => EnumTable.add enum t default ms

namespace EnumTable

def collector : Visitor (StateM EnumTable) where
  ref := pure
  bind := pure
  stmt s go := do
    let r ← go
    if let .enum _ name _ _ members := s then
      modify fun t => t.add (keyOf name) (.number (Number.Double.ofNat 0)) members
    return r

def ofItems (items : List Stmt) : EnumTable := ((collector.run items).run []).2

end EnumTable

end Unbundled.Erasure
