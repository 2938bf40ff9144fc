import Unbundled.Script.Bindings
import Unbundled.Script.Visit

/-!
Parameters that declare fields. Their class declares the fields itself, and its constructor
sets them, followed by the fields that have an initial value, as soon as there is a `this`:
behind each call of `super`, or first thing if there is none.
-/

namespace Unbundled.Erasure

open Script

def declaredField? (p : Param) : Option Ident :=
  if p.access.isSome || p.isReadonly || p.isOverride then p.pat.bound.head? else none

def plainParam (p : Param) : Param :=
  { p with access := none, isReadonly := false, isOverride := false }

def thisMember (key : Key) : Expr := .member .absent (.this .absent) key

def setField (s : Span) (key : Key) (value : Expr) : Expr :=
  .assign s .plain (.expr (thisMember key)) value

def setFromParam (id : Ident) : Expr :=
  setField .absent (.word ⟨id.name, .absent⟩) (.ident { id with span := .absent })

def fieldDecl (id : Ident) : Member :=
  .field .absent {} false [] (.word ⟨id.name, .absent⟩) none none

def isLiteral : Expr → Bool
  | .str _ | .num .. | .bigint .. | .bool .. | .null _ | .regex .. => true
  | _ => false

/-- The name that holds a computed key until the constructor needs it. -/
def heldKey : Ident := { name := "_key", span := .absent }

/-- The key of a field in its declaration and in an access to it, and what is to be held
for the access. -/
def fieldKeys : Key → Key × Key × List Ident
  | .computed s e =>
    if isLiteral e then (.computed s e, .computed s e, [])
    else (.computed s (.assign .absent .plain (.ident heldKey none) e),
      .computed .absent (.ident heldKey), [heldKey])
  | .str lit => (.str lit, .computed .absent (.str lit), [])
  | .num s d raw => (.num s d raw, .computed .absent (.num s d raw), [])
  | .bigint s raw => (.bigint s raw, .computed .absent (.bigint s raw), [])
  | key => (key, key, [])

def splitField : Member → Member × List Expr × List Ident
  | m@(.field s mods false ds key ann (some value)) =>
    if mods.isStatic then (m, [], [])
    else
      let (declared, accessed, held) := fieldKeys key
      (.field s mods false ds declared ann none, [setField s accessed value], held)
  | m => (m, [], [])

/-- How the value of an expression is used: not at all, in some way, or as what an arrow
function returns. -/
inductive Use where
  | dropped | used | returned
deriving Repr, DecidableEq, Inhabited

/-- Knows how the value at hand is used, and whether a call of `super` has been seen. -/
abbrev Injecting := ReaderT Use (StateM Bool)

namespace Injecting

def isSuperCall : Expr → Bool
  | .call _ (.super _) .. => true
  | _ => false

def followed (use : Use) (call : Expr) (es : List Expr) : Expr :=
  if use = .dropped then .seq .absent (call :: es)
  else .member .absent (.array .absent (call :: es))
    (.computed .absent (.num .absent (Number.Double.ofNat 0) none))

def partUse (use : Use) : Expr → Use
  | .paren .. | .seq .. => use
  | .arrow _ _ _ _ _ (.expr ..) => .returned
  | _ => .used

/-- Only the last element of a sequence is used as the sequence is. -/
def elements (use : Use) (go : Injecting Expr) : Injecting Expr := do
  let last ← withReader (fun _ => use) go
  let others ← withReader (fun _ => .dropped) go
  match others, last with
  | .seq s es, .seq _ es' => return .seq s (es.dropLast ++ es'.getLast?.toList)
  | _, e => return e

def expr (added : List Expr) (e : Expr) (go : Injecting Expr) : Injecting Expr := do
  let use ← read
  let r ← match e with
    | .seq .. => elements use go
    | e => withReader (fun _ => partUse use e) go
  if isSuperCall r then
    set true
    return followed use r added
  else return r

def stmt (s : Stmt) (go : Injecting Stmt) : Injecting Stmt := do
  match s with
  | .expr .. => withReader (fun use => if use = .returned then .used else .dropped) go
  | _ => withReader (fun _ => .used) go

def visitor (added : List Expr) : Visitor Injecting :=
  { ref := pure
    bind := pure
    expr := expr added
    stmt := stmt
    func := fun f _ => return f
    member := fun m go => match m with
      | .ctor .. => return m
      | _ => go }

end Injecting

def isDirective : Stmt → Bool
  | .expr _ (.str _) => true
  | _ => false

def injected (added : List Expr) (body : Block) : Block :=
  let (body, found) := ((body.visit (Injecting.visitor added)).run .used).run false
  if found then body
  else
    let added := added.map fun e => Stmt.expr .absent e
    { body with
      stmts := body.stmts.takeWhile isDirective ++ added ++ body.stmts.dropWhile isDirective }

def constructorParams? : List Member → Option (List Param)
  | [] => none
  | .ctor _ _ _ ps (some _) :: _ => some ps
  | _ :: ms => constructorParams? ms

def withAdded (added : List Expr) : Member → Member
  | .ctor s mods key ps (some body) =>
    .ctor s mods key (ps.map plainParam) (some (injected added body))
  | m => m

def withDeclaredFields (members : List Member) : List Member × List Ident :=
  let fields := ((constructorParams? members).getD []).filterMap declaredField?
  if fields.isEmpty then (members, [])
  else
    let split := members.map splitField
    let added := fields.map setFromParam ++ split.flatMap fun m => m.2.1
    (fields.map fieldDecl ++ split.map fun m => withAdded added m.1,
      split.flatMap fun m => m.2.2)

end Unbundled.Erasure
