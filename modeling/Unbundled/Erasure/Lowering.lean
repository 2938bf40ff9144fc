import Unbundled.Erasure.Enums
import Unbundled.Erasure.Fields
import Unbundled.Erasure.Types
import Unbundled.Script.Scope

/-!
Enums, namespaces and `import … =` as plain code. An enum and a namespace become a variable
and a function that fills the object in it; what a namespace exports lives in its object.
-/

namespace Unbundled.Erasure

open Script

/-! ## What is exported -/

/-- A name that is exported. If it is a variable of a namespace, `owner` names the namespace,
and uses of the variable go through it. -/
structure Export where
  key : Key
  owner : Option String
deriving Repr, DecidableEq, Inhabited

def exportedNames : ExportSpecifier → Option Export
  | .named _ (.ident id) .. => some ⟨keyOf id, none⟩
  | _ => none

def declExports (owner : Option String) : Stmt → List Export
  | .var _ _ _ decls => (decls.flatMap (·.pat.bound)).map fun id => ⟨keyOf id, owner⟩
  | .func name .. | .cls name .. => [⟨keyOf name, none⟩]
  | .enum _ name .. | .namespace _ name .. => [⟨keyOf name, none⟩]
  | _ => []

def itemExports (owner : Option String) : Stmt → List Export
  | .exportDecl _ decl => declExports owner decl
  | .importEquals _ true _ id _ => [⟨keyOf id, owner⟩]
  | .exportNamed _ _ specifiers none _ => specifiers.filterMap exportedNames
  | .exportDefaultExpr _ (.ident id) => [⟨keyOf id, none⟩]
  | _ => []

/-- Knows the namespace around and gathers what is exported. -/
abbrev Exporting := ReaderT (Option String) (StateM (List Export))

def exportCollector : Visitor Exporting where
  ref := pure
  bind := pure
  stmt s go := do
    let owner ← read
    modify (· ++ itemExports owner s)
    match s with
    | .namespace _ name .. => withReader (fun _ => some name.name) go
    | _ => go

def exportsOf (items : List Stmt) : List Export :=
  (((exportCollector.run items).run none).run []).2

/-! ## Building blocks -/

def plainIdent (name : String) : Ident := { name, span := .absent }

def nameExpr (name : String) : Expr := .ident (plainIdent name)

def memberOf (owner : String) (name : String) : Expr :=
  .member .absent (nameExpr owner) (.word ⟨name, .absent⟩)

def assignTo (target : Pat) (value : Expr) : Expr := .assign .absent .plain target value

def emptyObject : Expr := .object .absent []

def orEmpty (e : Expr) : Expr :=
  .binary .absent .or e (assignTo (.expr e) emptyObject)

def filledObject (owner : Option String) (name : String) : Expr :=
  match owner with
  | none => orEmpty (nameExpr name)
  | some owner => assignTo (.ident (plainIdent name) none) (orEmpty (memberOf owner name))

def fill (s : Span) (name : String) (body : Block) (arg : Expr) : Stmt :=
  let param : Param := ⟨.absent, [], none, false, false, .ident (plainIdent name) none⟩
  .expr s (.call .absent
    (.func none ⟨.absent, [], false, false, [], [param], none, some body⟩) [] [arg])

def oneVar (kind : VarKind) (s : Span) (name : Ident) (init : Option Expr) : Stmt :=
  .var s kind false [⟨.absent, .ident name none, false, init⟩]

/-! ## Within an item -/

structure Surroundings where
  enums : EnumTable
  exports : List Export
  /-- The namespace around, if there is one. -/
  owner : Option String := none
  /-- Whether the expression at hand is assigned to. -/
  isTarget : Bool := false

structure Progress where
  declared : List Key := []
  held : List Ident := []

abbrev Lowering := ReaderT Surroundings (StateM Progress)

namespace Surroundings

def access? (c : Surroundings) (id : Ident) : Option Expr := do
  let e ← c.exports.find? (·.key = keyOf id)
  return EnumValue.access (← e.owner) id

def constant? (c : Surroundings) : Expr → Option Expr
  | .member _ (.ident id) key => do
    let v ← c.enums.find? (keyOf id) (← EnumValue.memberName? key)
    if v.isConstant then some v.toExpr else none
  | _ => none

end Surroundings

namespace Lowering

def isParen : Expr → Bool
  | .paren .. => true
  | _ => false

def withTarget {α : Type} (b : Bool) (go : Lowering α) : Lowering α :=
  withReader (fun c => { c with isTarget := b }) go

def withOwner {α : Type} (name : String) (go : Lowering α) : Lowering α :=
  withReader (fun c => { c with owner := some name }) go

def expr (e : Expr) (go : Lowering Expr) : Lowering Expr := do
  let c ← read
  match e with
  | .ident id => return (c.access? id).getD e
  | .update .. => withTarget true go
  | e =>
    match if c.isTarget then none else c.constant? e with
    | some v => return v
    | none => withTarget (c.isTarget && isParen e) go

def pat (p : Pat) (go : Lowering Pat) : Lowering Pat := do
  let c ← read
  match p with
  | .ident id _ => return (c.access? id).elim p .expr
  | .shorthand s id _ =>
    match c.access? id, ← go with
    | some e, .shorthand _ _ default =>
      let value : Pat := match default with
        | some d => .default s (.expr e) d
        | none => .expr e
      return .keyed (.word ⟨id.name, id.span⟩) value
    | _, p => return p
  | .expr _ => withTarget true go
  | _ => go

def prop (p : Property) (go : Lowering Property) : Lowering Property := do
  match p with
  | .shorthand id => return ((← read).access? id).elim p (.keyed (.word ⟨id.name, id.span⟩))
  | _ => go

def jsxName (n : JsxName) (go : Lowering JsxName) : Lowering JsxName := do
  match n with
  | .ident id =>
    match (← read).exports.find? (·.key = keyOf id) with
    | some ⟨_, some owner⟩ =>
      return .member .absent (.ident (plainIdent owner)) ⟨id.name, id.span⟩
    | _ => return n
  | _ => go

def members (_ : List Member) (go : Lowering (List Member)) : Lowering (List Member) := do
  let (ms, held) := withDeclaredFields (← go)
  modify fun p => { p with held := p.held ++ held }
  return ms

def declare (id : Ident) : Lowering Bool := do
  let p ← get
  set { p with declared := keyOf id :: p.declared }
  return !p.declared.contains (keyOf id)

def declaration (id : Ident) (exported : Bool) : Lowering (List Stmt) := do
  if ← declare id then
    let kind := if id.scope = Scope.moduleNumber then .var else .let
    let decl := oneVar kind .absent (plainIdent id.name) none
    return [if exported && (← read).owner.isNone then .exportDecl .absent decl else decl]
  else return []

def throughOwners (c : Surroundings) (e : Expr) : Expr :=
  ((e.visit { ref := pure, bind := pure, expr, pat, prop, jsxName }).run
    { c with enums := [], isTarget := false }).run {} |>.1

/-- `E[E["name"] = value] = "name"`; a member that is a text has no entry back to its name. -/
def memberLine (enum : String) (s : Span) (name : String) (value : EnumValue) : Stmt :=
  let entry (key : Expr) : Pat := .expr (.member .absent (nameExpr enum) (.computed .absent key))
  let set := assignTo (entry (EnumValue.textExpr name)) value.toExpr
  .expr s (if value.isText then set else assignTo (entry set) (EnumValue.textExpr name))

def memberLines (c : Surroundings) (enum : Ident) (omitConstants : Bool) : List Member → List Stmt
  | [] => []
  | .enumCase s key _ :: ms =>
    let value := match c.enums.find? (keyOf enum) (caseName key) with
      | some (.late e) => .late (throughOwners c e)
      | some v => v
      | none => .missing
    if omitConstants && value.isConstant then memberLines c enum omitConstants ms
    else memberLine enum.name s (caseName key) value :: memberLines c enum omitConstants ms
  | _ :: ms => memberLines c enum omitConstants ms

def lowerEnum (exported : Bool) (s : Span) (id : Ident) (isConst : Bool) (members : List Member) :
    Lowering (List Stmt) := do
  let c ← read
  let decl ← declaration id exported
  let omitted := isConst && !exported && !c.exports.any (·.key = keyOf id)
  let lines := memberLines c id omitted members
  if lines.isEmpty && isConst then return decl
  else
    let owner := if exported then c.owner else none
    return decl ++ [fill s id.name ⟨.absent, lines⟩ (filledObject owner id.name)]

def entityExpr (c : Surroundings) : EntityName → Expr
  | .ident id => (c.access? id).getD (.ident id)
  | .qualified s left right => .member s (entityExpr c left) (.word right)

/-- A declaration that is exported from a namespace also enters the object of the namespace. -/
def exportLine (owner : String) (s : Span) (id : Ident) : Stmt :=
  .expr s (assignTo (.expr (memberOf owner id.name)) (.ident id))

def initialised (d : Declarator) : Option Expr :=
  d.init.map fun init => assignTo (match d.pat with
    | .ident id _ => .ident id none
    | p => p) init

def namespaceItem (c : Surroundings) (owner : String) : Stmt → List Stmt
  | .exportDecl s (.func id declared fn) => [.func id declared fn, exportLine owner s id]
  | .exportDecl s (.cls id declared cls) => [.cls id declared cls, exportLine owner s id]
  | .exportDecl s (.var _ _ _ decls) =>
    match decls.filterMap initialised with
    | [] => []
    | [e] => [.expr s e]
    | es => [.expr s (.seq .absent es)]
  | .importEquals s exported _ id target =>
    let init := entityExpr c target
    if exported then [.expr s (assignTo (.expr (memberOf owner id.name)) init)]
    else [oneVar .const s id (some init)]
  | item => [item]

def namespaceBody (c : Surroundings) (owner : String) : Stmt → Block
  | .moduleBlock s items => ⟨s, items.flatMap (namespaceItem c owner)⟩
  | .namespace s id _ (some body) =>
    ⟨s, [fill .absent id.name (namespaceBody c id.name body) (orEmpty (memberOf owner id.name))]⟩
  | _ => ⟨.absent, []⟩

def lowerNamespace (exported : Bool) (s : Span) (id : Ident) (body : Stmt) :
    Lowering (List Stmt) := do
  let c ← read
  let decl ← declaration id exported
  let owner := if exported then c.owner else none
  return decl ++ [fill s id.name (namespaceBody c id.name body) (filledObject owner id.name)]

def item (s : Stmt) : Lowering (List Stmt) :=
  match s with
  | .enum s id _ isConst members => lowerEnum false s id isConst members
  | .exportDecl _ (.enum s id _ isConst members) => lowerEnum true s id isConst members
  | .namespace s id _ (some body) => lowerNamespace false s id body
  | .exportDecl _ (.namespace s id _ (some body)) => lowerNamespace true s id body
  | .func id .. | .cls id .. | .exportDecl _ (.func id ..) | .exportDecl _ (.cls id ..)
  | .exportDefaultDecl _ (.func (some id) _) | .exportDefaultDecl _ (.cls (some id) _) => do
    discard (declare id)
    return [s]
  | s => return [s]

def itemList : List Stmt → Lowering (List Stmt)
  | [] => return []
  | s :: ss => do
    let first ← item s
    return first ++ (← itemList ss)

def stmts (_ : List Stmt) (go : Lowering (List Stmt)) : Lowering (List Stmt) := do
  let outer := (← get).held
  modify fun p => { p with held := [] }
  let lowered ← itemList (← go)
  let held := (← get).held
  modify fun p => { p with held := outer }
  if held.isEmpty then return lowered
  else
    let decls : List Declarator := held.map fun id => ⟨.absent, .ident id none, false, none⟩
    return .var .absent .var false decls :: lowered

def stmt (s : Stmt) (go : Lowering Stmt) : Lowering Stmt :=
  match s with
  | .namespace _ id .. => withOwner id.name go
  | _ => go

def visitor : Visitor Lowering :=
  { ref := pure, bind := pure, expr, pat, prop, jsxName, members, stmt, stmts }

end Lowering

/-! ## The items of a module -/

def bareEntity : EntityName → Expr
  | .ident id => .ident id
  | .qualified s left right => .member s (bareEntity left) (.word right)

def requireCall (source : StringLit) : Expr := .call .absent (nameExpr "require") [] [.str source]

def aliasItem : Stmt → Option Stmt
  | .importEquals s exported _ id target =>
    let init := some (bareEntity target)
    some (if exported then .exportDecl s (oneVar .const .absent id init)
      else oneVar .const s id init)
  | .importRequire s exported _ id _ source =>
    let init := requireCall source
    let init := if exported then assignTo (.expr (memberOf "exports" id.name)) init else init
    some (oneVar .const s id (some init))
  | .exportAssign .. => none
  | item => some item

def exportAssignment? : Stmt → Option Stmt
  | .exportAssign s e => some (.expr s (assignTo (.expr (memberOf "module" "exports")) e))
  | _ => none

/-- Items without enums, namespaces, `import … =` and `export =`. Of several `export =` the
first one counts, and it comes last. -/
def lowered (items : List Stmt) : List Stmt :=
  let enums := EnumTable.ofItems items
  let exports := exportsOf items
  let items := items.filterMap aliasItem ++ (items.filterMap exportAssignment?).take 1
  (((Lowering.visitor.run items).run { enums, exports }).run {}).1

def isModuleItem : Stmt → Bool
  | .import .. | .exportDecl .. | .exportNamed .. | .exportDefaultDecl .. | .exportDefaultInterface ..
  | .exportDefaultExpr .. | .exportAll .. | .importEquals .. | .importRequire .. | .exportAssign ..
  | .exportAsNamespace .. => true
  | _ => false

/-- Items that are still those of a module if the ones before were: an empty export stands
for the last of them. -/
def keepingModule (before items : List Stmt) : List Stmt :=
  match (before.filter isModuleItem).getLast? with
  | none => items
  | some last =>
    if items.any isModuleItem then items
    else items ++ [.exportNamed last.span false [] none none]

def erased (items : List Stmt) : List Stmt :=
  keepingModule items (lowered (withoutTypes (withoutTypeImports (resolveScopes items))))

end Unbundled.Erasure
