import Unbundled.Script.Bindings
import Unbundled.Script.Visit

/-!
Imports and exports that only name types. An import stays if the name it binds is used as a
value, and an export goes if what it names is only a type.
-/

namespace Unbundled.Erasure

open Script

abbrev Key := String × Nat

def keyOf (id : Ident) : Key := (id.name, id.scope)

/-- The names used so far, and what the aliases made by `import … =` stand for. -/
structure Uses where
  names : List Key := []
  aliases : List (Key × Key) := []
deriving Inhabited

abbrev Using := StateM Uses

namespace Uses

def note (id : Ident) : Using Ident := do
  modify fun u => { u with names := keyOf id :: u.names }
  return id

def root : EntityName → Ident
  | .ident id => id
  | .qualified _ left _ => root left

/-- An element with a plain name of small letters is no reference. -/
def jsxName (n : JsxName) (go : Using JsxName) : Using JsxName :=
  match n with
  | .ident id => if (id.name.toList.head?.map (·.isLower)).getD false then return n else go
  | _ => go

def exported : ExportSpecifier → Using Unit
  | .named _ (.ident id) _ false => discard (note id)
  | _ => return

def stmt (s : Stmt) (go : Using Stmt) : Using Stmt :=
  match s with
  | .exportNamed _ false specifiers none _ => do
    specifiers.forM exported
    return s
  | .importEquals _ true false id target => do
    discard (note (root target))
    discard (note id)
    return s
  | .importEquals _ false false id target => do
    modify fun u => { u with aliases := (keyOf id, keyOf (root target)) :: u.aliases }
    return s
  | _ => go

def visitor : Visitor Using := { ref := note, bind := pure, jsxName, stmt }

/-- The names that the used ones stand for, as far as `n` aliases reach. -/
def closed (aliases : List (Key × Key)) : Nat → List Key → List Key
  | 0, names => names
  | n + 1, names =>
    closed aliases n (names ++ (aliases.filter fun a => names.contains a.1).map (·.2))

end Uses

def valueUses (items : List Stmt) : List Key :=
  let u := ((Uses.visitor.run items).run {}).2
  Uses.closed u.aliases u.aliases.length u.names

mutual

def hasValue : Stmt → Bool
  | .interface .. | .typeAlias .. | .empty _ | .exportDefaultInterface .. | .exportAsNamespace .. =>
    false
  | .func _ _ fn => fn.body.isSome
  | .namespace _ _ _ body | .globalAugment _ _ body | .ambientModule _ _ _ body => hasValue? body
  | .moduleBlock _ items => anyHasValue items
  | .import _ typeOnly .. | .exportNamed _ typeOnly .. | .exportAll _ typeOnly .. => !typeOnly
  | .importEquals _ _ typeOnly .. | .importRequire _ _ typeOnly .. => !typeOnly
  | .exportDecl _ decl => hasValue decl
  | .exportDefaultDecl _ (.func _ fn) => fn.body.isSome
  | _ => true
termination_by structural s => s

def anyHasValue : List Stmt → Bool
  | [] => false
  | s :: ss => hasValue s || anyHasValue ss
termination_by structural ss => ss

def hasValue? : Option Stmt → Bool
  | none => false
  | some s => hasValue s
termination_by structural s => s

end

def typeNames : Stmt → List String
  | .interface _ name .. | .typeAlias _ name .. => [name.name]
  | s@(.namespace _ name ..) => if hasValue s then [] else [name.name]
  | .exportDecl _ decl => typeNames decl
  | .exportDefaultInterface _ decl => typeNames decl
  | .import _ true specifiers .. => specifiers.map fun i => i.local.name
  | .import _ false specifiers .. => specifiers.filterMap fun
    | .named _ id _ true => some id.name
    | _ => none
  | .importEquals _ _ true id _ | .importRequire _ _ true id .. => [id.name]
  | _ => []

/-- The names that an item declares as values. Imports do not count. -/
def valueNames : Stmt → List String
  | .import .. | .importEquals .. | .importRequire .. => []
  | s@(.namespace _ name ..) => if hasValue s then [name.name] else []
  | .exportDecl _ decl => valueNames decl
  | s => s.lexicalNames

structure Names where
  uses : List Key
  types : List String
  values : List String

namespace Names

def ofItems (items : List Stmt) : Names :=
  ⟨valueUses items, items.flatMap typeNames,
    items.flatMap valueNames ++ Stmt.varNamesOf items⟩

def isPureType (n : Names) (name : String) : Bool :=
  n.types.contains name && !n.values.contains name

def keepsImport (n : Names) (id : Ident) : Bool :=
  !n.values.contains id.name && n.uses.contains (keyOf id)

def keepsImportSpecifier (n : Names) : ImportSpecifier → Bool
  | .named _ _ _ true => false
  | i => n.keepsImport i.local

def keepsExportSpecifier (n : Names) (fromSource : Bool) : ExportSpecifier → Bool
  | .named _ _ _ true => false
  | .named _ (.ident id) _ false => fromSource || !n.isPureType id.name
  | _ => true

end Names

def keepsAlias (uses : List Key) : Stmt → Bool
  | .importEquals _ exported typeOnly id _ => !typeOnly && (exported || uses.contains (keyOf id))
  | _ => true

mutual

def withoutAliases : Stmt → Stmt
  | .moduleBlock s items => .moduleBlock s (withoutAliasesOf (valueUses items) items)
  | .namespace s name declared body => .namespace s name declared (withoutAliases? body)
  | .exportDecl s decl => .exportDecl s (withoutAliases decl)
  | s => s
termination_by structural s => s

def withoutAliasesOf (uses : List Key) : List Stmt → List Stmt
  | [] => []
  | s :: ss =>
    if keepsAlias uses s then withoutAliases s :: withoutAliasesOf uses ss
    else withoutAliasesOf uses ss
termination_by structural ss => ss

def withoutAliases? : Option Stmt → Option Stmt
  | none => none
  | some s => some (withoutAliases s)
termination_by structural s => s

end

def importedValues (n : Names) : Stmt → Option Stmt
  | .import s false specifiers source attrs =>
    let kept := specifiers.filter n.keepsImportSpecifier
    if kept.isEmpty ∧ !specifiers.isEmpty then none
    else some (.import s false kept source attrs)
  | .exportNamed s false specifiers source attrs =>
    let kept := specifiers.filter (n.keepsExportSpecifier source.isSome)
    if kept.isEmpty then none else some (.exportNamed s false kept source attrs)
  | .import .. | .exportNamed .. | .exportAll _ true .. | .exportDefaultInterface .. => none
  | item@(.exportDefaultExpr _ (.ident id)) => if n.isPureType id.name then none else some item
  | item@(.importEquals _ exported typeOnly id _) | item@(.importRequire _ exported typeOnly id ..) =>
    if !typeOnly && (exported || n.uses.contains (keyOf id)) then some item else none
  | item => some (withoutAliases item)

def withoutTypeImports (items : List Stmt) : List Stmt :=
  items.filterMap (importedValues (Names.ofItems items))

end Unbundled.Erasure
