import Unbundled.Linking.Specifier
import Unbundled.Script.Bindings

/-!
Making the imports of a module loadable. Only the items of the module itself are touched:
a bare specifier gives way to the path of its file, names imported from a module that is
not there become empty objects, and a declaration of what `require` returns takes it from
an import in front of it.
-/

namespace Unbundled.Linking

open Files Script

namespace Alias

def isPlain (c : Char) : Bool := c.isAlphanum || c == '_' || c == '$'

def plainChar (c : Char) : Char := if isPlain c then c else '_'

/-- Two underscores, then the names that a declaration binds. -/
def base (names : List String) : String :=
  let joined := if names.isEmpty then "require" else "_".intercalate names
  String.ofList (("__" ++ joined).toList.map plainChar)

def numbered (base : String) (n : Nat) : String := base ++ "_" ++ toString n

def firstFree (taken : List String) (base : String) : Nat → Nat → String
  | 0, n => numbered base n
  | fuel + 1, n =>
    if taken.contains (numbered base n) then firstFree taken base fuel (n + 1)
    else numbered base n

/-- An alias that is not taken. Of one more numbers than there are aliases one is free. -/
def fresh (taken names : List String) : String :=
  let b := base names
  if taken.contains b then firstFree taken b taken.length 1 else b

end Alias

def emptyObject : Expr := .object .absent []

def stub (id : Ident) : Stmt :=
  .var .absent .var false [⟨.absent, .ident id none, false, some emptyObject⟩]

def madeIdent (name : String) : Ident := { name, span := .absent }

def defaultImport (name source : String) : Stmt :=
  .import .absent false [.default (madeIdent name)] ⟨source, none, .absent⟩ none

def setSource (lit : StringLit) (source : String) : StringLit :=
  { lit with value := source, raw := none }

def valueLocals (specifiers : List ImportSpecifier) : List Ident :=
  specifiers.filterMap fun
    | .named _ _ _ true => none
    | s => some s.local

def requiredModule? : Expr → Option String
  | .call _ (.ident id) _ (.str lit :: _) => if id.name = "require" then some lit.value else none
  | _ => none

def isUsing : VarKind → Bool
  | .using | .awaitUsing => true
  | _ => false

/-- The one declarator of a statement that declares what `require` returns. -/
def requiredBy? : VarKind → Bool → List Declarator → Option (Declarator × String)
  | kind, false, [d] =>
    if isUsing kind then none else do return (d, ← requiredModule? (← d.init))
  | _, _, _ => none

def declaresValue : Stmt → Bool
  | .interface .. | .typeAlias .. => false
  | .cls _ declared _ | .func _ declared _ | .enum _ _ declared _ _
  | .namespace _ _ declared _ | .globalAugment _ declared _ | .ambientModule _ _ declared _ =>
    !declared
  | .var _ kind declared _ => isUsing kind || !declared
  | _ => true

def exportsValue : Stmt → Bool
  | .exportDecl _ decl => declaresValue decl
  | .exportDefaultDecl .. | .exportDefaultExpr .. | .exportAssign .. => true
  | .exportNamed _ typeOnly .. | .exportAll _ typeOnly .. => !typeOnly
  | _ => false

/-- What becomes of one item: the items in its place, the alias it takes and what there is
to tell. -/
structure Linked where
  items : List Stmt
  taken : Option String := none
  notices : List Notice := []

def linkImport (treat : String → Treatment) (s : Span) (specifiers : List ImportSpecifier)
    (source : StringLit) (attrs : Option Expr) : Linked :=
  let t := treat source.value
  match t with
  | .keep => ⟨[.import s false specifiers source attrs], none, []⟩
  | .replace url => ⟨[.import s false specifiers (setSource source url) attrs], none, []⟩
  | .unresolved _ =>
    ⟨(valueLocals specifiers).map stub, none,
      t.notices ++ if specifiers.isEmpty then [.droppedImport source.value] else []⟩

def linkExportSource (treat : String → Treatment) (source : StringLit) : StringLit :=
  match treat source.value with
  | .replace url => setSource source url
  | _ => source

def linkRequire (treat : String → Treatment) (taken : List String) (s : Span) (kind : VarKind)
    (d : Declarator) (specifier : String) : Linked :=
  let declare (init : Expr) : Stmt := .var s kind false [{ d with init := some init }]
  let t := treat specifier
  let via (source : String) : Linked :=
    let name := Alias.fresh taken d.pat.boundNames
    ⟨[defaultImport name source, declare (.ident (madeIdent name))], some name, []⟩
  match t with
  | .keep => via specifier
  | .replace url => via url
  | .unresolved _ => ⟨[declare emptyObject], none, t.notices⟩

/-- Links one item; `taken` are the aliases already given out. -/
def linkItem (treat : String → Treatment) (taken : List String) (item : Stmt) : Linked :=
  match item with
  | .import s false specifiers source attrs => linkImport treat s specifiers source attrs
  | .exportNamed s false specifiers (some source) attrs =>
    ⟨[.exportNamed s false specifiers (some (linkExportSource treat source)) attrs], none,
      (treat source.value).notices⟩
  | .exportAll s false source attrs =>
    ⟨[.exportAll s false (linkExportSource treat source) attrs], none,
      (treat source.value).notices⟩
  | .var s kind declared decls =>
    match requiredBy? kind declared decls with
    | some (d, specifier) => linkRequire treat taken s kind d specifier
    | none => ⟨[item], none, []⟩
  | _ => ⟨[item], none, []⟩

structure Linkage where
  items : List Stmt
  exports : Bool
  notices : List Notice

def linkItems (treat : String → Treatment) : List String → List Stmt → List Stmt × List Notice
  | _, [] => ([], [])
  | taken, item :: rest =>
    let l := linkItem treat taken item
    let (items, notices) := linkItems treat (l.taken.toList ++ taken) rest
    (l.items ++ items, l.notices ++ notices)

def link (fs : FileSystem) (root : String) (items : List Stmt) : Linkage :=
  let (linked, notices) := linkItems (classify fs root) [] items
  ⟨linked, items.any exportsValue, notices⟩

end Unbundled.Linking
