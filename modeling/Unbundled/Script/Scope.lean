import Unbundled.Script.Bindings
import Unbundled.Script.Visit

/-!
Which binding a name refers to. Every scope has a number, and a name gets the number of the
innermost scope around it that declares it: `1` for the module, and `0` if no scope does.
-/

namespace Unbundled.Script

structure Scope where
  number : Nat
  names : List String
deriving Repr, DecidableEq, Inhabited

abbrev Scoped := ReaderM (List Scope)

namespace Scope

/-- The number of the scope that starts at a place in the source. -/
def numberAt (s : Span) : Nat := s.lo + 1

def moduleNumber : Nat := 1

def lookup (name : String) : List Scope → Nat
  | [] => 0
  | s :: ss => if s.names.contains name then s.number else lookup name ss

def name (id : Ident) : Scoped Ident := do
  return { id with scope := lookup id.name (← read) }

def within {α : Type} (s : Span) (names : List String) (go : Scoped α) : Scoped α :=
  withReader (⟨numberAt s, names⟩ :: ·) go

def exportName : ExportName → Scoped ExportName
  | .ident id => return .ident (← name id)
  | .str lit => return .str lit

def exportSpecifier : ExportSpecifier → Scoped ExportSpecifier
  | .named s orig exported typeOnly => return .named s (← exportName orig) exported typeOnly
  | i => return i

def importSpecifier : ImportSpecifier → Scoped ImportSpecifier
  | .named s id imported typeOnly => return .named s (← name id) imported typeOnly
  | .default id => return .default (← name id)
  | .star s id => return .star s (← name id)

def entity : EntityName → Scoped EntityName
  | .ident id => return .ident (← name id)
  | .qualified s left right => return .qualified s (← entity left) right

def expr (e : Expr) (go : Scoped Expr) : Scoped Expr :=
  match e with
  | .arrow s _ _ ps _ body =>
    within s ((Pat.boundOf ps).map (·.name) ++ body.varNames) go
  | .func (some id) fn => within fn.span [id.name] go
  | .cls (some id) c => within c.span [id.name] go
  | _ => go

def func (f : Func) (go : Scoped Func) : Scoped Func :=
  within f.span (f.params.flatMap (·.pat.boundNames) ++ Block.varNames? f.body) go

def member (m : Member) (go : Scoped Member) : Scoped Member :=
  match m with
  | .ctor s _ _ ps body => within s (ps.flatMap (·.pat.boundNames) ++ Block.varNames? body) go
  | .staticBlock s body => within s body.varNames go
  | _ => go

def block (b : Block) (go : Scoped Block) : Scoped Block :=
  within b.span (lexicalNamesOf b.stmts) go

def handler (param : Pat) (go : Scoped (Pat × Option Block)) : Scoped (Pat × Option Block) :=
  within param.span param.boundNames go

def headNames : Stmt → List String
  | .var _ kind _ decls => if kind.isLexical then declaredNames decls else []
  | _ => []

def outerName (id : Ident) : Stmt → Scoped Stmt
  | .enum s _ declared isConst members => return .enum s (← name id) declared isConst members
  | .namespace s _ declared body => return .namespace s (← name id) declared body
  | s => return s

def memberName? : Member → Option String
  | .enumCase _ (.word w) _ => some w.name
  | _ => none

def bodyNames : Stmt → List String
  | .moduleBlock _ items => itemNames items
  | s => s.lexicalNames

def stmt (s : Stmt) (go : Scoped Stmt) : Scoped Stmt :=
  match s with
  | .switch s _ cases =>
    within s (cases.flatMap fun
      | .case _ _ body => lexicalNamesOf body
      | _ => []) go
  | .for s (some init) _ _ _ => within s (headNames init) go
  | .forIn s left _ _ | .forOf s _ left _ _ => within s (headNames left) go
  | .enum s id _ _ members => do outerName id (← within s (members.filterMap memberName?) go)
  | .namespace s id _ (some body) => do outerName id (← within s (bodyNames body) go)
  | .import s typeOnly specifiers source attrs =>
    return .import s typeOnly (← specifiers.mapM importSpecifier) source attrs
  | .exportNamed s typeOnly specifiers none attrs =>
    return .exportNamed s typeOnly (← specifiers.mapM exportSpecifier) none attrs
  | .importEquals s exported typeOnly id target =>
    return .importEquals s exported typeOnly (← name id) (← entity target)
  | .importRequire s exported typeOnly id refSpan source =>
    return .importRequire s exported typeOnly (← name id) refSpan source
  | _ => go

def visitor : Visitor Scoped :=
  { ref := name, bind := name, expr, func, member, block, handler, stmt }

end Scope

def resolveScopes (items : List Stmt) : List Stmt :=
  (Scope.visitor.run items).run [⟨Scope.moduleNumber, itemNames items⟩]

end Unbundled.Script
