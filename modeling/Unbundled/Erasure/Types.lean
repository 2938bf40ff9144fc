import Unbundled.Erasure.Imports

namespace Unbundled.Erasure

open Script

def isAmbient : Stmt → Bool
  | .cls _ declared _ | .func _ declared _ | .enum _ _ declared .. | .namespace _ _ declared _
  | .ambientModule _ _ declared _ => declared
  | .var _ kind declared _ => declared && !(kind matches .using | .awaitUsing)
  | .interface .. | .typeAlias .. | .globalAugment .. => true
  | .exportDecl _ decl => isAmbient decl
  | _ => false

def staysAtRunTime (s : Stmt) : Bool := !isAmbient s && hasValue s

def isAbsentMember : Member → Bool
  | .index .. | .ctor _ _ _ _ none => true
  | .method _ mods _ _ fn => mods.isAbstract || fn.body.isNone
  | .field _ mods .. => mods.isDeclare || mods.isAbstract
  | _ => false

namespace Untyped

def name (id : Ident) : Id Ident := { id with optional := false }

def expr (_ : Expr) (go : Id Expr) : Id Expr :=
  match go with
  | .asType _ e _ | .asConst _ e | .satisfies _ e _ | .typeAssertion _ _ e | .constAssertion _ e
  | .nonNull _ e | .instantiation _ e _ => e
  | .arrow s async _ ps _ body => .arrow s async [] ps none body
  | .call s callee _ args => .call s callee [] args
  | .new s callee _ hasArgs args => .new s callee [] hasArgs args
  | .tagged s tag _ quasi => .tagged s tag [] quasi
  | .chain s optional (.call s' callee _ args) => .chain s optional (.call s' callee [] args)
  | .jsx s os name _ attrs closed children => .jsx s os name [] attrs closed children
  | e => e

def pat (_ : Pat) (go : Id Pat) : Id Pat :=
  match go with
  | .ident id _ => .ident id none
  | .array s ps _ _ => .array s ps false none
  | .object s ps _ _ => .object s ps false none
  | .rest s dots arg _ => .rest s dots arg none
  | p => p

/-- Parameters without a leading `this`, which only has a type. -/
def withoutThis : List Param → List Param
  | p@⟨_, _, _, _, _, .ident id _⟩ :: ps => if id.name = "this" then ps else p :: ps
  | ps => ps

def func (_ : Func) (go : Id Func) : Id Func :=
  let f : Func := go
  { f with typeParams := [], params := withoutThis f.params, ret := none }

def cls (_ : Script.Class) (go : Id Script.Class) : Id Script.Class :=
  let c : Script.Class := go
  { c with isAbstract := false, typeParams := [], superArgs := [], implements := [] }

def plainModifiers (m : Modifiers) : Modifiers := { isStatic := m.isStatic }

def member (_ : Member) (go : Id Member) : Id Member :=
  match go with
  | .ctor s mods key ps body => .ctor s (plainModifiers mods) key ps body
  | .method s mods kind key fn => .method s (plainModifiers mods) kind key fn
  | .field s mods accessor ds key _ value =>
    .field s (plainModifiers mods) accessor ds key none value
  | m => m

def kept {α : Type} (stays : α → Bool) (before after : List α) : List α :=
  ((before.zip after).filter fun p => stays p.1).map (·.2)

def members (ms : List Member) (go : Id (List Member)) : Id (List Member) :=
  kept (!isAbsentMember ·) ms go

def stmts (ss : List Stmt) (go : Id (List Stmt)) : Id (List Stmt) := kept staysAtRunTime ss go

def stmt (_ : Stmt) (go : Id Stmt) : Id Stmt :=
  match go with
  | .var s kind declared decls =>
    .var s kind declared (decls.map fun d => { d with definite := false })
  | s => s

def visitor : Visitor Id :=
  { ref := name, bind := name, expr, pat, func, cls, member, members, stmts, stmt }

end Untyped

def withoutTypes (items : List Stmt) : List Stmt := Untyped.visitor.run items

end Unbundled.Erasure
