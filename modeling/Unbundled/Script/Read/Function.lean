import Unbundled.Script.Read.Pattern

namespace Unbundled.Script.Read

open Parse (withCtx)

/-- Statements that are nothing but strings, up to the first that is `'use strict'`. -/
def useStrict? : List Stmt → Option Span
  | .expr s (.str lit) :: rest =>
    if lit.raw == some "'use strict'" || lit.raw == some "\"use strict\"" then some s
    else useStrict? rest
  | _ => none

/-- Reads the body of a function: no label, loop or switch around it counts inside. -/
def inBody {α : Type} (async generator arrow : Bool) (p : Parse α) : Parse α := do
  if (← Parse.ctx).inDeclare && (← typescript) && (← is .lbrace) then
    emit (← curSpan).lo .ambientBody
  let outer ← get
  set { outer with labels := [], arrowStart := none, trailingCommas := [] }
  let restore (s : State) : State :=
    { s with labels := outer.labels, arrowStart := outer.arrowStart
             trailingCommas := outer.trailingCommas }
  try
    let r ← withCtx (fun c => { c with
      inAsync := async, inGenerator := generator, inFunction := true, inStaticBlock := false
      insideNonArrow := !arrow || c.insideNonArrow
      breakAllowed := false, continueAllowed := false }) p
    modify restore
    return r
  catch e =>
    modify restore
    throw e

def checkUseStrict (simple : Bool) (b : Block) : Parse Unit := do
  unless simple do
    if let some s := useStrict? b.stmts then emit s.lo .useStrictPlace

/-- The body of a function; in a typed script a semicolon may stand for it. -/
def functionBody (g : Grammar) (async generator simple : Bool) : Parse (Option Block) :=
  inBody async generator false do
    if ← typescript <&&> (do return !(← is .lbrace)) <&&> eatSemi then return none
    let b ← g.block true
    checkUseStrict simple b
    return some b

def arrowBody (g : Grammar) (async simple : Bool) : Parse Stmt :=
  inBody async false true do
    if ← is .lbrace then
      let b ← g.block false
      checkUseStrict simple b
      return .block b
    else
      let e ← g.assign
      return .expr e.span e

/-- Drops the brackets that a `<` opened which is no JSX tag. -/
def dropTag : Parse Unit := modify fun s => { s with brackets := s.brackets.drop 2 }

def signatureAndBody (g : Grammar) (decorators : List Expr) (start : Nat) (rule : ParamRule)
    (async generator : Bool) : Parse Func :=
  withCtx (fun c => { c with inAsync := async, inGenerator := generator }) do
    let typeParams ← do
      if ← typescript then
        inType do
          match ← curToken with
          | some .jsxTagStart =>
            dropTag
            tyParams g false true
          | _ => tyParams? g false true
      else pure []
    expect .lparen
    let params ← withCtx (fun c => { c with inParameters := true, inFunction := false })
      (ruledParams g rule)
    expect .rparen
    let ret ← if ← typescript then result? g else pure none
    let body ← functionBody g async generator (areSimple (params.map (·.pat)))
    if body.isNone then
      for p in params do
        if let .default s .. := p.pat then emit s.lo .paramInit
    return ⟨← spanFrom start, decorators, async, generator, typeParams, params, ret, body⟩

def methodOf (g : Grammar) (decorators : List Expr) (start : Nat) (rule : ParamRule)
    (async generator : Bool) : Parse Func :=
  withCtx (fun c => { c with allowSuperCall := true, inClassField := false })
    (signatureAndBody g decorators start rule async generator)

/-- A function whose `async` has been read if `asyncStart` is given. -/
def function (g : Grammar) (asyncStart : Option Nat) (isExpr named : Bool)
    (decorators : List Expr) : Parse (Option Ident × Func) := do
  let start ← match asyncStart with
    | some s => pure s
    | none => curPos
  expectWord "function"
  let async := asyncStart.isSome
  let generator ← eat star
  let outside (c : Context) : Context := { c with allowSuperCall := false, inClassField := false }
  let name ← withCtx (fun c =>
      if isExpr then { outside c with inAsync := async, inGenerator := generator } else outside c) do
    if named then pure (some (← bindingIdent false)) else optBindingIdent false
  let fn ← withCtx (fun c => { outside c with colonFollows := false })
    (signatureAndBody g decorators start .any async generator)
  return (name, fn)

def asyncFunction (g : Grammar) (isExpr named : Bool) (decorators : List Expr) :
    Parse (Option Ident × Func) := do
  let start ← curPos
  expectWord "async"
  function g (some start) isExpr named decorators

def functionExpr (g : Grammar) : Parse Expr := do
  let (name, fn) ← function g none true false []
  return .func name fn

def asyncFunctionExpr (g : Grammar) : Parse Expr := do
  let (name, fn) ← asyncFunction g true false []
  return .func name fn

def functionDecl (g : Grammar) (decorators : List Expr) : Parse Stmt := do
  let (name, fn) ← function g none false true decorators
  return .func (name.getD default) false fn

def asyncFunctionDecl (g : Grammar) (decorators : List Expr) : Parse Stmt := do
  let (name, fn) ← asyncFunction g false true decorators
  return .func (name.getD default) false fn

def asyncFunctionAhead : Parse Bool := do
  if ← isWord "async" then
    if ← peekIsWord "function" then return !(← lineBreakAfter)
  return false

end Unbundled.Script.Read
