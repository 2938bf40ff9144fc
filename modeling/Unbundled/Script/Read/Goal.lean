import Unbundled.Script.Read.Cursor

/-!
The phrases of the language that contain one another. A reader of one phrase is given the
readers of all others as an argument, so that each can be defined on its own; they are tied
together at the end, with a bound on how deep phrases nest.
-/

namespace Unbundled.Script.Read

/-- What the parameters of a method must satisfy. An accessor is blamed at its keyword. -/
inductive ParamRule where
  | any
  | getter (pos : Nat)
  | setter (pos : Nat)

inductive Goal where
  | expr
  | assign
  | binary
  | operators (left : Expr) (prec : Nat)
  | unary
  | leftHandSide
  | memberOrNew
  | arrowBody (async simple : Bool)
  | jsx
  | decorators (allowExport : Bool)
  | classExpr (start : Nat) (decorators : List Expr)
  | pattern (noLet : Bool)
  | params
  | ty
  | plainTy
  | operatorTy
  | moduleBody (start : Nat)
  | block (directives : Bool)
  | stmt (declarations topLevel : Bool)

@[reducible] def Goal.Out : Goal → Type
  | .pattern _ => Pat
  | .params => List Param
  | .ty | .plainTy | .operatorTy => Ty
  | .decorators _ => List Expr
  | .block _ => Block
  | .arrowBody .. | .moduleBody _ | .stmt .. => Stmt
  | _ => Expr

abbrev Grammar := (goal : Goal) → Parse goal.Out

namespace Grammar

variable (g : Grammar)

def expr : Parse Expr := g .expr
def assign : Parse Expr := g .assign
def binary : Parse Expr := g .binary
def operators (left : Expr) (prec : Nat) : Parse Expr := g (.operators left prec)
def unary : Parse Expr := g .unary
def leftHandSide : Parse Expr := g .leftHandSide
def memberOrNew : Parse Expr := g .memberOrNew
def arrowBody (async simple : Bool) : Parse Stmt := g (.arrowBody async simple)
def jsx : Parse Expr := g .jsx
def decorators (allowExport : Bool) : Parse (List Expr) := g (.decorators allowExport)
def classExpr (start : Nat) (ds : List Expr) : Parse Expr := g (.classExpr start ds)
def pattern (noLet : Bool) : Parse Pat := g (.pattern noLet)
def params : Parse (List Param) := g .params
def ty : Parse Ty := g .ty
def plainTy : Parse Ty := g .plainTy
def operatorTy : Parse Ty := g .operatorTy
def moduleBody (start : Nat) : Parse Stmt := g (.moduleBody start)
def block (directives : Bool) : Parse Block := g (.block directives)
def stmt (declarations topLevel : Bool) : Parse Stmt := g (.stmt declarations topLevel)

end Grammar

def withIn {α : Type} (b : Bool) (p : Parse α) : Parse α :=
  Parse.withCtx (fun c => { c with includeIn := b }) p

/-- Reads types, where `>` is never part of a longer operator. -/
def inType {α : Type} (p : Parse α) : Parse α :=
  Parse.withCtx (fun c => { c with inType := true }) p

def attemptTyped {α : Type} (p : Parse (Option α)) : Parse (Option α) := do
  if ← typescript then attempt p else return none

end Unbundled.Script.Read
