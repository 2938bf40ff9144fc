import Unbundled.Script.Spans

namespace Unbundled.Script

mutual

def Pat.bound : Pat → List Ident
  | .ident id _ => [id]
  | .array _ elems _ _ => Pat.boundOf elems
  | .object _ props _ _ => Pat.boundOf props
  | .keyed _ value => value.bound
  | .shorthand _ id _ => [id]
  | .rest _ _ arg _ => arg.bound
  | .default _ left _ => left.bound
  | .hole | .expr _ => []
termination_by structural p => p

def Pat.boundOf : List Pat → List Ident
  | [] => []
  | p :: ps => p.bound ++ Pat.boundOf ps
termination_by structural ps => ps

end

def Pat.boundNames (p : Pat) : List String := p.bound.map (·.name)

def declaredNames (decls : List Declarator) : List String :=
  decls.flatMap fun d => d.pat.boundNames

def VarKind.isLexical : VarKind → Bool
  | .var => false
  | _ => true

mutual

/-- The names that `var` declares in a statement, outside of the functions in it. -/
def Stmt.varNames : Stmt → List String
  | .var _ .var _ decls => declaredNames decls
  | .block b => b.varNames
  | .with _ _ body | .labeled _ _ body | .while _ _ body | .doWhile _ body _ => body.varNames
  | .if _ _ yes no => yes.varNames ++ Stmt.varNames? no
  | .switch _ _ cases => Stmt.varNamesOf cases
  | .case _ _ body => Stmt.varNamesOf body
  | .try _ body _ _ handler final =>
    body.varNames ++ Block.varNames? handler ++ Block.varNames? final
  | .for _ init _ _ body => Stmt.varNames? init ++ body.varNames
  | .forIn _ left _ body | .forOf _ _ left _ body => left.varNames ++ body.varNames
  | .exportDecl _ decl => decl.varNames
  | _ => []
termination_by structural s => s

def Stmt.varNamesOf : List Stmt → List String
  | [] => []
  | s :: ss => s.varNames ++ Stmt.varNamesOf ss
termination_by structural ss => ss

def Stmt.varNames? : Option Stmt → List String
  | none => []
  | some s => s.varNames
termination_by structural s => s

def Block.varNames : Block → List String
  | ⟨_, stmts⟩ => Stmt.varNamesOf stmts
termination_by structural b => b

def Block.varNames? : Option Block → List String
  | none => []
  | some b => b.varNames
termination_by structural b => b

end

/-- The names that a statement declares in the block it stands in. -/
def Stmt.lexicalNames : Stmt → List String
  | .var _ kind _ decls => if kind.isLexical then declaredNames decls else []
  | .func name .. | .cls name .. => [name.name]
  | .enum _ name .. | .namespace _ name .. => [name.name]
  | .import _ _ specifiers .. => specifiers.map fun i => i.local.name
  | .importEquals _ _ _ id _ | .importRequire _ _ _ id .. => [id.name]
  | .exportDecl _ decl => decl.lexicalNames
  | .exportDefaultDecl _ (.func (some name) _) | .exportDefaultDecl _ (.cls (some name) _) =>
    [name.name]
  | _ => []

def lexicalNamesOf (stmts : List Stmt) : List String := stmts.flatMap Stmt.lexicalNames

def itemNames (items : List Stmt) : List String := lexicalNamesOf items ++ Stmt.varNamesOf items

end Unbundled.Script
