import Unbundled.Script.Spans

/-!
The identifiers of a tree, in the order of the text: names that refer to bindings or
introduce them, and labels, but not the names of properties. Those of imports and of
`export … from` are left out, since they name what another module binds.
-/

namespace Unbundled.Script

def EntityName.identifiers : EntityName → List Ident
  | .ident id => [id]
  | .qualified _ left _ => left.identifiers

def ExportName.identifiers : ExportName → List Ident
  | .ident id => [id]
  | .str _ => []

def ExportSpecifier.identifiers : ExportSpecifier → List Ident
  | .named _ orig exported _ =>
    orig.identifiers ++ (exported.map ExportName.identifiers).getD []
  | .default id => [id]
  | .star _ name => name.identifiers

def JsxName.identifiers : JsxName → List Ident
  | .ident id => [id]
  | .namespaced .. => []
  | .member _ object _ => object.identifiers

mutual

def Expr.identifiers : Expr → List Ident
  | .ident id => [id]
  | .this _ | .super _ | .importCallee _ | .str _ | .num .. | .bigint .. | .bool .. | .null _
  | .regex .. | .hole | .newTarget _ | .importMeta _ | .privateName _ | .jsxText .. => []
  | .template _ _ es | .array _ es | .seq _ es => Expr.identifiersOf es
  | .tagged _ tag ts quasi => tag.identifiers ++ Ty.identifiersOf ts ++ quasi.identifiers
  | .spread _ e | .unary _ _ e | .update _ _ _ e | .await _ e | .paren _ e | .chain _ _ e
  | .asConst _ e | .constAssertion _ e | .nonNull _ e => e.identifiers
  | .object _ props => Property.identifiersOf props
  | .func name fn => name.toList ++ fn.identifiers
  | .arrow _ _ tps ps ret body =>
    Ty.identifiersOf tps ++ Pat.identifiersOf ps ++ Ty.identifiers? ret ++ body.identifiers
  | .cls name c => name.toList ++ c.identifiers
  | .binary _ _ a b => a.identifiers ++ b.identifiers
  | .assign _ _ target value => target.identifiers ++ value.identifiers
  | .member _ obj key => obj.identifiers ++ key.identifiers
  | .cond _ test yes no => test.identifiers ++ yes.identifiers ++ no.identifiers
  | .call _ callee ts args | .new _ callee ts _ args =>
    callee.identifiers ++ Ty.identifiersOf ts ++ Expr.identifiersOf args
  | .yield _ _ arg => Expr.identifiers? arg
  | .jsx _ _ name ts attrs closed children =>
    let names := (name.map JsxName.identifiers).getD []
    names ++ Ty.identifiersOf ts ++ Property.identifiersOf attrs ++
      Expr.identifiersOf children ++ if closed.isSome then names else []
  | .jsxBraced _ e => Expr.identifiers? e
  | .asType _ e t | .satisfies _ e t => e.identifiers ++ t.identifiers
  | .typeAssertion _ t e => t.identifiers ++ e.identifiers
  | .instantiation _ e ts => e.identifiers ++ Ty.identifiersOf ts
termination_by structural e => e

def Expr.identifiersOf : List Expr → List Ident
  | [] => []
  | e :: es => e.identifiers ++ Expr.identifiersOf es
termination_by structural es => es

def Expr.identifiers? : Option Expr → List Ident
  | none => []
  | some e => e.identifiers
termination_by structural e => e

def Func.identifiers : Func → List Ident
  | ⟨_, ds, _, _, tps, ps, ret, body⟩ =>
    Expr.identifiersOf ds ++ Ty.identifiersOf tps ++ Param.identifiersOf ps ++
      Ty.identifiers? ret ++ Block.identifiers? body
termination_by structural f => f

def Block.identifiers : Block → List Ident
  | ⟨_, stmts⟩ => Stmt.identifiersOf stmts
termination_by structural b => b

def Block.identifiers? : Option Block → List Ident
  | none => []
  | some b => b.identifiers
termination_by structural b => b

def Param.identifiers : Param → List Ident
  | ⟨_, ds, _, _, _, p⟩ => Expr.identifiersOf ds ++ p.identifiers
termination_by structural p => p

def Param.identifiersOf : List Param → List Ident
  | [] => []
  | p :: ps => p.identifiers ++ Param.identifiersOf ps
termination_by structural ps => ps

def Class.identifiers : Class → List Ident
  | ⟨_, ds, _, tps, sup, supArgs, impl, members⟩ =>
    Expr.identifiersOf ds ++ Ty.identifiersOf tps ++ Expr.identifiers? sup ++
      Ty.identifiersOf supArgs ++ Ty.identifiersOf impl ++ Member.identifiersOf members
termination_by structural c => c

def Key.identifiers : Key → List Ident
  | .computed _ e => e.identifiers
  | .word _ | .str _ | .num .. | .bigint .. | .priv _ => []
termination_by structural k => k

def Property.identifiers : Property → List Ident
  | .spread _ e => e.identifiers
  | .shorthand id => [id]
  | .keyed key value => key.identifiers ++ value.identifiers
  | .shorthandInit id value => id :: value.identifiers
  | .method _ key fn => key.identifiers ++ fn.identifiers
  | .attr _ _ value => Expr.identifiers? value
termination_by structural p => p

def Property.identifiersOf : List Property → List Ident
  | [] => []
  | p :: ps => p.identifiers ++ Property.identifiersOf ps
termination_by structural ps => ps

def Member.identifiers : Member → List Ident
  | .ctor _ _ key ps body =>
    key.identifiers ++ Param.identifiersOf ps ++ Block.identifiers? body
  | .method _ _ _ key fn => key.identifiers ++ fn.identifiers
  | .field _ _ _ ds key ann value =>
    Expr.identifiersOf ds ++ key.identifiers ++ Ty.identifiers? ann ++ Expr.identifiers? value
  | .staticBlock _ body => body.identifiers
  | .index _ _ ps ann => Pat.identifiersOf ps ++ Ty.identifiers? ann
  | .empty _ => []
  | .enumCase _ (.word w) init => { name := w.name, span := w.span } :: Expr.identifiers? init
  | .enumCase _ key init => key.identifiers ++ Expr.identifiers? init
  | .callSig _ tps ps ret | .constructSig _ tps ps ret =>
    Ty.identifiersOf tps ++ Pat.identifiersOf ps ++ Ty.identifiers? ret
  | .propertySig _ _ key _ _ ann => key.identifiers ++ Ty.identifiers? ann
  | .getterSig _ key _ ann => key.identifiers ++ Ty.identifiers? ann
  | .setterSig _ key _ param => key.identifiers ++ param.identifiers
  | .methodSig _ key _ _ tps ps ret =>
    key.identifiers ++ Ty.identifiersOf tps ++ Pat.identifiersOf ps ++ Ty.identifiers? ret
termination_by structural m => m

def Member.identifiersOf : List Member → List Ident
  | [] => []
  | m :: ms => m.identifiers ++ Member.identifiersOf ms
termination_by structural ms => ms

def Pat.identifiers : Pat → List Ident
  | .ident id ann => id :: Ty.identifiers? ann
  | .array _ ps _ ann | .object _ ps _ ann => Pat.identifiersOf ps ++ Ty.identifiers? ann
  | .hole => []
  | .keyed key value => key.identifiers ++ value.identifiers
  | .shorthand _ id default => id :: Expr.identifiers? default
  | .rest _ _ arg ann => arg.identifiers ++ Ty.identifiers? ann
  | .default _ left right => left.identifiers ++ right.identifiers
  | .expr e => e.identifiers
termination_by structural p => p

def Pat.identifiersOf : List Pat → List Ident
  | [] => []
  | p :: ps => p.identifiers ++ Pat.identifiersOf ps
termination_by structural ps => ps

def Declarator.identifiers : Declarator → List Ident
  | ⟨_, p, _, init⟩ => p.identifiers ++ Expr.identifiers? init
termination_by structural d => d

def Declarator.identifiersOf : List Declarator → List Ident
  | [] => []
  | d :: ds => d.identifiers ++ Declarator.identifiersOf ds
termination_by structural ds => ds

def Stmt.identifiers : Stmt → List Ident
  | .block b => b.identifiers
  | .empty _ | .debugger _ => []
  | .with _ obj body => obj.identifiers ++ body.identifiers
  | .ret _ arg => Expr.identifiers? arg
  | .labeled _ label body => label :: body.identifiers
  | .break _ label | .continue _ label => label.toList
  | .if _ test yes no => test.identifiers ++ yes.identifiers ++ Stmt.identifiers? no
  | .switch _ subject cases => subject.identifiers ++ Stmt.identifiersOf cases
  | .case _ test body => Expr.identifiers? test ++ Stmt.identifiersOf body
  | .throw _ e => e.identifiers
  | .try _ body _ param handler final =>
    body.identifiers ++ param.identifiers ++ Block.identifiers? handler ++
      Block.identifiers? final
  | .while _ test body => test.identifiers ++ body.identifiers
  | .doWhile _ body test => body.identifiers ++ test.identifiers
  | .for _ init test update body =>
    Stmt.identifiers? init ++ Expr.identifiers? test ++ Expr.identifiers? update ++
      body.identifiers
  | .forIn _ left right body | .forOf _ _ left right body =>
    left.identifiers ++ right.identifiers ++ body.identifiers
  | .expr _ e => e.identifiers
  | .target p => p.identifiers
  | .var _ _ _ decls => Declarator.identifiersOf decls
  | .func name _ fn => name :: fn.identifiers
  | .cls name _ c => name :: c.identifiers
  | .interface _ name _ tps parents _ members =>
    name :: Ty.identifiersOf tps ++ Ty.identifiersOf parents ++ Member.identifiersOf members
  | .typeAlias _ name _ tps ty => name :: Ty.identifiersOf tps ++ ty.identifiers
  | .enum _ name _ _ members => name :: Member.identifiersOf members
  | .namespace _ name _ body => name :: Stmt.identifiers? body
  | .globalAugment s _ body => { name := "global", span := s } :: Stmt.identifiers? body
  | .ambientModule _ _ _ body => Stmt.identifiers? body
  | .moduleBlock _ items => Stmt.identifiersOf items
  | .import .. | .exportNamed _ _ _ (some _) _ => []
  | .exportDecl _ decl => decl.identifiers
  | .exportNamed _ _ specifiers none attrs =>
    specifiers.flatMap ExportSpecifier.identifiers ++ Expr.identifiers? attrs
  | .exportDefaultDecl _ decl => decl.identifiers
  | .exportDefaultInterface _ decl => decl.identifiers
  | .exportDefaultExpr _ e => e.identifiers
  | .exportAll _ _ _ attrs => Expr.identifiers? attrs
  | .importEquals _ _ _ id target => id :: target.identifiers
  | .importRequire _ _ _ id _ _ => [id]
  | .exportAssign _ e => e.identifiers
  | .exportAsNamespace _ id => [id]
termination_by structural s => s

def Stmt.identifiersOf : List Stmt → List Ident
  | [] => []
  | s :: ss => s.identifiers ++ Stmt.identifiersOf ss
termination_by structural ss => ss

def Stmt.identifiers? : Option Stmt → List Ident
  | none => []
  | some s => s.identifiers
termination_by structural s => s

def Ty.identifiers : Ty → List Ident
  | .keyword .. | .this _ => []
  | .ref _ name args | .typeof _ name args => name.identifiers ++ Ty.identifiersOf args
  | .typeofImport _ arg args => arg.identifiers ++ Ty.identifiersOf args
  | .func _ tps ps ret | .ctor _ _ tps ps ret =>
    Ty.identifiersOf tps ++ Pat.identifiersOf ps ++ ret.identifiers
  | .object _ members => Member.identifiersOf members
  | .array _ t | .optional _ t | .rest _ t | .paren _ t | .operator _ _ t | .infer _ t =>
    t.identifiers
  | .tuple _ ts | .union _ ts | .inter _ ts => Ty.identifiersOf ts
  | .labeled _ label t => label.identifiers ++ t.identifiers
  | .cond _ check ext yes no =>
    check.identifiers ++ ext.identifiers ++ yes.identifiers ++ no.identifiers
  | .indexed _ _ obj index => obj.identifiers ++ index.identifiers
  | .mapped _ _ param name _ ty =>
    param.identifiers ++ Ty.identifiers? name ++ Ty.identifiers? ty
  | .lit e => e.identifiers
  | .template _ _ ts => Ty.identifiersOf ts
  | .predicate _ _ subject ty => subject.identifiers ++ Ty.identifiers? ty
  | .name id => [id]
  | .import _ _ name args =>
    (name.map EntityName.identifiers).getD [] ++ Ty.identifiersOf args
  | .heritage _ e args => e.identifiers ++ Ty.identifiersOf args
  | .param _ name _ _ _ constraint default =>
    name :: Ty.identifiers? constraint ++ Ty.identifiers? default
termination_by structural t => t

def Ty.identifiersOf : List Ty → List Ident
  | [] => []
  | t :: ts => t.identifiers ++ Ty.identifiersOf ts
termination_by structural ts => ts

def Ty.identifiers? : Option Ty → List Ident
  | none => []
  | some t => t.identifiers
termination_by structural t => t

end

end Unbundled.Script
