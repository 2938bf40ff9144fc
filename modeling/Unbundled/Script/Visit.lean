import Unbundled.Script.Tree

/-!
Passing over a tree. A visitor says what happens at nodes of each kind; it is given the
node and the computation that passes over its parts. Types are not entered.
-/

namespace Unbundled.Script

structure Visitor (m : Type → Type) where
  /-- A name that refers to a binding. -/
  ref : Ident → m Ident
  /-- A name that is declared, or assigned to as the whole of a target. -/
  bind : Ident → m Ident
  expr : Expr → m Expr → m Expr := fun _ go => go
  pat : Pat → m Pat → m Pat := fun _ go => go
  prop : Property → m Property → m Property := fun _ go => go
  jsxName : JsxName → m JsxName → m JsxName := fun _ go => go
  member : Member → m Member → m Member := fun _ go => go
  members : List Member → m (List Member) → m (List Member) := fun _ go => go
  /-- A function without its decorators. -/
  func : Func → m Func → m Func := fun _ go => go
  /-- The parameter and the block of a `catch`. -/
  handler : Pat → m (Pat × Option Block) → m (Pat × Option Block) := fun _ go => go
  cls : Class → m Class → m Class := fun _ go => go
  param : Param → m Param → m Param := fun _ go => go
  block : Block → m Block → m Block := fun _ go => go
  stmt : Stmt → m Stmt → m Stmt := fun _ go => go
  stmts : List Stmt → m (List Stmt) → m (List Stmt) := fun _ go => go

variable {m : Type → Type} [Monad m]

/-- What stands in front of a dot in the name of an element is a reference. -/
def JsxName.visitObject (v : Visitor m) : JsxName → m JsxName
  | .ident id => return .ident (← v.ref id)
  | .member s object prop => return .member s (← object.visitObject v) prop
  | name => return name

def JsxName.visit (v : Visitor m) (name : JsxName) : m JsxName :=
  v.jsxName name (name.visitObject v)

mutual

def Expr.visit (v : Visitor m) (e : Expr) : m Expr :=
  v.expr e <| match e with
    | .ident id => do return .ident (← v.ref id)
    | .template s qs es => do return .template s qs (← Expr.visitList v es)
    | .tagged s tag ts quasi => do
      let tag ← tag.visit v
      return .tagged s tag ts (← quasi.visit v)
    | .array s es => do return .array s (← Expr.visitList v es)
    | .spread dots arg => do return .spread dots (← arg.visit v)
    | .object s props => do return .object s (← Property.visitList v props)
    | .func name fn => do
      let name ← name.mapM v.bind
      return .func name (← fn.visit v)
    | .arrow s async tps ps ret body => do
      let ps ← Pat.visitList v ps
      return .arrow s async tps ps ret (← body.visit v)
    | .cls name cls => do
      let name ← name.mapM v.bind
      return .cls name (← cls.visit v)
    | .unary s op arg => do return .unary s op (← arg.visit v)
    | .update s increment before arg => do return .update s increment before (← arg.visit v)
    | .binary s op left right => do
      let left ← left.visit v
      return .binary s op left (← right.visit v)
    | .assign s op target value => do
      let target ← target.visit v
      return .assign s op target (← value.visit v)
    | .member s obj key => do
      let obj ← obj.visit v
      return .member s obj (← key.visit v)
    | .cond s test yes no => do
      let test ← test.visit v
      let yes ← yes.visit v
      return .cond s test yes (← no.visit v)
    | .call s callee ts args => do
      let callee ← callee.visit v
      return .call s callee ts (← Expr.visitList v args)
    | .new s callee ts hasArgs args => do
      let callee ← callee.visit v
      return .new s callee ts hasArgs (← Expr.visitList v args)
    | .seq s es => do return .seq s (← Expr.visitList v es)
    | .yield s delegate arg => do return .yield s delegate (← Expr.visit? v arg)
    | .await s arg => do return .await s (← arg.visit v)
    | .paren s inner => do return .paren s (← inner.visit v)
    | .chain s optional base => do return .chain s optional (← base.visitLink v)
    | .jsx s os name ts attrs closed children => do
      let name ← name.mapM (·.visit v)
      let attrs ← Property.visitList v attrs
      return .jsx s os name ts attrs closed (← Expr.visitList v children)
    | .jsxBraced s inner => do return .jsxBraced s (← Expr.visit? v inner)
    | .asType s arg ty => do return .asType s (← arg.visit v) ty
    | .asConst s arg => do return .asConst s (← arg.visit v)
    | .satisfies s arg ty => do return .satisfies s (← arg.visit v) ty
    | .typeAssertion s ty arg => do return .typeAssertion s ty (← arg.visit v)
    | .constAssertion s arg => do return .constAssertion s (← arg.visit v)
    | .nonNull s arg => do return .nonNull s (← arg.visit v)
    | .instantiation s arg ts => do return .instantiation s (← arg.visit v) ts
    | e => pure e
termination_by structural e

def Expr.visitList (v : Visitor m) : List Expr → m (List Expr)
  | [] => return []
  | e :: es => do
    let e ← e.visit v
    return e :: (← Expr.visitList v es)
termination_by structural es => es

def Expr.visit? (v : Visitor m) : Option Expr → m (Option Expr)
  | none => return none
  | some e => return some (← e.visit v)
termination_by structural e => e

/-- The member access or the call of an optional chain, which is no expression by itself. -/
def Expr.visitLink (v : Visitor m) : Expr → m Expr
  | .member s obj key => do
    let obj ← obj.visit v
    return .member s obj (← key.visit v)
  | .call s callee ts args => do
    let callee ← callee.visit v
    return .call s callee ts (← Expr.visitList v args)
  | e => return e
termination_by structural e => e

def Func.visit (v : Visitor m) : Func → m Func
  | ⟨s, ds, async, generator, tps, ps, ret, body⟩ => do
    let ds ← Expr.visitList v ds
    v.func ⟨s, ds, async, generator, tps, ps, ret, body⟩ do
      let ps ← Param.visitList v ps
      return ⟨s, ds, async, generator, tps, ps, ret, ← Block.visit? v body⟩
termination_by structural f => f

def Block.visit (v : Visitor m) (b : Block) : m Block :=
  v.block b <| match b with
    | ⟨s, stmts⟩ => do return ⟨s, ← v.stmts stmts (Stmt.visitList v stmts)⟩
termination_by structural b

def Block.visit? (v : Visitor m) : Option Block → m (Option Block)
  | none => return none
  | some b => return some (← b.visit v)
termination_by structural b => b

def Param.visit (v : Visitor m) (p : Param) : m Param :=
  v.param p <| match p with
    | ⟨s, ds, access, isReadonly, isOverride, pat⟩ => do
      let ds ← Expr.visitList v ds
      return ⟨s, ds, access, isReadonly, isOverride, ← pat.visit v⟩
termination_by structural p

def Param.visitList (v : Visitor m) : List Param → m (List Param)
  | [] => return []
  | p :: ps => do
    let p ← p.visit v
    return p :: (← Param.visitList v ps)
termination_by structural ps => ps

def Class.visit (v : Visitor m) (c : Class) : m Class :=
  v.cls c <| match c with
    | ⟨s, ds, isAbstract, tps, sup, supArgs, impl, members⟩ => do
      let ds ← Expr.visitList v ds
      let sup ← Expr.visit? v sup
      return ⟨s, ds, isAbstract, tps, sup, supArgs, impl,
        ← v.members members (Member.visitList v members)⟩
termination_by structural c

def Key.visit (v : Visitor m) : Key → m Key
  | .computed s e => return .computed s (← e.visit v)
  | k => return k
termination_by structural k => k

def Property.visit (v : Visitor m) (p : Property) : m Property :=
  v.prop p <| match p with
    | .spread dots arg => do return .spread dots (← arg.visit v)
    | .shorthand id => do return .shorthand (← v.ref id)
    | .keyed key value => do
      let key ← key.visit v
      return .keyed key (← value.visit v)
    | .shorthandInit id value => do
      let id ← v.ref id
      return .shorthandInit id (← value.visit v)
    | .method kind key fn => do
      let key ← key.visit v
      return .method kind key (← fn.visit v)
    | .attr s name value => do return .attr s name (← Expr.visit? v value)
termination_by structural p

def Property.visitList (v : Visitor m) : List Property → m (List Property)
  | [] => return []
  | p :: ps => do
    let p ← p.visit v
    return p :: (← Property.visitList v ps)
termination_by structural ps => ps

def Member.visit (v : Visitor m) (mem : Member) : m Member :=
  v.member mem <| match mem with
    | .ctor s mods key ps body => do
      let ps ← Param.visitList v ps
      return .ctor s mods key ps (← Block.visit? v body)
    | .method s mods kind key fn => do
      let key ← key.visit v
      return .method s mods kind key (← fn.visit v)
    | .field s mods accessor ds key ann value => do
      let key ← key.visit v
      let value ← Expr.visit? v value
      return .field s mods accessor (← Expr.visitList v ds) key ann value
    | .staticBlock s body => do return .staticBlock s (← body.visit v)
    | .enumCase s key init => do return .enumCase s key (← Expr.visit? v init)
    | mem => pure mem
termination_by structural mem

def Member.visitList (v : Visitor m) : List Member → m (List Member)
  | [] => return []
  | mem :: ms => do
    let mem ← mem.visit v
    return mem :: (← Member.visitList v ms)
termination_by structural ms => ms

def Pat.visit (v : Visitor m) (p : Pat) : m Pat :=
  v.pat p <| match p with
    | .ident id ann => do return .ident (← v.bind id) ann
    | .array s ps optional ann => do return .array s (← Pat.visitList v ps) optional ann
    | .hole => pure .hole
    | .object s ps optional ann => do return .object s (← Pat.visitList v ps) optional ann
    | .keyed key value => do
      let key ← key.visit v
      return .keyed key (← value.visit v)
    | .shorthand s id default => do
      let id ← v.bind id
      return .shorthand s id (← Expr.visit? v default)
    | .rest s dots arg ann => do return .rest s dots (← arg.visit v) ann
    | .default s left right => do
      let left ← left.visit v
      return .default s left (← right.visit v)
    | .expr e => do return .expr (← e.visit v)
termination_by structural p

def Pat.visitList (v : Visitor m) : List Pat → m (List Pat)
  | [] => return []
  | p :: ps => do
    let p ← p.visit v
    return p :: (← Pat.visitList v ps)
termination_by structural ps => ps

def Declarator.visit (v : Visitor m) : Declarator → m Declarator
  | ⟨s, p, definite, init⟩ => do
    let p ← p.visit v
    return ⟨s, p, definite, ← Expr.visit? v init⟩
termination_by structural d => d

def Declarator.visitList (v : Visitor m) : List Declarator → m (List Declarator)
  | [] => return []
  | d :: ds => do
    let d ← d.visit v
    return d :: (← Declarator.visitList v ds)
termination_by structural ds => ds

def Stmt.visit (v : Visitor m) (s : Stmt) : m Stmt :=
  v.stmt s <| match s with
    | .block b => do return .block (← b.visit v)
    | .with s obj body => do
      let obj ← obj.visit v
      return .with s obj (← body.visit v)
    | .ret s arg => do return .ret s (← Expr.visit? v arg)
    | .labeled s label body => do return .labeled s label (← body.visit v)
    | .if s test yes no => do
      let test ← test.visit v
      let yes ← yes.visit v
      return .if s test yes (← Stmt.visit? v no)
    | .switch s subject cases => do
      let subject ← subject.visit v
      return .switch s subject (← Stmt.visitList v cases)
    | .case s test body => do
      let test ← Expr.visit? v test
      return .case s test (← v.stmts body (Stmt.visitList v body))
    | .throw s arg => do return .throw s (← arg.visit v)
    | .try s body catchSpan param handler final => do
      let body ← body.visit v
      let (param, handler) ← v.handler param do
        let param ← param.visit v
        return (param, ← Block.visit? v handler)
      return .try s body catchSpan param handler (← Block.visit? v final)
    | .while s test body => do
      let test ← test.visit v
      return .while s test (← body.visit v)
    | .doWhile s body test => do
      let body ← body.visit v
      return .doWhile s body (← test.visit v)
    | .for s init test update body => do
      let init ← Stmt.visit? v init
      let test ← Expr.visit? v test
      let update ← Expr.visit? v update
      return .for s init test update (← body.visit v)
    | .forIn s left right body => do
      let left ← left.visit v
      let right ← right.visit v
      return .forIn s left right (← body.visit v)
    | .forOf s await left right body => do
      let left ← left.visit v
      let right ← right.visit v
      return .forOf s await left right (← body.visit v)
    | .expr s e => do return .expr s (← e.visit v)
    | .target p => do return .target (← p.visit v)
    | .var s kind declared decls => do
      return .var s kind declared (← Declarator.visitList v decls)
    | .func name declared fn => do
      let name ← v.bind name
      return .func name declared (← fn.visit v)
    | .cls name declared cls => do
      let name ← v.bind name
      return .cls name declared (← cls.visit v)
    | .enum s name declared isConst members => do
      let name ← v.bind name
      return .enum s name declared isConst (← Member.visitList v members)
    | .namespace s name declared body => do
      let name ← v.bind name
      return .namespace s name declared (← Stmt.visit? v body)
    | .globalAugment s declared body => do
      return .globalAugment s declared (← Stmt.visit? v body)
    | .ambientModule s name declared body => do
      return .ambientModule s name declared (← Stmt.visit? v body)
    | .moduleBlock s items => do
      return .moduleBlock s (← v.stmts items (Stmt.visitList v items))
    | .exportDecl s decl => do return .exportDecl s (← decl.visit v)
    | .exportDefaultDecl s decl => do return .exportDefaultDecl s (← decl.visit v)
    | .exportDefaultExpr s e => do return .exportDefaultExpr s (← e.visit v)
    | .exportAll s typeOnly source attrs => do
      return .exportAll s typeOnly source (← Expr.visit? v attrs)
    | .exportAssign s e => do return .exportAssign s (← e.visit v)
    | item => pure item
termination_by structural s

def Stmt.visitList (v : Visitor m) : List Stmt → m (List Stmt)
  | [] => return []
  | s :: ss => do
    let s ← s.visit v
    return s :: (← Stmt.visitList v ss)
termination_by structural ss => ss

def Stmt.visit? (v : Visitor m) : Option Stmt → m (Option Stmt)
  | none => return none
  | some s => return some (← s.visit v)
termination_by structural s => s

end

def Visitor.run (v : Visitor m) (items : List Stmt) : m (List Stmt) :=
  v.stmts items (Stmt.visitList v items)

end Unbundled.Script
