import Unbundled.Script.Source

/-!
Parentheses. `Module.trimmed` takes all parentheses of a module away and puts back those
that keep the meaning of what stands in them, together with the places of the comments
around them.
-/

namespace Unbundled.Script

/-- Where an expression stands, as far as that decides about parentheses: where a statement
may start, as a callee, where a comma would end it, or anywhere else. -/
inductive Place where
  | start
  | callee (constructed : Bool)
  | element
  | free
deriving Repr, DecidableEq, Inhabited

/-- What surrounds an expression: its place, and whether it is in the head of a loop or in
an optional chain. -/
structure Setting where
  place : Place
  loopHead : Bool
  inChain : Bool
deriving Repr, DecidableEq, Inhabited

namespace Setting

def free (c : Setting) : Setting := { c with place := .free }
def start (c : Setting) : Setting := { c with place := .start }
def element (c : Setting) : Setting := { c with place := .element }
def callee (c : Setting) (constructed : Bool) : Setting := { c with place := .callee constructed }
def head (c : Setting) : Setting := { c with loopHead := true }
def body (c : Setting) : Setting := { c with loopHead := false }
def chain (c : Setting) : Setting := { c with inChain := true }

end Setting

/-- The parentheses taken away so far: the stretch of what stood in them and their own,
the last ones first. -/
abbrev Dropped := List (Span × Span)

abbrev Trim := StateM Dropped

namespace Dropped

/-- Notes parentheses. If what stands in them has a stretch that is known already, only the
parentheses around it change. -/
def insert (inner outer : Span) (ds : Dropped) : Dropped :=
  if ds.any (·.1 = inner) then ds.map fun d => if d.1 = inner then (inner, outer) else d
  else (inner, outer) :: ds

def erase (inner : Span) (ds : Dropped) : Dropped := ds.filter (·.1 ≠ inner)

end Dropped

namespace Expr

def wrapped (e : Expr) : Trim Expr := do
  let ds ← get
  match ds.lookup e.span with
  | some outer =>
    set (ds.erase e.span)
    return .paren outer e
  | none => return .paren e.span e

def wrappedIf (b : Bool) (e : Expr) : Trim Expr := if b then e.wrapped else return e

def startsWithOperand : Expr → Bool
  | .chain .. | .member .. | .binary .. | .assign .. | .seq .. | .cond .. | .tagged ..
  | .update _ _ false _ => true
  | _ => false

def isSeq : Expr → Bool
  | .seq .. => true
  | _ => false

def isAwait : Expr → Bool
  | .await .. => true
  | _ => false

def isChain : Expr → Bool
  | .chain .. => true
  | _ => false

def isLiteral : Expr → Bool
  | .str _ | .num .. | .bigint .. | .bool .. | .null _ | .regex .. => true
  | _ => false

def isObjectPattern : Pat → Bool
  | .object .. => true
  | _ => false

def isPattern : Pat → Bool
  | .object .. | .array .. => true
  | _ => false

def endsInSeq : Expr → Bool
  | .assign _ _ _ value => value.endsInSeq
  | .seq .. => true
  | _ => false

def comparesEqual : BinaryOp → Bool
  | .eq | .notEq | .strictEq | .strictNotEq => true
  | _ => false

def shortCircuits : BinaryOp → Bool
  | .and | .or | .coalesce => true
  | _ => false

def rightNeedsParens (op : BinaryOp) : Expr → Bool
  | .assign .. | .seq .. | .yield .. | .cond .. | .arrow .. => true
  | .binary _ inner _ _ =>
    if inner = op then !(shortCircuits op || op = .exp)
    else Read.precedence inner ≤ Read.precedence op || (inner = .and && op = .coalesce)
  | _ => false

def leftNeedsParens (op : BinaryOp) : Expr → Bool
  | .binary _ inner _ _ =>
    (inner = .coalesce && op ≠ .coalesce) || Read.precedence inner < Read.precedence op
      || (inner = .exp && op = .exp)
  | .unary _ inner _ =>
    op = .exp || inner = .delete || (inner = .void && !comparesEqual op)
  | .num _ value _ => op = .exp && value.isNegative
  | .seq .. | .yield .. | .cond .. | .assign .. | .arrow .. => true
  | .object .. => op = .instanceof || comparesEqual op
  | _ => false

def operandNeedsParens (op : UnaryOp) : Expr → Bool
  | .binary _ inner (.num _ value _) (.num ..) =>
    !(op = .minus && (inner = .div || inner = .mul) && !value.isNegative)
  | .binary .. | .assign .. | .seq .. | .cond .. | .arrow .. | .yield .. => true
  | _ => false

def calleeNeedsParens : Expr → Bool
  | .num .. | .str _ => false
  | .cond .. | .cls .. | .binary .. | .unary .. | .object .. | .assign .. | .seq .. | .yield ..
  | .func .. | .arrow .. | .await .. => true
  | e => e.isLiteral

def constructorNeedsParens : Expr → Bool
  | .call .. | .await .. | .yield .. | .binary .. | .assign .. | .seq .. | .unary .. => true
  | e => e.isLiteral

def objectNeedsParens (c : Setting) : Expr → Bool
  | .object .. => c.place ≠ .element
  | .func .. | .cond .. | .unary .. | .seq .. | .update .. | .binary .. | .assign .. | .arrow ..
  | .cls .. | .yield .. | .await .. | .new _ _ _ false _ => true
  | .call .. => c.place = .callee true
  | .chain .. => !c.inChain
  | _ => false

def tagNeedsParens (c : Setting) : Expr → Bool
  | .chain .. | .arrow .. | .cond .. | .binary .. | .seq .. | .func .. | .assign .. | .unary ..
  | .yield .. | .await .. => true
  | .object .. => c.place = .start
  | _ => false

def testNeedsParens (c : Setting) : Expr → Bool
  | .seq .. | .assign .. | .cond .. | .arrow .. | .yield .. => true
  | .object .. | .func .. | .cls .. => c.place = .start
  | _ => false

def awaitedNeedsParens : Expr → Bool
  | .cond .. | .assign .. | .binary .. | .yield .. => true
  | _ => false

def superClassNeedsParens : Expr → Bool
  | .seq .. | .await .. | .yield .. | .binary .. | .assign .. | .cond .. | .unary .. => true
  | _ => false

def bodyNeedsParens : Expr → Bool
  | .object .. | .seq .. => true
  | .assign _ _ target _ => isPattern target
  | _ => false

def defaultExportNeedsParens : Expr → Bool
  | .arrow .. | .seq .. => true
  | _ => false

def statementNeedsParens : Expr → Bool
  | .object .. | .cls .. | .func .. => true
  | .assign _ _ target _ => isObjectPattern target
  | _ => false

def opensStatement : Expr → Bool
  | .object .. | .func .. => true
  | _ => false

def isInert : Expr → Bool
  | .func .. | .arrow .. => true
  | e => e.isLiteral

mutual

/-- An element of a sequence whose value is not used, if it has to stay. Of the elements
that do nothing one may stay, unless one has been `kept` already. -/
def effect? (kept : Bool) : Expr → Option Expr × Bool
  | .unary _ .void arg => arg.effect? kept
  | .seq s es =>
    match effects kept es with
    | ([], kept) => (none, kept)
    | ([e], kept) => (some e, kept)
    | (es, kept) => (some (.seq s es), kept)
  | e => if e.isInert then (if kept then none else some e, true) else (some e, kept)
termination_by structural e => e

/-- The elements of a sequence that have to stay if its value is used. -/
def effects (kept : Bool) : List Expr → List Expr × Bool
  | [] => ([], kept)
  | [e] => ([e], kept)
  | e :: es =>
    let (first, kept) := e.effect? kept
    let (rest, kept) := effects kept es
    (first.toList ++ rest, kept)
termination_by structural es => es

end

/-- All elements that have to stay if the value of none is used. -/
def allEffects (kept : Bool) : List Expr → List Expr × Bool
  | [] => ([], kept)
  | e :: es =>
    let (first, kept) := e.effect? kept
    let (rest, kept) := allEffects kept es
    (first.toList ++ rest, kept)

def flatEffects (kept : Bool) : List Expr → List Expr
  | [] => []
  | [.seq _ es] => (effects kept es).1
  | [e] => [e]
  | .seq _ es :: rest =>
    let (first, kept) := allEffects kept es
    first ++ flatEffects kept rest
  | e :: rest =>
    let (first, kept) := e.effect? kept
    first.toList ++ flatEffects kept rest

/-- Of three elements and more those that do nothing can go, save the last. -/
def withoutInert (es : List Expr) : List Expr :=
  if es.length > 2 then es.dropLast.filter (!·.isInert) ++ es.getLast?.toList else es

def sequence (c : Setting) (s : Span) (es : List Expr) : Expr :=
  match flatEffects false es with
  | [e] => e
  | es =>
    let e := .seq s (withoutInert es)
    if c.place = .element then .paren s e else e

/-- Adds the parentheses an expression needs because of where it stands, or inside because
of what it starts with. -/
def settled (c : Setting) (e : Expr) : Trim Expr :=
  match e with
  | .binary s op left right =>
    if op = .in_ ∧ c.loopHead then e.wrapped
    else do
      let left ← left.wrappedIf (c.place = .start && left.opensStatement)
      return .binary s op left right
  | .seq s es => return sequence c s es
  | .cond s test yes no => do
    let test ← test.wrappedIf (testNeedsParens c test)
    let yes ← yes.wrappedIf yes.isSeq
    let no ← no.wrappedIf no.isSeq
    wrappedIf (c.place = .callee true) (.cond s test yes no)
  | e => return e

mutual

def asStatement : Expr → Trim Expr
  | .seq s es => return .seq s (← elementsAsStatements es)
  | e => wrappedIf (statementNeedsParens e) e
termination_by structural e => e

def elementsAsStatements : List Expr → Trim (List Expr)
  | [] => return []
  | [e] => return [e]
  | e :: es => return (← e.asStatement) :: (← elementsAsStatements es)
termination_by structural es => es

end

def wrapChain : Expr → Trim Expr
  | .member s obj key =>
    match obj with
    | .chain .. => return .member s (← obj.wrapped) key
    | obj => return .member s (← obj.wrapChain) key
  | e => return e

end Expr

/-- The setting of the parts of an expression that had the given parentheses around it. -/
def Setting.within (c : Setting) (parens : List (Span × Span)) (e : Expr) : Setting :=
  if c.place = .start ∧ (!parens.isEmpty ∨ !e.startsWithOperand) then c.free else c

def Stmt.takesElse : Stmt → Bool
  | .if _ _ _ none => true
  | .if _ _ _ (some no) => no.takesElse
  | .labeled _ _ body | .while _ _ body | .for _ _ _ _ body | .forIn _ _ _ body
  | .forOf _ _ _ _ body => body.takesElse
  | _ => false

def Pat.isAsync : Pat → Bool
  | .ident id _ | .expr (.ident id) => id.name = "async"
  | _ => false

def Pat.wrapChain : Pat → Trim Pat
  | .expr (.member s obj key) => return .expr (.member s (← obj.wrapChain) key)
  | p => return p

mutual

def Expr.trim (c : Setting) (parens : List (Span × Span)) (e : Expr) : Trim Expr :=
  match e with
  | .paren s inner => inner.trim c ((inner.span, s) :: parens)
  | e => do
    modify fun ds => parens.foldl (fun ds d => ds.insert d.1 d.2) ds
    let inner := c.within parens e
    match e with
    | .template s qs es => return .template s qs (← Expr.trimList inner.free es)
    | .tagged s tag ts quasi => do
      let tag ← tag.trim inner []
      let quasi ← quasi.trim inner []
      return .tagged s (← tag.wrappedIf (Expr.tagNeedsParens inner tag)) ts quasi
    | .array s es => return .array s (← Expr.trimList inner.element es)
    | .spread dots arg => return .spread dots (← arg.trim c.element [])
    | .object s props => return .object s (← Property.trimList inner props)
    | .func name fn => return .func name (← fn.trim inner)
    | .arrow s async tps ps ret body => do
      let ps ← Pat.trimList inner.start ps
      let body ← body.trimBody inner.start
      return .arrow s async tps ps ret body
    | .cls name cls => return .cls name (← cls.trim inner)
    | .unary s op arg => do
      let arg ← arg.trim inner.free []
      return .unary s op (← arg.wrappedIf (Expr.operandNeedsParens op arg))
    | .update s increment before arg =>
      return .update s increment before (← arg.trim inner [])
    | .binary s op left right => do
      let left ← left.trim inner []
      let right ← right.trim inner.free []
      let right ← right.wrappedIf (Expr.rightNeedsParens op right)
      let left ← left.wrappedIf (Expr.leftNeedsParens op left)
      Expr.settled c (.binary s op left right)
    | .assign s op target value => do
      let target ← target.trimTarget inner
      let value ← value.trim inner.free []
      let value ← value.wrappedIf value.endsInSeq
      return .assign s op (← target.wrapChain) value
    | .member s obj key => do
      let obj ← obj.trim inner []
      let key ← key.trim inner
      return .member s (← obj.wrappedIf (Expr.objectNeedsParens inner obj)) key
    | .cond s test yes no => do
      let test ← test.trim inner []
      let yes ← yes.trim inner.free []
      let no ← no.trim inner.free []
      Expr.settled c (.cond s test yes no)
    | .call s callee ts args => do
      let callee ← callee.trim (inner.callee false) []
      let callee ← callee.wrappedIf (callee.calleeNeedsParens || (callee.isChain && !inner.inChain))
      return .call s callee ts (← Expr.trimList inner.element args)
    | .new s callee ts hasArgs args => do
      let args ← Expr.trimList inner.element args
      let callee ← callee.trim (inner.callee true) []
      return .new s (← callee.wrappedIf callee.constructorNeedsParens) ts hasArgs args
    | .seq s es => do
      let es ← Expr.trimElements inner es
      Expr.settled c (.seq s es)
    | .yield s delegate arg => return .yield s delegate (← Expr.trim? inner.element arg)
    | .await s arg => do
      let arg ← arg.trim inner.element []
      return .await s (← arg.wrappedIf arg.awaitedNeedsParens)
    | .chain s optional base => return .chain s optional (← base.trimLink inner)
    | .jsx s os name ts attrs closed children => do
      let attrs ← Property.trimList inner attrs
      return .jsx s os name ts attrs closed (← Expr.trimList inner children)
    | .jsxBraced s e => return .jsxBraced s (← Expr.trim? c e)
    | e => return e
termination_by structural e

def Expr.trimList (c : Setting) : List Expr → Trim (List Expr)
  | [] => return []
  | e :: es => return (← e.trim c []) :: (← Expr.trimList c es)
termination_by structural es => es

def Expr.trim? (c : Setting) : Option Expr → Trim (Option Expr)
  | none => return none
  | some e => return some (← e.trim c [])
termination_by structural e => e

/-- The elements of a sequence. Only the first can stand where a statement starts. -/
def Expr.trimElements (c : Setting) : List Expr → Trim (List Expr)
  | [] => return []
  | e :: es => return (← e.trim c []) :: (← Expr.trimList c.free es)
termination_by structural es => es

def Expr.trimLink (c : Setting) : Expr → Trim Expr
  | .member s obj key => do
    let obj ← obj.trim c.chain []
    let key ← key.trim c.chain
    return .member s (← obj.wrappedIf (Expr.objectNeedsParens c.chain obj)) key
  | .call s callee ts args => do
    let callee ← callee.trim (c.chain.callee false) []
    let callee ← callee.wrappedIf callee.calleeNeedsParens
    return .call s callee ts (← Expr.trimList c.element args)
  | e => return e
termination_by structural e => e

def Func.trim (c : Setting) : Func → Trim Func
  | ⟨s, ds, async, generator, tps, ps, ret, body⟩ => do
    let ds ← Expr.trimList c ds
    let ps ← Param.trimList c ps
    return ⟨s, ds, async, generator, tps, ps, ret, ← Block.trim? c body⟩
termination_by structural f => f

def Block.trim (c : Setting) : Block → Trim Block
  | ⟨s, stmts⟩ => return ⟨s, ← Stmt.trimList c.free stmts⟩
termination_by structural b => b

def Block.trim? (c : Setting) : Option Block → Trim (Option Block)
  | none => return none
  | some b => return some (← b.trim c)
termination_by structural b => b

def Param.trim (c : Setting) : Param → Trim Param
  | ⟨s, ds, access, isReadonly, isOverride, p⟩ => do
    let ds ← Expr.trimList c.element ds
    return ⟨s, ds, access, isReadonly, isOverride, ← p.trim c.element⟩
termination_by structural p => p

def Param.trimList (c : Setting) : List Param → Trim (List Param)
  | [] => return []
  | p :: ps => return (← p.trim c) :: (← Param.trimList c ps)
termination_by structural ps => ps

def Class.trim (c : Setting) : Class → Trim Class
  | ⟨s, ds, isAbstract, tps, sup, supArgs, impl, members⟩ => do
    let sup ← Expr.trim? c.start sup
    let sup ← match sup with
      | some e => some <$> e.wrappedIf e.superClassNeedsParens
      | none => pure none
    return ⟨s, ds, isAbstract, tps, sup, supArgs, impl, ← Member.trimList c members⟩
termination_by structural c => c

def Key.trim (c : Setting) : Key → Trim Key
  | .computed s e => return .computed s (← e.trim c.free [])
  | k => return k
termination_by structural k => k

def Key.trimName (c : Setting) : Key → Trim Key
  | .computed s e => do
    let e ← e.trim c.free []
    return .computed s (← e.wrappedIf e.isSeq)
  | k => return k
termination_by structural k => k

def Property.trim (c : Setting) : Property → Trim Property
  | .spread dots arg => return .spread dots (← arg.trim c.element [])
  | .shorthand id => return .shorthand id
  | .keyed key value => do
    let key ← key.trimName c
    let value ← value.trim c []
    return .keyed key (← value.wrappedIf value.isSeq)
  | .shorthandInit id value => return .shorthandInit id (← value.trim c [])
  | .method kind key fn => do
    let key ← key.trimName c
    return .method kind key (← fn.trim c)
  | .attr s name value => return .attr s name (← Expr.trim? c value)
termination_by structural p => p

def Property.trimList (c : Setting) : List Property → Trim (List Property)
  | [] => return []
  | p :: ps => return (← p.trim c) :: (← Property.trimList c ps)
termination_by structural ps => ps

def Member.trim (c : Setting) : Member → Trim Member
  | .ctor s mods key ps body => do
    let ps ← Param.trimList c ps
    return .ctor s mods key ps (← Block.trim? c body)
  | .method s mods kind key fn => do
    let key ← key.trimName c
    return .method s mods kind key (← fn.trim c)
  | .field s mods accessor ds key ann value => do
    let key ← key.trimName c
    let value ← Expr.trim? c value
    return .field s mods accessor (← Expr.trimList c ds) key ann value
  | .staticBlock s body => return .staticBlock s (← body.trim c)
  | m => return m
termination_by structural m => m

def Member.trimList (c : Setting) : List Member → Trim (List Member)
  | [] => return []
  | m :: ms => return (← m.trim c) :: (← Member.trimList c ms)
termination_by structural ms => ms

def Pat.trim (c : Setting) : Pat → Trim Pat
  | .ident id ann => return .ident id ann
  | .array s ps optional ann => return .array s (← Pat.trimList c ps) optional ann
  | .hole => return .hole
  | .object s ps optional ann => return .object s (← Pat.trimList c ps) optional ann
  | .keyed key value => do
    let key ← key.trimName c.element
    return .keyed key (← value.trim c)
  | .shorthand s id default => return .shorthand s id (← Expr.trim? c.element.body default)
  | .rest s dots arg ann => return .rest s dots (← arg.trim c) ann
  | .default s left right => do
    let left ← left.trim c.body
    let right ← right.trim c.body []
    return .default s left (← right.wrappedIf right.isSeq)
  | .expr e => return .expr (← e.trim c [])
termination_by structural p => p

def Pat.trimList (c : Setting) : List Pat → Trim (List Pat)
  | [] => return []
  | p :: ps => return (← p.trim c) :: (← Pat.trimList c ps)
termination_by structural ps => ps

/-- The target of an assignment. Its own parentheses just go. -/
def Pat.trimTarget (c : Setting) : Pat → Trim Pat
  | .expr (.paren _ e) => return .expr (← e.trim c [])
  | .array s ps optional ann => return .array s (← Pat.trimList c ps) optional ann
  | .object s ps optional ann => return .object s (← Pat.trimList c ps) optional ann
  | .expr e => return .expr (← e.trim c [])
  | p => return p
termination_by structural p => p

def Declarator.trim (c : Setting) : Declarator → Trim Declarator
  | ⟨s, p, definite, init⟩ => do
    let p ← p.trim c.element
    return ⟨s, p, definite, ← Expr.trim? c.element init⟩
termination_by structural d => d

def Declarator.trimList (c : Setting) : List Declarator → Trim (List Declarator)
  | [] => return []
  | d :: ds => return (← d.trim c) :: (← Declarator.trimList c ds)
termination_by structural ds => ds

def Stmt.trimBody (c : Setting) : Stmt → Trim Stmt
  | .expr s e => do
    let e ← e.trim c []
    return .expr s (← e.wrappedIf e.bodyNeedsParens)
  | .block b => return .block (← b.trim c)
  | s => return s
termination_by structural s => s

/-- A statement; `c` is the setting of its parts. -/
def Stmt.trim (c : Setting) : Stmt → Trim Stmt
  | .block b => return .block (← b.trim c)
  | .with s obj body => do
    let obj ← obj.trim c []
    return .with s obj (← body.trim c.free)
  | .ret s arg => return .ret s (← Expr.trim? c arg)
  | .labeled s label body => return .labeled s label (← body.trim c.free)
  | .if s test yes no => do
    let test ← test.trim c []
    let yes ← yes.trim c.free
    let no ← Stmt.trim? c no
    return .if s test (if yes.takesElse then .block ⟨yes.span, [yes]⟩ else yes) no
  | .switch s subject cases => do
    let subject ← subject.trim c []
    return .switch s subject (← Stmt.trimList c cases)
  | .case s test body => do
    let test ← Expr.trim? c test
    return .case s test (← Stmt.trimList c.free body)
  | .throw s arg => return .throw s (← arg.trim c [])
  | .try s body catchSpan param handler final => do
    let body ← body.trim c
    let param ← param.trim c
    let handler ← Block.trim? c handler
    return .try s body catchSpan param handler (← Block.trim? c final)
  | .while s test body => do
    let test ← test.trim c []
    return .while s test (← body.trim c.free)
  | .doWhile s body test => do
    let body ← body.trim c.free
    return .doWhile s body (← test.trim c [])
  | .for s init test update body => do
    let init ← Stmt.trimHead? c.head init
    let test ← Expr.trim? c test
    let update ← Expr.trim? c update
    return .for s init test update (← body.trim c.free)
  | .forIn s left right body => do
    let left ← left.trim c.head
    let right ← right.trim c []
    return .forIn s left right (← body.trim c.free)
  | .forOf s await left right body => do
    let left ← left.trim c.head
    let left ← match left with
      | .target (.expr e) =>
        if !await && (Pat.expr e).isAsync then pure (.target (.expr (← e.wrapped))) else pure left
      | left => pure left
    let right ← right.trim c []
    let body ← body.trim c.free
    let right ← right.wrappedIf (right.isSeq || right.isAwait)
    return .forOf s await left right body
  | .expr s e => do
    let e ← e.trim c.start []
    return .expr s (← e.asStatement)
  | .target p => return .target (← p.trim c)
  | .var s kind declared decls => return .var s kind declared (← Declarator.trimList c decls)
  | .func name declared fn => return .func name declared (← fn.trim c)
  | .cls name declared cls => return .cls name declared (← cls.trim c)
  | .exportDecl s decl => return .exportDecl s (← decl.trim c.start)
  | .exportDefaultDecl s decl => return .exportDefaultDecl s (← decl.trimDefault c.start)
  | .exportDefaultExpr s e => do
    let e ← e.trim c.start []
    return .exportDefaultExpr s (← e.wrappedIf e.defaultExportNeedsParens)
  | item => return item
termination_by structural s => s

def Stmt.trimList (c : Setting) : List Stmt → Trim (List Stmt)
  | [] => return []
  | s :: ss => return (← s.trim c) :: (← Stmt.trimList c ss)
termination_by structural ss => ss

def Stmt.trim? (c : Setting) : Option Stmt → Trim (Option Stmt)
  | none => return none
  | some s => return some (← s.trim c)
termination_by structural s => s

def Stmt.trimHead? (c : Setting) : Option Stmt → Trim (Option Stmt)
  | some (.expr s e) => return some (.expr s (← e.trim c []))
  | none => return none
  | some s => return some (← s.trim c)
termination_by structural s => s

def Expr.trimDefault (c : Setting) : Expr → Trim Expr
  | .func name fn => return .func name (← fn.trim c)
  | .cls name cls => return .cls name (← cls.trim c)
  | e => return e
termination_by structural e => e

end

/-- Moves the comments at one place to another, in front of the comments that are there if
they come from further to the front. -/
def moveComments (source target : Nat) (cs : List (Nat × Comment)) : List (Nat × Comment) :=
  let moved := (cs.filter (·.1 = source)).map fun c => (target, c.2)
  let rest := cs.filter (·.1 ≠ source)
  if source < target then moved ++ rest else rest ++ moved

def Comments.withoutParens (ds : Dropped) (cs : Comments) : Comments :=
  ds.foldl (fun cs (inner, outer) =>
    ⟨moveComments outer.lo inner.lo cs.leading, moveComments outer.hi inner.hi cs.trailing⟩) cs

/-- A module without the parentheses it does not need. -/
def Module.trimmed (m : Module) : Module :=
  let (items, ds) := (Stmt.trimList ⟨.free, false, false⟩ m.items).run []
  { m with items, comments := m.comments.withoutParens ds }

end Unbundled.Script
