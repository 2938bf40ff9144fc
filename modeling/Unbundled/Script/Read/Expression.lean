import Unbundled.Script.Read.Literal

namespace Unbundled.Script.Read

open Parse (withCtx)

/-! ### Parentheses and arrow functions -/

def arrow (g : Grammar) (start : Nat) (async : Bool) (typeParams : List Ty) (params : List Pat)
    (ret : Option Ty) : Parse Expr := do
  let body ← g.arrowBody async (areSimple params)
  return .arrow (← spanFrom start) async typeParams params ret body

def itemPattern (g : Grammar) (patStart : Nat) (optional : Bool) (e : Expr) : Parse Pat := do
  let (spread, e) := match e with
    | .spread dots e => (some dots, e)
    | e => (none, e)
  let p ← toPattern .binding e
  let p := if optional then (markOptional p).getD p else p
  let p ← match spread with
    | some dots => do pure (Pat.rest (← spanFrom patStart) dots p none)
    | none => pure p
  let ann ← typeAnn? g
  let hi := (← prevSpan).hi
  let p ← match p, ann with
    | .ident id _, some t => pure (Pat.ident { id with span := ⟨patStart, hi⟩ } (some t))
    | .default .., some _ => do
      emit patStart .annotationAfterDefault
      pure p
    | p, ann => pure (annotated p ann hi)
  if ← eat assignSign then
    let right ← g.assign
    return .default (← spanFrom patStart) p right
  else return p

/-- `? yes : no` behind an item whose name could have been an optional parameter. -/
def itemConditional (g : Grammar) (start : Nat) (test : Expr) : Parse Expr := do
  bump
  let yes ← withCtx (fun c => { c with inConditional := true, colonFollows := true })
    (withIn true g.assign)
  expect .colon
  let no ← withCtx (fun c => { c with inConditional := true, colonFollows := false })
    (withIn true g.assign)
  return .cond ⟨start, no.span.hi⟩ test yes no

def assignOp? : Parse (Option AssignOp) := do
  match ← curToken with
  | some (.punct (.assign op)) => return some op
  | _ => return none

def asAssignTarget : Pat → Bool
  | .ident .. | .array .. | .object .. => true
  | .expr e =>
    match e with
    | .ident _ | .member .. | .paren .. | .chain .. | .asType .. | .satisfies .. | .nonNull _ _
    | .typeAssertion .. | .instantiation .. => true
    | _ => false
  | .hole => true
  | _ => false

def assignment (g : Grammar) (start : Nat) (left : Expr) : Parse Expr := do
  match ← assignOp? with
  | none => return left
  | some .plain =>
    let target ← toPattern .target left
    unless asAssignTarget target do stopAt target.span.lo .invalidTarget
    bump
    let right ← g.assign
    return .assign (← spanFrom start) .plain target right
  | some op =>
    let typed ← typescript
    unless isSimpleTarget (← Parse.ctx).strict left do
      emit left.span.lo (if typed then .assignTarget else .notSimpleTarget)
    if typed then
      if let .ident id := left then
        if isEvalOrArguments id.name then emitStrict left.span.lo .argumentsStrict
    let target := match left with
      | .ident id => Pat.ident id none
      | e => .expr e
    unless asAssignTarget target do stopAt left.span.lo .invalidTarget
    bump
    let right ← g.assign
    return .assign (← spanFrom start) op target right

/-- What can be read of an item before it is known whether it is a parameter. -/
def itemHead (g : Grammar) (start : Nat) : Parse Expr := do
  let nameAhead ← do
    if ← isIdent then pure true
    else if ← is .dots then peekIsIdent else pure false
  if ← pure nameAhead <&&> typescript then
    if ← eat .dots then
      let dots ← prevSpan
      return .spread dots (← withIn true g.binary)
    else
      let e ← g.binary
      assignment g start e
  else withIn true (exprOrSpread g)

/-- Whether the item may be the parameter of an arrow function without parentheses. -/
def ParenItem.isName : ParenItem → Bool
  | .expr (.ident _) | .pat (.ident ..) | .pat (.expr (.ident _)) => true
  | _ => false

def parenItem (g : Grammar) : Parse ParenItem := do
  let start ← curPos
  modify fun s => { s with arrowStart := some start }
  let modified ← eatParamModifier
  let patStart ← curPos
  let e ← itemHead g start
  let isSpread := match e with
    | .spread .. => true
    | _ => false
  let (e, optional) ← do
    if ← typescript <&&> is .question then
      if (← peekIs .comma) || (← peekIs .colon) || (← peekIs .rparen) || (← peekIs assignSign) then
        bump
        if isSpread then emit (← prevSpan).lo .optionalRest
        match e with
        | .ident _ | .spread _ (.ident _) => pure (e, true)
        | _ => stopAt e.span.lo .optionalPattern
      else if isSpread then pure (e, false)
      else pure (← itemConditional g start e, false)
    else pure (e, false)
  let item ← do
    if optional || (← typescript <&&> is .colon) then
      pure (ParenItem.pat (← itemPattern g patStart optional e))
    else pure (ParenItem.expr e)
  if modified then emit start .paramPropertyPlace
  return item

def parenItems (g : Grammar) : Parse (List ParenItem × Option Nat) := noColon do
  expect .lparen
  let items ← Parse.loop (([], none) : List ParenItem × Option Nat) fun (acc, comma) => do
    if (← atEnd) || (← is .rparen) then return .inr (acc.reverse, comma)
    let async ← do
      if ← isWord "async" then
        match ← peekToken with
        | some (.punct .lparen) | some (.keyword _) | some (.ident _) => pure true
        | _ => pure false
      else pure false
    let start ← curPos
    let item ← parenItem g
    let acc := item :: acc
    let acc ← do
      if ← eat .arrow then
        if (acc.getLast?.map ParenItem.isName).getD false then
          let params ← parenParams acc.reverse none
          let e ← arrow g start async [] params none
          pure (.expr e :: acc)
        else pure acc
      else pure acc
    if ← is .rparen then return .inl (acc, comma)
    expect .comma
    if ← is .rparen then return .inl (acc, some (← prevSpan).lo)
    return .inl (acc, comma)
  expect .rparen
  return items

def failItem {α : Type} : Parse α := unexpected "fail"

/-- `: T => body`, in a conditional expression. -/
def conditionalArrow (g : Grammar) (start : Nat) (async colon : Bool) (items : List ParenItem) :
    Parse (Option Expr) := do
  let ret ← resultTy g .colon
  expect .arrow
  let params ← parenParams items none
  let e ← arrow g start async [] params (some ret)
  if ← pure colon <&&> (do return !(← is .colon)) then failItem
  return some e

def arrowResult (g : Grammar) : Parse (Option Ty) := do
  let ret ← resultTy g .colon
  unless ← is .arrow do failItem
  return some ret

def plainItem : ParenItem → Parse Expr
  | .expr e => return e
  | .pat p => stopAt p.span.lo .notExpression

/-- Notes `a = 1` in an object literal that did not become a pattern. -/
def checkShorthands : List ParenItem → Parse Unit
  | [] => pure ()
  | .expr (.object _ props) :: rest => do
    for p in props do
      if let .shorthandInit id _ := p then emit id.span.lo .assignedShorthand
    checkShorthands rest
  | _ :: rest => checkShorthands rest

def withoutSpread : Expr → Parse Expr
  | .spread _ e => stopAt e.span.lo .spreadInParens
  | e => return e

/-- What stands in parentheses: an expression, the parameters of an arrow function or, behind
`async`, arguments. -/
def parenOrArrow (g : Grammar) (canBeArrow : Bool) (async : Option Span) : Parse Expr := do
  let start ← match async with
    | some s => pure s.lo
    | none => curPos
  let (items, comma) ← noColon (withIn true (parenItems g))
  let hasPattern := items.any fun
    | .pat _ => true
    | .expr _ => false
  let c ← Parse.ctx
  let typed ← typescript
  if ← pure (typed && c.inConditional) <&&> is .colon then
    if let some e := ← attempt (conditionalArrow g start async.isSome c.colonFollows items) then
      return e
  let ret ← do
    if ← pure (!c.colonFollows && typed) <&&> is .colon then attempt (arrowResult g) else pure none
  if hasPattern || ret.isSome || (← is .arrow) then
    if ← lineBreakBefore then stopAt start .lineBreakBeforeArrow
    unless canBeArrow do stopAt start .arrowPlace
    expect .arrow
    let params ← parenParams items comma
    let e ← arrow g start async.isSome [] params ret
    if let .arrow _ _ _ _ _ (.block _) := e then
      if ← isBinaryOp then
        emit (← curSpan).lo .semicolon
        return ← g.operators e 0
    return e
  checkShorthands items
  let es ← items.mapM plainItem
  match async with
  | some s =>
    return .call (← spanFrom start) (.ident { name := "async", span := s }) [] es
  | none =>
    let es' ← es.mapM withoutSpread
    match es' with
    | [] => stopAt start .emptyParens
    | [e] => return .paren (← spanFrom start) e
    | e :: rest =>
      let hi := ((rest.getLast?.map Expr.span).getD e.span).hi
      return .paren (← spanFrom start) (.seq ⟨e.span.lo, hi⟩ (e :: rest))

/-! ### Primary expressions -/

/-- `<T>(a) => b`, behind `async`. -/
def genericAsyncArrow (g : Grammar) (start : Nat) : Parse (Option Expr) := do
  let isTag ← match ← curToken with
    | some .jsxTagStart => pure true
    | _ => is lt
  unless isTag do return none
  let head ← attemptTyped do
    let tps ← tyParams g false false
    expect .lparen
    let ps ← g.params
    expect .rparen
    let ret ← result? g
    expect .arrow
    return some (tps, ps.map (·.pat), ret)
  match head with
  | none => return none
  | some (tps, ps, ret) =>
    withCtx (fun c => { c with inAsync := true, inGenerator := false }) do
      return some (← arrow g start true tps ps ret)

/-- `async a => b`, whose `async` has been read. -/
def asyncNameArrow (g : Grammar) (start : Nat) (async : Ident) : Parse Expr := do
  if ← pure (← Parse.ctx).forLoopInit <&&> isWord "of" <&&> (do return !(← peekIs .arrow)) then
    emit (← prevSpan).lo .asyncForOf
  let id ← bindingIdent false
  if ← pure (id.name == "as") <&&> typescript <&&> (do return !(← is .arrow)) then
    let t ← inType g.ty
    return .asType (← spanFrom start) (.ident async) t
  expect .arrow
  arrow g start true [] [.ident id none] none

def identOrArrow (g : Grammar) (start : Nat) (canBeArrow : Bool) : Parse Expr := do
  let id ← identRef
  if ← pure (canBeArrow && id.name == "async") <&&> (do return !(← lineBreakBefore))
      <&&> isIdent then
    asyncNameArrow g start id
  else if ← pure canBeArrow <&&> (do return !(← lineBreakBefore)) <&&> eat .arrow then
    if isEvalOrArguments id.name then emitStrict id.span.lo .evalOrArguments
    arrow g start false [] [.ident id none] none
  else return .ident id

def primaryTail (g : Grammar) (start : Nat) (canBeArrow : Bool) : Parse Expr := do
  let ds ← g.decorators false
  if ← isWord "class" then return ← g.classExpr start ds
  if (← isWord "let") || (← isIdent) || (← typescript <&&> isWord "await") then
    return ← identOrArrow g start canBeArrow
  if ← eat .hash then
    let w ← name
    return .privateName ⟨w.name, ← spanFrom start⟩
  stop .expression

def primary (g : Grammar) : Parse Expr := do
  let start ← curPos
  let canBeArrow := (← get).arrowStart == some start
  match ← curToken with
  | some (.keyword "this") => bump; return .this (← spanFrom start)
  | some (.ident "async") =>
    if ← asyncFunctionAhead then return ← asyncFunctionExpr g
    if ← pure canBeArrow <&&> typescript <&&> peekIs lt then
      let found ← attempt do
        let s ← curPos
        bump
        genericAsyncArrow g s
      if let some e := found then return e
    if ← pure canBeArrow <&&> peekIs .lparen <&&> (do return !(← lineBreakAfter)) then
      bump
      return ← parenOrArrow g canBeArrow (some (← prevSpan))
    primaryTail g start canBeArrow
  | some (.punct .lbracket) => noColon (arrayLiteral g)
  | some (.punct .lbrace) => noColon (objectLiteral g)
  | some (.keyword "function") => functionExpr g
  | some (.keyword "null") | some (.keyword "true") | some (.keyword "false")
  | some (.num ..) | some (.bigint _) | some (.str ..) => literal
  | some (.punct (.op .div)) | some (.punct (.assign (.with .div))) => regex
  | some (.punct .backquote) => noColon (template g false)
  | some (.punct .lparen) => parenOrArrow g canBeArrow none
  | _ => primaryTail g start canBeArrow

/-! ### Member accesses and calls -/

def skipNonNull : Expr → Expr
  | .nonNull _ e => skipNonNull e
  | e => e

def isChain (e : Expr) : Bool :=
  match skipNonNull e with
  | .chain .. => true
  | _ => false

def startsExpr : Parse Bool := do
  match ← need with
  | .keyword w =>
    if w == "import" then return (← peekIs .lparen) || (← peekIs lt) || (← peekIs .dot)
    else if ["this", "super", "null", "true", "false", "function", "class", "new", "delete",
        "typeof", "void", "await", "yield"].contains w then return true
    else isIdent
  | .ident _ => isIdent
  | .num .. | .bigint _ | .str .. | .regex .. => return true
  | .punct p =>
    match p with
    | .backquote | .lparen | .lbracket | .lbrace | .tilde | .bang | .plusPlus | .minusMinus
    | .hash | .op _ => return true
    | _ => return false
  | _ => return false

/-- Type arguments that are neither the start of a call nor part of a comparison. -/
def instantiation? (g : Grammar) : Parse (Option (List Ty)) :=
  attemptTyped do
    let tys ← typeArgs g
    if ← isAny [lt, gt, .op .add, .op .sub, .lparen, .backquote] then return none
    if (← lineBreakBefore) || (← isBinaryOp) || !(← startsExpr) then return some tys
    return none

def instantiated (g : Grammar) (start : Nat) (e : Expr) : Parse Expr := do
  if ← typescript <&&> is lt then
    match ← instantiation? g with
    | some tys => return .instantiation (← spanFrom start) e tys
    | none => return e
  else return e

def tagged (g : Grammar) (tag : Expr) (tys : List Ty) : Parse Expr := do
  let start := tag.span.lo
  let quasi ← template g true
  if let .chain .. := tag then emit start .taggedInChain
  return .tagged (← spanFrom start) tag tys quasi

/-- Makes a link of a chain if the base or the link itself is optional. -/
def link (span : Span) (optional : Bool) (base e : Expr) : Expr :=
  if optional || isChain base then .chain span optional e else e

def isSuper : Expr → Bool
  | .super _ => true
  | _ => false

def isImportCallee : Expr → Bool
  | .importCallee _ => true
  | _ => false

/-- `super` must stand where the class it belongs to has a parent to look into. -/
def checkSuper (optional noCall : Bool) : Parse Unit := do
  if !(← Parse.ctx).allowSuperCall && !(← typescript) then stop .superAccess
  if optional then
    if noCall then stop .superCall
    stop .superAccess

/-- Type arguments and the call, template or instantiation that they belong to; the flag
tells whether more may follow. -/
def typedSubscript (g : Grammar) (start : Nat) (obj : Expr) (noCall : Bool) :
    Parse (Option (Expr × Bool)) := do
  let async := (← get).arrowStart == some obj.span.lo &&
    match obj with
    | .ident id => id.name == "async"
    | _ => false
  if !noCall && async then
    if let some e := ← genericAsyncArrow g start then return some (e, true)
  let tys ← typeArgs g
  if ← pure !noCall <&&> is .lparen then
    let es ← args g (isImportCallee obj)
    let span ← spanFrom start
    let call := Expr.call span obj tys es
    return some (if isChain obj then .chain span false call else call, true)
  else if ← is .backquote then return some (← tagged g obj tys, true)
  else if (← is assignSign) || (← isWord "as") || (← isWord "satisfies") then
    return some (.instantiation (← spanFrom start) obj tys, false)
  else if noCall then unexpected "`"
  else unexpected "( or `"

/-- One access or call behind `obj`; the flag tells whether more may follow. -/
def subscript (g : Grammar) (start : Nat) (noCall noComputed : Bool) (obj : Expr) :
    Parse (Expr × Bool) := do
  let _ ← cur?
  if ← typescript then
    if ← (do return !(← lineBreakBefore)) <&&> is .bang then
      modify fun s => { s with exprAllowed := false }
      bump
      if isSuper obj then stop (.nonNullTarget "super")
      if isImportCallee obj then stop (.nonNullTarget "import")
      return (.nonNull (← spanFrom start) obj, true)
    if ← pure (!isSuper obj && !isImportCallee obj) <&&> is lt then
      let found ← withCtx (fun c => { c with wholeAngles := false })
        (attempt (typedSubscript g start obj noCall))
      if let some r := found then return r
  let optional ← if ← is .question then peekIs .dot else pure false
  if optional then bump
  let computed ← do
    if noComputed then pure false
    else if ← pure optional <&&> is .dot <&&> peekIs .lbracket then
      bump
      bump
      pure true
    else eat .lbracket
  if computed then
    let open_ := (← prevSpan).lo
    let e ← withIn true g.expr
    expect .rbracket
    let span ← spanFrom obj.span.lo
    let key := Key.computed (← spanFrom open_) e
    if isSuper obj then
      checkSuper optional noCall
      return (.member span obj key, true)
    let e := link span optional obj (.member span obj key)
    return (← instantiated g start e, true)
  let called ← do
    if ← pure optional <&&> is .dot
        <&&> (do return (← peekIs .lparen) || (← typescript <&&> peekIs lt)) then
      bump
      pure true
    else pure !noCall <&&> is .lparen
  if called then
    let tys ← if ← typescript <&&> is lt then typeArgs g else pure []
    let es ← args g (isImportCallee obj)
    let span ← spanFrom start
    let call := Expr.call span obj tys es
    if optional || isChain obj then
      if isSuper obj || isImportCallee obj then stop .optionalSuperCall
      return (.chain span optional call, true)
    return (call, true)
  if ← eat .dot then
    let key ← if ← is .hash then do pure (Key.priv (← privateName)) else do pure (Key.word (← name))
    let span ← spanFrom obj.span.lo
    if isSuper obj then
      checkSuper optional noCall
      if let .priv _ := key then stop .superPrivate
      return (.member span obj key, true)
    if isImportCallee obj then unexpected "meta"
    let e := link (← spanFrom start) optional obj (.member span obj key)
    return (← instantiated g start e, true)
  if isSuper obj then
    if noCall then stop .superCall
    stop .superAccess
  if isImportCallee obj then stop .importPlace
  let typed ← instantiated g start obj
  if ← is .backquote then return (← noColon (tagged g typed []), true)
  return (typed, false)

def subscripts (g : Grammar) (start : Nat) (noCall noComputed : Bool) (obj : Expr) :
    Parse Expr :=
  Parse.loop obj fun obj => do
    match ← subscript g start noCall noComputed obj with
    | (e, true) => return .inl e
    | (e, false) => return .inr e

def importExpr (g : Grammar) (start : Nat) (noCall : Bool) : Parse Expr := do
  if ← eat .dot then
    let w ← name
    if w.name == "meta" then subscripts g start noCall false (.importMeta (← spanFrom start))
    else unexpected "meta"
  else
    subscripts g start noCall false (.importCallee (← spanFrom start))

def isArrow : Expr → Bool
  | .arrow .. => true
  | _ => false

def newTarget (g : Grammar) (start : Nat) : Parse Expr := do
  if ← eatWord "target" then
    let span ← spanFrom start
    let c ← Parse.ctx
    if !c.insideNonArrow && !c.inParameters && !c.inClass then emit start .newTargetPlace
    subscripts g start true false (.newTarget span)
  else unexpected "target"

def chainSpan? : Expr → Option Span
  | .chain s .. => some s
  | .member _ (.chain s ..) _ => some s
  | _ => none

def newExpr (g : Grammar) (start : Nat) : Parse Expr := do
  let callee ← g.memberOrNew
  if isArrow callee then return callee
  if let some s := chainSpan? callee then stopAt s.lo .newOptionalChain
  let tys ← do
    if ← typescript <&&> (do return (← is lt) || (← is (.op .shiftLeft))) then
      let found ← attempt do
        let tys ← typeArgsAsWhole g
        unless ← is .lparen do failExpected "("
        return some tys
      pure (found.getD [])
    else pure []
  if ← is .lparen then
    let es ← args g false
    subscripts g start true false (.new (← spanFrom start) callee tys true es)
  else return .new (← spanFrom start) callee tys false []

def memberOrNew (g : Grammar) : Parse Expr :=
  withCtx (fun c => { c with wholeAngles := true }) do
    let start ← curPos
    if ← eatWord "new" then
      if ← eat .dot then newTarget g start else newExpr g start
    else if ← eatWord "super" then
      subscripts g start true false (.super (← spanFrom start))
    else if ← eatWord "import" then importExpr g start true
    else
      let obj ← primary g
      if isArrow obj then return obj
      let obj ← instantiated g start obj
      subscripts g start true false obj

def leftHandSide (g : Grammar) : Parse Expr := do
  let start ← curPos
  if ← jsx then
    match ← need with
    | .jsxText v r => bump; return .jsxText (← spanFrom start) v r
    | .jsxTagStart => return ← g.jsx
    | _ => pure ()
    if ← is lt <&&> (do return !(← peekIs .bang)) then return ← g.jsx
  if ← eatWord "super" then return ← subscripts g start false false (.super (← spanFrom start))
  if ← eatWord "import" then return ← importExpr g start false
  let callee ← memberOrNew g
  if isArrow callee then return callee
  let tys ← do
    if ← typescript <&&> (do return (← is lt) || (← is (.op .shiftLeft))) then
      attempt do
        let tys ← typeArgs g
        if ← is .lparen then return some tys else return none
    else pure none
  if let .new _ _ _ false _ := callee then
    if tys.isSome then expect .lparen
    return callee
  if ← is .lparen then
    let es ← args g false
    let span ← spanFrom start
    let call := Expr.call span callee (tys.getD []) es
    let call := if isChain callee then .chain span false call else call
    return ← subscripts g start false false call
  if tys.isSome then expect .lparen
  return callee

/-! ### Operators -/

def awaitExpr (g : Grammar) (awaitStart : Option Nat) : Parse Expr := do
  let start ← match awaitStart with
    | some s => pure s
    | none => do
      let s ← curPos
      bump
      pure s
  if ← is star then stop .awaitStar
  let c ← Parse.ctx
  if ← pure !c.inAsync <&&> (do return (← is .rparen) || (← is .rbracket)) then
    stopAt start .asyncIdent
  if c.inFunction && !c.inAsync then emit (← curSpan).lo .awaitPlace
  if c.inParameters && !c.inFunction then emit start .awaitParam
  let arg ← g.unary
  return .await (← spanFrom start) arg

def startsYieldArg : Token → Bool
  | .keyword w =>
    ["await", "function", "new", "null", "true", "false", "this", "super", "class", "import",
     "yield", "typeof", "void", "delete", "throw"].contains w
  | .ident _ | .num .. | .bigint _ | .str .. | .regex .. | .template .. | .jsxTagStart => true
  | .punct p =>
    [.bang, .lparen, .lbrace, .lbracket, .tilde, .plusPlus, .minusMinus, .backquote,
     .dollarBrace, .op .add, .op .sub].contains p
  | _ => false

def yieldExpr (g : Grammar) : Parse Expr := do
  let start ← curPos
  bump
  let c ← Parse.ctx
  if c.inParameters && !c.inFunction then stopAt (← prevSpan).lo .yieldParam
  let bare ← do
    if ← isSemi then pure true
    else if (← is star) || (← is (.op .div)) || (← is (.assign (.with .div))) then pure false
    else pure !(((← curToken).map startsYieldArg).getD true)
  if bare then return .yield (← spanFrom start) false none
  let delegate ← eat star
  let arg ← g.assign
  return .yield (← spanFrom start) delegate (some arg)

def unaryOp? : Token → Option UnaryOp
  | .keyword "delete" => some .delete
  | .keyword "void" => some .void
  | .keyword "typeof" => some .typeof
  | .punct (.op .add) => some .plus
  | .punct (.op .sub) => some .minus
  | .punct .tilde => some .tilde
  | .punct .bang => some .bang
  | _ => none

def skipParens : Expr → Expr
  | .paren _ e => skipParens e
  | e => e

def checkDelete (arg : Expr) : Parse Unit := do
  if let .ident id := arg then emitStrict id.span.lo .deleteIdent
  if ← typescript then
    match skipParens arg with
    | .member .. | .chain _ _ (.member ..) => pure ()
    | e => emit e.span.lo .deleteOperand

/-- The operand of an operator. What is wrong with it is noted, and it is left out. -/
def operand (g : Grammar) : Parse Expr := do
  let pos := (← curPos) - 1
  try g.unary
  catch e =>
    emitFault e
    let _ := pos
    return .hole

def updateOp? : Parse (Option Bool) := do
  if ← is .plusPlus then return some true
  else if ← is .minusMinus then return some false
  else return none

def unary (g : Grammar) : Parse Expr := do
  let start ← curPos
  if ← typescript <&&> (do return !(← jsx)) <&&> eat lt then
    if ← eatWord "const" then
      expect gt
      let e ← g.unary
      return .constAssertion (← spanFrom start) e
    let t ← inType g.ty
    expect gt
    let e ← g.unary
    return .typeAssertion (← spanFrom start) t e
  if let some increment := ← updateOp? then
    bump
    let arg ← g.unary
    checkTarget arg false
    return .update ⟨start, arg.span.hi⟩ increment true arg
  if let some op := ((← curToken).bind unaryOp?) then
    bump
    let arg ← operand g
    if op = .delete then checkDelete arg
    return .unary ⟨start, arg.span.hi⟩ op arg
  if ← isWord "await" then return ← awaitExpr g none
  let e ← leftHandSide g
  if isArrow e then return e
  if ← lineBreakBefore then return e
  match ← updateOp? with
  | some increment =>
    checkTarget e false
    bump
    return .update (← spanFrom e.span.lo) increment false e
  | none => return e

def precedence : BinaryOp → Nat
  | .or | .coalesce => 1
  | .and => 2
  | .bitOr => 3
  | .bitXor => 4
  | .bitAnd => 5
  | .eq | .notEq | .strictEq | .strictNotEq => 6
  | .lt | .ltEq | .gt | .gtEq | .in_ | .instanceof => 7
  | .shiftLeft | .shiftRight | .shiftRightZero => 8
  | .add | .sub => 9
  | .mul | .div | .mod => 10
  | .exp => 11

def binaryOp? : Parse (Option BinaryOp) := do
  match ← curToken with
  | some (.keyword "in") => return if (← Parse.ctx).includeIn then some .in_ else none
  | some (.keyword "instanceof") => return some .instanceof
  | some (.punct (.op op)) => return some op
  | _ => return none

def castTy (g : Grammar) : Parse Ty := do
  let t ← inType do
    bump
    g.ty
  if ← pure !(← Parse.ctx).inType <&&> (do return (← is lt) || (← is gt)) then mergeAngle
  return t

def casts (g : Grammar) (left : Expr) (prec : Nat) : Parse Expr :=
  Parse.loop left fun left => do
    let possible ← pure (decide (prec < 7)) <&&> typescript <&&> (do return !(← lineBreakBefore))
    if ← pure possible <&&> isWord "as" then
      let start := left.span.lo
      if ← peekIsWord "const" then
        bump
        bump
        return .inl (.asConst (← spanFrom start) left)
      else
        let t ← castTy g
        return .inl (.asType (← spanFrom start) left t)
    else if ← pure possible <&&> isWord "satisfies" then
      let start := left.span.lo
      let t ← castTy g
      return .inl (.satisfies (← spanFrom start) left t)
    else return .inr left

def mixesCoalesce : Expr → Option Span
  | .binary s .and .. | .binary s .or .. => some s
  | _ => none

def operators (g : Grammar) (left : Expr) (prec : Nat) : Parse Expr :=
  Parse.loop left fun left => do
    let left ← casts g left prec
    match ← binaryOp? with
    | none => return .inr left
    | some op =>
      if precedence op ≤ prec then return .inr left
      bump
      if op = .exp then
        match left with
        | .unary .. | .await .. => stop .unaryBeforePower
        | _ => pure ()
      let right ← g.unary
      let right ← g.operators right (if op = .exp then precedence op - 1 else precedence op)
      if op = .coalesce then
        if let some s := mixesCoalesce left then emit s.lo .coalesceMix
        if let some s := mixesCoalesce right then emit s.lo .coalesceMix
      let span : Span := ⟨left.span.lo, right.span.hi⟩
      if op = .and || op = .or then
        if let .binary _ .coalesce _ _ := left then emit span.lo .coalesceMix
      return .inl (.binary span op left right)

def binary (g : Grammar) : Parse Expr := do
  let includeIn := (← Parse.ctx).includeIn
  let left ←
    try unary g
    catch e =>
      let recovers ← match ← need with
        | .keyword "in" => pure includeIn
        | .keyword "instanceof" | .punct (.op _) => pure true
        | _ => pure false
      unless recovers do throw e
      emit (← curSpan).lo .expression
      pure .hole
  if isArrow left then return left
  operators g left 0

def conditional (g : Grammar) : Parse Expr := do
  let start ← curPos
  let test ← binary g
  if isArrow test then return test
  unless ← eat .question do return test
  let yes ← withCtx (fun c => { c with inConditional := true, colonFollows := true })
    (withIn true g.assign)
  expect .colon
  let no ← withCtx (fun c => { c with inConditional := true, colonFollows := false }) g.assign
  return .cond ⟨start, no.span.hi⟩ test yes no

def assignPlain (g : Grammar) : Parse Expr := do
  if ← pure (← Parse.ctx).inGenerator <&&> isWord "yield" then return ← yieldExpr g
  let start ← curPos
  let arrowStart := match ← need with
    | .ident _ | .punct .lparen | .keyword "yield" => some start
    | _ => none
  modify fun s => { s with arrowStart }
  let e ← conditional g
  match e with
  | .arrow .. | .cond .. | .binary .. | .unary .. | .update .. => return e
  | e => assignment g start e

def genericArrow (g : Grammar) : Parse (Option Expr) := do
  let start ← curPos
  let tps ← tyParams g false true
  match ← assignPlain g with
  | .arrow s async _ ps ret body => return some (.arrow ⟨start, s.hi⟩ async tps ps ret body)
  | _ => unexpected "("

def isTagStart : Parse Bool := do
  match ← curToken with
  | some .jsxTagStart => return true
  | _ => return false

def assign (g : Grammar) : Parse Expr := do
  if ← typescript then
    if ← jsx <&&> isTagStart then
      if let some e := ← attempt (do return some (← assignPlain g)) then return e
      dropTag
    if (← isTagStart) || (← is lt) then
      if let some e := ← attempt (genericArrow g) then return e
  assignPlain g

def expr (g : Grammar) : Parse Expr := do
  let e ← g.assign
  let rest ← Parse.collect do
    if ← eat .comma then return some (← g.assign) else return none
  if rest.isEmpty then return e
  return .seq (← spanFrom e.span.lo) (e :: rest)

end Unbundled.Script.Read
