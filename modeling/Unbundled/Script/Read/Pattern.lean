import Unbundled.Script.Read.Type

namespace Unbundled.Script.Read

open Parse (withCtx)

/-! ### Patterns -/

def annotated (p : Pat) (ann : Option Ty) (stop : Nat) : Pat :=
  match p with
  | .ident id _ => .ident id ann
  | .array s es o _ => .array (if ann.isSome then ⟨s.lo, stop⟩ else s) es o ann
  | .object s ps o _ => .object (if ann.isSome then ⟨s.lo, stop⟩ else s) ps o ann
  | .rest s d a _ => .rest (if ann.isSome then ⟨s.lo, stop⟩ else s) d a ann
  | p => p

def element (g : Grammar) : Parse Pat := do
  let start ← curPos
  let left ← g.pattern false
  if ← eat assignSign then
    let right ← withIn true g.assign
    if (← Parse.ctx).inDeclare then emit start .paramInit
    return .default (← spanFrom start) left right
  else return left

def ambientOptional : Parse Bool := do
  if (← Parse.ctx).inDeclare then eat .question else return false

def arrayPattern (g : Grammar) : Parse Pat := do
  let start ← curPos
  bump
  let elems ← Parse.loop (([], none) : List Pat × Option Span) fun (acc, rest) => do
    if (← atEnd) || (← is .rbracket) then return .inr acc.reverse
    if ← eat .comma then return .inl (.hole :: acc, rest)
    if let some r := rest then emit r.lo .restNotLast
    let elemStart ← curPos
    let (p, rest) ← do
      if ← eat .dots then
        let dots ← spanFrom elemStart
        let arg ← g.pattern false
        let span ← spanFrom elemStart
        pure (Pat.rest span dots arg none, some span)
      else pure (← element g, rest)
    unless ← is .rbracket do
      expect .comma
      if let .rest .. := p then
        if ← is .rbracket then emit (← prevSpan).lo .commaAfterRest
    return .inl (p :: acc, rest)
  expect .rbracket
  let optional ← ambientOptional
  return .array (← spanFrom start) elems optional none

def propertyPattern (g : Grammar) : Parse Pat := do
  let start ← curPos
  if ← eat .dots then
    let dots ← spanFrom start
    let arg ← g.pattern false
    return .rest (← spanFrom start) dots arg none
  let key ← propertyKey g
  if ← eat .colon then return .keyed key (← element g)
  match key with
  | .word w =>
    let value ← do
      if ← eat assignSign then pure (some (← withIn true g.assign))
      else
        if Scan.isReserved (← Parse.ctx) w.name then emit w.span.lo .reservedShorthand
        pure none
    return .shorthand (← spanFrom start) (Word.toIdent w) value
  | _ => unexpected "an identifier"

/-- Notes rest elements that are not the last, and what may not follow the last. -/
def checkRests (comma : Option Nat) : List Pat → Parse Unit
  | [] => pure ()
  | [.rest _ _ (.ident ..) _] => do
    if let some pos := comma then emit pos .commaAfterRest
  | [.rest s ..] => stopAt s.lo .dotsWithoutName
  | [_] => pure ()
  | p :: ps => do
    if let .rest s .. := p then emit s.lo .restNotLast
    checkRests comma ps

def braced {α : Type} (prop : Parse α) : Parse (List α × Option Nat) := do
  bump
  Parse.loop (([], none) : List α × Option Nat) fun (acc, comma) => do
    if ← eat .rbrace then return .inr (acc.reverse, comma)
    let p ← prop
    if ← is .rbrace then return .inl (p :: acc, comma)
    expect .comma
    if ← is .rbrace then return .inl (p :: acc, some (← prevSpan).lo)
    return .inl (p :: acc, comma)

def objectPattern (g : Grammar) : Parse Pat := do
  let start ← curPos
  let (props, comma) ← braced (propertyPattern g)
  let span ← spanFrom start
  checkRests comma props
  let optional ← ambientOptional
  return .object span props optional none

def pattern (g : Grammar) (noLet : Bool) : Parse Pat := do
  match ← need with
  | .keyword _ | .ident _ => return .ident (← bindingIdent noLet) none
  | .punct .lbracket => arrayPattern g
  | .punct .lbrace => objectPattern g
  | _ => unexpected "yield, an identifier, [ or \x7b"

/-! ### Parameters -/

def markOptional : Pat → Option Pat
  | .ident id ann => some (.ident { id with optional := true } ann)
  | .array s es _ ann => some (.array s es true ann)
  | .object s ps _ ann => some (.object s ps true ann)
  | _ => none

def paramPattern (g : Grammar) : Parse Pat := do
  let start ← curPos
  let modified ← eatParamModifier
  let patStart ← curPos
  let p ← g.pattern false
  let (p, optional) ← do
    if ← typescript then
      let (p, optional) ← do
        if ← eat .question then
          match markOptional p with
          | some p => pure (p, true)
          | none => do
            unless (← Parse.ctx).inDeclare do stopAt (← prevSpan).lo .optionalPattern
            pure (p, false)
        else pure (p, false)
      let ann ← typeAnn? g
      let p := annotated p ann (← prevSpan).hi
      pure (p, optional)
    else pure (p, false)
  let _ := patStart
  let p ← do
    if ← eat assignSign then
      if optional then emit p.span.lo .optionalWithInit
      let right ← g.assign
      if (← Parse.ctx).inDeclare then emit start .paramInit
      pure (Pat.default (← spanFrom start) p right)
    else pure p
  if modified then emit start .paramPropertyPlace
  return p

def paramEnd (isRest : Bool) : Parse Unit := do
  unless ← is .rparen do
    expect .comma
    if isRest && (← is .rparen) then emit (← prevSpan).lo .commaAfterRest

def restParam (g : Grammar) (start : Nat) (allowInit : Bool) : Parse Pat := do
  let dots ← spanFrom start
  let p ← g.pattern false
  let p ← do
    if ← pure allowInit <&&> eat assignSign then
      let right ← g.assign
      emit p.span.lo .restInit
      pure (Pat.default (← spanFrom start) p right)
    else pure p
  let ann ← if ← typescript then typeAnn? g else pure none
  let span ← spanFrom start
  if ← pure allowInit <&&> typescript <&&> eat .question then emit (← prevSpan).lo .optionalRest
  return .rest span dots p ann

/-- Parameters up to the closing parenthesis. Those of a constructor may declare
properties. -/
def paramList (g : Grammar) (isConstructor : Bool) : Parse (List Param) :=
  Parse.loop (([], none) : List Param × Option Nat) fun (acc, rest) => do
    if (← atEnd) || (← is .rparen) then return .inr acc.reverse
    if let some pos := rest then emit pos .restParamLast
    let start ← curPos
    let decorators ← g.decorators false
    let patStart ← curPos
    if ← eat .dots then
      let p ← restParam g patStart (!isConstructor)
      let param : Param := ⟨← spanFrom start, decorators, none, false, false, p⟩
      paramEnd true
      return .inl (param :: acc, some patStart)
    else
      let ts := isConstructor && (← typescript)
      let access ← if ts then access? else pure none
      let isOverride ← if ts then do pure (← modifier? ["override"] false).isSome else pure false
      let isReadonly ← if ts then do pure (← modifier? ["readonly"] false).isSome else pure false
      let p ← paramPattern g
      if access.isSome || isOverride || isReadonly then
        match p with
        | .ident .. | .default .. => pure ()
        | p => stopAt p.span.lo .paramPropertyPattern
      let param : Param := ⟨← spanFrom start, decorators, access, isReadonly, isOverride, p⟩
      paramEnd false
      return .inl (param :: acc, rest)

def isNotThis (p : Param) : Bool :=
  match p.pat with
  | .ident id _ => id.name != "this"
  | _ => true

def ruledParams (g : Grammar) (rule : ParamRule) : Parse (List Param) := do
  let ps ← paramList g false
  match rule with
  | .any => pure ()
  | .getter pos => if ps.any isNotThis then emit pos .getterParams
  | .setter pos =>
    if (ps.filter isNotThis).length ≠ 1 then emit pos .setterParams
    if let p :: _ := ps then
      if let .rest s .. := p.pat then emit s.lo .restInSetter
  return ps

/-! ### Expressions as patterns -/

def isSimpleTarget (strict : Bool) : Expr → Bool
  | .ident id => !(strict && isEvalOrArguments id.name)
  | .paren _ e | .asType _ e _ | .asConst _ e | .satisfies _ e _ | .typeAssertion _ _ e
  | .constAssertion _ e | .nonNull _ e | .instantiation _ e _ => isSimpleTarget strict e
  | .member _ obj _ =>
    match obj with
    | .chain .. => false
    | .member a b c => isSimpleTarget strict (.member a b c)
    | _ => true
  | _ => false

/-- Whether an expression that is no simple target is to be blamed in typed scripts. -/
def isDenied (denyCall : Bool) : Expr → Bool
  | .str _ | .num .. | .bigint .. | .bool .. | .null _ | .regex .. | .jsxText .. => false
  | .call .. => denyCall
  | .binary .. => false
  | .paren _ e => isDenied denyCall e
  | _ => true

def checkTarget (e : Expr) (denyCall : Bool) : Parse Unit := do
  let strict := (← Parse.ctx).strict
  if ← typescript then
    let reserved := match e with
      | .ident id => isEvalOrArguments id.name
      | _ => false
    if reserved then emitStrict e.span.lo .argumentsStrict
    else if !isSimpleTarget strict e && isDenied denyCall e then emit e.span.lo .assignTarget
  else if !isSimpleTarget strict e then emit e.span.lo .assignTarget

/-- What an expression is taken for: something introduced or something assigned to, as a
whole or as an element of a larger pattern. -/
inductive Role where
  | binding | bindingElement | target | targetElement
deriving DecidableEq

def Role.element : Role → Role
  | .binding | .bindingElement => .bindingElement
  | .target | .targetElement => .targetElement

def invalidPattern (s : Span) : Parse Pat := do
  emit s.lo .notPattern
  return .hole

def noteTrailingComma (start : Nat) : Parse Unit := do
  if let some pos := (← get).trailingCommas.lookup start then emit pos .commaAfterRest

mutual

/-- `e` as a pattern. The target of an assignment itself is not looked into unless it is an
object or array literal. -/
def toPattern (role : Role) : Expr → Parse Pat
  | .hole => return .hole
  | .ident id => do
    match role with
    | .target => checkTarget (.ident id) true
    | .targetElement =>
      unless isSimpleTarget (← Parse.ctx).strict (.ident id) do emit id.span.lo .notSimpleTarget
    | _ => pure ()
    return .ident id none
  | .object s props => do
    let ps ← propsToPattern role s.lo props
    return .object s ps false none
  | .array s elems => do
    let ps ← elemsToPattern role s.lo elems
    return .array s ps false none
  | .assign s .plain (.expr e) right => do
    if role = .target then
      checkTarget (.assign s .plain (.expr e) right) true
      return .expr (.assign s .plain (.expr e) right)
    else
      let left ← toPattern role e
      return .default s left right
  | .assign s .plain (.ident id ann) right => do
    if role = .target then
      checkTarget (.assign s .plain (.ident id ann) right) true
      return .expr (.assign s .plain (.ident id ann) right)
    else
      if role = .targetElement && !isSimpleTarget (← Parse.ctx).strict (.ident id) then
        emit id.span.lo .notSimpleTarget
      return .default s (.ident id ann) right
  | .assign s .plain left right => do
    if role = .target then
      checkTarget (.assign s .plain left right) true
      return .expr (.assign s .plain left right)
    else return .default s left right
  | e => do
    match role with
    | .target =>
      checkTarget e true
      return .expr e
    | .targetElement =>
      match e with
      | .member .. | .call .. | .new .. | .str _ | .num .. | .bigint .. | .bool .. | .null _
      | .regex .. | .func .. | .cls .. | .paren .. | .template .. | .asType .. =>
        unless isSimpleTarget (← Parse.ctx).strict e do emit e.span.lo .notSimpleTarget
        return .expr e
      | .assign .. => invalidPattern e.span
      | _ =>
        emit e.span.lo .notPattern
        invalidPattern e.span
    | _ => invalidPattern e.span

def propsToPattern (role : Role) (start : Nat) : List Property → Parse (List Pat)
  | [] => return []
  | p :: ps => do
    let q ← match p with
      | .shorthand id => pure (Pat.shorthand id.span id none)
      | .keyed key value => do
        let v ← toPattern role.element value
        pure (Pat.keyed key v)
      | .shorthandInit id value => pure (Pat.shorthand ⟨id.span.lo, value.span.hi⟩ id (some value))
      | .spread dots e => do
        let span := dots.through e.span
        unless ps.isEmpty do emit span.lo .restNotLast
        noteTrailingComma start
        let inner ← match role.element, e with
          | .bindingElement, .ident id => pure (Pat.ident id none)
          | .bindingElement, _ => do
            emit span.lo .dotsWithoutName
            pure Pat.hole
          | r, e => toPattern r e
        if let .default .. := inner then emit span.lo .restInit
        pure (Pat.rest span dots inner none)
      | p => stopAt p.span.lo .notPattern
    let qs ← propsToPattern role start ps
    return q :: qs

def elemsToPattern (role : Role) (start : Nat) : List Expr → Parse (List Pat)
  | [] => return []
  | .hole :: es => do
    let ps ← elemsToPattern role start es
    return .hole :: ps
  | .spread dots e :: es => do
    if es.isEmpty then
      noteTrailingComma start
      let p ← toPattern role.element e
      if let .default .. := p then emit e.span.lo .restInit
      return [.rest (dots.through e.span) dots p none]
    else
      emit e.span.lo .restNotLast
      elemsToPattern role start es
  | e :: es => do
    let p ← toPattern role.element e
    let ps ← elemsToPattern role start es
    return p :: ps

end

inductive ParenItem where
  | expr (e : Expr)
  | pat (p : Pat)

mutual

def checkStrictNames : Pat → Parse Unit
  | .ident id _ => do
    if isEvalOrArguments id.name then emitStrict id.span.lo .evalOrArguments
  | .array _ es _ _ => checkStrictNamesIn es
  | .object _ ps _ _ => checkStrictNamesIn ps
  | .keyed _ p => checkStrictNames p
  | .rest _ _ p _ => checkStrictNames p
  | .default _ p _ => checkStrictNames p
  | .shorthand _ id _ => do
    if isEvalOrArguments id.name then emitStrict id.span.lo .evalOrArguments
  | _ => pure ()

def checkStrictNamesIn : List Pat → Parse Unit
  | [] => pure ()
  | p :: ps => do
    checkStrictNames p
    checkStrictNamesIn ps

end

def itemsToParams (comma : Option Nat) : List ParenItem → Parse (List Pat)
  | [] => return []
  | [.expr (.spread dots e)] => do
    if let .assign .. := e then emit dots.lo .restInit
    if let some pos := comma then emit pos .commaAfterRest
    let p ← toPattern .binding e
    return [.rest (dots.through e.span) dots p none]
  | [.expr e] => return [← toPattern .binding e]
  | [.pat p] => do
    if let .rest .. := p then
      if let some pos := comma then emit pos .commaAfterRest
    return [p]
  | i :: is => do
    let first ← match i with
      | .expr (.spread dots _) => do
        emit dots.lo .restParamLast
        pure []
      | .pat (.rest s ..) => do
        emit s.lo .restParamLast
        pure []
      | .expr e => do pure [← toPattern .binding e]
      | .pat p => pure [p]
    let rest ← itemsToParams comma is
    return first ++ rest

def parenParams (items : List ParenItem) (comma : Option Nat) : Parse (List Pat) := do
  let ps ← itemsToParams comma items
  if (← Parse.ctx).strict then ps.forM checkStrictNames
  return ps

def areSimple (ps : List Pat) : Bool :=
  ps.all fun
    | .ident .. => true
    | _ => false

end Unbundled.Script.Read
