import Unbundled.Script.Read.Function

namespace Unbundled.Script.Read

open Parse (withCtx)

/-- Reads outside of any conditional expression that waits for its colon. -/
def noColon {α : Type} (p : Parse α) : Parse α :=
  withCtx (fun c => { c with colonFollows := false }) p

def exprOrSpread (g : Grammar) : Parse Expr := do
  let start ← curPos
  if ← eat .dots then
    let dots ← spanFrom start
    return .spread dots (← withIn true g.assign)
  else g.assign

def args (g : Grammar) (isImport : Bool) : Parse (List Expr) := noColon do
  let start ← curPos
  expect .lparen
  let es ← Parse.loop ([] : List Expr) fun acc => do
    if (← atEnd) || (← is .rparen) then return .inr acc.reverse
    unless acc.isEmpty do
      expect .comma
      if ← is .rparen then
        if isImport then stopAt start .commaInImport
        return .inr acc.reverse
    return .inl ((← withIn true (exprOrSpread g)) :: acc)
  expect .rparen
  return es

def noteComma (start : Nat) : Parse Unit := do
  let pos := (← prevSpan).lo
  modify fun s => { s with trailingCommas := (start, pos) :: s.trailingCommas }

def arrayLiteral (g : Grammar) : Parse Expr := do
  let start ← curPos
  bump
  let es ← Parse.loop ([] : List Expr) fun acc => do
    if (← atEnd) || (← is .rbracket) then return .inr acc.reverse
    if ← eat .comma then return .inl (.hole :: acc)
    let e ← withIn true (exprOrSpread g)
    unless ← is .rbracket do
      expect .comma
      if ← is .rbracket then noteComma start
    return .inl (e :: acc)
  expect .rbracket
  return .array (← spanFrom start) es

def method (g : Grammar) (start : Nat) (kind : MethodKind) (key : Key) (rule : ParamRule)
    (async generator : Bool) : Parse Property := do
  return .method kind key (← methodOf g [] start rule async generator)

/-- A member of an object literal whose key starts with a word that is no keyword of its own:
`get`, `set` or `async` in front of another key. -/
def prefixedProperty (g : Grammar) (start : Nat) (w : Word) (modified : Option Span) :
    Parse Property := do
  if let some s := modified then emit s.lo .asyncModifier
  let generator ← if w.name == "async" then eat star else pure false
  let key ← propertyKey g
  let pos := key.span.lo
  match w.name with
  | "get" => method g start .getter key (.getter pos) false false
  | "set" => method g start .setter key (.setter pos) false false
  | _ => method g start .method key .any true generator

def wantedProperty (typed : Bool) : String :=
  if typed then
    "... , *,  (, [, :, , ?, =, an identifier, public, protected, private, readonly, <."
  else "... , *,  (, [, :, , ?, = or an identifier"

def property (g : Grammar) : Parse Property := do
  let start ← curPos
  if ← eat .dots then
    let dots ← spanFrom start
    return .spread dots (← withIn true g.assign)
  if ← eat star then
    let key ← propertyKey g
    return ← method g start .method key .any false true
  let modified ← eatParamModifier
  let modifierSpan ← prevSpan
  let key ← propertyKey g
  let typed ← typescript
  if ← eat .colon then return .keyed key (← withIn true g.assign)
  if (← pure typed <&&> is lt) || (← is .lparen) then
    return ← method g start .method key .any false false
  match key with
  | .word w =>
    if ← eat .question then emit (← prevSpan).lo .optionalObjectMember
    if ← isAny [assignSign, .comma, .rbrace] then
      if ← eat assignSign then
        let value ← withIn true g.assign
        return .shorthandInit (Word.toIdent w) value
      return .shorthand (Word.toIdent w)
    if ["get", "set", "async"].contains w.name then
      prefixedProperty g start w (if modified then some modifierSpan else none)
    else unexpected (wantedProperty typed)
  | _ => unexpected "identifier"

def objectLiteral (g : Grammar) : Parse Expr := do
  let start ← curPos
  let (props, comma) ← braced (property g)
  if let some pos := comma then
    modify fun s => { s with trailingCommas := (start, pos) :: s.trailingCommas }
  return .object (← spanFrom start) props

def template (g : Grammar) (tagged : Bool) : Parse Expr := do
  let start ← curPos
  bump
  let (qs, es) ← templateParts tagged (withIn true g.expr)
  expect .backquote
  return .template (← spanFrom start) qs es

def repeatedFlag? : List Char → Option Char
  | [] => none
  | c :: cs => if cs.contains c then some c else repeatedFlag? cs

def regex : Parse Expr := do
  let start ← curPos
  bump
  modify fun s => { s with regexAt := some start }
  match ← curToken with
  | some (.regex body flags) =>
    modify fun s => { s with regexAt := none }
    bump
    let span ← spanFrom start
    unless flags.toList.all fun f => "dgimsuvy".toList.contains f do emit start .unknownFlag
    if let some f := repeatedFlag? flags.toList then emit start (.duplicateFlag f)
    return .regex span body flags
  | _ => stop .expression

end Unbundled.Script.Read
