import Unbundled.Script.Read.Expression

namespace Unbundled.Script.Read

open Parse (withCtx)

def jsxIdent : Parse Ident := do
  match ← need with
  | .jsxName n => bump; return { name := n, span := ← prevSpan }
  | _ =>
    if (← Parse.ctx).inForcedJsx then identRef
    else unexpected "jsx identifier"

def Ident.toWord (id : Ident) : Word := ⟨id.name, id.span⟩

def jsxAttrName : Parse JsxName := do
  let start ← curPos
  let id ← jsxIdent
  if ← eat .colon then
    let n ← jsxIdent
    return .namespaced (← spanFrom start) (Ident.toWord id) (Ident.toWord n)
  else return .ident id

def jsxElementName : Parse JsxName := do
  let start ← curPos
  let first ← jsxAttrName
  Parse.loop first fun n => do
    if ← eat .dot then
      let prop ← jsxIdent
      return .inl (.member (← spanFrom start) n (Ident.toWord prop))
    else return .inr n

/-- A braced expression. A spread loses its dots unless it is a child. -/
def jsxBraces (g : Grammar) (isChild : Bool) : Parse Expr := do
  let start ← curPos
  bump
  if ← eat .rbrace then return .jsxBraced (← spanFrom start) none
  if ← eat .dots then
    let dots ← prevSpan
    let e ← g.expr
    expect .rbrace
    return .jsxBraced (← spanFrom start) (some (if isChild then .spread dots e else e))
  let e ← g.expr
  expect .rbrace
  return .jsxBraced (← spanFrom start) (some e)

def jsxAttrValue (g : Grammar) : Parse Expr := do
  let start ← curPos
  match ← need with
  | .punct .lbrace =>
    let e ← jsxBraces g false
    if let .jsxBraced _ none := e then emit start .emptyJsxAttr
    return e
  | .str .. => literal
  | .jsxTagStart => g.jsx
  | _ => stop .jsxValue

def jsxAttr (g : Grammar) : Parse Property := do
  let start ← curPos
  if ← eat .lbrace then
    let dotsStart ← curPos
    expect .dots
    let dots ← spanFrom dotsStart
    let e ← g.assign
    expect .rbrace
    return .spread dots e
  let n ← jsxAttrName
  let value ← if ← eat assignSign then do pure (some (← jsxAttrValue g)) else pure none
  return .attr (← spanFrom start) n value

def eatTagEnd : Parse Bool := do
  match ← curToken with
  | some .jsxTagEnd => bump; return true
  | _ => return false

def JsxName.qualified : JsxName → String
  | .ident id => id.name
  | .namespaced _ ns n => ns.name ++ ":" ++ n.name
  | .member _ obj prop => JsxName.qualified obj ++ "." ++ prop.name

structure JsxOpening where
  span : Span
  name : Option JsxName
  typeArgs : List Ty
  attrs : List Property
  selfClosing : Bool

def jsxOpening (g : Grammar) (start : Nat) : Parse JsxOpening := do
  if ← eatTagEnd then return ⟨← spanFrom start, none, [], [], false⟩
  let n ← withCtx (fun c => { c with wholeAngles := false }) jsxElementName
  let tys ← do
    if ← typescript <&&> is lt then
      pure ((← attempt (do return some (← typeArgs g))).getD [])
    else pure []
  let attrs ← Parse.collect do
    match ← curToken with
    | none | some (.punct (.op .div)) | some .jsxTagEnd => return none
    | some _ => return some (← jsxAttr g)
  let selfClosing ← eat (.op .div)
  unless ← eatTagEnd do
    unless ← pure (← Parse.ctx).inForcedJsx <&&> eat gt do
      unexpected "> (jsx closing tag)"
  return ⟨← spanFrom start, some n, tys, attrs, selfClosing⟩

def jsxClosing : Parse (Option JsxName) := do
  if ← eatTagEnd then return none
  let n ← jsxElementName
  unless ← eatTagEnd do failExpected "> (jsx tag end)"
  return some n

def jsxContent (g : Grammar) : Parse (List Expr × Nat × Option JsxName) :=
  Parse.loop ([] : List Expr) fun acc => do
    match ← need with
    | .jsxTagStart =>
      let start ← curPos
      if ← peekIs (.op .div) then
        bump
        let _ ← need
        bump
        return .inr (acc.reverse, start, ← jsxClosing)
      return .inl ((← g.jsx) :: acc)
    | .jsxText v r => bump; return .inl (.jsxText (← prevSpan) v r :: acc)
    | .punct .lbrace => return .inl ((← jsxBraces g true) :: acc)
    | _ => unexpected "< (jsx tag start), jsx text or \x7b"

def jsxElement (g : Grammar) : Parse Expr :=
  withCtx (fun c => { c with inConditional := false, colonFollows := false }) do
    let start ← curPos
    let forced ← is lt
    bump
    withCtx (fun c => { c with inForcedJsx := forced, wholeAngles := false }) do
      let o ← jsxOpening g start
      if o.selfClosing then
        return .jsx (← spanFrom start) o.span o.name o.typeArgs o.attrs none []
      let (children, closeStart, closeName) ← jsxContent g
      let closeSpan ← spanFrom closeStart
      match o.name, closeName with
      | none, none => pure ()
      | none, some _ => stopAt closeStart .jsxFragmentEnd
      | some n, c =>
        unless c.map JsxName.qualified == some (JsxName.qualified n) do
          stopAt closeStart (.jsxEnd (JsxName.qualified n))
      return .jsx (← spanFrom start) o.span o.name o.typeArgs o.attrs (some closeSpan) children

end Unbundled.Script.Read
