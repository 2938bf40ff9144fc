import Unbundled.Script.Read.Name

namespace Unbundled.Script.Read

open Parse (withCtx)

/-! ### Lists -/

/-- Elements parted by commas up to `close`, which stays; a comma may end the list. -/
def typeList {α : Type} (close : Punct) (elem : Parse α) : Parse (List α) :=
  Parse.loop ([] : List α) fun acc => do
    if ← is close then return .inr acc.reverse
    let a ← elem
    if ← eat .comma then return .inl (a :: acc)
    if ← is close then return .inr (a :: acc).reverse
    expect .comma
    return .inl (a :: acc)

/-- Reads as if no bracket were open around. -/
def outsideBrackets {α : Type} (p : Parse α) : Parse α := fun dialect s =>
  let saved := s.brackets
  match p dialect { s with brackets := (saved.getLast?.map fun b => [b]).getD [] } with
  | .ok a s => .ok a { s with brackets := saved }
  | .error e s => .error e { s with brackets := saved }

def typeArgs (g : Grammar) : Parse (List Ty) := do
  let tys ← inType do
    outsideBrackets do
      if ← is (.op .shiftLeft) then cutShift else expect lt
      typeList gt g.ty
  modify fun s => { s with exprAllowed := false }
  expect gt
  return tys

/-- Type arguments where `<` is no operator. -/
def typeArgsAsWhole (g : Grammar) : Parse (List Ty) :=
  withCtx (fun c => { c with wholeAngles := false }) (typeArgs g)

def typeAnn (g : Grammar) : Parse Ty := inType do
  bump
  g.ty

def typeAnn? (g : Grammar) : Parse (Option Ty) := do
  if ← is .colon then return some (← typeAnn g) else return none

def tyAfter? (g : Grammar) (found : Parse Bool) : Parse (Option Ty) := inType do
  if ← found then return some (← g.ty) else return none

/-! ### Names and parameters -/

def entityName (reserved : Bool) : Parse EntityName := do
  let first ← nameIdent
  if first.name == "void" then emit (← curPos) .semicolon
  Parse.loop (EntityName.ident first) fun left => do
    if ← eat .dot then
      let pos ← curPos
      unless (← is .hash) || (← isName) do
        emit pos .identifier
        return .inr left
      let right ← if reserved then name else do
        let id ← ident false false
        pure ⟨id.name, id.span⟩
      return .inl (.qualified (← spanFrom left.span.lo) left right)
    else return .inr left

def tyParamModifiers : List String :=
  ["public", "private", "protected", "readonly", "abstract", "const", "override", "in", "out"]

def tyParam (g : Grammar) (variance const : Bool) : Parse Ty := do
  let start ← curPos
  let (isIn, isOut, isConst) ← Parse.loop (false, false, false) fun (isIn, isOut, isConst) => do
    match ← modifier? tyParamModifiers false with
    | none => return .inr (isIn, isOut, isConst)
    | some "const" =>
      unless const do emit (← prevSpan).lo (.constModifier "const")
      return .inl (isIn, isOut, true)
    | some "in" =>
      if !variance then emit (← prevSpan).lo (.varianceModifier "in")
      else if isIn then emit (← prevSpan).lo (.modifierTwice "in")
      else if isOut then emit (← prevSpan).lo (.modifierOrder "in" "out")
      return .inl (true, isOut, isConst)
    | some "out" =>
      if !variance then emit (← prevSpan).lo (.varianceModifier "out")
      else if isOut then emit (← prevSpan).lo (.modifierTwice "out")
      return .inl (isIn, true, isConst)
    | some w =>
      emit (← prevSpan).lo (.typeParamModifier w)
      return .inl (isIn, isOut, isConst)
  let id ← inType nameIdent
  let constraint ← tyAfter? g (eatWord "extends")
  let default ← tyAfter? g (eat assignSign)
  return .param (← spanFrom start) id isIn isOut isConst constraint default

def tyParams (g : Grammar) (variance const : Bool) : Parse (List Ty) := inType do
  outsideBrackets do
    let isTag ← match ← curToken with
      | some .jsxTagStart => pure true
      | _ => is lt
    unless isTag do unexpected "< (jsx tag start)"
    bump
    let ps ← typeList gt (tyParam g variance const)
    expect gt
    return ps

def tyParams? (g : Grammar) (variance const : Bool) : Parse (List Ty) := do
  if ← is lt then tyParams g variance const else return []

def resultTy (g : Grammar) (sign : Punct) : Parse Ty := inType do
  expect sign
  let start ← curPos
  let asserts ← if ← isWord "asserts" then peekIsIdent else pure false
  if asserts then bump
  let isPredicate ← do
    if ← isIdent then
      if ← peekIsWord "is" then pure !(← lineBreakAfter) else pure false
    else pure false
  if !asserts && !isPredicate then return ← inType g.ty
  let subject ← nameIdent
  let ty ← if isPredicate then do bump; pure (some (← inType g.ty)) else pure none
  return .predicate (← spanFrom start) asserts (.name subject) ty

def result? (g : Grammar) : Parse (Option Ty) := do
  if ← is .colon then return some (← resultTy g .colon) else return none

def signatureParams (g : Grammar) : Parse (List Pat) := do
  let ps ← g.params
  for p in ps do
    match p.pat with
    | .ident .. | .array .. | .object .. | .rest .. => pure ()
    | _ => unexpected "an identifier, [ for an array pattern, \x7b for an object patter or ... for a rest pattern"
  expect .rparen
  return ps.map (·.pat)

/-! ### Members of object types -/

def memberEnd : Parse Unit := do
  unless ← eat .comma do expectSemi

/-- The name of a member; the flag tells whether it stands in brackets. -/
def memberKey (g : Grammar) : Parse (Bool × Expr) := do
  if ← eat .lbracket then
    let e ← g.assign
    expect .rbracket
    return (true, e)
  else
    withCtx (fun c => { c with inPropertyName := true }) do
      match ← need with
      | .num .. | .str .. => return (false, ← g.memberOrNew)
      | .punct .hash =>
        let w ← privateName
        emit w.span.lo .privateInInterface
        return (false, .privateName w)
      | _ => return (false, .ident (← nameIdent))

def indexSignatureAhead : Parse Bool := do
  unless ← is .lbracket do return false
  lookAhead do
    bump
    if ← isIdent then
      bump
      return (← is .colon) || (← is .comma)
    else return false

def indexSignature? (g : Grammar) (start : Nat) (isReadonly isStatic : Bool) :
    Parse (Option Member) := do
  unless ← indexSignatureAhead do return none
  expect .lbracket
  let idStart ← curPos
  let id ← nameIdent
  if ← eat .comma then emit id.span.lo .indexParams else expect .colon
  let ty ← inType g.ty
  let id := { id with span := ← spanFrom idStart }
  expect .rbracket
  let ann ← typeAnn? g
  memberEnd
  let mods : Modifiers := { isReadonly, isStatic }
  return some (.index (← spanFrom start) mods [.ident id (some ty)] ann)

def signature (g : Grammar) (construct : Bool) : Parse Member := do
  let start ← curPos
  if construct then expectWord "new"
  let tps ← tyParams? g false true
  expect .lparen
  let ps ← signatureParams g
  let ret ← result? g
  memberEnd
  let span ← spanFrom start
  return if construct then .constructSig span tps ps ret else .callSig span tps ps ret

def accessorSignature (g : Grammar) (isReadonly : Bool) : Parse (Option Member) := do
  let start ← curPos
  if isReadonly then stop .readonlyAccessor
  let isGetter ← eatWord "get"
  unless isGetter do expectWord "set"
  let (computed, key) ← memberKey g
  expect .lparen
  if isGetter then
    expect .rparen
    let ann ← typeAnn? g
    memberEnd
    return some (.getterSig (← spanFrom start) key computed ann)
  else
    match ← signatureParams g with
    | [] => stop .setterParams
    | p :: _ =>
      memberEnd
      return some (.setterSig (← spanFrom start) key computed p)

def propertyOrMethodSignature (g : Grammar) (start : Nat) (isReadonly : Bool) : Parse Member := do
  let (computed, key) ← memberKey g
  let optional ← eat .question
  if (← is .lparen) || (← is lt) then
    if isReadonly then stop .readonlyMethod
    let tps ← tyParams? g false true
    expect .lparen
    let ps ← signatureParams g
    let ret ← result? g
    memberEnd
    return .methodSig (← spanFrom start) key computed optional tps ps ret
  else
    let ann ← typeAnn? g
    memberEnd
    return .propertySig (← spanFrom start) isReadonly key computed optional ann

def constructSignatureAhead : Parse Bool := do
  unless ← isWord "new" do return false
  lookAhead do
    bump
    return (← is .lparen) || (← is lt)

def typeMember (g : Grammar) : Parse Member := do
  if (← is .lparen) || (← is lt) then return ← signature g false
  if ← constructSignatureAhead then return ← signature g true
  let start ← curPos
  let isReadonly := (← modifier? ["readonly"] false).isSome
  if let some m := ← indexSignature? g start isReadonly false then return m
  if let some m := ← attempt (accessorSignature g isReadonly) then return m
  propertyOrMethodSignature g start isReadonly

def typeMembers (g : Grammar) : Parse (List Member) := do
  expect .lbrace
  let ms ← Parse.collect do
    if ← is .rbrace then return none else return some (← typeMember g)
  expect .rbrace
  return ms

/-! ### Types by precedence -/

def templatePiece (tagged : Bool) : Parse (Quasi × Bool) := do
  let start ← curPos
  match ← need with
  | .template cooked raw =>
    bump
    let cooked ← match cooked with
      | .ok c => pure (some c)
      | .error e => if tagged then pure none else throw e
    let tail ← is .backquote
    return (⟨← spanFrom start, cooked, raw⟩, tail)
  | _ => unexpected "template token"

def templateParts {α : Type} (tagged : Bool) (hole : Parse α) : Parse (List Quasi × List α) := do
  let (q, tail) ← templatePiece tagged
  Parse.loop ([q], ([] : List α), tail) fun (qs, hs, tail) => do
    if tail then return .inr (qs.reverse, hs.reverse)
    expect .dollarBrace
    let h ← hole
    expect .rbrace
    let (q, tail) ← templatePiece tagged
    return .inl (q :: qs, h :: hs, tail)

def importTy (g : Grammar) : Parse Ty := do
  let start ← curPos
  bump
  expect .lparen
  let _ ← cur?
  let argSpan ← curSpan
  let arg : StringLit ← match ← need with
    | .str v r => do bump; pure ⟨v, some r, argSpan⟩
    | _ => do
      bump
      emit argSpan.lo .stringLiteral
      pure ⟨"", some "\"\"", argSpan⟩
  expect .rparen
  let qualifier ← if ← eat .dot then do pure (some (← entityName false)) else pure none
  let args ← if ← is lt then typeArgsAsWhole g else pure []
  return .import (← spanFrom start) arg qualifier args

def typeofTy (g : Grammar) : Parse Ty := do
  let start ← curPos
  expectWord "typeof"
  if ← isWord "import" then
    let arg ← importTy g
    let args ← if !(← lineBreakBefore) && (← is lt) then typeArgsAsWhole g else pure []
    return .typeofImport (← spanFrom start) arg args
  else
    let n ← entityName true
    let args ← if !(← lineBreakBefore) && (← is lt) then typeArgsAsWhole g else pure []
    return .typeof (← spanFrom start) n args

def referenceTy (g : Grammar) : Parse Ty := do
  let start ← curPos
  let modified ← eatParamModifier
  let n ← entityName true
  let args ← if !(← lineBreakBefore) && ((← is lt) || (← is (.op .shiftLeft)))
    then typeArgsAsWhole g else pure []
  if modified then emit start .paramPropertyPlace
  return .ref (← spanFrom start) n args

def keywordTy? : String → Option TyKeyword
  | "void" => some .void | "null" => some .null | "any" => some .any
  | "boolean" => some .boolean | "bigint" => some .bigint | "never" => some .never
  | "number" => some .number | "object" => some .object | "string" => some .string
  | "symbol" => some .symbol | "unknown" => some .unknown | "undefined" => some .undefined
  | "intrinsic" => some .intrinsic
  | _ => none

def thisPredicate (g : Grammar) (start : Nat) (asserts : Bool) (this : Ty) : Parse Ty := do
  let ty ← if ← eatWord "is" then do pure (some (← inType g.ty)) else pure none
  return .predicate (← spanFrom start) asserts this ty

def thisTy : Parse Ty := do
  expectWord "this"
  return .this (← prevSpan)

def mappedAhead : Parse Bool := lookAhead do
  bump
  if (← eat (.op .add)) || (← eat (.op .sub)) then return ← isWord "readonly"
  let _ ← eatWord "readonly"
  unless ← eat .lbracket do return false
  unless ← isIdent do return false
  bump
  isWord "in"

def sign? : Parse (Option Mapping) := do
  if ← eat (.op .add) then return some .plus
  else if ← eat (.op .sub) then return some .minus
  else return none

def mappedTy (g : Grammar) : Parse Ty := do
  let start ← curPos
  expect .lbrace
  let isReadonly ← match ← sign? with
    | some m => do expectWord "readonly"; pure (some m)
    | none => do if ← eatWord "readonly" then pure (some .present) else pure none
  expect .lbracket
  let paramStart ← curPos
  let id ← nameIdent
  let constraint ← inType do
    unless ← eatWord "in" do unexpected "in"
    g.ty
  let param := Ty.param (← spanFrom paramStart) id false false false (some constraint) none
  let nameTy ← if ← eatWord "as" then do pure (some (← g.ty)) else pure none
  expect .rbracket
  let optional ← match ← sign? with
    | some m => do expect .question; pure (some m)
    | none => do if ← eat .question then pure (some .present) else pure none
  let ty ← tyAfter? g (eat .colon)
  expectSemi
  expect .rbrace
  return .mapped (← spanFrom start) isReadonly param nameTy optional ty

def tupleLabel : Parse (Option Pat) := do
  let start ← curPos
  let rest ← eat .dots
  let dots ← prevSpan
  let id ← nameIdent
  let id ← if ← eat .question then do
      pure { id with optional := true, span := ⟨id.span.lo, (← prevSpan).hi⟩ }
    else pure id
  expect .colon
  return some (if rest then .rest ⟨start, id.span.hi⟩ dots (.ident id none) none else .ident id none)

def tupleElement (g : Grammar) : Parse Ty := do
  let start ← curPos
  let label ← attempt tupleLabel
  let ty ← do
    if ← eat .dots then
      let t ← g.ty
      pure (Ty.rest (← spanFrom start) t)
    else
      let t ← g.ty
      if ← eat .question then pure (Ty.optional (← spanFrom start) t) else pure t
  match label with
  | some l => return .labeled (← spanFrom start) l ty
  | none => return ty

/-- Whether an element that must be there follows one that need not. -/
def requiredAfterOptional : Bool → List Ty → Bool
  | _, [] => false
  | seen, t :: ts =>
    let t := match t with
      | .labeled _ _ t => t
      | t => t
    match t with
    | .rest .. => requiredAfterOptional seen ts
    | .optional .. => requiredAfterOptional true ts
    | _ => seen || requiredAfterOptional seen ts

def tupleTy (g : Grammar) : Parse Ty := do
  let start ← curPos
  expect .lbracket
  let elems ← typeList .rbracket (tupleElement g)
  expect .rbracket
  if requiredAfterOptional false elems then stopAt start .requiredAfterOptional
  return .tuple (← spanFrom start) elems

def negativeLiteral : Expr → Span → Expr
  | .num s v r, _ => .num s v.neg (r.map ("-" ++ ·))
  | .bigint s r, _ => .bigint s ("-" ++ r)
  | e, _ => e

def wantedType : String :=
  "an identifier, void, yield, null, await, break, a string literal, a numeric literal, true, " ++
    "false, `, -, import, this, typeof, \x7b, [, ("

def simpleTy (g : Grammar) : Parse Ty := do
  let start ← curPos
  let word (w : String) : Parse Ty := do
    if w == "asserts" && (← peekIsWord "this") then
      bump
      return ← thisPredicate g start true (← thisTy)
    let dotted ← peekIs .dot
    match keywordTy? w with
    | some k =>
      if dotted then referenceTy g
      else
        bump
        return .keyword (← spanFrom start) k
    | none => referenceTy g
  match ← need with
  | .ident w => word w
  | .keyword w =>
    if ["void", "yield", "null", "await", "break"].contains w then word w
    else if w == "true" || w == "false" then return .lit (← literal)
    else if w == "import" then importTy g
    else if w == "this" then
      let this ← thisTy
      if !(← lineBreakBefore) && (← isWord "is") then thisPredicate g start false this
      else return this
    else if w == "typeof" then typeofTy g
    else unexpected wantedType
  | .bigint _ | .str .. | .num .. => return .lit (← literal)
  | .punct .backquote =>
    bump
    let (qs, tys) ← templateParts false g.ty
    expect .backquote
    return .template (← spanFrom start) qs tys
  | .punct (.op .sub) =>
    bump
    match ← need with
    | .num .. | .bigint _ => return .lit (negativeLiteral (← literal) (← spanFrom start))
    | _ => unexpected "numeric literal or bigint literal"
  | .punct .lbrace =>
    if ← mappedAhead then mappedTy g
    else
      let ms ← typeMembers g
      return .object (← spanFrom start) ms
  | .punct .lbracket => tupleTy g
  | .punct .lparen =>
    bump
    let t ← g.ty
    expect .rparen
    return .paren (← spanFrom start) t
  | _ => unexpected wantedType

def arrayTy (g : Grammar) (isReadonly : Bool) : Parse Ty := do
  let t ← simpleTy g
  Parse.loop t fun t => do
    if !(← lineBreakBefore) && (← eat .lbracket) then
      if ← eat .rbracket then return .inl (.array (← spanFrom t.span.lo) t)
      else
        let i ← g.ty
        expect .rbracket
        return .inl (.indexed (← spanFrom t.span.lo) isReadonly t i)
    else return .inr t

def inferConstraint (g : Grammar) : Parse (Option Ty) := do
  expectWord "extends"
  let t ← g.plainTy
  if (← Parse.ctx).noConditionalTypes || !(← is .question) then return some t else return none

def operatorTy (g : Grammar) : Parse Ty := do
  let start ← curPos
  let op : Option TyOperator :=
    match Token.word? (← curToken) with
    | some "keyof" => some .keyof
    | some "unique" => some .unique
    | some "readonly" => some .readonly
    | _ => none
  match op with
  | some op =>
    bump
    let t ← g.operatorTy
    return .operator (← spanFrom start) op t
  | none =>
    if ← eatWord "infer" then
      let id ← nameIdent
      let constraint ← attempt (inferConstraint g)
      return .infer (← spanFrom start) (.param id.span id false false false constraint none)
    else
      let isReadonly := (← modifier? ["readonly"] false).isSome
      arrayTy g isReadonly

def joined (op : Punct) (make : Span → List Ty → Ty) (elem : Parse Ty) : Parse Ty := do
  let start ← curPos
  let _ ← eat op
  let t ← elem
  let rest ← Parse.collect do
    if ← eat op then return some (← elem) else return none
  if rest.isEmpty then return t else return make (← spanFrom start) (t :: rest)

def intersectionTy (g : Grammar) : Parse Ty := joined (.op .bitAnd) .inter (operatorTy g)

def unionTy (g : Grammar) : Parse Ty := joined (.op .bitOr) .union (intersectionTy g)

def skipParamStart (g : Grammar) : Parse Bool := do
  let _ ← eatParamModifier
  if ← isName then bump; return true
  if (← is .lbrace) || (← is .lbracket) then
    try
      let _ ← g.pattern false
      return true
    catch _ => return false
  return false

def functionTyAhead (g : Grammar) : Parse Bool := do
  if ← is lt then return true
  unless ← is .lparen do return false
  lookAhead do
    bump
    if (← is .rparen) || (← is .dots) then return true
    if ← skipParamStart g then
      if ← isAny [.colon, .comma, .question, assignSign] then return true
      if (← eat .rparen) && (← is .arrow) then return true
    return false

def functionTy (g : Grammar) (construct : Bool) : Parse Ty := do
  let start ← curPos
  let isAbstract ← if construct then eatWord "abstract" else pure false
  if construct then expectWord "new"
  let tps ← tyParams? g false true
  expect .lparen
  let ps ← signatureParams g
  let ret ← resultTy g .arrow
  let span ← spanFrom start
  return if construct then .ctor span isAbstract tps ps ret else .func span tps ps ret

def plainTy (g : Grammar) : Parse Ty := do
  if ← functionTyAhead g then return ← functionTy g false
  let construct ← if ← isWord "new" then pure true
    else if ← isWord "abstract" then peekIsWord "new" else pure false
  if construct then functionTy g true else unionTy g

def ty (g : Grammar) : Parse Ty := do
  let start ← curPos
  withCtx (fun c => { c with noConditionalTypes := false }) do
    let t ← plainTy g
    if ← lineBreakBefore then return t
    unless ← eatWord "extends" do return t
    let ext ← withCtx (fun c => { c with noConditionalTypes := true }) (plainTy g)
    expect .question
    let yes ← g.ty
    expect .colon
    let no ← g.ty
    return .cond (← spanFrom start) t ext yes no

end Unbundled.Script.Read
