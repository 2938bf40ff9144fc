import Unbundled.Script.Read.Goal

namespace Unbundled.Script.Read

def name : Parse Word := do
  let start ← curPos
  match ← need with
  | .keyword w | .ident w => bump; return ⟨w, ← spanFrom start⟩
  | .jsxName w =>
    if (← Parse.ctx).inType then
      bump
      return ⟨w, ← spanFrom start⟩
    else stop .ident
  | _ => stop .ident

def Word.toIdent (w : Word) : Ident := { name := w.name, span := w.span }

def nameIdent : Parse Ident := return Word.toIdent (← name)

def privateName : Parse Word := do
  let start ← curPos
  bump
  let hash := (← prevSpan).hi
  if (← curPos) > hash then stopAt start .hashSpace
  let w ← name
  return ⟨w.name, ← spanFrom start⟩

def isStrictWord (w : String) : Bool :=
  ["static", "implements", "interface", "package", "private", "protected", "public"].contains w

/-- An identifier. Words that strict code reserves are noted; those that cannot be
identifiers at all stop the reading. -/
def ident (allowYield allowAwait : Bool) : Parse Ident := do
  let start ← curPos
  match ← need with
  | .keyword w =>
    bump
    let pos := (← prevSpan).lo
    if w == "yield" || w == "let" then emitStrict pos (.strictIdent w)
    let accepted ← match w with
      | "await" => do
        let c ← Parse.ctx
        if c.inDeclare then pure true
        else if c.inStaticBlock then stopAt pos .ident
        else stopAt pos .asyncIdent
      | "this" => typescript
      | "let" => pure true
      | "yield" => pure allowYield
      | _ => pure false
    let _ := allowAwait
    unless accepted do stopAt pos .ident
    return { name := w, span := ← spanFrom start }
  | .ident w =>
    bump
    let pos := (← prevSpan).lo
    if w == "enum" then emit pos (.strictIdent w)
    else if isStrictWord w then emitStrict pos (.strictIdent w)
    if w == "arguments" && (← Parse.ctx).inClassField then emit pos .argumentsInField
    return { name := w, span := ← spanFrom start }
  | _ => stop .ident

def identRef : Parse Ident := do
  let c ← Parse.ctx
  ident (!c.inGenerator) (!c.inAsync)

def isEvalOrArguments (n : String) : Bool := n == "eval" || n == "arguments"

def bindingIdent (noLet : Bool) : Parse Ident := do
  if noLet then
    if let some (.keyword "let") ← curToken then
      unexpected "let is reserved in const, let, class declaration"
  let id ← ident true true
  if isEvalOrArguments id.name then emitStrict id.span.lo .evalOrArguments
  let c ← Parse.ctx
  if (c.inAsync || c.inStaticBlock) && id.name == "await" then emit id.span.lo .ident
  if c.inGenerator && id.name == "yield" then emit id.span.lo .ident
  return id

def optBindingIdent (noLet : Bool) : Parse (Option Ident) := do
  if (← isIdent) || ((← typescript) && (← isWord "this")) then
    return some (← bindingIdent noLet)
  else return none

def exportName : Parse ExportName := do
  match ← curToken with
  | some (.str v r) =>
    bump
    return .str ⟨v, some r, ← prevSpan⟩
  | some (.keyword _) | some (.ident _) => return .ident (← nameIdent)
  | _ => unexpected "identifier or string"

/-- Whether the next token may stand behind a modifier; consumes the modifier. -/
def modifierFollowed : Parse (Option Unit) := do
  bump
  if ← lineBreakBefore then return none
  match ← curToken with
  | some (.punct .lbracket) | some (.punct .lbrace) | some (.punct (.op .mul))
  | some (.punct .dots) | some (.punct .hash) | some (.keyword _) | some (.ident _)
  | some (.str ..) | some (.num ..) | some (.bigint _) => return some ()
  | _ => return none

/-- One of the given modifiers, if something follows that it can modify. -/
def modifier? (allowed : List String) (stopAtStaticBlock : Bool) : Parse (Option String) := do
  unless ← typescript do return none
  let word : Option String :=
    match ← need with
    | .ident w => some w
    | .keyword w => if w == "in" || w == "const" then some w else none
    | _ => none
  match word with
  | none => return none
  | some w =>
    unless allowed.contains w do return none
    if stopAtStaticBlock && w == "static" && (← peekIs .lbrace) then return none
    match ← attempt modifierFollowed with
    | some () => return some w
    | none => return none

def access? : Parse (Option Access) := do
  match ← modifier? ["public", "protected", "private"] false with
  | some "public" => return some .open
  | some "protected" => return some .inherited
  | some _ => return some .hidden
  | none => return none

def eatParamModifier : Parse Bool := do
  unless ← typescript do return false
  match ← curToken with
  | some (.ident w) =>
    if ["public", "protected", "private", "readonly"].contains w then
      if (← peekIsName) || (← peekIs .lbrace) || (← peekIs .lbracket) then
        let _ ← modifier? ["public", "protected", "private", "readonly"] false
        return true
      else return false
    else return false
  | _ => return false

def literal : Parse Expr := do
  let start ← curPos
  let t ← need
  bump
  let span ← spanFrom start
  match t with
  | .keyword "null" => return .null span
  | .keyword "true" => return .bool span true
  | .keyword "false" => return .bool span false
  | .str v r => return .str ⟨v, some r, span⟩
  | .num v r => return .num span v (some r)
  | .bigint r => return .bigint span r
  | _ => return .hole

/-- The name of a property. Inside of its brackets a JSX element cannot start. -/
def propertyKey (g : Grammar) : Parse Key :=
  Parse.withCtx (fun c => { c with inPropertyName := true }) do
    let start ← curPos
    match ← need with
    | .str v r => bump; return .str ⟨v, some r, ← spanFrom start⟩
    | .num v r => bump; return .num (← spanFrom start) v (some r)
    | .bigint r => bump; return .bigint (← spanFrom start) r
    | .keyword w | .ident w => bump; return .word ⟨w, ← spanFrom start⟩
    | .punct .lbracket =>
      bump
      let inner ← curPos
      let e ← withIn true g.assign
      let e ← if (← typescript) && (← is .comma) then do
          let rest ← Parse.collect do
            if ← eat .comma then return some (← withIn true g.assign) else return none
          emit inner .commaInComputed
          pure (Expr.seq (← spanFrom inner) (e :: rest))
        else pure e
      expect .rbracket
      return .computed (← spanFrom start) e
    | _ => unexpected "identifier, string literal, numeric literal or [ for the computed key"

end Unbundled.Script.Read
