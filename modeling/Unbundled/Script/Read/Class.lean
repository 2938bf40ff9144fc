import Unbundled.Script.Read.Expression

namespace Unbundled.Script.Read

open Parse (withCtx)

/-! ### Decorators -/

def decorator (g : Grammar) : Parse Expr := do
  let start ← curPos
  bump
  let e ← do
    if ← eat .lparen then
      let e ← g.expr
      expect .rparen
      pure e
    else
      let id ← ident false false
      subscripts g id.span.lo false true (.ident id)
  let _ := start
  let tys ← if ← typescript <&&> is lt then typeArgs g else pure []
  if ← pure tys.isEmpty <&&> (do return !(← is .lparen)) then return e
  let es ← args g false
  return .call (← spanFrom e.span.lo) e tys es

def decorators (g : Grammar) (allowExport : Bool) : Parse (List Expr) := do
  let start ← curPos
  let ds ← Parse.collect do
    if ← is .at then return some (← decorator g) else return none
  if ds.isEmpty then return []
  if ← isWord "export" then
    let c ← Parse.ctx
    if !c.inClass && !c.inFunction then
      unless allowExport do stop .exportPlace
      unless ← typescript do stopAt start .decoratorOnExport
  return ds

/-! ### Members -/

structure MemberHead where
  start : Nat
  decorators : List Expr
  mods : Modifiers
  declareSpan : Option Span
  staticSpan : Option Span
  accessor : Bool

def isMethodAhead : Parse Bool := do
  if ← is .lparen then return true
  if ← typescript then return (← is lt) || (← isTagStart) else return false

def isFieldAhead (newline : Bool) : Parse Bool := do
  if ← typescript <&&> (do return (← is .bang) || (← is .colon)) then return true
  if (← is assignSign) || (← is .rbrace) then return true
  if newline then isSemi else is .semi

def memberName (g : Grammar) : Parse Key := do
  if ← is .hash then
    let w ← privateName
    if w.name == "constructor" then emit w.span.lo .privateConstructor
    return .priv w
  else propertyKey g

def isConstructorKey : Key → Bool
  | .word w => w.name == "constructor"
  | .str lit => lit.value == "constructor"
  | _ => false

def isPrivate : Key → Bool
  | .priv _ => true
  | _ => false

def fieldMember (g : Grammar) (h : MemberHead) (key : Key) : Parse Member := do
  if isConstructorKey key then stopAt key.span.lo .fieldNamedConstructor
  if isPrivate key then
    if h.mods.isDeclare then emit key.span.lo (.privateModifier "declare")
    if h.mods.isAbstract then emit key.span.lo (.privateModifier "abstract")
  let definite ← pure !h.mods.isOptional <&&> typescript <&&> eat .bang
  let ann ← typeAnn? g
  withCtx (fun c => { c with includeIn := true, inClassField := true }) do
    let value ← if ← eat assignSign then do pure (some (← g.assign)) else pure none
    unless ← eatSemi do emit (← curSpan).lo .semicolon
    let mods := { h.mods with isDefinite := definite }
    let span ← spanFrom h.start
    unless h.accessor do
      if isPrivate key then
        if mods.access.isSome then emit h.start .accessOnPrivate
      else if mods.isAbstract && value.isSome then emit h.start .abstractInit
    return .field span mods h.accessor h.decorators key ann value

def methodMember (g : Grammar) (h : MemberHead) (key : Key) (kind : MethodKind)
    (rule : ParamRule) (async generator : Bool) : Parse Member := do
  let fn ← methodOf g h.decorators h.start rule async generator
  let span ← spanFrom h.start
  if isPrivate key then
    if h.mods.access.isSome then emit h.start .accessOnPrivate
  else if h.mods.isAbstract && fn.body.isSome then emit h.start .abstractBody
  return .method span h.mods kind key fn

def optionalMark : Parse Bool := do
  typescript <&&> eat .question

/-- A member whose name is the word that has just been read as a modifier, if it is one. -/
def memberNamed? (g : Grammar) (h : MemberHead) (w : String) (newline : Bool) :
    Parse (Option Member) := do
  let key := Key.word ⟨w, ← prevSpan⟩
  if ← isMethodAhead then
    return some (← methodMember g h key .method .any false false)
  if (← isFieldAhead newline) || (← typescript <&&> is .question) then
    let optional ← optionalMark
    if ← pure optional <&&> isMethodAhead then
      return some (← methodMember g { h with mods := { h.mods with isOptional := true } } key
        .method .any false false)
    return some (← fieldMember g { h with mods := { h.mods with isOptional := optional } } key)
  return none

def staticBlock (g : Grammar) (start : Nat) : Parse Member := do
  let b ← withCtx (fun c => { c with
    inStaticBlock := true, inClassField := true, allowSuperCall := true, allowUsing := true })
    (g.block false)
  return .staticBlock (← spanFrom start) b

/-- Type parameters of a constructor, which has none. -/
def constructorTypeParams (g : Grammar) : Parse Unit := do
  if ← typescript <&&> is lt then
    let start ← curPos
    if ← peekIs gt then
      bump
      let close ← curPos
      bump
      emit start .emptyTypeParams
      emit close .constructorTypeParams
    else
      for t in ← tyParams g false true do emit t.span.lo .constructorTypeParams

def constructorMember (g : Grammar) (h : MemberHead) (key : Key) (modifierSpan : Option Span) :
    Parse Member := do
  let typed ← typescript
  if typed && h.mods.isOverride then emit h.start (.constructorModifier "override")
  constructorTypeParams g
  expect .lparen
  let ps ← paramList g true
  expect .rparen
  if ← pure typed <&&> is .colon then
    let t ← typeAnn g
    emit t.span.lo .constructorTyped
  let body ← functionBody g false false (areSimple (ps.map (·.pat)))
  if body.isNone then
    for p in ps do
      if p.access.isSome || p.isReadonly || p.isOverride then emit p.span.lo .paramPropertyPlace
    for p in ps do
      if let .default s .. := p.pat then emit s.lo .paramInit
  if let some s := h.staticSpan then emit s.lo (.constructorModifier "static")
  if h.mods.isAbstract then
    if let some s := modifierSpan then emit s.lo .abstractModifier
  return .ctor (← spanFrom h.start) h.mods key ps body

def memberModifiers (mods : Modifiers) :
    Parse (Modifiers × Option Span × Option Span) :=
  Parse.loop (mods, none, none) fun (mods, last, readonly) => do
    match ← modifier? ["abstract", "readonly", "override", "static"] true with
    | none => return .inr (mods, last, readonly)
    | some w =>
      let s ← prevSpan
      match w with
      | "abstract" =>
        if mods.isAbstract then emit s.lo (.modifierTwice w)
        else if mods.isOverride then emit s.lo (.modifierOrder w "override")
        return .inl ({ mods with isAbstract := true }, some s, readonly)
      | "override" =>
        if mods.isOverride then emit s.lo (.modifierTwice w)
        else if readonly.isSome then emit s.lo (.modifierOrder w "readonly")
        else if mods.isDeclare then emit s.lo (.modifierClash w "declare")
        else if !(← Parse.ctx).hasSuperClass then emit s.lo .overrideMember
        return .inl ({ mods with isOverride := true }, some s, readonly)
      | "readonly" =>
        if readonly.isSome then
          emit s.lo (.modifierTwice w)
          return .inl (mods, some s, readonly)
        else return .inl ({ mods with isReadonly := true }, some s, some s)
      | _ =>
        if mods.isOverride then emit s.lo (.modifierOrder w "override")
        return .inl ({ mods with isStatic := true }, some s, readonly)

def keyedMember (g : Grammar) (h : MemberHead) (modifierSpan readonly : Option Span) :
    Parse Member := do
  let key ← match readonly with
    | some s => do
      if (← is .bang) || (← is .colon) then pure (Key.word ⟨"readonly", s⟩) else memberName g
    | none => memberName g
  let optional ← optionalMark
  let h := { h with mods := { h.mods with isOptional := optional } }
  if ← isMethodAhead then
    if let some s := h.declareSpan then emit s.lo .declareMember
    if readonly.isSome then stopAt h.start .readonlyMethod
    if isConstructorKey key && !h.mods.isStatic then
      return ← constructorMember g h key modifierSpan
    return ← methodMember g h key .method .any false false
  let generatorOnNextLine ← lineBreakBefore <&&> is star
  let isField ← isFieldAhead false
  let prefixWord : Option Word := match key with
    | .word w => some w
    | _ => none
  let accessor := prefixWord.filter fun w =>
    (w.name == "get" || w.name == "set") && !isField && !generatorOnNextLine
  if ← pure accessor.isNone <&&> isFieldAhead true then return ← fieldMember g h key
  if (prefixWord.map (·.name)) == some "async" && !(← lineBreakBefore) then
    let h ← if (← modifier? ["override"] false).isSome then do
        emit (← prevSpan).lo (.modifierOrder "override" "async")
        pure { h with mods := { h.mods with isOverride := true } }
      else pure h
    let generator ← eat star
    let key ← memberName g
    if isConstructorKey key then stopAt key.span.lo .asyncConstructor
    if readonly.isSome then emit h.start .readonlyMethod
    let optional ← pure optional <||> optionalMark
    let h := { h with mods := { h.mods with isOptional := optional } }
    return ← methodMember g h key .method .any true generator
  match accessor with
  | some w =>
    let key ← memberName g
    if readonly.isSome then emit w.span.lo .readonlyAccessor
    if isConstructorKey key then emit w.span.lo .constructorAccessor
    if w.name == "get" then methodMember g h key .getter (.getter w.span.lo) false false
    else methodMember g h key .setter (.setter w.span.lo) false false
  | none => unexpected "* for generator, private key, identifier or async"

def modifiedMember (g : Grammar) (h : MemberHead) : Parse Member := do
  let (mods, modifierSpan, readonly) ← memberModifiers h.mods
  let h := { h with mods }
  let accessor ← pure h.accessor <||> (typescript <&&> eatWord "accessor")
  let h := { h with accessor }
  if ← pure mods.isStatic <&&> is .lbrace then
    if let some s := h.declareSpan then emit s.lo .modifierPlace
    if mods.access.isSome then emit (← curSpan).lo .modifierPlace
    return ← staticBlock g h.start
  if ← isWord "static" <&&> peekIs .lbrace then
    if let some s := h.declareSpan then emit s.lo .modifierPlace
    if mods.access.isSome then emit (← curSpan).lo .modifierPlace
    if let some s := h.staticSpan then emit s.lo .modifierPlace
    bump
    return ← staticBlock g h.start
  if ← pure (!mods.isAbstract && !mods.isOverride && mods.access.isNone) <&&> typescript then
    if let some m := ← indexSignature? g h.start readonly.isSome mods.isStatic then return m
  if ← eat star then
    let key ← memberName g
    if readonly.isSome then emit h.start .readonlyMethod
    if isConstructorKey key then emit h.start .generatorConstructor
    return ← methodMember g h key .method .any false true
  keyedMember g h modifierSpan readonly

def classMember (g : Grammar) : Parse Member := do
  let start ← curPos
  let ds ← g.decorators false
  let typed ← typescript
  let declares ← pure typed <&&> eatWord "declare"
  let access ← access?
  let declares ← pure declares <||> (pure typed <&&> eatWord "declare")
  let h : MemberHead := ⟨start, ds, { access }, none, none, false⟩
  if declares then
    if let some m := ← memberNamed? g h "declare" true then return m
  let declareSpan ← if declares then do pure (some (← prevSpan)) else pure none
  let h := { h with mods := { h.mods with isDeclare := declares }, declareSpan }
  let isStatic ← eatWord "static"
  let staticSpan ← if isStatic then do pure (some (← prevSpan)) else pure none
  if isStatic then
    unless ← is .lbrace do
      if let some m := ← memberNamed? g h "static" false then return m
  let h := { h with mods := { h.mods with isStatic }, staticSpan }
  let accessor ← eatWord "accessor"
  if accessor then
    if let some m := ← memberNamed? g h "accessor" true then return m
  modifiedMember g { h with accessor }

def classMembers (g : Grammar) : Parse (List Member) :=
  Parse.loop (([], false) : List Member × Bool) fun (acc, constructed) => do
    if (← atEnd) || (← is .rbrace) then return .inr acc.reverse
    if ← eat .semi then return .inl (.empty (← prevSpan) :: acc, constructed)
    let m ← withCtx (fun c => { c with allowSuperCall := true }) (classMember g)
    let constructs := match m with
      | .ctor _ _ _ _ (some _) => true
      | _ => false
    if constructs && !(← Parse.ctx).inDeclare then
      if constructed then emit m.span.lo .duplicateConstructor
      return .inl (m :: acc, true)
    return .inl (m :: acc, constructed)

/-! ### Classes -/

def parentClass (g : Grammar) : Parse (Expr × List Ty) := do
  match ← g.leftHandSide with
  | .instantiation _ e tys => return (e, tys)
  | e =>
    if ← typescript <&&> is lt then return (e, ← typeArgs g) else return (e, [])

def heritage (g : Grammar) : Parse Ty := do
  let start ← curPos
  let id ← nameIdent
  match ← subscripts g id.span.lo true true (.ident id) with
  | .instantiation s e tys => return .heritage s e tys
  | e =>
    let tys ← if ← is lt then inType (typeArgs g) else pure []
    return .heritage (← spanFrom start) e tys

def heritages (g : Grammar) : Parse (List Ty) :=
  Parse.loop ([] : List Ty) fun acc => do
    let ended := do
      return (← is .lbrace) || (← isWord "implements") || (← isWord "extends")
    if ← ended then return .inr acc.reverse
    let h ← heritage g
    if ← eat .comma then return .inl (h :: acc)
    if ← ended then return .inr (h :: acc).reverse
    expect .comma
    return .inl (h :: acc)

def reservedTypeNames : List String :=
  ["any", "unknown", "never", "number", "bigint", "boolean", "string", "symbol", "void",
   "object", "null", "undefined"]

/-- `extends` and `implements`, which may each stand once and in this order. -/
def classHeritage (g : Grammar) : Parse (Option Expr × List Ty × List Ty) := do
  let typed ← typescript
  let (parent, parentArgs) ← do
    if ← eatWord "extends" then
      let (e, tys) ← parentClass g
      if ← pure typed <&&> is .comma then
        bump
        emit (← curPos) .extendsMany
        Parse.loop () fun _ => do
          let _ ← parentClass g
          if ← eat .comma then return .inl () else return .inr ()
      pure (some e, tys)
    else pure (none, [])
  if ← eatWord "extends" then
    emit (← prevSpan).lo .extendsTwice
    let _ ← parentClass g
  let interfaces ← if ← pure typed <&&> eatWord "implements" then heritages g else pure []
  if ← pure typed <&&> eatWord "implements" then
    emit (← prevSpan).lo .implementsTwice
    let _ ← heritages g
  if ← pure typed <&&> eatWord "extends" then
    emit (← prevSpan).lo .extendsAfterImplements
    let (e, tys) ← parentClass g
    if parent.isNone then return (some e, tys, interfaces)
  return (parent, parentArgs, interfaces)

def classTail (g : Grammar) (start : Nat) (ds : List Expr) (isAbstract named : Bool) :
    Parse (Option Ident × Class) := do
  let typed ← typescript
  let (id, c) ← withCtx (fun c => { c with strict := true }) do
    expectWord "class"
    let id ← if named then do pure (some (← bindingIdent true)) else do
      if ← pure typed <&&> isWord "implements" then pure none else optBindingIdent true
    if typed then
      if let some i := id then
        if reservedTypeNames.contains i.name then emit i.span.lo .className
    let tps ← if typed then tyParams? g true true else pure []
    let (parent, parentArgs, interfaces) ← classHeritage g
    expect .lbrace
    let members ← withCtx (fun c => { c with inClass := true, hasSuperClass := parent.isSome })
      (classMembers g)
    if ← atEnd then
      let got ← describeCur
      emit (← curSpan).lo (.expected "\x7d" got)
    else expect .rbrace
    let cls : Class :=
      ⟨← spanFrom start, ds, isAbstract, tps, parent, parentArgs, interfaces, members⟩
    pure (id, cls)
  unless isAbstract do
    for m in c.members do
      match m with
      | .method s mods _ key _ | .field s mods false _ key .. =>
        if mods.isAbstract && !isPrivate key then emit s.lo .abstractMethod
      | _ => pure ()
  return (id, c)

def classExpr (g : Grammar) (start : Nat) (ds : List Expr) : Parse Expr := do
  let (id, c) ← classTail g start ds false false
  return .cls id c

def classDecl (g : Grammar) (start : Nat) (ds : List Expr) (isAbstract : Bool) : Parse Stmt := do
  let (id, c) ← classTail g start ds isAbstract true
  return .cls (id.getD default) false c

end Unbundled.Script.Read
