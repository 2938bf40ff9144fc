import Unbundled.Script.Read.Class

namespace Unbundled.Script.Read

open Parse (withCtx)

/-! ### Blocks -/

/-- Statements up to a closing brace, which is consumed. -/
def statementsIn (g : Grammar) (topLevel : Bool) : Parse (List Stmt) := do
  let ctx ← Parse.ctx
  let stmts ← Parse.loop ([] : List Stmt) fun acc => do
    if ← atEnd then
      emit (← curSpan).lo (.expected "\x7d" "<eof>")
      return .inr acc.reverse
    if ← is .rbrace then
      bump
      return .inr acc.reverse
    return .inl ((← g.stmt true topLevel) :: acc)
  modify fun s => { s with ctx }
  return stmts

def block (g : Grammar) : Parse Block := do
  let start ← curPos
  expect .lbrace
  let stmts ← statementsIn g false
  return ⟨← spanFrom start, stmts⟩

/-! ### Variables -/

def isPlainName : Pat → Bool
  | .ident .. => true
  | _ => false

def forHeadEnds : Parse Bool := do
  return (← isWord "in") || (← isWord "of")

def declarator (g : Grammar) (inFor : Bool) (kind : VarKind) : Parse Declarator := do
  let start ← curPos
  let p ← g.pattern (kind = .let || kind = .const)
  let typed ← typescript
  let definite ← pure (typed && isPlainName p) <&&> eat .bang
  let ann ← if typed then typeAnn? g else pure none
  let p := annotated p ann (← prevSpan).hi
  if ← pure inFor <&&> forHeadEnds then return ⟨← spanFrom start, p, definite, none⟩
  if ← eat assignSign then
    let e ← g.assign
    return ⟨← spanFrom start, p, definite, some e⟩
  let c ← Parse.ctx
  unless c.inDeclare do
    if kind = .const && c.strict then emit start .constInit
    else unless isPlainName p do stopAt start .patternInit
  return ⟨← spanFrom start, p, definite, none⟩

def varKind? (w : String) : VarKind :=
  match w with
  | "const" => .const
  | "let" => .let
  | _ => .var

/-- `in` or `of` where a name should stand. -/
def emptyForHead (g : Grammar) : Parse Bool := do
  unless ← forHeadEnds do return false
  try
    lookAhead do
      bump
      let _ ← g.assign
      expect .rparen
      return true
  catch _ => return false

def skipToSemi (g : Grammar) : Parse Unit := do
  emit (← curSpan).lo .semicolon
  try
    let _ ← g.expr
    pure ()
  catch _ => pure ()
  Parse.loop () fun _ => do
    if ← eatSemi then return .inr ()
    bump
    match ← curToken with
    | some (.fault _) => return .inr ()
    | _ => return .inl ()

def varStatement (g : Grammar) (inFor : Bool) : Parse Stmt := do
  let start ← curPos
  let kind := varKind? ((Token.word? (← curToken)).getD "")
  bump
  let keyword ← spanFrom start
  if ← pure inFor <&&> typescript <&&> emptyForHead g then
    emit keyword.hi .emptyDeclarations
    return .var keyword kind false []
  let decls ← Parse.loop ([] : List Declarator) fun acc => do
    if (← is .semi) || (← atEnd) then
      let s ← prevSpan
      emit (if s = keyword then s.hi else s.lo) .trailingComma
      return .inr acc.reverse
    let d ← withIn (kind != .var || !inFor) (declarator g inFor kind)
    if ← eat .comma then return .inl (d :: acc) else return .inr (d :: acc).reverse
  unless inFor do
    unless ← eatSemi do skipToSemi g
  return .var (← spanFrom start) kind false decls

def usingDecl? (g : Grammar) (start : Nat) (await : Bool) : Parse (Option Stmt) := do
  if ← lineBreakAfter then return none
  unless ← peekIsIdent do return none
  bump
  let decls ← Parse.loop ([] : List Declarator) fun acc => do
    if ← isSemi then
      emit (← prevSpan).lo .trailingComma
      return .inr acc.reverse
    let d ← declarator g false .var
    if ← eat .comma then return .inl (d :: acc) else return .inr (d :: acc).reverse
  unless ← typescript do emit start .usingDisabled
  unless (← Parse.ctx).allowUsing do emit start .usingPlace
  for d in decls do
    unless isPlainName d.pat do emit start .usingName
    if d.init.isNone then emit start .usingInit
  return some (.var (← spanFrom start) (if await then .awaitUsing else .using) false decls)

def followsLet : Option Token → Bool
  | some (.punct .lbrace) | some (.punct .lbracket) | some (.ident _) => true
  | some (.keyword w) => w == "let" || w == "yield" || w == "await"
  | _ => false

/-! ### Control flow -/

def inParens (g : Grammar) : Parse Expr := do
  expect .lparen
  let e ← withIn true g.expr
  expect .rparen
  return e

def nested (g : Grammar) : Parse Stmt :=
  withCtx (fun c => { c with allowUsing := false }) (g.stmt false false)

def loopBody (g : Grammar) : Parse Stmt :=
  withCtx (fun c => { c with breakAllowed := true, continueAllowed := true }) (nested g)

def ifStmt (g : Grammar) (start : Nat) : Parse Stmt := do
  bump
  let test ← inParens g
  let yes ← nested g
  let no ← if ← eatWord "else" then do pure (some (← nested g)) else pure none
  return .if (← spanFrom start) test yes no

def jump (start : Nat) (isBreak : Bool) : Parse Stmt := do
  bump
  let label ← if ← eatSemi then pure none else do
    let l ← identRef
    expectSemi
    pure (some l)
  let span ← spanFrom start
  let labels := (← get).labels
  let known := match label with
    | some l => labels.contains l.name
    | none => true
  let c ← Parse.ctx
  if isBreak then
    if !known then emit start .breakTarget
    else if !c.breakAllowed then emit start .breakPlace
    return .break span label
  else
    if !c.continueAllowed then emit start .continuePlace
    else if !known then emit start .jumpOutOfFunction
    return .continue span label

def returnStmt (g : Grammar) (start : Nat) : Parse Stmt := do
  bump
  let arg ← if ← isSemi then pure none else do pure (some (← withIn true g.expr))
  expectSemi
  let span ← spanFrom start
  unless (← Parse.ctx).inFunction do emit start .returnPlace
  return .ret span arg

def switchCase (g : Grammar) (seen : Bool) : Parse (Stmt × Bool) := do
  let start ← curPos
  let isCase ← isWord "case"
  bump
  let test ← if isCase then do pure (some (← withIn true g.expr)) else do
    if seen then stop .multipleDefaults
    pure none
  expect .colon
  let body ← Parse.collect do
    if (← atEnd) || (← isAnyWord ["case", "default"]) || (← is .rbrace) then return none
    return some (← g.stmt true false)
  return (.case ⟨start, (← prevSpan).hi⟩ test body, seen || !isCase)

def switchStmt (g : Grammar) (start : Nat) : Parse Stmt := do
  bump
  let subject ← inParens g
  expect .lbrace
  let cases ← withCtx (fun c => { c with breakAllowed := true }) do
    Parse.loop (([], false) : List Stmt × Bool) fun (acc, seen) => do
      unless ← isAnyWord ["case", "default"] do return .inr acc.reverse
      let (c, seen) ← switchCase g seen
      return .inl (c :: acc, seen)
  expect .rbrace
  return .switch (← spanFrom start) subject cases

def throwStmt (g : Grammar) (start : Nat) : Parse Stmt := do
  bump
  if ← lineBreakBefore then stop .lineBreakInThrow
  let e ← withIn true g.expr
  expectSemi
  return .throw (← spanFrom start) e

def catchParam (g : Grammar) : Parse Pat := do
  if ← eat .lparen then
    let p ← g.pattern false
    let ann ← if ← typescript then tyAfter? g (eat .colon) else pure none
    let p := annotated p ann p.span.hi
    expect .rparen
    return p
  else return .hole

def catchClause (g : Grammar) : Parse (Option (Span × Pat × Block)) := do
  let start ← curPos
  unless ← eatWord "catch" do return none
  let p ← catchParam g
  let b ← g.block false
  return some (← spanFrom start, p, b)

def finallyBlock (g : Grammar) : Parse (Option Block) := do
  if ← eatWord "finally" then return some (← g.block false) else return none

def tryStmt (g : Grammar) (start : Nat) : Parse Stmt := do
  bump
  let body ← g.block false
  let handlerStart ← curPos
  let handler ← catchClause g
  let final ← finallyBlock g
  if handler.isNone && final.isNone then emit handlerStart .semicolon
  let span ← spanFrom start
  match handler with
  | some (s, p, b) => return .try span body s p (some b) final
  | none => return .try span body .absent .hole none final

def strayHandler (g : Grammar) : Parse Stmt := do
  let span ← curSpan
  emit span.lo .semicolon
  try
    let _ ← catchClause g
    let _ ← finallyBlock g
    pure ()
  catch _ => pure ()
  return .expr span .hole

def withStmt (g : Grammar) (start : Nat) : Parse Stmt := do
  if ← typescript then emit start .withUnsupported
  emitStrict start .withInStrict
  bump
  let obj ← inParens g
  let body ← withCtx (fun c => { c with inFunction := true }) (nested g)
  return .with (← spanFrom start) obj body

def whileStmt (g : Grammar) (start : Nat) : Parse Stmt := do
  bump
  let test ← inParens g
  let body ← loopBody g
  return .while (← spanFrom start) test body

def doWhileStmt (g : Grammar) (start : Nat) : Parse Stmt := do
  bump
  let body ← loopBody g
  expectWord "while"
  let test ← inParens g
  let _ ← eatSemi
  return .doWhile (← spanFrom start) body test

/-! ### For loops -/

inductive ForHead where
  | count (init : Option Stmt) (test update : Option Expr)
  | each (isOf : Bool) (left : Stmt) (right : Expr)

def eachHead (g : Grammar) (left : Stmt) : Parse ForHead := do
  let isOf ← isWord "of"
  bump
  if isOf then return .each true left (← withIn true g.assign)
  else
    if let .var s kind _ _ := left then
      if kind = .using || kind = .awaitUsing then emit s.lo .usingInForIn
    return .each false left (← withIn true g.expr)

def countHead (g : Grammar) (init : Option Stmt) : Parse ForHead := do
  let test ← if ← eat .semi then pure none else do
    let e ← withIn true g.expr
    expect .semi
    pure (some e)
  let update ← if ← is .rparen then pure none else do pure (some (← withIn true g.expr))
  return .count init test update

def typeAnnOf? : Pat → Option Ty
  | .ident _ ann | .array _ _ _ ann | .object _ _ _ ann | .rest _ _ _ ann => ann
  | _ => none

def checkEachDecl (isIn : Bool) (decls : List Declarator) : Parse Unit := do
  match decls with
  | [d] =>
    if d.init.isSome then emit d.pat.span.lo .initInForHead
    if ← typescript then
      if (typeAnnOf? d.pat).isSome then emit d.pat.span.lo .forOfTyped
      if isIn then
        match d.pat with
        | .array .. | .object .. => emit d.pat.span.lo .forInPattern
        | _ => pure ()
  | decls => for d in decls.drop 1 do emit d.pat.span.lo .oneBinding

def usingHead (init : Expr) : Parse (Option VarKind) := do
  unless ← typescript do return none
  let kind : Option VarKind := match init with
    | .ident id => if id.name == "using" then some .using else none
    | .await _ (.ident id) => if id.name == "using" then some .awaitUsing else none
    | _ => none
  if kind.isNone then return none
  if ← isWord "of" then return none
  if (← peekIsWord "of") || (← peekIsWord "in") then return kind else return none

def forHead (g : Grammar) : Parse ForHead := do
  let declares ← do
    if ← isAnyWord ["const", "var"] then pure true
    else if ← isWord "let" then pure (followsLet (← peekToken)) else pure false
  if declares then
    let decl ← varStatement g true
    if ← forHeadEnds then
      if let .var _ _ _ ds := decl then checkEachDecl (← isWord "in") ds
      return ← eachHead g decl
    expect .semi
    return ← countHead g (some decl)
  if ← eat .semi then return ← countHead g none
  let start ← curPos
  let init ← withCtx (fun c => { c with forLoopInit := true }) (withIn false g.expr)
  if let some kind := ← usingHead init then
    let id ← bindingIdent false
    let d : Declarator := ⟨← spanFrom start, .ident id none, false, none⟩
    let _ ← need
    return ← eachHead g (.var (← spanFrom start) kind false [d])
  if ← forHeadEnds then
    let isIn ← isWord "in"
    let p ← toPattern .target init
    if ← pure isIn <&&> typescript then
      match p with
      | .ident .. | .expr _ => pure ()
      | p => emit p.span.lo .forInPattern
    return ← eachHead g (.target p)
  expect .semi
  countHead g (some (.expr init.span init))

def forStmt (g : Grammar) (start : Nat) : Parse Stmt := do
  bump
  let awaitStart ← curPos
  let await ← eatWord "await"
  expect .lparen
  let head ← forHead g
  expect .rparen
  let body ← loopBody g
  let span ← spanFrom start
  match head with
  | .count init test update =>
    if await then stopAt awaitStart .forAwait
    return .for span init test update body
  | .each false left right =>
    if await then stopAt awaitStart .forAwait
    return .forIn span left right body
  | .each true left right => return .forOf span await left right body

/-! ### Typed declarations -/

def pushBack (t : Token) : Parse Unit := do
  modify fun s => { s with cur := some ⟨t, s.prevSpan, false⟩ }

def enumMember (g : Grammar) : Parse Member := do
  let start ← curPos
  let key ← match ← need with
    | .str v r => do
      bump
      pure (Key.str ⟨v, some r, ← spanFrom start⟩)
    | .num v r => do
      bump
      emit start .numericEnum
      pure (Key.num (← spanFrom start) v (some r))
    | .punct .lbracket => do
      bump
      let _ ← g.expr
      emit start .computedEnum
      expect .rbracket
      pure (Key.word ⟨"", ← spanFrom start⟩)
    | _ => do pure (Key.word (← name))
  let init ← do
    if ← eat assignSign then pure (some (← g.assign))
    else if (← is .comma) || (← is .rbrace) then pure none
    else
      let pos ← curPos
      bump
      pushBack (.punct .comma)
      emit pos .semicolon
      pure none
  return .enumCase (← spanFrom start) key init

def enumDecl (g : Grammar) (start : Nat) (isConst : Bool) : Parse Stmt := do
  let id ← nameIdent
  expect .lbrace
  let members ← Parse.loop ([] : List Member) fun acc => do
    if ← is .rbrace then return .inr acc.reverse
    let m ← enumMember g
    if ← eat .comma then return .inl (m :: acc)
    if ← is .rbrace then return .inr (m :: acc).reverse
    let got ← if ← atEnd then pure "EOF" else describeCur
    emit (← curSpan).lo (.expected "," got)
    return .inl (m :: acc)
  expect .rbrace
  return .enum (← spanFrom start) id false isConst members

def interfaceDecl (g : Grammar) (start : Nat) : Parse Stmt := do
  let id ← nameIdent
  if ["string", "null", "number", "object", "any", "unknown", "boolean", "bigint", "symbol",
      "void", "never", "intrinsic"].contains id.name then emit id.span.lo .interfaceName
  let tps ← tyParams? g true false
  let parents ← if ← eatWord "extends" then heritages g else pure []
  if ← isWord "extends" then
    emit (← curSpan).lo .extendsTwice
    Parse.loop () fun _ => do
      if (← atEnd) || (← is .lbrace) then return .inr ()
      bump
      return .inl ()
  let bodyStart ← curPos
  let members ← inType (typeMembers g)
  let bodySpan ← spanFrom bodyStart
  return .interface (← spanFrom start) id false tps parents bodySpan members

def typeAlias (g : Grammar) (start : Nat) : Parse Stmt := do
  let id ← nameIdent
  let tps ← tyParams? g true false
  let t ← inType do
    unless ← eat assignSign do unexpected "="
    g.ty
  expectSemi
  return .typeAlias (← spanFrom start) id false tps t

def moduleBlock (g : Grammar) : Parse Stmt := do
  let start ← curPos
  expect .lbrace
  let items ← withCtx (fun c => { c with topLevel := true }) (statementsIn g true)
  return .moduleBlock (← spanFrom start) items

def namespaceDecl (g : Grammar) (start : Nat) : Parse Stmt := do
  let id ← nameIdent
  let body ← do
    if ← eat .dot then
      let inner ← curPos
      g.moduleBody inner
    else moduleBlock g
  return .namespace (← spanFrom start) id false (some body)

def ambientModule (g : Grammar) (start : Nat) : Parse Stmt := do
  let body : Parse (Option Stmt) := do
    if ← is .lbrace then return some (← moduleBlock g)
    expectSemi
    return none
  if ← eatWord "global" then
    let b ← body
    return .globalAugment (← spanFrom start) false b
  match ← need with
  | .str v r =>
    bump
    let lit : StringLit := ⟨v, some r, ← prevSpan⟩
    let b ← body
    return .ambientModule (← spanFrom start) lit false b
  | _ => unexpected "global or a string literal"

/-- The declaration that a word starts; the word itself is the current token if `ahead`. -/
def wordDecl? (g : Grammar) (start : Nat) (ds : List Expr) (w : String) (ahead : Bool) :
    Parse (Option Stmt) := do
  let skip : Parse Unit := if ahead then bump else pure ()
  match w with
  | "abstract" =>
    if ← pure ahead <||> (isWord "class" <&&> (do return !(← lineBreakBefore))) then
      skip
      return some (← classDecl g start ds true)
  | "enum" =>
    if ← pure ahead <||> isIdent then
      skip
      return some (← enumDecl g start false)
  | "interface" =>
    if ← pure ahead <||> isIdent then
      skip
      return some (← interfaceDecl g start)
  | "module" =>
    unless ← lineBreakBefore do
      skip
      match ← need with
      | .str .. => return some (← ambientModule g start)
      | _ => if ← pure ahead <||> isIdent then return some (← namespaceDecl g start)
  | "namespace" =>
    if ← pure ahead <||> isIdent then
      skip
      return some (← namespaceDecl g start)
  | "type" =>
    if ← pure ahead <||> ((do return !(← lineBreakBefore)) <&&> isIdent) then
      skip
      return some (← typeAlias g start)
  | _ => pure ()
  return none

def markDeclared (start : Nat) : Stmt → Stmt
  | .func n _ fn => .func n true { fn with span := ⟨start, fn.span.hi⟩ }
  | .cls n _ c => .cls n true { c with span := ⟨start, c.span.hi⟩ }
  | .var s k _ ds => .var ⟨start, s.hi⟩ k true ds
  | .enum s n _ c ms => .enum ⟨start, s.hi⟩ n true c ms
  | .interface s n _ a b c d => .interface ⟨start, s.hi⟩ n true a b c d
  | .typeAlias s n _ a t => .typeAlias ⟨start, s.hi⟩ n true a t
  | .namespace s n _ b => .namespace ⟨start, s.hi⟩ n true b
  | .globalAugment s _ b => .globalAugment ⟨start, s.hi⟩ true b
  | .ambientModule s n _ b => .ambientModule ⟨start, s.hi⟩ n true b
  | s => s

def declared? (g : Grammar) (start : Nat) (ds : List Expr) : Parse (Option Stmt) := do
  unless ← typescript do return none
  if (← Parse.ctx).inDeclare then emit start .declareTwice
  withCtx (fun c => { c with inDeclare := true }) do
    let found ← do
      if ← isWord "function" then pure (some (← functionDecl g ds))
      else if ← isWord "class" then pure (some (← classDecl g start ds false))
      else if ← isWord "const" <&&> peekIsWord "enum" then
        bump
        bump
        pure (some (← enumDecl g start true))
      else if ← isAnyWord ["const", "var", "let"] then pure (some (← varStatement g false))
      else if ← isWord "global" then pure (some (← ambientModule g start))
      else match Token.word? (← curToken) with
        | some w => wordDecl? g start ds w true
        | none => pure none
    return found.map (markDeclared start)

def declBehind? (g : Grammar) (ds : List Expr) (id : Ident) : Parse (Option Stmt) := do
  let start := id.span.lo
  match id.name with
  | "declare" => declared? g start ds
  | "global" =>
    if ← is .lbrace then
      let b ← moduleBlock g
      return some (.globalAugment (← spanFrom start) false (some b))
    else return none
  | w => wordDecl? g start ds w false

/-! ### Statements -/

def labelled (g : Grammar) (label : Ident) : Parse Stmt :=
  withCtx (fun c => { c with breakAllowed := true, allowUsing := false }) do
    let known := (← get).labels
    modify fun s => { s with labels := s.labels ++ [label.name] }
    let body ← do
      if ← isWord "function" then
        let f ← functionDecl g []
        if let .func _ _ fn := f then
          emitStrict fn.span.lo .labelledFunction
          if fn.generator || fn.async then emit fn.span.lo .labelledGenerator
        pure f
      else g.stmt false false
    for l in known do
      if l == label.name then emit label.span.lo (.duplicateLabel l)
    modify fun s => { s with labels := s.labels.erase label.name }
    return .labeled (← spanFrom label.span.lo) label body

def exprStmt (g : Grammar) (start : Nat) (ds : List Expr) : Parse Stmt := do
  let e ← withIn true g.expr
  if let .ident id := e then
    if ← eat .colon then return ← labelled g id
    if id.name == "interface" && (← lineBreakBefore) then
      emitStrict id.span.lo (.strictIdent id.name)
      let _ ← eatSemi
      return .expr (← spanFrom start) e
    if ← typescript then
      if let some d := ← declBehind? g ds id then return d
    if id.name == "enum" || id.name == "interface" then
      emitStrict id.span.lo (.strictIdent id.name)
    if ← typescript then
      if ["public", "static", "abstract"].contains id.name then
        if ← eatWord "interface" then
          emit id.span.lo .interfaceName
          return ← interfaceDecl g start
  if ← eatSemi then return .expr (← spanFrom start) e
  if ← isBinaryOp then
    emit (← curSpan).lo .semicolon
    let e ← g.operators e 0
    return .expr (← spanFrom start) e
  stop .expressionEnd

def namedHere (w : String) : Parse Bool := do
  typescript <&&> isWord w <&&> peekIsIdent <&&> (do return !(← lineBreakAfter))

def keywordStmt? (g : Grammar) (start : Nat) (ds : List Expr) (declarations : Bool) (w : String) :
    Parse (Option Stmt) := do
  match w with
  | "break" => return some (← jump start true)
  | "continue" => return some (← jump start false)
  | "debugger" =>
    bump
    expectSemi
    return some (.debugger (← spanFrom start))
  | "do" => return some (← doWhileStmt g start)
  | "for" => return some (← forStmt g start)
  | "function" =>
    unless declarations do emit (← curSpan).lo .declarationPlace
    return some (← functionDecl g ds)
  | "class" =>
    unless declarations do emit (← curSpan).lo .declarationPlace
    return some (← classDecl g start ds false)
  | "if" => return some (← ifStmt g start)
  | "return" => return some (← returnStmt g start)
  | "switch" => return some (← switchStmt g start)
  | "throw" => return some (← throwStmt g start)
  | "catch" | "finally" => return some (← strayHandler g)
  | "try" => return some (← tryStmt g start)
  | "with" => return some (← withStmt g start)
  | "while" => return some (← whileStmt g start)
  | "var" => return some (← varStatement g false)
  | "const" => if declarations then return some (← varStatement g false) else return none
  | "let" =>
    if declarations && followsLet (← peekToken) then return some (← varStatement g false)
    else return none
  | _ => return none

def statement (g : Grammar) (start : Nat) (ds : List Expr) (declarations topLevel : Bool) :
    Parse Stmt := do
  if ← typescript <&&> isWord "const" <&&> peekIsWord "enum" then
    bump
    bump
    return ← enumDecl g start true
  match ← need with
  | .keyword "await" =>
    if ← pure (declarations || topLevel) <&&> peekIsWord "using" then
      let awaitStart ← curPos
      bump
      if let some d := ← usingDecl? g start true then return d
      let e ← awaitExpr g (some awaitStart)
      let e ← withIn true (g.operators e 0)
      let _ ← eatSemi
      return .expr (← spanFrom start) e
  | .keyword w =>
    if let some s := ← keywordStmt? g start ds declarations w then return s
  | .ident "using" =>
    if declarations then
      if let some d := ← usingDecl? g start false then return d
  | .ident "interface" =>
    if ← namedHere "interface" then
      bump
      return ← interfaceDecl g start
  | .ident "type" =>
    if ← namedHere "type" then
      bump
      return ← typeAlias g start
  | .ident "enum" =>
    if ← namedHere "enum" then
      bump
      return ← enumDecl g start false
  | .punct .lbrace => return .block (← withCtx (fun c => { c with allowUsing := true }) (g.block false))
  | .punct .semi =>
    bump
    return .empty (← spanFrom start)
  | _ => pure ()
  if ← asyncFunctionAhead then return ← asyncFunctionDecl g ds
  exprStmt g start ds

end Unbundled.Script.Read
