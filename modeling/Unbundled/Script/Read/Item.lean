import Unbundled.Script.Read.Statement

namespace Unbundled.Script.Read

open Parse (withCtx)

/-! ### Imports -/

def attributes? (g : Grammar) : Parse (Option Expr) := do
  unless ← typescript <&&> (do return !(← lineBreakBefore)) do return none
  if ← eatWord "assert" <||> eatWord "with" then
    return some (← noColon (objectLiteral g))
  return none

def fromClause (g : Grammar) : Parse (StringLit × Option Expr) := do
  expectWord "from"
  match ← need with
  | .str v r =>
    bump
    let lit : StringLit := ⟨v, some r, ← prevSpan⟩
    let attrs ← attributes? g
    expectSemi
    return (lit, attrs)
  | _ => unexpected "a string literal"

def importedBinding : Parse Ident :=
  withCtx (fun c => { c with inAsync := false, inGenerator := false }) (bindingIdent false)

structure TypeMark where
  /-- Whether the whole declaration is marked. -/
  outer : Bool
  cause : Cause

def noteTwice (mark : TypeMark) (word : Ident) : Parse Unit := do
  if mark.outer then emit word.span.lo mark.cause

/-- `type` and what follows it in an import list: `as` may be a name there, too. -/
def importSpecifierAfterType (mark : TypeMark) (start : Nat) (word : Ident) :
    Parse (Option ImportSpecifier × Ident) := do
  let second ← nameIdent
  unless second.name == "as" do
    noteTwice mark word
    return (none, second)
  unless ← isName do
    noteTwice mark word
    return (some (.named (← spanFrom start) second none true), word)
  let third ← bindingIdent false
  let short : Span := ⟨start, word.span.hi⟩
  if third.name == "as" then
    if ← isName then
      let local_ ← bindingIdent false
      noteTwice mark word
      return (some (.named short local_ (some (.ident second)) true), word)
    return (some (.named ⟨start, third.span.hi⟩ third (some (.ident word)) false), word)
  return (some (.named short third (some (.ident word)) false), word)

def importSpecifier (typeOnly : Bool) : Parse ImportSpecifier := do
  let start ← curPos
  match ← exportName with
  | .str lit =>
    if ← eatWord "as" then
      let local_ ← bindingIdent false
      return .named ⟨start, local_.span.hi⟩ local_ (some (.str lit)) false
    else stopAt lit.span.lo (.importedString lit.value)
  | .ident first =>
    let (found, orig, isType) ← do
      if ← typescript <&&> pure (first.name == "type") <&&> isName then
        let (found, orig) ← importSpecifierAfterType ⟨typeOnly, .typeImportModifier⟩ start first
        pure (found, orig, true)
      else pure (none, first, false)
    if let some s := found then return s
    if ← eatWord "as" then
      let local_ ← bindingIdent false
      return .named ⟨start, local_.span.hi⟩ local_ (some (.ident orig)) isType
    if Scan.isReserved (← Parse.ctx) orig.name then stopAt orig.span.lo .reservedImport
    return .named (← spanFrom start) orig none isType

def bracedNames {α : Type} (elem : Parse α) : Parse (List α) := do
  let xs ← Parse.loop ([] : List α) fun acc => do
    if (← atEnd) || (← is .rbrace) then return .inr acc.reverse
    let a ← elem
    if ← is .rbrace then return .inr (a :: acc).reverse
    expect .comma
    return .inl (a :: acc)
  expect .rbrace
  return xs

def importEqualsTail (start : Nat) (exported typeOnly : Bool) (id : Ident) : Parse Stmt := do
  expect assignSign
  if ← isWord "require" <&&> peekIs .lparen then
    let refStart ← curPos
    bump
    expect .lparen
    match ← need with
    | .str v r =>
      bump
      let lit : StringLit := ⟨v, some r, ← prevSpan⟩
      expect .rparen
      let refSpan ← spanFrom refStart
      expectSemi
      return .importRequire (← spanFrom start) exported typeOnly id refSpan lit
    | _ => unexpected "a string literal"
  else
    let target ← entityName false
    expectSemi
    return .importEquals (← spanFrom start) exported typeOnly id target

/-- The default binding of an import, unless the word is `type`; or the whole declaration if
it is `import a = …`. -/
def importDefault (start : Nat) : Parse (Stmt ⊕ (Bool × Option Ident)) := do
  unless ← isIdent do return .inr (false, none)
  let first ← importedBinding
  let typed ← typescript
  if typed && first.name == "type" then
    if (← is star) || (← is .lbrace) then return .inr (true, none)
  let (typeOnly, id) ← do
    if ← pure (typed && first.name == "type") <&&> isIdent then
      if ← (do return !(← isWord "from")) <||> peekIsWord "from" then
        pure (true, ← importedBinding)
      else if ← peekIs assignSign then pure (true, ← nameIdent)
      else pure (false, first)
    else pure (false, first)
  if ← pure typed <&&> is assignSign then
    return .inl (← importEqualsTail start false typeOnly id)
  unless ← isWord "from" do expect .comma
  return .inr (typeOnly, some id)

def importDecl (g : Grammar) : Parse Stmt := do
  let start ← curPos
  if (← peekIs .dot) || (← peekIs .lparen) then
    let e ← g.expr
    let _ ← eatSemi
    return .expr (← spanFrom start) e
  expectWord "import"
  if let some (.str v r) ← curToken then
    bump
    let lit : StringLit := ⟨v, some r, ← prevSpan⟩
    let attrs ← attributes? g
    expectSemi
    return .import (← spanFrom start) false [] lit attrs
  match ← importDefault start with
  | .inl s => return s
  | .inr (typeOnly, default) =>
    let first := match default with
      | some id => [ImportSpecifier.default id]
      | none => []
    let specStart ← curPos
    let rest ← do
      if ← eat star then
        expectWord "as"
        let local_ ← importedBinding
        pure [ImportSpecifier.star (← spanFrom specStart) local_]
      else if ← eat .lbrace then bracedNames (importSpecifier typeOnly)
      else pure []
    let (src, attrs) ← fromClause g
    return .import (← spanFrom start) typeOnly (first ++ rest) src attrs

/-! ### Exports -/

def exportSpecifierAfterType (mark : TypeMark) (start : Nat) (word : Ident) :
    Parse (Option ExportSpecifier × Ident) := do
  let second ← nameIdent
  unless second.name == "as" do
    noteTwice mark word
    return (none, second)
  unless ← isName do
    noteTwice mark word
    return (some (.named (← spanFrom start) (.ident second) none true), word)
  let third ← nameIdent
  let short : Span := ⟨start, word.span.hi⟩
  if third.name == "as" then
    if ← isName then
      let exported ← nameIdent
      noteTwice mark word
      return (some (.named short (.ident second) (some (.ident exported)) true), word)
  return (some (.named short (.ident word) (some (.ident third)) false), word)

def exportSpecifier (typeOnly : Bool) : Parse ExportSpecifier := do
  let start ← curPos
  let first ← exportName
  let (found, orig, isType) ← match first with
    | .ident w => do
      if ← typescript <&&> pure (w.name == "type") <&&> isName then
        let (found, orig) ← exportSpecifierAfterType ⟨typeOnly, .typeExportModifier⟩ start w
        pure (found, ExportName.ident orig, true)
      else pure (none, first, false)
    | .str _ => pure (none, first, false)
  if let some s := found then return s
  let exported ← if ← eatWord "as" then do pure (some (← exportName)) else pure none
  return .named (← spanFrom start) orig exported isType

/-- Words that can never name a binding of a module. -/
def neverBinding : List String :=
  ["break", "case", "catch", "class", "const", "continue", "debugger", "default", "delete", "do",
   "else", "enum", "export", "extends", "false", "finally", "for", "function", "if", "import",
   "in", "instanceof", "new", "null", "return", "super", "switch", "this", "throw", "true",
   "try", "typeof", "var", "void", "while", "with"]

def checkLocalExports (specifiers : List ExportSpecifier) : Parse Unit := do
  for s in specifiers do
    match s with
    | .named _ (.ident id) _ _ =>
      if neverBinding.contains id.name then emit id.span.lo (.exportFrom id.name)
    | .named _ (.str lit) _ _ => emit lit.span.lo .exportedString
    | .star span n => emit span.lo (.exportFrom n.text)
    | .default id => emit id.span.lo (.exportFrom id.name)

def exportList (g : Grammar) (start nsStart : Nat) (typeOnly : Bool) : Parse Stmt := do
  if ← is star then
    if ← peekIsWord "as" then
      bump
      bump
      let n ← exportName
      let spec := ExportSpecifier.star (← spanFrom nsStart) n
      let (src, attrs) ← fromClause g
      return .exportNamed (← spanFrom start) typeOnly [spec] (some src) attrs
    bump
    let (src, attrs) ← fromClause g
    return .exportAll (← spanFrom start) typeOnly src attrs
  expect .lbrace
  let specs ← bracedNames (exportSpecifier typeOnly)
  let (src, attrs) ← if ← isWord "from" then do
    let (src, attrs) ← fromClause g
    pure (some src, attrs)
  else do
    checkLocalExports specs
    let _ ← eatSemi
    pure (none, none)
  return .exportNamed (← spanFrom start) typeOnly specs src attrs

/-- Decorators behind `export`, unless there were some in front of it. -/
def exportDecorators (g : Grammar) (ds : List Expr) : Parse (List Expr) := do
  unless ← is .at do return ds
  let start ← curPos
  let found ← g.decorators false
  unless ds.isEmpty do stopAt start .decoratorsTwice
  return found

def exportDefault (g : Grammar) (start : Nat) (ds : List Expr) : Parse Stmt := do
  let ds ← exportDecorators g ds
  if ← typescript then
    if ← isWord "abstract" then
      if ← peekIsWord "class" <&&> (do return !(← lineBreakAfter)) then
        let classStart ← curPos
        bump
        let (id, c) ← classTail g classStart ds true false
        return .exportDefaultDecl (← spanFrom start) (.cls id c)
      if ← peekIsWord "interface" then
        emit (← curSpan).lo .abstractModifier
        bump
    if ← isWord "interface" then
      let declStart ← curPos
      bump
      let d ← interfaceDecl g declStart
      return .exportDefaultInterface (← spanFrom start) d
  if ← isWord "class" then
    let classStart ← curPos
    let (id, c) ← classTail g classStart ds false false
    return .exportDefaultDecl (← spanFrom start) (.cls id c)
  if ← asyncFunctionAhead then
    let (id, fn) ← asyncFunction g false false ds
    return .exportDefaultDecl (← spanFrom start) (.func id fn)
  if ← isWord "function" then
    let (id, fn) ← function g none false false ds
    return .exportDefaultDecl (← spanFrom start) (.func id fn)
  let e ← withIn true g.assign
  expectSemi
  return .exportDefaultExpr (← spanFrom start) e

def typedExport? (g : Grammar) (start : Nat) (ds : List Expr) : Parse (Option Stmt) := do
  unless ← typescript do return none
  let declStart ← curPos
  if ← eatWord "declare" then
    if let some d := ← declared? g declStart ds then
      return some (.exportDecl (← spanFrom start) d)
  if let some w := Token.word? (← curToken) then
    let found ← attempt do
      let s ← curPos
      wordDecl? g s ds w true
    if let some d := found then return some (.exportDecl (← spanFrom start) d)
  if ← eatWord "import" then
    let typeOnly ← isWord "type" <&&> peekIsIdent
    if typeOnly then bump
    let id ← nameIdent
    return some (← importEqualsTail start true typeOnly id)
  if ← eat assignSign then
    let e ← g.expr
    expectSemi
    return some (.exportAssign (← spanFrom start) e)
  if ← eatWord "as" then
    expectWord "namespace"
    let id ← ident false false
    expectSemi
    return some (.exportAsNamespace (← spanFrom start) id)
  return none

def exportDecl (g : Grammar) (ds : List Expr) : Parse Stmt := do
  let start ← curPos
  bump
  let _ ← need
  if let some s := ← typedExport? g start ds then return s
  let nsStart ← curPos
  let typeOnly ← typescript <&&> eatWord "type"
  if typeOnly then return ← exportList g start nsStart true
  if ← eatWord "default" then return ← exportDefault g start ds
  let ds ← exportDecorators g ds
  if ← isWord "class" then
    let classStart ← curPos
    let d ← classDecl g classStart ds false
    return .exportDecl (← spanFrom start) d
  if ← asyncFunctionAhead then
    let d ← asyncFunctionDecl g ds
    return .exportDecl (← spanFrom start) d
  if ← isWord "function" then
    let d ← functionDecl g ds
    return .exportDecl (← spanFrom start) d
  if ← typescript <&&> isWord "const" <&&> peekIsWord "enum" then
    let enumStart ← curPos
    bump
    bump
    let d ← enumDecl g enumStart true
    return .exportDecl (← spanFrom start) d
  let declares ← do
    if ← isAnyWord ["var", "const"] then pure true
    else if ← isWord "let" then pure (followsLet (← peekToken)) else pure false
  if declares then
    let d ← varStatement g false
    return .exportDecl (← spanFrom start) d
  exportList g start nsStart false

/-! ### Items -/

def item (g : Grammar) (declarations topLevel : Bool) : Parse Stmt := do
  let start ← curPos
  let ds ← g.decorators true
  if ← isWord "import" then
    if topLevel then return ← importDecl g
    if (← peekIs .lparen) || (← peekIs .dot) then
      let e ← g.expr
      let _ ← eatSemi
      return .expr (← spanFrom start) e
    stop .itemInScript
  if ← isWord "export" then
    if topLevel then return ← exportDecl g ds
    stop .itemInScript
  let allowUsing := declarations
  withCtx (fun c => { c with colonFollows := false, allowUsing := c.allowUsing || allowUsing })
    (statement g start ds declarations topLevel)

end Unbundled.Script.Read
