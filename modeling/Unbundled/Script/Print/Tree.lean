import Unbundled.Script.Print.Page
import Unbundled.Script.Print.Quoted
import Unbundled.Script.Spans

namespace Unbundled.Script

open Print

namespace Print

def token (s : Span) (text : String) : Print := do
  leading s.lo
  write text

def word (w : Word) : Print := token w.span w.name

def ident (id : Ident) : Print := do
  token id.span id.name
  onlyIf id.optional (write "?")

def string (lit : StringLit) : Print := token lit.span lit.spelling

def exportName : ExportName → Print
  | .ident id => ident id
  | .str lit => string lit

def entity : EntityName → Print
  | .ident id => ident id
  | .qualified s left right => do
    leading s.lo
    entity left
    write "."
    word right

def jsxName : JsxName → Print
  | .ident id => ident id
  | .namespaced s ns name => do
    leading s.lo
    word ns
    write ":"
    word name
  | .member s object prop => do
    leading s.lo
    jsxName object
    write "."
    word prop

def enclosed (opening : String) (body : Print) (closing : String) : Print := do
  write opening
  body
  write closing

def angles (parent : Span) (is : List (Span × Print)) : Print :=
  onlyIf (!is.isEmpty) (enclosed "<" (series { Layout.commas with indented := true } parent is) ">")

def parens (parent : Span) (is : List (Span × Print)) : Print :=
  enclosed "(" (series Layout.commas parent is) ")"

def annotation : Option Print → Print
  | none => skip
  | some ty => do
    write ": "
    ty

def maybe : Option Print → Print
  | none => skip
  | some p => p

def pieces : List Quasi → List Print → Print
  | [], _ => skip
  | q :: qs, ps => do
    leading q.span.lo
    write q.spelling
    match ps with
    | [] => pieces qs []
    | p :: ps => do
      enclosed "$\x7b" p "\x7d"
      pieces qs ps

/-- Braces around statements or members. Without any and without a comment in front of
the closing brace nothing stands between them. -/
def braces (s : Span) (layout : Layout) (is : List (Span × Print)) : Print := do
  let bare := is.isEmpty && !(← commentBeforeEnd s)
  write "\x7b"
  series (if bare then layout.flat else layout) s is
  unless s.hi = 0 do leading (s.hi - 1)
  write "\x7d"

def needsSpace : UnaryOp → Expr → Bool
  | .typeof, _ | .void, _ | .delete, _ => true
  | .plus, .update _ true true _ | .plus, .unary _ .plus _ => true
  | .minus, .update _ false true _ | .minus, .unary _ .minus _ => true
  | .minus, .num _ value _ => value.isNegative
  | _, _ => false

def number (s : Span) (value : Number.Double) (raw : Option String) : Print :=
  token s (numberText value raw)

def dotBefore (pos : Nat) : Print := do
  leading (pos - 1)
  write "."

def newExpr (s : Span) (callee : Print) (typeArgs : List (Span × Print)) (hasArgs : Bool)
    (args : List (Span × Print)) : Print := do
  token s "new "
  callee
  angles s typeArgs
  onlyIf hasArgs (parens s args)

def mapping (word : String) : Option Mapping → Print
  | none => skip
  | some .present => write word
  | some .plus => write ("+" ++ word)
  | some .minus => write ("-" ++ word)

def accessOf (a : Option Access) : Print :=
  match a with
  | none => skip
  | some a => write (a.text ++ " ")

def exportSpecifier : ExportSpecifier → Print
  | .named s orig exported typeOnly => do
    leading s.lo
    modifier typeOnly "type"
    exportName orig
    if let some e := exported then
      write " as "
      exportName e
  | .default id => ident id
  | .star s name => do
    token s "* as "
    exportName name

def importSpecifier : ImportSpecifier → Print
  | .named s id imported typeOnly => do
    leading s.lo
    modifier typeOnly "type"
    if let some i := imported then
      exportName i
      write " as "
    ident id
  | .default id => ident id
  | .star s id => do
    token s "* as "
    ident id

def ImportSpecifier.span : ImportSpecifier → Span
  | .named s .. | .star s _ => s
  | .default id => id.span

def ExportSpecifier.span : ExportSpecifier → Span
  | .named s .. | .star s _ => s
  | .default id => id.span

def isNamedImport : ImportSpecifier → Bool
  | .named .. => true
  | _ => false

def isNamedExport : ExportSpecifier → Bool
  | .named .. => true
  | _ => false

def braceList (parent : Span) (is : List (Span × Print)) : Print :=
  enclosed "\x7b" (series Layout.braced parent is) "\x7d"

def importClause (s : Span) (specifiers : List ImportSpecifier) : Print := do
  let named := specifiers.filter isNamedImport
  let others := specifiers.filter (!isNamedImport ·)
  series Layout.commas .absent (others.map fun i => (.absent, importSpecifier i))
  onlyIf (!others.isEmpty && !named.isEmpty) (write ", ")
  onlyIf (!named.isEmpty) (braceList s (named.map fun i => (ImportSpecifier.span i, importSpecifier i)))
  onlyIf (!specifiers.isEmpty) (write " from ")

def exportClause (s : Span) (specifiers : List ExportSpecifier) : Print := do
  let named := specifiers.filter isNamedExport
  let others := specifiers.filter (!isNamedExport ·)
  series Layout.commas .absent (others.map fun i => (.absent, exportSpecifier i))
  onlyIf (!others.isEmpty && !named.isEmpty) (write ", ")
  onlyIf (!named.isEmpty || others.isEmpty)
    (braceList s (named.map fun i => (ExportSpecifier.span i, exportSpecifier i)))

/-- A declaration of a module, with the comments around it. -/
def moduleDecl (s : Span) (body : Print) : Print := do
  leading s.lo
  body
  trailing s.hi true
  line

end Print

def Key.isComputed : Key → Bool
  | .computed .. => true
  | _ => false

def Pat.isWhole : Pat → Bool
  | .keyed .. | .shorthand .. => false
  | _ => true

def Stmt.isBlock : Stmt → Bool
  | .block _ => true
  | _ => false

def Stmt.isVar : Stmt → Bool
  | .var _ kind .. => match kind with
    | .using | .awaitUsing => false
    | _ => true
  | _ => false

def Stmt.needsSemicolon : Stmt → Bool
  | .expr .. => true
  | s => s.isVar

/-- Declarations of a module end their line themselves. -/
def Stmt.endsLine : Stmt → Bool
  | .block _ | .case .. | .import .. | .exportDecl .. | .exportNamed .. | .exportDefaultDecl ..
  | .exportDefaultInterface .. | .exportDefaultExpr .. | .exportAll .. | .importEquals ..
  | .importRequire .. | .exportAssign .. | .exportAsNamespace .. => false
  | _ => true

mutual

def Expr.print (e : Expr) : Print := do
  match e with
  | .this s => token s "this"
  | .super s => token s "super"
  | .importCallee s => token s "import"
  | .ident id => ident id
  | .str lit => string lit
  | .num s value raw => number s value raw
  | .bigint s raw => token s raw
  | .bool s value => token s (if value then "true" else "false")
  | .null s => token s "null"
  | .regex s pattern flags => token s ("/" ++ pattern ++ "/" ++ flags)
  | .template s quasis exprs =>
    leading s.lo
    enclosed "`" (pieces quasis (Expr.prints exprs)) "`"
  | .tagged s (.new ns callee typeArgs hasArgs args) types quasi =>
    leading s.lo
    newExpr ns callee.print (Ty.items typeArgs) hasArgs (Expr.items args)
    angles s (Ty.items types)
    quasi.print
  | .tagged s tag types quasi =>
    leading s.lo
    tag.print
    angles s (Ty.items types)
    quasi.print
  | .array s elems =>
    leading s.lo
    let lastComma := match elems.getLast? with
      | some .hole => true
      | _ => false
    enclosed "["
      (series (if elems.isEmpty then Layout.commas else { Layout.elements with lastComma }) s
        (Expr.items elems)) "]"
  | .hole => skip
  | .spread dots arg =>
    token dots "..."
    arg.print
  | .object s props =>
    leading s.lo
    braces s Layout.elements (Property.items props)
  | .func name fn =>
    leading fn.span.lo
    modifier fn.async "async"
    write "function"
    onlyIf fn.generator (write "*")
    if let some name := name then
      space
      ident name
    fn.print
  | .arrow s async typeParams params ret body =>
    leading s.lo
    modifier async "async"
    angles s (Ty.items typeParams)
    parens s (Pat.items params)
    if let some ret := Ty.print? ret then
      annotation ret
      space
    write "=>"
    body.printBody
  | .cls name cls =>
    leading cls.span.lo
    cls.print skip name
  | .unary s op arg =>
    token s op.text
    onlyIf (needsSpace op arg) space
    arg.print
  | .update s increment isPrefix arg =>
    leading s.lo
    let op := if increment then "++" else "--"
    onlyIf isPrefix (write op)
    arg.print
    onlyIf (!isPrefix) (write op)
  | .binary s op left right =>
    leading s.lo
    left.print
    write (" " ++ op.text ++ " ")
    right.print
  | .assign s op target value =>
    leading s.lo
    target.print false
    write (" " ++ op.text ++ " ")
    value.print
  | .member s (.new ns callee typeArgs hasArgs args) key =>
    leading s.lo
    newExpr ns callee.print (Ty.items typeArgs) hasArgs (Expr.items args)
    key.printAccess true
  | .member s (.num ns value raw) key =>
    leading s.lo
    number ns value raw
    onlyIf (numberTakesPoint value raw && !key.isComputed) (dotBefore (key.span.lo - 1))
    key.printAccess true
  | .member s obj key =>
    leading s.lo
    obj.print
    key.printAccess true
  | .cond s test yes no =>
    leading s.lo
    test.print
    write " ? "
    yes.print
    write " : "
    no.print
  | .call s callee typeArgs args =>
    leading s.lo
    callee.print
    angles s (Ty.items typeArgs)
    parens s (Expr.items args)
  | .new s callee typeArgs hasArgs args =>
    newExpr s callee.print (Ty.items typeArgs) hasArgs (Expr.items args)
  | .seq s exprs =>
    leading s.lo
    series Layout.commas .absent ((Expr.prints exprs).map fun p => (.absent, p))
  | .yield s delegate arg =>
    token s "yield"
    onlyIf delegate (write "*")
    if let some arg := Expr.print? arg then
      space
      arg
  | .await s arg =>
    token s "await "
    arg.print
  | .newTarget s => token s "new.target"
  | .importMeta s => token s "import.meta"
  | .paren s inner =>
    leading s.lo
    enclosed "(" inner.print ")"
  | .chain s optional (.member _ (.new ns callee typeArgs hasArgs args) key) =>
    leading s.lo
    newExpr ns callee.print (Ty.items typeArgs) hasArgs (Expr.items args)
    if optional then write "?." else onlyIf (!key.isComputed) (write ".")
    key.printAccess false
  | .chain s optional (.member _ obj key) =>
    leading s.lo
    obj.print
    if optional then write "?." else onlyIf (!key.isComputed) (write ".")
    key.printAccess false
  | .chain s optional (.call _ callee typeArgs args) =>
    leading s.lo
    callee.print
    onlyIf optional (write "?.")
    angles s (Ty.items typeArgs)
    parens s (Expr.items args)
  | .chain s _ base =>
    leading s.lo
    base.print
  | .privateName name => token name.span ("#" ++ name.name)
  | .jsx s opening name typeArgs attrs closed children =>
    leading s.lo
    leading opening.lo
    write "<"
    maybe (name.map jsxName)
    angles opening (Ty.items typeArgs)
    onlyIf (!attrs.isEmpty) space
    series { spaced := true } opening (Property.attrItems attrs)
    onlyIf closed.isNone (write "/")
    write ">"
    series {} s (Expr.items children)
    if let some c := closed then
      token c "</"
      maybe (name.map jsxName)
      write ">"
  | .jsxText s value _ => token s value
  | .jsxBraced s inner =>
    leading s.lo
    enclosed "\x7b" (maybe (Expr.print? inner)) "\x7d"
  | .asType s arg ty =>
    leading s.lo
    arg.print
    write " as "
    ty.print
  | .asConst s arg | .constAssertion s arg =>
    leading s.lo
    arg.print
    write " as const"
  | .satisfies s arg ty =>
    leading s.lo
    arg.print
    write " satisfies "
    ty.print
  | .typeAssertion s ty arg =>
    leading s.lo
    enclosed "<" ty.print ">"
    arg.print
  | .nonNull s arg =>
    leading s.lo
    arg.print
    write "!"
  | .instantiation s arg typeArgs =>
    leading s.lo
    arg.print
    angles s (Ty.items typeArgs)
  trailing e.span.hi true
termination_by structural e

def Expr.prints : List Expr → List Print
  | [] => []
  | e :: es => e.print :: Expr.prints es
termination_by structural es => es

def Expr.items : List Expr → List (Span × Print)
  | [] => []
  | e :: es => (e.span, e.print) :: Expr.items es
termination_by structural es => es

def Expr.print? : Option Expr → Option Print
  | none => none
  | some e => some e.print
termination_by structural e => e

def Decorator.prints : List Expr → Print
  | [] => skip
  | d :: ds => do
    write "@"
    d.print
    line
    Decorator.prints ds
termination_by structural ds => ds

def Func.print : Func → Print
  | ⟨s, _, _, _, typeParams, params, ret, body⟩ => do
    angles s (Ty.items typeParams)
    parens s (Param.items params)
    annotation (Ty.print? ret)
    Block.printAfterSpace body
termination_by structural f => f

def Block.printAfterSpace : Option Block → Print
  | none => write ";"
  | some b => do
    space
    b.print
termination_by structural b => b

def Block.print : Block → Print
  | ⟨s, stmts⟩ => do
    leading s.lo
    braces s Layout.statements (Stmt.items stmts)
termination_by structural b => b

def Param.print : Param → Print
  | ⟨s, decorators, access, isReadonly, isOverride, pat⟩ => do
    leading s.lo
    onlyIf (!decorators.isEmpty) line
    Decorator.prints decorators
    accessOf access
    modifier isOverride "override"
    modifier isReadonly "readonly"
    pat.print true
termination_by structural p => p

def Param.items : List Param → List (Span × Print)
  | [] => []
  | p :: ps => (p.span, p.print) :: Param.items ps
termination_by structural ps => ps

def Class.print (c : Class) (front : Print) (name : Option Ident) : Print :=
  match c with
  | ⟨s, decorators, isAbstract, typeParams, superClass, superArgs, implements, members⟩ => do
    Decorator.prints decorators
    front
    modifier isAbstract "abstract"
    write "class"
    if let some name := name then
      space
      ident name
    angles s (Ty.items typeParams)
    if let some sup := Expr.print? superClass then
      write " extends "
      sup
      angles s (Ty.items superArgs)
    onlyIf (!implements.isEmpty) do
      write " implements "
      series Layout.commas s (Ty.items implements)
    write " "
    enclosed "\x7b" (series Layout.statements s (Member.items members)) "\x7d"
termination_by structural c

def Key.print : Key → Print
  | .word w => word w
  | .str lit => string lit
  | .num s value raw => number s value raw
  | .bigint s raw => token s raw
  | .computed _ e => enclosed "[" e.print "]"
  | .priv w => token w.span ("#" ++ w.name)
termination_by structural k => k

def Key.printAccess (k : Key) (dot : Bool) : Print := do
  match k with
  | .word w =>
    onlyIf dot (dotBefore w.span.lo)
    word w
  | .priv w =>
    onlyIf dot (dotBefore w.span.lo)
    token w.span ("#" ++ w.name)
  | .computed _ e => enclosed "[" e.print "]"
  | .str lit => string lit
  | .num s value raw => number s value raw
  | .bigint s raw => token s raw
termination_by structural k

def Property.print : Property → Print
  | .spread dots arg => do
    token dots "..."
    arg.print
  | .shorthand id => ident id
  | .keyed key value => do
    key.print
    write ": "
    value.print
  | .shorthandInit id value => do
    ident id
    write "="
    value.print
  | .method kind key fn => do
    leading fn.span.lo
    match kind with
    | .method =>
      modifier fn.async "async"
      onlyIf fn.generator (write "*")
      key.print
      space
      fn.print
    | .getter =>
      write "get "
      key.print
      space
      fn.print
    | .setter =>
      write "set "
      key.print
      space
      fn.printSetter
  | .attr s name value => do
    leading s.lo
    jsxName name
    if let some v := Expr.print? value then
      write "="
      v
termination_by structural p => p

def Func.printSetter : Func → Print
  | ⟨s, _, _, _, _, params, _, body⟩ => do
    parens s (Param.items params)
    maybe (Block.print? body)
termination_by structural f => f

def Block.print? : Option Block → Option Print
  | none => none
  | some b => some b.print
termination_by structural b => b

def Property.items : List Property → List (Span × Print)
  | [] => []
  | p :: ps => (p.span, p.print) :: Property.items ps
termination_by structural ps => ps

def Property.attrItems : List Property → List (Span × Print)
  | [] => []
  | .spread dots arg :: ps =>
    (dots.through arg.span, enclosed "\x7b" (do token dots "..."; arg.print) "\x7d")
      :: Property.attrItems ps
  | p :: ps => (p.span, p.print) :: Property.attrItems ps
termination_by structural ps => ps

def Member.print : Member → Print
  | .ctor s mods _ params body => do
    leading s.lo
    accessOf mods.access
    write "constructor"
    parens s (Param.items params)
    match Block.print? body with
    | none => write ";"
    | some b => b
  | .method s mods kind key fn => do
    leading s.lo
    fn.printDecorators
    accessOf mods.access
    modifier mods.isStatic "static"
    modifier mods.isAbstract "abstract"
    modifier mods.isOverride "override"
    match kind with
    | .method =>
      modifier fn.async "async"
      onlyIf fn.generator (write "*")
    | .getter => write "get "
    | .setter => write "set "
    key.print
    onlyIf mods.isOptional (write "?")
    fn.print
  | .field s mods accessor decorators key ann value => do
    leading s.lo
    Decorator.prints decorators
    modifier mods.isDeclare "declare"
    accessOf mods.access
    modifier mods.isStatic "static"
    modifier mods.isAbstract "abstract"
    modifier mods.isOverride "override"
    modifier mods.isReadonly "readonly"
    modifier accessor "accessor"
    key.print
    onlyIf mods.isOptional (write "?")
    onlyIf mods.isDefinite (write "!")
    annotation (Ty.print? ann)
    if let some v := Expr.print? value then
      write " = "
      v
    write ";"
  | .staticBlock s body => do
    token s "static"
    body.print
  | .index s mods params ann => do
    leading s.lo
    modifier mods.isStatic "static"
    modifier mods.isReadonly "readonly"
    enclosed "[" (series Layout.commas s (Pat.items params)) "]"
    annotation (Ty.print? ann)
    write ";"
  | .empty s => token s ";"
  | .enumCase s key init => do
    leading s.lo
    key.print
    if let some v := Expr.print? init then
      write " = "
      v
  | .callSig s typeParams params ret => do
    leading s.lo
    angles s (Ty.items typeParams)
    parens s (Pat.items params)
    annotation (Ty.print? ret)
    write ";"
  | .constructSig s typeParams params ret => do
    token s "new "
    angles s (Ty.items typeParams)
    parens s (Pat.items params)
    annotation (Ty.print? ret)
    write ";"
  | .propertySig s isReadonly key computed optional ann => do
    leading s.lo
    modifier isReadonly "readonly"
    if computed then enclosed "[" key.print "]" else key.print
    onlyIf optional (write "?")
    annotation (Ty.print? ann)
    write ";"
  | .getterSig s key computed ann => do
    token s "get "
    if computed then enclosed "[" key.print "]" else key.print
    write "()"
    annotation (Ty.print? ann)
    write ";"
  | .setterSig s key computed param => do
    token s "set "
    if computed then enclosed "[" key.print "]" else key.print
    enclosed "(" (param.print true) ")"
    write ";"
  | .methodSig s key computed optional typeParams params ret => do
    leading s.lo
    if computed then enclosed "[" key.print "]" else key.print
    onlyIf optional (write "?")
    angles s (Ty.items typeParams)
    parens s (Pat.items params)
    annotation (Ty.print? ret)
    write ";"
termination_by structural m => m

def Func.printDecorators : Func → Print
  | ⟨_, decorators, _, _, _, _, _, _⟩ => Decorator.prints decorators
termination_by structural f => f

def Member.items : List Member → List (Span × Print)
  | [] => []
  | m :: ms => (m.span, m.print) :: Member.items ms
termination_by structural ms => ms

/-- A pattern; `tail` says whether the comments behind it belong to it. -/
def Pat.print (p : Pat) (tail : Bool) : Print := do
  match p with
  | .ident id ann =>
    ident id
    annotation (Ty.print? ann)
  | .array s elems optional ann =>
    leading s.lo
    let lastComma := match elems.getLast? with
      | some .hole => true
      | _ => false
    enclosed "[" (series { Layout.commas with lastComma } s (Pat.items elems)) "]"
    onlyIf optional (write "?")
    annotation (Ty.print? ann)
  | .hole => skip
  | .object s props optional ann =>
    leading s.lo
    enclosed "\x7b"
      (series (if props.isEmpty then Layout.commas else Layout.braced) s (Pat.items props)) "\x7d"
    onlyIf optional (write "?")
    annotation (Ty.print? ann)
  | .keyed key value =>
    key.print
    write ": "
    value.print true
  | .shorthand s id default =>
    leading s.lo
    ident id
    if let some d := Expr.print? default then
      write " = "
      d
  | .rest s dots arg ann =>
    leading s.lo
    token dots "..."
    arg.print true
    annotation (Ty.print? ann)
  | .default s left right =>
    leading s.lo
    left.print true
    write " = "
    right.print
  | .expr e => e.print
  onlyIf (tail && p.isWhole) (trailing p.span.hi true)
termination_by structural p

def Pat.items : List Pat → List (Span × Print)
  | [] => []
  | p :: ps => (p.span, p.print true) :: Pat.items ps
termination_by structural ps => ps

def Declarator.items : List Declarator → List (Span × Print)
  | [] => []
  | d :: ds => (d.span, d.print) :: Declarator.items ds
termination_by structural ds => ds

def Declarator.print : Declarator → Print
  | ⟨s, pat, _, init⟩ => do
    leading s.lo
    pat.print true
    if let some v := Expr.print? init then
      write " = "
      v
termination_by structural d => d

def Stmt.printBody : Stmt → Print
  | .expr _ e => indented e.print
  | .block b => b.print
  | _ => skip
termination_by structural s => s

/-- A statement or declaration. If `whole`, it comes with what ends it, and with the end
of its line unless it is a block. -/
def Stmt.print (s : Stmt) (whole : Bool) : Print := do
  match s with
  | .block b => b.print
  | .empty s => token s ";"
  | .debugger s => token s "debugger;"
  | .with s obj body =>
    token s "with "
    enclosed "(" obj.print ")"
    space
    body.print true
  | .ret s arg =>
    token s "return"
    if let some arg := Expr.print? arg then
      space
      arg
    write ";"
  | .labeled s label body =>
    leading s.lo
    ident label
    write ": "
    body.print true
  | .break s label =>
    token s "break"
    if let some l := label then
      space
      ident l
    write ";"
  | .continue s label =>
    token s "continue"
    if let some l := label then
      space
      ident l
    write ";"
  | .if s test yes no =>
    token s "if "
    enclosed "(" test.print ")"
    space
    yes.print true
    if let some no := Stmt.print? no then
      onlyIf yes.isBlock space
      write "else "
      no
  | .switch s subject cases =>
    token s "switch"
    enclosed "(" subject.print ")"
    enclosed "\x7b" (series Layout.statements s (Stmt.items cases)) "\x7d"
  | .case s test body =>
    leading s.lo
    match Expr.print? test with
    | none => write "default"
    | some t => do
      write "case "
      t
    write ":"
    onlyIf (!body.isEmpty) (series Layout.statements s (Stmt.items body))
  | .throw s arg =>
    token s "throw "
    arg.print
    write ";"
  | .try s body catchSpan param handler final =>
    token s "try "
    body.print
    if let some h := Block.print? handler then
      space
      token catchSpan "catch "
      match param with
      | .hole => skip
      | _ => enclosed "(" (param.print true) ")"
      space
      h
    if let some f := Block.print? final then
      write " finally"
      f
  | .while s test body =>
    token s "while"
    enclosed "(" test.print ")"
    body.print true
  | .doWhile s body test =>
    token s "do "
    body.print true
    write "while "
    enclosed "(" test.print ")"
  | .for s init test update body =>
    token s "for"
    enclosed "(" (do
      maybe (Stmt.head? init)
      write ";"
      if let some t := Expr.print? test then
        space
        t
      write ";"
      if let some u := Expr.print? update then
        space
        u) ")"
    body.print true
  | .forIn s left right body =>
    token s "for"
    enclosed "(" (do
      left.print false
      write " in "
      right.print) ")"
    body.print true
  | .forOf s await left right body =>
    token s "for "
    modifier await "await"
    enclosed "(" (do
      left.print false
      write " of "
      right.print) ")"
    body.print true
  | .expr s e =>
    leading s.lo
    e.print
  | .target p => p.print true
  | .var s kind declared decls =>
    leading s.lo
    modifier declared "declare"
    write (kind.text ++ " ")
    series Layout.commas s (Declarator.items decls)
  | .func name declared fn =>
    leading fn.span.lo
    modifier declared "declare"
    modifier fn.async "async"
    write "function"
    onlyIf fn.generator (write "*")
    space
    ident name
    fn.print
  | .cls name declared cls =>
    leading cls.span.lo
    modifier declared "declare"
    cls.print skip (some name)
  | .interface s name declared typeParams parents bodySpan members =>
    leading s.lo
    modifier declared "declare"
    write "interface "
    ident name
    angles s (Ty.items typeParams)
    onlyIf (!parents.isEmpty) do
      write " extends "
      series Layout.commas s (Ty.items parents)
    space
    leading bodySpan.lo
    enclosed "\x7b" (series Layout.statements bodySpan (Member.items members)) "\x7d"
  | .typeAlias s name declared typeParams ty =>
    leading s.lo
    modifier declared "declare"
    write "type "
    ident name
    angles s (Ty.items typeParams)
    write " = "
    ty.print
    write ";"
  | .enum s name declared isConst members =>
    leading s.lo
    modifier declared "declare"
    modifier isConst "const"
    write "enum "
    ident name
    space
    enclosed "\x7b" (series Layout.elements s (Member.items members)) "\x7d"
  | .namespace s name declared body =>
    leading s.lo
    modifier declared "declare"
    write "namespace "
    ident name
    Stmt.printNested body
  | .globalAugment s declared body =>
    leading s.lo
    modifier declared "declare"
    write "global"
    Stmt.printNested body
  | .ambientModule s name declared body =>
    leading s.lo
    modifier declared "declare"
    write "module "
    string name
    Stmt.printNested body
  | .moduleBlock s items =>
    leading s.lo
    enclosed "\x7b" (series Layout.statements s (Stmt.items items)) "\x7d"
  | .import s typeOnly specifiers source attrs => moduleDecl s do
    write "import "
    modifier typeOnly "type"
    importClause s specifiers
    string source
    if let some a := Expr.print? attrs then
      write " with "
      a
    write ";"
  | .exportDecl s (.cls name declared cls) => moduleDecl s do
    cls.print (write (if declared then "export declare " else "export ")) (some name)
  | .exportDecl s decl => moduleDecl s do
    write "export "
    decl.print false
    onlyIf decl.isVar (write ";")
  | .exportNamed s typeOnly specifiers source attrs => moduleDecl s do
    write "export "
    modifier typeOnly "type"
    exportClause s specifiers
    if let some source := source then
      write " from "
      string source
      if let some a := Expr.print? attrs then
        write " with "
        a
    write ";"
  | .exportDefaultDecl s decl => moduleDecl s do
    write "export default "
    decl.print
  | .exportDefaultInterface s decl => moduleDecl s do
    write "export default "
    decl.print false
  | .exportDefaultExpr s e => moduleDecl s do
    write "export default "
    e.print
    write ";"
  | .exportAll s typeOnly source attrs => moduleDecl s do
    write "export "
    modifier typeOnly "type"
    write "* from "
    string source
    if let some a := Expr.print? attrs then
      write " with "
      a
    write ";"
  | .importEquals s exported typeOnly id target => moduleDecl s do
    modifier exported "export"
    write "import "
    modifier typeOnly "type"
    ident id
    write " = "
    entity target
    write ";"
  | .importRequire s exported typeOnly id refSpan source => moduleDecl s do
    modifier exported "export"
    write "import "
    modifier typeOnly "type"
    ident id
    write " = "
    token refSpan "require"
    enclosed "(" (string source) ")"
    write ";"
  | .exportAssign s e => moduleDecl s do
    write "export = "
    e.print
    write ";"
  | .exportAsNamespace s id => moduleDecl s do
    write "export = "
    ident id
  onlyIf whole do
    onlyIf s.needsSemicolon (write ";")
    onlyIf s.endsLine do
      trailing s.span.hi true
      line
termination_by structural s

def Stmt.items : List Stmt → List (Span × Print)
  | [] => []
  | s :: ss => (s.span, s.print true) :: Stmt.items ss
termination_by structural ss => ss

def Stmt.print? : Option Stmt → Option Print
  | none => none
  | some s => some (s.print true)
termination_by structural s => s

def Stmt.head? : Option Stmt → Option Print
  | none => none
  | some s => some (s.print false)
termination_by structural s => s

def Stmt.printNested : Option Stmt → Print
  | none => skip
  | some (.namespace _ name _ body) => do
    write "."
    ident name
    Stmt.printNested body
  | some s => do
    space
    s.print false
termination_by structural s => s

def Ty.print (t : Ty) : Print :=
  match t with
  | .keyword s word => token s word.text
  | .this s => token s "this"
  | .ref s name args => do
    leading s.lo
    entity name
    angles s (Ty.items args)
  | .typeof s name args => do
    token s "typeof "
    entity name
    angles s (Ty.items args)
  | .typeofImport s arg args => do
    token s "typeof "
    arg.print
    angles s (Ty.items args)
  | .func s typeParams params ret => do
    leading s.lo
    angles s (Ty.items typeParams)
    parens s (Pat.items params)
    write " => "
    ret.print
  | .ctor s isAbstract typeParams params ret => do
    leading s.lo
    modifier isAbstract "abstract"
    write "new "
    angles s (Ty.items typeParams)
    parens s (Pat.items params)
    write " => "
    ret.print
  | .object s members => do
    leading s.lo
    enclosed "\x7b" (series Layout.statements s (Member.items members)) "\x7d"
  | .array s elem => do
    leading s.lo
    elem.print
    write "[]"
  | .tuple s elems => do
    leading s.lo
    enclosed "["
      (series (if elems.isEmpty then Layout.commas else Layout.elements) s (Ty.items elems)) "]"
  | .labeled s label ty => do
    leading s.lo
    label.print true
    write ": "
    ty.print
  | .optional s ty => do
    leading s.lo
    ty.print
    write "?"
  | .rest s ty => do
    token s "..."
    ty.print
  | .union s tys => do
    leading s.lo
    series { delimiter := some " |", spaced := true } s (Ty.items tys)
  | .inter s tys => do
    leading s.lo
    series { delimiter := some " &", spaced := true } s (Ty.items tys)
  | .cond s check ext yes no => do
    leading s.lo
    check.print
    write " extends "
    ext.print
    write " ? "
    yes.print
    write " : "
    no.print
  | .infer s param => do
    token s "infer "
    param.print
  | .paren s ty => do
    leading s.lo
    enclosed "(" ty.print ")"
  | .operator s op ty => do
    token s (op.text ++ " ")
    ty.print
  | .indexed s isReadonly obj index => do
    leading s.lo
    modifier isReadonly "readonly"
    obj.print
    enclosed "[" index.print "]"
  | .mapped s isReadonly param name optional ty => do
    leading s.lo
    write "\x7b"
    line
    indented do
      mapping "readonly" isReadonly
      onlyIf isReadonly.isSome space
      write "["
      param.printMapped
      if let some n := Ty.print? name then
        write " as "
        n
      write "]"
      mapping "?" optional
      annotation (Ty.print? ty)
      write ";"
      line
    write "\x7d"
  | .lit e => e.print
  | .template s quasis tys => do
    leading s.lo
    enclosed "`" (pieces quasis (Ty.prints tys)) "`"
  | .predicate s asserts subject ty => do
    leading s.lo
    modifier asserts "asserts"
    subject.print
    if let some t := Ty.print? ty then
      write " is "
      t
  | .name id => ident id
  | .import s arg name args => do
    token s "import"
    enclosed "(" (string arg) ")"
    if let some n := name then
      write "."
      entity n
    angles s (Ty.items args)
  | .heritage s e args => do
    leading s.lo
    e.print
    angles s (Ty.items args)
  | .param s name isIn isOut isConst constraint default => do
    leading s.lo
    modifier isConst "const"
    modifier isIn "in"
    modifier isOut "out"
    ident name
    if let some c := Ty.print? constraint then
      write " extends "
      c
    if let some d := Ty.print? default then
      write " = "
      d
termination_by structural t

def Ty.printMapped : Ty → Print
  | .param _ name _ _ _ constraint _ => do
    ident name
    if let some c := Ty.print? constraint then
      write " in "
      c
  | _ => skip
termination_by structural t => t

def Ty.prints : List Ty → List Print
  | [] => []
  | t :: ts => t.print :: Ty.prints ts
termination_by structural ts => ts

def Ty.items : List Ty → List (Span × Print)
  | [] => []
  | t :: ts => (t.span, t.print) :: Ty.items ts
termination_by structural ts => ts

def Ty.print? : Option Ty → Option Print
  | none => none
  | some t => some t.print
termination_by structural t => t

end

end Unbundled.Script
