import Unbundled.Number.Double

namespace Unbundled.Script

open Number (Double)

/-- A stretch of source text. Positions count characters from 1; `0` marks a node that
has been made later and stands nowhere in the source. -/
structure Span where
  lo : Nat
  hi : Nat
deriving Repr, DecidableEq, Inhabited

namespace Span

def absent : Span := ⟨0, 0⟩

def through (a b : Span) : Span := ⟨a.lo, b.hi⟩

end Span

/-- A name that refers to or introduces a binding. `scope` tells apart bindings of
one name once scopes have been resolved; until then it is `0`. -/
structure Ident where
  name : String
  span : Span
  scope : Nat := 0
  optional : Bool := false
deriving Repr, DecidableEq, Inhabited

/-- A name that is only a label: a property, an exported name, an attribute. -/
structure Word where
  name : String
  span : Span
deriving Repr, DecidableEq, Inhabited

/-- A string literal. `raw` is its spelling in the source, if it has one. -/
structure StringLit where
  value : String
  raw : Option String
  span : Span
deriving Repr, DecidableEq, Inhabited

/-- A piece of a template. `cooked` is absent if the piece holds an escape that only
a tagged template may hold. -/
structure Quasi where
  span : Span
  cooked : Option String
  raw : String
deriving Repr, DecidableEq, Inhabited

inductive UnaryOp where
  | minus | plus | bang | tilde | typeof | void | delete
deriving Repr, DecidableEq, Inhabited

inductive BinaryOp where
  | eq | notEq | strictEq | strictNotEq | lt | ltEq | gt | gtEq
  | shiftLeft | shiftRight | shiftRightZero
  | add | sub | mul | div | mod | exp
  | bitOr | bitXor | bitAnd | or | and | coalesce
  | in_ | instanceof
deriving Repr, DecidableEq, Inhabited

inductive AssignOp where
  | plain
  | with (op : BinaryOp)
deriving Repr, DecidableEq, Inhabited

inductive VarKind where
  | var | let | const | using | awaitUsing
deriving Repr, DecidableEq, Inhabited

inductive MethodKind where
  | method | getter | setter
deriving Repr, DecidableEq, Inhabited

inductive Access where
  | open | inherited | hidden
deriving Repr, DecidableEq, Inhabited

inductive TyKeyword where
  | any | unknown | number | object | boolean | bigint | string | symbol
  | void | undefined | null | never | intrinsic
deriving Repr, DecidableEq, Inhabited

inductive TyOperator where
  | keyof | unique | readonly
deriving Repr, DecidableEq, Inhabited

/-- How a mapped type treats `readonly` or `?`: adds it (`+` or plain) or removes it. -/
inductive Mapping where
  | present | plus | minus
deriving Repr, DecidableEq, Inhabited

inductive EntityName where
  | ident (id : Ident)
  | qualified (span : Span) (left : EntityName) (right : Word)
deriving Repr, DecidableEq, Inhabited

inductive ExportName where
  | ident (id : Ident)
  | str (lit : StringLit)
deriving Repr, DecidableEq, Inhabited

inductive ImportSpecifier where
  | named (span : Span) (local_ : Ident) (imported : Option ExportName) (typeOnly : Bool)
  | default (local_ : Ident)
  | star (span : Span) (local_ : Ident)
deriving Repr, DecidableEq, Inhabited

inductive ExportSpecifier where
  | named (span : Span) (orig : ExportName) (exported : Option ExportName) (typeOnly : Bool)
  | default (exported : Ident)
  | star (span : Span) (name : ExportName)
deriving Repr, DecidableEq, Inhabited

structure Modifiers where
  access : Option Access := none
  isStatic : Bool := false
  isAbstract : Bool := false
  isOverride : Bool := false
  isReadonly : Bool := false
  isDeclare : Bool := false
  isOptional : Bool := false
  isDefinite : Bool := false
deriving Repr, DecidableEq, Inhabited

inductive JsxName where
  | ident (id : Ident)
  | namespaced (span : Span) (ns name : Word)
  | member (span : Span) (object : JsxName) (prop : Word)
deriving Repr, DecidableEq, Inhabited

mutual

inductive Expr where
  | this (span : Span)
  | super (span : Span)
  /-- The callee of `import(…)`. -/
  | importCallee (span : Span)
  | ident (id : Ident)
  | str (lit : StringLit)
  | num (span : Span) (value : Double) (raw : Option String)
  | bigint (span : Span) (raw : String)
  | bool (span : Span) (value : Bool)
  | null (span : Span)
  | regex (span : Span) (pattern flags : String)
  | template (span : Span) (quasis : List Quasi) (exprs : List Expr)
  | tagged (span : Span) (tag : Expr) (typeArgs : List Ty) (quasi : Expr)
  | array (span : Span) (elems : List Expr)
  /-- A missing element of an array. -/
  | hole
  | spread (dots : Span) (arg : Expr)
  | object (span : Span) (props : List Property)
  | func (name : Option Ident) (fn : Func)
  /-- A concise body is an expression statement, any other body a block. -/
  | arrow (span : Span) (async : Bool) (typeParams : List Ty) (params : List Pat)
      (ret : Option Ty) (body : Stmt)
  | cls (name : Option Ident) (cls : Class)
  | unary (span : Span) (op : UnaryOp) (arg : Expr)
  | update (span : Span) (increment isPrefix : Bool) (arg : Expr)
  | binary (span : Span) (op : BinaryOp) (left right : Expr)
  | assign (span : Span) (op : AssignOp) (target : Pat) (value : Expr)
  | member (span : Span) (obj : Expr) (key : Key)
  | cond (span : Span) (test yes no : Expr)
  | call (span : Span) (callee : Expr) (typeArgs : List Ty) (args : List Expr)
  | new (span : Span) (callee : Expr) (typeArgs : List Ty) (hasArgs : Bool)
      (args : List Expr)
  | seq (span : Span) (exprs : List Expr)
  | yield (span : Span) (delegate : Bool) (arg : Option Expr)
  | await (span : Span) (arg : Expr)
  | newTarget (span : Span)
  | importMeta (span : Span)
  | paren (span : Span) (inner : Expr)
  /-- A member access or call in a chain that holds a `?.`; `optional` if this link has it. -/
  | chain (span : Span) (optional : Bool) (base : Expr)
  | privateName (name : Word)
  | jsx (span : Span) (openSpan : Span) (name : Option JsxName) (typeArgs : List Ty)
      (attrs : List Property) (closed : Option Span) (children : List Expr)
  | jsxText (span : Span) (value raw : String)
  /-- A braced child or attribute value; without an expression it is `{}`. -/
  | jsxBraced (span : Span) (inner : Option Expr)
  | asType (span : Span) (arg : Expr) (ty : Ty)
  | asConst (span : Span) (arg : Expr)
  | satisfies (span : Span) (arg : Expr) (ty : Ty)
  | typeAssertion (span : Span) (ty : Ty) (arg : Expr)
  | constAssertion (span : Span) (arg : Expr)
  | nonNull (span : Span) (arg : Expr)
  | instantiation (span : Span) (arg : Expr) (typeArgs : List Ty)

structure Func where
  span : Span
  decorators : List Expr
  async : Bool
  generator : Bool
  typeParams : List Ty
  params : List Param
  ret : Option Ty
  body : Option Block

structure Block where
  span : Span
  stmts : List Stmt

/-- A parameter. One with an access modifier, `readonly` or `override` also declares
a property of the class. -/
structure Param where
  span : Span
  decorators : List Expr
  access : Option Access
  isReadonly : Bool
  isOverride : Bool
  pat : Pat

structure Class where
  span : Span
  decorators : List Expr
  isAbstract : Bool
  typeParams : List Ty
  superClass : Option Expr
  superArgs : List Ty
  implements : List Ty
  members : List Member

inductive Key where
  | word (word : Word)
  | str (lit : StringLit)
  | num (span : Span) (value : Double) (raw : Option String)
  | bigint (span : Span) (raw : String)
  | computed (span : Span) (expr : Expr)
  | priv (name : Word)

inductive Property where
  | spread (dots : Span) (arg : Expr)
  | shorthand (id : Ident)
  | keyed (key : Key) (value : Expr)
  /-- `a = 1` in a literal that is going to be a pattern. -/
  | shorthandInit (id : Ident) (value : Expr)
  | method (kind : MethodKind) (key : Key) (fn : Func)
  | attr (span : Span) (name : JsxName) (value : Option Expr)

inductive Member where
  | ctor (span : Span) (mods : Modifiers) (key : Key) (params : List Param) (body : Option Block)
  | method (span : Span) (mods : Modifiers) (kind : MethodKind) (key : Key) (fn : Func)
  | field (span : Span) (mods : Modifiers) (accessor : Bool) (decorators : List Expr) (key : Key)
      (ann : Option Ty) (value : Option Expr)
  | staticBlock (span : Span) (body : Block)
  | index (span : Span) (mods : Modifiers) (params : List Pat) (ann : Option Ty)
  | empty (span : Span)
  | enumCase (span : Span) (key : Key) (init : Option Expr)
  | callSig (span : Span) (typeParams : List Ty) (params : List Pat) (ret : Option Ty)
  | constructSig (span : Span) (typeParams : List Ty) (params : List Pat) (ret : Option Ty)
  | propertySig (span : Span) (isReadonly : Bool) (key : Expr) (computed optional : Bool)
      (ann : Option Ty)
  | getterSig (span : Span) (key : Expr) (computed : Bool) (ann : Option Ty)
  | setterSig (span : Span) (key : Expr) (computed : Bool) (param : Pat)
  | methodSig (span : Span) (key : Expr) (computed optional : Bool) (typeParams : List Ty)
      (params : List Pat) (ret : Option Ty)

inductive Pat where
  | ident (id : Ident) (ann : Option Ty)
  | array (span : Span) (elems : List Pat) (optional : Bool) (ann : Option Ty)
  /-- A missing element, or the missing parameter of a `catch`. -/
  | hole
  | object (span : Span) (props : List Pat) (optional : Bool) (ann : Option Ty)
  /-- `key: value`, inside an object pattern. -/
  | keyed (key : Key) (value : Pat)
  /-- `name` or `name = default`, inside an object pattern. -/
  | shorthand (span : Span) (id : Ident) (default : Option Expr)
  | rest (span : Span) (dots : Span) (arg : Pat) (ann : Option Ty)
  | default (span : Span) (left : Pat) (right : Expr)
  /-- An assignment target that is no pattern. -/
  | expr (expr : Expr)

structure Declarator where
  span : Span
  pat : Pat
  definite : Bool
  init : Option Expr

inductive Stmt where
  | block (block : Block)
  | empty (span : Span)
  | debugger (span : Span)
  | with (span : Span) (obj : Expr) (body : Stmt)
  | ret (span : Span) (arg : Option Expr)
  | labeled (span : Span) (label : Ident) (body : Stmt)
  | break (span : Span) (label : Option Ident)
  | continue (span : Span) (label : Option Ident)
  | if (span : Span) (test : Expr) (yes : Stmt) (no : Option Stmt)
  | switch (span : Span) (subject : Expr) (cases : List Stmt)
  /-- A clause of a switch; `default` has no test. -/
  | case (span : Span) (test : Option Expr) (body : List Stmt)
  | throw (span : Span) (arg : Expr)
  | try (span : Span) (body : Block) (catchSpan : Span) (param : Pat)
      (handler : Option Block) (final : Option Block)
  | while (span : Span) (test : Expr) (body : Stmt)
  | doWhile (span : Span) (body : Stmt) (test : Expr)
  | for (span : Span) (init : Option Stmt) (test update : Option Expr) (body : Stmt)
  | forIn (span : Span) (left : Stmt) (right : Expr) (body : Stmt)
  | forOf (span : Span) (await : Bool) (left : Stmt) (right : Expr) (body : Stmt)
  | expr (span : Span) (expr : Expr)
  /-- The left side of `for … in` or `for … of` if it declares nothing. -/
  | target (pat : Pat)
  | var (span : Span) (kind : VarKind) (declared : Bool) (decls : List Declarator)
  | func (name : Ident) (declared : Bool) (fn : Func)
  | cls (name : Ident) (declared : Bool) (cls : Class)
  | interface (span : Span) (name : Ident) (declared : Bool) (typeParams : List Ty)
      (parents : List Ty) (bodySpan : Span) (members : List Member)
  | typeAlias (span : Span) (name : Ident) (declared : Bool) (typeParams : List Ty) (ty : Ty)
  | enum (span : Span) (name : Ident) (declared isConst : Bool) (members : List Member)
  | namespace (span : Span) (name : Ident) (declared : Bool) (body : Option Stmt)
  | globalAugment (span : Span) (declared : Bool) (body : Option Stmt)
  | ambientModule (span : Span) (name : StringLit) (declared : Bool) (body : Option Stmt)
  | moduleBlock (span : Span) (items : List Stmt)
  | import (span : Span) (typeOnly : Bool) (specifiers : List ImportSpecifier)
      (source : StringLit) (attrs : Option Expr)
  | exportDecl (span : Span) (decl : Stmt)
  | exportNamed (span : Span) (typeOnly : Bool) (specifiers : List ExportSpecifier)
      (source : Option StringLit) (attrs : Option Expr)
  | exportDefaultDecl (span : Span) (decl : Expr)
  | exportDefaultInterface (span : Span) (decl : Stmt)
  | exportDefaultExpr (span : Span) (expr : Expr)
  | exportAll (span : Span) (typeOnly : Bool) (source : StringLit) (attrs : Option Expr)
  | importEquals (span : Span) (exported typeOnly : Bool) (id : Ident) (target : EntityName)
  | importRequire (span : Span) (exported typeOnly : Bool) (id : Ident) (refSpan : Span)
      (source : StringLit)
  | exportAssign (span : Span) (expr : Expr)
  | exportAsNamespace (span : Span) (id : Ident)

inductive Ty where
  | keyword (span : Span) (word : TyKeyword)
  | this (span : Span)
  | ref (span : Span) (name : EntityName) (args : List Ty)
  | typeof (span : Span) (name : EntityName) (args : List Ty)
  | typeofImport (span : Span) (arg : Ty) (args : List Ty)
  | func (span : Span) (typeParams : List Ty) (params : List Pat) (ret : Ty)
  | ctor (span : Span) (isAbstract : Bool) (typeParams : List Ty) (params : List Pat) (ret : Ty)
  | object (span : Span) (members : List Member)
  | array (span : Span) (elem : Ty)
  | tuple (span : Span) (elems : List Ty)
  | labeled (span : Span) (label : Pat) (ty : Ty)
  | optional (span : Span) (ty : Ty)
  | rest (span : Span) (ty : Ty)
  | union (span : Span) (tys : List Ty)
  | inter (span : Span) (tys : List Ty)
  | cond (span : Span) (check ext yes no : Ty)
  | infer (span : Span) (param : Ty)
  | paren (span : Span) (ty : Ty)
  | operator (span : Span) (op : TyOperator) (ty : Ty)
  | indexed (span : Span) (isReadonly : Bool) (obj index : Ty)
  | mapped (span : Span) (isReadonly : Option Mapping) (param : Ty) (name : Option Ty)
      (optional : Option Mapping) (ty : Option Ty)
  | lit (expr : Expr)
  | template (span : Span) (quasis : List Quasi) (tys : List Ty)
  /-- `x is T` or `asserts x is T`; the subject may be `this`. -/
  | predicate (span : Span) (asserts : Bool) (subject : Ty) (ty : Option Ty)
  | name (id : Ident)
  | import (span : Span) (arg : StringLit) (name : Option EntityName) (args : List Ty)
  /-- `e<T>` in a heritage clause. -/
  | heritage (span : Span) (expr : Expr) (args : List Ty)
  /-- A type parameter where it is declared. -/
  | param (span : Span) (name : Ident) (isIn isOut isConst : Bool)
      (constraint default : Option Ty)

end

end Unbundled.Script
