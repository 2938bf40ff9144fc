import Mathlib.Logic.Relation
import Unbundled.Script.Identifiers

namespace Unbundled.Proofs.Occurrence

open Script

/-! ## Nodes and their parts -/

inductive Node where
  | ident (id : Ident)
  | entity (name : EntityName)
  | exportName (name : ExportName)
  | jsxName (name : JsxName)
  | expr (e : Expr)
  | func (f : Func)
  | block (b : Block)
  | param (p : Param)
  | cls (c : Script.Class)
  | key (k : Key)
  | property (p : Property)
  | member (m : Member)
  | pat (p : Pat)
  | declarator (d : Declarator)
  | stmt (s : Stmt)
  | ty (t : Ty)

section

variable {α : Type}

def each (f : α → Node) (xs : List α) : List Node := xs.map f

def each? (f : α → Node) (x : Option α) : List Node := x.toList.map f

end

def entityParts : EntityName → List Node
  | .ident id => [.ident id]
  | .qualified _ left _ => [.entity left]

def exportNameParts : ExportName → List Node
  | .ident id => [.ident id]
  | .str _ => []

def exportSpecifierParts : ExportSpecifier → List Node
  | .named _ orig exported _ => .exportName orig :: each? .exportName exported
  | .default id => [.ident id]
  | .star _ name => [.exportName name]

def importSpecifierParts : ImportSpecifier → List Node
  | .named _ id imported _ => .ident id :: each? .exportName imported
  | .default id | .star _ id => [.ident id]

def jsxNameParts : JsxName → List Node
  | .ident id => [.ident id]
  | .namespaced .. => []
  | .member _ object _ => [.jsxName object]

def exprParts : Expr → List Node
  | .ident id => [.ident id]
  | .this _ | .super _ | .importCallee _ | .str _ | .num .. | .bigint .. | .bool .. | .null _
  | .regex .. | .hole | .newTarget _ | .importMeta _ | .privateName _ | .jsxText .. => []
  | .template _ _ es | .array _ es | .seq _ es => each .expr es
  | .tagged _ tag ts quasi => .expr tag :: each .ty ts ++ [.expr quasi]
  | .spread _ e | .unary _ _ e | .update _ _ _ e | .await _ e | .paren _ e | .chain _ _ e
  | .asConst _ e | .constAssertion _ e | .nonNull _ e => [.expr e]
  | .object _ props => each .property props
  | .func name fn => each? .ident name ++ [.func fn]
  | .arrow _ _ tps ps ret body => each .ty tps ++ each .pat ps ++ each? .ty ret ++ [.stmt body]
  | .cls name c => each? .ident name ++ [.cls c]
  | .binary _ _ a b => [.expr a, .expr b]
  | .assign _ _ target value => [.pat target, .expr value]
  | .member _ obj key => [.expr obj, .key key]
  | .cond _ test yes no => [.expr test, .expr yes, .expr no]
  | .call _ callee ts args | .new _ callee ts _ args =>
    .expr callee :: each .ty ts ++ each .expr args
  | .yield _ _ arg => each? .expr arg
  | .jsx _ _ name ts attrs closed children =>
    each? .jsxName name ++ each .ty ts ++ each .property attrs ++ each .expr children ++
      if closed.isSome then each? .jsxName name else []
  | .jsxBraced _ e => each? .expr e
  | .asType _ e t | .satisfies _ e t => [.expr e, .ty t]
  | .typeAssertion _ t e => [.ty t, .expr e]
  | .instantiation _ e ts => .expr e :: each .ty ts

def funcParts (f : Func) : List Node :=
  each .expr f.decorators ++ each .ty f.typeParams ++ each .param f.params ++ each? .ty f.ret ++
    each? .block f.body

def blockParts (b : Block) : List Node := each .stmt b.stmts

def paramParts (p : Param) : List Node := each .expr p.decorators ++ [.pat p.pat]

def clsParts (c : Script.Class) : List Node :=
  each .expr c.decorators ++ each .ty c.typeParams ++ each? .expr c.superClass ++
    each .ty c.superArgs ++ each .ty c.implements ++ each .member c.members

/-- A key in brackets is an expression, any other one only a label. -/
def keyParts : Key → List Node
  | .computed _ e => [.expr e]
  | .word _ | .str _ | .num .. | .bigint .. | .priv _ => []

def propertyParts : Property → List Node
  | .spread _ e => [.expr e]
  | .shorthand id => [.ident id]
  | .keyed key value => [.key key, .expr value]
  | .shorthandInit id value => [.ident id, .expr value]
  | .method _ key fn => [.key key, .func fn]
  | .attr _ _ value => each? .expr value

/-- The name of a case of an enum, which is one inside of the enum, too. -/
def caseNameParts : Key → List Node
  | .word w => [.ident { name := w.name, span := w.span }]
  | key => [.key key]

def memberParts : Member → List Node
  | .ctor _ _ key ps body => .key key :: each .param ps ++ each? .block body
  | .method _ _ _ key fn => [.key key, .func fn]
  | .field _ _ _ ds key ann value =>
    each .expr ds ++ [.key key] ++ each? .ty ann ++ each? .expr value
  | .staticBlock _ body => [.block body]
  | .index _ _ ps ann => each .pat ps ++ each? .ty ann
  | .empty _ => []
  | .enumCase _ key init => caseNameParts key ++ each? .expr init
  | .callSig _ tps ps ret | .constructSig _ tps ps ret =>
    each .ty tps ++ each .pat ps ++ each? .ty ret
  | .propertySig _ _ key _ _ ann | .getterSig _ key _ ann => .expr key :: each? .ty ann
  | .setterSig _ key _ param => [.expr key, .pat param]
  | .methodSig _ key _ _ tps ps ret =>
    .expr key :: each .ty tps ++ each .pat ps ++ each? .ty ret

def patParts : Pat → List Node
  | .ident id ann => .ident id :: each? .ty ann
  | .array _ ps _ ann | .object _ ps _ ann => each .pat ps ++ each? .ty ann
  | .hole => []
  | .keyed key value => [.key key, .pat value]
  | .shorthand _ id default => .ident id :: each? .expr default
  | .rest _ _ arg ann => .pat arg :: each? .ty ann
  | .default _ left right => [.pat left, .expr right]
  | .expr e => [.expr e]

def declaratorParts (d : Declarator) : List Node := .pat d.pat :: each? .expr d.init

def stmtParts : Stmt → List Node
  | .block b => [.block b]
  | .empty _ | .debugger _ => []
  | .with _ obj body => [.expr obj, .stmt body]
  | .ret _ arg => each? .expr arg
  | .labeled _ label body => [.ident label, .stmt body]
  | .break _ label | .continue _ label => each? .ident label
  | .if _ test yes no => [.expr test, .stmt yes] ++ each? .stmt no
  | .switch _ subject cases => .expr subject :: each .stmt cases
  | .case _ test body => each? .expr test ++ each .stmt body
  | .throw _ e => [.expr e]
  | .try _ body _ param handler final =>
    [.block body, .pat param] ++ each? .block handler ++ each? .block final
  | .while _ test body => [.expr test, .stmt body]
  | .doWhile _ body test => [.stmt body, .expr test]
  | .for _ init test update body =>
    each? .stmt init ++ each? .expr test ++ each? .expr update ++ [.stmt body]
  | .forIn _ left right body | .forOf _ _ left right body => [.stmt left, .expr right, .stmt body]
  | .expr _ e => [.expr e]
  | .target p => [.pat p]
  | .var _ _ _ decls => each .declarator decls
  | .func name _ fn => [.ident name, .func fn]
  | .cls name _ c => [.ident name, .cls c]
  | .interface _ name _ tps parents _ members =>
    .ident name :: each .ty tps ++ each .ty parents ++ each .member members
  | .typeAlias _ name _ tps ty => .ident name :: each .ty tps ++ [.ty ty]
  | .enum _ name _ _ members => .ident name :: each .member members
  | .namespace _ name _ body => .ident name :: each? .stmt body
  | .globalAugment s _ body => .ident { name := "global", span := s } :: each? .stmt body
  | .ambientModule _ _ _ body => each? .stmt body
  | .moduleBlock _ items => each .stmt items
  | .import _ _ specifiers _ attrs =>
    specifiers.flatMap importSpecifierParts ++ each? .expr attrs
  | .exportDecl _ decl | .exportDefaultInterface _ decl => [.stmt decl]
  | .exportNamed _ _ specifiers _ attrs =>
    specifiers.flatMap exportSpecifierParts ++ each? .expr attrs
  | .exportDefaultDecl _ e | .exportDefaultExpr _ e | .exportAssign _ e => [.expr e]
  | .exportAll _ _ _ attrs => each? .expr attrs
  | .importEquals _ _ _ id target => [.ident id, .entity target]
  | .importRequire _ _ _ id _ _ | .exportAsNamespace _ id => [.ident id]

def tyParts : Ty → List Node
  | .keyword .. | .this _ => []
  | .ref _ name args | .typeof _ name args => .entity name :: each .ty args
  | .typeofImport _ arg args => .ty arg :: each .ty args
  | .func _ tps ps ret | .ctor _ _ tps ps ret => each .ty tps ++ each .pat ps ++ [.ty ret]
  | .object _ members => each .member members
  | .array _ t | .optional _ t | .rest _ t | .paren _ t | .operator _ _ t | .infer _ t => [.ty t]
  | .tuple _ ts | .union _ ts | .inter _ ts | .template _ _ ts => each .ty ts
  | .labeled _ label t => [.pat label, .ty t]
  | .cond _ check ext yes no => [.ty check, .ty ext, .ty yes, .ty no]
  | .indexed _ _ obj index => [.ty obj, .ty index]
  | .mapped _ _ param name _ ty => .ty param :: each? .ty name ++ each? .ty ty
  | .lit e => [.expr e]
  | .predicate _ _ subject ty => .ty subject :: each? .ty ty
  | .name id => [.ident id]
  | .import _ _ name args => each? .entity name ++ each .ty args
  | .heritage _ e args => .expr e :: each .ty args
  | .param _ name _ _ _ constraint default =>
    .ident name :: each? .ty constraint ++ each? .ty default

def parts : Node → List Node
  | .ident _ => []
  | .entity name => entityParts name
  | .exportName name => exportNameParts name
  | .jsxName name => jsxNameParts name
  | .expr e => exprParts e
  | .func f => funcParts f
  | .block b => blockParts b
  | .param p => paramParts p
  | .cls c => clsParts c
  | .key k => keyParts k
  | .property p => propertyParts p
  | .member m => memberParts m
  | .pat p => patParts p
  | .declarator d => declaratorParts d
  | .stmt s => stmtParts s
  | .ty t => tyParts t

/-! ## Occurrences -/

def Shows (hidden : Stmt → Bool) (n part : Node) : Prop :=
  part ∈ parts n ∧ ∀ s, n = .stmt s → hidden s = false

/-- An identifier that can be reached from a node, from part to part. -/
def Occurs (hidden : Stmt → Bool) (id : Ident) (n : Node) : Prop :=
  Relation.ReflTransGen (Shows hidden) n (.ident id)

def namesForeign : Stmt → Bool
  | .import .. | .exportNamed _ _ _ (some _) _ => true
  | _ => false

/-! ## What is collected -/

def identifiers : Node → List Ident
  | .ident id => [id]
  | .entity name => name.identifiers
  | .exportName name => name.identifiers
  | .jsxName name => name.identifiers
  | .expr e => e.identifiers
  | .func f => f.identifiers
  | .block b => b.identifiers
  | .param p => p.identifiers
  | .cls c => c.identifiers
  | .key k => k.identifiers
  | .property p => p.identifiers
  | .member m => m.identifiers
  | .pat p => p.identifiers
  | .declarator d => d.identifiers
  | .stmt s => s.identifiers
  | .ty t => t.identifiers

def collected (ns : List Node) : List Ident := ns.flatMap identifiers

@[simp low]
theorem collected_cons (n : Node) (ns : List Node) :
    collected (n :: ns) = identifiers n ++ collected ns := List.flatMap_cons

@[simp]
theorem collected_singleton (n : Node) : collected [n] = identifiers n := List.flatMap_singleton ..

@[simp]
theorem collected_append (a b : List Node) : collected (a ++ b) = collected a ++ collected b :=
  List.flatMap_append

theorem collected_each {α : Type} {f : α → Node} {collect : List α → List Ident}
    (hnil : collect [] = []) (hcons : ∀ x xs, collect (x :: xs) = identifiers (f x) ++ collect xs)
    (xs : List α) : collected (each f xs) = collect xs := by
  induction xs with
  | nil => exact hnil.symm
  | cons x xs ih =>
      rw [hcons, ← ih]
      exact collected_cons (f x) (each f xs)

@[simp]
theorem collected_exprs (es : List Expr) : collected (each .expr es) = Expr.identifiersOf es :=
  collected_each rfl (fun _ _ => rfl) es

@[simp]
theorem collected_params (ps : List Param) : collected (each .param ps) = Param.identifiersOf ps :=
  collected_each rfl (fun _ _ => rfl) ps

@[simp]
theorem collected_properties (ps : List Property) :
    collected (each .property ps) = Property.identifiersOf ps :=
  collected_each rfl (fun _ _ => rfl) ps

@[simp]
theorem collected_members (ms : List Member) :
    collected (each .member ms) = Member.identifiersOf ms :=
  collected_each rfl (fun _ _ => rfl) ms

@[simp]
theorem collected_pats (ps : List Pat) : collected (each .pat ps) = Pat.identifiersOf ps :=
  collected_each rfl (fun _ _ => rfl) ps

@[simp]
theorem collected_declarators (ds : List Declarator) :
    collected (each .declarator ds) = Declarator.identifiersOf ds :=
  collected_each rfl (fun _ _ => rfl) ds

@[simp]
theorem collected_stmts (ss : List Stmt) : collected (each .stmt ss) = Stmt.identifiersOf ss :=
  collected_each rfl (fun _ _ => rfl) ss

@[simp]
theorem collected_tys (ts : List Ty) : collected (each .ty ts) = Ty.identifiersOf ts :=
  collected_each rfl (fun _ _ => rfl) ts

theorem collected_each? {α : Type} {f : α → Node} (x : Option α) :
    collected (each? f x) = (x.map fun a => identifiers (f a)).getD [] := by
  cases x with
  | none => rfl
  | some a => exact List.append_nil _

@[simp]
theorem collected_ident? (id : Option Ident) : collected (each? .ident id) = id.toList := by
  cases id <;> rfl

@[simp]
theorem collected_expr? (e : Option Expr) : collected (each? .expr e) = Expr.identifiers? e := by
  rw [collected_each?]
  cases e <;> rfl

@[simp]
theorem collected_block? (b : Option Block) : collected (each? .block b) = Block.identifiers? b := by
  rw [collected_each?]
  cases b <;> rfl

@[simp]
theorem collected_stmt? (s : Option Stmt) : collected (each? .stmt s) = Stmt.identifiers? s := by
  rw [collected_each?]
  cases s <;> rfl

@[simp]
theorem collected_ty? (t : Option Ty) : collected (each? .ty t) = Ty.identifiers? t := by
  rw [collected_each?]
  cases t <;> rfl

@[simp]
theorem collected_jsxName? (n : Option JsxName) :
    collected (each? .jsxName n) = (n.map JsxName.identifiers).getD [] := collected_each? n

@[simp]
theorem collected_entity? (n : Option EntityName) :
    collected (each? .entity n) = (n.map EntityName.identifiers).getD [] := collected_each? n

@[simp]
theorem collected_exportName? (n : Option ExportName) :
    collected (each? .exportName n) = (n.map ExportName.identifiers).getD [] := collected_each? n

theorem expr_identifiers (e : Expr) : e.identifiers = collected (exprParts e) := by
  cases e <;> simp [exprParts, identifiers, apply_ite collected, ← List.append_assoc] <;> rfl

theorem pat_identifiers (p : Pat) : p.identifiers = collected (patParts p) := by
  cases p <;> simp [patParts, identifiers] <;> rfl

theorem property_identifiers (p : Property) : p.identifiers = collected (propertyParts p) := by
  cases p <;> simp [propertyParts, identifiers] <;> rfl

theorem key_identifiers (k : Key) : k.identifiers = collected (keyParts k) := by
  cases k <;> simp [keyParts, identifiers] <;> rfl

theorem member_identifiers (m : Member) : m.identifiers = collected (memberParts m) := by
  cases m with
  | enumCase s key init => cases key <;> simp [memberParts, caseNameParts, identifiers] <;> rfl
  | _ =>
      simp [memberParts, identifiers, ← List.append_assoc]
      rfl

theorem ty_identifiers (t : Ty) : t.identifiers = collected (tyParts t) := by
  cases t <;> simp [tyParts, identifiers, ← List.append_assoc] <;> rfl

theorem exportSpecifier_identifiers (i : ExportSpecifier) :
    i.identifiers = collected (exportSpecifierParts i) := by
  cases i <;> simp [exportSpecifierParts, identifiers] <;> rfl

theorem stmt_identifiers {s : Stmt} (h : namesForeign s = false) :
    s.identifiers = collected (stmtParts s) := by
  cases s with
  | «import» => cases h
  | exportNamed s typeOnly specifiers source attrs =>
      cases source with
      | some source => cases h
      | none =>
          have hspecifiers : specifiers.flatMap ExportSpecifier.identifiers =
              collected (specifiers.flatMap exportSpecifierParts) := by
            rw [collected, List.flatMap_assoc]
            exact congrArg specifiers.flatMap (funext exportSpecifier_identifiers)
          rw [stmtParts, collected_append, ← hspecifiers, collected_expr?]
          rfl
  | _ =>
      simp [stmtParts, identifiers, ← List.append_assoc]
      rfl

theorem identifiers_eq {n : Node} (hident : ∀ id, n ≠ .ident id)
    (hshown : ∀ s, n = .stmt s → namesForeign s = false) :
    identifiers n = collected (parts n) := by
  cases n with
  | ident id => exact absurd rfl (hident id)
  | entity name => cases name <;> simp [parts, entityParts, identifiers, EntityName.identifiers]
  | exportName name =>
      cases name with
      | ident id => simp [parts, exportNameParts, identifiers, ExportName.identifiers]
      | str => rfl
  | jsxName name =>
      cases name with
      | namespaced => rfl
      | _ => simp [parts, jsxNameParts, identifiers, JsxName.identifiers]
  | expr e => exact expr_identifiers e
  | func f => cases f; simp [parts, funcParts, identifiers, Func.identifiers]
  | block b => cases b; simp [parts, blockParts, identifiers, Block.identifiers]
  | param p => cases p; simp [parts, paramParts, identifiers, Param.identifiers]
  | cls c => cases c; simp [parts, clsParts, identifiers, Class.identifiers]
  | key k => exact key_identifiers k
  | property p => exact property_identifiers p
  | member m => exact member_identifiers m
  | pat p => exact pat_identifiers p
  | declarator d => cases d; simp [parts, declaratorParts, identifiers, Declarator.identifiers]
  | stmt s => exact stmt_identifiers (hshown s rfl)
  | ty t => exact ty_identifiers t

theorem identifiers_hidden {s : Stmt} (h : namesForeign s = true) : s.identifiers = [] := by
  cases s with
  | «import» => rfl
  | exportNamed s typeOnly specifiers source attrs =>
      cases source with
      | some source => rfl
      | none => cases h
  | _ => cases h

/-! ## Parts are smaller -/

/-- The nodes are identifiers, which have no parts, or smaller than `k`. -/
def Below (k : Nat) (ns : List Node) : Prop := ∀ n ∈ ns, (∃ id, n = .ident id) ∨ sizeOf n < k

section

variable {k : Nat}

@[simp]
theorem below_nil : Below k [] := nofun

@[simp]
theorem below_cons {n : Node} {ns : List Node} :
    Below k (n :: ns) ↔ ((∃ id, n = .ident id) ∨ sizeOf n < k) ∧ Below k ns :=
  List.forall_mem_cons

theorem below_singleton {n : Node} (h : sizeOf n < k) : Below k [n] :=
  below_cons.mpr ⟨.inr h, below_nil⟩

@[simp]
theorem below_append {a b : List Node} : Below k (a ++ b) ↔ Below k a ∧ Below k b :=
  List.forall_mem_append

variable {α : Type} [SizeOf α]

theorem below_flatMap {f : α → List Node} {xs : List α} (hk : sizeOf xs < k)
    (hf : ∀ x, Below (1 + sizeOf x) (f x)) : Below k (xs.flatMap f) := by
  intro n hn
  obtain ⟨x, hx, hn⟩ := List.mem_flatMap.mp hn
  have hlt := List.sizeOf_lt_of_mem hx
  exact (hf x n hn).imp_right fun hpart => by omega

variable {f : α → Node}

theorem below_each {xs : List α} (hk : sizeOf xs < k) (hf : ∀ x, sizeOf (f x) = 1 + sizeOf x) :
    Below k (each f xs) := by
  intro n hn
  obtain ⟨x, hx, rfl⟩ := List.mem_map.mp hn
  have hlt := List.sizeOf_lt_of_mem hx
  rw [hf]
  omega

theorem below_each? {x : Option α} (hk : sizeOf x < k) (hf : ∀ x, sizeOf (f x) = 1 + sizeOf x) :
    Below k (each? f x) := by
  intro n hn
  obtain ⟨a, ha, rfl⟩ := List.mem_map.mp hn
  cases x with
  | none => cases ha
  | some b =>
      obtain rfl := List.mem_singleton.mp ha
      rw [Option.some.sizeOf_spec] at hk
      rw [hf]
      omega

end

theorem below_exprParts (e : Expr) : Below (1 + sizeOf e) (exprParts e) := by
  cases e <;>
    simp (disch := first | omega | simp) [exprParts, below_each, below_each?,
      apply_ite (Below _)] <;>
    omega

theorem below_patParts (p : Pat) : Below (1 + sizeOf p) (patParts p) := by
  cases p <;> simp (disch := first | omega | simp) [patParts, below_each, below_each?] <;> omega

theorem below_propertyParts (p : Property) : Below (1 + sizeOf p) (propertyParts p) := by
  cases p <;> simp (disch := first | omega | simp) [propertyParts, below_each?] <;> omega

theorem below_keyParts (k : Key) : Below (1 + sizeOf k) (keyParts k) := by
  cases k with
  | computed s e =>
      apply below_singleton
      simp only [Node.expr.sizeOf_spec, Key.computed.sizeOf_spec]
      omega
  | _ => exact below_nil

theorem below_memberParts (m : Member) : Below (1 + sizeOf m) (memberParts m) := by
  cases m with
  | enumCase s key init =>
      cases key <;>
        simp (disch := first | omega | simp) [memberParts, caseNameParts, below_each?] <;>
        omega
  | _ =>
      simp (disch := first | omega | simp) [memberParts, below_each, below_each?] <;> omega

theorem below_tyParts (t : Ty) : Below (1 + sizeOf t) (tyParts t) := by
  cases t <;> simp (disch := first | omega | simp) [tyParts, below_each, below_each?] <;> omega

theorem below_exportSpecifierParts (i : ExportSpecifier) :
    Below (1 + sizeOf i) (exportSpecifierParts i) := by
  cases i with
  | star s name =>
      apply below_singleton
      simp only [Node.exportName.sizeOf_spec, ExportSpecifier.star.sizeOf_spec]
      omega
  | named s orig exported typeOnly =>
      simp (disch := first | omega | simp) [exportSpecifierParts, below_each?]
      omega
  | default id => simp [exportSpecifierParts]

theorem below_importSpecifierParts (i : ImportSpecifier) :
    Below (1 + sizeOf i) (importSpecifierParts i) := by
  cases i <;> simp (disch := first | omega | simp) [importSpecifierParts, below_each?]

theorem below_stmtParts (s : Stmt) : Below (1 + sizeOf s) (stmtParts s) := by
  cases s with
  | «import» s typeOnly specifiers source attrs =>
      rw [stmtParts, below_append]
      refine ⟨below_flatMap ?_ below_importSpecifierParts, ?_⟩ <;>
        simp (disch := first | omega | simp) [below_each?]
      omega
  | exportNamed s typeOnly specifiers source attrs =>
      rw [stmtParts, below_append]
      refine ⟨below_flatMap ?_ below_exportSpecifierParts, ?_⟩ <;>
        simp (disch := first | omega | simp) [below_each?]
      omega
  | _ =>
      simp (disch := first | omega | simp) [stmtParts, below_each, below_each?] <;> omega

theorem below_parts (n : Node) : Below (sizeOf n) (parts n) := by
  cases n with
  | ident id => exact below_nil
  | entity name =>
      cases name <;> simp [parts, entityParts]
      omega
  | exportName name => cases name <;> simp [parts, exportNameParts]
  | jsxName name =>
      cases name <;> simp [parts, jsxNameParts]
      omega
  | expr e => exact below_exprParts e
  | func f =>
      cases f
      simp (disch := first | omega | simp) [parts, funcParts, below_each, below_each?]
  | block b =>
      cases b
      simp (disch := first | omega | simp) [parts, blockParts, below_each]
  | param p =>
      cases p
      simp (disch := first | omega | simp) [parts, paramParts, below_each]
  | cls c =>
      cases c
      simp (disch := first | omega | simp) [parts, clsParts, below_each, below_each?]
  | key k => exact below_keyParts k
  | property p => exact below_propertyParts p
  | member m => exact below_memberParts m
  | pat p => exact below_patParts p
  | declarator d =>
      cases d
      simp (disch := first | omega | simp) [parts, declaratorParts, below_each?]
      omega
  | stmt s => exact below_stmtParts s
  | ty t => exact below_tyParts t

/-! ## What occurs is collected -/

section

variable {id : Ident} {n : Node}

theorem mem_identifiers_of_shows {part : Node} (h : Shows namesForeign n part)
    (hid : id ∈ identifiers part) : id ∈ identifiers n := by
  obtain ⟨hpart, hshown⟩ := h
  have hident : ∀ i, n ≠ .ident i := by
    rintro i rfl
    cases hpart
  rw [identifiers_eq hident hshown]
  exact List.mem_flatMap.mpr ⟨part, hpart, hid⟩

theorem exists_shows_of_mem_identifiers (h : id ∈ identifiers n) (hident : ∀ i, n ≠ .ident i) :
    ∃ part, Shows namesForeign n part ∧ id ∈ identifiers part := by
  have hshown : ∀ s, n = .stmt s → namesForeign s = false := by
    rintro s rfl
    refine Bool.eq_false_iff.mpr fun hforeign => ?_
    rw [identifiers, identifiers_hidden hforeign] at h
    cases h
  rw [identifiers_eq hident hshown] at h
  obtain ⟨part, hpart, hid⟩ := List.mem_flatMap.mp h
  exact ⟨part, ⟨hpart, hshown⟩, hid⟩

/-- What is collected from a node is what can be reached from it without entering an import or an
export of names of another module. -/
theorem mem_identifiers_iff : id ∈ identifiers n ↔ Occurs namesForeign id n := by
  constructor
  · -- The nodes are of several types, so the induction is on their size.
    induction hsize : sizeOf n using Nat.strongRecOn generalizing n with
    | ind size ih =>
        intro h
        by_cases hident : ∃ i, n = .ident i
        · obtain ⟨i, rfl⟩ := hident
          obtain rfl := List.mem_singleton.mp h
          exact .refl
        · obtain ⟨part, hshows, hid⟩ := exists_shows_of_mem_identifiers h (not_exists.mp hident)
          refine .head hshows ?_
          rcases below_parts n part hshows.1 with ⟨i, rfl⟩ | hlt
          · obtain rfl := List.mem_singleton.mp hid
            exact .refl
          · exact ih _ (hsize ▸ hlt) rfl hid
  · intro h
    induction h using Relation.ReflTransGen.head_induction_on with
    | refl => exact List.mem_singleton_self id
    | head hshows _ ih => exact mem_identifiers_of_shows hshows ih

end

end Unbundled.Proofs.Occurrence
