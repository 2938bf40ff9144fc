import Unbundled.Proofs.Exports
import Unbundled.Proofs.StatementReaders
import Unbundled.Script.Source

namespace Unbundled.Proofs.ItemReaders

open Linking Script Script.Read Dependencies Exports StatementReaders
open Std.Do

set_option mvcgen.warning false

variable {α β : Type} {P : α → Prop}
variable (g : Grammar) (start : Nat) (ds : List Expr)

def GivesUntyped (P : α → Prop) (p : Parse α) : Prop :=
  ∀ dialect s a s', dialect.typescript = false → p dialect s = .ok a s' → P a

theorem GivesUntyped.of_gives {p : Parse α} (h : Gives P p) : GivesUntyped P p :=
  fun dialect s a s' _ he => gives_iff.mp h dialect s a s' he

theorem GivesUntyped.pure {a : α} (h : P a) : GivesUntyped P (pure a) := by
  intro dialect s a' s' _ he
  cases he
  exact h

theorem GivesUntyped.bind {Q : β → Prop} {p : Parse β} {f : β → Parse α} (hp : GivesUntyped Q p)
    (hf : ∀ b, Q b → GivesUntyped P (f b)) : GivesUntyped P (p >>= f) := by
  intro dialect s a s' hd he
  change EStateM.bind (p dialect) (fun b => f b dialect) s = _ at he
  unfold EStateM.bind at he
  split at he
  · rename_i b t hb
    exact hf b (hp dialect s b t hd hb) dialect t a s' hd he
  · cases he

theorem GivesUntyped.after {p : Parse β} {f : β → Parse α} (hf : ∀ b, GivesUntyped P (f b)) :
    GivesUntyped P (p >>= f) :=
  GivesUntyped.bind (.of_gives (gives_any p)) fun b _ => hf b

theorem typescript_gives : GivesUntyped (· = false) typescript := by
  intro dialect s a s' hd he
  cases he
  exact hd

theorem typescript_andM_gives (p : Parse Bool) : GivesUntyped (· = false) (typescript <&&> p) := by
  refine typescript_gives.bind fun typed htyped => ?_
  subst htyped
  exact .pure rfl

theorem throw_gives (e : Fault) : GivesUntyped P (throw e) := by
  intro dialect s a s' _ he
  cases he

theorem tryCatch_gives {p : Parse α} {f : Fault → Parse α} (hp : GivesUntyped P p)
    (hf : ∀ e, GivesUntyped P (f e)) : GivesUntyped P (tryCatch p f) := by
  intro dialect s a s' hd he
  change EStateM.tryCatch (p dialect) (fun e => f e dialect) s = _ at he
  unfold EStateM.tryCatch at he
  split at he
  · exact hf _ dialect _ a s' hd he
  · exact hp dialect s a s' hd he

theorem withCtx_gives {f : Context → Context} {p : Parse α} (h : GivesUntyped P p) :
    GivesUntyped P (Parse.withCtx f p) := by
  intro dialect s a s' hd he
  simp only [Parse.withCtx] at he
  split at he
  · rename_i b t hp
    cases he
    exact h dialect _ _ t hd hp
  · cases he

theorem inBody_gives (async generator arrow : Bool) {p : Parse α} (h : GivesUntyped P p) :
    GivesUntyped P (inBody async generator arrow p) := by
  unfold inBody
  refine .after fun _ => .after fun _ => .after fun _ => ?_
  extract_lets jp
  have hjp : GivesUntyped P (jp ()) := by
    refine .after fun outer => .after fun _ => ?_
    extract_lets restore
    -- what is returned early counts as much as what is given at the end
    let given : Except α α → α
      | .ok a | .error a => a
    refine GivesUntyped.bind (Q := fun r => P (given r)) ?_ fun r hr => ?_
    · refine tryCatch_gives ?_ fun e => ?_
      · exact (withCtx_gives h).bind fun a ha => .after fun _ => .pure ha
      · exact .after fun _ => (throw_gives e).bind fun a ha => .pure ha
    · cases r with
      | error a => exact .pure hr
      | ok a => exact .pure hr
  split
  · exact .after fun _ => .after fun _ => hjp
  · exact hjp

theorem functionBody_gives (async generator simple : Bool) :
    GivesUntyped (·.isSome = true) (functionBody g async generator simple) := by
  refine inBody_gives async generator false ?_
  refine (typescript_andM_gives _).bind fun typed htyped => ?_
  subst htyped
  exact .after fun b => .after fun _ => .pure rfl

theorem signatureAndBody_gives (start : Nat) (rule : ParamRule) (async generator : Bool) :
    GivesUntyped (·.body.isSome = true) (signatureAndBody g ds start rule async generator) := by
  refine withCtx_gives (typescript_gives.bind fun typed htyped => ?_)
  subst htyped
  refine .after fun typeParams => .after fun _ => .after fun ps => .after fun _ => ?_
  refine typescript_gives.bind fun typed htyped => ?_
  subst htyped
  refine .after fun ret => (functionBody_gives g async generator _).bind fun body hbody => ?_
  cases body with
  | none => cases hbody
  | some body => exact .after fun span => .pure rfl

theorem function_gives (asyncStart : Option Nat) (isExpr named : Bool) :
    GivesUntyped (·.2.body.isSome = true) (function g asyncStart isExpr named ds) := by
  unfold function
  extract_lets async outside jp
  have hjp (start : Nat) : GivesUntyped (·.2.body.isSome = true) (jp start) := by
    refine .after fun _ => .after fun generator => .after fun name => ?_
    exact (withCtx_gives (signatureAndBody_gives g ds start .any async generator)).bind
      fun fn hfn => .pure hfn
  split
  · exact .after hjp
  · exact .after hjp

theorem asyncFunction_gives (isExpr named : Bool) :
    GivesUntyped (·.2.body.isSome = true) (asyncFunction g isExpr named ds) :=
  .after fun start => .after fun _ => function_gives g ds (some start) isExpr named

abbrev IsDeclared (decl : Stmt) : Prop := declaresValue decl = declaresAtRunTime decl

theorem functionDecl_untyped : GivesUntyped IsDeclared (functionDecl g ds) := by
  refine (function_gives g ds none false true).bind fun r hr => .pure ?_
  rw [IsDeclared, declaresValue, declaresAtRunTime, hr]
  rfl

theorem asyncFunctionDecl_untyped : GivesUntyped IsDeclared (asyncFunctionDecl g ds) := by
  refine (asyncFunction_gives g ds false true).bind fun r hr => .pure ?_
  rw [IsDeclared, declaresValue, declaresAtRunTime, hr]
  rfl

theorem classDecl_untyped (isAbstract : Bool) :
    Gives IsDeclared (classDecl g start ds isAbstract) := by
  unfold classDecl
  mvcgen

theorem varStatement_untyped (inFor : Bool) : Gives IsDeclared (varStatement g inFor) := by
  unfold varStatement
  mvcgen

/-- An item as a script without types has it: it does not ask for types, and if it is taken for the
export of a value it is one, or else an export of nothing. -/
structure IsUntyped (s : Stmt) : Prop where
  asks : (dependency? s).all (!·.typeOnly) = true
  exports : exportsValue s = (exportsAtRunTime s || isEmptyExport s)

theorem IsUntyped.of_plain {s : Stmt} (h : IsPlain s) : IsUntyped s := by
  refine ⟨by rw [h.asks_nothing]; rfl, ?_⟩
  cases s <;> first | rfl | cases h

theorem isUntyped_exportNamed (s : Span) (specifiers : List ExportSpecifier)
    (source : Option StringLit) (attrs : Option Expr) :
    IsUntyped (.exportNamed s false specifiers source attrs) := by
  cases specifiers <;> cases source <;> exact ⟨rfl, rfl⟩

theorem isUntyped_exportDecl (s : Span) {decl : Stmt} (h : IsDeclared decl) :
    IsUntyped (.exportDecl s decl) :=
  ⟨rfl, by rw [exportsValue, h, exportsAtRunTime]; exact (Bool.or_false _).symm⟩

theorem importDefault_gives :
    GivesUntyped (fun r => r.elim (fun _ => False) (·.1 = false)) (importDefault start) := by
  unfold importDefault
  refine .after fun isName => ?_
  split
  · refine .after fun first => .bind typescript_gives fun typed htyped => ?_
    simp only [htyped, Bool.false_and, andM, toBool, Bool.false_eq_true, if_false, pure_bind]
    exact .of_gives (by mvcgen)
  · exact .pure rfl

theorem importDecl_gives : GivesUntyped IsUntyped (importDecl g) := by
  unfold importDecl
  refine .after fun start => .after fun dotAhead => .after fun parenAhead => ?_
  split
  · exact .after fun e => .after fun _ => .after fun span => .pure ⟨rfl, rfl⟩
  · refine .after fun _ => .after fun token => ?_
    split
    · exact .of_gives (by mvcgen; exact ⟨rfl, rfl⟩)
    · refine (importDefault_gives start).bind fun found hfound => ?_
      split
      · exact hfound.elim
      · rename_i typeOnly default
        have hvalues : typeOnly = false := hfound
        subst hvalues
        exact .of_gives (by mvcgen; all_goals exact ⟨rfl, rfl⟩)

theorem exportList_gives (nsStart : Nat) : Gives IsUntyped (exportList g start nsStart false) := by
  unfold exportList
  mvcgen
  all_goals first | exact ⟨rfl, rfl⟩ | exact isUntyped_exportNamed ..

theorem exportDefault_gives : Gives IsUntyped (exportDefault g start ds) := by
  unfold exportDefault
  mvcgen
  all_goals exact ⟨rfl, rfl⟩

theorem typedExport?_gives : GivesUntyped (· = none) (typedExport? g start ds) := by
  unfold typedExport?
  refine typescript_gives.bind fun typed htyped => ?_
  subst htyped
  exact .pure rfl

theorem exportDecl_gives : GivesUntyped IsUntyped (exportDecl g ds) := by
  have hdecl {p : Parse Stmt} (start : Nat) (h : GivesUntyped IsDeclared p) :
      GivesUntyped IsUntyped (do let d ← p; return .exportDecl (← spanFrom start) d) :=
    h.bind fun decl hdecl => .after fun span => .pure (isUntyped_exportDecl span hdecl)
  unfold exportDecl
  refine .after fun start => .after fun _ => .after fun _ => ?_
  refine (typedExport?_gives g start ds).bind fun found hfound => ?_
  subst hfound
  refine .after fun nsStart => (typescript_andM_gives _).bind fun typeOnly htypeOnly => ?_
  subst htypeOnly
  refine .after fun isDefault => ?_
  split
  · exact .of_gives (exportDefault_gives g start ds)
  refine .after fun ds => .after fun isClass => ?_
  split
  · exact .after fun classStart => hdecl start (.of_gives (classDecl_untyped g classStart ds false))
  refine .after fun isAsync => ?_
  split
  · exact hdecl start (asyncFunctionDecl_untyped g ds)
  refine .after fun isFunction => ?_
  split
  · exact hdecl start (functionDecl_untyped g ds)
  refine (typescript_andM_gives _).bind fun isEnum hisEnum => ?_
  subst hisEnum
  refine .after fun isVar => ?_
  extract_lets rest
  have hrest (declares : Bool) : GivesUntyped IsUntyped (rest declares) := by
    cases declares with
    | true => exact hdecl start (.of_gives (varStatement_untyped g false))
    | false => exact .of_gives (exportList_gives g start nsStart)
  split
  · exact .after hrest
  · refine .after fun isLet => ?_
    split
    · exact .after fun token => .after hrest
    · exact .after hrest

theorem item_gives (declarations topLevel : Bool) :
    GivesUntyped IsUntyped (item g declarations topLevel) := by
  have hstatement (f : Context → Context) (start : Nat) (ds : List Expr) :
      Gives IsUntyped (Parse.withCtx f (statement g start ds declarations topLevel)) := by
    refine Gives.withCtx ?_
    mvcgen
    exact fun _ _ => IsUntyped.of_plain
  unfold item
  refine .after fun start => .after fun ds => .after fun isImport => ?_
  cases topLevel with
  | false =>
      refine .of_gives ?_
      mvcgen [hstatement]
      all_goals first | exact ⟨rfl, rfl⟩ | exact fun _ => True
  | true =>
      simp only [if_true]
      split
      · exact importDecl_gives g
      · refine .after fun isExport => ?_
        split
        · exact exportDecl_gives g ds
        · exact .of_gives (hstatement _ start ds)

theorem repeatFrom_gives {σ : Type} {Q : σ → Prop} {step : σ → Parse (σ ⊕ α)}
    (hstep : ∀ a, Q a → GivesUntyped (Sum.elim Q P) (step a)) (fuel : Nat) {a : σ} (ha : Q a) :
    GivesUntyped P (Parse.repeatFrom step fuel a) := by
  induction fuel generalizing a with
  | zero =>
      intro dialect s r s' _ he
      cases he
  | succ fuel ih =>
      refine (hstep a ha).bind fun r hr => ?_
      cases r with
      | inl a => exact ih hr
      | inr r => exact .pure hr

theorem collect_gives {step : Parse (Option α)} (h : GivesUntyped (∀ a ∈ ·, P a) step) :
    GivesUntyped (∀ a ∈ ·, P a) (Parse.collect step) := by
  refine .after fun s => repeatFrom_gives (Q := fun acc => ∀ a ∈ acc, P a) ?_ _ (by simp)
  intro acc hacc
  refine h.bind fun found hfound => ?_
  cases found with
  | none => exact .pure (by simpa using hacc)
  | some a => exact .pure (List.forall_mem_cons.mpr ⟨hfound a rfl, hacc⟩)

theorem moduleItems_gives (fuel : Nat) :
    GivesUntyped (fun r => ∀ s ∈ r.2.2, IsUntyped s) (moduleItems (grammar fuel)) := by
  have hitem : GivesUntyped IsUntyped ((grammar fuel).stmt true true) := by
    cases fuel with
    | zero =>
        intro dialect s r s' _ he
        cases he
    | succ fuel => exact item_gives (grammar fuel) true true
  have hitems : GivesUntyped (∀ s ∈ ·, IsUntyped s) (Parse.collect do
      if ← atEnd then return none else return some (← (grammar fuel).stmt true true)) := by
    refine collect_gives (.after fun done => ?_)
    split
    · exact .pure (by simp)
    · exact hitem.bind fun s hs => .pure (by simpa using hs)
  unfold moduleItems
  refine .after fun start => .after fun token => ?_
  dsimp only
  split
  · refine .after fun _ => .after fun shebang => ?_
    exact hitems.bind fun items huntyped => .after fun span => .pure huntyped
  · refine .after fun shebang => ?_
    exact hitems.bind fun items huntyped => .after fun span => .pure huntyped

theorem read_eq_ok {dialect : Dialect} {text : String} {m : Script.Module}
    (h : Module.read dialect text = .ok m) :
    ∃ fuel s t, moduleItems (grammar fuel) dialect s = .ok (m.span, m.shebang, m.items) t := by
  unfold Module.read at h
  extract_lets chars trimmed g at h
  generalize hr : moduleItems g dialect { text := trimmed } = r at h
  cases r with
  | error fault t => cases h
  | ok r t =>
      obtain ⟨span, shebang, items⟩ := r
      dsimp only at h
      split at h
      · cases h
      · cases h
        exact ⟨_, _, t, hr⟩

theorem readSource_untyped {path text : String} {m : Script.Module}
    (hpath : (Dialect.ofPath path).typescript = false) (h : readSource path text = .ok m) :
    ∀ item ∈ m.items, IsUntyped item := by
  have hread : Module.read (Dialect.ofPath path) text = .ok m := by
    unfold readSource at h
    split at h
    · rename_i m' hread
      cases h
      exact hread
    · cases h
  obtain ⟨fuel, s, t, hitems⟩ := read_eq_ok hread
  exact moduleItems_gives fuel _ _ _ _ hpath hitems

theorem readSource_asks_values {path text : String} {m : Script.Module}
    (hpath : (Dialect.ofPath path).typescript = false) (h : readSource path text = .ok m) :
    ∀ d ∈ dependencies m.items, d.typeOnly = false := by
  intro d hd
  obtain ⟨item, hitem, hdep⟩ := List.mem_filterMap.mp hd
  have hvalues := (readSource_untyped hpath h item hitem).asks
  rw [hdep] at hvalues
  simpa using hvalues

end Unbundled.Proofs.ItemReaders
