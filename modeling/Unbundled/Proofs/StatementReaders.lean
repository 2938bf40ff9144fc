import Mathlib
import Unbundled.Proofs.Dependencies

namespace Unbundled.Proofs.StatementReaders

open Erasure Script Script.Read Dependencies
open Std.Do

set_option mvcgen.warning false

variable {α β : Type} {P : α → Prop}

/-- All that `p` can give satisfies `P`. -/
abbrev Gives (P : α → Prop) (p : Parse α) : Prop :=
  ⦃⌜True⌝⦄ p ⦃post⟨fun a => ⌜P a⌝, fun _ => ⌜True⌝⟩⦄

theorem gives_iff {p : Parse α} :
    Gives P p ↔ ∀ dialect s a s', p dialect s = .ok a s' → P a := by
  have hwp (dialect : Dialect) (s : State) :
      (wp⟦p⟧ post⟨fun a => ⌜P a⌝, fun _ => ⌜True⌝⟩ dialect s).down ↔
        ∀ a s', p dialect s = .ok a s' → P a := by
    simp only [wp, PredTrans.apply_pushArg, PredTrans.apply_Functor_map, ReaderT.run, EStateM.run]
    cases h : p dialect s <;> simp [PredTrans.apply, h]
  constructor
  · intro h dialect s
    exact (hwp dialect s).mp (h dialect s trivial)
  · intro h dialect s _
    exact (hwp dialect s).mpr (h dialect s)

@[spec low]
theorem gives_any (p : Parse α) : Gives (fun _ => True) p :=
  gives_iff.mpr fun _ _ _ _ _ => trivial

theorem Gives.withCtx {f : Context → Context} {p : Parse α} (h : Gives P p) :
    Gives P (Parse.withCtx f p) := by
  rw [gives_iff] at h ⊢
  intro dialect s a s' he
  simp only [Parse.withCtx] at he
  split at he
  · rename_i b t hp
    cases he
    exact h dialect _ _ t hp
  · cases he

theorem Gives.after {p : Parse β} {f : β → Parse α} (h : ∀ b, Gives P (f b)) :
    Gives P (p >>= f) := by
  mvcgen [h]

@[spec]
theorem stopAt_gives (pos : Nat) (cause : Cause) : Gives P (stopAt pos cause : Parse α) := by
  unfold stopAt
  mvcgen

@[spec]
theorem stop_gives (cause : Cause) : Gives P (stop cause : Parse α) := by
  unfold stop
  mvcgen

@[spec]
theorem unexpected_gives (wanted : String) : Gives P (unexpected wanted : Parse α) := by
  unfold unexpected
  mvcgen

abbrev IsPlain (s : Stmt) : Prop := isModuleItem s = false

theorem IsPlain.asks_nothing {s : Stmt} (h : IsPlain s) : dependency? s = none := by
  cases s with
  | «import» | exportNamed | exportAll => cases h
  | _ => rfl

variable (g : Grammar) (start : Nat) (ds : List Expr)

@[spec]
theorem varStatement_gives (inFor : Bool) : Gives IsPlain (varStatement g inFor) := by
  unfold varStatement
  mvcgen

@[spec]
theorem usingDecl?_gives (await : Bool) :
    Gives (fun found => found.any isModuleItem = false) (usingDecl? g start await) := by
  unfold usingDecl?
  mvcgen [-Spec.forIn_list]

@[spec]
theorem ifStmt_gives : Gives IsPlain (ifStmt g start) := by
  unfold ifStmt
  mvcgen

@[spec]
theorem jump_gives (isBreak : Bool) : Gives IsPlain (jump start isBreak) := by
  unfold jump
  mvcgen

@[spec]
theorem returnStmt_gives : Gives IsPlain (returnStmt g start) := by
  unfold returnStmt
  mvcgen

@[spec]
theorem switchStmt_gives : Gives IsPlain (switchStmt g start) := by
  unfold switchStmt
  mvcgen

@[spec]
theorem throwStmt_gives : Gives IsPlain (throwStmt g start) := by
  unfold throwStmt
  mvcgen
  exact fun _ => True

@[spec]
theorem tryStmt_gives : Gives IsPlain (tryStmt g start) := by
  unfold tryStmt
  mvcgen

@[spec]
theorem strayHandler_gives : Gives IsPlain (strayHandler g) := by
  unfold strayHandler
  mvcgen [-Spec.tryCatch_ReaderT, -Spec.tryCatch_MonadExcept]

@[spec]
theorem withStmt_gives : Gives IsPlain (withStmt g start) := by
  unfold withStmt
  mvcgen

@[spec]
theorem whileStmt_gives : Gives IsPlain (whileStmt g start) := by
  unfold whileStmt
  mvcgen

@[spec]
theorem doWhileStmt_gives : Gives IsPlain (doWhileStmt g start) := by
  unfold doWhileStmt
  mvcgen

@[spec]
theorem forStmt_gives : Gives IsPlain (forStmt g start) := by
  unfold forStmt
  mvcgen

@[spec]
theorem functionDecl_gives : Gives IsPlain (functionDecl g ds) := by
  unfold functionDecl
  mvcgen

@[spec]
theorem asyncFunctionDecl_gives : Gives IsPlain (asyncFunctionDecl g ds) := by
  unfold asyncFunctionDecl
  mvcgen

@[spec]
theorem classDecl_gives (isAbstract : Bool) : Gives IsPlain (classDecl g start ds isAbstract) := by
  unfold classDecl
  mvcgen

@[spec]
theorem enumDecl_gives (isConst : Bool) : Gives IsPlain (enumDecl g start isConst) := by
  unfold enumDecl
  mvcgen

@[spec]
theorem interfaceDecl_gives : Gives IsPlain (interfaceDecl g start) := by
  unfold interfaceDecl
  mvcgen

@[spec]
theorem typeAlias_gives : Gives IsPlain (typeAlias g start) := by
  unfold typeAlias
  mvcgen

@[spec]
theorem namespaceDecl_gives : Gives IsPlain (namespaceDecl g start) := by
  unfold namespaceDecl
  mvcgen

@[spec]
theorem ambientModule_gives : Gives IsPlain (ambientModule g start) := by
  unfold ambientModule
  mvcgen

@[spec]
theorem wordDecl?_gives (w : String) (ahead : Bool) :
    Gives (fun found => found.any isModuleItem = false) (wordDecl? g start ds w ahead) := by
  unfold wordDecl?
  mvcgen

theorem isModuleItem_markDeclared (s : Stmt) : isModuleItem (markDeclared start s) = isModuleItem s := by
  cases s <;> rfl

@[spec]
theorem declared?_gives :
    Gives (fun found => found.any isModuleItem = false) (declared? g start ds) := by
  have hmarked (found : Option Stmt) (h : found.any isModuleItem = false) :
      (found.map (markDeclared start)).any isModuleItem = false := by
    cases found with
    | none => rfl
    | some s => exact (isModuleItem_markDeclared start s).trans h
  unfold declared?
  refine Gives.after fun typed => ?_
  split
  · refine Gives.after fun c => ?_
    split
    · refine Gives.after fun _ => Gives.withCtx ?_
      mvcgen
      all_goals exact hmarked _ ‹_›
    · refine Gives.withCtx ?_
      mvcgen
      all_goals exact hmarked _ ‹_›
  · mvcgen

@[spec]
theorem declBehind?_gives (id : Ident) :
    Gives (fun found => found.any isModuleItem = false) (declBehind? g ds id) := by
  unfold declBehind?
  mvcgen

@[spec]
theorem labelled_gives (label : Ident) : Gives IsPlain (labelled g label) := by
  refine Gives.withCtx ?_
  mvcgen [-Spec.forIn_list]

@[spec]
theorem exprStmt_gives : Gives IsPlain (exprStmt g start ds) := by
  unfold exprStmt
  mvcgen

@[spec]
theorem keywordStmt?_gives (declarations : Bool) (w : String) :
    Gives (fun found => found.any isModuleItem = false) (keywordStmt? g start ds declarations w) := by
  unfold keywordStmt?
  mvcgen

@[spec]
theorem statement_gives (declarations topLevel : Bool) :
    Gives IsPlain (statement g start ds declarations topLevel) := by
  unfold statement
  mvcgen

end Unbundled.Proofs.StatementReaders
