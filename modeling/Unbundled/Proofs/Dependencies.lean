import Mathlib.Data.List.Basic
import Unbundled.Linking.Usage
import Unbundled.Proofs.LoweredItems
import Unbundled.Script.Parens

namespace Unbundled.Proofs.Dependencies

open Erasure Linking Script LoweredItems

structure Dependency where
  isImport : Bool
  typeOnly : Bool
  source : StringLit

def dependency? : Stmt → Option Dependency
  | .import _ typeOnly _ source _ => some ⟨true, typeOnly, source⟩
  | .exportNamed _ typeOnly _ (some source) _ => some ⟨false, typeOnly, source⟩
  | .exportAll _ typeOnly source _ => some ⟨false, typeOnly, source⟩
  | _ => none

def dependencies (items : List Stmt) : List Dependency := items.filterMap dependency?

theorem dependencies_cons (s : Stmt) (ss : List Stmt) :
    dependencies (s :: ss) = (dependency? s).toList ++ dependencies ss := by
  cases h : dependency? s <;> simp [dependencies, h]

theorem dependencies_append (ss ts : List Stmt) :
    dependencies (ss ++ ts) = dependencies ss ++ dependencies ts := List.filterMap_append

theorem filterMap_sublist {f : Stmt → Option Stmt} (items : List Stmt)
    (h : ∀ s s', f s = some s' → dependency? s' = dependency? s) :
    (dependencies (items.filterMap f)).Sublist (dependencies items) := by
  induction items with
  | nil => exact .slnil
  | cons s rest ih =>
      rw [dependencies_cons]
      cases hs : f s with
      | none =>
          rw [List.filterMap_cons_none hs]
          exact ih.trans (List.sublist_append_right ..)
      | some s' =>
          rw [List.filterMap_cons_some hs, dependencies_cons, h s s' hs]
          exact ih.append_left _

theorem filterMap_dependencies {f : Stmt → Option Stmt} {items : List Stmt}
    (h : ∀ s ∈ items, dependency? s = (f s).bind dependency?) :
    dependencies (items.filterMap f) = dependencies items := by
  rw [dependencies, List.filterMap_filterMap]
  exact List.filterMap_congr fun s hs => (h s hs).symm

/-! ## Scopes -/

theorem visit_scope_dependency (s : Stmt) (scopes : List Scope) :
    dependency? ((s.visit Scope.visitor).run scopes) = dependency? s := by
  cases s with
  | exportNamed s typeOnly specifiers source attrs => cases source <;> rfl
  | «for» s init test update body => cases init <;> rfl
  | «namespace» s id declared body => cases body <;> rfl
  | _ => rfl

theorem resolveScopes_eq (items : List Stmt) :
    resolveScopes items = items.map fun s =>
      (s.visit Scope.visitor).run [⟨Scope.moduleNumber, itemNames items⟩] := by
  have hlist : ∀ (ss : List Stmt) (scopes : List Scope),
      (Stmt.visitList Scope.visitor ss).run scopes =
        ss.map fun s => (s.visit Scope.visitor).run scopes := by
    intro ss scopes
    induction ss with
    | nil => rfl
    | cons s ss ih => exact congrArg (List.cons _) ih
  exact hlist items _

theorem resolveScopes_dependencies (items : List Stmt) :
    dependencies (resolveScopes items) = dependencies items := by
  rw [resolveScopes_eq, dependencies, List.filterMap_map]
  exact congrArg (List.filterMap · items) (funext fun s => visit_scope_dependency s _)

/-! ## Types -/

def isTypeOnly : Stmt → Bool
  | .import _ typeOnly .. | .exportNamed _ typeOnly .. | .exportAll _ typeOnly ..
  | .importEquals _ _ typeOnly .. | .importRequire _ _ typeOnly .. => typeOnly
  | _ => false

/-- What stays of an item that is not only for types: an import or an export in a list loses names,
and any other item nothing but aliases in it. -/
inductive StaysAs (n : Names) : Stmt → Stmt → Prop
  | import (s specifiers source attrs) :
      StaysAs n (.import s false specifiers source attrs)
        (.import s false (specifiers.filter n.keepsImportSpecifier) source attrs)
  | exportNamed (s specifiers source attrs) :
      StaysAs n (.exportNamed s false specifiers source attrs)
        (.exportNamed s false (specifiers.filter (n.keepsExportSpecifier source.isSome)) source attrs)
  | other {item} (h : isTypeOnly item = false) : StaysAs n item (withoutAliases item)

theorem staysAs_of_importedValues {n : Names} {item item' : Stmt}
    (h : importedValues n item = some item') : StaysAs n item item' := by
  cases item with
  | «import» s typeOnly specifiers source attrs =>
      cases typeOnly with
      | true => cases h
      | false =>
          simp only [importedValues] at h
          split at h <;> cases h
          exact .import s specifiers source attrs
  | exportNamed s typeOnly specifiers source attrs =>
      cases typeOnly with
      | true => cases h
      | false =>
          simp only [importedValues] at h
          split at h <;> cases h
          exact .exportNamed s specifiers source attrs
  | exportAll s typeOnly source attrs =>
      cases typeOnly <;> cases h
      exact .other rfl
  | exportDefaultExpr s e =>
      cases e with
      | ident id =>
          simp only [importedValues] at h
          split at h <;> cases h
          exact .other rfl
      | _ =>
          cases h
          exact .other rfl
  | importEquals s exported typeOnly id target
  | importRequire s exported typeOnly id refSpan source =>
      cases typeOnly with
      | true => cases h
      | false =>
          simp only [importedValues] at h
          split at h <;> cases h
          exact .other rfl
  | exportDefaultInterface => cases h
  | _ =>
      cases h
      exact .other rfl

theorem importedValues_dependency {n : Names} {item item' : Stmt}
    (h : importedValues n item = some item') : dependency? item' = dependency? item := by
  cases staysAs_of_importedValues h with
  | «import» => rfl
  | exportNamed s specifiers source => cases source <;> rfl
  | other => cases item <;> rfl

theorem importedValues_values {n : Names} {item item' : Stmt} {d : Dependency}
    (h : importedValues n item = some item') (hd : dependency? item = some d) :
    d.typeOnly = false := by
  have htypes : isTypeOnly item = false := by
    cases staysAs_of_importedValues h with
    | «import» | exportNamed => rfl
    | other htypes => exact htypes
  cases item with
  | exportNamed s typeOnly specifiers source attrs =>
      cases source <;> cases hd
      exact htypes
  | «import» | exportAll =>
      cases hd
      exact htypes
  | _ => cases hd

theorem withoutTypeImports_dependencies (items : List Stmt) :
    (dependencies (withoutTypeImports items)).Sublist
      ((dependencies items).filter (!·.typeOnly)) := by
  have hsublist : (dependencies (withoutTypeImports items)).Sublist (dependencies items) :=
    filterMap_sublist items fun _ _ => importedValues_dependency
  have hvalues : (dependencies (withoutTypeImports items)).filter (!·.typeOnly) =
      dependencies (withoutTypeImports items) := by
    refine List.filter_eq_self.mpr fun d hd => ?_
    obtain ⟨item', hitem', hdep⟩ := List.mem_filterMap.mp hd
    obtain ⟨item, -, hitem⟩ := List.mem_filterMap.mp hitem'
    rw [importedValues_dependency hitem] at hdep
    simp [importedValues_values hitem hdep]
  rw [← hvalues]
  exact hsublist.filter _

theorem withoutTypes_eq (items : List Stmt) :
    withoutTypes items =
      (items.filter staysAtRunTime).map fun s => Id.run (s.visit Untyped.visitor) := by
  have hlist : ∀ ss : List Stmt, Id.run (Stmt.visitList Untyped.visitor ss) =
      ss.map fun s => Id.run (s.visit Untyped.visitor) := by
    intro ss
    induction ss with
    | nil => rfl
    | cons s ss ih => exact congrArg (List.cons _) ih
  have hkept : ∀ (f : Stmt → Stmt) (ss : List Stmt),
      Untyped.kept staysAtRunTime ss (ss.map f) = (ss.filter staysAtRunTime).map f := by
    intro f ss
    induction ss with
    | nil => rfl
    | cons s ss ih =>
        unfold Untyped.kept at ih ⊢
        rw [List.map_cons, List.zip_cons_cons, List.filter_cons, List.filter_cons]
        split
        · rw [List.map_cons, List.map_cons, ih]
        · exact ih
  have hrun : withoutTypes items =
      Untyped.kept staysAtRunTime items (Id.run (Stmt.visitList Untyped.visitor items)) := rfl
  rw [hrun, hlist, hkept]

theorem visit_untyped_dependency (s : Stmt) :
    dependency? (Id.run (s.visit Untyped.visitor)) = dependency? s := by
  cases s <;> rfl

theorem withoutTypes_dependencies (items : List Stmt) :
    (dependencies (withoutTypes items)).Sublist (dependencies items) := by
  have hsame : dependency? ∘ (fun s => Id.run (s.visit Untyped.visitor)) = dependency? :=
    funext visit_untyped_dependency
  rw [withoutTypes_eq, dependencies, List.filterMap_map, hsame]
  exact List.filter_sublist.filterMap _

/-! ## Enums, namespaces and aliases -/

theorem constant?_eq_some {c : Surroundings} {e v : Expr} (h : c.constant? e = some v) :
    (∃ s obj key, e = .member s obj key) ∧
      ((∃ lit, v = .str lit) ∨ ∃ s d raw, v = .num s d raw) := by
  unfold Surroundings.constant? at h
  split at h
  · refine ⟨⟨_, _, _, rfl⟩, ?_⟩
    obtain ⟨name, -, value, -, h⟩ := by simpa only [Option.bind_eq_bind, Option.bind_eq_some_iff] using h
    cases value with
    | text =>
        cases h
        exact .inl ⟨_, rfl⟩
    | number =>
        cases h
        exact .inr ⟨_, _, _, rfl⟩
    | late | missing => cases h
  · cases h

theorem access?_eq_some {c : Surroundings} {id : Ident} {e : Expr} (h : c.access? id = some e) :
    ∃ s obj key, e = .member s obj key := by
  obtain ⟨found, -, owner, -, h⟩ := by
    simpa only [Surroundings.access?, Option.bind_eq_bind, Option.bind_eq_some_iff] using h
  cases h
  exact ⟨_, _, _, rfl⟩

theorem visit_lowering_dependency (s : Stmt) (c : Surroundings) (p : Progress) :
    dependency? (((s.visit Lowering.visitor).run c).run p).1 = dependency? s := by
  cases s <;> rfl

theorem visitList_lowering_dependencies (ss : List Stmt) (c : Surroundings) (p : Progress) :
    dependencies (((Stmt.visitList Lowering.visitor ss).run c).run p).1 = dependencies ss := by
  induction ss generalizing p with
  | nil => rfl
  | cons s ss ih =>
      let r := ((s.visit Lowering.visitor).run c).run p
      have hrun : (((Stmt.visitList Lowering.visitor (s :: ss)).run c).run p).1 =
          r.1 :: (((Stmt.visitList Lowering.visitor ss).run c).run r.2).1 := rfl
      rw [hrun, dependencies_cons, dependencies_cons, ih, visit_lowering_dependency]

theorem objectVars_dependencies (c : Surroundings) (p : Progress) (id : Ident) (exported : Bool) :
    dependencies (objectVars c p id exported) = [] := by
  unfold objectVars objectVar
  split
  · rfl
  · dsimp only
    split <;> rfl

theorem Opens.dependency? {s : Stmt} {id : Ident} {exported : Bool} (h : Opens s id exported) :
    Dependencies.dependency? s = none := by
  cases h with
  | enum | «namespace» | exportedEnum | exportedNamespace => rfl

theorem item_dependencies (s : Stmt) (c : Surroundings) (p : Progress) :
    dependencies (((Lowering.item s).run c).run p).1 = (dependency? s).toList := by
  have h := item_lowersTo c p s
  generalize ((Lowering.item s).run c).run p = r at h ⊢
  cases h with
  | object fills hopens =>
      have hfills : dependencies (fills.map fun f => .expr f.1 f.2) = [] :=
        List.filterMap_eq_nil_iff.mpr fun x hx => by
          obtain ⟨f, -, rfl⟩ := List.mem_map.mp hx
          rfl
      rw [dependencies_append, objectVars_dependencies, hfills, Opens.dependency? (opens?_eq_some.mp hopens)]
      rfl
  | named | other =>
      rw [dependencies_cons]
      exact List.append_nil _

theorem itemList_dependencies (ss : List Stmt) (c : Surroundings) (p : Progress) :
    dependencies (((Lowering.itemList ss).run c).run p).1 = dependencies ss := by
  induction ss generalizing p with
  | nil => rfl
  | cons s ss ih =>
      let r := ((Lowering.item s).run c).run p
      have hrun : (((Lowering.itemList (s :: ss)).run c).run p).1 =
          r.1 ++ (((Lowering.itemList ss).run c).run r.2).1 := rfl
      rw [hrun, dependencies_append, item_dependencies, ih, dependencies_cons]

theorem run_lowering_dependencies (items : List Stmt) (c : Surroundings) (p : Progress) :
    dependencies (((Lowering.visitor.run items).run c).run p).1 = dependencies items := by
  have hheld (held : List Ident) : dependencies (heldVars held) = [] := by
    obtain h | ⟨decls, h, -⟩ := heldVars_eq held
    · rw [h]
      rfl
    · rw [h]
      rfl
  rw [run_lowering, dependencies_append, hheld, List.nil_append, itemList_dependencies,
    visitList_lowering_dependencies]

theorem lowered_dependencies (items : List Stmt) :
    dependencies (lowered items) = dependencies items := by
  have haliases : dependencies (items.filterMap aliasItem) = dependencies items := by
    refine filterMap_dependencies fun s _ => ?_
    cases s with
    | importEquals s exported typeOnly id target => cases exported <;> rfl
    | _ => rfl
  have hassignments : ∀ n, dependencies ((items.filterMap exportAssignment?).take n) = [] := by
    intro n
    refine List.filterMap_eq_nil_iff.mpr fun s hs => ?_
    obtain ⟨item, -, hitem⟩ := List.mem_filterMap.mp (List.mem_of_mem_take hs)
    obtain ⟨span, e, rfl⟩ := exportAssignment?_eq_some hitem
    rfl
  rw [lowered, run_lowering_dependencies, dependencies_append, haliases, hassignments,
    List.append_nil]

theorem keepingModule_dependencies (before items : List Stmt) :
    dependencies (keepingModule before items) = dependencies items := by
  rcases keepingModule_eq before items with h | ⟨span, h⟩
  · rw [h]
  · rw [h, dependencies_append]
    exact List.append_nil _

/-- Of the modules asked for only those asked for values stay. -/
theorem erased_dependencies (items : List Stmt) :
    (dependencies (erased items)).Sublist ((dependencies items).filter (!·.typeOnly)) := by
  rw [erased, keepingModule_dependencies, lowered_dependencies]
  refine (withoutTypes_dependencies _).trans ?_
  rw [← resolveScopes_dependencies items]
  exact withoutTypeImports_dependencies _

/-! ## Unused names and parentheses -/

theorem pruneItem_dependency {used : String → Bool} {item item' : Stmt}
    (h : pruneItem used item = some item') : dependency? item' = dependency? item := by
  cases item with
  | «import» s typeOnly specifiers source attrs =>
      simp only [pruneItem] at h
      split at h
      · exact absurd h (by simp)
      · cases h
        rfl
  | _ =>
      cases h
      rfl

theorem pruneImports_dependencies (items : List Stmt) :
    (dependencies (pruneImports items)).Sublist (dependencies items) :=
  filterMap_sublist items fun _ _ => pruneItem_dependency

theorem Trim.of_bind {α β : Type} {P : β → Prop} {x : Trim α} {f : α → Trim β}
    (h : ∀ a ds, P ((f a).run ds).1) (ds : Dropped) : P ((x >>= f).run ds).1 := h _ _

/-- A loop stays a loop: whether its head gets parentheses depends on what that has become. -/
theorem trim_forOf {P : Stmt → Prop} {span : Span} {await : Bool}
    (h : ∀ left right body, P (.forOf span await left right body)) (left : Stmt) (right : Expr)
    (body : Stmt) (c : Setting) (ds : Dropped) :
    P (((Stmt.forOf span await left right body).trim c).run ds).1 := by
  refine Trim.of_bind (P := P) (x := left.trim c.head) (fun left' ds' => ?_) ds
  cases left' with
  | target p =>
      cases p with
      | expr e =>
          change P (StateT.run (if _ then (_ : Trim Stmt) else _) ds').1
          split <;> exact h _ _ _
      | _ => exact h _ _ _
  | _ => exact h _ _ _

theorem trim_dependency (s : Stmt) (c : Setting) (ds : Dropped) :
    dependency? ((s.trim c).run ds).1 = dependency? s := by
  cases s with
  | forOf span await left right body =>
      exact trim_forOf (P := (dependency? · = none)) (fun _ _ _ => rfl) left right body c ds
  | _ => rfl

theorem trimmed_each (m : Module) :
    List.Forall₂ (fun s r => ∃ c ds, r = ((s.trim c).run ds).1) m.items m.trimmed.items := by
  have hlist (ss : List Stmt) (c : Setting) (ds : Dropped) :
      List.Forall₂ (fun s r => ∃ c ds, r = ((s.trim c).run ds).1) ss
        ((Stmt.trimList c ss).run ds).1 := by
    induction ss generalizing ds with
    | nil => exact .nil
    | cons s ss ih => exact .cons ⟨c, ds, rfl⟩ (ih _)
  exact hlist m.items _ _

theorem map_trimmed {α : Type} {f : Stmt → α} (h : ∀ s c ds, f ((s.trim c).run ds).1 = f s)
    (m : Module) : m.trimmed.items.map f = m.items.map f := by
  have heach := trimmed_each m
  generalize m.trimmed.items = rs at heach ⊢
  generalize m.items = ss at heach ⊢
  induction heach with
  | nil => rfl
  | cons hr _ ih =>
      obtain ⟨c, ds, rfl⟩ := hr
      rw [List.map_cons, List.map_cons, h, ih]

theorem trimmed_dependencies (m : Module) : dependencies m.trimmed.items = dependencies m.items := by
  have hmap (ss : List Stmt) : dependencies ss = (ss.map dependency?).filterMap id := by
    rw [List.filterMap_map, Function.id_comp]
    rfl
  rw [hmap, map_trimmed trim_dependency, ← hmap]

end Unbundled.Proofs.Dependencies
