import Unbundled.Linking.Imports
import Unbundled.Proofs.Dependencies

namespace Unbundled.Proofs.Exports

open Erasure Linking Script Dependencies LoweredItems

/-- Whether a declaration declares something that exists at run time. Types do not, nor do
functions without a body and what is declared to exist elsewhere. -/
def declaresAtRunTime : Stmt → Bool
  | .interface .. | .typeAlias .. => false
  | .func _ declared fn => !declared && fn.body.isSome
  | .cls _ declared _ | .enum _ _ declared _ _ | .namespace _ _ declared _
  | .globalAugment _ declared _ | .ambientModule _ _ declared _ => !declared
  | .var _ kind declared _ => isUsing kind || !declared
  | _ => true

/-- Whether an item exports something at run time: by default, under the names in a list that is
not empty, all that another module exports, or what it declares. -/
def exportsAtRunTime : Stmt → Bool
  | .exportDecl _ decl => declaresAtRunTime decl
  | .exportDefaultDecl .. | .exportDefaultExpr .. => true
  | .exportAll _ typeOnly .. => !typeOnly
  | .exportNamed _ typeOnly specifiers .. => !typeOnly && !specifiers.isEmpty
  | _ => false

/-- An export of nothing, which is written to say that the text is a module. -/
def isEmptyExport : Stmt → Bool
  | .exportNamed _ false [] .. => true
  | _ => false

def isExportedAlias : Stmt → Bool
  | .importEquals _ true false .. => true
  | _ => false

theorem visit_scope_declaresValue (s : Stmt) (scopes : List Scope) :
    declaresValue ((s.visit Scope.visitor).run scopes) = declaresValue s := by
  cases s with
  | exportNamed s typeOnly specifiers source attrs => cases source <;> rfl
  | «for» s init test update body => cases init <;> rfl
  | «namespace» s id declared body => cases body <;> rfl
  | _ => rfl

theorem visit_scope_exportsValue (s : Stmt) (scopes : List Scope) :
    exportsValue ((s.visit Scope.visitor).run scopes) = exportsValue s := by
  cases s with
  | exportNamed s typeOnly specifiers source attrs => cases source <;> rfl
  | «for» s init test update body => cases init <;> rfl
  | «namespace» s id declared body => cases body <;> rfl
  | exportDecl s decl => exact visit_scope_declaresValue decl scopes
  | _ => rfl

def declares : Stmt → List Erasure.Key
  | .enum _ id .. | .exportDecl _ (.enum _ id ..)
  | .namespace _ id _ (some _) | .exportDecl _ (.namespace _ id _ (some _))
  | .func id .. | .cls id .. | .exportDecl _ (.func id ..) | .exportDecl _ (.cls id ..)
  | .exportDefaultDecl _ (.func (some id) _) | .exportDefaultDecl _ (.cls (some id) _) => [keyOf id]
  | _ => []

def opened? : Stmt → Option Erasure.Key
  | .exportDecl _ (.enum _ id ..) | .exportDecl _ (.namespace _ id _ (some _)) => some (keyOf id)
  | _ => none

def surfaces (declared : List Erasure.Key) (s : Stmt) : Bool :=
  match opened? s with
  | some key => !declared.contains key
  | none => exportsAtRunTime s

theorem objectVars_exports (id : Ident) (exported : Bool) {c : Surroundings} (hc : c.owner = none)
    (p : Progress) :
    (objectVars c p id exported).any exportsAtRunTime =
      (exported && !p.declared.contains (keyOf id)) := by
  unfold objectVars
  cases p.declared.contains (keyOf id) with
  | true => exact (Bool.and_false _).symm
  | false =>
      rw [if_neg Bool.false_ne_true, objectVar, hc]
      cases exported with
      | true => exact (Bool.or_false _).trans (Bool.or_true _)
      | false => rfl

theorem opens?_run {s : Stmt} {id : Ident} {exported : Bool} (h : opens? s = some (id, exported))
    (declared : List Erasure.Key) :
    surfaces declared s = (exported && !declared.contains (keyOf id)) ∧ declares s = [keyOf id] := by
  cases opens?_eq_some.mp h with
  | enum | «namespace» | exportedEnum | exportedNamespace => exact ⟨rfl, rfl⟩

theorem not_opens?_run {s : Stmt} (h : opens? s = none) (declared : List Erasure.Key) :
    surfaces declared s = exportsAtRunTime s ∧ declares s = (names? s).toList.map keyOf := by
  constructor
  · have hopened : opened? s = none := by
      unfold opened?
      split
      · cases h
      · cases h
      · rfl
    rw [surfaces, hopened]
  · unfold declares
    split
    · cases h
    · cases h
    · cases h
    · cases h
    · rfl
    · rfl
    · rfl
    · rfl
    · rfl
    · rfl
    · have hname : names? s = none := by
        unfold names?
        split <;> grind
      rw [hname]
      rfl

theorem item_run (s : Stmt) {c : Surroundings} (hc : c.owner = none) (p : Progress) :
    (((Lowering.item s).run c).run p).1.any exportsAtRunTime = surfaces p.declared s ∧
      (((Lowering.item s).run c).run p).2.declared = declares s ++ p.declared := by
  have hlowers := item_lowersTo c p s
  generalize ((Lowering.item s).run c).run p = r at hlowers ⊢
  cases hlowers with
  | @object id exported fills hopens =>
      obtain ⟨hsurfaces, hdeclares⟩ := opens?_run hopens p.declared
      have hfills : (fills.map fun f => Stmt.expr f.1 f.2).any exportsAtRunTime = false := by
        simp [exportsAtRunTime]
      rw [hsurfaces, hdeclares, List.any_append, objectVars_exports id exported hc, hfills,
        Bool.or_false]
      exact ⟨rfl, rfl⟩
  | named hopens hname | other hopens hname =>
      obtain ⟨hsurfaces, hdeclares⟩ := not_opens?_run hopens p.declared
      rw [hsurfaces, hdeclares, hname]
      exact ⟨Bool.or_false _, rfl⟩

/-- Whether one of some items surfaces; each adds the names that it declares. -/
def surfacing : List Erasure.Key → List Stmt → Bool
  | _, [] => false
  | declared, s :: ss => surfaces declared s || surfacing (declares s ++ declared) ss

theorem itemList_run (ss : List Stmt) {c : Surroundings} (hc : c.owner = none) (p : Progress) :
    (((Lowering.itemList ss).run c).run p).1.any exportsAtRunTime = surfacing p.declared ss := by
  induction ss generalizing p with
  | nil => rfl
  | cons s ss ih =>
      let r := ((Lowering.item s).run c).run p
      have hrun : (((Lowering.itemList (s :: ss)).run c).run p).1 =
          r.1 ++ (((Lowering.itemList ss).run c).run r.2).1 := rfl
      obtain ⟨hexports, hdeclared⟩ := item_run s hc p
      rw [hrun, List.any_append, ih, hexports, hdeclared, surfacing]

theorem surfaces_congr {declared declared' : List Erasure.Key}
    (h : ∀ key, key ∈ declared ↔ key ∈ declared') (s : Stmt) :
    surfaces declared s = surfaces declared' s := by
  have hcontains (key : Erasure.Key) : declared.contains key = declared'.contains key := by
    rw [Bool.eq_iff_iff, List.contains_iff_mem, List.contains_iff_mem, h key]
  unfold surfaces
  split
  · rw [hcontains]
  · rfl

theorem surfacing_iff {declared : List Erasure.Key} {ss : List Stmt} :
    surfacing declared ss = true ↔ ∃ before s after, ss = before ++ s :: after ∧
      surfaces (before.flatMap declares ++ declared) s = true := by
  induction ss generalizing declared with
  | nil => simp [surfacing]
  | cons s ss ih =>
      have hcongr (before : List Stmt) (t : Stmt) :
          surfaces (before.flatMap declares ++ (declares s ++ declared)) t =
            surfaces ((s :: before).flatMap declares ++ declared) t :=
        surfaces_congr (fun key => by simp [or_left_comm]) t
      rw [surfacing, Bool.or_eq_true, ih]
      constructor
      · rintro (h | ⟨before, t, after, rfl, h⟩)
        · exact ⟨[], s, ss, rfl, h⟩
        · exact ⟨s :: before, t, after, rfl, hcongr before t ▸ h⟩
      · rintro ⟨before, t, after, hsplit, h⟩
        cases before with
        | nil =>
            cases hsplit
            exact .inl h
        | cons s' before =>
            cases hsplit
            exact .inr ⟨before, t, after, rfl, (hcongr before t).trans h⟩

structure Same (s s' : Stmt) : Prop where
  opened : opened? s' = opened? s
  exports : exportsAtRunTime s' = exportsAtRunTime s
  declares : declares s' = declares s

theorem Same.surfaces {s s' : Stmt} (h : Same s s') (declared : List Erasure.Key) :
    surfaces declared s' = surfaces declared s := by
  rw [Exports.surfaces, Exports.surfaces, h.opened, h.exports]

theorem visit_lowering_default (s : Span) (e : Expr) (c : Surroundings) (p : Progress) :
    declares (.exportDefaultDecl s (((e.visit Lowering.visitor).run c).run p).1) =
      declares (.exportDefaultDecl s e) := by
  obtain ⟨enums, exports, owner, isTarget⟩ := c
  cases e with
  | member t obj key =>
      -- only a member of an enum may give way to its value
      let c : Surroundings := ⟨enums, exports, owner, isTarget⟩
      let go : Lowering Expr := do
        let obj ← obj.visit Lowering.visitor
        return .member t obj (← key.visit Lowering.visitor)
      have hrun := LoweredItems.expr_run c p (e := .member t obj key) (by simp) (by simp) go
      change declares (.exportDefaultDecl s (((Lowering.expr (.member t obj key) go).run c).run p).1) = _
      rw [hrun]
      cases hv : (if isTarget then none else c.constant? (.member t obj key)) with
      | none => rfl
      | some v =>
        cases isTarget with
        | true => cases hv
        | false => obtain ⟨-, ⟨lit, rfl⟩ | ⟨s, d, raw, rfl⟩⟩ := constant?_eq_some hv <;> rfl
  | ident id =>
      let c : Surroundings := ⟨enums, exports, owner, isTarget⟩
      change declares (.exportDefaultDecl s ((c.access? id).getD (.ident id))) = []
      cases haccess : c.access? id with
      | none => rfl
      | some e =>
          obtain ⟨_, _, _, rfl⟩ := access?_eq_some haccess
          rfl
  | func name fn | cls name c => cases name <;> cases isTarget <;> rfl
  | _ => cases isTarget <;> rfl

theorem visit_lowering_same (s : Stmt) (c : Surroundings) (p : Progress) :
    Same s (((s.visit Lowering.visitor).run c).run p).1 := by
  cases s with
  | exportDecl s decl =>
      cases decl with
      | func name declared fn =>
        obtain ⟨_, _, _, _, _, _, _, body⟩ := fn
        cases body <;> exact ⟨rfl, rfl, rfl⟩
      | «namespace» s id declared body => cases body <;> exact ⟨rfl, rfl, rfl⟩
      | _ => exact ⟨rfl, rfl, rfl⟩
  | exportDefaultDecl s e => exact ⟨rfl, rfl, visit_lowering_default s e c p⟩
  | «namespace» s id declared body => cases body <;> exact ⟨rfl, rfl, rfl⟩
  | _ => exact ⟨rfl, rfl, rfl⟩

theorem visitList_lowering_run (ss : List Stmt) (c : Surroundings) (p : Progress)
    (declared : List Erasure.Key) :
    surfacing declared (((Stmt.visitList Lowering.visitor ss).run c).run p).1 =
      surfacing declared ss := by
  induction ss generalizing p declared with
  | nil => rfl
  | cons s ss ih =>
      let r := ((s.visit Lowering.visitor).run c).run p
      have hrun : (((Stmt.visitList Lowering.visitor (s :: ss)).run c).run p).1 =
          r.1 :: (((Stmt.visitList Lowering.visitor ss).run c).run r.2).1 := rfl
      have hsame : Same s r.1 := visit_lowering_same s c p
      rw [hrun, surfacing, surfacing, ih, hsame.surfaces, hsame.declares]

theorem surfacing_append_of_quiet {ss : List Stmt}
    (h : ∀ s ∈ ss, opened? s = none ∧ exportsAtRunTime s = false) (declared : List Erasure.Key)
    (before : List Stmt) : surfacing declared (before ++ ss) = surfacing declared before := by
  induction before generalizing declared with
  | nil =>
      induction ss generalizing declared with
      | nil => rfl
      | cons s ss ih =>
          obtain ⟨⟨hopened, hexports⟩, hrest⟩ := List.forall_mem_cons.mp h
          have hquiet : surfaces declared s = false := by rw [surfaces, hopened, hexports]
          change (surfaces declared s || surfacing (declares s ++ declared) ss) = false
          rw [hquiet, Bool.false_or]
          exact ih hrest _
  | cons s before ih => rw [List.cons_append, surfacing, surfacing, ih]

/-- The items that lowering goes through: aliases are constants, and an assignment comes last. -/
def unaliased (items : List Stmt) : List Stmt :=
  items.filterMap aliasItem ++ (items.filterMap exportAssignment?).take 1

theorem exists_of_mem_unaliased {items : List Stmt} {x : Stmt} (h : x ∈ unaliased items) :
    (∃ item ∈ items, aliasItem item = some x) ∨ ∃ span e, x = .expr span e := by
  rcases List.mem_append.mp h with h | h
  · exact .inl (List.mem_filterMap.mp h)
  · obtain ⟨item, -, hitem⟩ := List.mem_filterMap.mp (List.mem_of_mem_take h)
    exact .inr (exportAssignment?_eq_some hitem)

def innerNames (items : List Stmt) : List Erasure.Key :=
  (((Stmt.visitList Lowering.visitor (unaliased items)).run
    { enums := EnumTable.ofItems items, exports := exportsOf items }).run {}).2.declared

theorem lowered_exports (items : List Stmt) :
    (lowered items).any exportsAtRunTime =
      surfacing (innerNames items) (items.filterMap aliasItem) := by
  let c : Surroundings := { enums := EnumTable.ofItems items, exports := exportsOf items }
  have hrun := run_lowering c {} (unaliased items)
  change lowered items = _ at hrun
  have hheld (held : List Ident) : (heldVars held).any exportsAtRunTime = false := by
    obtain h | ⟨decls, h, -⟩ := heldVars_eq held
    · rw [h]
      rfl
    · rw [h]
      rfl
  rw [hrun, List.any_append, hheld, Bool.false_or, itemList_run _ rfl, visitList_lowering_run]
  refine surfacing_append_of_quiet (fun s hs => ?_) _ _
  obtain ⟨item, -, hitem⟩ := List.mem_filterMap.mp (List.mem_of_mem_take hs)
  obtain ⟨span, e, rfl⟩ := exportAssignment?_eq_some hitem
  exact ⟨rfl, rfl⟩

theorem keepingModule_exports (before items : List Stmt) :
    (keepingModule before items).any exportsAtRunTime = items.any exportsAtRunTime := by
  rcases keepingModule_eq before items with h | ⟨span, h⟩
  · rw [h]
  · rw [h, List.any_append]
    exact Bool.or_false _

theorem pruneItem_exports (used : String → Bool) (s : Stmt) :
    (pruneItem used s).any exportsAtRunTime = exportsAtRunTime s := by
  cases s with
  | «import» s typeOnly specifiers source attrs =>
      simp only [pruneItem]
      split <;> rfl
  | _ => rfl

theorem pruneImports_exports (items : List Stmt) :
    (pruneImports items).any exportsAtRunTime = items.any exportsAtRunTime := by
  rw [pruneImports, List.any_filterMap]
  exact congrArg items.any (funext fun s => pruneItem_exports _ s)

theorem trim_declares (s : Stmt) (c : Setting) (ds : Dropped) :
    declaresAtRunTime ((s.trim c).run ds).1 = declaresAtRunTime s := by
  cases s with
  | forOf span await left right body =>
      exact trim_forOf (P := (declaresAtRunTime · = true)) (fun _ _ _ => rfl) left right body c ds
  | func name declared fn =>
      obtain ⟨_, _, _, _, _, _, _, body⟩ := fn
      cases body <;> rfl
  | _ => rfl

theorem trim_exports (s : Stmt) (c : Setting) (ds : Dropped) :
    exportsAtRunTime ((s.trim c).run ds).1 = exportsAtRunTime s := by
  cases s with
  | exportDecl span decl => exact trim_declares decl c.start ds
  | forOf span await left right body =>
      exact trim_forOf (P := (exportsAtRunTime · = false)) (fun _ _ _ => rfl) left right body c ds
  | _ => rfl

theorem trimmed_exports (m : Module) :
    m.trimmed.items.any exportsAtRunTime = m.items.any exportsAtRunTime := by
  have hmap (ss : List Stmt) : ss.any exportsAtRunTime = (ss.map exportsAtRunTime).any id := by
    rw [List.any_map, Function.id_comp]
  rw [hmap, map_trimmed trim_exports, ← hmap]

end Unbundled.Proofs.Exports
