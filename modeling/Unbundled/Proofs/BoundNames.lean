import Unbundled.Proofs.Requires

namespace Unbundled.Proofs.BoundNames

open Erasure Linking Script Dependencies Exports ExportFlag LoweredItems Requires Unwrapping

/-! ## Bindings -/

inductive Manner where
  | imported
  | declared (kind : VarKind)
  | cls
  | func
deriving Repr, DecidableEq

/-- The names that an item binds otherwise than with `var`, enums and namespaces aside. -/
def bindings : Stmt → List (Manner × String)
  | .var _ kind _ decls =>
    if kind.isLexical then (declaredNames decls).map (Manner.declared kind, ·) else []
  | .func name .. => [(.func, name.name)]
  | .cls name .. => [(.cls, name.name)]
  | .import _ _ specifiers .. => specifiers.map fun i => (.imported, i.local.name)
  | .exportDecl _ decl => bindings decl
  | .exportDefaultDecl _ (.func (some name) _) => [(.func, name.name)]
  | .exportDefaultDecl _ (.cls (some name) _) => [(.cls, name.name)]
  | _ => []

def bindingsOf (items : List Stmt) : List (Manner × String) := items.flatMap bindings

def isDefaultDecl : Stmt → Bool
  | .exportDefaultDecl .. => true
  | .exportDecl _ decl => isDefaultDecl decl
  | _ => false

def MayBind (b : Manner × String) (s : Stmt) : Prop := b ∈ bindings s ∨ isDefaultDecl s = true

variable {b : Manner × String}

theorem not_mayBind {s : Stmt} (hbindings : bindings s = []) (hdefault : isDefaultDecl s = false) :
    ¬MayBind b s := by
  rintro (h | h)
  · rw [hbindings] at h
    cases h
  · rw [hdefault] at h
    cases h

theorem MayBind.congr {s r : Stmt} (h : MayBind b r) (hbindings : bindings r = bindings s)
    (hdefault : isDefaultDecl r = isDefaultDecl s) : MayBind b s := by
  rwa [MayBind, hbindings, hdefault] at h

theorem MayBind.eq_of_singleton {s : Stmt} {a : Manner × String} (h : MayBind b s)
    (hbindings : bindings s = [a]) (hdefault : isDefaultDecl s = false) : b = a := by
  rw [MayBind, hbindings, hdefault] at h
  exact List.mem_singleton.mp (h.resolve_right nofun)

/-! ## Visitors -/

section
variable {m : Type → Type} [Monad m] {o : Outcomes m} {v : Visitor m}

structure KeepsNames (o : Outcomes m) (v : Visitor m) : Prop where
  bind {id r} (h : o.Gives (v.bind id) r) : r.name = id.name
  pat {p go r name} (h : o.Gives (v.pat p go) r) (hname : name ∈ r.boundNames) :
    name ∈ p.boundNames ∨ ∃ r', o.Gives go r' ∧ name ∈ r'.boundNames
  stmt {s go r b} (h : o.Gives (v.stmt s go) r) (hb : MayBind b r) :
    MayBind b s ∨ ∃ r', o.Gives go r' ∧ MayBind b r'

mutual

theorem boundNames_of_visit (hv : KeepsNames o v) {p r : Pat} {name : String}
    (h : o.Gives (p.visit v) r) (hname : name ∈ r.boundNames) : name ∈ p.boundNames := by
  rw [Pat.visit.eq_def] at h
  rcases hv.pat h hname with hname | ⟨r', h, hname⟩
  · exact hname
  cases p with
  | ident id ann =>
      obtain ⟨id', hid, h⟩ := o.bind h
      obtain rfl := o.pure h
      obtain rfl := List.mem_singleton.mp hname
      exact List.mem_singleton.mpr (hv.bind hid)
  | array span ps optional ann | object span ps optional ann =>
      obtain ⟨ps', hps, h⟩ := o.bind h
      obtain rfl := o.pure h
      exact boundNames_of_visitList hv hps hname
  | hole =>
      obtain rfl := o.pure h
      exact hname
  | keyed key value =>
      obtain ⟨key', -, h⟩ := o.bind h
      obtain ⟨value', hvalue, h⟩ := o.bind h
      obtain rfl := o.pure h
      have hbound : name ∈ value.boundNames := boundNames_of_visit hv hvalue hname
      exact hbound
  | shorthand span id default =>
      obtain ⟨id', hid, h⟩ := o.bind h
      obtain ⟨default', -, h⟩ := o.bind h
      obtain rfl := o.pure h
      obtain rfl := List.mem_singleton.mp hname
      exact List.mem_singleton.mpr (hv.bind hid)
  | rest span dots arg ann =>
      obtain ⟨arg', harg, h⟩ := o.bind h
      obtain rfl := o.pure h
      have hbound : name ∈ arg.boundNames := boundNames_of_visit hv harg hname
      exact hbound
  | default span left right =>
      obtain ⟨left', hleft, h⟩ := o.bind h
      obtain ⟨right', -, h⟩ := o.bind h
      obtain rfl := o.pure h
      have hbound : name ∈ left.boundNames := boundNames_of_visit hv hleft hname
      exact hbound
  | expr e =>
      obtain ⟨e', -, h⟩ := o.bind h
      obtain rfl := o.pure h
      cases hname
termination_by structural p

theorem boundNames_of_visitList (hv : KeepsNames o v) {ps rs : List Pat} {name : String}
    (h : o.Gives (Pat.visitList v ps) rs) (hname : name ∈ (Pat.boundOf rs).map (·.name)) :
    name ∈ (Pat.boundOf ps).map (·.name) := by
  cases ps with
  | nil =>
      obtain rfl := o.pure h
      exact hname
  | cons p ps =>
      obtain ⟨r, rest, rfl, hr, hrest⟩ := o.cons h
      rw [Pat.boundOf, List.map_append, List.mem_append] at hname ⊢
      exact hname.imp (boundNames_of_visit hv hr) (boundNames_of_visitList hv hrest)
termination_by structural ps

end

theorem declaredNames_of_visitList (hv : KeepsNames o v) {ds rs : List Declarator} {name : String}
    (h : o.Gives (Declarator.visitList v ds) rs) (hname : name ∈ declaredNames rs) :
    name ∈ declaredNames ds := by
  induction ds generalizing rs with
  | nil =>
      obtain rfl := o.pure h
      exact hname
  | cons d ds ih =>
      obtain ⟨span, p, definite, init⟩ := d
      obtain ⟨r, rest, rfl, hr, hrest⟩ := o.cons h
      obtain ⟨p', hp, hr⟩ := o.bind hr
      obtain ⟨init', -, hr⟩ := o.bind hr
      obtain rfl := o.pure hr
      rw [declaredNames, List.flatMap_cons, List.mem_append] at hname ⊢
      exact hname.imp (boundNames_of_visit hv hp) (ih hrest)

theorem MayBind.of_visit (hv : KeepsNames o v) {s r : Stmt} (h : o.Gives (s.visit v) r)
    (hb : MayBind b r) : MayBind b s := by
  rw [Stmt.visit.eq_def] at h
  rcases hv.stmt h hb with hb | ⟨r', h, hb⟩
  · exact hb
  cases s with
  | var span kind declared decls =>
      obtain ⟨decls', hdecls, h⟩ := o.bind h
      obtain rfl := o.pure h
      refine hb.imp_left fun hb => ?_
      unfold bindings at hb ⊢
      split at hb
      · rename_i hlexical
        obtain ⟨name, hname, rfl⟩ := List.mem_map.mp hb
        rw [if_pos hlexical]
        exact List.mem_map_of_mem (declaredNames_of_visitList hv hdecls hname)
      · cases hb
  | func name declared fn | cls name declared cls =>
      obtain ⟨name', hname, h⟩ := o.bind h
      obtain ⟨_, -, h⟩ := o.bind h
      obtain rfl := o.pure h
      exact hb.congr (by rw [bindings, bindings, hv.bind hname]) rfl
  | exportDecl span decl =>
      obtain ⟨decl', hdecl, h⟩ := o.bind h
      obtain rfl := o.pure h
      have hdecl : MayBind b decl := MayBind.of_visit hv hdecl hb
      exact hdecl
  | exportDefaultDecl => exact .inr rfl
  | «try» span body catchSpan param handler final =>
      obtain ⟨_, _, h⟩ := o.bind h
      obtain ⟨⟨_, _⟩, _, h⟩ := o.bind h
      obtain ⟨_, _, h⟩ := o.bind h
      obtain rfl := o.pure h
      exact absurd hb (not_mayBind rfl rfl)
  | «import» =>
      obtain rfl := o.pure h
      exact hb
  | _ =>
      repeat obtain ⟨_, _, h⟩ := o.bind h
      obtain rfl := o.pure h
      exact absurd hb (not_mayBind rfl rfl)
termination_by structural s

end

/-! ## Scopes -/

theorem visit_scope_specifiers (specifiers : List ImportSpecifier) (scopes : List Scope) :
    ((specifiers.mapM Scope.importSpecifier).run scopes).map (fun i => i.local.name) =
      specifiers.map fun i => i.local.name := by
  induction specifiers with
  | nil => rfl
  | cons i rest ih =>
      rw [List.mapM_cons]
      cases i <;> exact congrArg (List.cons _) ih

theorem keepsNames_scopes : KeepsNames scopedOutcomes Scope.visitor where
  bind := by
    rintro id r ⟨scopes, rfl⟩
    rfl
  pat := by
    rintro p go r name ⟨scopes, h⟩ hname
    exact .inr ⟨r, ⟨scopes, h⟩, hname⟩
  stmt := by
    rintro s go r b ⟨scopes, h⟩ hb
    change (Scope.stmt s go).run scopes = r at h
    have houter (id : Ident) (x : Stmt) (hx : MayBind b ((Scope.outerName id x).run scopes)) :
        MayBind b x := by
      cases x <;> exact hx
    unfold Scope.stmt at h
    split at h
    · exact .inr ⟨r, ⟨_, h⟩, hb⟩
    · exact .inr ⟨r, ⟨_, h⟩, hb⟩
    · exact .inr ⟨r, ⟨_, h⟩, hb⟩
    · exact .inr ⟨r, ⟨_, h⟩, hb⟩
    · subst h
      exact .inr ⟨_, ⟨_, rfl⟩, houter _ _ hb⟩
    · subst h
      exact .inr ⟨_, ⟨_, rfl⟩, houter _ _ hb⟩
    · rename_i span typeOnly specifiers source attrs
      subst h
      refine .inl (hb.congr ?_ rfl)
      have hnames := visit_scope_specifiers specifiers scopes
      have hmap := congrArg (List.map (Manner.imported, ·)) hnames
      rw [List.map_map, List.map_map] at hmap
      exact hmap
    · subst h
      exact absurd hb (not_mayBind rfl rfl)
    · subst h
      exact absurd hb (not_mayBind rfl rfl)
    · subst h
      exact absurd hb (not_mayBind rfl rfl)
    · exact .inr ⟨r, ⟨_, h⟩, hb⟩

/-! ## Types -/

theorem keepsNames_types : KeepsNames plainOutcomes Untyped.visitor where
  bind := by
    rintro id r rfl
    rfl
  pat := by
    rintro p go r name h hname
    have hr : Untyped.pat p go = r := h
    subst hr
    refine .inr ⟨Id.run go, rfl, ?_⟩
    unfold Untyped.pat at hname
    split at hname <;> exact hname
  stmt := by
    rintro s go r b h hb
    have hr : Untyped.stmt s go = r := h
    subst hr
    refine .inr ⟨Id.run go, rfl, ?_⟩
    unfold Untyped.stmt at hb
    split at hb
    · rename_i span kind declared decls
      refine hb.congr ?_ rfl
      have hnames : declaredNames (decls.map fun d => { d with definite := false }) =
          declaredNames decls := List.flatMap_map ..
      exact congrArg (fun names => if kind.isLexical then names.map (Manner.declared kind, ·) else [])
        hnames
    · exact hb

theorem withoutAliases_mayBind (s : Stmt) (h : MayBind b (withoutAliases s)) : MayBind b s := by
  cases s with
  | exportDecl span decl =>
      have hdecl : MayBind b decl := withoutAliases_mayBind decl h
      exact hdecl
  | _ => exact h
termination_by structural s

theorem MayBind.of_importedValues {n : Names} {item item' : Stmt}
    (h : importedValues n item = some item') (hb : MayBind b item') : MayBind b item := by
  cases staysAs_of_importedValues h with
  | «import» =>
      refine hb.imp_left fun hb => ?_
      obtain ⟨i, hi, rfl⟩ := List.mem_map.mp hb
      exact List.mem_map_of_mem (List.mem_of_mem_filter hi)
  | exportNamed => exact absurd hb (not_mayBind rfl rfl)
  | other => exact withoutAliases_mayBind item hb

/-! ## Enums, namespaces and aliases -/

theorem keepsNames_lowering : KeepsNames loweringOutcomes Lowering.visitor where
  bind := by
    rintro id r ⟨c, p, rfl⟩
    rfl
  pat := by
    rintro p go r name ⟨c, p', h⟩ hname
    change (((Lowering.pat p go).run c).run p').1 = r at h
    unfold Lowering.pat at h
    have hread : (read : Lowering Surroundings).run c = pure c := rfl
    rw [ReaderT.run_bind, hread, pure_bind] at h
    split at h
    · rename_i id ann
      have hr : (c.access? id).elim (.ident id ann) .expr = r := h
      subst hr
      cases haccess : c.access? id with
      | none =>
          rw [haccess] at hname
          exact .inl hname
      | some e =>
          rw [haccess] at hname
          cases hname
    · rename_i span id default
      obtain ⟨r', hgo, h⟩ := loweringOutcomes.bind ⟨c, p', h⟩
      generalize c.access? id = access at h
      split at h
      · -- the variable of a namespace is a member of its object
        rename_i default'
        obtain rfl := loweringOutcomes.pure h
        cases default' <;> cases hname
      · obtain rfl := loweringOutcomes.pure h
        exact .inr ⟨_, hgo, hname⟩
    · exact .inr ⟨r, ⟨_, _, h⟩, hname⟩
    · exact .inr ⟨r, ⟨_, _, h⟩, hname⟩
  stmt := by
    rintro s go r b ⟨c, p, h⟩ hb
    change (((Lowering.stmt s go).run c).run p).1 = r at h
    unfold Lowering.stmt at h
    split at h
    · exact .inr ⟨r, ⟨_, _, h⟩, hb⟩
    · exact .inr ⟨r, ⟨_, _, h⟩, hb⟩

def OpensInModule (s : Stmt) : Prop :=
  ∀ id exported, opens? s = some (id, exported) → id.scope = Scope.moduleNumber

theorem opens?_of_visit_lowering {s r : Stmt} (h : loweringOutcomes.Gives (s.visit Lowering.visitor) r) :
    opens? r = opens? s := by
  obtain ⟨c, p, rfl⟩ := h
  cases s with
  | exportDecl span decl =>
      cases decl with
      | «namespace» span id declared body => cases body <;> rfl
      | _ => rfl
  | «namespace» span id declared body => cases body <;> rfl
  | _ => rfl

theorem MayBind.of_madeFor {s x : Stmt} (hs : OpensInModule s) (hx : MadeFor s x)
    (hb : MayBind b x) : False := by
  cases hx with
  | @object id exported c hopens =>
      -- the variable is one of the module, so it is declared with `var`
      refine not_mayBind ?_ ?_ hb
      · rw [objectVar, if_pos (hs id exported hopens)]
        split <;> rfl
      · rw [objectVar]
        split <;> rfl
  | fill => exact not_mayBind rfl rfl hb

theorem MayBind.of_lowered {items : List Stmt} {x : Stmt}
    (hitems : ∀ s ∈ unaliased items, OpensInModule s) (hx : x ∈ lowered items) (hb : MayBind b x) :
    ∃ s ∈ unaliased items, MayBind b s := by
  rcases exists_of_mem_lowered hx with ⟨held, hx⟩ | ⟨s, hs, s', hvisited, rfl | hx⟩
  · obtain h | ⟨decls, h, -⟩ := heldVars_eq held
    · rw [h] at hx
      cases hx
    · rw [h] at hx
      obtain rfl := List.mem_singleton.mp hx
      exact absurd hb (not_mayBind rfl rfl)
  · exact ⟨s, hs, hb.of_visit keepsNames_lowering hvisited⟩
  · have hopens : OpensInModule s' := by
      rw [OpensInModule, opens?_of_visit_lowering hvisited]
      exact hitems s hs
    exact (hb.of_madeFor hopens hx).elim

def aliasName? : Stmt → Option String
  | .importEquals _ _ _ id _ | .importRequire _ _ _ id .. => some id.name
  | _ => none

/-- The item may bind the name, or is an alias that becomes a constant of that name. -/
def MayBecome (b : Manner × String) (item : Stmt) : Prop :=
  MayBind b item ∨ b.1 = .declared .const ∧ aliasName? item = some b.2

theorem MayBind.of_unaliased {items : List Stmt} {x : Stmt} (hx : x ∈ unaliased items)
    (hb : MayBind b x) : ∃ item ∈ items, MayBecome b item := by
  rcases exists_of_mem_unaliased hx with ⟨item, hitem, hx⟩ | ⟨span, e, rfl⟩
  · refine ⟨item, hitem, ?_⟩
    cases item with
    | importEquals span exported typeOnly id target =>
        have hconst : b = (.declared .const, id.name) := by
          cases exported <;> cases hx <;> exact hb.eq_of_singleton rfl rfl
        subst hconst
        exact .inr ⟨rfl, rfl⟩
    | importRequire span exported typeOnly id refSpan source =>
        cases hx
        have hconst : b = (.declared .const, id.name) := hb.eq_of_singleton rfl rfl
        subst hconst
        exact .inr ⟨rfl, rfl⟩
    | exportAssign => cases hx
    | _ =>
        cases hx
        exact .inl hb
  · exact absurd hb (not_mayBind rfl rfl)

theorem OpensInModule.of_unaliased {items : List Stmt} (hitems : ∀ s ∈ items, OpensInModule s)
    {x : Stmt} (hx : x ∈ unaliased items) : OpensInModule x := by
  rcases exists_of_mem_unaliased hx with ⟨item, hitem, hx⟩ | ⟨span, e, rfl⟩
  · cases item with
    | importEquals span exported typeOnly id target => cases exported <;> cases hx <;> nofun
    | importRequire span exported typeOnly id refSpan source =>
        cases hx
        nofun
    | exportAssign => cases hx
    | _ =>
        cases hx
        exact hitems _ hitem
  · nofun

/-! ## A typed script -/

theorem opens?_of_visit_scope (s : Stmt) (scopes : List Scope) :
    opens? ((s.visit Scope.visitor).run scopes) =
      (opens? s).map fun o => ({ o.1 with scope := Scope.lookup o.1.name scopes }, o.2) := by
  cases s with
  | exportDecl span decl =>
      cases decl with
      | exportNamed s typeOnly specifiers source attrs => cases source <;> rfl
      | «for» s init test update body => cases init <;> rfl
      | «namespace» span id declared body => cases body <;> rfl
      | _ => rfl
  | exportNamed s typeOnly specifiers source attrs => cases source <;> rfl
  | «for» s init test update body => cases init <;> rfl
  | «namespace» span id declared body => cases body <;> rfl
  | _ => rfl

theorem name_mem_of_opens? {s : Stmt} {id : Ident} {exported : Bool}
    (h : opens? s = some (id, exported)) : id.name ∈ s.lexicalNames := by
  cases opens?_eq_some.mp h with
  | enum | «namespace» | exportedEnum | exportedNamespace => exact List.mem_singleton_self _

theorem opensInModule_resolved {items : List Stmt} {item : Stmt} (h : item ∈ resolveScopes items) :
    OpensInModule item := by
  rw [resolveScopes_eq] at h
  obtain ⟨s, hs, rfl⟩ := List.mem_map.mp h
  intro id exported hopens
  rw [opens?_of_visit_scope] at hopens
  obtain ⟨⟨id', exported'⟩, hopens', heq⟩ := Option.map_eq_some_iff.mp hopens
  cases heq
  have hname : id'.name ∈ itemNames items :=
    List.mem_append_left _ (List.mem_flatMap.mpr ⟨s, hs, name_mem_of_opens? hopens'⟩)
  exact if_pos (List.contains_iff_mem.mpr hname)

theorem opens?_withoutAliases (s : Stmt) : opens? (withoutAliases s) = opens? s := by
  cases s with
  | exportDecl span decl =>
      cases decl with
      | «namespace» span id declared body => cases body <;> rfl
      | _ => rfl
  | «namespace» span id declared body => cases body <;> rfl
  | _ => rfl

theorem opens?_of_importedValues {n : Names} {item item' : Stmt}
    (h : importedValues n item = some item') : opens? item' = opens? item := by
  cases staysAs_of_importedValues h with
  | «import» | exportNamed => rfl
  | other => exact opens?_withoutAliases item

theorem opens?_of_visit_untyped (s : Stmt) :
    opens? (Id.run (s.visit Untyped.visitor)) =
      (opens? s).map fun o => ({ o.1 with optional := false }, o.2) := by
  cases s with
  | exportDecl span decl =>
      cases decl with
      | «namespace» span id declared body => cases body <;> rfl
      | _ => rfl
  | «namespace» span id declared body => cases body <;> rfl
  | _ => rfl

theorem OpensInModule.of_plainItem? {n : Names} {item s : Stmt} (hitem : OpensInModule item)
    (h : plainItem? n item = some s) : OpensInModule s := by
  obtain ⟨kept, hkept, rfl⟩ := plainItem?_eq_some h
  intro id exported hopens
  rw [opens?_of_visit_untyped, opens?_of_importedValues hkept] at hopens
  obtain ⟨⟨id', exported'⟩, hopens', heq⟩ := Option.map_eq_some_iff.mp hopens
  cases heq
  exact hitem id' exported' hopens'

theorem aliasName?_of_importedValues {n : Names} {item item' : Stmt}
    (h : importedValues n item = some item') : aliasName? item' = aliasName? item := by
  cases staysAs_of_importedValues h with
  | «import» | exportNamed => rfl
  | other => cases item <;> rfl

theorem MayBecome.of_plainItem? {n : Names} {item s : Stmt} (h : plainItem? n item = some s)
    (hb : MayBecome b s) : MayBecome b item := by
  obtain ⟨kept, hkept, rfl⟩ := plainItem?_eq_some h
  rcases hb with hb | ⟨hconst, halias⟩
  · have hb : MayBind b kept := hb.of_visit keepsNames_types rfl
    exact .inl (hb.of_importedValues hkept)
  · have huntyped : aliasName? (Id.run (kept.visit Untyped.visitor)) = aliasName? kept := by
      cases kept <;> rfl
    rw [huntyped, aliasName?_of_importedValues hkept] at halias
    exact .inr ⟨hconst, halias⟩

theorem MayBecome.of_visit_scope {s : Stmt} {scopes : List Scope}
    (hb : MayBecome b ((s.visit Scope.visitor).run scopes)) : MayBecome b s := by
  rcases hb with hb | ⟨hconst, halias⟩
  · exact .inl (hb.of_visit keepsNames_scopes ⟨scopes, rfl⟩)
  · have hname : aliasName? ((s.visit Scope.visitor).run scopes) = aliasName? s := by
      cases s with
      | exportNamed s typeOnly specifiers source attrs => cases source <;> rfl
      | «for» s init test update body => cases init <;> rfl
      | «namespace» span id declared body => cases body <;> rfl
      | _ => rfl
    rw [hname] at halias
    exact .inr ⟨hconst, halias⟩

theorem MayBind.of_keepingModule {before items : List Stmt} {x : Stmt}
    (hx : x ∈ keepingModule before items) (hb : MayBind b x) : x ∈ items := by
  rcases keepingModule_eq before items with hkeeping | ⟨span, hkeeping⟩
  · exact hkeeping ▸ hx
  · rw [hkeeping] at hx
    rcases List.mem_append.mp hx with hx | hx
    · exact hx
    · obtain rfl := List.mem_singleton.mp hx
      exact absurd hb (not_mayBind rfl rfl)

/-- What a typed script may bind without its types, it binds with them, or else it has an alias. -/
theorem MayBind.of_erased {items : List Stmt} {x : Stmt} (hx : x ∈ erased items)
    (hb : MayBind b x) : ∃ item ∈ items, MayBecome b item := by
  have hx := hb.of_keepingModule hx
  have hplain : ∀ s ∈ withoutTypes (withoutTypeImports (resolveScopes items)), OpensInModule s := by
    intro s hs
    rw [withoutTypes_withoutTypeImports] at hs
    obtain ⟨item, hitem, hs⟩ := List.mem_filterMap.mp hs
    exact (opensInModule_resolved hitem).of_plainItem? hs
  obtain ⟨y, hy, hb⟩ := hb.of_lowered (fun s hs => OpensInModule.of_unaliased hplain hs) hx
  obtain ⟨s, hs, hb⟩ := hb.of_unaliased hy
  rw [withoutTypes_withoutTypeImports] at hs
  obtain ⟨named, hnamed, hs⟩ := List.mem_filterMap.mp hs
  have hb := hb.of_plainItem? hs
  rw [resolveScopes_eq] at hnamed
  obtain ⟨item, hitem, rfl⟩ := List.mem_map.mp hnamed
  exact ⟨item, hitem, hb.of_visit_scope⟩

/-! ## Unused names and parentheses -/

def isImport : Stmt → Bool
  | .import .. => true
  | _ => false

theorem mem_bindings_pruneImports {items : List Stmt} :
    b ∈ bindingsOf (pruneImports items) ↔
      ∃ s ∈ items, b ∈ bindings s ∧ (isImport s = true → b.2 ∈ usedNames items) := by
  have hprune (s : Stmt) : (∃ r, pruneItem (usedNames items).contains s = some r ∧ b ∈ bindings r) ↔
      b ∈ bindings s ∧ (isImport s = true → b.2 ∈ usedNames items) := by
    cases s with
    | «import» span typeOnly specifiers source attrs =>
        constructor
        · rintro ⟨r, hr, hb⟩
          obtain ⟨-, hr⟩ := Option.ite_none_left_eq_some.mp hr
          cases hr
          obtain ⟨i, hi, rfl⟩ := List.mem_map.mp hb
          obtain ⟨hi, hused⟩ := List.mem_filter.mp hi
          exact ⟨List.mem_map_of_mem hi, fun _ => List.contains_iff_mem.mp hused⟩
        · rintro ⟨hb, hused⟩
          obtain ⟨i, hi, rfl⟩ := List.mem_map.mp hb
          have hkept : i ∈ specifiers.filter fun i => (usedNames items).contains i.local.name :=
            List.mem_filter.mpr ⟨hi, List.contains_iff_mem.mpr (hused rfl)⟩
          refine ⟨_, if_neg fun hgone => ?_, List.mem_map_of_mem hkept⟩
          rw [List.isEmpty_iff.mp hgone.1] at hkept
          cases hkept
    | _ =>
        constructor
        · rintro ⟨r, hr, hb⟩
          cases hr
          exact ⟨hb, nofun⟩
        · rintro ⟨hb, -⟩
          exact ⟨_, rfl, hb⟩
  simp only [← hprune, bindingsOf, pruneImports, List.mem_flatMap, List.mem_filterMap]
  constructor
  · rintro ⟨r, ⟨s, hs, hr⟩, hb⟩
    exact ⟨s, hs, r, hr, hb⟩
  · rintro ⟨s, hs, r, hr, hb⟩
    exact ⟨r, ⟨s, hs, hr⟩, hb⟩

mutual

theorem trim_boundNames (p : Pat) (c : Setting) (ds : Dropped) :
    ((p.trim c).run ds).1.boundNames = p.boundNames := by
  cases p with
  | array span elems optional ann => exact trimList_boundNames elems c ds
  | object span props optional ann => exact trimList_boundNames props c ds
  | keyed key value => exact trim_boundNames value c _
  | rest span dots arg ann => exact trim_boundNames arg c ds
  | default span left right => exact trim_boundNames left c.body ds
  | _ => rfl
termination_by structural p

theorem trimList_boundNames (ps : List Pat) (c : Setting) (ds : Dropped) :
    (Pat.boundOf ((Pat.trimList c ps).run ds).1).map (·.name) = (Pat.boundOf ps).map (·.name) := by
  cases ps with
  | nil => rfl
  | cons p ps =>
      let r := (p.trim c).run ds
      have hrun : ((Pat.trimList c (p :: ps)).run ds).1 =
          r.1 :: ((Pat.trimList c ps).run r.2).1 := rfl
      rw [hrun, Pat.boundOf, Pat.boundOf, List.map_append, List.map_append]
      exact congrArg₂ (· ++ ·) (trim_boundNames p c ds) (trimList_boundNames ps c r.2)
termination_by structural ps

end

theorem trimList_declaredNames (decls : List Declarator) (c : Setting) (ds : Dropped) :
    declaredNames ((Declarator.trimList c decls).run ds).1 = declaredNames decls := by
  induction decls generalizing ds with
  | nil => rfl
  | cons d decls ih =>
      obtain ⟨span, p, definite, init⟩ := d
      let r := ((⟨span, p, definite, init⟩ : Declarator).trim c).run ds
      have hrun : ((Declarator.trimList c (⟨span, p, definite, init⟩ :: decls)).run ds).1 =
          r.1 :: ((Declarator.trimList c decls).run r.2).1 := rfl
      rw [hrun, declaredNames, List.flatMap_cons, declaredNames, List.flatMap_cons]
      exact congrArg₂ (· ++ ·) (trim_boundNames p c.element ds) (ih r.2)

theorem trim_bindings (s : Stmt) (c : Setting) (ds : Dropped) :
    bindings ((s.trim c).run ds).1 = bindings s := by
  cases s with
  | var span kind declared decls =>
      exact congrArg (fun names => if kind.isLexical then names.map (Manner.declared kind, ·) else [])
        (trimList_declaredNames decls c ds)
  | exportDecl span decl =>
      have hdecl := trim_bindings decl c.start ds
      exact hdecl
  | exportDefaultDecl span e =>
      cases e with
      | func name fn | cls name cls => cases name <;> rfl
      | _ => rfl
  | forOf span await left right body =>
      exact trim_forOf (P := (bindings · = [])) (fun _ _ _ => rfl) left right body c ds
  | _ => rfl
termination_by structural s

theorem trimmed_bindings (m : Module) : bindingsOf m.trimmed.items = bindingsOf m.items := by
  have hmap (ss : List Stmt) : bindingsOf ss = (ss.map bindings).flatten := List.flatMap_def ..
  rw [hmap, map_trimmed trim_bindings, ← hmap]

end Unbundled.Proofs.BoundNames
