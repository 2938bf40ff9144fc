import Mathlib.Data.List.Basic
import Mathlib.Data.List.Forall2
import Unbundled.Proofs.ExportFlag
import Unbundled.Proofs.Unwrapping

namespace Unbundled.Proofs.Requires

open Erasure Files Linking Script Dependencies Exports ExportFlag LinkedItems LoadableImports
  LoweredItems Unwrapping

variable {fs : FileSystem} {root : String}

def initials : Stmt → List Expr
  | .var _ _ _ decls => decls.filterMap (·.init)
  | .exportDecl _ decl => initials decl
  | _ => []

def aliasedModule? : Stmt → Option (Bool × String)
  | .importRequire _ false typeOnly _ _ source => some (typeOnly, source.value)
  | _ => none

/-- Whether an item declares a variable with a call of `require` with a text. -/
def Declares (Text : Expr → Prop) (item : Stmt) : Prop :=
  ∃ e ∈ initials item, Calls Text "require" e

theorem Declares.congr {Text : Expr → Prop} {s r : Stmt} (h : Declares Text r)
    (hinitials : initials r = initials s) : Declares Text s := by
  obtain ⟨e, he, hcalls⟩ := h
  exact ⟨e, hinitials ▸ he, hcalls⟩

/-! ## Visitors -/

section
variable {m : Type → Type} [Monad m] {o : Outcomes m} {v : Visitor m}

theorem exists_init_of_visitList {ds rs : List Declarator} {e : Expr}
    (h : o.Gives (Declarator.visitList v ds) rs) (he : e ∈ rs.filterMap (·.init)) :
    ∃ x ∈ ds.filterMap (·.init), o.Gives (x.visit v) e := by
  induction ds generalizing rs with
  | nil =>
      obtain rfl := o.pure h
      exact absurd he List.not_mem_nil
  | cons d ds ih =>
      obtain ⟨span, p, definite, init⟩ := d
      obtain ⟨r, rest, rfl, hr, hrest⟩ := o.cons h
      obtain ⟨p', -, hr⟩ := o.bind hr
      obtain ⟨init', hinit, hr⟩ := o.bind hr
      obtain rfl := o.pure hr
      rw [List.filterMap_cons] at he ⊢
      cases init with
      | none =>
          obtain rfl := o.pure hinit
          exact ih hrest he
      | some x =>
          obtain ⟨x', hx, hinit⟩ := o.bind hinit
          obtain rfl := o.pure hinit
          rcases List.mem_cons.mp he with rfl | he
          · exact ⟨x, List.mem_cons_self, hx⟩
          · obtain ⟨y, hy, hye⟩ := ih hrest he
            exact ⟨y, List.mem_cons_of_mem _ hy, hye⟩

def KeepsInitials (o : Outcomes m) (v : Visitor m) : Prop :=
  ∀ s go r, o.Gives (v.stmt s go) r → ∀ e ∈ initials r, ∃ r', o.Gives go r' ∧ e ∈ initials r'

theorem exists_initial_of_visit (hv : KeepsInitials o v) {s r : Stmt} {e : Expr}
    (h : o.Gives (s.visit v) r) (he : e ∈ initials r) :
    ∃ x ∈ initials s, o.Gives (x.visit v) e := by
  rw [Stmt.visit.eq_def] at h
  obtain ⟨r', h, he⟩ := hv _ _ _ h e he
  cases s with
  | var span kind declared decls =>
      obtain ⟨decls', hdecls, h⟩ := o.bind h
      obtain rfl := o.pure h
      exact exists_init_of_visitList hdecls he
  | exportDecl span decl =>
      obtain ⟨decl', hdecl, h⟩ := o.bind h
      obtain rfl := o.pure h
      have hinitial := exists_initial_of_visit hv hdecl he
      exact hinitial
  | «try» span body catchSpan param handler final =>
      obtain ⟨_, _, h⟩ := o.bind h
      obtain ⟨⟨_, _⟩, _, h⟩ := o.bind h
      obtain ⟨_, _, h⟩ := o.bind h
      obtain rfl := o.pure h
      cases he
  | _ =>
      repeat obtain ⟨_, _, h⟩ := o.bind h
      obtain rfl := o.pure h
      cases he
termination_by structural s

theorem Declares.of_visit {Source Target : Expr → Prop} (hv : KeepsInitials o v)
    (hpasses : Passes Source Target (LeftOf o v)) (htarget : ∀ a, Target a → inners a = [])
    {s r : Stmt} (hr : o.Gives (s.visit v) r) (h : Declares Target r) : Declares Source s := by
  obtain ⟨e, he, hcalls⟩ := h
  obtain ⟨x, hx, hxe⟩ := exists_initial_of_visit hv hr he
  exact ⟨x, hx, hpasses.calls htarget (fun t _ ht => ⟨e, hxe, ht⟩) hcalls⟩

theorem exists_of_mem_visitItems {ss rs : List Stmt} {r : Stmt}
    (h : o.Gives (Stmt.visitList v ss) rs) (hr : r ∈ rs) : ∃ s ∈ ss, o.Gives (s.visit v) r :=
  o.exists_of_mem (g := Stmt.visitList v) rfl (fun _ _ => rfl) h hr

end

theorem not_calls {Text : Expr → Prop} {name : String} {e : Expr} (he : inners e = [])
    (hcall : callOf? e = none) : ¬Calls Text name e := by
  rintro ⟨r, callee, arg, hr, hr', -⟩
  obtain rfl := hr.eq_of_inners he
  simp [hcall] at hr'

theorem inners_of_isText {text : String} (e : Expr) (h : IsText text e) : inners e = [] :=
  inners_of_mayBeText (.inl h)

/-! ## Linking -/

/-- What stands in the place of a declaration of what `require` returns: a declaration of the alias
of an import in front of it, or of an empty object if there is nothing to load. -/
def IsAlias (s : Span) (kind : VarKind) (d : Declarator) : Option String → List Stmt → Prop
  | some url, items => ∃ name, items = [defaultImport name url,
      .var s kind false [{ d with init := some (.ident (madeIdent name)) }]]
  | none, items => items = [.var s kind false [{ d with init := some (.object .absent []) }]]

theorem exists_right_of_mem {α β : Type} {R : α → β → Prop} {as : List α} {bs : List β}
    (h : List.Forall₂ R as bs) {a : α} (ha : a ∈ as) : ∃ b ∈ bs, R a b := by
  induction h with
  | nil => cases ha
  | cons hab hrest ih =>
      rcases List.mem_cons.mp ha with rfl | ha
      · exact ⟨_, List.mem_cons_self, hab⟩
      · obtain ⟨b, hb, hab⟩ := ih ha
        exact ⟨b, List.mem_cons_of_mem _ hb, hab⟩

theorem exists_left_of_mem {α β : Type} {R : α → β → Prop} {as : List α} {bs : List β}
    (h : List.Forall₂ R as bs) {b : β} (hb : b ∈ bs) : ∃ a ∈ as, R a b :=
  exists_right_of_mem h.flip hb

theorem exists_replacement (fs : FileSystem) (root : String) {items : List Stmt} {item : Stmt}
    (h : item ∈ items) :
    ∃ taken ls, Replaces (classify fs root) item taken ls ∧ ls <:+: (link fs root items).items := by
  obtain ⟨l, hl, hreplaces⟩ :=
    exists_right_of_mem (linkedEach_replaces (classify fs root) [] items) h
  refine ⟨l.taken, l.items, hreplaces, ?_⟩
  rw [link_items, List.flatMap_def]
  exact List.infix_of_mem_flatten (List.mem_map_of_mem hl)

theorem exists_replaced {items : List Stmt} {s : Stmt} (h : s ∈ (link fs root items).items) :
    ∃ item ∈ items, ∃ taken ls, Replaces (classify fs root) item taken ls ∧ s ∈ ls := by
  obtain ⟨l, -, hs, item, hitem, hreplaces⟩ := exists_linked h
  exact ⟨item, hitem, l.taken, l.items, hreplaces, hs⟩

theorem exists_alias {items : List Stmt} {s : Span} {kind : VarKind} {d : Declarator}
    {specifier : String} (h : .var s kind false [d] ∈ items) (hkind : IsPlainKind kind)
    (hd : Requires d specifier) :
    ∃ ls, IsAlias s kind d (destination? (classify fs root) specifier) ls ∧
      ls <:+: (link fs root items).items := by
  obtain ⟨taken, ls, hreplaces, hinfix⟩ := exists_replacement fs root h
  refine ⟨ls, ?_, hinfix⟩
  have hsame {specifier'} (h : Requires d specifier') : specifier' = specifier := by
    obtain ⟨_, _, _, _, _, hinit, _, rfl⟩ := h
    obtain ⟨_, _, _, _, _, hinit', _, rfl⟩ := hd
    cases hinit.symm.trans hinit'
    rfl
  cases hreplaces with
  | required name hkind' hd' hurl =>
      rw [← hsame hd', hurl]
      exact ⟨name, rfl⟩
  | emptied hkind' hd' hnone =>
      rw [← hsame hd', hnone, IsAlias]
  | other hlinked => exact absurd (.require s kind d specifier hkind hd) hlinked

theorem mem_link_of_not_linked {items : List Stmt} {item : Stmt} (h : item ∈ items)
    (hlinked : ¬IsLinked item) : item ∈ (link fs root items).items := by
  obtain ⟨taken, ls, hreplaces, hinfix⟩ := exists_replacement fs root h
  refine hinfix.subset ?_
  cases hreplaces with
  | «import» => exact absurd (.import ..) hlinked
  | stubs => exact absurd (.import ..) hlinked
  | required _ hkind hd => exact absurd (.require _ _ _ _ hkind hd) hlinked
  | emptied hkind hd => exact absurd (.require _ _ _ _ hkind hd) hlinked
  | exportNamed => exact absurd (.exportNamed ..) hlinked
  | exportAll => exact absurd (.exportAll ..) hlinked
  | other => exact List.mem_singleton_self _

theorem Declares.of_link {Text : Expr → Prop} {items : List Stmt} {s : Stmt}
    (hs : s ∈ (link fs root items).items) (h : Declares Text s) : s ∈ items ∧ ¬IsLinked s := by
  obtain ⟨item, hitem, taken, ls, hreplaces, hs⟩ := exists_replaced hs
  have hplain {x y : Expr} (hx : x ∈ [y]) (hcalls : Calls Text "require" x)
      (hy : inners y = [] ∧ callOf? y = none) : False :=
    not_calls hy.1 hy.2 (List.mem_singleton.mp hx ▸ hcalls)
  obtain ⟨e, he, hcalls⟩ := h
  cases hreplaces with
  | «import» | exportNamed | exportAll =>
      obtain rfl := List.mem_singleton.mp hs
      cases he
  | stubs =>
      obtain ⟨i, -, rfl⟩ := List.mem_map.mp hs
      exact (hplain he hcalls ⟨rfl, rfl⟩).elim
  | required =>
      rcases List.mem_cons.mp hs with rfl | hs
      · cases he
      · obtain rfl := List.mem_singleton.mp hs
        exact (hplain he hcalls ⟨rfl, rfl⟩).elim
  | emptied =>
      obtain rfl := List.mem_singleton.mp hs
      exact (hplain he hcalls ⟨rfl, rfl⟩).elim
  | other hlinked =>
      obtain rfl := List.mem_singleton.mp hs
      exact ⟨hitem, hlinked⟩

inductive IsMade : Stmt → Prop
  | import (s typeOnly specifiers source attrs) : IsMade (.import s typeOnly specifiers source attrs)
  | var (s kind declared decls) : IsMade (.var s kind declared decls)
  | exportNamed (s typeOnly specifiers source attrs) :
      IsMade (.exportNamed s typeOnly specifiers source attrs)
  | exportAll (s typeOnly source attrs) : IsMade (.exportAll s typeOnly source attrs)

theorem mem_or_isMade {items : List Stmt} {s : Stmt} (hs : s ∈ (link fs root items).items) :
    s ∈ items ∨ IsMade s := by
  obtain ⟨item, hitem, taken, ls, hreplaces, hs⟩ := exists_replaced hs
  cases hreplaces with
  | «import» | exportNamed | exportAll | emptied =>
      obtain rfl := List.mem_singleton.mp hs
      right
      constructor
  | stubs =>
      obtain ⟨i, -, rfl⟩ := List.mem_map.mp hs
      exact .inr (.var ..)
  | required =>
      rcases List.mem_cons.mp hs with rfl | hs
      · exact .inr (.import ..)
      · obtain rfl := List.mem_singleton.mp hs
        exact .inr (.var ..)
  | other =>
      obtain rfl := List.mem_singleton.mp hs
      exact .inl hitem

theorem aliasedModule?_of_link {items : List Stmt} {s : Stmt} {a : Bool × String}
    (hs : s ∈ (link fs root items).items) (h : aliasedModule? s = some a) : s ∈ items := by
  refine (mem_or_isMade hs).resolve_right fun hmade => ?_
  cases hmade <;> cases h

/-! ## Scopes -/

theorem keepsInitials_scopes : KeepsInitials scopedOutcomes Scope.visitor := by
  rintro s go r ⟨scopes, h⟩ e he
  change (Scope.stmt s go).run scopes = r at h
  have houter (id : Ident) (x : Stmt) : initials ((Scope.outerName id x).run scopes) = initials x := by
    cases x <;> rfl
  unfold Scope.stmt at h
  split at h
  · exact ⟨r, ⟨_, h⟩, he⟩
  · exact ⟨r, ⟨_, h⟩, he⟩
  · exact ⟨r, ⟨_, h⟩, he⟩
  · exact ⟨r, ⟨_, h⟩, he⟩
  · subst h
    exact ⟨_, ⟨_, rfl⟩, (houter ..) ▸ he⟩
  · subst h
    exact ⟨_, ⟨_, rfl⟩, (houter ..) ▸ he⟩
  · subst h
    cases he
  · subst h
    cases he
  · subst h
    cases he
  · subst h
    cases he
  · exact ⟨r, ⟨_, h⟩, he⟩

theorem visit_scope_aliasedModule? (s : Stmt) (scopes : List Scope) :
    aliasedModule? ((s.visit Scope.visitor).run scopes) = aliasedModule? s := by
  cases s with
  | exportNamed s typeOnly specifiers source attrs => cases source <;> rfl
  | «for» s init test update body => cases init <;> rfl
  | «namespace» s id declared body => cases body <;> rfl
  | importRequire s exported => cases exported <;> rfl
  | _ => rfl

/-! ## Types -/

theorem keepsInitials_types : KeepsInitials plainOutcomes Untyped.visitor := by
  rintro s go r h e he
  have hr : Untyped.stmt s go = r := h
  subst hr
  refine ⟨Id.run go, rfl, ?_⟩
  unfold Untyped.stmt at he
  split at he
  · rw [initials, List.filterMap_map] at he
    exact he
  · exact he

theorem initials_withoutAliases (s : Stmt) : initials (withoutAliases s) = initials s := by
  cases s with
  | exportDecl span decl => exact initials_withoutAliases decl
  | _ => rfl
termination_by structural s

theorem importedValues_initials {n : Names} {item item' : Stmt}
    (h : importedValues n item = some item') : initials item' = initials item := by
  cases staysAs_of_importedValues h with
  | «import» | exportNamed => rfl
  | other => exact initials_withoutAliases item

theorem importedValues_aliasedModule? {n : Names} {item item' : Stmt} {typeOnly : Bool}
    {specifier : String} (h : importedValues n item = some item')
    (halias : aliasedModule? item' = some (typeOnly, specifier)) :
    aliasedModule? item = some (false, specifier) := by
  cases staysAs_of_importedValues h with
  | «import» | exportNamed => cases halias
  | other htypes =>
      cases item with
      | importRequire s exported typeOnly id refSpan source =>
          obtain rfl : typeOnly = false := htypes
          cases exported <;> cases halias
          rfl
      | _ => cases halias

theorem visit_untyped_aliasedModule? (s : Stmt) :
    aliasedModule? (Id.run (s.visit Untyped.visitor)) = aliasedModule? s := by
  cases s with
  | importRequire s exported => cases exported <;> rfl
  | _ => rfl

theorem plainItem?_eq_some {n : Names} {item s : Stmt} (h : plainItem? n item = some s) :
    ∃ item', importedValues n item = some item' ∧ Id.run (item'.visit Untyped.visitor) = s := by
  obtain ⟨item', hitem', hs⟩ := Option.map_eq_some_iff.mp h
  exact ⟨item', (Option.filter_eq_some_iff.mp hitem').1, hs⟩

/-! ## Enums, namespaces and aliases -/

theorem keepsInitials_lowering : KeepsInitials loweringOutcomes Lowering.visitor := by
  rintro s go r ⟨c, p, h⟩ e he
  change (((Lowering.stmt s go).run c).run p).1 = r at h
  unfold Lowering.stmt at h
  split at h
  · exact ⟨r, ⟨_, _, h⟩, he⟩
  · exact ⟨r, ⟨_, _, h⟩, he⟩

theorem exists_of_mem_lowered {items : List Stmt} {x : Stmt} (hx : x ∈ lowered items) :
    (∃ held, x ∈ heldVars held) ∨
      ∃ s ∈ unaliased items, ∃ s', loweringOutcomes.Gives (s.visit Lowering.visitor) s' ∧
        (x = s' ∨ MadeFor s' x) := by
  let c : Surroundings := { enums := EnumTable.ofItems items, exports := exportsOf items }
  have hrun := run_lowering c {} (unaliased items)
  change lowered items = _ at hrun
  rw [hrun] at hx
  rcases List.mem_append.mp hx with hx | hx
  · exact .inl ⟨_, hx⟩
  · obtain ⟨s', hs', hx⟩ := exists_of_mem_itemList hx
    obtain ⟨s, hs, hvisited⟩ := exists_of_mem_visitItems (o := loweringOutcomes) ⟨c, {}, rfl⟩ hs'
    exact .inr ⟨s, hs, s', hvisited, hx⟩

theorem initials_of_madeFor {s x : Stmt} (h : MadeFor s x) : initials x = [] := by
  cases h with
  | object c =>
      rw [objectVar]
      split <;> rfl
  | fill => rfl

theorem initials_of_mem_heldVars {held : List Ident} {x : Stmt} (hx : x ∈ heldVars held) :
    initials x = [] := by
  obtain h | ⟨decls, h, hinit⟩ := heldVars_eq held
  · rw [h] at hx
    cases hx
  · rw [h] at hx
    obtain rfl := List.mem_singleton.mp hx
    exact List.filterMap_eq_nil_iff.mpr hinit

theorem Declares.of_lowered {items : List Stmt} {x : Stmt} {specifier : String}
    (hx : x ∈ lowered items) (h : Declares (IsText specifier) x) :
    ∃ s ∈ unaliased items, Declares (MayBeText specifier) s := by
  have hnone (hnone : initials x = []) : False := by
    obtain ⟨e, he, -⟩ := h
    simp [hnone] at he
  rcases exists_of_mem_lowered hx with ⟨held, hx⟩ | ⟨s, hs, s', hvisited, rfl | hx⟩
  · exact (hnone (initials_of_mem_heldVars hx)).elim
  · exact ⟨s, hs, h.of_visit keepsInitials_lowering (passes_lowering specifier) inners_of_isText
      hvisited⟩
  · exact (hnone (initials_of_madeFor hx)).elim

theorem Declares.of_unaliased {items : List Stmt} {x : Stmt} {specifier : String}
    (hx : x ∈ unaliased items) (h : Declares (MayBeText specifier) x) :
    ∃ item ∈ items, Declares (MayBeText specifier) item ∨
      ∃ typeOnly, aliasedModule? item = some (typeOnly, specifier) := by
  rcases exists_of_mem_unaliased hx with ⟨item, hitem, hx⟩ | ⟨span, e, rfl⟩
  · refine ⟨item, hitem, ?_⟩
    cases item with
    | importEquals s exported typeOnly id target =>
        obtain ⟨e, he, hcalls⟩ := h
        have he' : e = bareEntity target := by
          cases exported <;> cases hx <;> exact List.mem_singleton.mp he
        subst he'
        cases target <;> exact absurd hcalls (not_calls rfl rfl)
    | importRequire s exported typeOnly id refSpan source =>
        obtain ⟨e, he, hcalls⟩ := h
        cases exported with
        | true =>
            cases hx
            obtain rfl := List.mem_singleton.mp he
            exact absurd hcalls (not_calls rfl rfl)
        | false =>
            cases hx
            obtain rfl := List.mem_singleton.mp he
            obtain ⟨r, callee, arg, hr, hcall, -, a, ha, htext⟩ := hcalls
            obtain rfl := hr.eq_of_inners rfl
            cases hcall
            obtain rfl := ha.eq_of_inners rfl
            rcases htext with htext | htext
            · cases htext
              exact .inr ⟨typeOnly, rfl⟩
            · cases htext
    | exportAssign => cases hx
    | _ =>
        cases hx
        exact .inl h
  · obtain ⟨e, he, -⟩ := h
    cases he

/-! ## The module that is printed -/

theorem initials_keepingModule {before items : List Stmt} {x : Stmt}
    (h : x ∈ keepingModule before items) : initials x = [] ∨ x ∈ items := by
  rcases keepingModule_eq before items with hkeeping | ⟨span, hkeeping⟩
  · exact .inr (hkeeping ▸ h)
  · rw [hkeeping] at h
    rcases List.mem_append.mp h with h | h
    · exact .inr h
    · obtain rfl := List.mem_singleton.mp h
      exact .inl rfl

theorem Declares.of_erased {items : List Stmt} {x : Stmt} {specifier : String}
    (hx : x ∈ erased items) (h : Declares (IsText specifier) x) :
    ∃ item ∈ items, Declares (MayBeText specifier) item ∨
      aliasedModule? item = some (false, specifier) := by
  rcases initials_keepingModule hx with hnone | hx
  · obtain ⟨e, he, -⟩ := h
    simp [hnone] at he
  · obtain ⟨y, hy, h⟩ := h.of_lowered hx
    obtain ⟨s, hs, h⟩ := h.of_unaliased hy
    rw [withoutTypes_withoutTypeImports] at hs
    obtain ⟨named, hnamed, hplain⟩ := List.mem_filterMap.mp hs
    obtain ⟨kept, hkept, rfl⟩ := plainItem?_eq_some hplain
    rw [resolveScopes_eq] at hnamed
    obtain ⟨item, hitem, rfl⟩ := List.mem_map.mp hnamed
    have htexts : ∀ a, MayBeText specifier a → inners a = [] := fun _ => inners_of_mayBeText
    refine ⟨item, hitem, ?_⟩
    rcases h with h | ⟨typeOnly, h⟩
    · left
      have hvalues := h.of_visit keepsInitials_types (passes_types specifier) htexts rfl
      exact (hvalues.congr (importedValues_initials hkept)).of_visit keepsInitials_scopes
        (passes_scopes specifier) htexts ⟨_, rfl⟩
    · right
      rw [visit_untyped_aliasedModule?] at h
      exact (visit_scope_aliasedModule? ..).symm.trans (importedValues_aliasedModule? hkept h)

theorem pruneItem_initials {used : String → Bool} {item item' : Stmt}
    (h : pruneItem used item = some item') : initials item' = initials item := by
  unfold pruneItem at h
  split at h
  · dsimp only at h
    split at h <;> cases h
    rfl
  · cases h
    rfl

theorem exists_of_mem_pruneImports {items : List Stmt} {x : Stmt} (h : x ∈ pruneImports items) :
    ∃ item ∈ items, initials x = initials item := by
  obtain ⟨item, hitem, hx⟩ := List.mem_filterMap.mp h
  exact ⟨item, hitem, pruneItem_initials hx⟩

theorem mem_pruneImports {items : List Stmt} {item : Stmt} {e : Expr} (h : item ∈ items)
    (he : e ∈ initials item) : item ∈ pruneImports items := by
  refine List.mem_filterMap.mpr ⟨item, h, ?_⟩
  cases item with
  | «import» => cases he
  | _ => rfl

def Trimmed (e r : Expr) : Prop := ∃ c ds, r = ((e.trim c []).run ds).1

theorem trimList_declarators (ds : List Declarator) (c : Setting) (dropped : Dropped) :
    List.Forall₂ Trimmed (ds.filterMap (·.init))
      (((Declarator.trimList c ds).run dropped).1.filterMap (·.init)) := by
  induction ds generalizing dropped with
  | nil => exact .nil
  | cons d ds ih =>
      obtain ⟨span, p, definite, init⟩ := d
      cases init with
      | none => exact ih _
      | some e => exact .cons ⟨_, _, rfl⟩ (ih _)

theorem trim_initials (s : Stmt) (c : Setting) (ds : Dropped) :
    List.Forall₂ Trimmed (initials s) (initials ((s.trim c).run ds).1) := by
  cases s with
  | var span kind declared decls => exact trimList_declarators decls c ds
  | exportDecl span decl => exact trim_initials decl c.start ds
  | forOf span await left right body =>
      exact trim_forOf (P := fun s => List.Forall₂ Trimmed [] (initials s)) (fun _ _ _ => .nil)
        left right body c ds
  | _ => exact .nil
termination_by structural s

theorem trimmed_items (m : Module) :
    List.Forall₂ (fun s r => List.Forall₂ Trimmed (initials s) (initials r)) m.items
      m.trimmed.items := by
  refine (trimmed_each m).imp fun s r hr => ?_
  obtain ⟨c, ds, rfl⟩ := hr
  exact trim_initials s c ds

theorem Declares.of_trimmed {s r : Stmt} {specifier : String}
    (hr : List.Forall₂ Trimmed (initials s) (initials r)) (h : Declares (IsText specifier) r) :
    Declares (IsText specifier) s := by
  obtain ⟨e, he, hcalls⟩ := h
  obtain ⟨x, hx, c, ds, rfl⟩ := exists_left_of_mem hr he
  exact ⟨x, hx, (passes_trim specifier).calls inners_of_isText
    (fun t _ ht => .inr ⟨c, [], ds, ht⟩) hcalls⟩

theorem Trimmed.requiredModule? {e r : Expr} {specifier : String} (h : Trimmed e r)
    (he : Linking.requiredModule? e = some specifier) :
    Linking.requiredModule? r = some specifier := by
  obtain ⟨c, ds, rfl⟩ := h
  obtain ⟨span, callee, types, lit, args, rfl, hname, rfl⟩ := requiredModule?_eq_some.mp he
  exact requiredModule?_eq_some.mpr ⟨span, callee, types, lit, _, rfl, hname, rfl⟩

theorem calls_of_requiredModule? {e : Expr} {specifier : String}
    (h : requiredModule? e = some specifier) : Calls (IsText specifier) "require" e := by
  obtain ⟨span, callee, types, lit, args, rfl, hname, rfl⟩ := requiredModule?_eq_some.mp h
  exact ⟨_, _, _, .refl _, rfl, ⟨_, .refl _, congrArg some hname⟩, _, .refl _, rfl⟩

/-- Of the items that linking leaves alone, those that a call of `require` may be left of as the
value of a variable: one declares a variable with what may come to such a call, or is an alias of
the module in a typed script. There a member of an enum may come to the text. -/
def Remains (typed : Bool) (specifier : String) (item : Stmt) : Prop :=
  ¬IsLinked item ∧ Declares (if typed then MayBeText specifier else IsText specifier) item ∨
    typed = true ∧ aliasedModule? item = some (false, specifier)

theorem remains_of_printed {path : String} {m : Module} {r : Stmt} {specifier : String}
    (hr : r ∈ (printed fs root path m).items) (h : Declares (IsText specifier) r) :
    ∃ item ∈ m.items, Remains (Dialect.ofPath path).typescript specifier item := by
  obtain ⟨x, hx, htrimmed⟩ := exists_left_of_mem (trimmed_items _) hr
  obtain ⟨s, hs, hinitials⟩ := exists_of_mem_pruneImports hx
  have h : Declares (IsText specifier) s := (h.of_trimmed htrimmed).congr hinitials
  cases htyped : (Dialect.ofPath path).typescript with
  | true =>
      rw [if_pos htyped] at hs
      obtain ⟨item, hitem, h | h⟩ := h.of_erased hs
      · obtain ⟨hmem, hlinked⟩ := h.of_link hitem
        exact ⟨item, hmem, .inl ⟨hlinked, h⟩⟩
      · exact ⟨item, aliasedModule?_of_link hitem h, .inr ⟨rfl, h⟩⟩
  | false =>
      rw [if_neg (by simp [htyped])] at hs
      obtain ⟨hmem, hlinked⟩ := h.of_link hs
      exact ⟨s, hmem, .inl ⟨hlinked, h⟩⟩

theorem exists_printed {path : String} {m : Module} {item : Stmt} {e : Expr} {specifier : String}
    (hpath : (Dialect.ofPath path).typescript = false) (hitem : item ∈ m.items)
    (hlinked : ¬IsLinked item) (he : e ∈ initials item)
    (hspecifier : requiredModule? e = some specifier) :
    ∃ r ∈ (printed fs root path m).items, ∃ e' ∈ initials r,
      requiredModule? e' = some specifier := by
  have hlink : item ∈ (link fs root m.items).items := mem_link_of_not_linked hitem hlinked
  have hleft : item ∈ leftOf fs root path m.items := by
    rw [leftOf, if_neg (by simp [hpath])]
    exact mem_pruneImports hlink he
  obtain ⟨r, hr, htrimmed⟩ :=
    exists_right_of_mem (trimmed_items { m with items := leftOf fs root path m.items }) hleft
  obtain ⟨e', he', htrim⟩ := exists_right_of_mem htrimmed he
  exact ⟨r, hr, e', he', htrim.requiredModule? hspecifier⟩

/-- A plain declaration of what `require` returns, alone in its statement, gives way to one of an
alias. A call of `require` that a variable of the printed module is declared with comes from another
item, which linking leaves alone. Without types it is left of each of those. -/
theorem ofSource_requires {path source : String} {l : Loadable}
    (h : Loadable.ofSource fs root path source = .ok l) :
    ∃ m, readSource path source = .ok m ∧
      (l.code = if l.exports then (printed fs root path m).text
        else Loadable.wrapped (printed fs root path m).text) ∧
      (∀ s kind d specifier, .var s kind false [d] ∈ m.items → IsPlainKind kind →
        Requires d specifier →
          ∃ items, IsAlias s kind d (destination? (classify fs root) specifier) items ∧
            items <:+: (link fs root m.items).items) ∧
      (∀ r ∈ (printed fs root path m).items, ∀ e ∈ initials r, ∀ specifier,
        requiredModule? e = some specifier →
          ∃ item ∈ m.items, Remains (Dialect.ofPath path).typescript specifier item) ∧
      ((Dialect.ofPath path).typescript = false → ∀ item ∈ m.items, ¬IsLinked item →
        ∀ e ∈ initials item, ∀ specifier, requiredModule? e = some specifier →
          ∃ r ∈ (printed fs root path m).items, ∃ e' ∈ initials r,
            requiredModule? e' = some specifier) := by
  obtain ⟨m, hm, -, hcode⟩ := ofSource_eq_ok h
  refine ⟨m, hm, hcode, ?_, ?_, ?_⟩
  · intro s kind d specifier hmem hkind hd
    exact exists_alias hmem hkind hd
  · intro r hr e he specifier hspecifier
    exact remains_of_printed hr ⟨e, he, calls_of_requiredModule? hspecifier⟩
  · intro hpath item hitem hlinked e he specifier hspecifier
    exact exists_printed hpath hitem hlinked he hspecifier

theorem ofSource_requires_alone :
    let source := "const a = require('./a');\nconst b = require('./b'), c = a;\n"
    let code := "import __a from \"./a\";\nconst a = __a;\nconst b = require('./b'), c = a;\n"
    let l : Loadable := ⟨Loadable.wrapped code, false, []⟩
    Loadable.ofSource default "/" "/a.js" source = .ok l ∧
      ∃ m, readSource "/a.js" source = .ok m ∧
        (l.code = if l.exports then (printed default "/" "/a.js" m).text
          else Loadable.wrapped (printed default "/" "/a.js" m).text) ∧
        (∀ s kind d specifier, .var s kind false [d] ∈ m.items → IsPlainKind kind →
          Requires d specifier →
            ∃ items, IsAlias s kind d (destination? (classify default "/") specifier) items ∧
              items <:+: (link default "/" m.items).items) ∧
        (∀ r ∈ (printed default "/" "/a.js" m).items, ∀ e ∈ initials r, ∀ specifier,
          requiredModule? e = some specifier →
            ∃ item ∈ m.items, Remains (Dialect.ofPath "/a.js").typescript specifier item) ∧
        ((Dialect.ofPath "/a.js").typescript = false → ∀ item ∈ m.items, ¬IsLinked item →
          ∀ e ∈ initials item, ∀ specifier, requiredModule? e = some specifier →
            ∃ r ∈ (printed default "/" "/a.js" m).items, ∃ e' ∈ initials r,
              requiredModule? e' = some specifier) := by
  intro source code l
  have h : Loadable.ofSource default "/" "/a.js" source = .ok l := by decide +kernel
  exact ⟨h, ofSource_requires h⟩

def requiresOfSource (path source : String) : Except SourceFault (List String) := do
  let m ← readSource path source
  return ((printed default "/" path m).items.flatMap initials).filterMap requiredModule?

/-- Two declarations in one statement are left as they are, and so is one that is exported. -/
theorem requires_printed :
    let two := "const a = require('./x'), b = require('./y');\n"
    let exported := "export const a = require('./x');\n"
    Loadable.ofSource default "/" "/a.js" two = .ok ⟨Loadable.wrapped two, false, []⟩ ∧
      requiresOfSource "/a.js" two = .ok ["./x", "./y"] ∧
      Loadable.ofSource default "/" "/a.js" exported = .ok ⟨exported, true, []⟩ ∧
      requiresOfSource "/a.js" exported = .ok ["./x"] := by
  decide +kernel

end Unbundled.Proofs.Requires
