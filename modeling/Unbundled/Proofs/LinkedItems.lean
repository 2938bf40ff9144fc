import Mathlib.Data.List.Forall2
import Unbundled.Linking.Imports
import Unbundled.Proofs.Freshness

namespace Unbundled.Proofs.LinkedItems

open Files Linking Script

def destination? (treat : String → Treatment) (specifier : String) : Option String :=
  match treat specifier with
  | .keep => some specifier
  | .replace url => some url
  | .unresolved _ => none

/-- `new` stands where `old` stood, and is spelled as `old` unless its text has changed. -/
def Retargets (treat : String → Treatment) (old new : StringLit) : Prop :=
  new.span = old.span ∧ (∀ url, treat old.value = .replace url → new.value = url ∧ new.raw = none) ∧
    ((∀ url, treat old.value ≠ .replace url) → new = old)

def isTypeSpecifier : ImportSpecifier → Bool
  | .named _ _ _ typeOnly => typeOnly
  | _ => false

/-- `d` declares what `require("specifier")` returns; further arguments do not matter. -/
def Requires (d : Declarator) (specifier : String) : Prop :=
  ∃ span callee types lit args, d.init = some (.call span (.ident callee) types (.str lit :: args)) ∧
    callee.name = "require" ∧ lit.value = specifier

def IsPlainKind (kind : VarKind) : Prop := kind = .var ∨ kind = .let ∨ kind = .const

inductive IsLinked : Stmt → Prop
  | import (s specifiers source attrs) : IsLinked (.import s false specifiers source attrs)
  | exportNamed (s specifiers source attrs) :
      IsLinked (.exportNamed s false specifiers (some source) attrs)
  | exportAll (s source attrs) : IsLinked (.exportAll s false source attrs)
  | require (s kind d specifier) (hkind : IsPlainKind kind) (hd : Requires d specifier) :
      IsLinked (.var s kind false [d])

/-- What may stand in the place of an item, and the alias that is declared there if there is
one. An import that cannot be loaded leaves one empty object for each value it binds. -/
inductive Replaces (treat : String → Treatment) : Stmt → Option String → List Stmt → Prop
  | import {s specifiers source attrs url} (source' : StringLit)
      (hurl : destination? treat source.value = some url) (hvalue : source'.value = url)
      (hsource : Retargets treat source source') :
      Replaces treat (.import s false specifiers source attrs) none
        [.import s false specifiers source' attrs]
  | stubs {s specifiers source attrs} (hnone : destination? treat source.value = none) :
      Replaces treat (.import s false specifiers source attrs) none
        ((specifiers.filter (!isTypeSpecifier ·)).map fun i =>
          .var .absent .var false [⟨.absent, .ident i.local none, false, some (.object .absent [])⟩])
  | required {s kind d specifier url} (name : String) (hkind : IsPlainKind kind)
      (hd : Requires d specifier) (hurl : destination? treat specifier = some url) :
      Replaces treat (.var s kind false [d]) (some name)
        [.import .absent false [.default { name, span := .absent }] ⟨url, none, .absent⟩ none,
          .var s kind false [{ d with init := some (.ident { name, span := .absent }) }]]
  | emptied {s kind d specifier} (hkind : IsPlainKind kind) (hd : Requires d specifier)
      (hnone : destination? treat specifier = none) :
      Replaces treat (.var s kind false [d]) none
        [.var s kind false [{ d with init := some (.object .absent []) }]]
  | exportNamed {s specifiers source attrs} (source' : StringLit)
      (hsource : Retargets treat source source') :
      Replaces treat (.exportNamed s false specifiers (some source) attrs) none
        [.exportNamed s false specifiers (some source') attrs]
  | exportAll {s source attrs} (source' : StringLit) (hsource : Retargets treat source source') :
      Replaces treat (.exportAll s false source attrs) none [.exportAll s false source' attrs]
  | other {item} (h : ¬IsLinked item) : Replaces treat item none [item]

/-- The names that an item of a module binds to values in the module. -/
def valueBindings : Stmt → List String
  | .import _ true .. => []
  | .import _ false specifiers .. =>
    (specifiers.filter (!isTypeSpecifier ·)).map fun i => i.local.name
  | item => item.lexicalNames ++ item.varNames

theorem requiredModule?_eq_some {e : Expr} {specifier : String} :
    requiredModule? e = some specifier ↔ ∃ span callee types lit args,
      e = .call span (.ident callee) types (.str lit :: args) ∧
        callee.name = "require" ∧ lit.value = specifier := by
  constructor
  · intro h
    unfold requiredModule? at h
    split at h
    · split at h
      · rename_i s id ts lit args hname
        exact ⟨s, id, ts, lit, args, rfl, hname, Option.some.inj h⟩
      · exact absurd h (by simp)
    · exact absurd h (by simp)
  · rintro ⟨span, callee, types, lit, args, rfl, hname, rfl⟩
    simp [requiredModule?, hname]

theorem isPlainKind_iff {kind : VarKind} : IsPlainKind kind ↔ isUsing kind = false := by
  cases kind <;> simp [IsPlainKind, isUsing]

theorem requiredBy?_eq_some {kind : VarKind} {declared : Bool} {decls : List Declarator}
    {d : Declarator} {specifier : String} :
    requiredBy? kind declared decls = some (d, specifier) ↔
      declared = false ∧ decls = [d] ∧ IsPlainKind kind ∧ Requires d specifier := by
  rw [isPlainKind_iff]
  constructor
  · intro h
    unfold requiredBy? at h
    split at h
    · rename_i d'
      split at h
      · exact absurd h (by simp)
      · rename_i hk
        obtain ⟨init, hi, specifier', hm, he⟩ := by
          simpa only [Option.bind_eq_bind, Option.bind_eq_some_iff] using h
        cases he
        obtain ⟨span, callee, types, lit, args, rfl, hname, hvalue⟩ := requiredModule?_eq_some.mp hm
        exact ⟨rfl, rfl, by simpa using hk, span, callee, types, lit, args, hi, hname, hvalue⟩
    · exact absurd h (by simp)
  · rintro ⟨rfl, rfl, hk, span, callee, types, lit, args, hi, hname, rfl⟩
    simp [requiredBy?, hk, hi, requiredModule?, hname]

theorem linkExportSource_retargets (treat : String → Treatment) (source : StringLit) :
    Retargets treat source (linkExportSource treat source) := by
  unfold linkExportSource
  split
  · rename_i url h
    refine ⟨rfl, ?_, fun hne => absurd h (hne url)⟩
    intro url' h'
    rw [h] at h'
    cases h'
    exact ⟨rfl, rfl⟩
  · rename_i hne
    exact ⟨rfl, fun url h => absurd h (hne url), fun _ => rfl⟩

theorem valueLocals_eq (specifiers : List ImportSpecifier) :
    valueLocals specifiers = (specifiers.filter (!isTypeSpecifier ·)).map (·.local) := by
  induction specifiers with
  | nil => rfl
  | cons i rest ih =>
      rw [valueLocals, List.filterMap_cons] at *
      match i with
      | .named s id imported true => simpa [isTypeSpecifier] using ih
      | .named s id imported false => simpa [isTypeSpecifier] using ih
      | .default id => simpa [isTypeSpecifier] using ih
      | .star s id => simpa [isTypeSpecifier] using ih

theorem linkImport_replaces (treat : String → Treatment) (s : Span)
    (specifiers : List ImportSpecifier) (source : StringLit) (attrs : Option Expr) :
    Replaces treat (.import s false specifiers source attrs)
      (linkImport treat s specifiers source attrs).taken
      (linkImport treat s specifiers source attrs).items := by
  have hr := linkExportSource_retargets treat source
  unfold linkExportSource at hr
  cases h : treat source.value with
  | keep =>
      simp only [linkImport, h] at hr ⊢
      exact .import source (by simp [destination?, h]) rfl hr
  | replace url =>
      simp only [linkImport, h] at hr ⊢
      have hurl : destination? treat source.value = some url := by simp [destination?, h]
      exact .import (setSource source url) hurl rfl hr
  | unresolved reason =>
      simp only [linkImport, h, valueLocals_eq, List.map_map]
      exact .stubs (by simp [destination?, h])

theorem linkRequire_replaces (treat : String → Treatment) (taken : List String) (s : Span)
    {kind : VarKind} {d : Declarator} {specifier : String} (hkind : IsPlainKind kind)
    (hd : Requires d specifier) :
    Replaces treat (.var s kind false [d]) (linkRequire treat taken s kind d specifier).taken
      (linkRequire treat taken s kind d specifier).items := by
  cases h : treat specifier with
  | keep =>
      simp only [linkRequire, h]
      exact .required _ hkind hd (by simp [destination?, h])
  | replace url =>
      simp only [linkRequire, h]
      exact .required _ hkind hd (by simp [destination?, h])
  | unresolved reason =>
      simp only [linkRequire, h]
      exact .emptied hkind hd (by simp [destination?, h])

theorem linkItem_replaces (treat : String → Treatment) (taken : List String) (item : Stmt) :
    Replaces treat item (linkItem treat taken item).taken (linkItem treat taken item).items := by
  unfold linkItem
  split
  · exact linkImport_replaces treat _ _ _ _
  · exact .exportNamed _ (linkExportSource_retargets treat _)
  · exact .exportAll _ (linkExportSource_retargets treat _)
  · rename_i s kind declared decls
    split
    · rename_i d specifier h
      obtain ⟨rfl, rfl, hkind, hd⟩ := requiredBy?_eq_some.mp h
      exact linkRequire_replaces treat taken s hkind hd
    · rename_i hnone
      refine .other fun hlinked => ?_
      cases hlinked with
      | require s kind d specifier hkind hd =>
          rw [requiredBy?_eq_some.mpr ⟨rfl, rfl, hkind, hd⟩] at hnone
          exact absurd hnone (by simp)
  · rename_i hi hn ha hv
    refine .other fun hlinked => ?_
    cases hlinked with
    | «import» s specifiers source attrs => exact hi _ _ _ _ rfl
    | exportNamed s specifiers source attrs => exact hn _ _ _ _ rfl
    | exportAll s source attrs => exact ha _ _ _ rfl
    | require s kind d specifier hkind hd => exact hv _ _ _ _ rfl

theorem valueBindings_var (s : Span) (kind : VarKind) (declared : Bool) (decls : List Declarator) :
    valueBindings (.var s kind declared decls) = declaredNames decls := by
  cases kind with
  | var => rfl
  | _ => exact List.append_nil _

theorem Replaces.bindings {treat : String → Treatment} {item : Stmt} {taken : Option String}
    {items : List Stmt} (h : Replaces treat item taken items) :
    items.flatMap valueBindings = taken.toList ++ valueBindings item := by
  cases h with
  | «import» | other => simp [valueBindings]
  | exportNamed | exportAll => rfl
  | stubs hnone =>
      rw [List.flatMap_map]
      exact List.flatMap_pure_eq_map _ _
  | required name hkind hd hurl =>
      simp only [List.flatMap_cons, List.flatMap_nil, List.append_nil, valueBindings_var]
      rfl
  | emptied hkind hd hnone =>
      simp only [List.flatMap_cons, List.flatMap_nil, List.append_nil, valueBindings_var]
      rfl

def linkedEach (treat : String → Treatment) : List String → List Stmt → List Linked
  | _, [] => []
  | taken, item :: rest =>
    let l := linkItem treat taken item
    l :: linkedEach treat (l.taken.toList ++ taken) rest

theorem linkItems_fst (treat : String → Treatment) (taken : List String) (items : List Stmt) :
    (linkItems treat taken items).1 = (linkedEach treat taken items).flatMap (·.items) := by
  induction items generalizing taken with
  | nil => rfl
  | cons item rest ih => simp only [linkItems, linkedEach, List.flatMap_cons, ih]

theorem linkedEach_replaces (treat : String → Treatment) (taken : List String)
    (items : List Stmt) :
    List.Forall₂ (fun item l => Replaces treat item l.taken l.items) items
      (linkedEach treat taken items) := by
  induction items generalizing taken with
  | nil => exact .nil
  | cons item rest ih => exact .cons (linkItem_replaces treat taken item) (ih _)

theorem exists_replaces_of_mem {treat : String → Treatment} {taken : List String}
    {items : List Stmt} {l : Linked} (hl : l ∈ linkedEach treat taken items) :
    ∃ item ∈ items, Replaces treat item l.taken l.items := by
  induction items generalizing taken with
  | nil => exact absurd hl List.not_mem_nil
  | cons item rest ih =>
      rcases List.mem_cons.mp hl with rfl | hrest
      · exact ⟨item, List.mem_cons_self, linkItem_replaces treat taken item⟩
      · obtain ⟨item', hitem', hreplaces⟩ := ih hrest
        exact ⟨item', List.mem_cons_of_mem _ hitem', hreplaces⟩

theorem link_items (fs : FileSystem) (root : String) (items : List Stmt) :
    (link fs root items).items =
      (linkedEach (classify fs root) [] items).flatMap (·.items) := linkItems_fst _ [] items

theorem exists_linked {fs : FileSystem} {root : String} {items : List Stmt} {s : Stmt}
    (h : s ∈ (link fs root items).items) :
    ∃ l ∈ linkedEach (classify fs root) [] items, s ∈ l.items ∧
      ∃ item ∈ items, Replaces (classify fs root) item l.taken l.items := by
  rw [link_items] at h
  obtain ⟨l, hl, hs⟩ := List.mem_flatMap.mp h
  exact ⟨l, hl, hs, exists_replaces_of_mem hl⟩

def aliasedNames? (treat : String → Treatment) : Stmt → Option (List String)
  | .var _ kind declared decls =>
    match requiredBy? kind declared decls with
    | some (d, specifier) => (destination? treat specifier).map fun _ => d.pat.boundNames
    | none => none
  | _ => none

theorem linkItem_taken (treat : String → Treatment) (taken : List String) (item : Stmt) :
    (linkItem treat taken item).taken =
      (aliasedNames? treat item).map (Alias.fresh taken) := by
  unfold linkItem
  split
  · rename_i s specifiers source attrs
    cases h : treat source.value <;> simp [linkImport, h, aliasedNames?]
  · rfl
  · rfl
  · rename_i s kind declared decls
    split
    · rename_i d specifier hd
      cases h : treat specifier <;> simp [linkRequire, h, aliasedNames?, hd, destination?]
    · rename_i hnone
      simp [aliasedNames?, hnone]
  · rename_i hi hn ha hv
    cases item with
    | var s kind declared decls => exact absurd rfl (hv s kind declared decls)
    | _ => rfl

theorem linkedEach_aliases_nodup (treat : String → Treatment) (taken : List String)
    (items : List Stmt) :
    ((linkedEach treat taken items).filterMap (·.taken)).Nodup ∧
      ∀ name ∈ (linkedEach treat taken items).filterMap (·.taken), name ∉ taken := by
  induction items generalizing taken with
  | nil => simp [linkedEach]
  | cons item rest ih =>
      have htaken := linkItem_taken treat taken item
      simp only [linkedEach]
      cases h : aliasedNames? treat item with
      | none =>
          rw [h] at htaken
          rw [List.filterMap_cons_none htaken, htaken]
          exact ih taken
      | some names =>
          rw [h] at htaken
          rw [List.filterMap_cons_some htaken, htaken]
          obtain ⟨hnodup, hnot⟩ := ih (Alias.fresh taken names :: taken)
          refine ⟨List.nodup_cons.mpr ⟨fun hmem => hnot _ hmem (by simp), hnodup⟩, ?_⟩
          intro other hother
          rcases List.mem_cons.mp hother with rfl | hmem
          · exact Freshness.fresh_notMem taken names
          · exact fun ht => hnot other hmem (List.mem_cons_of_mem _ ht)

theorem linkedEach_bindings {treat : String → Treatment} {items : List Stmt} {ls : List Linked}
    (h : List.Forall₂ (fun item l => Replaces treat item l.taken l.items) items ls) :
    ((ls.flatMap (·.items)).flatMap valueBindings).Perm
      (ls.filterMap (·.taken) ++ items.flatMap valueBindings) := by
  induction h with
  | nil => exact .nil
  | cons hreplaces hrest ih =>
      rename_i item l items ls
      have hl : (l :: ls).filterMap (·.taken) = l.taken.toList ++ ls.filterMap (·.taken) := by
        cases ht : l.taken <;> simp [ht]
      rw [List.flatMap_cons, List.flatMap_append, hreplaces.bindings, hl, List.flatMap_cons]
      simp only [List.append_assoc]
      refine List.Perm.append_left _ ?_
      exact (ih.append_left _).trans (List.perm_append_comm_assoc ..)

/-- Linking goes through the items of a module in order and puts in the place of each what
`Replaces` says. The aliases it declares are distinct, and apart from them the module binds
the same values as before, none lost and none bound twice that was not. -/
theorem link_replaces_each (fs : FileSystem) (root : String) (items : List Stmt) :
    let treat := classify fs root
    let ls := linkedEach treat [] items
    (link fs root items).items = ls.flatMap (·.items) ∧
      List.Forall₂ (fun item l => Replaces treat item l.taken l.items) items ls ∧
      (ls.filterMap (·.taken)).Nodup ∧
      ((link fs root items).items.flatMap valueBindings).Perm
        (ls.filterMap (·.taken) ++ items.flatMap valueBindings) := by
  intro treat ls
  have hitems : (link fs root items).items = ls.flatMap (·.items) := link_items fs root items
  have hreplaces := linkedEach_replaces treat [] items
  refine ⟨hitems, hreplaces, (linkedEach_aliases_nodup treat [] items).1, ?_⟩
  rw [hitems]
  exact linkedEach_bindings hreplaces

end Unbundled.Proofs.LinkedItems
