import Unbundled.Proofs.ExportFlag

namespace Unbundled.Proofs.Relinking

open Files Linking Script LinkedItems LoadableImports ExportFlag

/-- Nothing about the item is left to link: it imports from where a browser finds it, exports from
where no better place is known, or has nothing to do with linking. -/
inductive IsSettled (treat : String → Treatment) : Stmt → Prop
  | import {s specifiers source attrs} (h : treat source.value = .keep) :
      IsSettled treat (.import s false specifiers source attrs)
  | exportNamed {s specifiers source attrs} (h : ∀ url, treat source.value ≠ .replace url) :
      IsSettled treat (.exportNamed s false specifiers (some source) attrs)
  | exportAll {s source attrs} (h : ∀ url, treat source.value ≠ .replace url) :
      IsSettled treat (.exportAll s false source attrs)
  | other {item} (h : ¬IsLinked item) : IsSettled treat item

variable {treat : String → Treatment}

theorem IsSettled.eq_of_replaces {item : Stmt} {taken : Option String} {items : List Stmt}
    (hitem : IsSettled treat item) (h : Replaces treat item taken items) :
    items = [item] ∧ taken = none := by
  cases h with
  | «import» source' hurl hvalue hsource =>
      cases hitem with
      | «import» hkeep =>
          rw [hsource.2.2 (by simp [hkeep])]
          exact ⟨rfl, rfl⟩
      | other hnot => exact absurd (.import ..) hnot
  | stubs hnone =>
      cases hitem with
      | «import» hkeep => simp [destination?, hkeep] at hnone
      | other hnot => exact absurd (.import ..) hnot
  | required name hkind hd hurl =>
      cases hitem with
      | other hnot => exact absurd (.require _ _ _ _ hkind hd) hnot
  | emptied hkind hd hnone =>
      cases hitem with
      | other hnot => exact absurd (.require _ _ _ _ hkind hd) hnot
  | exportNamed source' hsource =>
      cases hitem with
      | exportNamed hstays =>
          rw [hsource.2.2 hstays]
          exact ⟨rfl, rfl⟩
      | other hnot => exact absurd (.exportNamed ..) hnot
  | exportAll source' hsource =>
      cases hitem with
      | exportAll hstays =>
          rw [hsource.2.2 hstays]
          exact ⟨rfl, rfl⟩
      | other hnot => exact absurd (.exportAll ..) hnot
  | other hnot => exact ⟨rfl, rfl⟩

theorem isSettled_var (s : Span) (kind : VarKind) (d : Declarator) {init : Expr}
    (h : requiredModule? init = none) :
    IsSettled treat (.var s kind false [{ d with init := some init }]) := by
  refine .other fun hlinked => ?_
  cases hlinked with
  | require s kind d' specifier hkind hd =>
      obtain ⟨span, callee, types, lit, args, hinit, hname, hvalue⟩ := hd
      cases hinit
      rw [requiredModule?_eq_some.mpr ⟨span, callee, types, lit, args, rfl, hname, hvalue⟩] at h
      cases h

theorem linkedEach_of_settled {items : List Stmt} (h : ∀ item ∈ items, IsSettled treat item)
    (taken : List String) :
    List.Forall₂ (fun item l => l.items = [item] ∧ l.taken = none) items
      (linkedEach treat taken items) := by
  induction items generalizing taken with
  | nil => exact .nil
  | cons item rest ih =>
      have hitem := (h item List.mem_cons_self).eq_of_replaces (linkItem_replaces treat taken item)
      exact .cons hitem (ih (fun s hs => h s (List.mem_cons_of_mem _ hs)) _)

theorem flatMap_items {items : List Stmt} {ls : List Linked}
    (h : List.Forall₂ (fun item l => l.items = [item] ∧ l.taken = none) items ls) :
    ls.flatMap (·.items) = items := by
  induction h with
  | nil => rfl
  | cons hitem hrest ih => rw [List.flatMap_cons, hitem.1, ih, List.singleton_append]

variable {fs : FileSystem} {root : String}

theorem Retargets.not_replaced {source source' : StringLit}
    (h : Retargets (classify fs root) source source') (url : String) :
    classify fs root source'.value ≠ .replace url := by
  rcases Retargets.keep_or_same h with hkeep | ⟨-, reason, hunresolved⟩
  · simp [hkeep]
  · simp [hunresolved]

theorem settled_of_replaces {item s : Stmt} {taken : Option String} {items : List Stmt}
    (h : Replaces (classify fs root) item taken items) (hs : s ∈ items) :
    IsSettled (classify fs root) s := by
  cases h with
  | «import» source' hurl hvalue hsource =>
      obtain rfl := List.mem_singleton.mp hs
      exact .import (hvalue ▸ keep_of_destination hurl)
  | stubs hnone =>
      obtain ⟨i, -, rfl⟩ := List.mem_map.mp hs
      exact isSettled_var _ _ ⟨.absent, .ident i.local none, false, none⟩ rfl
  | required name hkind hd hurl =>
      rcases List.mem_cons.mp hs with rfl | hlast
      · exact .import (keep_of_destination hurl)
      · obtain rfl := List.mem_singleton.mp hlast
        exact isSettled_var _ _ _ rfl
  | emptied hkind hd hnone =>
      obtain rfl := List.mem_singleton.mp hs
      exact isSettled_var _ _ _ rfl
  | exportNamed source' hsource =>
      obtain rfl := List.mem_singleton.mp hs
      exact .exportNamed (Retargets.not_replaced hsource)
  | exportAll source' hsource =>
      obtain rfl := List.mem_singleton.mp hs
      exact .exportAll (Retargets.not_replaced hsource)
  | other hnot =>
      obtain rfl := List.mem_singleton.mp hs
      exact .other hnot

theorem link_settled {items : List Stmt} {s : Stmt} (hs : s ∈ (link fs root items).items) :
    IsSettled (classify fs root) s := by
  obtain ⟨l, -, hsl, item, -, hreplaces⟩ := exists_linked hs
  exact settled_of_replaces hreplaces hsl

/-- Linking a module again, over the same files, leaves each item as it is, declares no alias and
comes to the same answer on what the module exports. -/
theorem link_again (fs : FileSystem) (root : String) (items : List Stmt) :
    let once := link fs root items
    let again := link fs root once.items
    again.items = once.items ∧ again.exports = once.exports ∧
      List.Forall₂ (fun item l => l.items = [item] ∧ l.taken = none) once.items
        (linkedEach (classify fs root) [] once.items) := by
  intro once again
  have heach := linkedEach_of_settled (fun s (hs : s ∈ once.items) => link_settled hs) []
  exact ⟨(link_items fs root once.items).trans (flatMap_items heach), steady_exportsValue.link items, heach⟩

end Unbundled.Proofs.Relinking
