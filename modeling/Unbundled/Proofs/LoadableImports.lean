import Unbundled.Loadable
import Unbundled.Proofs.ItemReaders
import Unbundled.Proofs.LinkedItems
import Unbundled.Proofs.Resolved

namespace Unbundled.Proofs.LoadableImports

open Files Linking Script Dependencies LinkedItems

variable {fs : FileSystem} {root : String}

theorem classify_eq_keep {specifier : String} :
    classify fs root specifier = .keep ↔
      Text.startsWith "@/" specifier = false ∧ isLoadable specifier = true := by
  unfold classify Text.startsWith Text.afterPrefix?
  cases Text.dropPrefix? "@/".toList specifier.toList with
  | some rest => simp
  | none =>
      simp only [Option.map_none, Option.isSome_none, true_and]
      split
      · simp_all
      · split <;> simp_all

theorem classify_unresolved {specifier : String} {reason : Reason}
    (h : classify fs root specifier = .unresolved reason) :
    Text.startsWith "@/" specifier = false := by
  unfold classify Text.afterPrefix? at h
  unfold Text.startsWith
  cases hp : Text.dropPrefix? "@/".toList specifier.toList with
  | some rest =>
      rw [hp] at h
      exact absurd h (by simp)
  | none => rfl

theorem keep_of_slash (rest : String) : classify fs root ("/" ++ rest) = .keep := by
  rw [classify_eq_keep]
  have hlist : ("/" ++ rest).toList = '/' :: rest.toList := by
    rw [String.toList_append]
    rfl
  constructor
  · rw [Text.startsWith, hlist]
    rfl
  · have hslash : Text.startsWith "/" ("/" ++ rest) = true := by
      rw [Text.startsWith, hlist]
      rfl
    rw [isLoadable, hslash, Bool.or_true, Bool.true_or]

theorem keep_of_replace {specifier url : String} (h : classify fs root specifier = .replace url) :
    classify fs root url = .keep := by
  unfold classify at h
  split at h
  · rename_i rest hrest
    cases h
    exact keep_of_slash ("src/" ++ rest)
  · split at h
    · cases h
    · split at h
      · rename_i resolved hresolved
        cases h
        obtain ⟨file, hends, -⟩ := Resolved.endsAt_of_resolve hresolved
        obtain ⟨rest, rfl⟩ := hends.exists_url
        exact keep_of_slash ("node_modules/" ++ rest)
      · cases h

theorem keep_of_destination {specifier url : String}
    (h : destination? (classify fs root) specifier = some url) : classify fs root url = .keep := by
  unfold destination? at h
  split at h
  · rename_i hkeep
    cases h
    exact hkeep
  · rename_i hreplace
    cases h
    exact keep_of_replace hreplace
  · cases h

theorem Retargets.keep_or_same {source source' : StringLit}
    (h : Retargets (classify fs root) source source') :
    classify fs root source'.value = .keep ∨
      source' = source ∧ ∃ reason, classify fs root source'.value = .unresolved reason := by
  obtain ⟨-, hreplaced, hsame⟩ := h
  cases hc : classify fs root source.value with
  | keep =>
      rw [hsame (by simp [hc])]
      exact .inl hc
  | replace url =>
      obtain ⟨rfl, -⟩ := hreplaced url hc
      exact .inl (keep_of_replace hc)
  | unresolved reason =>
      have heq : source' = source := hsame (by simp [hc])
      exact .inr ⟨heq, reason, heq ▸ hc⟩

theorem dependencies_of_not_linked {item : Stmt} (h : ¬IsLinked item) {d : Dependency}
    (hd : dependency? item = some d) : d.typeOnly = true := by
  cases item with
  | «import» s typeOnly specifiers source attrs =>
      cases hd
      cases typeOnly with
      | true => rfl
      | false => exact absurd (.import s specifiers source attrs) h
  | exportNamed s typeOnly specifiers source attrs =>
      cases source with
      | none => cases hd
      | some source =>
          cases hd
          cases typeOnly with
          | true => rfl
          | false => exact absurd (.exportNamed s specifiers source attrs) h
  | exportAll s typeOnly source attrs =>
      cases hd
      cases typeOnly with
      | true => rfl
      | false => exact absurd (.exportAll s source attrs) h
  | _ => cases hd

theorem Replaces.dependency {item s : Stmt} {taken : Option String} {items : List Stmt}
    {d : Dependency} (h : Replaces (classify fs root) item taken items) (hs : s ∈ items)
    (hd : dependency? s = some d) :
    d.typeOnly = true ∧ dependency? item = some d ∨
      d.typeOnly = false ∧ (classify fs root d.source.value = .keep ∨
        d.isImport = false ∧ dependency? item = some d ∧
          ∃ reason, classify fs root d.source.value = .unresolved reason) := by
  cases h with
  | «import» source' hurl hvalue hsource =>
      obtain rfl := List.mem_singleton.mp hs
      cases hd
      exact .inr ⟨rfl, .inl (hvalue ▸ keep_of_destination hurl)⟩
  | stubs hnone =>
      obtain ⟨i, -, rfl⟩ := List.mem_map.mp hs
      cases hd
  | required name hkind hreq hurl =>
      rcases List.mem_cons.mp hs with rfl | hs
      · cases hd
        exact .inr ⟨rfl, .inl (keep_of_destination hurl)⟩
      · obtain rfl := List.mem_singleton.mp hs
        cases hd
  | emptied hkind hreq hnone =>
      obtain rfl := List.mem_singleton.mp hs
      cases hd
  | exportNamed source' hsource | exportAll source' hsource =>
      obtain rfl := List.mem_singleton.mp hs
      cases hd
      rcases Retargets.keep_or_same hsource with hkeep | ⟨rfl, hunresolved⟩
      · exact .inr ⟨rfl, .inl hkeep⟩
      · exact .inr ⟨rfl, .inr ⟨rfl, rfl, hunresolved⟩⟩
  | other hitem =>
      obtain rfl := List.mem_singleton.mp hs
      exact .inl ⟨dependencies_of_not_linked hitem hd, hd⟩

/-- A module that linked items ask for is one to load, or else one to export from that cannot be
resolved, as the item was written. Only those asked just for types are passed over. -/
theorem link_dependency {items : List Stmt} {d : Dependency}
    (hd : d ∈ dependencies (link fs root items).items) :
    d.typeOnly = true ∧ d ∈ dependencies items ∨
      d.typeOnly = false ∧ (classify fs root d.source.value = .keep ∨
        d.isImport = false ∧ d ∈ dependencies items ∧
          ∃ reason, classify fs root d.source.value = .unresolved reason) := by
  obtain ⟨s, hs, hdep⟩ := List.mem_filterMap.mp hd
  obtain ⟨l, -, hs, item, hitem, hreplaces⟩ := exists_linked hs
  have hmem (h : dependency? item = some d) : d ∈ dependencies items :=
    List.mem_filterMap.mpr ⟨item, hitem, h⟩
  rcases Replaces.dependency hreplaces hs hdep with
    ⟨htypes, h⟩ | ⟨hvalues, hkeep | ⟨hexport, h, hunresolved⟩⟩
  · exact .inl ⟨htypes, hmem h⟩
  · exact .inr ⟨hvalues, .inl hkeep⟩
  · exact .inr ⟨hvalues, .inr ⟨hexport, hmem h, hunresolved⟩⟩

def leftOf (fs : FileSystem) (root path : String) (items : List Stmt) : List Stmt :=
  let linked := (link fs root items).items
  pruneImports (if (Dialect.ofPath path).typescript then Erasure.erased linked else linked)

def printed (fs : FileSystem) (root path : String) (m : Module) : Module :=
  ({ m with items := leftOf fs root path m.items } : Module).trimmed

theorem ofSource_eq_ok {path source : String} {l : Loadable}
    (h : Loadable.ofSource fs root path source = .ok l) :
    ∃ m, readSource path source = .ok m ∧ l.exports = (link fs root m.items).exports ∧
      l.code = if l.exports then (printed fs root path m).text
        else Loadable.wrapped (printed fs root path m).text := by
  unfold Loadable.ofSource at h
  cases hm : readSource path source with
  | error fault =>
      rw [hm] at h
      cases h
  | ok m =>
      rw [hm] at h
      cases h
      exact ⟨m, rfl, rfl, rfl⟩

theorem printed_dependencies (path : String) (m : Module) :
    (dependencies (printed fs root path m).items).Sublist
      (dependencies (link fs root m.items).items) := by
  rw [printed, trimmed_dependencies]
  refine (pruneImports_dependencies _).trans ?_
  split
  · exact (erased_dependencies _).trans List.filter_sublist
  · exact .refl _

theorem printed_values {path source : String} {m : Module} {d : Dependency}
    (hm : readSource path source = .ok m) (hd : d ∈ dependencies (printed fs root path m).items) :
    d.typeOnly = false := by
  have hlinked := (printed_dependencies path m).subset hd
  cases hpath : (Dialect.ofPath path).typescript with
  | true =>
      rw [printed, trimmed_dependencies] at hd
      have hd' := (pruneImports_dependencies _).subset hd
      rw [if_pos hpath] at hd'
      have hvalue := List.of_mem_filter ((erased_dependencies _).subset hd')
      simpa using hvalue
  | false =>
      rcases link_dependency hlinked with ⟨-, h⟩ | ⟨hvalues, -⟩
      · exact ItemReaders.readSource_asks_values hpath hm d h
      · exact hvalues

/-- Whatever the printed module imports can be loaded, and so can what it exports from, unless it
stands in the source and cannot be resolved. No `@/` is left, and nothing that is only types. -/
theorem ofSource_imports_loadable {path source : String} {l : Loadable}
    (h : Loadable.ofSource fs root path source = .ok l) :
    ∃ m, readSource path source = .ok m ∧
      (l.code = if l.exports then (printed fs root path m).text
        else Loadable.wrapped (printed fs root path m).text) ∧
      ∀ d ∈ dependencies (printed fs root path m).items,
        d.typeOnly = false ∧ Text.startsWith "@/" d.source.value = false ∧
          (isLoadable d.source.value = true ∨
            d.isImport = false ∧ d ∈ dependencies m.items ∧
              ∃ reason, classify fs root d.source.value = .unresolved reason) := by
  obtain ⟨m, hm, -, hcode⟩ := ofSource_eq_ok h
  refine ⟨m, hm, hcode, fun d hd => ?_⟩
  have hvalues := printed_values hm hd
  rcases link_dependency ((printed_dependencies path m).subset hd) with
    ⟨htypes, -⟩ | ⟨-, hkeep | ⟨hexport, hmem, reason, hunresolved⟩⟩
  · exact absurd hvalues (by simp [htypes])
  · obtain ⟨halias, hloads⟩ := classify_eq_keep.mp hkeep
    exact ⟨hvalues, halias, .inl hloads⟩
  · exact ⟨hvalues, classify_unresolved hunresolved, .inr ⟨hexport, hmem, reason, hunresolved⟩⟩

theorem ofSource_imports_loadable_typed :
    let source := "import type T from 't';\nimport b from '@/b';\nexport * from 'c';\nb();\n"
    let l : Loadable := ⟨"import b from \"/src/b\";\nexport * from 'c';\nb();\n", true, []⟩
    Loadable.ofSource default "/" "/a.ts" source = .ok l ∧
      ∃ m, readSource "/a.ts" source = .ok m ∧
        (l.code = if l.exports then (printed default "/" "/a.ts" m).text
          else Loadable.wrapped (printed default "/" "/a.ts" m).text) ∧
        ∀ d ∈ dependencies (printed default "/" "/a.ts" m).items,
          d.typeOnly = false ∧ Text.startsWith "@/" d.source.value = false ∧
            (isLoadable d.source.value = true ∨
              d.isImport = false ∧ d ∈ dependencies m.items ∧
                ∃ reason, classify default "/" d.source.value = .unresolved reason) := by
  intro source l
  have h : Loadable.ofSource default "/" "/a.ts" source = .ok l := by decide +kernel
  exact ⟨h, ofSource_imports_loadable h⟩

end Unbundled.Proofs.LoadableImports
