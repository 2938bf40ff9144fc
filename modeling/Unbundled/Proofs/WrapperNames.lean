import Unbundled.Proofs.Aliases
import Unbundled.Proofs.BoundNames

namespace Unbundled.Proofs.WrapperNames

open Erasure Files Linking Script BoundNames Exports ExportFlag LinkedItems LoadableImports Requires

variable {fs : FileSystem} {root : String} {b : Manner × String}

def wrapperNames : List String := ["exports", "module"]

example : (readSource "/a.js" (Loadable.exportsLine ++ Loadable.moduleLine)).map
    (fun m => Stmt.varNamesOf m.items) = .ok wrapperNames := by
  decide +kernel

theorem head?_of_taken {treat : String → Treatment} {taken : List String} {items : List Stmt}
    {l : Linked} (hl : l ∈ linkedEach treat taken items) {name : String} (hname : l.taken = some name) :
    name.toList.head? = some '_' := by
  obtain ⟨cs, hcs, -⟩ := (Aliases.isAlias_of_taken hl hname).toList_eq
  rw [hcs, List.head?_cons]

def loads (treat : String → Treatment) : Stmt → Bool
  | .import _ false _ source _ => (destination? treat source.value).isSome
  | _ => true

theorem exists_binding_iff {treat : String → Treatment} {item : Stmt} {taken : Option String}
    {items : List Stmt} (h : Replaces treat item taken items) (used : Prop) :
    (∃ s ∈ items, b ∈ bindings s ∧ (isImport s = true → used)) ↔
      (b ∈ bindings item ∧ loads treat item = true ∧ (isImport item = true → used)) ∨
        ∃ name, taken = some name ∧ b = (.imported, name) ∧ used := by
  have hsingle {s : Stmt} : (∃ r ∈ [s], b ∈ bindings r ∧ (isImport r = true → used)) ↔
      b ∈ bindings s ∧ (isImport s = true → used) := by
    simp only [List.mem_singleton, exists_eq_left]
  have hnoalias : ¬∃ name, (none : Option String) = some name ∧ b = (.imported, name) ∧ used := nofun
  cases h with
  | «import» source' hurl =>
      rw [hsingle, or_iff_left hnoalias]
      have hloads : (destination? treat _).isSome = true := Option.isSome_iff_exists.mpr ⟨_, hurl⟩
      exact and_congr_right fun _ => (and_iff_right hloads).symm
  | stubs hnone =>
      -- the names of an import that is not loaded are declared with `var`
      rw [or_iff_left hnoalias]
      refine ⟨?_, fun h => absurd h.2.1 (by simp [loads, hnone])⟩
      rintro ⟨s, hs, hb, -⟩
      obtain ⟨i, -, rfl⟩ := List.mem_map.mp hs
      cases hb
  | required name hkind hd hurl =>
      rw [List.exists_mem_cons_iff, hsingle, or_comm]
      refine or_congr (and_congr_right fun _ => (and_iff_right rfl).symm) ?_
      constructor
      · rintro ⟨hb, hused⟩
        exact ⟨name, rfl, List.mem_singleton.mp hb, hused rfl⟩
      · rintro ⟨name', hname, hb, hused⟩
        cases hname
        exact ⟨List.mem_singleton.mpr hb, fun _ => hused⟩
  | emptied =>
      rw [hsingle, or_iff_left hnoalias]
      exact and_congr_right fun _ => (and_iff_right rfl).symm
  | exportNamed | exportAll =>
      rw [hsingle, or_iff_left hnoalias]
      exact and_congr_right fun _ => (and_iff_right rfl).symm
  | other hlinked =>
      rw [hsingle, or_iff_left hnoalias]
      refine and_congr_right fun _ => (and_iff_right ?_).symm
      cases item with
      | «import» s typeOnly specifiers source attrs =>
          cases typeOnly with
          | true => rfl
          | false => exact absurd (.import s specifiers source attrs) hlinked
      | _ => rfl

theorem link_binding_iff {items : List Stmt} (hname : b.2.toList.head? ≠ some '_') (used : Prop) :
    (∃ s ∈ (link fs root items).items, b ∈ bindings s ∧ (isImport s = true → used)) ↔
      ∃ item ∈ items, b ∈ bindings item ∧ loads (classify fs root) item = true ∧
        (isImport item = true → used) := by
  constructor
  · rintro ⟨s, hs, hb, hused⟩
    obtain ⟨l, hl, hs, item, hitem, hreplaces⟩ := exists_linked hs
    rcases (exists_binding_iff hreplaces used).mp ⟨s, hs, hb, hused⟩ with
      hb | ⟨name, htaken, rfl, -⟩
    · exact ⟨item, hitem, hb⟩
    · exact absurd (head?_of_taken hl htaken) hname
  · rintro ⟨item, hitem, hb⟩
    obtain ⟨taken, ls, hreplaces, hinfix⟩ := exists_replacement fs root hitem
    obtain ⟨s, hs, hb⟩ := (exists_binding_iff hreplaces used).mpr (.inl hb)
    exact ⟨s, hinfix.subset hs, hb⟩

theorem steady_isDefaultDecl : Steady isDefaultDecl where
  imported _ _ _ _ := rfl
  var _ _ _ := rfl
  exportNamed _ _ _ _ _ := rfl
  exportAll _ _ _ _ := rfl

theorem exportsValue_of_isDefaultDecl {s : Stmt} (h : isDefaultDecl s = true) :
    exportsValue s = true := by
  cases s with
  | exportDefaultDecl => rfl
  | exportDecl span decl => cases decl <;> first | rfl | cases h
  | _ => cases h

theorem isDefaultDecl_link {items : List Stmt} (h : (link fs root items).exports = false) {s : Stmt}
    (hs : s ∈ (link fs root items).items) : ¬isDefaultDecl s = true := by
  intro hdefault
  have hany : (link fs root items).items.any isDefaultDecl = true := List.any_eq_true.mpr ⟨s, hs, hdefault⟩
  rw [steady_isDefaultDecl.link] at hany
  obtain ⟨item, hitem, hdefault⟩ := List.any_eq_true.mp hany
  have hexports : items.any exportsValue = true :=
    List.any_eq_true.mpr ⟨item, hitem, exportsValue_of_isDefaultDecl hdefault⟩
  exact absurd (hexports.symm.trans h) (by simp)

theorem aliasName?_of_link {items : List Stmt} {s : Stmt} {name : String}
    (hs : s ∈ (link fs root items).items) (h : aliasName? s = some name) : s ∈ items := by
  refine (mem_or_isMade hs).resolve_right fun hmade => ?_
  cases hmade <;> cases h

theorem printed_binding_iff {path : String} {m : Module} :
    b ∈ bindingsOf (printed fs root path m).items ↔
      let plain := if (Dialect.ofPath path).typescript then erased (link fs root m.items).items
        else (link fs root m.items).items
      ∃ s ∈ plain, b ∈ bindings s ∧ (isImport s = true → b.2 ∈ usedNames plain) := by
  rw [printed, trimmed_bindings]
  exact mem_bindings_pruneImports

/-- Without types, an item binds a name in the printed module if it does in the source, except that
for an import there must be something to load and the name must be used. -/
theorem printed_binding_untyped {path : String} {m : Module}
    (hpath : (Dialect.ofPath path).typescript = false) (hname : b.2.toList.head? ≠ some '_') :
    b ∈ bindingsOf (printed fs root path m).items ↔
      ∃ item ∈ m.items, b ∈ bindings item ∧ loads (classify fs root) item = true ∧
        (isImport item = true → b.2 ∈ usedNames (link fs root m.items).items) := by
  rw [printed_binding_iff, hpath]
  exact link_binding_iff hname _

theorem printed_binding {path : String} {m : Module} (hexports : (link fs root m.items).exports = false)
    (hname : b.2.toList.head? ≠ some '_') (hb : b ∈ bindingsOf (printed fs root path m).items) :
    (∃ item ∈ m.items, b ∈ bindings item ∧ loads (classify fs root) item = true) ∨
      (Dialect.ofPath path).typescript = true ∧ b.1 = .declared .const ∧
        ∃ item ∈ m.items, aliasName? item = some b.2 := by
  have hsource {s : Stmt} (hs : s ∈ (link fs root m.items).items) (hb : b ∈ bindings s) :
      ∃ item ∈ m.items, b ∈ bindings item ∧ loads (classify fs root) item = true := by
    obtain ⟨item, hitem, hb, hloads, -⟩ := (link_binding_iff hname True).mp ⟨s, hs, hb, fun _ => trivial⟩
    exact ⟨item, hitem, hb, hloads⟩
  obtain ⟨x, hx, hb, -⟩ := printed_binding_iff.mp hb
  cases htyped : (Dialect.ofPath path).typescript with
  | false =>
      rw [if_neg (by simp [htyped])] at hx
      exact .inl (hsource hx hb)
  | true =>
      rw [if_pos htyped] at hx
      obtain ⟨s, hs, (hb | hdefault) | ⟨hconst, halias⟩⟩ := MayBind.of_erased hx (.inl hb)
      · exact .inl (hsource hs hb)
      · exact absurd hdefault (isDefaultDecl_link hexports hs)
      · exact .inr ⟨rfl, hconst, s, aliasName?_of_link hs halias, halias⟩

/-- A module that exports nothing and binds one of the names declared around it, otherwise than with
`var`, has an item in its source that binds the name in the same manner, or an alias that becomes a
constant. Without types each of those is left, but for an import with nothing to load or a name that is
not used. -/
theorem ofSource_binds_wrapperNames {path source : String} {l : Loadable}
    (h : Loadable.ofSource fs root path source = .ok l) (hexports : l.exports = false) :
    ∃ m, readSource path source = .ok m ∧
      l.code = Loadable.wrapped (printed fs root path m).text ∧
      ∀ name ∈ wrapperNames, ∀ manner,
        ((manner, name) ∈ bindingsOf (printed fs root path m).items →
          (∃ item ∈ m.items, (manner, name) ∈ bindings item ∧ loads (classify fs root) item = true) ∨
            (Dialect.ofPath path).typescript = true ∧ manner = .declared .const ∧
              ∃ item ∈ m.items, aliasName? item = some name) ∧
        ((Dialect.ofPath path).typescript = false →
          ((manner, name) ∈ bindingsOf (printed fs root path m).items ↔
            ∃ item ∈ m.items, (manner, name) ∈ bindings item ∧ loads (classify fs root) item = true ∧
              (isImport item = true → name ∈ usedNames (link fs root m.items).items))) := by
  obtain ⟨m, hm, hlink, hcode⟩ := ofSource_eq_ok h
  rw [hexports] at hlink
  rw [hexports, if_neg Bool.false_ne_true] at hcode
  have hhead : ∀ name ∈ wrapperNames, name.toList.head? ≠ some '_' := by decide
  refine ⟨m, hm, hcode, fun name hname manner => ⟨?_, fun hpath => ?_⟩⟩
  · exact printed_binding hlink.symm (hhead name hname)
  · exact printed_binding_untyped hpath (hhead name hname)

theorem ofSource_binds_wrapperNames_module :
    let source := "import module from './m';\nmodule();\n"
    let l : Loadable := ⟨Loadable.wrapped source, false, []⟩
    Loadable.ofSource default "/" "/a.js" source = .ok l ∧ l.exports = false ∧
      ∃ m, readSource "/a.js" source = .ok m ∧
        (.imported, "module") ∈ bindingsOf (printed default "/" "/a.js" m).items := by
  intro source l
  have h : Loadable.ofSource default "/" "/a.js" source = .ok l := by decide +kernel
  have hitem : (readSource "/a.js" source).toOption.map (fun m =>
      decide (∃ item ∈ m.items, (.imported, "module") ∈ bindings item ∧
        loads (classify default "/") item = true ∧
        (isImport item = true → "module" ∈ usedNames (link default "/" m.items).items))) =
      some true := by
    decide +kernel
  obtain ⟨m, hm, -, hbinds⟩ := ofSource_binds_wrapperNames h rfl
  have hpath : (Dialect.ofPath "/a.js").typescript = false := by decide +kernel
  refine ⟨h, rfl, m, hm, ((hbinds "module" (by decide) .imported).2 hpath).mpr ?_⟩
  rw [hm] at hitem
  exact of_decide_eq_true (Option.some.inj hitem)

end Unbundled.Proofs.WrapperNames
