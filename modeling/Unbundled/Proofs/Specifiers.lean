import Unbundled.Linking.Imports

namespace Unbundled.Proofs.Specifiers

open Files Linking Script

def itemSpecifiers : Stmt → List String
  | .import _ false _ source _ | .exportNamed _ false _ (some source) _
  | .exportAll _ false source _ => [source.value]
  | .var _ kind declared decls => ((requiredBy? kind declared decls).map (·.2)).toList
  | _ => []

def specifiers (items : List Stmt) : List String := items.flatMap itemSpecifiers

variable {treat treat' : String → Treatment}

theorem linkRequire_congr {specifier : String} (h : treat specifier = treat' specifier)
    (taken : List String) (s : Span) (kind : VarKind) (d : Declarator) :
    linkRequire treat taken s kind d specifier = linkRequire treat' taken s kind d specifier := by
  simp only [linkRequire, h]

theorem linkItem_congr {item : Stmt} (h : ∀ x ∈ itemSpecifiers item, treat x = treat' x)
    (taken : List String) : linkItem treat taken item = linkItem treat' taken item := by
  unfold linkItem
  split
  · simp only [linkImport, h _ (List.mem_singleton_self _)]
  · simp only [linkExportSource, h _ (List.mem_singleton_self _)]
  · simp only [linkExportSource, h _ (List.mem_singleton_self _)]
  · split
    · rename_i d specifier hd
      exact linkRequire_congr (h specifier (by simp [itemSpecifiers, hd])) ..
    · rfl
  · rfl

theorem linkItems_congr {items : List Stmt} (h : ∀ x ∈ specifiers items, treat x = treat' x)
    (taken : List String) : linkItems treat taken items = linkItems treat' taken items := by
  induction items generalizing taken with
  | nil => rfl
  | cons item rest ih =>
      have hitem : linkItem treat taken item = linkItem treat' taken item :=
        linkItem_congr (fun x hx => h x (List.mem_append_left _ hx)) taken
      have hrest := fun x hx => h x (List.mem_append_right _ hx)
      simp only [linkItems, hitem, ih hrest]

/-- Linking looks at the file system only to look up the specifiers of the items. -/
theorem link_congr {fs fs' : FileSystem} {root root' : String} {items : List Stmt}
    (h : ∀ x ∈ specifiers items, classify fs root x = classify fs' root' x) :
    link fs root items = link fs' root' items := by
  simp only [link, linkItems_congr h]

end Unbundled.Proofs.Specifiers
