import Unbundled.Erasure.Imports
import Unbundled.Proofs.LinkedItems
import Unbundled.Script.Scope

namespace Unbundled.Proofs.Capture

open Files Linking Script
open Freshness LinkedItems

abbrev Gathering := StateM (List String)

namespace Gathering

def note (id : Ident) : Gathering Ident := do
  if id.scope = 0 then modify (id.name :: ·)
  return id

def jsxName (n : JsxName) (go : Gathering JsxName) : Gathering JsxName :=
  match n with
  | .ident id => if (id.name.toList.head?.map (·.isLower)).getD false then return n else go
  | _ => go

def exported : ExportSpecifier → Gathering Unit
  | .named _ (.ident id) _ false => discard (note id)
  | _ => return

def stmt (s : Stmt) (go : Gathering Stmt) : Gathering Stmt :=
  match s with
  | .exportNamed _ false specifiers none _ => do
    specifiers.forM exported
    return s
  | .importEquals _ _ false _ target => do
    discard (note (Erasure.Uses.root target))
    return s
  | _ => go

def visitor : Visitor Gathering := { ref := note, bind := note, jsxName, stmt }

end Gathering

/-- The names that occur free in a module, such as those of globals. -/
def freeNames (items : List Stmt) : List String :=
  ((Gathering.visitor.run (resolveScopes items)).run []).2

/-- An import of `name` would declare a name of the module again, or capture a free one. -/
def Clashes (items : List Stmt) (name : String) : Prop :=
  name ∈ itemNames items ∨ name ∈ freeNames items

instance (items : List Stmt) (name : String) : Decidable (Clashes items name) :=
  inferInstanceAs (Decidable (_ ∨ _))

def aliases (treat : String → Treatment) (items : List Stmt) : List String :=
  (linkedEach treat [] items).filterMap (·.taken)

theorem IsFirstFree.congr {taken taken' : List String} {base name : String}
    (h : ∀ x, x ∈ taken ↔ x ∈ taken') : IsFirstFree taken base name ↔ IsFirstFree taken' base name := by
  simp only [IsFirstFree, h]

theorem linkedEach_cons_aliases (treat : String → Treatment) (taken : List String) (item : Stmt)
    (rest : List Stmt) :
    (linkedEach treat taken (item :: rest)).filterMap (·.taken) =
      (linkItem treat taken item).taken.toList ++
        (linkedEach treat ((linkItem treat taken item).taken.toList ++ taken) rest).filterMap
          (·.taken) := by
  rw [linkedEach]
  cases h : (linkItem treat taken item).taken <;> simp [h]

/-- Each alias is the first candidate of its declaration that the declarations before it, and
what was taken to begin with, have left. -/
theorem mem_linkedEach_aliases {treat : String → Treatment} {taken : List String}
    {items : List Stmt} {name : String} :
    name ∈ (linkedEach treat taken items).filterMap (·.taken) ↔
      ∃ before item after names, items = before ++ item :: after ∧
        aliasedNames? treat item = some names ∧
        IsFirstFree ((linkedEach treat taken before).filterMap (·.taken) ++ taken)
          (Alias.base names) name := by
  induction items generalizing taken with
  | nil => simp [linkedEach]
  | cons first rest ih =>
      have hfirst := linkItem_taken treat taken first
      -- a declaration behind the first one finds the alias of the first one taken
      have hshift : ∀ before, ∀ base, IsFirstFree
          ((linkedEach treat taken (first :: before)).filterMap (·.taken) ++ taken) base name ↔
          IsFirstFree ((linkedEach treat ((linkItem treat taken first).taken.toList ++ taken)
            before).filterMap (·.taken) ++ ((linkItem treat taken first).taken.toList ++ taken))
            base name := by
        intro before base
        refine IsFirstFree.congr fun x => ?_
        rw [linkedEach_cons_aliases]
        simp only [List.mem_append]
        tauto
      rw [linkedEach_cons_aliases, List.mem_append, ih, hfirst, Option.mem_toList]
      constructor
      · rintro (hname | ⟨before, item, after, names, rfl, hnames, hfree⟩)
        · obtain ⟨names, hnames, rfl⟩ := Option.map_eq_some_iff.mp hname
          exact ⟨[], first, rest, names, rfl, hnames, fresh_isFirstFree taken names⟩
        · rw [← hfirst] at hfree
          exact ⟨first :: before, item, after, names, rfl, hnames, (hshift before _).mpr hfree⟩
      · rintro ⟨before, item, after, names, hitems, hnames, hfree⟩
        cases before with
        | nil =>
            obtain ⟨rfl, rfl⟩ := List.cons.inj hitems
            have hfresh : Alias.fresh taken names = name := fresh_eq_iff.mpr hfree
            left
            rw [hnames, Option.map_some, hfresh]
        | cons first' before =>
            obtain ⟨rfl, rfl⟩ := List.cons.inj hitems
            right
            have hfree' := (hshift before _).mp hfree
            rw [hfirst] at hfree'
            exact ⟨before, item, after, names, rfl, hnames, hfree'⟩

theorem mem_aliases {treat : String → Treatment} {items : List Stmt} {name : String} :
    name ∈ aliases treat items ↔
      ∃ before item after names, items = before ++ item :: after ∧
        aliasedNames? treat item = some names ∧
        IsFirstFree (aliases treat before) (Alias.base names) name := by
  simpa only [aliases, List.append_nil] using @mem_linkedEach_aliases treat [] items name

theorem Replaces.imports_alias {treat : String → Treatment} {item : Stmt} {name : String}
    {items : List Stmt} (h : Replaces treat item (some name) items) :
    ∃ source, defaultImport name source ∈ items := by
  cases h with
  | required name hkind hd hurl => exact ⟨_, List.mem_cons_self⟩

/-- Linking imports every alias, and the aliases keep apart from the names of the module just
if none of its declarations is left with a candidate that is such a name. Nothing but the aliases
in front of it makes a declaration pass over a candidate. -/
theorem link_avoids_names_iff (fs : FileSystem) (root : String) (items : List Stmt) :
    let treat := classify fs root
    (∀ name ∈ aliases treat items, ∃ source, defaultImport name source ∈ (link fs root items).items) ∧
      ((∀ name ∈ aliases treat items, ¬Clashes items name) ↔
        ∀ before item after names k, items = before ++ item :: after →
          aliasedNames? treat item = some names →
          (∀ j < k, candidate (Alias.base names) j ∈ aliases treat before) →
          Clashes items (candidate (Alias.base names) k) →
          candidate (Alias.base names) k ∈ aliases treat before) := by
  intro treat
  refine ⟨fun name hname => ?_, ⟨fun h => ?_, fun h name hname hclash => ?_⟩⟩
  · obtain ⟨l, hl, htaken⟩ := List.mem_filterMap.mp hname
    obtain ⟨item, -, hreplaces⟩ := exists_replaces_of_mem hl
    rw [htaken] at hreplaces
    obtain ⟨source, hsource⟩ := Replaces.imports_alias hreplaces
    refine ⟨source, ?_⟩
    rw [link_items]
    exact List.mem_flatMap.mpr ⟨l, hl, hsource⟩
  · intro before item after names k hitems hnames hbefore hclash
    by_contra hfree
    exact h _ (mem_aliases.mpr ⟨before, item, after, names, hitems, hnames, k, rfl, hfree, hbefore⟩)
      hclash
  · obtain ⟨before, item, after, names, hitems, hnames, k, rfl, hfree, hbefore⟩ :=
      mem_aliases.mp hname
    exact hfree (h before item after names k hitems hnames hbefore hclash)

example :
    let require : Expr := .call .absent (.ident { name := "require", span := .absent }) []
      [.str ⟨"./d", none, .absent⟩]
    let items : List Stmt :=
      [.var .absent .const false
        [⟨.absent, .ident { name := "dirname", span := .absent } none, false, some require⟩],
       .expr .absent (.ident { name := "__dirname", span := .absent })]
    aliases (fun _ => .keep) items = ["__dirname"] ∧ Clashes items "__dirname" := by
  decide

end Unbundled.Proofs.Capture
