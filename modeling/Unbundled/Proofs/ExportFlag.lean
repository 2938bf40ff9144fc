import Mathlib.Data.List.Basic
import Unbundled.Proofs.LoadableImports

namespace Unbundled.Proofs.ExportFlag

open Erasure Files Linking Script Dependencies Exports LinkedItems LoadableImports

variable {fs : FileSystem} {root : String}

/-! ## Linking -/

structure Steady (P : Stmt → Bool) : Prop where
  imported (s specifiers source attrs) : P (.import s false specifiers source attrs) = false
  var (s kind decls) : P (.var s kind false decls) = false
  exportNamed (s specifiers attrs) (source source' : StringLit) :
    P (.exportNamed s false specifiers (some source') attrs) =
      P (.exportNamed s false specifiers (some source) attrs)
  exportAll (s attrs source source') :
    P (.exportAll s false source' attrs) = P (.exportAll s false source attrs)

theorem steady_exportsValue : Steady exportsValue where
  imported _ _ _ _ := rfl
  var _ _ _ := rfl
  exportNamed _ _ _ _ _ := rfl
  exportAll _ _ _ _ := rfl

theorem steady_exportsAtRunTime : Steady exportsAtRunTime where
  imported _ _ _ _ := rfl
  var _ _ _ := rfl
  exportNamed _ _ _ _ _ := rfl
  exportAll _ _ _ _ := rfl

variable {P : Stmt → Bool}

theorem Steady.replaces {treat : String → Treatment} {item : Stmt} {taken : Option String}
    {items : List Stmt} (hP : Steady P) (h : Replaces treat item taken items) :
    items.any P = P item := by
  cases h with
  | «import» | stubs | required | emptied => simp [hP.imported, hP.var]
  | exportNamed source' => rw [List.any_cons, List.any_nil, Bool.or_false, hP.exportNamed]
  | exportAll source' => rw [List.any_cons, List.any_nil, Bool.or_false, hP.exportAll]
  | other => rw [List.any_cons, List.any_nil, Bool.or_false]

theorem Steady.link (hP : Steady P) (items : List Stmt) :
    (link fs root items).items.any P = items.any P := by
  have heach {ls : List Linked}
      (h : List.Forall₂ (fun item l => Replaces (classify fs root) item l.taken l.items) items ls) :
      (ls.flatMap (·.items)).any P = items.any P := by
    induction h with
    | nil => rfl
    | cons hreplaces _ ih =>
        rw [List.flatMap_cons, List.any_append, ih, List.any_cons, hP.replaces hreplaces]
  rw [link_items]
  exact heach (linkedEach_replaces _ [] items)

/-! ## Scopes and types -/

theorem resolveScopes_exportsValue (items : List Stmt) :
    (resolveScopes items).any exportsValue = items.any exportsValue := by
  rw [resolveScopes_eq, List.any_map]
  exact congrArg items.any (funext fun s => visit_scope_exportsValue s _)

def plainItem? (n : Names) (item : Stmt) : Option Stmt :=
  ((importedValues n item).filter staysAtRunTime).map fun s => Id.run (s.visit Untyped.visitor)

theorem withoutTypes_withoutTypeImports (items : List Stmt) :
    withoutTypes (withoutTypeImports items) =
      items.filterMap (plainItem? (Names.ofItems items)) := by
  rw [withoutTypes_eq, withoutTypeImports, ← List.filterMap_eq_filter, ← List.filterMap_eq_map,
    List.filterMap_filterMap, List.filterMap_filterMap]
  refine List.filterMap_congr fun item _ => ?_
  unfold plainItem?
  cases importedValues (Names.ofItems items) item with
  | none => rfl
  | some s =>
      simp only [Option.bind_some, Option.filter_some, Option.guard]
      split <;> rfl

def aliased? (n : Names) (item : Stmt) : Option Stmt := (plainItem? n item).bind aliasItem

theorem erased_exports (items : List Stmt) :
    let resolved := resolveScopes items
    let n := Names.ofItems resolved
    (erased items).any exportsAtRunTime =
      surfacing (innerNames (resolved.filterMap (plainItem? n))) (resolved.filterMap (aliased? n)) := by
  intro resolved n
  rw [erased, keepingModule_exports, lowered_exports, withoutTypes_withoutTypeImports,
    List.filterMap_filterMap]
  rfl

/-! ## What comes to nothing -/

/-- Whether an item is the export of a value: by default, by assignment, in a list, of all that
another module exports, or of a declaration of something that exists at run time. -/
def isValueExport : Stmt → Bool
  | s@(.exportDecl ..) | s@(.exportDefaultDecl ..) => staysAtRunTime s
  | .exportDefaultExpr .. | .exportAssign .. => true
  | .exportNamed _ typeOnly .. | .exportAll _ typeOnly .. => !typeOnly
  | _ => false

/-- An item that is taken to export a value and comes to nothing, `declared` being the names that
are declared before it: an assignment to what the module exports, a list that names only types, a
type, a signature, a declaration of nothing that exists at run time, and more of an enum or a
namespace. -/
inductive Hollow (n : Names) (declared : List Erasure.Key) : Stmt → Prop
  | assignment (s e) : Hollow n declared (.exportAssign s e)
  | names (s specifiers source attrs)
      (h : ∀ x ∈ specifiers, n.keepsExportSpecifier source.isSome x = false) :
      Hollow n declared (.exportNamed s false specifiers source attrs)
  | type (s id) (h : n.isPureType id.name = true) : Hollow n declared (.exportDefaultExpr s (.ident id))
  | signature (s id fn) (h : fn.body = none) :
      Hollow n declared (.exportDefaultDecl s (.func id fn))
  | declaration (s decl) (h : staysAtRunTime (.exportDecl s (withoutAliases decl)) = false) :
      Hollow n declared (.exportDecl s decl)
  | enum (s s' id ambient isConst members) (h : keyOf id ∈ declared) :
      Hollow n declared (.exportDecl s (.enum s' id ambient isConst members))
  | namespace (s s' id ambient body) (h : keyOf id ∈ declared) :
      Hollow n declared (.exportDecl s (.namespace s' id ambient (some body)))

theorem visit_untyped_opened (s : Stmt) :
    opened? (Id.run (s.visit Untyped.visitor)) = opened? s := by
  cases s with
  | exportDecl s decl =>
      cases decl with
      | «namespace» s id declared body => cases body <;> rfl
      | _ => rfl
  | _ => rfl

theorem visit_untyped_exports (s : Stmt) :
    exportsAtRunTime (Id.run (s.visit Untyped.visitor)) = exportsAtRunTime s := by
  cases s with
  | exportDecl s decl =>
      cases decl with
      | func name declared fn =>
          obtain ⟨_, _, _, _, _, _, _, body⟩ := fn
          cases body <;> rfl
      | _ => rfl
  | _ => rfl

theorem withoutAliases_same (s : Span) (decl : Stmt) :
    opened? (.exportDecl s (withoutAliases decl)) = opened? (.exportDecl s decl) ∧
      declaresValue (withoutAliases decl) = declaresValue decl := by
  cases decl with
  | «namespace» s id declared body => cases body <;> exact ⟨rfl, rfl⟩
  | _ => exact ⟨rfl, rfl⟩

theorem declares_of_stays {s : Span} {decl : Stmt} (h : staysAtRunTime (.exportDecl s decl) = true) :
    declaresValue decl = true ∧ declaresAtRunTime decl = true := by
  obtain ⟨hambient, hvalue⟩ := by simpa only [staysAtRunTime, Bool.and_eq_true, Bool.not_eq_true'] using h
  cases decl with
  | «interface» | typeAlias => cases hvalue
  | globalAugment => cases hambient
  | func id declared fn =>
      have hdeclared : declared = false := hambient
      have hbody : fn.body.isSome = true := hvalue
      subst hdeclared
      exact ⟨rfl, hbody⟩
  | var s kind declared decls =>
      cases declared with
      | false => exact ⟨Bool.or_true _, Bool.or_true _⟩
      | true =>
          cases kind with
          | «using» | awaitUsing => exact ⟨rfl, rfl⟩
          | _ => cases hambient
  | cls _ declared | «enum» _ _ declared | «namespace» _ _ declared | ambientModule _ _ declared =>
      have hdeclared : declared = false := hambient
      subst hdeclared
      exact ⟨rfl, rfl⟩
  | _ => exact ⟨rfl, rfl⟩

theorem aliased?_of_some {n : Names} {item s : Stmt} (h : importedValues n item = some s) :
    aliased? n item =
      if staysAtRunTime s then aliasItem (Id.run (s.visit Untyped.visitor)) else none := by
  rw [aliased?, plainItem?, h, Option.filter_some]
  split <;> rfl

theorem aliased?_of_none {n : Names} {item : Stmt} (h : importedValues n item = none) :
    aliased? n item = none := by
  rw [aliased?, plainItem?, h]
  rfl

theorem exportsValue_of_isValueExport {item : Stmt} (h : isValueExport item = true) :
    exportsValue item = true := by
  cases item with
  | exportDecl s decl => exact (declares_of_stays h).1
  | exportDefaultDecl | exportDefaultExpr | exportAssign => rfl
  | exportNamed | exportAll => exact h
  | _ => cases h

def Surfaces (n : Names) (declared : List Erasure.Key) (item : Stmt) : Prop :=
  (aliased? n item).any (surfaces declared) = true

section
variable {n : Names} {declared : List Erasure.Key} {item : Stmt}

theorem not_surfaces (h : ∀ s, importedValues n item = some s →
      (aliasItem (Id.run (s.visit Untyped.visitor))).any (surfaces declared) = false) :
    ¬Surfaces n declared item := by
  rw [Surfaces, Bool.not_eq_true]
  cases hitem : importedValues n item with
  | none =>
      rw [aliased?_of_none hitem]
      rfl
  | some s =>
      rw [aliased?_of_some hitem]
      split
      · exact h s hitem
      · rfl

theorem not_surfaces_of_none (h : importedValues n item = none) : ¬Surfaces n declared item :=
  not_surfaces fun s hs => by cases h.symm.trans hs

theorem surfaces_exportNamed (s : Span) (typeOnly : Bool) (specifiers : List ExportSpecifier)
    (source : Option StringLit) (attrs : Option Expr) :
    Surfaces n declared (.exportNamed s typeOnly specifiers source attrs) ↔
      typeOnly = false ∧
        ¬Hollow n declared (.exportNamed s typeOnly specifiers source attrs) := by
  cases typeOnly with
  | true => exact ⟨fun h => absurd h (not_surfaces_of_none rfl), fun h => absurd h.1 (by simp)⟩
  | false =>
      have hkept : Hollow n declared (.exportNamed s false specifiers source attrs) ↔
          specifiers.filter (n.keepsExportSpecifier source.isSome) = [] := by
        rw [List.filter_eq_nil_iff]
        constructor
        · intro h
          cases h with
          | names _ _ _ _ h => simpa using h
        · intro h
          exact .names s specifiers source attrs (by simpa using h)
      rw [hkept]
      cases hfilter : specifiers.filter (n.keepsExportSpecifier source.isSome) with
      | nil =>
          have hnone : importedValues n (.exportNamed s false specifiers source attrs) = none := by
            simp [importedValues, hfilter]
          simp [not_surfaces_of_none hnone]
      | cons x rest =>
          have hsome : importedValues n (.exportNamed s false specifiers source attrs) =
              some (.exportNamed s false (x :: rest) source attrs) := by
            simp [importedValues, hfilter]
          rw [Surfaces, aliased?_of_some hsome]
          exact ⟨fun _ => ⟨rfl, List.cons_ne_nil _ _⟩, fun _ => rfl⟩

theorem hollow_exportDecl_iff {s : Span} {decl : Stmt}
    (hstays : staysAtRunTime (.exportDecl s (withoutAliases decl)) = true) :
    Hollow n declared (.exportDecl s decl) ↔
      (opened? (.exportDecl s decl)).any declared.contains = true := by
  constructor
  · intro h
    cases h with
    | declaration _ _ h => exact absurd hstays (by simp [h])
    | «enum» _ _ _ _ _ _ h | «namespace» _ _ _ _ _ h => simpa [opened?] using h
  · intro h
    cases decl with
    | «enum» s' id ambient isConst members =>
        exact .enum s s' id ambient isConst members (by simpa [opened?] using h)
    | «namespace» s' id ambient body =>
        cases body with
        | none => cases h
        | some body => exact .namespace s s' id ambient body (by simpa [opened?] using h)
    | _ => cases h

theorem surfaces_exportDecl (s : Span) (decl : Stmt) :
    Surfaces n declared (.exportDecl s decl) ↔
      declaresValue decl = true ∧ ¬Hollow n declared (.exportDecl s decl) := by
  have hsome : importedValues n (.exportDecl s decl) =
      some (.exportDecl s (withoutAliases decl)) := rfl
  rw [Surfaces, aliased?_of_some hsome]
  cases hstays : staysAtRunTime (.exportDecl s (withoutAliases decl)) with
  | false =>
      have hhollow : Hollow n declared (.exportDecl s decl) := .declaration s decl hstays
      simp [hhollow]
  | true =>
      let item := Id.run ((Stmt.exportDecl s (withoutAliases decl)).visit Untyped.visitor)
      obtain ⟨hopened, hdeclares⟩ := withoutAliases_same s decl
      obtain ⟨hvalue, hruntime⟩ := declares_of_stays hstays
      rw [hdeclares] at hvalue
      have hitem : aliasItem item = some item := rfl
      have hexports : exportsAtRunTime item = true := (visit_untyped_exports _).trans hruntime
      have hsame : opened? item = opened? (.exportDecl s decl) :=
        (visit_untyped_opened _).trans hopened
      rw [if_pos rfl, hitem, Option.any_some, hollow_exportDecl_iff hstays, Exports.surfaces, hsame,
        hexports, hvalue]
      cases opened? (.exportDecl s decl) <;> simp

theorem surfaces_exportDefaultDecl (s : Span) (e : Expr) :
    Surfaces n declared (.exportDefaultDecl s e) ↔
      ¬Hollow n declared (.exportDefaultDecl s e) := by
  have hsome : importedValues n (.exportDefaultDecl s e) = some (.exportDefaultDecl s e) := rfl
  rw [Surfaces, aliased?_of_some hsome]
  cases e with
  | func id fn =>
      cases hbody : fn.body with
      | none =>
          have hhollow : Hollow n declared (.exportDefaultDecl s (.func id fn)) := .signature s id fn hbody
          have hstays : staysAtRunTime (.exportDefaultDecl s (.func id fn)) = false := by
            change (!false && fn.body.isSome) = false
            rw [hbody]
            rfl
          simp [hhollow, hstays]
      | some body =>
          have hstays : staysAtRunTime (.exportDefaultDecl s (.func id fn)) = true := by
            change (!false && fn.body.isSome) = true
            rw [hbody]
            rfl
          rw [if_pos hstays]
          refine ⟨fun _ h => ?_, fun _ => rfl⟩
          cases h with
          | signature _ _ _ h => simp [h] at hbody
  | _ => exact ⟨fun _ => nofun, fun _ => rfl⟩

theorem surfaces_exportDefaultExpr (s : Span) (e : Expr) :
    Surfaces n declared (.exportDefaultExpr s e) ↔
      ¬Hollow n declared (.exportDefaultExpr s e) := by
  cases e with
  | ident id =>
      cases hpure : n.isPureType id.name with
      | true =>
          have hnone : importedValues n (.exportDefaultExpr s (.ident id)) = none := by
            simp [importedValues, hpure]
          exact ⟨fun h => absurd h (not_surfaces_of_none hnone), fun h => absurd (.type s id hpure) h⟩
      | false =>
          have hsome : importedValues n (.exportDefaultExpr s (.ident id)) =
              some (.exportDefaultExpr s (.ident id)) := by
            simp [importedValues, hpure]
          rw [Surfaces, aliased?_of_some hsome]
          refine ⟨fun _ h => ?_, fun _ => rfl⟩
          cases h with
          | type _ _ h => simp [h] at hpure
  | _ =>
      rw [Surfaces, aliased?_of_some rfl]
      refine ⟨fun _ h => ?_, fun _ => rfl⟩
      cases h

theorem surfaces_importEquals (s : Span) (exported typeOnly : Bool) (id : Ident)
    (target : EntityName) :
    Surfaces n declared (.importEquals s exported typeOnly id target) ↔
      exported = true ∧ typeOnly = false := by
  cases typeOnly with
  | true => exact ⟨fun h => absurd h (not_surfaces_of_none rfl), fun h => absurd h.2 (by simp)⟩
  | false =>
      cases exported with
      | true => exact ⟨fun _ => ⟨rfl, rfl⟩, fun _ => rfl⟩
      | false =>
          refine ⟨fun h => absurd h (not_surfaces fun s hs => ?_), fun h => absurd h.1 (by simp)⟩
          simp only [importedValues] at hs
          split at hs
          · cases hs
            rfl
          · cases hs

theorem surfaces_exportAll (s : Span) (typeOnly : Bool) (source : StringLit) (attrs : Option Expr) :
    Surfaces n declared (.exportAll s typeOnly source attrs) ↔ typeOnly = false := by
  cases typeOnly with
  | true => exact ⟨fun h => absurd h (not_surfaces_of_none rfl), fun h => absurd h (by simp)⟩
  | false => exact ⟨fun _ => rfl, fun _ => rfl⟩

theorem not_surfaces_import (s : Span) (typeOnly : Bool) (specifiers : List ImportSpecifier)
    (source : StringLit) (attrs : Option Expr) :
    ¬Surfaces n declared (.import s typeOnly specifiers source attrs) := by
  refine not_surfaces fun s hs => ?_
  cases typeOnly with
  | true => cases hs
  | false =>
      simp only [importedValues] at hs
      split at hs <;> cases hs
      rfl

theorem not_surfaces_importRequire (s : Span) (exported typeOnly : Bool) (id : Ident)
    (refSpan : Span) (source : StringLit) :
    ¬Surfaces n declared (.importRequire s exported typeOnly id refSpan source) := by
  refine not_surfaces fun s hs => ?_
  simp only [importedValues] at hs
  split at hs <;> cases hs
  rfl

theorem surfaces_iff :
    Surfaces n declared item ↔
      exportsValue item = true ∧ ¬Hollow n declared item ∨ isExportedAlias item = true := by
  cases item with
  | exportNamed =>
      rw [surfaces_exportNamed]
      simp [exportsValue, isExportedAlias]
  | exportAll s typeOnly source attrs =>
      have hhollow : ¬Hollow n declared (.exportAll s typeOnly source attrs) := by
        intro h
        cases h
      rw [surfaces_exportAll]
      simp [exportsValue, isExportedAlias, hhollow]
  | exportDecl =>
      rw [surfaces_exportDecl]
      simp [exportsValue, isExportedAlias]
  | exportDefaultDecl =>
      rw [surfaces_exportDefaultDecl]
      simp [exportsValue, isExportedAlias]
  | exportDefaultExpr =>
      rw [surfaces_exportDefaultExpr]
      simp [exportsValue, isExportedAlias]
  | exportAssign s e =>
      have h : ¬Surfaces n declared (.exportAssign s e) := not_surfaces fun s hs => by cases hs; rfl
      simp [h, Hollow.assignment, isExportedAlias]
  | importEquals s exported typeOnly id target =>
      rw [surfaces_importEquals]
      cases exported <;> cases typeOnly <;> simp [exportsValue, isExportedAlias]
  | exportDefaultInterface s decl =>
      have h : ¬Surfaces n declared (.exportDefaultInterface s decl) := not_surfaces_of_none rfl
      simp [h, exportsValue, isExportedAlias]
  | importRequire => simp [not_surfaces_importRequire, exportsValue, isExportedAlias]
  | «import» => simp [not_surfaces_import, exportsValue, isExportedAlias]
  | _ =>
      -- what is neither an export nor an alias stays so
      refine ⟨fun h => absurd h (not_surfaces fun s hs => ?_), ?_⟩
      · cases hs
        rfl
      · rintro (⟨h, -⟩ | h) <;> cases h

end

/-! ## The module that is printed -/

def linkedItems (fs : FileSystem) (root : String) (m : Module) : List Stmt :=
  resolveScopes (link fs root m.items).items

def namesBefore (items before : List Stmt) : List Erasure.Key :=
  let plain? := plainItem? (Names.ofItems items)
  (before.filterMap (aliased? (Names.ofItems items))).flatMap declares ++
    innerNames (items.filterMap plain?)

/-- Whether the items of a typed module leave an export: one is taken to export a value and does
not come to nothing, or is an exported alias. -/
def LeavesExport (items : List Stmt) : Prop :=
  ∃ before item after, items = before ++ item :: after ∧
    (exportsValue item = true ∧
        ¬Hollow (Names.ofItems items) (namesBefore items before) item ∨
      isExportedAlias item = true)

/-- Whether the module that is printed exports something, or the source exports nothing on purpose. -/
def Exporting (m printed : Module) : Prop :=
  printed.items.any exportsAtRunTime = true ∨ m.items.any isEmptyExport = true

instance (m printed : Module) : Decidable (Exporting m printed) :=
  inferInstanceAs (Decidable (_ ∨ _))

theorem exists_filterMap_split {α β : Type} {f : α → Option β} {Q : List β → β → Prop} {as : List α} :
    (∃ before b after, as.filterMap f = before ++ b :: after ∧ Q before b) ↔
      ∃ before a after, as = before ++ a :: after ∧
        ∃ b, f a = some b ∧ Q (before.filterMap f) b := by
  constructor
  · rintro ⟨before, b, after, hsplit, hQ⟩
    obtain ⟨front, back, rfl, rfl, hback⟩ := List.filterMap_eq_append_iff.mp hsplit
    obtain ⟨skipped, a, rest, rfl, hskipped, hb, rfl⟩ := List.filterMap_eq_cons_iff.mp hback
    refine ⟨front ++ skipped, a, rest, by rw [List.append_assoc], b, hb, ?_⟩
    rwa [List.filterMap_append, List.filterMap_eq_nil_iff.mpr hskipped, List.append_nil]
  · rintro ⟨before, a, after, rfl, b, hb, hQ⟩
    exact ⟨before.filterMap f, b, after.filterMap f, by
      rw [List.filterMap_append, List.filterMap_cons_some hb], hQ⟩

theorem erased_exports_iff (items : List Stmt) :
    (erased items).any exportsAtRunTime = true ↔ LeavesExport (resolveScopes items) := by
  rw [erased_exports, surfacing_iff, exists_filterMap_split]
  refine exists₃_congr fun before item after => and_congr_right fun _ => ?_
  rw [← surfaces_iff, Surfaces, Option.any_eq_true]
  rfl

theorem printed_exports (path : String) (m : Module) :
    (printed fs root path m).items.any exportsAtRunTime =
      if (Dialect.ofPath path).typescript then
        (erased (link fs root m.items).items).any exportsAtRunTime
      else m.items.any exportsAtRunTime := by
  rw [printed, trimmed_exports, leftOf, pruneImports_exports]
  split
  · rfl
  · exact steady_exportsAtRunTime.link m.items

theorem exportsValue_untyped {path source : String} {m : Module}
    (hpath : (Dialect.ofPath path).typescript = false) (hm : readSource path source = .ok m) :
    m.items.any exportsValue = (m.items.any exportsAtRunTime || m.items.any isEmptyExport) := by
  have huntyped := ItemReaders.readSource_untyped hpath hm
  generalize m.items = items at huntyped
  induction items with
  | nil => rfl
  | cons item rest ih =>
      obtain ⟨hitem, hrest⟩ := List.forall_mem_cons.mp huntyped
      rw [List.any_cons, List.any_cons, List.any_cons, ih hrest, hitem.exports]
      ac_rfl

theorem link_exports (m : Module) :
    (link fs root m.items).exports = (linkedItems fs root m).any exportsValue := by
  rw [linkedItems, resolveScopes_exportsValue, steady_exportsValue.link]
  rfl

/-- A typed module exports what does not come to nothing, and its exported aliases. Any other one
exports what it is taken to export. -/
theorem exporting_iff {path source : String} {m : Module} (hm : readSource path source = .ok m) :
    Exporting m (printed fs root path m) ↔
      if (Dialect.ofPath path).typescript then
        m.items.any isEmptyExport = true ∨ LeavesExport (linkedItems fs root m)
      else (link fs root m.items).exports = true := by
  rw [Exporting, printed_exports]
  cases hpath : (Dialect.ofPath path).typescript with
  | true =>
      simp only [if_true]
      rw [or_comm, erased_exports_iff]
      rfl
  | false =>
      simp only [Bool.false_eq_true, if_false]
      rw [← Bool.or_eq_true, ← exportsValue_untyped hpath hm]
      rfl

theorem emptyExport_exports {items : List Stmt} (h : items.any isEmptyExport = true) :
    items.any exportsValue = true := by
  obtain ⟨item, hitem, hempty⟩ := List.any_eq_true.mp h
  refine List.any_eq_true.mpr ⟨item, hitem, ?_⟩
  unfold isEmptyExport at hempty
  split at hempty
  · rfl
  · cases hempty

/-- A module is taken to export something if it has the export of a value. If it is so taken and the
module that is printed exports nothing, then it is typed, and all that it is taken to export comes
to nothing. If it is not and the module that is printed exports something, then it is typed, too,
and has an exported alias. -/
theorem ofSource_exports {path source : String} {l : Loadable}
    (h : Loadable.ofSource fs root path source = .ok l) :
    ∃ m, readSource path source = .ok m ∧
      (l.code = if l.exports then (printed fs root path m).text
        else Loadable.wrapped (printed fs root path m).text) ∧
      ((∃ item ∈ linkedItems fs root m, isValueExport item = true) → l.exports = true) ∧
      (l.exports = true → Exporting m (printed fs root path m) ∨
        (Dialect.ofPath path).typescript = true ∧
          ∀ before item after, linkedItems fs root m = before ++ item :: after →
            exportsValue item = true →
              Hollow (Names.ofItems (linkedItems fs root m))
                (namesBefore (linkedItems fs root m) before) item) ∧
      (Exporting m (printed fs root path m) → l.exports = true ∨
        (Dialect.ofPath path).typescript = true ∧
          ∃ item ∈ linkedItems fs root m, isExportedAlias item = true) := by
  obtain ⟨m, hm, hexports, hcode⟩ := ofSource_eq_ok h
  have hflag : l.exports = true ↔ ∃ item ∈ linkedItems fs root m, exportsValue item = true := by
    rw [hexports, link_exports, List.any_eq_true]
  have hexporting : Exporting m (printed fs root path m) ↔ _ := exporting_iff hm
  rw [← hexports] at hexporting
  refine ⟨m, hm, hcode, ?_, ?_, ?_⟩
  · rintro ⟨item, hitem, hvalue⟩
    exact hflag.mpr ⟨item, hitem, exportsValue_of_isValueExport hvalue⟩
  · intro hl
    by_cases hsomething : Exporting m (printed fs root path m)
    · exact .inl hsomething
    · right
      rw [hexporting] at hsomething
      split at hsomething
      · rename_i htyped
        refine ⟨htyped, fun before item after hsplit hvalue => ?_⟩
        by_contra hhollow
        exact hsomething (.inr ⟨before, item, after, hsplit, .inl ⟨hvalue, hhollow⟩⟩)
      · exact absurd hl hsomething
  · rw [hexporting]
    split
    · rename_i htyped
      rintro (hempty | ⟨before, item, after, hsplit, ⟨hvalue, -⟩ | halias⟩)
      · left
        rw [hexports]
        exact emptyExport_exports hempty
      · exact .inl (hflag.mpr ⟨item, by simp [hsplit], hvalue⟩)
      · exact .inr ⟨htyped, item, by simp [hsplit], halias⟩
    · exact .inl

theorem ofSource_exports_class :
    let source := "interface T \x7b\x7d\nexport \x7b type T \x7d;\nexport class C \x7b\x7d\n"
    let l : Loadable := ⟨"export class C \x7b\n\x7d\n", true, []⟩
    Loadable.ofSource default "/" "/a.ts" source = .ok l ∧
      ∃ m, readSource "/a.ts" source = .ok m ∧
        (l.code = if l.exports then (printed default "/" "/a.ts" m).text
          else Loadable.wrapped (printed default "/" "/a.ts" m).text) ∧
        ((∃ item ∈ linkedItems default "/" m, isValueExport item = true) → l.exports = true) ∧
        (l.exports = true → Exporting m (printed default "/" "/a.ts" m) ∨
          (Dialect.ofPath "/a.ts").typescript = true ∧
            ∀ before item after, linkedItems default "/" m = before ++ item :: after →
              exportsValue item = true →
                Hollow (Names.ofItems (linkedItems default "/" m))
                  (namesBefore (linkedItems default "/" m) before) item) ∧
        (Exporting m (printed default "/" "/a.ts" m) → l.exports = true ∨
          (Dialect.ofPath "/a.ts").typescript = true ∧
            ∃ item ∈ linkedItems default "/" m, isExportedAlias item = true) := by
  intro source l
  have h : Loadable.ofSource default "/" "/a.ts" source = .ok l := by decide +kernel
  exact ⟨h, ofSource_exports h⟩

def exportsOfSource (path source : String) : Except SourceFault Bool := do
  let m ← readSource path source
  return decide (Exporting m (printed default "/" path m))

/-- An assignment to what the module exports and a list of types are taken for exports of values, and
the modules that are printed for them export nothing. -/
theorem exports_nothing_printed :
    let assignment := "const x = 1;\nexport = x;\n"
    let types := "interface T \x7b\x7d\nexport \x7b T \x7d;\n"
    (Loadable.ofSource default "/" "/a.ts" assignment).map (·.exports) = .ok true ∧
      exportsOfSource "/a.ts" assignment = .ok false ∧
      (Loadable.ofSource default "/" "/a.ts" types).map (·.exports) = .ok true ∧
      exportsOfSource "/a.ts" types = .ok false := by
  decide +kernel

end Unbundled.Proofs.ExportFlag
