import Mathlib.Data.List.Basic
import Unbundled.Linking.Usage
import Unbundled.Proofs.Occurrence
import Unbundled.Script.Source

namespace Unbundled.Proofs.Pruning

open Linking Script Occurrence

/-- The name occurs in the items, outside of the statements that are hidden. -/
def OccursIn (hidden : Stmt → Bool) (items : List Stmt) (x : String) : Prop :=
  ∃ item ∈ items, ∃ id : Ident, id.name = x ∧ Occurs hidden id (.stmt item)

theorem mem_identifiersOf {id : Ident} {items : List Stmt} :
    id ∈ Stmt.identifiersOf items ↔ ∃ item ∈ items, id ∈ item.identifiers := by
  rw [← collected_stmts, collected, each, List.flatMap_map]
  exact List.mem_flatMap

theorem mem_usedNames {items : List Stmt} {x : String} :
    x ∈ usedNames items ↔ OccursIn namesForeign items x := by
  simp only [usedNames, List.mem_map, mem_identifiersOf, OccursIn]
  constructor
  · rintro ⟨id, ⟨item, hitem, hid⟩, rfl⟩
    exact ⟨item, hitem, id, rfl, mem_identifiers_iff.mp hid⟩
  · rintro ⟨item, hitem, id, rfl, hid⟩
    exact ⟨id, ⟨item, hitem, mem_identifiers_iff.mpr hid⟩, rfl⟩

instance (items : List Stmt) : DecidablePred (OccursIn namesForeign items) :=
  fun _ => decidable_of_iff _ mem_usedNames

/-- What stays of an item if only the names that are used stay. An import that has lost all its
names goes, too. -/
def withoutUnused (used : String → Prop) [DecidablePred used] : Stmt → Option Stmt
  | .import s typeOnly specifiers source attrs =>
    if specifiers ≠ [] ∧ ∀ i ∈ specifiers, ¬used i.local.name then none
    else some (.import s typeOnly (specifiers.filter fun i => used i.local.name) source attrs)
  | item => some item

theorem pruneItem_eq {used : String → Prop} [DecidablePred used] {used' : String → Bool}
    (h : ∀ x, used' x = true ↔ used x) (item : Stmt) :
    pruneItem used' item = withoutUnused used item := by
  cases item with
  | «import» s typeOnly specifiers source attrs =>
      have hfilter : specifiers.filter (fun i => used' i.local.name) =
          specifiers.filter fun i => used i.local.name :=
        List.filter_congr fun i _ => by rw [Bool.eq_iff_iff, h, decide_eq_true_iff]
      simp only [pruneItem, withoutUnused, hfilter]
      congr 1
      simp [List.filter_eq_nil_iff, and_comm]
  | _ => rfl

theorem pruneItem_identifiers {used : String → Bool} {item item' : Stmt}
    (h : pruneItem used item = some item') : item'.identifiers = item.identifiers := by
  cases item with
  | «import» s typeOnly specifiers source attrs =>
      obtain ⟨-, h⟩ := Option.ite_none_left_eq_some.mp h
      cases h
      rfl
  | _ =>
      cases h
      rfl

theorem pruneItem_gone {used : String → Bool} {item : Stmt} (h : pruneItem used item = none) :
    item.identifiers = [] := by
  cases item with
  | «import» s typeOnly specifiers source attrs => rfl
  | _ => cases h

theorem identifiersOf_pruned (used : String → Bool) (items : List Stmt) :
    Stmt.identifiersOf (items.filterMap (pruneItem used)) = Stmt.identifiersOf items := by
  induction items with
  | nil => rfl
  | cons item items ih =>
      cases h : pruneItem used item with
      | none =>
          rw [List.filterMap_cons_none h, ih, Stmt.identifiersOf, pruneItem_gone h, List.nil_append]
      | some item' =>
          rw [List.filterMap_cons_some h, Stmt.identifiersOf, Stmt.identifiersOf, ih,
            pruneItem_identifiers h]

theorem usedNames_pruneImports (items : List Stmt) :
    usedNames (pruneImports items) = usedNames items :=
  congrArg (·.map Ident.name) (identifiersOf_pruned _ items)

theorem pruneItem_idem {used : String → Bool} {item item' : Stmt}
    (h : pruneItem used item = some item') : pruneItem used item' = some item' := by
  cases item with
  | «import» s typeOnly specifiers source attrs =>
      obtain ⟨hkept, h⟩ := Option.ite_none_left_eq_some.mp h
      cases h
      simp only [pruneItem, List.filter_filter, Bool.and_self]
      refine if_neg fun hgone => ?_
      rw [hgone.1] at hgone
      exact absurd hgone.2 (by simp)
  | _ =>
      cases h
      rfl

theorem pruneImports_idem (items : List Stmt) :
    pruneImports (pruneImports items) = pruneImports items := by
  rw [pruneImports, usedNames_pruneImports, pruneImports, List.filterMap_filterMap]
  refine List.filterMap_congr fun item _ => ?_
  cases h : pruneItem (usedNames items).contains item with
  | none => rfl
  | some item' => exact pruneItem_idem h

/-- Pruning drops exactly the imported names that do not occur outside of imports and of exports of
names of another module, and the imports that have had names and have none left. No count changes
by that, and pruning once more changes nothing. -/
theorem pruneImports_exact (items : List Stmt) :
    pruneImports items = items.filterMap (withoutUnused (OccursIn namesForeign items)) ∧
      (∀ x, usage (pruneImports items) x = usage items x) ∧
      pruneImports (pruneImports items) = pruneImports items := by
  refine ⟨?_, fun x => ?_, pruneImports_idem items⟩
  · refine List.filterMap_congr fun item _ => pruneItem_eq (fun x => ?_) item
    rw [List.contains_iff_mem, mem_usedNames]
  · rw [usage, usage, usedNames_pruneImports]

def asksModule : Stmt → Bool
  | .exportAll .. => true
  | item => namesForeign item

def importedNames (items : List Stmt) : List String :=
  items.flatMap fun
    | .import _ _ specifiers _ _ => specifiers.map fun i => i.local.name
    | _ => []

theorem not_occursIn_hidden {hidden : Stmt → Bool} {items : List Stmt}
    (h : items.all hidden = true) (x : String) : ¬OccursIn hidden items x := by
  rintro ⟨item, hitem, id, -, hid⟩
  rcases Relation.ReflTransGen.cases_head hid with heq | ⟨part, hshows, -⟩
  · cases heq
  · have hhidden := List.all_eq_true.mp h item hitem
    rw [hshows.2 item rfl] at hhidden
    cases hhidden

/-- A name in the attributes of an export of all names counts, as it does in an expression. -/
theorem pruneImports_keeps_attribute :
    let text := "import x from './x';\nexport * from './m' with \x7b type: x \x7d;\n"
    ∃ m, readSource "/a.ts" text = .ok m ∧ importedNames (pruneImports m.items) = ["x"] ∧
      ¬OccursIn asksModule m.items "x" := by
  intro text
  have hread : (readSource "/a.ts" text).toOption.map
      (fun m => (importedNames (pruneImports m.items), m.items.all asksModule)) =
        some (["x"], true) := by decide +kernel
  cases hm : readSource "/a.ts" text with
  | error fault =>
      rw [hm] at hread
      cases hread
  | ok m =>
      rw [hm] at hread
      obtain ⟨hnames, hasks⟩ := Prod.mk.inj (Option.some.inj hread)
      exact ⟨m, rfl, hnames, not_occursIn_hidden hasks "x"⟩

end Unbundled.Proofs.Pruning
