import Unbundled.Proofs.Capture
import Unbundled.Proofs.Pruning
import Unbundled.Proofs.Words

namespace Unbundled.Proofs.Aliases

open Files Linking Script
open Capture Freshness LinkedItems Pruning

variable {taken : List String} {base name : String}

/-- Trying `name`, and behind it the numbers from `n` on, ends with `found` after some names that
were taken. -/
inductive Search (taken : List String) (base : String) : Nat → String → Nat → String → Prop
  | free {n name} (h : name ∉ taken) : Search taken base n name 0 name
  | next {n name rounds found} (h : name ∈ taken)
      (rest : Search taken base (n + 1) (Alias.numbered base n) rounds found) :
      Search taken base n name (rounds + 1) found

theorem Search.unique {n rounds rounds' : Nat} {found found' : String}
    (h : Search taken base n name rounds found) (h' : Search taken base n name rounds' found') :
    rounds = rounds' ∧ found = found' := by
  induction h generalizing rounds' with
  | free hfree =>
      cases h' with
      | free => exact ⟨rfl, rfl⟩
      | next htaken => exact absurd htaken hfree
  | next htaken _ ih =>
      cases h' with
      | free hfree => exact absurd htaken hfree
      | next _ rest =>
          obtain ⟨rfl, rfl⟩ := ih rest
          exact ⟨rfl, rfl⟩

theorem search_candidate {k : Nat} (hfree : candidate base k ∉ taken)
    (hbefore : ∀ j < k, candidate base j ∈ taken) (rounds i : Nat) (h : i + rounds = k) :
    Search taken base (i + 1) (candidate base i) rounds (candidate base k) := by
  induction rounds generalizing i with
  | zero =>
      obtain rfl : i = k := h
      exact .free hfree
  | succ rounds ih => exact .next (hbefore i (by omega)) (ih (i + 1) (by omega))

theorem search_fresh (taken names : List String) :
    ∃ rounds ≤ taken.length, Search taken (Alias.base names) 1 (Alias.base names) rounds
      (Alias.fresh taken names) := by
  obtain ⟨k, hk, hfree, hbefore⟩ := fresh_isFirstFree taken names
  obtain ⟨i, hi, hnot⟩ := exists_candidate_free taken (Alias.base names)
  -- the candidate `i` is free, so the first free one comes no later
  have hle : k ≤ i := Nat.not_lt.mp fun hlt => hnot (hbefore i hlt)
  rw [hk] at hfree ⊢
  exact ⟨k, Nat.le_trans hle hi, search_candidate hfree hbefore k 0 (Nat.zero_add k)⟩

/-- Two underscores, and behind them nothing but ASCII letters and digits, `_` and `$`. -/
def IsAlias (name : String) : Prop :=
  ∃ rest, name = "__" ++ rest ∧ ∀ c ∈ rest.toList, c.isAlphanum = true ∨ c = '_' ∨ c = '$'

theorem isPlain_iff {c : Char} :
    Alias.isPlain c = true ↔ c.isAlphanum = true ∨ c = '_' ∨ c = '$' := by
  simp only [Alias.isPlain, Bool.or_eq_true, beq_iff_eq, or_assoc]

theorem isPlain_plainChar (c : Char) : Alias.isPlain (Alias.plainChar c) = true := by
  unfold Alias.plainChar
  split
  · assumption
  · rfl

theorem isAlias_base (names : List String) : IsAlias (Alias.base names) := by
  let joined := if names.isEmpty then "require" else "_".intercalate names
  refine ⟨String.ofList (joined.toList.map Alias.plainChar), ?_, fun c hc => ?_⟩
  · rw [Alias.base, String.toList_append, List.map_append, String.ofList_append]
    rfl
  · rw [String.toList_ofList, List.mem_map] at hc
    obtain ⟨d, -, rfl⟩ := hc
    exact isPlain_iff.mp (isPlain_plainChar d)

theorem IsAlias.numbered (h : IsAlias base) (n : Nat) : IsAlias (Alias.numbered base n) := by
  obtain ⟨rest, rfl, hrest⟩ := h
  refine ⟨rest ++ "_" ++ toString n, ?_, fun c hc => ?_⟩
  · simp only [Alias.numbered, String.append_assoc]
  · simp only [String.toList_append, List.mem_append] at hc
    rcases hc with (hc | hc) | hc
    · exact hrest c hc
    · exact .inr (.inl (List.mem_singleton.mp hc))
    · rw [Nat.toString_eq_repr, Nat.toList_repr] at hc
      left
      rw [Char.isAlphanum, Nat.isDigit_of_mem_toDigits (by decide) (by decide) hc, Bool.or_true]

theorem isAlias_fresh (taken names : List String) : IsAlias (Alias.fresh taken names) := by
  obtain ⟨k, hk, -⟩ := fresh_isFirstFree taken names
  rw [hk]
  cases k with
  | zero => exact isAlias_base names
  | succ k => exact (isAlias_base names).numbered (k + 1)

theorem isNamePart_of_isAlphanum {c : Char} (h : c.isAlphanum = true) :
    Text.isNamePart c = true := by
  have hsmall : c.val < 0x80 := by
    change ((decide ('A'.val ≤ c.val ∧ c.val ≤ 'Z'.val) ||
      (decide ('a'.val ≤ c.val) && decide (c.val ≤ 'z'.val))) ||
        (decide ('0'.val ≤ c.val) && decide (c.val ≤ '9'.val))) = true at h
    simp only [Bool.or_eq_true, Bool.and_eq_true, decide_eq_true_eq, UInt32.le_iff_toNat_le] at h
    have hupper : 'Z'.val.toNat = 90 := rfl
    have hlower : 'z'.val.toNat = 122 := rfl
    have hdigit : '9'.val.toNat = 57 := rfl
    have hlimit : (0x80 : UInt32).toNat = 128 := rfl
    rw [UInt32.lt_iff_toNat_lt]
    omega
  simp [Text.isNamePart, hsmall, h]

theorem IsAlias.toList_eq (h : IsAlias name) :
    ∃ cs, name.toList = '_' :: '_' :: cs ∧ ∀ c ∈ cs, c.isAlphanum = true ∨ c = '_' ∨ c = '$' := by
  obtain ⟨rest, rfl, hrest⟩ := h
  exact ⟨rest.toList, String.toList_append, hrest⟩

theorem IsAlias.isIdentifier (h : IsAlias name) : Words.IsIdentifier name := by
  obtain ⟨cs, hname, hcs⟩ := h.toList_eq
  apply Words.isIdentifier_of_isNamePart
  · rw [hname]
    exact List.cons_ne_nil _ _
  · intro c hc
    rw [hname, List.mem_cons, List.mem_cons] at hc
    rcases hc with rfl | rfl | hc
    · rfl
    · rfl
    · rcases hcs c hc with h | rfl | rfl
      · exact isNamePart_of_isAlphanum h
      · rfl
      · rfl
  · have hletter : ∀ w ∈ keywords, w.toList.head? ≠ some '_' := by decide
    intro hkey
    exact hletter name hkey (by rw [hname]; rfl)

def aliasedPattern? (treat : String → Treatment) : Stmt → Option Pat
  | .var _ kind declared decls =>
    match requiredBy? kind declared decls with
    | some (d, specifier) => (destination? treat specifier).map fun _ => d.pat
    | none => none
  | _ => none

theorem aliasedNames?_eq (treat : String → Treatment) (item : Stmt) :
    aliasedNames? treat item = (aliasedPattern? treat item).map Pat.boundNames := by
  cases item with
  | var s kind declared decls =>
      simp only [aliasedNames?, aliasedPattern?]
      cases requiredBy? kind declared decls with
      | none => rfl
      | some found =>
          dsimp only
          rw [Option.map_map]
          rfl
  | _ => rfl

/-- The patterns are given the aliases in turn. The search for each of them ends, within as many
rounds as there are aliases before it. -/
inductive GivenOut : List String → List Pat → List String → Prop
  | nil (taken : List String) : GivenOut taken [] []
  | cons {taken : List String} {pat : Pat} {pats : List Pat} {name : String} {names : List String}
      (rounds : Nat) (hrounds : rounds ≤ taken.length)
      (hsearch : Search taken (Alias.base pat.boundNames) 1 (Alias.base pat.boundNames) rounds name)
      (rest : GivenOut (name :: taken) pats names) : GivenOut taken (pat :: pats) (name :: names)

theorem GivenOut.unique {pats : List Pat} {names names' : List String} (h : GivenOut taken pats names)
    (h' : GivenOut taken pats names') : names = names' := by
  induction h generalizing names' with
  | nil =>
      cases h'
      rfl
  | cons rounds hrounds hsearch rest ih =>
      cases h' with
      | cons rounds' hrounds' hsearch' rest' =>
          obtain ⟨-, rfl⟩ := hsearch.unique hsearch'
          rw [ih rest']

theorem givenOut_linkedEach (treat : String → Treatment) (taken : List String) (items : List Stmt) :
    GivenOut taken (items.filterMap (aliasedPattern? treat))
      ((linkedEach treat taken items).filterMap (·.taken)) := by
  induction items generalizing taken with
  | nil => exact .nil taken
  | cons item rest ih =>
      have htaken := linkItem_taken treat taken item
      rw [aliasedNames?_eq] at htaken
      rw [linkedEach_cons_aliases, htaken]
      cases hpat : aliasedPattern? treat item with
      | none =>
          rw [List.filterMap_cons_none hpat]
          exact ih taken
      | some pat =>
          rw [List.filterMap_cons_some hpat]
          obtain ⟨rounds, hrounds, hsearch⟩ := search_fresh taken pat.boundNames
          exact .cons rounds hrounds hsearch (ih _)

theorem isAlias_of_taken {treat : String → Treatment} {items : List Stmt} {l : Linked}
    (hl : l ∈ linkedEach treat taken items) (hname : l.taken = some name) : IsAlias name := by
  induction items generalizing taken with
  | nil => cases hl
  | cons item rest ih =>
      rcases List.mem_cons.mp hl with rfl | hl
      · rw [linkItem_taken] at hname
        obtain ⟨names, -, rfl⟩ := Option.map_eq_some_iff.mp hname
        exact isAlias_fresh taken names
      · exact ih hl

def leftOf (module items : List Stmt) : List Stmt :=
  items.filterMap (pruneItem (usedNames module).contains)

theorem leftOf_each (module : List Stmt) (ls : List Linked) :
    leftOf module (ls.flatMap (·.items)) = ls.flatMap fun l => leftOf module l.items :=
  List.filterMap_flatMap ..

theorem usedNames_mono {items module : List Stmt} (h : items ⊆ module) :
    usedNames items ⊆ usedNames module := by
  intro x hx
  obtain ⟨id, hid, rfl⟩ := List.mem_map.mp hx
  obtain ⟨item, hitem, hid⟩ := mem_identifiersOf.mp hid
  exact List.mem_map.mpr ⟨id, mem_identifiersOf.mpr ⟨item, h hitem, hid⟩, rfl⟩

section

variable {treat : String → Treatment} {item : Stmt} {items : List Stmt}

theorem Replaces.eq_import_declaration (h : Replaces treat item (some name) items) :
    ∃ url declaration, items = [defaultImport name url, declaration] := by
  cases h with
  | required name hkind hd hurl => exact ⟨_, _, rfl⟩

theorem Replaces.mem_usedNames (h : Replaces treat item (some name) items) :
    name ∈ usedNames items := by
  cases h with
  | @required s kind d =>
      refine List.mem_map.mpr ⟨madeIdent name, ?_, rfl⟩
      change _ ∈ [] ++ (((d.pat.identifiers ++ [madeIdent name]) ++ []) ++ [])
      simp

theorem Replaces.leftOf_eq {module : List Stmt} (h : Replaces treat item (some name) items)
    (hmodule : items ⊆ module) : leftOf module items = items := by
  have hused : (usedNames module).contains name = true :=
    List.contains_iff_mem.mpr (usedNames_mono hmodule (Replaces.mem_usedNames h))
  cases h with
  | required name hkind hd hurl =>
      simp only [leftOf, pruneItem, List.filterMap_cons, List.filter_cons, ImportSpecifier.local, hused]
      rfl

end

/-- The aliases of a module are what its patterns are given in turn, and the search for each of them
ends. They are distinct identifiers of plain characters behind two underscores, and pruning what
linking has made of the module leaves the import of each in its place, in front of the declaration
that uses it. -/
theorem link_gives_aliases (fs : FileSystem) (root : String) (items : List Stmt) :
    let treat := classify fs root
    let names := aliases treat items
    let ls := linkedEach treat [] items
    let linked := (link fs root items).items
    (∀ found, GivenOut [] (items.filterMap (aliasedPattern? treat)) found ↔ found = names) ∧
      names.Nodup ∧
      (∀ name ∈ names, IsAlias name ∧ Words.IsIdentifier name) ∧
      pruneImports linked = ls.flatMap (fun l => leftOf linked l.items) ∧
      ∀ l ∈ ls, ∀ name, l.taken = some name → ∃ url declaration,
        l.items = [defaultImport name url, declaration] ∧ leftOf linked l.items = l.items := by
  intro treat names ls linked
  have hlinked : linked = ls.flatMap (·.items) := link_items fs root items
  have hgiven : GivenOut [] (items.filterMap (aliasedPattern? treat)) names :=
    givenOut_linkedEach treat [] items
  refine ⟨fun found => ⟨fun h => h.unique hgiven, fun h => h ▸ hgiven⟩,
    (linkedEach_aliases_nodup treat [] items).1, ?_, ?_, ?_⟩
  · intro name hname
    obtain ⟨l, hl, htaken⟩ := List.mem_filterMap.mp hname
    have halias := isAlias_of_taken hl htaken
    exact ⟨halias, halias.isIdentifier⟩
  · calc pruneImports linked = leftOf linked linked := rfl
      _ = leftOf linked (ls.flatMap (·.items)) := congrArg (leftOf linked) hlinked
      _ = ls.flatMap fun l => leftOf linked l.items := leftOf_each linked ls
  · intro l hl name htaken
    obtain ⟨item, -, hreplaces⟩ := exists_replaces_of_mem hl
    rw [htaken] at hreplaces
    obtain ⟨url, declaration, hitems⟩ := Replaces.eq_import_declaration hreplaces
    have hsub : l.items ⊆ linked := by
      rw [hlinked]
      exact fun s hs => List.mem_flatMap.mpr ⟨l, hl, hs⟩
    exact ⟨url, declaration, hitems, Replaces.leftOf_eq hreplaces hsub⟩

example :
    let require : Expr := .call .absent (.ident { name := "require", span := .absent }) []
      [.str ⟨"./d", none, .absent⟩]
    let declare (name : String) : Stmt :=
      .var .absent .var false
        [⟨.absent, .ident { name, span := .absent } none, false, some require⟩]
    aliases (fun _ => .keep) (["x", "x", "x_1"].map declare) = ["__x", "__x_1", "__x_1_1"] := by
  decide

end Unbundled.Proofs.Aliases
