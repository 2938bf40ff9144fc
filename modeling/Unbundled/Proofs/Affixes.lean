import Unbundled.Text.Affix

namespace Unbundled.Proofs.Affixes

theorem dropPrefix?_eq_some {p cs rest : List Char} :
    Text.dropPrefix? p cs = some rest ↔ cs = p ++ rest := by
  induction p generalizing cs with
  | nil => simp [Text.dropPrefix?, eq_comm]
  | cons c p ih =>
      cases cs with
      | nil => simp [Text.dropPrefix?]
      | cons d cs =>
          simp only [Text.dropPrefix?, List.cons_append, List.cons.injEq]
          split
          · rename_i h
            rw [ih]
            exact ⟨fun he => ⟨h.symm, he⟩, And.right⟩
          · rename_i h
            exact ⟨nofun, fun he => absurd he.1.symm h⟩

theorem startsWith_iff {p s : String} : Text.startsWith p s = true ↔ ∃ rest, s = p ++ rest := by
  rw [Text.startsWith, Option.isSome_iff_exists]
  constructor
  · rintro ⟨rest, hrest⟩
    refine ⟨String.ofList rest, String.toList_inj.mp ?_⟩
    rw [dropPrefix?_eq_some.mp hrest, String.toList_append, String.toList_ofList]
  · rintro ⟨rest, rfl⟩
    exact ⟨rest.toList, dropPrefix?_eq_some.mpr (String.toList_append ..)⟩

theorem afterPrefix?_eq_some {p s rest : String} :
    Text.afterPrefix? p s = some rest ↔ s = p ++ rest := by
  rw [Text.afterPrefix?, Option.map_eq_some_iff]
  constructor
  · rintro ⟨cs, hcs, rfl⟩
    refine String.toList_inj.mp ?_
    rw [dropPrefix?_eq_some.mp hcs, String.toList_append, String.toList_ofList]
  · rintro rfl
    exact ⟨rest.toList, dropPrefix?_eq_some.mpr (String.toList_append ..), String.ofList_toList⟩

end Unbundled.Proofs.Affixes
