import Mathlib.Data.List.Nodup
import Mathlib.Data.List.Perm.Subperm
import Unbundled.Linking.Imports

namespace Unbundled.Proofs.Freshness

open Linking Linking.Alias

/-- The names an alias can have, in the order of trial: the plain one, then the numbered ones. -/
def candidate (base : String) : Nat → String
  | 0 => base
  | n + 1 => numbered base (n + 1)

def IsFirstFree (taken : List String) (base name : String) : Prop :=
  ∃ k, name = candidate base k ∧ name ∉ taken ∧ ∀ j < k, candidate base j ∈ taken

theorem toString_injective : Function.Injective (toString : Nat → String) := by
  intro m n h
  have hd : Nat.toDigits 10 m = Nat.toDigits 10 n := by
    simpa only [Nat.toString_eq_repr, Nat.toList_repr] using congrArg String.toList h
  have hn := congrArg (fun ds => Nat.ofDigitChars 10 ds 0) hd
  simpa only [Nat.ofDigitChars_ten_toDigits] using hn

theorem numbered_injective (base : String) : Function.Injective (numbered base) := by
  intro m n h
  have hl := congrArg String.toList h
  simp only [numbered, String.toList_append, List.append_assoc] at hl
  have ht := List.append_cancel_left (List.append_cancel_left hl)
  exact toString_injective (String.toList_inj.mp ht)

theorem numbered_ne_base (base : String) (n : Nat) : numbered base n ≠ base := by
  intro h
  have hl := congrArg (fun s => s.toList.length) h
  simp only [numbered, String.toList_append, List.length_append] at hl
  have hu : "_".toList.length = 1 := rfl
  omega

theorem candidate_injective (base : String) : Function.Injective (candidate base) := by
  intro m n h
  match m, n with
  | 0, 0 => rfl
  | 0, n + 1 => exact absurd h.symm (numbered_ne_base base (n + 1))
  | m + 1, 0 => exact absurd h (numbered_ne_base base (m + 1))
  | m + 1, n + 1 => exact numbered_injective base h

theorem exists_candidate_free (taken : List String) (base : String) :
    ∃ k ≤ taken.length, candidate base k ∉ taken := by
  by_contra hall
  push Not at hall
  have hsub : (List.range (taken.length + 1)).map (candidate base) ⊆ taken := by
    intro name hname
    obtain ⟨k, hk, rfl⟩ := List.mem_map.mp hname
    exact hall k (Nat.lt_succ_iff.mp (List.mem_range.mp hk))
  have hnodup : ((List.range (taken.length + 1)).map (candidate base)).Nodup :=
    List.nodup_range.map (candidate_injective base)
  have hlen := (List.subperm_of_subset hnodup hsub).length_le
  simp only [List.length_map, List.length_range] at hlen
  omega

theorem firstFree_spec (taken : List String) (base : String) (fuel n : Nat) :
    ∃ i ≤ fuel, firstFree taken base fuel n = numbered base (n + i) ∧
      (∀ j < i, numbered base (n + j) ∈ taken) ∧ (i < fuel → numbered base (n + i) ∉ taken) := by
  induction fuel generalizing n with
  | zero => exact ⟨0, Nat.le_refl 0, rfl, by simp, by simp⟩
  | succ fuel ih =>
      by_cases h : numbered base n ∈ taken
      · obtain ⟨i, hi, he, hbefore, hfree⟩ := ih (n + 1)
        refine ⟨i + 1, by omega, ?_, ?_, ?_⟩
        · rw [firstFree, if_pos (List.contains_iff_mem.mpr h), he, Nat.add_right_comm, Nat.add_assoc]
        · intro j hj
          cases j with
          | zero => exact h
          | succ j =>
              have hj' := hbefore j (by omega)
              rwa [Nat.add_right_comm, Nat.add_assoc] at hj'
        · intro hlt
          have hf := hfree (by omega)
          rwa [Nat.add_right_comm, Nat.add_assoc] at hf
      · exact ⟨0, by omega, by simp [firstFree, h], by simp, fun _ => h⟩

theorem fresh_isFirstFree (taken names : List String) :
    IsFirstFree taken (base names) (fresh taken names) := by
  by_cases hb : base names ∈ taken
  · obtain ⟨i, hi, he, hbefore, hfree⟩ := firstFree_spec taken (base names) taken.length 1
    have hfresh : fresh taken names = candidate (base names) (i + 1) := by
      simp only [fresh, List.contains_iff_mem.mpr hb, if_true, he, candidate, Nat.add_comm]
    have hall : ∀ j < i + 1, candidate (base names) j ∈ taken := by
      intro j hj
      cases j with
      | zero => exact hb
      | succ j => simpa only [candidate, Nat.add_comm] using hbefore j (by omega)
    refine ⟨i + 1, hfresh, ?_, hall⟩
    rw [hfresh]
    by_cases hlt : i < taken.length
    · simpa only [candidate, Nat.add_comm] using hfree hlt
    · -- all the candidates that have been tried are more than there are names taken
      obtain ⟨k, hk, hnot⟩ := exists_candidate_free taken (base names)
      exact absurd (hall k (by omega)) hnot
  · have hfresh : fresh taken names = base names := by simp [fresh, hb]
    exact ⟨0, hfresh, by rwa [hfresh], by simp⟩

theorem fresh_notMem (taken names : List String) : fresh taken names ∉ taken :=
  (fresh_isFirstFree taken names).choose_spec.2.1

theorem IsFirstFree.unique {taken : List String} {base a b : String}
    (ha : IsFirstFree taken base a) (hb : IsFirstFree taken base b) : a = b := by
  obtain ⟨m, rfl, hm, hbeforem⟩ := ha
  obtain ⟨n, rfl, hn, hbeforen⟩ := hb
  obtain h | rfl | h := Nat.lt_trichotomy m n
  · exact absurd (hbeforen m h) hm
  · rfl
  · exact absurd (hbeforem n h) hn

theorem fresh_eq_iff {taken names : List String} {name : String} :
    fresh taken names = name ↔ IsFirstFree taken (base names) name :=
  ⟨fun h => h ▸ fresh_isFirstFree taken names, (fresh_isFirstFree taken names).unique⟩

end Unbundled.Proofs.Freshness
