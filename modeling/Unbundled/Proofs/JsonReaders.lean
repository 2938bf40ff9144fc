import Mathlib.Data.List.DropRight
import Unbundled.Json.Record

namespace Unbundled.Proofs.JsonReaders

open Json Json.Reader

variable {α β : Type}

/-- From `s`, the reader gives `a` and stops in front of `rest`. How many bytes lie behind it then
matters for faults only. -/
def Yields (r : Reader α) (s : Input) (a : α) (rest : List Char) : Prop := ∃ o, r s = .ok a ⟨rest, o⟩

def trimmed (cs : List Char) : List Char := cs.dropWhile isBlank

@[simp] theorem trimmed_trimmed (cs : List Char) : trimmed (trimmed cs) = trimmed cs :=
  List.dropWhile_idempotent _ _

theorem trimmed_cons {c : Char} {cs : List Char} (h : isBlank c = false) : trimmed (c :: cs) = c :: cs :=
  List.dropWhile_cons_of_neg (by simp [h])

theorem length_trimmed_le (cs : List Char) : (trimmed cs).length ≤ cs.length :=
  (List.dropWhile_suffix _).length_le

theorem length_lt_of_trimmed {c : Char} {cs rest : List Char} (h : trimmed cs = c :: rest) :
    rest.length < cs.length := by
  have hlength := length_trimmed_le cs
  rwa [h] at hlength

theorem drop_length_takeWhile (p : Char → Bool) (cs : List Char) :
    cs.drop (cs.takeWhile p).length = cs.dropWhile p := by
  induction cs with
  | nil => rfl
  | cons c cs ih =>
      by_cases h : p c = true
      · simpa [h] using ih
      · simp [h]

theorem rest_blanks (s : Input) : (blanks s).rest = trimmed s.rest :=
  drop_length_takeWhile isBlank s.rest

theorem bind_of_ok {r : Reader α} {s s' : Input} {a : α} (h : r s = .ok a s') (f : α → Reader β) :
    (r >>= f) s = f a s' := by
  simp only [bind, EStateM.bind, h]

theorem ok_of_bind {r : Reader α} {f : α → Reader β} {s s'' : Input} {b : β}
    (h : (r >>= f) s = .ok b s'') : ∃ a s', r s = .ok a s' ∧ f a s' = .ok b s'' := by
  cases hr : r s with
  | ok a s' => exact ⟨a, s', rfl, bind_of_ok hr f ▸ h⟩
  | error fault s' => simp only [bind, EStateM.bind, hr, reduceCtorEq] at h

inductive Separated : Bool → List Char → List Char → Prop
  | first (cs) : Separated true cs cs
  | comma {cs t} (h : trimmed cs = ',' :: t) : Separated false cs t

variable {s : Input} {a : α} {b : β} {cs rest : List Char} {o : Nat} {f : α → Reader β}

@[simp] theorem yields_pure {a' : α} : Yields (pure a) s a' rest ↔ a' = a ∧ s.rest = rest := by
  constructor
  · rintro ⟨o, h⟩
    cases h
    exact ⟨rfl, rfl⟩
  · rintro ⟨rfl, rfl⟩
    exact ⟨s.offset, rfl⟩

@[simp] theorem yields_fail {cause : Cause} : ¬Yields (fail cause) s a rest := by
  rintro ⟨o, h⟩
  cases h

@[simp] theorem yields_failNext {cause : Cause} : ¬Yields (failNext cause) s a rest := by
  rintro ⟨o, h⟩
  cases h

@[simp] theorem yields_fail_bind {cause : Cause} : ¬Yields (fail cause >>= f) s b rest := by
  rintro ⟨o, h⟩
  cases h

@[simp] theorem yields_failNext_bind {cause : Cause} : ¬Yields (failNext cause >>= f) s b rest := by
  rintro ⟨o, h⟩
  cases h

/-- One reader behind another. What the second one yields must not depend on the bytes behind it. -/
theorem yields_bind {r : Reader α} {Q : α → List Char → Prop}
    (hQ : ∀ a t o, Yields r s a t → (Yields (f a) ⟨t, o⟩ b rest ↔ Q a t)) :
    Yields (r >>= f) s b rest ↔ ∃ a t, Yields r s a t ∧ Q a t := by
  constructor
  · rintro ⟨o, h⟩
    obtain ⟨a, ⟨t, o'⟩, hr, hf⟩ := ok_of_bind h
    exact ⟨a, t, ⟨o', hr⟩, (hQ a t o' ⟨o', hr⟩).mp ⟨o, hf⟩⟩
  · rintro ⟨a, t, ⟨o', hr⟩, h⟩
    obtain ⟨o, hf⟩ := (hQ a t o' ⟨o', hr⟩).mpr h
    exact ⟨o, (bind_of_ok hr f).trans hf⟩

theorem yields_then {r : Reader Unit} {f : Unit → Reader β} {Q : List Char → Prop}
    (hQ : ∀ t o, Yields r s () t → (Yields (f ()) ⟨t, o⟩ b rest ↔ Q t)) :
    Yields (r >>= f) s b rest ↔ ∃ t, Yields r s () t ∧ Q t := by
  rw [yields_bind fun _ t o => hQ t o]
  exact ⟨fun ⟨_, h⟩ => h, fun h => ⟨(), h⟩⟩

theorem not_yields_bind_of_left {r : Reader α} (h : ∀ a t, ¬Yields r s a t) :
    ¬Yields (r >>= f) s b rest := by
  rintro ⟨o, hrun⟩
  obtain ⟨a, ⟨t, o'⟩, hr, -⟩ := ok_of_bind hrun
  exact h a t ⟨o', hr⟩

theorem not_yields_bind_of_right {r : Reader α} (h : ∀ a t o, ¬Yields (f a) ⟨t, o⟩ b rest) :
    ¬Yields (r >>= f) s b rest := by
  rw [yields_bind fun a t o _ => iff_false_intro (h a t o)]
  simp

@[simp] theorem yields_peek_bind {f : Option Char → Reader β} :
    Yields (peek >>= f) s b rest ↔ Yields (f s.rest.head?) s b rest := Iff.rfl

@[simp] theorem yields_skip_bind {c : Char} {f : Unit → Reader β} :
    Yields (skip >>= f) ⟨c :: cs, o⟩ b rest ↔ Yields (f ()) ⟨cs, o + c.utf8Size⟩ b rest := Iff.rfl

theorem yields_turns_bind {f : Nat → Reader β} :
    Yields (turns >>= f) ⟨cs, o⟩ b rest ↔ Yields (f (cs.length + 1)) ⟨cs, o⟩ b rest := Iff.rfl

@[simp] theorem yields_skip {c : Char} : Yields skip ⟨c :: cs, o⟩ () rest ↔ cs = rest := by
  constructor
  · rintro ⟨o, h⟩
    cases h
    rfl
  · rintro rfl
    exact ⟨_, rfl⟩

@[simp] theorem yields_next_bind_nil {f : Option Char → Reader β} :
    Yields (next >>= f) ⟨[], o⟩ b rest ↔ Yields (f none) ⟨[], o⟩ b rest := Iff.rfl

@[simp] theorem yields_next_bind_cons {c : Char} {f : Option Char → Reader β} :
    Yields (next >>= f) ⟨c :: cs, o⟩ b rest ↔ Yields (f (some c)) ⟨cs, o + c.utf8Size⟩ b rest :=
  Iff.rfl

theorem yields_peekToken_bind {f : Option Char → Reader β} {P : Prop}
    (h : ∀ o, Yields (f (trimmed cs).head?) ⟨trimmed cs, o⟩ b rest ↔ P) :
    Yields (peekToken >>= f) ⟨cs, o⟩ b rest ↔ P := by
  have hrest := rest_blanks ⟨cs, o⟩
  have hrun : Yields (peekToken >>= f) ⟨cs, o⟩ b rest ↔
      Yields (f (blanks ⟨cs, o⟩).rest.head?) (blanks ⟨cs, o⟩) b rest := Iff.rfl
  rw [hrun]
  generalize blanks ⟨cs, o⟩ = s at hrest ⊢
  obtain ⟨t, o'⟩ := s
  obtain rfl : t = trimmed cs := hrest
  exact h o'

theorem yields_digits_bind {f : List Char → Reader β} {P : Prop}
    (h : ∀ o, Yields (f (cs.takeWhile Char.isDigit)) ⟨cs.dropWhile Char.isDigit, o⟩ b rest ↔ P) :
    Yields (digits >>= f) ⟨cs, o⟩ b rest ↔ P := by
  have hrun : Yields (digits >>= f) ⟨cs, o⟩ b rest ↔
      Yields (f (cs.takeWhile Char.isDigit))
        ⟨cs.drop (cs.takeWhile Char.isDigit).length, o + (cs.takeWhile Char.isDigit).length⟩
        b rest := Iff.rfl
  rw [hrun, drop_length_takeWhile]
  exact h _

theorem yields_word {ws : List Char} : Yields (word ws) ⟨cs, o⟩ () rest ↔ cs = ws ++ rest := by
  induction ws generalizing cs o with
  | nil => simp [word]
  | cons w ws ih =>
      cases cs with
      | nil => simp [word]
      | cons c cs =>
          by_cases hc : c = w
          · simp [word, hc, ih]
          · simp [word, hc]

theorem yields_colon : Yields colon ⟨cs, o⟩ () rest ↔ trimmed cs = ':' :: rest := by
  unfold colon
  refine yields_peekToken_bind fun o => ?_
  cases h : trimmed cs with
  | nil => simp
  | cons c t =>
      by_cases hc : c = ':'
      · subst hc
        simp
      · simp [hc]

theorem separated_true {t : List Char} : Separated true cs t ↔ cs = t := by
  constructor
  · rintro ⟨⟩
    rfl
  · rintro rfl
    exact .first _

theorem separated_false {t : List Char} : Separated false cs t ↔ trimmed cs = ',' :: t := by
  constructor
  · rintro ⟨⟩
    assumption
  · exact .comma

theorem Separated.length_le {first : Bool} {t : List Char} (h : Separated first cs t) :
    t.length ≤ cs.length := by
  cases h with
  | first => exact Nat.le_refl _
  | comma h => exact (length_lt_of_trimmed h).le

theorem yields_moreItems {first more : Bool} :
    Yields (moreItems first) ⟨cs, o⟩ more rest ↔
      (more = false ∧ ∃ t, trimmed cs = ']' :: t ∧ rest = ']' :: t) ∨
        (more = true ∧ ∃ t, Separated first cs t ∧
          ∃ c u, trimmed t = c :: u ∧ c ≠ ']' ∧ rest = c :: u) := by
  unfold moreItems
  refine yields_peekToken_bind fun o => ?_
  cases h : trimmed cs with
  | nil => cases first <;> simp [h, separated_true, separated_false]
  | cons c t =>
      by_cases hclosing : c = ']'
      · cases first <;> simp [h, separated_true, separated_false, hclosing] <;> grind
      · cases first with
        | true =>
            simp [h, separated_true, hclosing]
            grind
        | false =>
            by_cases hcomma : c = ','
            · subst hcomma
              simp only [List.head?_cons, Bool.false_eq_true, if_false, ne_eq, not_true,
                yields_skip_bind, separated_false, h]
              refine yields_peekToken_bind fun o => ?_
              cases ht : trimmed t with
              | nil => simp [ht]
              | cons d u =>
                  by_cases hd : d = ']' <;> simp [ht, hd]
                  grind
            · simp [h, separated_false, hclosing, hcomma]

theorem yields_moreMembers {first more : Bool} :
    Yields (moreMembers first) ⟨cs, o⟩ more rest ↔
      (more = false ∧ ∃ t, trimmed cs = '\x7d' :: t ∧ rest = '\x7d' :: t) ∨
        (more = true ∧ ∃ t, Separated first cs t ∧
          ∃ u, trimmed t = '"' :: u ∧ rest = '"' :: u) := by
  unfold moreMembers
  refine yields_peekToken_bind fun o => ?_
  cases h : trimmed cs with
  | nil => cases first <;> simp [h, separated_true, separated_false]
  | cons c t =>
      by_cases hclosing : c = '\x7d'
      · cases first <;> simp [h, separated_true, separated_false, hclosing] <;> grind
      · cases first with
        | true =>
            by_cases hquote : c = '"' <;> simp [h, separated_true, hclosing, hquote]
            grind
        | false =>
            by_cases hcomma : c = ','
            · subst hcomma
              simp only [List.head?_cons, Bool.false_eq_true, if_false, ne_eq, not_true,
                yields_skip_bind, separated_false, h]
              refine yields_peekToken_bind fun o => ?_
              cases ht : trimmed t with
              | nil => simp [ht]
              | cons d u =>
                  by_cases hquote : d = '"'
                  · simp [ht, hquote]
                    grind
                  · by_cases hd : d = '\x7d' <;> simp [ht, hquote, hd]
            · simp [h, separated_false, hclosing, hcomma]

theorem yields_if_moreItems {first : Bool} {more done : Reader β} {P : List Char → Prop}
    {Q : List Char → Prop}
    (hmore : ∀ c u o, u.length < cs.length → c ≠ ']' →
      (Yields more ⟨c :: u, o⟩ b rest ↔ P (c :: u)))
    (hdone : ∀ t o, Yields done ⟨']' :: t, o⟩ b rest ↔ Q t) :
    Yields (do if ← moreItems first then more else done) ⟨cs, o⟩ b rest ↔
      (∃ t, trimmed cs = ']' :: t ∧ Q t) ∨
        ∃ t, Separated first cs t ∧ ∃ c u, trimmed t = c :: u ∧ c ≠ ']' ∧ P (c :: u) := by
  rw [yields_bind (Q := fun isMore u => (isMore = false ∧ ∃ t, u = ']' :: t ∧ Q t) ∨
    (isMore = true ∧ P u)) fun isMore u o h => ?_]
  · simp only [yields_moreItems]
    constructor
    · rintro ⟨_, _, ⟨rfl, t, ht, rfl⟩ | ⟨rfl, t, hsep, c, u, ht, hc, rfl⟩, hrest⟩
      · exact .inl ⟨t, ht, by simpa using hrest⟩
      · exact .inr ⟨t, hsep, c, u, ht, hc, by simpa using hrest⟩
    · rintro (⟨t, ht, hQ⟩ | ⟨t, hsep, c, u, ht, hc, hP⟩)
      · exact ⟨_, _, .inl ⟨rfl, t, ht, rfl⟩, .inl ⟨rfl, t, rfl, hQ⟩⟩
      · exact ⟨_, _, .inr ⟨rfl, t, hsep, c, u, ht, hc, rfl⟩, .inr ⟨rfl, hP⟩⟩
  · obtain ⟨rfl, t, -, rfl⟩ | ⟨rfl, t, hsep, c, u, ht, hc, rfl⟩ := yields_moreItems.mp h
    · simp [hdone]
    · have hlength := (length_lt_of_trimmed ht).trans_le hsep.length_le
      simp [hmore c u o hlength hc]

theorem yields_if_moreMembers {first : Bool} {more done : Reader β} {P Q : List Char → Prop}
    (hmore : ∀ u o, u.length < cs.length → (Yields more ⟨'"' :: u, o⟩ b rest ↔ P u))
    (hdone : ∀ t o, Yields done ⟨'\x7d' :: t, o⟩ b rest ↔ Q t) :
    Yields (do if ← moreMembers first then more else done) ⟨cs, o⟩ b rest ↔
      (∃ t, trimmed cs = '\x7d' :: t ∧ Q t) ∨
        ∃ t, Separated first cs t ∧ ∃ u, trimmed t = '"' :: u ∧ P u := by
  rw [yields_bind (Q := fun isMore u => (isMore = false ∧ ∃ t, u = '\x7d' :: t ∧ Q t) ∨
    (isMore = true ∧ ∃ t, u = '"' :: t ∧ P t)) fun isMore u o h => ?_]
  · simp only [yields_moreMembers]
    constructor
    · rintro ⟨_, _, ⟨rfl, t, ht, rfl⟩ | ⟨rfl, t, hsep, u, ht, rfl⟩, hrest⟩
      · exact .inl ⟨t, ht, by simpa using hrest⟩
      · exact .inr ⟨t, hsep, u, ht, by simpa using hrest⟩
    · rintro (⟨t, ht, hQ⟩ | ⟨t, hsep, u, ht, hP⟩)
      · exact ⟨_, _, .inl ⟨rfl, t, ht, rfl⟩, .inl ⟨rfl, t, rfl, hQ⟩⟩
      · exact ⟨_, _, .inr ⟨rfl, t, hsep, u, ht, rfl⟩, .inr ⟨rfl, u, rfl, hP⟩⟩
  · obtain ⟨rfl, t, -, rfl⟩ | ⟨rfl, t, hsep, u, ht, rfl⟩ := yields_moreMembers.mp h
    · simp [hdone]
    · have hlength := (length_lt_of_trimmed ht).trans_le hsep.length_le
      simp [hmore u o hlength]

theorem yields_endList : Yields endList ⟨cs, o⟩ () rest ↔ trimmed cs = ']' :: rest := by
  unfold endList
  refine yields_peekToken_bind fun o => ?_
  cases h : trimmed cs with
  | nil => simp
  | cons c t =>
      by_cases hclosing : c = ']'
      · simp [hclosing]
      · by_cases hcomma : c = ','
        · subst hcomma
          simp only [List.head?_cons, yields_skip_bind]
          refine yields_peekToken_bind fun o => ?_
          split <;> simp
        · simp [hclosing]

theorem yields_endObject : Yields endObject ⟨cs, o⟩ () rest ↔ trimmed cs = '\x7d' :: rest := by
  unfold endObject
  refine yields_peekToken_bind fun o => ?_
  cases h : trimmed cs with
  | nil => simp
  | cons c t =>
      by_cases hclosing : c = '\x7d'
      · simp [hclosing]
      · by_cases hcomma : c = ',' <;> simp [hclosing, hcomma]

theorem yields_finish : Yields finish ⟨cs, o⟩ () rest ↔ trimmed cs = [] ∧ rest = [] := by
  unfold finish
  refine yields_peekToken_bind fun o => ?_
  cases h : trimmed cs with
  | nil => simp [eq_comm]
  | cons c t => simp

theorem run_eq_ok {r : Reader α} {text : String} :
    run r text = .ok a ↔ ∃ t, Yields r ⟨text.toList, 0⟩ a t ∧ trimmed t = [] := by
  have hrun : run r text = .ok a ↔
      ∃ t, Yields (do let a ← r; finish; return a) ⟨text.toList, 0⟩ a t := by
    unfold run Yields
    split
    · rename_i b s hread
      rw [hread]
      constructor
      · rintro ⟨⟩
        exact ⟨s.rest, s.offset, rfl⟩
      · rintro ⟨t, o, h⟩
        cases h
        rfl
    · rename_i fault s hread
      simp only [hread, reduceCtorEq, exists_false]
  have hfinish (b : α) (t u : List Char) (o : Nat) :
      Yields (do finish; return b) ⟨t, o⟩ a u ↔ trimmed t = [] ∧ u = [] ∧ a = b := by
    rw [yields_then (Q := fun v => a = b ∧ v = u) fun v o _ => yields_pure]
    simp only [yields_finish]
    grind
  have hread (u : List Char) : Yields (do let a ← r; finish; return a) ⟨text.toList, 0⟩ a u ↔ _ :=
    yields_bind fun b t o _ => hfinish b t u o
  rw [hrun]
  simp only [hread]
  grind

end Unbundled.Proofs.JsonReaders
