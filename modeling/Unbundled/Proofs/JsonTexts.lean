import Mathlib.Data.List.Nodup
import Mathlib.Data.String.Basic
import Unbundled.Proofs.JsonGrammar

namespace Unbundled.Proofs.JsonTexts

open Json Json.Reader JsonReaders JsonGrammar

/-! ## Values and their texts -/

def Ascending (ms : List (String × Json)) : Prop := (ms.map Prod.fst).Pairwise (· < ·)

/-- A value whose numbers are integers that a double holds exactly. As in every value, the names of an
object are in ascending order. -/
inductive IsPlain : Json → Prop
  | null : IsPlain .null
  | bool (b) : IsPlain (.bool b)
  | int {i : Int} (h : i.natAbs < 2 ^ 53) : IsPlain (.num (.int i))
  | str (s) : IsPlain (.str s)
  | arr {vs} (h : ∀ v ∈ vs, IsPlain v) : IsPlain (.arr vs)
  | obj {ms} (hnames : Ascending ms) (h : ∀ m ∈ ms, IsPlain m.2) : IsPlain (.obj ms)

/-- A value in which at most `n` lists and objects are open at once. -/
inductive Within : Nat → Json → Prop
  | null (n) : Within n .null
  | bool (n b) : Within n (.bool b)
  | num (n i) : Within n (.num i)
  | str (n s) : Within n (.str s)
  | arr {n vs} (h : ∀ v ∈ vs, Within n v) : Within (n + 1) (.arr vs)
  | obj {n ms} (h : ∀ m ∈ ms, Within n m.2) : Within (n + 1) (.obj ms)

def numberText : Json.Number → List Char
  | .int i => if i < 0 then '-' :: Nat.toDigits 10 i.natAbs else Nat.toDigits 10 i.natAbs
  | .float d => d.compact.toList

def comma (first : Bool) : List Char := if first then [] else [',']

mutual

def compact : Json → List Char
  | .null => ['n', 'u', 'l', 'l']
  | .bool b => if b then ['t', 'r', 'u', 'e'] else ['f', 'a', 'l', 's', 'e']
  | .num n => numberText n
  | .str s => (quote s).toList
  | .arr vs => '[' :: (compactItems true vs ++ [']'])
  | .obj ms => '\x7b' :: (compactMembers true ms ++ ['\x7d'])
termination_by structural v => v

def compactItems (first : Bool) : List Json → List Char
  | [] => []
  | v :: vs => comma first ++ (compact v ++ compactItems false vs)
termination_by structural vs => vs

def compactMembers (first : Bool) : List (String × Json) → List Char
  | [] => []
  | (name, v) :: ms =>
    comma first ++ ((quote name).toList ++ ':' :: (compact v ++ compactMembers false ms))
termination_by structural ms => ms

end

/-! ## Members in order -/

variable {name : String} {v : Json} {ms ms' acc : List (String × Json)}

theorem put_perm (hnew : name ∉ ms.map Prod.fst) : (put name v ms).Perm ((name, v) :: ms) := by
  induction ms with
  | nil => exact .refl _
  | cons m ms ih =>
      obtain ⟨n, w⟩ := m
      simp only [List.map_cons, List.mem_cons, not_or] at hnew
      rw [put, if_neg hnew.1]
      split
      · exact .refl _
      · exact ((ih hnew.2).cons _).trans (.swap ..)

theorem Ascending.put (h : Ascending ms) (hnew : name ∉ ms.map Prod.fst) :
    Ascending (Json.put name v ms) := by
  induction ms with
  | nil => exact List.pairwise_singleton _ _
  | cons m ms ih =>
      obtain ⟨n, w⟩ := m
      obtain ⟨hfirst, hrest⟩ := List.pairwise_cons.mp h
      simp only [List.map_cons, List.mem_cons, not_or] at hnew
      rw [Json.put, if_neg hnew.1]
      split
      · rename_i hlt
        refine List.pairwise_cons.mpr ⟨fun n' hn' => ?_, h⟩
        obtain rfl | hn' := List.mem_cons.mp hn'
        · exact hlt
        · exact hlt.trans (hfirst n' hn')
      · rename_i hge
        refine List.pairwise_cons.mpr ⟨fun n' hn' => ?_, ih hrest hnew.2⟩
        obtain rfl | hn' := List.mem_cons.mp (((put_perm hnew.2).map Prod.fst).mem_iff.mp hn')
        · exact (not_lt.mp hge).lt_of_ne (Ne.symm hnew.1)
        · exact hfirst n' hn'

def putAll (acc ms : List (String × Json)) : List (String × Json) :=
  ms.foldl (fun acc m => put m.1 m.2 acc) acc

theorem putAll_perm (hacc : Ascending acc) (hnew : ((acc ++ ms).map Prod.fst).Nodup) :
    Ascending (putAll acc ms) ∧ (putAll acc ms).Perm (acc ++ ms) := by
  induction ms generalizing acc with
  | nil => exact ⟨hacc, by simp [putAll]⟩
  | cons m ms ih =>
      have hmiddle : (acc ++ m :: ms).Perm (m :: acc ++ ms) := List.perm_middle
      have hnodup := ((hmiddle.map Prod.fst).nodup_iff).mp hnew
      have hname : m.1 ∉ acc.map Prod.fst := fun h =>
        (List.nodup_cons.mp hnodup).1 (by simpa using .inl (by simpa using h))
      have hput := put_perm (v := m.2) hname
      obtain ⟨hascending, hperm⟩ := ih (hacc.put hname)
        ((((hput.append_right ms).map Prod.fst).nodup_iff).mpr hnodup)
      exact ⟨hascending, hperm.trans ((hput.append_right ms).trans hmiddle.symm)⟩

/-- Members that are set in any order end up in the order of their names. -/
theorem putAll_of_perm (hperm : ms'.Perm ms) (hms : Ascending ms) : putAll [] ms' = ms := by
  have hnodup : (([] ++ ms').map Prod.fst).Nodup := by
    rw [List.nil_append, (hperm.map Prod.fst).nodup_iff]
    exact hms.imp fun h => h.ne
  have hnil : Ascending [] := List.Pairwise.nil
  obtain ⟨hascending, h⟩ := putAll_perm hnil hnodup
  refine (h.trans hperm).eq_of_pairwise (fun a b _ _ hab hba => ?_)
    (List.pairwise_map.mp hascending) (List.pairwise_map.mp hms)
  exact absurd hba (not_lt_of_gt hab)

/-! ## Strings -/

variable {cs t rest : List Char} {o : Nat}

def shortEscapes : List (Char × Char) :=
  [('"', '"'), ('\\', '\\'), ('\x08', 'b'), ('\x0c', 'f'), ('\n', 'n'), ('\r', 'r'), ('\t', 't')]

inductive Escaped : Char → List Char → Prop
  | short {c e} (h : (c, e) ∈ shortEscapes) : Escaped c ['\\', e]
  | unicode {c} (hc : c.toNat < 32) : Escaped c ('\\' :: 'u' :: hex4 c.toNat)
  | plain {c} (hc : 32 ≤ c.toNat) (hquote : c ≠ '"') (hescape : c ≠ '\\') : Escaped c [c]

theorem escapeChar_escaped (c : Char) : Escaped c (escapeChar c) := by
  unfold escapeChar
  split
  case h_8 hquote hescape _ _ _ _ _ =>
    split
    · rename_i hc
      exact .unicode hc
    · rename_i hc
      exact .plain (Nat.not_lt.mp hc) hquote hescape
  all_goals exact .short (by decide)

theorem hex4?_digitChar : ∀ n < 32, hex4? (n / 4096 % 16).digitChar (n / 256 % 16).digitChar
    (n / 16 % 16).digitChar (n % 16).digitChar = some n := by
  decide

theorem spells_escapeChar (c : Char) (h : Spells t cs rest) :
    Spells (c :: t) (escapeChar c ++ cs) rest := by
  have hshort : ∀ e ∈ shortEscapes, simpleEscape? e.2 = some e.1 := by decide
  have hescaped := escapeChar_escaped c
  generalize escapeChar c = written at hescaped ⊢
  cases hescaped with
  | short he => exact .escape (hshort _ he) h
  | unicode hc =>
      have hhigh : isHighHalf c.toNat = false := by
        simp only [isHighHalf, Bool.and_eq_false_iff, decide_eq_false_iff_not]
        omega
      have hlow : isLowHalf c.toNat = false := by
        simp only [isLowHalf, Bool.and_eq_false_iff, decide_eq_false_iff_not]
        omega
      have hspells := Spells.unicode (hex4?_digitChar c.toNat hc) hhigh hlow h
      rwa [Char.ofNat_toNat] at hspells
  | plain hc hquote hescape => exact .plain hc hquote hescape h

theorem spells_text (s : List Char) : Spells s (s.flatMap escapeChar ++ '"' :: rest) rest := by
  induction s with
  | nil => exact .close
  | cons c s ih =>
      rw [List.flatMap_cons, List.append_assoc]
      exact spells_escapeChar c ih

theorem toList_quote_append (s : String) (rest : List Char) :
    (quote s).toList ++ rest = '"' :: (s.toList.flatMap escapeChar ++ '"' :: rest) := by
  simp [quote]

/-! ## Numbers -/

def EndsNumber (rest : List Char) : Prop :=
  ∀ c ∈ rest.head?, c.isDigit = false ∧ c ≠ '.' ∧ c ≠ 'e' ∧ c ≠ 'E'

theorem le_ofDigitChars (n : Nat) (ds : List Char) : n ≤ Nat.ofDigitChars 10 ds n := by
  induction ds generalizing n with
  | nil => exact Nat.le_refl _
  | cons d ds ih =>
      have h := ih (10 * n + (d.toNat - '0'.toNat))
      rw [Nat.ofDigitChars_cons]
      omega

theorem appendDigits_eq {n : Nat} {ds : List Char} (h : Nat.ofDigitChars 10 ds n ≤ maxInteger) :
    appendDigits n ds = (Nat.ofDigitChars 10 ds n, []) := by
  induction ds generalizing n with
  | nil => rfl
  | cons d ds ih =>
      have hdigit : n * 10 + (d.toNat - 48) = 10 * n + (d.toNat - '0'.toNat) := by
        rw [Nat.mul_comm]
        rfl
      rw [Nat.ofDigitChars_cons] at h ⊢
      have hle := (le_ofDigitChars _ ds).trans h
      rw [appendDigits, hdigit, if_pos hle, ih h]

theorem head?_toDigits {n : Nat} (h : n ≠ 0) : (Nat.toDigits 10 n).head? ≠ some '0' := by
  induction n using Nat.strong_induction_on with
  | h n ih =>
      rw [Nat.toDigits_eq_if (by decide)]
      split
      · rename_i hn
        have hdigit : ∀ n < 10, n ≠ 0 → n.digitChar ≠ '0' := by decide
        simpa using hdigit n hn h
      · rw [List.head?_append_of_ne_nil _ Nat.toDigits_ne_nil]
        exact ih (n / 10) (by omega) (by omega)

theorem toDigits_eq_cons (n : Nat) : ∃ d ds, Nat.toDigits 10 n = d :: ds ∧ d.isDigit = true := by
  cases htext : Nat.toDigits 10 n with
  | nil => exact absurd htext Nat.toDigits_ne_nil
  | cons d ds =>
      have hd : d ∈ Nat.toDigits 10 n := htext ▸ List.mem_cons_self
      exact ⟨d, ds, rfl, Nat.isDigit_of_mem_toDigits (by decide) (Nat.le_refl _) hd⟩

theorem isBlank_of_isDigit {c : Char} (h : c.isDigit = true) : isBlank c = false := by
  simp only [isBlank, Bool.or_eq_false_iff, beq_eq_false_iff_ne]
  refine ⟨⟨⟨?_, ?_⟩, ?_⟩, ?_⟩ <;> rintro rfl <;> cases h

def afterWhole (negative : Bool) (ds : List Char) : Reader Json.Number := do
  let (n, left) := appendDigits 0 ds
  match ← peek with
  | some '.' => fraction negative n left.length
  | some 'e' | some 'E' => exponent negative n left.length
  | _ =>
    if !left.isEmpty then float negative n left.length
    else if !negative then return .int n
    else if n = 0 ∨ n > 0x8000000000000000 then float true n 0
    else return .int (-n)

theorem number_eq (negative : Bool) : number negative = (do
    match ← peek with
    | none => fail .eofInValue
    | some c =>
      unless c.isDigit do
        skip
        fail .number
      let ds ← if c = '0' then do skip; pure ['0'] else digits
      if c = '0' then
        if let some d ← peek then
          if d.isDigit then failNext .number
      afterWhole negative ds) := rfl

theorem yields_afterWhole {negative : Bool} {ds : List Char} (hsize : Nat.ofDigitChars 10 ds 0 < 2 ^ 53)
    (hsign : negative = true → Nat.ofDigitChars 10 ds 0 ≠ 0) (hrest : EndsNumber rest) :
    Yields (afterWhole negative ds) ⟨rest, o⟩
      (.int (if negative then -Nat.ofDigitChars 10 ds 0 else Nat.ofDigitChars 10 ds 0)) rest := by
  unfold afterWhole
  rw [appendDigits_eq (hsize.le.trans (by decide))]
  generalize Nat.ofDigitChars 10 ds 0 = n at *
  rw [yields_peek_bind]
  split
  · rename_i hpoint
    exact absurd rfl (hrest _ hpoint).2.1
  · rename_i he
    exact absurd rfl (hrest _ he).2.2.1
  · rename_i he
    exact absurd rfl (hrest _ he).2.2.2
  · cases negative with
    | false => simp
    | true =>
        have hrange : ¬(n = 0 ∨ n > 0x8000000000000000) := by
          have hpos := hsign rfl
          omega
        simp [hrange]

theorem EndsNumber.span (h : EndsNumber rest) :
    rest.takeWhile Char.isDigit = [] ∧ rest.dropWhile Char.isDigit = rest := by
  cases rest with
  | nil => exact ⟨rfl, rfl⟩
  | cons c rest =>
      have hc := (h c rfl).1
      exact ⟨List.takeWhile_cons_of_neg (by simp [hc]), List.dropWhile_cons_of_neg (by simp [hc])⟩

theorem yields_number {negative : Bool} {n : Nat} (hsize : n < 2 ^ 53) (hsign : negative = true → n ≠ 0)
    (hrest : EndsNumber rest) :
    Yields (number negative) ⟨Nat.toDigits 10 n ++ rest, o⟩ (.int (if negative then -n else n)) rest := by
  have hvalue : Nat.ofDigitChars 10 (Nat.toDigits 10 n) 0 = n := Nat.ofDigitChars_ten_toDigits
  have hdigits (d : Char) (hd : d ∈ Nat.toDigits 10 n) : d.isDigit = true :=
    Nat.isDigit_of_mem_toDigits (by decide) (Nat.le_refl _) hd
  have hafter {o : Nat} : Yields (afterWhole negative (Nat.toDigits 10 n)) ⟨rest, o⟩
      (.int (if negative then -n else n)) rest := by
    have h := yields_afterWhole (o := o) (hvalue.symm ▸ hsize) (hvalue.symm ▸ hsign) hrest
    rwa [hvalue] at h
  generalize (if negative then -n else n : Int) = i at hafter ⊢
  rw [number_eq, yields_peek_bind]
  -- A zero has to stand alone, so the reader takes it for a number of its own.
  by_cases hzero : n = 0
  · subst hzero
    have htext : Nat.toDigits 10 0 = ['0'] := rfl
    rw [htext] at hafter ⊢
    cases rest with
    | nil => simp [hafter]
    | cons c rest =>
      have hc := (hrest c rfl).1
      simp [hc, hafter]
  · have hfirst := head?_toDigits hzero
    cases htext : Nat.toDigits 10 n with
    | nil => exact absurd htext Nat.toDigits_ne_nil
    | cons d ds =>
        rw [htext] at hafter hfirst hdigits
        have hd : d ≠ '0' := by simpa using hfirst
        have hdigit := hdigits d List.mem_cons_self
        have hread := @List.takeWhile_append_of_pos _ _ _ rest hdigits
        have hleft := @List.dropWhile_append_of_pos _ _ _ rest hdigits
        rw [hrest.span.1, List.append_nil] at hread
        rw [hrest.span.2] at hleft
        simp only [List.cons_append, List.head?_cons, hdigit, hd, if_true, if_false]
        rw [List.cons_append] at hread hleft
        refine (yields_digits_bind (P := True) fun o => iff_true_intro ?_).mpr trivial
        simp [hread, hleft, hafter]

/-! ## Lists and objects -/

variable {α β : Type} {inner : Option (Reader Json)} {vs : List Json}

theorem yields_bind_of_yields {r : Reader α} {f : α → Reader β} {s : Input} {a : α} {b : β}
    (h : Yields r s a t) (hf : ∀ o, Yields (f a) ⟨t, o⟩ b rest) : Yields (r >>= f) s b rest := by
  obtain ⟨o, h⟩ := h
  obtain ⟨o', hf⟩ := hf o
  exact ⟨o', (bind_of_ok h f).trans hf⟩

theorem endsNumber_cons {c : Char} (h : c = ',' ∨ c = ']' ∨ c = '\x7d') : EndsNumber (c :: cs) := by
  intro c' hc'
  obtain rfl : c = c' := by simpa using hc'
  obtain rfl | rfl | rfl := h <;> decide

theorem endsNumber_compactItems : EndsNumber (compactItems false vs ++ ']' :: rest) := by
  cases vs with
  | nil => exact endsNumber_cons (.inr (.inl rfl))
  | cons v vs => exact endsNumber_cons (.inl rfl)

theorem endsNumber_compactMembers : EndsNumber (compactMembers false ms ++ '\x7d' :: rest) := by
  cases ms with
  | nil => exact endsNumber_cons (.inr (.inr rfl))
  | cons m ms => exact endsNumber_cons (.inl rfl)

theorem compact_eq_cons (h : IsPlain v) :
    ∃ c cs, compact v = c :: cs ∧ isBlank c = false ∧ c ≠ ']' := by
  cases h with
  | null => exact ⟨_, _, rfl, by decide, by decide⟩
  | bool b => cases b <;> exact ⟨_, _, rfl, by decide, by decide⟩
  | @int i h =>
      obtain ⟨d, ds, htext, hd⟩ := toDigits_eq_cons i.natAbs
      rw [compact, numberText]
      split
      · exact ⟨_, _, rfl, by decide, by decide⟩
      · exact ⟨d, ds, htext, isBlank_of_isDigit hd, by rintro rfl; cases hd⟩
  | str s =>
      have htext := toList_quote_append s []
      rw [List.append_nil] at htext
      exact ⟨_, _, htext, by decide, by decide⟩
  | arr h => exact ⟨_, _, rfl, by decide, by decide⟩
  | obj hnames h => exact ⟨_, _, rfl, by decide, by decide⟩

theorem separated_comma {first : Bool} :
    Separated first (comma first ++ t) t := by
  cases first with
  | true => exact .first _
  | false => exact .comma (trimmed_cons rfl)

theorem length_le_compactItems (first : Bool) (h : ∀ v ∈ vs, IsPlain v) :
    vs.length ≤ (compactItems first vs).length := by
  induction vs generalizing first with
  | nil => exact Nat.le_refl _
  | cons v vs ih =>
      have hrest := ih false fun w hw => h w (List.mem_cons_of_mem _ hw)
      obtain ⟨c, cs, htext, -, -⟩ := compact_eq_cons (h v List.mem_cons_self)
      simp only [compactItems, htext, List.length_append, List.length_cons]
      omega

theorem length_le_compactMembers (first : Bool) (ms : List (String × Json)) :
    ms.length ≤ (compactMembers first ms).length := by
  induction ms generalizing first with
  | nil => exact Nat.le_refl _
  | cons m ms ih =>
      have hrest := ih false
      simp only [compactMembers, List.length_append, List.length_cons]
      omega

def Reads (item : Reader Json) (v : Json) : Prop :=
  ∀ rest o, EndsNumber rest → Yields item ⟨compact v ++ rest, o⟩ v rest

variable {item : Reader Json} {fuel : Nat} {first : Bool}

theorem yields_itemsFrom (hplain : ∀ v ∈ vs, IsPlain v) (hreads : ∀ v ∈ vs, Reads item v)
    (hfuel : vs.length < fuel) :
    Yields (itemsFrom item fuel first) ⟨compactItems first vs ++ ']' :: rest, o⟩ vs (']' :: rest) := by
  induction vs generalizing fuel first o with
  | nil =>
      obtain ⟨fuel, rfl⟩ := Nat.exists_eq_add_one_of_ne_zero (Nat.ne_zero_of_lt hfuel)
      refine yields_bind_of_yields (yields_moreItems.mpr (.inl ⟨rfl, rest, rfl, rfl⟩)) fun o => ?_
      exact yields_pure.mpr ⟨rfl, rfl⟩
  | cons v vs ih =>
      obtain ⟨fuel, rfl⟩ := Nat.exists_eq_add_one_of_ne_zero (Nat.ne_zero_of_lt hfuel)
      obtain ⟨c, cs, htext, hblank, hc⟩ := compact_eq_cons (hplain v List.mem_cons_self)
      have hmore {o : Nat} : Yields (moreItems first) ⟨compactItems first (v :: vs) ++ ']' :: rest, o⟩
          true (compact v ++ (compactItems false vs ++ ']' :: rest)) := by
        rw [compactItems, List.append_assoc, List.append_assoc, htext]
        exact yields_moreItems.mpr
          (.inr ⟨rfl, _, separated_comma, c, _, trimmed_cons hblank, hc, rfl⟩)
      refine yields_bind_of_yields hmore fun o => ?_
      refine yields_bind_of_yields (hreads v List.mem_cons_self _ o endsNumber_compactItems) fun o => ?_
      refine yields_bind_of_yields (ih (fun w hw => hplain w (List.mem_cons_of_mem _ hw))
        (fun w hw => hreads w (List.mem_cons_of_mem _ hw)) (Nat.lt_of_succ_lt_succ hfuel)) fun o => ?_
      exact yields_pure.mpr ⟨rfl, rfl⟩

theorem yields_membersFrom (hreads : ∀ m ∈ ms, Reads item m.2) (hfuel : ms.length < fuel) :
    Yields (membersFrom item fuel first acc) ⟨compactMembers first ms ++ '\x7d' :: rest, o⟩
      (putAll acc ms) ('\x7d' :: rest) := by
  induction ms generalizing fuel first acc o with
  | nil =>
      obtain ⟨fuel, rfl⟩ := Nat.exists_eq_add_one_of_ne_zero (Nat.ne_zero_of_lt hfuel)
      refine yields_bind_of_yields (yields_moreMembers.mpr (.inl ⟨rfl, rest, rfl, rfl⟩)) fun o => ?_
      exact yields_pure.mpr ⟨rfl, rfl⟩
  | cons m ms ih =>
      obtain ⟨name, v⟩ := m
      obtain ⟨fuel, rfl⟩ := Nat.exists_eq_add_one_of_ne_zero (Nat.ne_zero_of_lt hfuel)
      have hmore {o : Nat} :
          Yields (moreMembers first) ⟨compactMembers first ((name, v) :: ms) ++ '\x7d' :: rest, o⟩ true
            ('"' :: (name.toList.flatMap escapeChar ++
              '"' :: ':' :: (compact v ++ (compactMembers false ms ++ '\x7d' :: rest)))) := by
        rw [compactMembers, List.append_assoc, List.append_assoc, toList_quote_append]
        refine yields_moreMembers.mpr (.inr ⟨rfl, _, separated_comma, _, trimmed_cons rfl, ?_⟩)
        simp
      refine yields_bind_of_yields hmore fun o => yields_skip_bind.mpr ?_
      refine yields_bind_of_yields
        (yields_string.mpr ⟨_, spells_text name.toList, String.ofList_toList.symm⟩) fun o => ?_
      refine yields_bind_of_yields (yields_colon.mpr (trimmed_cons rfl)) fun o => ?_
      refine yields_bind_of_yields
        (hreads (name, v) List.mem_cons_self _ o endsNumber_compactMembers) fun o => ?_
      exact ih (fun m hm => hreads m (List.mem_cons_of_mem _ hm)) (Nat.lt_of_succ_lt_succ hfuel)

/-! ## Values -/

theorem yields_peekToken_cons {f : Option Char → Reader β} {c : Char} {b : β}
    (hblank : isBlank c = false) (h : ∀ o, Yields (f (some c)) ⟨c :: cs, o⟩ b rest) :
    Yields (peekToken >>= f) ⟨c :: cs, o⟩ b rest := by
  refine (yields_peekToken_bind (P := True) fun o => iff_true_intro ?_).mpr trivial
  rw [trimmed_cons hblank]
  exact h o

theorem reads_null : Reads (valueOf inner) .null := fun rest o _ => by
  refine yields_peekToken_cons rfl fun o => yields_skip_bind.mpr ?_
  exact yields_bind_of_yields (yields_word.mpr rfl) fun o => yields_pure.mpr ⟨rfl, rfl⟩

theorem reads_bool (b : Bool) : Reads (valueOf inner) (.bool b) := fun rest o _ => by
  cases b with
  | true =>
      refine yields_peekToken_cons rfl fun o => yields_skip_bind.mpr ?_
      exact yields_bind_of_yields (yields_word.mpr rfl) fun o => yields_pure.mpr ⟨rfl, rfl⟩
  | false =>
      refine yields_peekToken_cons rfl fun o => yields_skip_bind.mpr ?_
      exact yields_bind_of_yields (yields_word.mpr rfl) fun o => yields_pure.mpr ⟨rfl, rfl⟩

theorem reads_str (s : String) : Reads (valueOf inner) (.str s) := fun rest o _ => by
  rw [compact, toList_quote_append]
  refine yields_peekToken_cons rfl fun o => yields_skip_bind.mpr ?_
  refine yields_bind_of_yields
    (yields_string.mpr ⟨_, spells_text s.toList, String.ofList_toList.symm⟩) fun o => ?_
  exact yields_pure.mpr ⟨rfl, rfl⟩

theorem reads_int {i : Int} (h : i.natAbs < 2 ^ 53) : Reads (valueOf inner) (.num (.int i)) :=
  fun rest o hrest => by
  rw [compact, numberText]
  split
  · rename_i hnegative
    have hread {o : Nat} : Yields (number true) ⟨Nat.toDigits 10 i.natAbs ++ rest, o⟩ _ rest :=
      yields_number h (by omega) hrest
    have hvalue : -(i.natAbs : Int) = i := by omega
    rw [if_pos rfl, hvalue] at hread
    refine yields_peekToken_cons rfl fun o => yields_skip_bind.mpr ?_
    exact yields_bind_of_yields hread fun o => yields_pure.mpr ⟨rfl, rfl⟩
  · rename_i hpositive
    have hread {o : Nat} : Yields (number false) ⟨Nat.toDigits 10 i.natAbs ++ rest, o⟩ _ rest :=
      yields_number h (by simp) hrest
    have hvalue : (i.natAbs : Int) = i := by omega
    rw [if_neg Bool.false_ne_true, hvalue] at hread
    obtain ⟨d, ds, htext, hd⟩ := toDigits_eq_cons i.natAbs
    rw [htext] at hread ⊢
    refine yields_peekToken_cons (isBlank_of_isDigit hd) fun o => ?_
    split
    case h_9 c hn ht hf hminus hquote hlist hobject hc =>
      obtain rfl : d = c := by simpa using hc
      rw [if_pos hd]
      exact yields_bind_of_yields hread fun o => yields_pure.mpr ⟨rfl, rfl⟩
    all_goals
      rename_i hc
      cases hc
    all_goals cases hd

theorem reads_arr {item : Reader Json} (hplain : ∀ v ∈ vs, IsPlain v) (hreads : ∀ v ∈ vs, Reads item v) :
    Reads (valueOf (some item)) (.arr vs) := fun rest o _ => by
  have htext : compact (.arr vs) ++ rest = '[' :: (compactItems true vs ++ ']' :: rest) := by
    simp [compact]
  rw [htext]
  refine yields_peekToken_cons rfl fun o => yields_skip_bind.mpr (yields_turns_bind.mpr ?_)
  have hlength := length_le_compactItems true hplain
  have hfuel : vs.length < (compactItems true vs ++ ']' :: rest).length + 1 := by
    rw [List.length_append]
    omega
  refine yields_bind_of_yields (yields_itemsFrom hplain hreads hfuel) fun o => ?_
  refine yields_bind_of_yields (yields_endList.mpr (trimmed_cons rfl)) fun o => ?_
  exact yields_pure.mpr ⟨rfl, rfl⟩

theorem reads_obj {item : Reader Json} (hnames : Ascending ms) (hreads : ∀ m ∈ ms, Reads item m.2) :
    Reads (valueOf (some item)) (.obj ms) := fun rest o _ => by
  have htext : compact (.obj ms) ++ rest = '\x7b' :: (compactMembers true ms ++ '\x7d' :: rest) := by
    simp [compact]
  rw [htext]
  refine yields_peekToken_cons rfl fun o => yields_skip_bind.mpr (yields_turns_bind.mpr ?_)
  have hlength := length_le_compactMembers true ms
  have hfuel : ms.length < (compactMembers true ms ++ '\x7d' :: rest).length + 1 := by
    rw [List.length_append]
    omega
  refine yields_bind_of_yields (yields_membersFrom hreads hfuel) fun o => ?_
  rw [putAll_of_perm (.refl _) hnames]
  refine yields_bind_of_yields (yields_endObject.mpr (trimmed_cons rfl)) fun o => ?_
  exact yields_pure.mpr ⟨rfl, rfl⟩

theorem reads_value {n : Nat} (hdepth : Within n v) (hplain : IsPlain v) : Reads (value n) v := by
  induction hdepth with
  | null n => cases n <;> exact reads_null
  | bool n b => cases n <;> exact reads_bool b
  | num n i =>
      cases hplain with
      | int h => cases n <;> exact reads_int h
  | str n s => cases n <;> exact reads_str s
  | arr h ih =>
      cases hplain with
      | arr hplain => exact reads_arr hplain fun v hv => ih v hv (hplain v hv)
  | obj h ih =>
      cases hplain with
      | obj hnames hplain => exact reads_obj hnames fun m hm => ih m hm (hplain m hm)

/-- The text of a value is read back as the value. -/
theorem read_compact (hdepth : Within maxDepth v) (hplain : IsPlain v) :
    Json.read (String.ofList (compact v)) = .ok v := by
  have hread := reads_value hdepth hplain [] 0 (by simp [EndsNumber])
  rw [List.append_nil] at hread
  exact run_eq_ok.mpr ⟨[], by rwa [String.toList_ofList], rfl⟩

end Unbundled.Proofs.JsonTexts
