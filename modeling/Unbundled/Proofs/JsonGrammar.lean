import Unbundled.Proofs.JsonReaders

namespace Unbundled.Proofs.JsonGrammar

open Json Json.Reader JsonReaders

/-! ## Strings -/

inductive Characters : List Char → List Char → Prop
  | close {rest} : Characters ('"' :: rest) rest
  | plain {c cs rest} (hc : 32 ≤ c.toNat) (hquote : c ≠ '"') (hescape : c ≠ '\\')
      (h : Characters cs rest) : Characters (c :: cs) rest
  | escape {e c cs rest} (he : simpleEscape? e = some c) (h : Characters cs rest) :
      Characters ('\\' :: e :: cs) rest
  | unicode {n x y z w cs rest} (hn : hex4? x y z w = some n) (h : Characters cs rest) :
      Characters ('\\' :: 'u' :: x :: y :: z :: w :: cs) rest

/-- A string in which halves of characters stand in pairs, and its characters. -/
inductive Spells : List Char → List Char → List Char → Prop
  | close {rest} : Spells [] ('"' :: rest) rest
  | plain {c t cs rest} (hc : 32 ≤ c.toNat) (hquote : c ≠ '"') (hescape : c ≠ '\\')
      (h : Spells t cs rest) : Spells (c :: t) (c :: cs) rest
  | escape {e c t cs rest} (he : simpleEscape? e = some c) (h : Spells t cs rest) :
      Spells (c :: t) ('\\' :: e :: cs) rest
  | unicode {n x y z w t cs rest} (hn : hex4? x y z w = some n) (hhigh : isHighHalf n = false)
      (hlow : isLowHalf n = false) (h : Spells t cs rest) :
      Spells (Char.ofNat n :: t) ('\\' :: 'u' :: x :: y :: z :: w :: cs) rest
  | pair {n m x y z w x' y' z' w' t cs rest} (hn : hex4? x y z w = some n)
      (hhigh : isHighHalf n = true) (hm : hex4? x' y' z' w' = some m) (hlow : isLowHalf m = true)
      (h : Spells t cs rest) :
      Spells (joinHalves n m :: t)
        ('\\' :: 'u' :: x :: y :: z :: w :: '\\' :: 'u' :: x' :: y' :: z' :: w' :: cs) rest

/-! ## Numbers -/

def StartsWithDigit (cs : List Char) : Prop := ∃ d ∈ cs.head?, d.isDigit = true

def Digits (cs rest : List Char) : Prop := StartsWithDigit cs ∧ cs.dropWhile Char.isDigit = rest

/-- The whole part of a number. Only zero starts with one. -/
inductive Whole : List Char → List Char → Prop
  | zero {rest} (h : ¬StartsWithDigit rest) : Whole ('0' :: rest) rest
  | digits {d cs rest} (hd : d ≠ '0') (h : Digits (d :: cs) rest) : Whole (d :: cs) rest

inductive Fraction : List Char → List Char → Prop
  | none {rest} (h : rest.head? ≠ some '.') : Fraction rest rest
  | some {cs rest} (h : Digits cs rest) : Fraction ('.' :: cs) rest

inductive Exponent : List Char → List Char → Prop
  | none {rest} (h : ¬(rest.head? = some 'e' ∨ rest.head? = some 'E')) : Exponent rest rest
  | unsigned {e cs rest} (he : e = 'e' ∨ e = 'E') (h : Digits cs rest) : Exponent (e :: cs) rest
  | signed {e s cs rest} (he : e = 'e' ∨ e = 'E') (hs : s = '+' ∨ s = '-') (h : Digits cs rest) :
      Exponent (e :: s :: cs) rest

inductive Unsigned : List Char → List Char → Prop
  | mk {cs t u rest} (hwhole : Whole cs t) (hfraction : Fraction t u) (hexponent : Exponent u rest) :
      Unsigned cs rest

/-! ## Values -/

def opening : Frame → Char
  | .list => '['
  | .object => '\x7b'

inductive Label : Frame → List Char → List Char → Prop
  | item {rest} : Label .list rest rest
  | member {cs name t rest} (hquote : trimmed cs = '"' :: name) (hname : Characters name t)
      (hcolon : trimmed t = ':' :: rest) : Label .object cs rest

mutual

inductive Value : List Char → List Char → Prop
  | null {rest} : Value ('n' :: 'u' :: 'l' :: 'l' :: rest) rest
  | true {rest} : Value ('t' :: 'r' :: 'u' :: 'e' :: rest) rest
  | false {rest} : Value ('f' :: 'a' :: 'l' :: 's' :: 'e' :: rest) rest
  | string {cs rest} (h : Characters cs rest) : Value ('"' :: cs) rest
  | number {cs rest} (h : Unsigned cs rest) : Value cs rest
  | negative {cs rest} (h : Unsigned cs rest) : Value ('-' :: cs) rest
  | empty {frame cs rest} (h : trimmed cs = frame.closing :: rest) :
      Value (opening frame :: cs) rest
  | filled {frame cs t rest} (h : Entry frame cs t) (hs : After frame t rest) :
      Value (opening frame :: cs) rest

inductive Entry : Frame → List Char → List Char → Prop
  | mk {frame cs t rest} (hlabel : Label frame cs t) (h : Value (trimmed t) rest) :
      Entry frame cs rest

inductive After : Frame → List Char → List Char → Prop
  | close {frame cs rest} (h : trimmed cs = frame.closing :: rest) : After frame cs rest
  | comma {frame cs t u rest} (hcomma : trimmed cs = ',' :: t) (h : Entry frame t u)
      (hs : After frame u rest) : After frame cs rest

end

/-- A text that is a value, with nothing but blanks around it. -/
def IsJson (text : List Char) : Prop := ∃ rest, Value (trimmed text) rest ∧ trimmed rest = []

/-! ## Strings that are read -/

variable {cs t rest : List Char} {o : Nat}

theorem Spells.characters (h : Spells t cs rest) : Characters cs rest := by
  induction h with
  | close => exact .close
  | plain hc hquote hescape h ih => exact .plain hc hquote hescape ih
  | escape he h ih => exact .escape he ih
  | unicode hn hhigh hlow h ih => exact .unicode hn ih
  | pair hn hhigh hm hlow h ih => exact .unicode hn (.unicode hm ih)

theorem Characters.length_lt (h : Characters cs rest) : rest.length < cs.length := by
  induction h with
  | close => exact Nat.lt_succ_self _
  | plain | escape | unicode =>
      simp only [List.length_cons]
      omega

theorem characters_of_afterString {s : Input} (h : afterString cs o = .ok s) :
    Characters cs s.rest := by
  fun_induction afterString cs o with
  | case2 cs o =>
      cases h
      exact .close
  | case4 x y z w cs o hn ih =>
      obtain ⟨n, hn⟩ := Option.isSome_iff_exists.mp hn
      exact .unicode hn (ih h)
  | case7 e cs o _ _ he ih =>
      obtain ⟨c, he⟩ := Option.isSome_iff_exists.mp he
      exact .escape he (ih h)
  | case10 c cs o hquote hend _ _ hescape hc ih =>
      refine .plain (by omega) hquote (fun hc => ?_) (ih h)
      cases cs with
      | nil => exact hend hc rfl
      | cons e cs => exact hescape e cs hc rfl
  | _ => cases h

theorem Characters.afterString (h : Characters cs rest) (o : Nat) :
    ∃ o', Reader.afterString cs o = .ok ⟨rest, o'⟩ := by
  induction h generalizing o with
  | close => exact ⟨_, rfl⟩
  | plain hc hquote hescape h ih =>
      simpa [Reader.afterString, hquote, hescape, Nat.not_lt.mpr hc] using ih _
  | @escape e c cs rest he h ih =>
      have hu : e ≠ 'u' := by
        rintro rfl
        cases he
      simpa [Reader.afterString, hu, he] using ih _
  | unicode hn h ih => simpa [Reader.afterString, hn] using ih _

theorem yields_ignoredString : Yields ignoredString ⟨cs, o⟩ () rest ↔ Characters cs rest := by
  have hrun : Yields ignoredString ⟨cs, o⟩ () rest ↔ ∃ o', afterString cs o = .ok ⟨rest, o'⟩ := by
    unfold Yields ignoredString
    cases h : afterString cs o <;> simp
  rw [hrun]
  constructor
  · rintro ⟨o', h⟩
    exact characters_of_afterString h
  · intro h
    exact h.afterString o

theorem push_eq_ok {c : Char} {r : Except Fault (List Char × Input)} {s : Input}
    (h : push c r = .ok (t, s)) : ∃ t', r = .ok (t', s) ∧ t = c :: t' := by
  unfold push at h
  split at h
  · cases h
    exact ⟨_, rfl, rfl⟩
  · cases h

theorem spells_of_stringBody {s : Input} (h : stringBody cs o = .ok (t, s)) : Spells t cs s.rest := by
  fun_induction stringBody cs o generalizing t with
  | case2 cs o =>
      cases h
      exact .close
  | case9 x y z w o n hn _ hhigh x' y' z' w' cs m hm hlow ih =>
      obtain ⟨t, hrest, rfl⟩ := push_eq_ok h
      exact .pair hn hhigh hm hlow (ih hrest)
  | case14 x y z w cs o n hn hlow hhigh ih =>
      obtain ⟨t, hrest, rfl⟩ := push_eq_ok h
      exact .unicode hn (by simpa using hhigh) (by simpa using hlow) (ih hrest)
  | case16 e cs o _ _ c he ih =>
      obtain ⟨t, hrest, rfl⟩ := push_eq_ok h
      exact .escape he (ih hrest)
  | case19 c cs o hquote hend _ _ hescape hc ih =>
      obtain ⟨t, hrest, rfl⟩ := push_eq_ok h
      refine .plain (by omega) hquote (fun hc => ?_) (ih hrest)
      cases cs with
      | nil => exact hend hc rfl
      | cons e cs => exact hescape e cs hc rfl
  | _ => cases h

theorem Spells.stringBody (h : Spells t cs rest) (o : Nat) :
    ∃ o', Reader.stringBody cs o = .ok (t, ⟨rest, o'⟩) := by
  induction h generalizing o with
  | close => exact ⟨_, rfl⟩
  | @plain c t cs rest hc hquote hescape h ih =>
      obtain ⟨o', h⟩ := ih (o + c.utf8Size)
      exact ⟨o', by simp [Reader.stringBody, hescape, Nat.not_lt.mpr hc, h, push]⟩
  | @escape e c t cs rest he h ih =>
      have hu : e ≠ 'u' := by
        rintro rfl
        cases he
      obtain ⟨o', h⟩ := ih (o + 2)
      exact ⟨o', by simp [Reader.stringBody, hu, he, h, push]⟩
  | unicode hn hhigh hlow h ih =>
      obtain ⟨o', h⟩ := ih (o + 6)
      exact ⟨o', by simp [Reader.stringBody, hn, hhigh, hlow, h, push]⟩
  | @pair n m x y z w x' y' z' w' t cs rest hn hhigh hm hlow h ih =>
      have hn' : isLowHalf n = false := by
        simp only [isHighHalf, isLowHalf, Bool.and_eq_true, decide_eq_true_eq] at hhigh ⊢
        simp only [Bool.and_eq_false_iff, decide_eq_false_iff_not]
        omega
      obtain ⟨o', h⟩ := ih (o + 12)
      exact ⟨o', by simp [Reader.stringBody, hn, hhigh, hn', hm, hlow, h, push]⟩

theorem yields_string {name : String} :
    Yields string ⟨cs, o⟩ name rest ↔ ∃ t, Spells t cs rest ∧ name = String.ofList t := by
  unfold Yields string
  constructor
  · rintro ⟨o', h⟩
    split at h
    · rename_i hbody
      cases h
      exact ⟨_, spells_of_stringBody hbody, rfl⟩
    · cases h
  · rintro ⟨t, h, rfl⟩
    obtain ⟨o', h⟩ := h.stringBody o
    exact ⟨o', by simp [h]⟩

/-! ## Numbers that are passed over -/

def ignoredDigits : Reader Unit := do
  match ← next with
  | some d => unless d.isDigit do fail .number
  | none => fail .number
  let _ ← digits

def ignoredExponent : Reader Unit := do
  if (← peek) = some 'e' ∨ (← peek) = some 'E' then
    skip
    if (← peek) = some '+' ∨ (← peek) = some '-' then skip
    ignoredDigits

def ignoredFraction : Reader Unit := do
  if (← peek) = some '.' then
    skip
    if (← digits).isEmpty then failNext .number
  ignoredExponent

theorem ignoredNumber_eq : ignoredNumber = (do
    match ← next with
    | some '0' =>
      if let some d ← peek then
        if d.isDigit then failNext .number
    | some c =>
      unless c.isDigit do fail .number
      let _ ← digits
    | none => fail .number
    ignoredFraction) := rfl

@[simp] theorem startsWithDigit_nil : ¬StartsWithDigit [] := nofun

@[simp] theorem startsWithDigit_cons {d : Char} : StartsWithDigit (d :: cs) ↔ d.isDigit = true := by
  simp [StartsWithDigit]

theorem takeWhile_isEmpty_iff : (cs.takeWhile Char.isDigit).isEmpty = true ↔ ¬StartsWithDigit cs := by
  cases cs with
  | nil => simp
  | cons d cs => by_cases hd : d.isDigit = true <;> simp [hd]

theorem yields_ignoredDigits : Yields ignoredDigits ⟨cs, o⟩ () rest ↔ Digits cs rest := by
  unfold ignoredDigits Digits
  cases cs with
  | nil => simp
  | cons d cs =>
      rw [yields_next_bind_cons, startsWithDigit_cons]
      by_cases hd : d.isDigit = true
      · simp only [hd, List.dropWhile_cons_of_pos hd, true_and, if_true]
        exact yields_digits_bind fun o => by simp
      · simp [hd]

theorem yields_ignoredExponent : Yields ignoredExponent ⟨cs, o⟩ () rest ↔ Exponent cs rest := by
  unfold ignoredExponent
  simp only [yields_peek_bind]
  split
  · rename_i he
    cases cs with
    | nil => simp at he
    | cons e cs =>
        simp only [List.head?_cons, Option.some.injEq] at he
        simp only [yields_skip_bind, yields_peek_bind]
        split
        · rename_i hs
          cases cs with
          | nil => simp at hs
          | cons s cs =>
              simp only [List.head?_cons, Option.some.injEq] at hs
              rw [yields_skip_bind, yields_ignoredDigits]
              constructor
              · exact .signed he hs
              · rintro (hnone | ⟨_, h⟩ | ⟨_, _, h⟩)
                · exact absurd (by simpa using he) hnone
                · -- a sign is no digit
                  have hd := startsWithDigit_cons.mp h.1
                  obtain rfl | rfl := hs <;> cases hd
                · exact h
        · rename_i hs
          rw [yields_ignoredDigits]
          constructor
          · exact .unsigned he
          · rintro (hnone | ⟨_, h⟩ | ⟨_, hs', _⟩)
            · exact absurd (by simpa using he) hnone
            · exact h
            · exact absurd (by simpa using hs') hs
  · rename_i he
    rw [yields_pure]
    constructor
    · rintro ⟨-, rfl⟩
      exact .none he
    · rintro (_ | ⟨he', _⟩ | ⟨he', _, _⟩)
      · exact ⟨rfl, rfl⟩
      · exact absurd (by simpa using he') he
      · exact absurd (by simpa using he') he

theorem yields_ignoredFraction :
    Yields ignoredFraction ⟨cs, o⟩ () rest ↔ ∃ t, Fraction cs t ∧ Exponent t rest := by
  unfold ignoredFraction
  rw [yields_peek_bind]
  split
  · rename_i hpoint
    cases cs with
    | nil => cases hpoint
    | cons c cs =>
        obtain rfl : c = '.' := by simpa using hpoint
        rw [yields_skip_bind]
        refine yields_digits_bind fun o => ?_
        split
        · rename_i hempty
          simp only [yields_failNext_bind, false_iff]
          rintro ⟨t, hnone | ⟨hdigit, -⟩, -⟩
          · exact hnone rfl
          · exact takeWhile_isEmpty_iff.mp hempty hdigit
        · rename_i hsome
          rw [takeWhile_isEmpty_iff, not_not] at hsome
          rw [yields_ignoredExponent]
          constructor
          · exact fun h => ⟨_, .some ⟨hsome, rfl⟩, h⟩
          · rintro ⟨t, hnone | ⟨-, rfl⟩, h⟩
            · exact absurd rfl hnone
            · exact h
  · rename_i hpoint
    rw [yields_ignoredExponent]
    constructor
    · exact fun h => ⟨_, .none hpoint, h⟩
    · rintro ⟨t, _ | _, h⟩
      · exact h
      · exact absurd rfl hpoint

theorem whole_zero : Whole ('0' :: cs) t ↔ ¬StartsWithDigit cs ∧ cs = t := by
  constructor
  · rintro (h | ⟨hd, -⟩)
    · exact ⟨h, rfl⟩
    · exact absurd rfl hd
  · rintro ⟨h, rfl⟩
    exact .zero h

theorem whole_cons {d : Char} (hd : d ≠ '0') :
    Whole (d :: cs) t ↔ d.isDigit = true ∧ cs.dropWhile Char.isDigit = t := by
  constructor
  · rintro (_ | ⟨-, hdigit, rfl⟩)
    · exact absurd rfl hd
    · rw [startsWithDigit_cons] at hdigit
      exact ⟨hdigit, (List.dropWhile_cons_of_pos hdigit).symm⟩
  · rintro ⟨hdigit, rfl⟩
    exact .digits hd ⟨startsWithDigit_cons.mpr hdigit, List.dropWhile_cons_of_pos hdigit⟩

theorem yields_ignoredNumber : Yields ignoredNumber ⟨cs, o⟩ () rest ↔ Unsigned cs rest := by
  have hunsigned : Unsigned cs rest ↔ ∃ t, Whole cs t ∧ ∃ u, Fraction t u ∧ Exponent u rest := by
    constructor
    · rintro ⟨hwhole, hfraction, hexponent⟩
      exact ⟨_, hwhole, _, hfraction, hexponent⟩
    · rintro ⟨t, hwhole, u, hfraction, hexponent⟩
      exact ⟨hwhole, hfraction, hexponent⟩
  rw [ignoredNumber_eq, hunsigned]
  cases cs with
  | nil =>
      simp only [yields_next_bind_nil, yields_fail_bind, false_iff]
      rintro ⟨t, ⟨⟩, h⟩
  | cons c cs =>
      rw [yields_next_bind_cons]
      split
      · rename_i hc
        obtain rfl : c = '0' := by simpa using hc
        rw [yields_peek_bind]
        simp only [whole_zero]
        cases cs with
        | nil => simp [yields_ignoredFraction]
        | cons d cs => by_cases hd : d.isDigit = true <;> simp [hd, yields_ignoredFraction]
      · rename_i c' hzero hc
        obtain rfl : c = c' := by simpa using hc
        simp only [whole_cons fun h => hzero (h ▸ rfl)]
        by_cases hd : c.isDigit = true
        · simp only [hd, if_true]
          exact yields_digits_bind fun o => by simp [yields_ignoredFraction]
        · simp [hd]
      · rename_i hc
        cases hc

/-! ## Values that are passed over -/

theorem Digits.length_lt (h : Digits cs rest) : rest.length < cs.length := by
  obtain ⟨hdigit, rfl⟩ := h
  cases cs with
  | nil => exact absurd hdigit startsWithDigit_nil
  | cons d cs =>
      rw [List.dropWhile_cons_of_pos (startsWithDigit_cons.mp hdigit)]
      exact Nat.lt_succ_of_le (List.dropWhile_suffix _).length_le

theorem Unsigned.length_lt (h : Unsigned cs rest) : rest.length < cs.length := by
  obtain ⟨hwhole, hfraction, hexponent⟩ := h
  rename_i t u
  have ht : t.length < cs.length := by
    obtain _ | ⟨-, hdigits⟩ := hwhole
    · exact Nat.lt_succ_self _
    · exact hdigits.length_lt
  have hu : u.length ≤ t.length := by
    obtain _ | hdigits := hfraction
    · exact Nat.le_refl _
    · exact Nat.le_succ_of_le hdigits.length_lt.le
  have hrest : rest.length ≤ u.length := by
    obtain _ | ⟨-, hdigits⟩ | ⟨-, -, hdigits⟩ := hexponent
    · exact Nat.le_refl _
    · exact Nat.le_succ_of_le hdigits.length_lt.le
    · exact Nat.le_succ_of_le (Nat.le_succ_of_le hdigits.length_lt.le)
  omega

theorem Label.length_le {frame : Frame} (h : Label frame cs rest) : rest.length ≤ cs.length := by
  cases h with
  | item => exact Nat.le_refl _
  | member hquote hname hcolon =>
      have hquote := length_lt_of_trimmed hquote
      have hcolon := length_lt_of_trimmed hcolon
      have hname := hname.length_lt
      omega

mutual

theorem Value.length_lt : ∀ {cs rest : List Char}, Value cs rest → rest.length < cs.length
  | _, _, .null | _, _, .true | _, _, .false => by
    simp only [List.length_cons]
    omega
  | _, _, .string h => Nat.lt_succ_of_lt h.length_lt
  | _, _, .number h => h.length_lt
  | _, _, .negative h => Nat.lt_succ_of_lt h.length_lt
  | _, _, .empty h => Nat.lt_succ_of_lt (length_lt_of_trimmed h)
  | _, _, .filled h hs => Nat.lt_succ_of_lt (hs.length_lt.trans h.length_lt)

theorem Entry.length_lt : ∀ {frame : Frame} {cs rest : List Char},
    Entry frame cs rest → rest.length < cs.length
  | _, _, _, .mk hlabel h =>
    h.length_lt.trans_le ((length_trimmed_le _).trans hlabel.length_le)

theorem After.length_lt : ∀ {frame : Frame} {cs rest : List Char},
    After frame cs rest → rest.length < cs.length
  | _, _, _, .close h => length_lt_of_trimmed h
  | _, _, _, .comma hcomma h hs => hs.length_lt.trans (h.length_lt.trans (length_lt_of_trimmed hcomma))

end

theorem entry_trimmed {frame : Frame} : Entry frame (trimmed cs) rest ↔ Entry frame cs rest := by
  constructor
  · rintro ⟨_ | ⟨hquote, hname, hcolon⟩, h⟩
    · exact ⟨.item, by simpa using h⟩
    · exact ⟨.member (by simpa using hquote) hname hcolon, h⟩
  · rintro ⟨_ | ⟨hquote, hname, hcolon⟩, h⟩
    · exact ⟨.item, by simpa using h⟩
    · exact ⟨.member (by simpa using hquote) hname hcolon, h⟩

theorem yields_passName {frame : Frame} :
    Yields (passName frame) ⟨cs, o⟩ () rest ↔ Label frame cs rest := by
  unfold passName
  cases frame with
  | list =>
      simp only [reduceCtorEq, if_false, yields_pure, true_and]
      constructor
      · rintro rfl
        exact .item
      · rintro ⟨⟩
        rfl
  | object =>
      have hname {name : List Char} {o : Nat} :
          Yields (do ignoredString; colon) ⟨name, o⟩ () rest ↔
            ∃ t, Characters name t ∧ trimmed t = ':' :: rest := by
        rw [yields_then fun _ _ _ => yields_colon]
        simp only [yields_ignoredString]
      simp only [if_pos]
      refine yields_peekToken_bind fun o => ?_
      cases h : trimmed cs with
      | nil =>
          simp only [List.head?_nil, yields_fail_bind, false_iff]
          rintro (_ | ⟨hquote, -, -⟩)
          simp [h] at hquote
      | cons c name =>
          by_cases hc : c = '"'
          · subst hc
            simp only [List.head?_cons, yields_skip_bind, hname]
            constructor
            · rintro ⟨t, hname, hcolon⟩
              exact .member h hname hcolon
            · rintro (_ | ⟨hquote, hname, hcolon⟩)
              rw [h] at hquote
              cases hquote
              exact ⟨_, hname, hcolon⟩
          · simp only [List.head?_cons, yields_failNext_bind, false_iff]
            rintro (_ | ⟨hquote, -, -⟩)
            simp [h, hc] at hquote

def Inside (frame : Frame) (cs rest : List Char) : Prop :=
  trimmed cs = frame.closing :: rest ∨ ∃ t, Entry frame cs t ∧ After frame t rest

def Closes : List Frame → List Char → List Char → Prop
  | [], cs, rest => cs = rest
  | frame :: frames, cs, rest => ∃ t, After frame cs t ∧ Closes frames t rest

/-- What is passed over, by where it starts. -/
def Ahead : Option Bool → List Frame → List Char → List Char → Prop
  | none, frames, cs, rest => ∃ t, Value (trimmed cs) t ∧ Closes frames t rest
  | some false, frame :: frames, cs, rest => ∃ t, Inside frame cs t ∧ Closes frames t rest
  | some _, frames, cs, rest => Closes frames cs rest

theorem Unsigned.isDigit {c : Char} (h : Unsigned (c :: cs) rest) : c.isDigit = true := by
  obtain ⟨_ | ⟨-, hdigit, -⟩, -, -⟩ := h
  · rfl
  · exact startsWithDigit_cons.mp hdigit

theorem value_cons {c : Char} :
    Value (c :: cs) rest ↔
      (c = 'n' ∧ cs = ['u', 'l', 'l'] ++ rest) ∨ (c = 't' ∧ cs = ['r', 'u', 'e'] ++ rest) ∨
        (c = 'f' ∧ cs = ['a', 'l', 's', 'e'] ++ rest) ∨ (c = '"' ∧ Characters cs rest) ∨
        (c = '-' ∧ Unsigned cs rest) ∨ (c.isDigit = true ∧ Unsigned (c :: cs) rest) ∨
        ∃ frame, c = opening frame ∧ Inside frame cs rest := by
  constructor
  · intro h
    cases h with
    | null => exact .inl ⟨rfl, rfl⟩
    | true => exact .inr (.inl ⟨rfl, rfl⟩)
    | false => exact .inr (.inr (.inl ⟨rfl, rfl⟩))
    | string h => exact .inr (.inr (.inr (.inl ⟨rfl, h⟩)))
    | negative h => exact .inr (.inr (.inr (.inr (.inl ⟨rfl, h⟩))))
    | number h => exact .inr (.inr (.inr (.inr (.inr (.inl ⟨h.isDigit, h⟩)))))
    | empty h => exact .inr (.inr (.inr (.inr (.inr (.inr ⟨_, rfl, .inl h⟩)))))
    | filled h hs => exact .inr (.inr (.inr (.inr (.inr (.inr ⟨_, rfl, .inr ⟨_, h, hs⟩⟩)))))
  · rintro (⟨rfl, rfl⟩ | ⟨rfl, rfl⟩ | ⟨rfl, rfl⟩ | ⟨rfl, h⟩ | ⟨rfl, h⟩ | ⟨-, h⟩ | ⟨frame, rfl, h⟩)
    · exact .null
    · exact .true
    · exact .false
    · exact .string h
    · exact .negative h
    · exact .number h
    · obtain h | ⟨t, h, hs⟩ := h
      · exact .empty h
      · exact .filled h hs

theorem not_value_nil : ¬Value [] rest := by
  rintro (_ | _ | _ | _ | ⟨⟨⟨⟩, _, _⟩⟩)

theorem exists_opening {P : Frame → Prop} {c : Char} :
    (∃ frame, c = opening frame ∧ P frame) ↔ (c = '[' ∧ P .list) ∨ (c = '\x7b' ∧ P .object) := by
  constructor
  · rintro ⟨_ | _, h⟩
    · exact .inl h
    · exact .inr h
  · rintro (h | h)
    · exact ⟨.list, h⟩
    · exact ⟨.object, h⟩

theorem closes_cons {frame : Frame} {frames : List Frame} : Closes (frame :: frames) cs rest ↔
    (∃ t, trimmed cs = frame.closing :: t ∧ Closes frames t rest) ∨
      ∃ t, trimmed cs = ',' :: t ∧ ∃ u, Entry frame t u ∧ Closes (frame :: frames) u rest := by
  constructor
  · rintro ⟨t, h | ⟨hcomma, h, hs⟩, hrest⟩
    · exact .inl ⟨t, h, hrest⟩
    · exact .inr ⟨_, hcomma, _, h, t, hs, hrest⟩
  · rintro (⟨t, h, hrest⟩ | ⟨_, hcomma, _, h, t, hs, hrest⟩)
    · exact ⟨t, .close h, hrest⟩
    · exact ⟨t, .comma hcomma h hs, hrest⟩

theorem inside_and_closes {frame : Frame} {frames : List Frame} :
    (∃ t, Inside frame cs t ∧ Closes frames t rest) ↔
      (∃ t, trimmed cs = frame.closing :: t ∧ Closes frames t rest) ∨
        ∃ t, Entry frame cs t ∧ Closes (frame :: frames) t rest := by
  constructor
  · rintro ⟨t, h | ⟨u, h, hs⟩, hrest⟩
    · exact .inl ⟨t, h, hrest⟩
    · exact .inr ⟨u, h, t, hs, hrest⟩
  · rintro (⟨t, h, hrest⟩ | ⟨u, h, t, hs, hrest⟩)
    · exact ⟨t, .inl h, hrest⟩
    · exact ⟨t, .inr ⟨u, h, hs⟩, hrest⟩

theorem not_entry_of_nil {frame : Frame} (h : trimmed cs = []) : ¬Entry frame cs rest := by
  rintro ⟨_ | ⟨hquote, -, -⟩, hvalue⟩
  · exact not_value_nil (h ▸ hvalue)
  · simp [h] at hquote

theorem not_entry_of_closing {frame : Frame} (h : trimmed cs = frame.closing :: t) :
    ¬Entry frame cs rest := by
  rintro ⟨_ | ⟨hquote, -, -⟩, hvalue⟩
  · simp [h, value_cons, exists_opening, Frame.closing] at hvalue
  · simp [h, Frame.closing] at hquote

/-- The turns that passing over takes at most, with what remains of the text. -/
def need (passed : Option Bool) (cs : List Char) : Nat :=
  2 * cs.length + if passed = some false then 2 else 1

def passLeaf (c : Char) : Reader Unit :=
  match c with
  | 'n' => do
    skip
    word ['u', 'l', 'l']
  | 't' => do
    skip
    word ['r', 'u', 'e']
  | 'f' => do
    skip
    word ['a', 'l', 's', 'e']
  | '"' => do
    skip
    ignoredString
  | '-' => do
    skip
    ignoredNumber
  | c => if c.isDigit then ignoredNumber else failNext .value

theorem passOver_none (fuel : Nat) (frames : List Frame) :
    passOver (fuel + 1) none frames = (do
      match ← peekToken with
      | none => fail .eofInValue
      | some '[' =>
        skip
        passOver fuel (some false) (.list :: frames)
      | some '\x7b' =>
        skip
        passOver fuel (some false) (.object :: frames)
      | some c =>
        passLeaf c
        passOver fuel (some true) frames) := by
  refine congrArg (peekToken >>= ·) (funext fun next => ?_)
  split
  · rfl
  · rfl
  · rfl
  · unfold passLeaf
    split
    all_goals try simp only [bind_assoc]
    split <;> rfl

theorem yields_passLeaf {c : Char} (hlist : c ≠ '[') (hobject : c ≠ '\x7b') :
    Yields (passLeaf c) ⟨c :: cs, o⟩ () rest ↔ Value (c :: cs) rest := by
  simp only [value_cons, exists_opening, hlist, hobject]
  unfold passLeaf
  split
  case h_6 hn ht hf hquote hminus =>
    simp only [eq_false hn, eq_false ht, eq_false hf, eq_false hquote, eq_false hminus, false_and,
      false_or, or_false]
    by_cases hdigit : c.isDigit = true
    · simp only [hdigit, if_true, true_and, yields_ignoredNumber]
    · simp [hdigit]
  all_goals simp [yields_word, yields_ignoredString, yields_ignoredNumber]

variable {fuel : Nat} {frame : Frame} {frames : List Frame}

theorem yields_passOver_none
    (hopen : ∀ frame t o, t.length < (trimmed cs).length →
      (Yields (passOver fuel (some false) (frame :: frames)) ⟨t, o⟩ () rest ↔
        ∃ u, Inside frame t u ∧ Closes frames u rest))
    (hpassed : ∀ t o, t.length < (trimmed cs).length →
      (Yields (passOver fuel (some true) frames) ⟨t, o⟩ () rest ↔ Closes frames t rest)) :
    Yields (passOver (fuel + 1) none frames) ⟨cs, o⟩ () rest ↔
      ∃ t, Value (trimmed cs) t ∧ Closes frames t rest := by
  rw [passOver_none]
  refine yields_peekToken_bind fun o => ?_
  cases h : trimmed cs with
  | nil => simp [not_value_nil]
  | cons c t =>
      rw [h] at hopen hpassed
      have hlength : t.length < (c :: t).length := Nat.lt_succ_self _
      split
      · rename_i hnone
        cases hnone
      · rename_i hc
        obtain rfl : c = '[' := by simpa using hc
        simp only [yields_skip_bind, hopen _ _ _ hlength, value_cons, exists_opening]
        simp
      · rename_i hc
        obtain rfl : c = '\x7b' := by simpa using hc
        simp only [yields_skip_bind, hopen _ _ _ hlength, value_cons, exists_opening]
        simp
      · rename_i c' hlist hobject hc
        obtain rfl : c = c' := by simpa using hc
        have hleaf {u : List Char} {o : Nat} :
            Yields (passLeaf c) ⟨c :: t, o⟩ () u ↔ Value (c :: t) u :=
          yields_passLeaf (fun h => hlist (h ▸ rfl)) fun h => hobject (h ▸ rfl)
        rw [yields_then fun u o hu => hpassed u o (hleaf.mp hu).length_lt]
        simp only [hleaf]

theorem yields_passEntry
    (hvalue : ∀ t o, t.length ≤ cs.length →
      (Yields (passOver fuel none (frame :: frames)) ⟨t, o⟩ () rest ↔
        ∃ u, Value (trimmed t) u ∧ Closes (frame :: frames) u rest)) :
    Yields (do passName frame; passOver fuel none (frame :: frames)) ⟨cs, o⟩ () rest ↔
      ∃ t, Entry frame cs t ∧ Closes (frame :: frames) t rest := by
  rw [yields_then fun t o h => hvalue t o (yields_passName.mp h).length_le]
  simp only [yields_passName]
  constructor
  · rintro ⟨t, hlabel, u, h, hs⟩
    exact ⟨u, ⟨hlabel, h⟩, hs⟩
  · rintro ⟨u, ⟨hlabel, h⟩, hs⟩
    exact ⟨_, hlabel, u, h, hs⟩

theorem closing_ne_comma (frame : Frame) : frame.closing ≠ ',' := by
  cases frame <;> decide

theorem yields_passOver_true
    (hvalue : ∀ t o, t.length < cs.length →
      (Yields (passOver fuel none (frame :: frames)) ⟨t, o⟩ () rest ↔
        ∃ u, Value (trimmed t) u ∧ Closes (frame :: frames) u rest))
    (hpassed : ∀ t o, t.length < cs.length →
      (Yields (passOver fuel (some true) frames) ⟨t, o⟩ () rest ↔ Closes frames t rest)) :
    Yields (passOver (fuel + 1) (some true) (frame :: frames)) ⟨cs, o⟩ () rest ↔
      Closes (frame :: frames) cs rest := by
  refine yields_peekToken_bind fun o => ?_
  rw [closes_cons]
  cases h : trimmed cs with
  | nil => simp
  | cons c t =>
      have hlength := length_lt_of_trimmed h
      have hentry := yields_passEntry (o := o + c.utf8Size) fun u o hu => hvalue u o (hu.trans_lt hlength)
      by_cases hcomma : c = ','
      · subst hcomma
        simp [(closing_ne_comma frame).symm, hentry]
      · by_cases hclosing : c = frame.closing
        · subst hclosing
          simp [closing_ne_comma frame, hpassed _ _ hlength]
        · simp [hcomma, hclosing]

theorem yields_passOver_false
    (hvalue : ∀ t o, t.length ≤ cs.length →
      (Yields (passOver fuel none (frame :: frames)) ⟨t, o⟩ () rest ↔
        ∃ u, Value (trimmed t) u ∧ Closes (frame :: frames) u rest))
    (hpassed : ∀ t o, t.length < cs.length →
      (Yields (passOver fuel (some true) frames) ⟨t, o⟩ () rest ↔ Closes frames t rest)) :
    Yields (passOver (fuel + 1) (some false) (frame :: frames)) ⟨cs, o⟩ () rest ↔
      ∃ t, Inside frame cs t ∧ Closes frames t rest := by
  refine yields_peekToken_bind fun o => ?_
  have hentry : Yields (do passName frame; passOver fuel none (frame :: frames)) ⟨trimmed cs, o⟩ () rest ↔
      ∃ t, Entry frame cs t ∧ Closes (frame :: frames) t rest := by
    simp only [← @entry_trimmed cs]
    exact yields_passEntry fun u o hu => hvalue u o (hu.trans (length_trimmed_le cs))
  rw [inside_and_closes]
  cases h : trimmed cs with
  | nil => simp [not_entry_of_nil h]
  | cons c t =>
      have hlength := length_lt_of_trimmed h
      rw [h] at hentry
      by_cases hclosing : c = frame.closing
      · subst hclosing
        simp [hpassed _ _ hlength, not_entry_of_closing h]
      · simp [hclosing, hentry]

theorem yields_passOver {passed : Option Bool} (hfuel : need passed cs ≤ fuel) :
    Yields (passOver fuel passed frames) ⟨cs, o⟩ () rest ↔ Ahead passed frames cs rest := by
  -- Every turn takes a character, apart from the one from what opens a list or object to its first
  -- entry. `need` counts both, so that the fuel that is left is enough for the next turn.
  induction fuel generalizing passed frames cs o with
  | zero =>
      unfold need at hfuel
      split at hfuel <;> omega
  | succ fuel ih =>
      have htrimmed := length_trimmed_le cs
      match passed, frames with
      | none, frames =>
          simp only [need, reduceCtorEq, if_false] at hfuel
          refine yields_passOver_none (fun frame t o ht => ?_) fun t o ht => ?_
          · exact ih (by simp only [need, if_true]; omega)
          · exact ih (by simp only [need, Option.some.injEq, reduceCtorEq, if_false]; omega)
      | some false, [] => simp [passOver, Ahead, Closes]
      | some true, [] => simp [passOver, Ahead, Closes]
      | some false, frame :: frames =>
          simp only [need, if_true] at hfuel
          refine yields_passOver_false (fun t o ht => ?_) fun t o ht => ?_
          · exact ih (by simp only [need, reduceCtorEq, if_false]; omega)
          · exact ih (by simp only [need, Option.some.injEq, reduceCtorEq, if_false]; omega)
      | some true, frame :: frames =>
          simp only [need, Option.some.injEq, reduceCtorEq, if_false] at hfuel
          refine yields_passOver_true (fun t o ht => ?_) fun t o ht => ?_
          · exact ih (by simp only [need, reduceCtorEq, if_false]; omega)
          · exact ih (by simp only [need, Option.some.injEq, reduceCtorEq, if_false]; omega)

theorem yields_ignored : Yields ignored ⟨cs, o⟩ () rest ↔ Value (trimmed cs) rest := by
  have hrun : Yields ignored ⟨cs, o⟩ () rest ↔
      Yields (passOver (2 * (cs.length + 1)) none []) ⟨cs, o⟩ () rest := Iff.rfl
  rw [hrun, yields_passOver (by simp only [need, reduceCtorEq, if_false]; omega)]
  simp [Ahead, Closes]

/-- A whole text can be passed over just if it is JSON. -/
theorem run_ignored_eq_ok {text : String} : run ignored text = .ok () ↔ IsJson text.toList := by
  rw [run_eq_ok]
  simp only [yields_ignored]
  rfl

instance : DecidablePred IsJson := fun text =>
  decidable_of_iff (run ignored (String.ofList text) = .ok ()) (by rw [run_ignored_eq_ok, String.toList_ofList])

end Unbundled.Proofs.JsonGrammar
