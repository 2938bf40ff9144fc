import Mathlib.Algebra.Group.Nat.Defs
import Unbundled.Date.Http
import Unbundled.Proofs.Calendar

namespace Unbundled.Proofs.HttpDates

open HttpDate

theorem not_isWhiteSpace_of_isDigit {c : Char} (h : c.isDigit = true) :
    Text.isWhiteSpace c = false := by
  have hdigit : ∀ n : Nat, n < 58 → 48 ≤ n → Text.isWhiteSpace (Char.ofNat n) = false := by decide
  obtain ⟨hlow, hhigh⟩ := Char.isDigit_iff_toNat.mp h
  rw [← Char.ofNat_toNat c]
  exact hdigit _ (Nat.lt_succ_of_le hhigh) hlow

theorem dropWhile_of_head? {p : Char → Bool} {cs : List Char} (h : cs.head?.any p = false) :
    cs.dropWhile p = cs := by
  cases cs with
  | nil => rfl
  | cons c cs => exact List.dropWhile_cons_of_neg (by simpa using h)

theorem takeWhile_append {p : Char → Bool} {ds rest : List Char} (h : ∀ d ∈ ds, p d = true)
    (hrest : rest.head?.any p = false) : (ds ++ rest).takeWhile p = ds := by
  rw [List.takeWhile_append_of_pos h]
  cases rest with
  | nil => rw [List.takeWhile_nil, List.append_nil]
  | cons c cs =>
      rw [List.takeWhile_cons_of_neg (by simpa using hrest), List.append_nil]

theorem trim_eq_self {s : String} (h : s.toList.head?.any Text.isWhiteSpace = false)
    (h' : s.toList.getLast?.any Text.isWhiteSpace = false) : Text.trim s = s := by
  rw [← List.head?_reverse] at h'
  rw [Text.trim, dropWhile_of_head? h, dropWhile_of_head? h', List.reverse_reverse,
    String.ofList_toList]

theorem toList_padded (width n : Nat) : (padded width n).toList =
    List.replicate (width - (Nat.toDigits 10 n).length) '0' ++ Nat.toDigits 10 n := by
  rw [← Nat.toList_repr, String.length_toList]
  simp [padded, Nat.toString_eq_repr]

theorem isDigit_of_mem_padded {width n : Nat} {c : Char} (h : c ∈ (padded width n).toList) :
    c.isDigit = true := by
  rw [toList_padded, List.mem_append] at h
  rcases h with h | h
  · rw [List.eq_of_mem_replicate h]
    rfl
  · exact Nat.isDigit_of_mem_toDigits (by decide) (by decide) h

theorem digitsValue_eq (ds : List Char) : digitsValue ds = Nat.ofDigitChars 10 ds 0 := by
  rw [Nat.ofDigitChars_eq_foldl, digitsValue]
  simp only [Nat.mul_comm]
  rfl

theorem digitsValue_padded (width n : Nat) : digitsValue (padded width n).toList = n := by
  rw [digitsValue_eq, toList_padded, Nat.ofDigitChars_append, Nat.ofDigitChars_replicate_zero,
    Nat.mul_zero, Nat.ofDigitChars_ten_toDigits]

theorem length_padded {width n : Nat} (hwidth : 0 < width) (h : n < 10 ^ width) :
    (padded width n).toList.length = width := by
  have hlength := (Nat.length_toDigits_le_iff (by decide) hwidth).mpr h
  rw [toList_padded, List.length_append, List.length_replicate]
  omega

theorem head?_padded {width n : Nat} (rest : List Char) :
    ((padded width n).toList ++ rest).head?.any Text.isWhiteSpace = false := by
  cases hdigits : (padded width n).toList with
  | nil =>
      rw [toList_padded] at hdigits
      exact absurd (List.append_eq_nil_iff.mp hdigits).2 Nat.toDigits_ne_nil
  | cons c cs =>
      exact not_isWhiteSpace_of_isDigit (isDigit_of_mem_padded (hdigits ▸ List.mem_cons_self))

section

variable {α β : Type} {cs rest : List Char}

theorem run_bind_of_run {r : Reader α} {f : α → Reader β} {a : α} (h : r.run cs = some (a, rest)) :
    (r >>= f).run cs = (f a).run rest := by
  rw [StateT.run_bind, h]
  rfl

theorem run_get_bind (f : List Char → Reader β) : (get >>= f).run cs = (f cs).run cs := rfl

theorem run_set_bind (f : PUnit → Reader β) : (set rest >>= f).run cs = (f ()).run rest := rfl

theorem blanks_run (h : cs.head?.any Text.isWhiteSpace = false) : blanks.run cs = some ((), cs) := by
  rw [blanks, StateT.run_modify, dropWhile_of_head? h]
  rfl

theorem blanks_run_space (h : cs.head?.any Text.isWhiteSpace = false) :
    blanks.run (' ' :: cs) = some ((), cs) := by
  have hspace : (' ' :: cs).dropWhile Text.isWhiteSpace = cs.dropWhile Text.isWhiteSpace := rfl
  rw [blanks, StateT.run_modify, hspace, dropWhile_of_head? h]
  rfl

theorem gap_run (h : cs.head?.any Text.isWhiteSpace = false) : gap.run (' ' :: cs) = some ((), cs) :=
  blanks_run_space h

theorem char_run (c : Char) : (HttpDate.char c).run (c :: cs) = some ((), cs) := by
  simp [HttpDate.char]

end

theorem digits_run (least : Nat) (most : Option Nat) (width : Nat) {n : Nat} {rest : List Char}
    (hwidth : 0 < width) (hleast : least ≤ width) (hmost : ∀ m ∈ most, m = width)
    (h : n < 10 ^ width) (hrest : rest.head?.any Char.isDigit = false) :
    (digits least most).run ((padded width n).toList ++ rest) = some ((width, n), rest) := by
  have hlength := length_padded hwidth h
  have htaken : most.elim (padded width n).toList (padded width n).toList.take =
      (padded width n).toList := by
    cases most with
    | none => rfl
    | some m =>
        obtain rfl := hmost m rfl
        exact List.take_of_length_le (Nat.le_of_eq hlength)
  have hnot : ¬width < least := Nat.not_lt.mpr hleast
  simp [digits, takeWhile_append (fun d => isDigit_of_mem_padded) hrest, htaken, hlength, hnot,
    digitsValue_padded]

theorem twoDigits_run {most n : Nat} {rest : List Char} (hmost : n ≤ most) (h : n < 100)
    (hrest : rest.head?.any Char.isDigit = false) :
    (twoDigits most).run ((padded 2 n).toList ++ rest) = some (n, rest) := by
  have hdigits := digits_run 2 (some 2) 2 (by decide) (by decide) (by simp) h hrest
  rw [twoDigits, run_bind_of_run hdigits]
  dsimp only
  rw [if_pos hmost]
  rfl

def IsName (names : List String) (i : Nat) : Prop :=
  (names[i]?.getD "").toList.length = 3 ∧
    (names[i]?.getD "").toList.head?.any Text.isWhiteSpace = false ∧
      (names.findIdx? fun n => Text.lower n = Text.lower (names[i]?.getD "")) = some i

instance (names : List String) (i : Nat) : Decidable (IsName names i) :=
  inferInstanceAs (Decidable (_ ∧ _))

theorem isName_day : ∀ i < 7, IsName dayNames i := by decide

theorem isName_month : ∀ i < 12, IsName monthNames i := by decide

section

variable {names : List String} {i : Nat} (h : IsName names i) (rest : List Char)
include h

theorem head?_name : ((names[i]?.getD "").toList ++ rest).head?.any Text.isWhiteSpace = false := by
  obtain ⟨hlength, hhead, -⟩ := h
  cases hname : (names[i]?.getD "").toList with
  | nil =>
      rw [hname] at hlength
      cases hlength
  | cons c cs =>
      rw [hname] at hhead
      exact hhead

theorem name?_name : name? names ((names[i]?.getD "").toList ++ rest) = some i := by
  rw [name?, List.take_left' h.1, String.ofList_toList, h.2.2]

theorem drop_name : ((names[i]?.getD "").toList ++ rest).drop 3 = rest := List.drop_left' h.1

end

theorem weekday?_run {i : Nat} (h : i < 7) (rest : List Char) :
    weekday?.run ((dayNames[i]?.getD "").toList ++ ',' :: rest) = some (some i, rest) := by
  rw [weekday?, run_get_bind, name?_name (isName_day i h)]
  dsimp only
  rw [drop_name (isName_day i h), run_set_bind, run_bind_of_run (char_run ',')]
  rfl

theorem month_run {i : Nat} (h : i < 12) (rest : List Char) :
    month.run ((monthNames[i]?.getD "").toList ++ rest) = some (i + 1, rest) := by
  rw [month, run_get_bind, name?_name (isName_month i h)]
  dsimp only
  rw [drop_name (isName_month i h), run_set_bind]
  rfl

theorem year_run {n : Nat} {rest : List Char} (h : n ≤ 9999)
    (hrest : rest.head?.any Char.isDigit = false) :
    year.run ((padded 4 n).toList ++ rest) = some ((n : Int), rest) := by
  have hdigits := digits_run 2 none 4 (by decide) (by decide) (by simp) (Nat.lt_succ_of_le h) hrest
  rw [year, run_bind_of_run hdigits]
  rfl

theorem year_run_sign {c : Char} (h : c.isDigit = false) (rest : List Char) :
    year.run (c :: rest) = none := by
  have hdigits : (digits 2 none).run (c :: rest) = none := by
    rw [digits, run_get_bind, List.takeWhile_cons_of_neg (by simp [h])]
    rfl
  rw [year, StateT.run_bind, hdigits]
  rfl

theorem seconds_run {n : Nat} {rest : List Char} (h : n ≤ 60)
    (hrest : rest.head?.any Char.isDigit = false) :
    seconds.run (':' :: ((padded 2 n).toList ++ rest)) = some (n, rest) := by
  rw [seconds, run_get_bind, dropWhile_of_head? rfl]
  change (set ((padded 2 n).toList ++ rest) >>= fun _ => twoDigits 60 : Reader Nat).run _ = _
  rw [run_set_bind, twoDigits_run h (Nat.lt_of_le_of_lt h (by decide)) hrest]

theorem zone_run : zone.run "GMT".toList = some (0, []) := by decide

def writtenDay (weekday day month : Nat) (rest : List Char) : List Char :=
  (dayNames[weekday]?.getD "").toList ++ ',' :: ' ' :: ((padded 2 day).toList ++ ' ' ::
    ((monthNames[month]?.getD "").toList ++ ' ' :: rest))

def writtenTime (hour minute second : Nat) : List Char :=
  ' ' :: ((padded 2 hour).toList ++ ':' :: ((padded 2 minute).toList ++ ':' ::
    ((padded 2 second).toList ++ ' ' :: "GMT".toList)))

/-- All of a date but the year is read, whatever the year looks like. -/
theorem reading_run {weekday day month hour minute second : Nat} (hweekday : weekday < 7)
    (hday : day < 100) (hmonth : month < 12) (hhour : hour ≤ 23) (hminute : minute ≤ 59)
    (hsecond : second ≤ 60) : ∃ f : Int → Reader Reading,
      (∀ rest : List Char, rest.head?.any Text.isWhiteSpace = false →
        reading.run (writtenDay weekday day month rest) = (HttpDate.year >>= f).run rest) ∧
      ∀ year, (f year).run (writtenTime hour minute second) =
        some (⟨some weekday, ⟨year, month + 1, day⟩, hour * 3600 + minute * 60 + min second 59,
          second / 60 * 1000000000, 0⟩, []) := by
  apply Exists.intro
  constructor
  · intro rest hrest
    unfold reading writtenDay
    rw [run_bind_of_run (blanks_run (head?_name (isName_day _ hweekday) _)),
      run_bind_of_run (weekday?_run hweekday _), run_bind_of_run (blanks_run_space (head?_padded _)),
      run_bind_of_run (digits_run 1 (some 2) 2 (by decide) (by decide) (by simp) hday rfl)]
    dsimp only
    rw [run_bind_of_run (gap_run (head?_name (isName_month _ hmonth) _)),
      run_bind_of_run (month_run hmonth _), run_bind_of_run (gap_run hrest)]
  · intro year
    unfold writtenTime
    rw [run_bind_of_run (gap_run (head?_padded _)),
      run_bind_of_run (twoDigits_run hhour (by omega) rfl), run_bind_of_run (blanks_run rfl),
      run_bind_of_run (char_run ':'), run_bind_of_run (blanks_run (head?_padded _)),
      run_bind_of_run (twoDigits_run hminute (by omega) rfl),
      run_bind_of_run (seconds_run hsecond rfl), run_bind_of_run (gap_run rfl),
      run_bind_of_run zone_run]
    rfl

theorem toList_text (t : DateTime) :
    let date := Date.ofNumber (t.seconds / daySeconds)
    let time := (t.seconds % daySeconds).toNat
    t.text.toList = writtenDay (Date.weekday (t.seconds / daySeconds)) date.day (date.month - 1)
      ((yearText date.year).toList ++
        writtenTime (time / 3600) (time / 60 % 60) (time % 60 + t.nanos / 1000000000)) := by
  have hcomma : ", ".toList = [',', ' '] := rfl
  have hspace : " ".toList = [' '] := rfl
  have hcolon : ":".toList = [':'] := rfl
  have hzone : " GMT".toList = ' ' :: "GMT".toList := rfl
  simp only [DateTime.text, writtenDay, writtenTime, String.toList_append, List.append_assoc, hcomma,
    hspace, hcolon, hzone, List.cons_append, List.nil_append]

theorem getLast?_written (weekday day month hour minute second : Nat) (year : List Char) :
    (writtenDay weekday day month (year ++ writtenTime hour minute second)).getLast? = some 'T' := by
  have hlast : writtenDay weekday day month (year ++ writtenTime hour minute second) =
      writtenDay weekday day month (year ++ ' ' :: ((padded 2 hour).toList ++ ':' ::
        ((padded 2 minute).toList ++ ':' :: ((padded 2 second).toList ++ [' ', 'G', 'M'])))) ++
          ['T'] := by
    simp [writtenDay, writtenTime]
  rw [hlast, List.getLast?_append]
  rfl

theorem trim_text (t : DateTime) : Text.trim t.text = t.text := by
  apply trim_eq_self
  · rw [toList_text]
    exact head?_name (isName_day _ (Calendar.weekday_lt _)) _
  · rw [toList_text, getLast?_written]
    rfl

/-- The instant that a date is written for. A leap second inside a minute has the number of the
second that comes next. -/
def written (t : Instant) : Instant :=
  if LeapsInside t then ⟨t.seconds + 1, 0⟩
  else ⟨t.seconds, t.nanos / 1000000000 * 1000000000⟩

/-- The instant, put together from the hours, minutes and seconds that are written. No leap second
takes a time to the next minute. -/
theorem time_eq (t : DateTime) :
    let time := (t.seconds % daySeconds).toNat
    let second := time % 60 + t.nanos / 1000000000
    (⟨t.seconds / daySeconds * daySeconds +
        (time / 3600 * 3600 + time / 60 % 60 * 60 + min second 59 : Nat),
      second / 60 * 1000000000⟩ : Instant) = written t.toInstant := by
  intro time second
  have hsplit := Int.mul_ediv_add_emod t.seconds daySeconds
  have htime : (time : Int) = t.seconds % daySeconds :=
    Int.toNat_of_nonneg (Int.emod_nonneg _ (by decide))
  have hnanos := t.nanos_lt
  unfold daySeconds at hsplit htime ⊢
  by_cases hleap : LeapsInside t.toInstant
  · rw [written, if_pos hleap, Instant.mk.injEq]
    unfold LeapsInside at hleap
    omega
  · rw [written, if_neg hleap, Instant.mk.injEq]
    unfold LeapsInside at hleap
    omega

theorem instant?_reading {day : Int} {time nanos : Nat} (hday : knownDay day = true)
    (htime : time < 86400) :
    (⟨some (Date.weekday day), Date.ofNumber day, time, nanos, 0⟩ : Reading).instant? =
      some ⟨day * daySeconds + time, nanos⟩ := by
  have hsame : (day * daySeconds + time - 0) / daySeconds = day := by
    unfold daySeconds
    omega
  simp only [Reading.instant?, Calendar.number_ofNumber, Calendar.isValid_ofNumber, hsame, hday]
  simp

theorem exists_sign {year : Int} (h : ¬(0 ≤ year ∧ year ≤ 9999)) :
    ∃ sign cs, (yearText year).toList = sign :: cs ∧ sign.isDigit = false ∧
      Text.isWhiteSpace sign = false := by
  rw [yearText, if_neg h, String.toList_append]
  split
  · exact ⟨'-', _, rfl, by decide, by decide⟩
  · exact ⟨'+', _, rfl, by decide, by decide⟩

/-- A date is read as the instant that it is written for, unless its year has a sign. -/
theorem parse?_text (t : DateTime) :
    let year := (Date.ofNumber (t.seconds / daySeconds)).year
    parse? t.text = if 0 ≤ year ∧ year ≤ 9999 then some (written t.toInstant) else none := by
  intro year
  obtain ⟨hlow, hhigh, hday⟩ := Calendar.ofNumber_bounds (t.seconds / daySeconds)
  have htime : (t.seconds % daySeconds).toNat < 86400 := by
    have hpos : 0 ≤ t.seconds % daySeconds := Int.emod_nonneg _ (by decide)
    have hlt : t.seconds % daySeconds < 86400 := Int.emod_lt_of_pos _ (by decide)
    omega
  have hnanos := t.nanos_lt
  have hmonth : (Date.ofNumber (t.seconds / daySeconds)).month - 1 < 12 := by omega
  have hhour : (t.seconds % daySeconds).toNat / 3600 ≤ 23 := by omega
  have hminute : (t.seconds % daySeconds).toNat / 60 % 60 ≤ 59 := by omega
  have hsecond : (t.seconds % daySeconds).toNat % 60 + t.nanos / 1000000000 ≤ 60 := by omega
  obtain ⟨f, hread, hrest⟩ := reading_run (Calendar.weekday_lt _)
    (Nat.lt_of_le_of_lt hday (by decide)) hmonth hhour hminute hsecond
  rw [parse?, trim_text, toList_text]
  by_cases hyear : 0 ≤ year ∧ year ≤ 9999
  · have htext : yearText year = padded 4 year.toNat := if_pos hyear
    rw [if_pos hyear, htext, hread _ (head?_padded _),
      run_bind_of_run (year_run (by omega) rfl), hrest, Int.toNat_of_nonneg hyear.1,
      Nat.sub_add_cancel hlow, ← time_eq]
    exact instant?_reading t.known (by omega)
  · obtain ⟨sign, cs, htext, hdigit, hblank⟩ := exists_sign hyear
    rw [if_neg hyear, htext, hread _ (by simpa using hblank), StateT.run_bind,
      List.cons_append, year_run_sign hdigit]
    rfl

theorem parse?_text? {t : Instant} {v : String} (h : text? t = some v) :
    let year := (Date.ofNumber (t.seconds / daySeconds)).year
    parse? v = if 0 ≤ year ∧ year ≤ 9999 then
      some ⟨t.seconds, t.nanos / 1000000000 * 1000000000⟩ else none := by
  obtain ⟨moment, hmoment, rfl⟩ := Option.map_eq_some_iff.mp h
  obtain ⟨hgood, hsame⟩ := Option.dite_none_right_eq_some.mp hmoment
  obtain rfl : t = moment.toInstant := congrArg DateTime.toInstant (Option.some.inj hsame)
  have hread := parse?_text moment
  rw [written, if_neg hgood.2.2] at hread
  exact hread

theorem seconds_of_parse? {t since : Instant} {v : String} (h : text? t = some v)
    (h' : parse? v = some since) : since.seconds = t.seconds := by
  have hread := parse?_text? h
  dsimp only at hread
  rw [h'] at hread
  obtain ⟨-, hsince⟩ := Option.ite_none_right_eq_some.mp hread.symm
  rw [← Option.some.inj hsince]

end Unbundled.Proofs.HttpDates
