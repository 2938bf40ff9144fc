import Mathlib.Data.List.TakeWhile
import Unbundled.Proofs.HttpDates

namespace Unbundled.Proofs.DateTexts

open HttpDate HttpDates

variable {t : Instant}

def IsBlank (s : String) : Prop := ∀ c ∈ s.toList, Text.isWhiteSpace c = true

instance (s : String) : Decidable (IsBlank s) := List.decidableBAll _ s.toList

theorem trim_surrounded {before after : String} (hbefore : IsBlank before) (hafter : IsBlank after)
    (s : String) : Text.trim (before ++ s ++ after) = Text.trim s := by
  have hreverse : ∀ c ∈ after.toList.reverse, Text.isWhiteSpace c = true :=
    fun c hc => hafter c (List.mem_reverse.mp hc)
  simp only [Text.trim, String.toList_append, List.append_assoc]
  rw [List.dropWhile_append_of_pos hbefore, List.dropWhile_append]
  split
  · rename_i hempty
    rw [List.isEmpty_iff.mp hempty, List.dropWhile_eq_nil_iff.mpr hafter]
  · rw [List.reverse_append, List.dropWhile_append_of_pos hreverse]

theorem parse?_surrounded {before after : String} (hbefore : IsBlank before)
    (hafter : IsBlank after) (s : String) : parse? (before ++ s ++ after) = parse? s := by
  rw [parse?, parse?, trim_surrounded hbefore hafter]

/-- The years that four digits write: from the first second of the year 0 to the last one of 9999. -/
def HasShortYear (t : Instant) : Prop :=
  Date.number ⟨0, 1, 1⟩ * daySeconds ≤ t.seconds ∧
    t.seconds < Date.number ⟨10000, 1, 1⟩ * daySeconds

instance (t : Instant) : Decidable (HasShortYear t) := inferInstanceAs (Decidable (_ ∧ _))

theorem HasShortYear.day_bounds (h : HasShortYear t) :
    Date.number ⟨0, 1, 1⟩ ≤ t.seconds / daySeconds ∧
      t.seconds / daySeconds < Date.number ⟨10000, 1, 1⟩ :=
  ⟨(Int.le_ediv_iff_mul_le (by decide)).mpr h.1, (Int.ediv_lt_iff_lt_mul (by decide)).mpr h.2⟩

theorem HasShortYear.year_bounds (h : HasShortYear t) :
    0 ≤ (Date.ofNumber (t.seconds / daySeconds)).year ∧
      (Date.ofNumber (t.seconds / daySeconds)).year ≤ 9999 := by
  obtain ⟨hfirst, hlast⟩ := h.day_bounds
  refine ⟨(Calendar.le_year_ofNumber_iff 0 _).mpr hfirst, Int.lt_add_one_iff.mp ?_⟩
  exact Int.not_le.mp fun hle =>
    Int.not_le.mpr hlast ((Calendar.le_year_ofNumber_iff 10000 _).mp hle)

example : HasShortYear ⟨-62167219200, 0⟩ ∧ ¬HasShortYear ⟨-62167219201, 0⟩ ∧
    HasShortYear ⟨253402300799, 0⟩ ∧ ¬HasShortYear ⟨253402300800, 0⟩ := by
  decide

theorem parse?_text_of_hasShortYear {t : DateTime} (h : HasShortYear t.toInstant) :
    parse? t.text = some (written t.toInstant) :=
  (parse?_text t).trans (if_pos h.year_bounds)

/-- The text of a moment of the years 0 to 9999, with any white space around it, is read as the
instant that it is written for, which has the second of the moment unless a leap second follows it
inside a minute. No moment that is written for another instant has the same text. -/
theorem text_reads_back {t : DateTime} (hyear : HasShortYear t.toInstant) :
    (∀ before after, IsBlank before → IsBlank after →
      parse? (before ++ t.text ++ after) = some (written t.toInstant)) ∧
    ∀ t' : DateTime, t'.text = t.text → written t'.toInstant = written t.toInstant := by
  have hread := parse?_text_of_hasShortYear hyear
  constructor
  · intro before after hbefore hafter
    rw [parse?_surrounded hbefore hafter, hread]
  · intro t' htext
    have hread' := parse?_text t'
    rw [htext, hread] at hread'
    obtain ⟨-, hsame⟩ := Option.ite_none_right_eq_some.mp hread'.symm
    exact Option.some.inj hsame

def leapOfYearZero : DateTime := ⟨⟨-62135596801, 1500000000⟩, by decide, by decide⟩

theorem text_reads_back_leap :
    let v := "Sun, 31 Dec 0000 23:59:60 GMT"
    HasShortYear leapOfYearZero.toInstant ∧ leapOfYearZero.text = v ∧
      IsBlank "\t" ∧ IsBlank "\r\n" ∧
      parse? ("\t" ++ v ++ "\r\n") = some ⟨-62135596801, 1000000000⟩ ∧
      ∀ t' : DateTime, t'.text = v → written t'.toInstant = ⟨-62135596801, 1000000000⟩ := by
  intro v
  have hyear : HasShortYear leapOfYearZero.toInstant := by decide
  have htext : leapOfYearZero.text = v := by decide +kernel
  have hwritten : written leapOfYearZero.toInstant = ⟨-62135596801, 1000000000⟩ := by decide
  obtain ⟨hread, hsame⟩ := text_reads_back hyear
  rw [htext, hwritten] at hread hsame
  have hbefore : IsBlank "\t" := by decide
  have hafter : IsBlank "\r\n" := by decide
  exact ⟨hyear, htext, hbefore, hafter, hread "\t" "\r\n" hbefore hafter, hsame⟩

/-- A leap second behind the first second of 1970 is written like the next second, and read as
that one. -/
theorem text_leap_inside :
    let leap : DateTime := ⟨⟨0, 1500000000⟩, by decide, by decide⟩
    let next : DateTime := ⟨⟨1, 0⟩, by decide, by decide⟩
    HasShortYear leap.toInstant ∧ leap.text = "Thu, 01 Jan 1970 00:00:01 GMT" ∧
      next.text = leap.text ∧ parse? leap.text = some next.toInstant ∧ next.seconds ≠ leap.seconds := by
  decide +kernel

end Unbundled.Proofs.DateTexts
