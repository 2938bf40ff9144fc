import Unbundled.Date.Calendar

namespace Unbundled.Proofs.Calendar

open Date

/-- The days from the start of the year 0 to that of another one. Years are counted from March on
here, as the days of such a year do not depend on whether it is a leap year. -/
def daysBefore (year : Int) : Int := year * 365 + year / 4 - year / 100 + year / 400

def yearOf (day : Int) : Int := (day - day / 1460 + day / 36524 - day / 146096) / 365

theorem isLeap_iff (year : Int) :
    isLeap year = true ↔ year % 4 = 0 ∧ (year % 100 ≠ 0 ∨ year % 400 = 0) := by
  simp [isLeap]

/-- The day that only leap years have comes last. -/
theorem daysBefore_succ (year : Int) :
    daysBefore (year + 1) = daysBefore year + 365 + if isLeap (year + 1) then 1 else 0 := by
  unfold daysBefore
  split
  · rename_i hleap
    rw [isLeap_iff] at hleap
    omega
  · rename_i hleap
    rw [isLeap_iff] at hleap
    omega

theorem daysBefore_cycle (k year : Int) :
    daysBefore (k * 400 + year) = k * cycle + daysBefore year := by
  unfold daysBefore cycle
  omega

theorem yearOf_mono {a b : Int} (h : a ≤ b) : yearOf a ≤ yearOf b := by
  have hyears : a - a / 1460 ≤ b - b / 1460 := by omega
  have hcenturies : a / 36524 - a / 146096 ≤ b / 36524 - b / 146096 := by omega
  unfold yearOf
  exact Int.ediv_le_ediv (by decide) (by omega)

theorem yearOf_ends : ∀ n : Nat, n < 400 →
    yearOf (daysBefore n) = n ∧ yearOf (daysBefore (n + 1) - 1) = n := by
  decide +kernel

theorem yearOf_bounds {day : Int} (h : 0 ≤ day) (h' : day < cycle) :
    0 ≤ yearOf day ∧ yearOf day < 400 ∧
      daysBefore (yearOf day) ≤ day ∧ day < daysBefore (yearOf day + 1) := by
  have hlow : 0 ≤ yearOf day := yearOf_mono h
  have hhigh : yearOf day ≤ 399 := yearOf_mono (b := cycle - 1) (Int.le_sub_one_of_lt h')
  obtain ⟨n, hn⟩ := Int.eq_ofNat_of_zero_le hlow
  rw [hn] at hhigh ⊢
  refine ⟨hn ▸ hlow, Int.lt_of_le_of_lt hhigh (by decide), ?_, ?_⟩
  · refine Int.not_lt.mp fun hlt => ?_
    -- Otherwise the day is not behind the last one of the year before.
    cases n with
    | zero => exact Int.not_lt.mpr h hlt
    | succ n =>
        have hle : yearOf day ≤ yearOf (daysBefore (n + 1) - 1) :=
          yearOf_mono (Int.le_sub_one_of_lt hlt)
        rw [(yearOf_ends n (by omega)).2] at hle
        omega
  · refine Int.not_le.mp fun hge => ?_
    have hle : yearOf (daysBefore (n + 1)) ≤ yearOf day := yearOf_mono hge
    by_cases hlast : n = 399
    · subst hlast
      exact Int.not_le.mpr h' hge
    · have hfirst := (yearOf_ends (n + 1) (by omega)).1
      rw [Int.natCast_add, Int.natCast_one] at hfirst
      omega

/-- The month of the year that a day of it lies in; March is month 0. -/
def monthOf (day : Int) : Int := (5 * day + 2) / 153

theorem monthOf_bounds {day : Int} (h : 0 ≤ day) (h' : day ≤ 365) :
    0 ≤ monthOf day ∧ monthOf day ≤ 11 ∧ daysToMonth (monthOf day) ≤ day := by
  unfold monthOf daysToMonth
  omega

theorem monthLength_one_le (year : Int) (month : Nat) :
    monthLength 1 month ≤ monthLength year month := by
  unfold monthLength
  split
  · rw [if_neg (by decide)]
    split <;> decide
  · exact Nat.le_refl _

def monthNumber (month : Int) : Nat := if month < 10 then (month + 3).toNat else (month - 9).toNat

theorem dayOfMonth_le : ∀ n : Nat, n < 365 →
    (n - daysToMonth (monthOf n) + 1).toNat ≤ monthLength 1 (monthNumber (monthOf n)) := by
  decide +kernel

def dateOf (year day : Int) : Date :=
  ⟨if monthOf day < 10 then year else year + 1, monthNumber (monthOf day),
    (day - daysToMonth (monthOf day) + 1).toNat⟩

theorem number_eq (d : Date) :
    d.number = start + daysBefore (if d.month ≤ 2 then d.year - 1 else d.year)
      + daysToMonth (if d.month ≤ 2 then d.month + 9 else d.month - 3) + d.day - 1 := by
  unfold number daysBefore cycle
  split <;> simp only <;> omega

theorem number_dateOf (year : Int) {day : Int} (h : 0 ≤ day) (h' : day ≤ 365) :
    (dateOf year day).number = start + daysBefore year + day := by
  obtain ⟨hlow, hhigh, hdays⟩ := monthOf_bounds h h'
  rw [number_eq]
  simp only [dateOf, monthNumber]
  by_cases hmonth : monthOf day < 10
  · have hnumber : ¬(monthOf day + 3).toNat ≤ 2 := by omega
    have hback : ((monthOf day + 3).toNat : Int) - 3 = monthOf day := by omega
    simp only [if_pos hmonth, if_neg hnumber, hback]
    omega
  · have hnumber : (monthOf day - 9).toNat ≤ 2 := by omega
    have hback : ((monthOf day - 9).toNat : Int) + 9 = monthOf day := by omega
    simp only [if_neg hmonth, if_pos hnumber, hback, Int.add_sub_cancel]
    omega

theorem isValid_dateOf {year day : Int} (h : 0 ≤ day)
    (h' : day < 365 + if isLeap (year + 1) then 1 else 0) : (dateOf year day).isValid = true := by
  have hday : day ≤ 365 := by split at h' <;> omega
  obtain ⟨hlow, hhigh, hdays⟩ := monthOf_bounds h hday
  have hmonth : 1 ≤ monthNumber (monthOf day) ∧ monthNumber (monthOf day) ≤ 12 := by
    unfold monthNumber
    split <;> omega
  have hfirst : 1 ≤ (day - daysToMonth (monthOf day) + 1).toNat := by omega
  have hlast : (day - daysToMonth (monthOf day) + 1).toNat ≤
      monthLength (dateOf year day).year (monthNumber (monthOf day)) := by
    by_cases hextra : day = 365
    · subst hextra
      have hleap : isLeap (year + 1) = true := by
        refine Decidable.not_not.mp fun hleap => ?_
        rw [if_neg hleap] at h'
        omega
      have hlength : monthLength (year + 1) 2 = 29 := if_pos hleap
      exact Nat.le_of_eq hlength.symm
    · obtain ⟨n, rfl⟩ := Int.eq_ofNat_of_zero_le h
      exact Nat.le_trans (dayOfMonth_le n (by omega)) (monthLength_one_le _ _)
  simp only [isValid, Bool.and_eq_true, decide_eq_true_eq]
  exact ⟨⟨hmonth, hfirst⟩, hlast⟩

theorem ofNumber_eq (n : Int) :
    let day := (n - start) % cycle
    ofNumber n = dateOf ((n - start) / cycle * 400 + yearOf day)
      (day - (yearOf day * 365 + yearOf day / 4 - yearOf day / 100)) := by
  intro day
  unfold ofNumber dateOf monthNumber
  extract_lets year rest m year' ofMonth
  have hmonth : monthOf (day - (yearOf day * 365 + yearOf day / 4 - yearOf day / 100)) = m := rfl
  rw [hmonth]
  split <;> rfl

theorem exists_dateOf (n : Int) : ∃ year day, n = start + daysBefore year + day ∧ 0 ≤ day ∧
    (day < 365 + if isLeap (year + 1) then 1 else 0) ∧ ofNumber n = dateOf year day := by
  have hlow : 0 ≤ (n - start) % cycle := Int.emod_nonneg _ (by decide)
  have hhigh : (n - start) % cycle < cycle := Int.emod_lt_of_pos _ (by decide)
  have hsplit := Int.mul_ediv_add_emod (n - start) cycle
  have hdate := ofNumber_eq n
  dsimp only at hdate
  generalize (n - start) % cycle = day at *
  generalize (n - start) / cycle = k at *
  obtain ⟨hyear, hyear', hfirst, hlast⟩ := yearOf_bounds hlow hhigh
  have hdays : yearOf day * 365 + yearOf day / 4 - yearOf day / 100 = daysBefore (yearOf day) := by
    unfold daysBefore
    omega
  rw [hdays] at hdate
  refine ⟨k * 400 + yearOf day, day - daysBefore (yearOf day), ?_, by omega, ?_, hdate⟩
  · rw [daysBefore_cycle, Int.mul_comm k]
    omega
  · have hnext := daysBefore_succ (k * 400 + yearOf day)
    rw [Int.add_assoc, daysBefore_cycle, daysBefore_cycle, ← Int.add_assoc] at hnext
    omega

theorem number_ofNumber (n : Int) : (ofNumber n).number = n := by
  obtain ⟨year, day, hn, hlow, hhigh, hdate⟩ := exists_dateOf n
  have hday : day ≤ 365 := by split at hhigh <;> omega
  rw [hdate, number_dateOf year hlow hday, hn]

theorem isValid_ofNumber (n : Int) : (ofNumber n).isValid = true := by
  obtain ⟨year, day, hn, hlow, hhigh, hdate⟩ := exists_dateOf n
  rw [hdate]
  exact isValid_dateOf hlow hhigh

theorem weekday_lt (n : Int) : weekday n < 7 := by
  unfold weekday
  omega

theorem monthLength_le (year : Int) (month : Nat) : monthLength year month ≤ 31 := by
  unfold monthLength
  repeat' split
  all_goals decide

theorem ofNumber_bounds (n : Int) :
    1 ≤ (ofNumber n).month ∧ (ofNumber n).month ≤ 12 ∧ (ofNumber n).day ≤ 31 := by
  have hvalid := isValid_ofNumber n
  simp only [isValid, Bool.and_eq_true, decide_eq_true_eq] at hvalid
  obtain ⟨⟨⟨hlow, hhigh⟩, -⟩, hday⟩ := hvalid
  exact ⟨hlow, hhigh, Nat.le_trans hday (monthLength_le _ _)⟩

theorem daysBefore_le {y y' : Int} (h : y ≤ y') : daysBefore y + 365 * (y' - y) ≤ daysBefore y' := by
  unfold daysBefore
  omega

theorem number_newYear (y : Int) : number ⟨y, 1, 1⟩ = start + daysBefore (y - 1) + 306 := by
  have hmonth : daysToMonth 10 = 306 := rfl
  rw [number_eq, ← hmonth]
  exact Int.add_sub_cancel _ 1

theorem newYear_le {y y' : Int} (h : y ≤ y') : number ⟨y, 1, 1⟩ ≤ number ⟨y', 1, 1⟩ := by
  have hdays := daysBefore_le (Int.sub_le_sub_right h 1)
  rw [number_newYear, number_newYear]
  omega

theorem number_bounds {d : Date} (h : d.isValid = true) :
    number ⟨d.year, 1, 1⟩ ≤ d.number ∧ d.number < number ⟨d.year + 1, 1, 1⟩ := by
  simp only [isValid, Bool.and_eq_true, decide_eq_true_eq] at h
  obtain ⟨⟨⟨hlow, hhigh⟩, hday⟩, hlength⟩ := h
  have hlength := Nat.le_trans hlength (monthLength_le d.year d.month)
  have hyear := daysBefore_le (Int.sub_le_self d.year (by decide : (0 : Int) ≤ 1))
  rw [number_newYear, number_newYear, number_eq, Int.add_sub_cancel]
  -- The first two months belong to the year that has begun in March of the year before.
  by_cases hmonth : d.month ≤ 2
  · simp only [if_pos hmonth, daysToMonth]
    omega
  · simp only [if_neg hmonth, daysToMonth]
    omega

theorem le_year_ofNumber_iff (y n : Int) : y ≤ (ofNumber n).year ↔ number ⟨y, 1, 1⟩ ≤ n := by
  obtain ⟨hfirst, hlast⟩ := number_bounds (isValid_ofNumber n)
  rw [number_ofNumber] at hfirst hlast
  constructor
  · intro h
    exact Int.le_trans (newYear_le h) hfirst
  · intro h
    refine Int.not_lt.mp fun hlt => ?_
    exact Int.not_lt.mpr h (Int.lt_of_lt_of_le hlast (newYear_le hlt))

end Unbundled.Proofs.Calendar
