import Mathlib.Algebra.Order.Ring.Nat
import AnalysisWebhooks.Calendar.Moment

namespace AnalysisWebhooks.Calendar

namespace Date

theorem lt_of_placeIn {lengths : List Nat} {n : Nat} (h : n < lengths.sum) :
    ∃ length, lengths[(placeIn lengths n).1]? = some length ∧ (placeIn lengths n).2 < length := by
  induction lengths generalizing n with
  | nil => simp at h
  | cons length rest ih =>
    rw [placeIn]
    split
    · rename_i hn
      exact ⟨length, rfl, hn⟩
    · rw [List.sum_cons] at h
      obtain ⟨other, hother, hlt⟩ := ih (n := n - length) (by omega)
      exact ⟨other, hother, hlt⟩

def yearLength (year : Nat) : Nat :=
  if isLeap year then 366 else 365

theorem sum_monthLengths (year : Nat) : (monthLengths (isLeap year)).sum = yearLength year := by
  unfold yearLength
  cases isLeap year <;> rfl

section Cycle

/- A day, by the cycle of four hundred years that it falls into, the hundred years of the cycle, the
four years of these, and the year of the four. -/
variable {day cycle inCycle century inCentury olympiad inOlympiad year inYear : Nat}
  (hday : day = 146097 * cycle + inCycle) (hcycle : inCycle < 146097)
  (hcentury : century = min 3 (inCycle / 36524))
    (hinCentury : inCentury = inCycle - century * 36524)
  (holympiad : olympiad = inCentury / 1461) (hinOlympiad : inOlympiad = inCentury % 1461)
  (hyear : year = min 3 (inOlympiad / 365)) (hinYear : inYear = inOlympiad - year * 365)

include hday hcycle hcentury hinCentury holympiad hinOlympiad hyear hinYear in
theorem daysBeforeYear_of_cycle :
    daysBeforeYear (400 * cycle + 100 * century + 4 * olympiad + year + 1) + inYear = day := by
  have holympiads : olympiad ≤ 24 := by omega
  have hfours : (400 * cycle + 100 * century + 4 * olympiad + year + 1 - 1) / 4 =
      100 * cycle + 25 * century + olympiad := by omega
  have hhundreds : (400 * cycle + 100 * century + 4 * olympiad + year + 1 - 1) / 100 =
      4 * cycle + century := by omega
  have hcycles : (400 * cycle + 100 * century + 4 * olympiad + year + 1 - 1) / 400 = cycle := by
    omega
  have splitCycle : inCycle = 36524 * century + inCentury := by omega
  have splitCentury : inCentury = 1461 * olympiad + inOlympiad := by omega
  have splitOlympiad : inOlympiad = 365 * year + inYear := by omega
  rw [daysBeforeYear, hfours, hhundreds, hcycles]
  clear hcentury hinCentury holympiad hinOlympiad hyear hinYear
  omega

include hcycle hcentury hinCentury holympiad hinOlympiad hyear hinYear in
theorem lt_yearLength_of_cycle :
    inYear < yearLength (400 * cycle + 100 * century + 4 * olympiad + year + 1) := by
  unfold yearLength isLeap
  by_cases hshort : inYear < 365
  · split <;> omega
  · have hlast : year = 3 ∧ (olympiad < 24 ∨ century = 3) ∧ inYear < 366 := by omega
    have hcentury : century ≤ 3 := by omega
    have holympiads : olympiad ≤ 24 := by omega
    rw [if_pos]
    · omega
    · simp only [Bool.and_eq_true, Bool.or_eq_true, beq_iff_eq, bne_iff_ne]
      omega

end Cycle

theorem yearOfDay_spec (day : Nat) :
    daysBeforeYear (yearOfDay day).1 + (yearOfDay day).2 = day ∧
      (yearOfDay day).2 < yearLength (yearOfDay day).1 := by
  have hday : day = 146097 * (day / 146097) + day % 146097 := by omega
  have hcycle : day % 146097 < 146097 := by omega
  exact ⟨daysBeforeYear_of_cycle hday hcycle rfl rfl rfl rfl rfl rfl,
    lt_yearLength_of_cycle hcycle rfl rfl rfl rfl rfl rfl⟩

theorem placeInYear_spec (day : Nat) :
    ∃ length, (monthLengths (isLeap (yearOfDay day).1))[
      (placeIn (monthLengths (isLeap (yearOfDay day).1)) (yearOfDay day).2).1]? = some length ∧
      (placeIn (monthLengths (isLeap (yearOfDay day).1)) (yearOfDay day).2).2 < length := by
  apply lt_of_placeIn
  rw [sum_monthLengths]
  exact (yearOfDay_spec day).2

theorem toDay_ofDay (day : Nat) : (ofDay day).toDay = day := by
  have hyear := (yearOfDay_spec day).1
  have hmonth := startOf_placeIn (monthLengths (isLeap (yearOfDay day).1)) (yearOfDay day).2
  simp only [toDay, ofDay, Nat.add_sub_cancel]
  omega

theorem year_ofDay_le {day : Nat} (h : day < 3652059) : (ofDay day).year ≤ lastYear := by
  have hyear := (yearOfDay_spec day).1
  have : (ofDay day).year = (yearOfDay day).1 := rfl
  rw [this, lastYear]
  unfold daysBeforeYear at hyear
  omega

theorem isValid_ofDay {day : Nat} (h : day < 3652059) : (ofDay day).IsValid := by
  obtain ⟨length, hlength, hday⟩ := placeInYear_spec day
  have hmonth := (List.getElem?_eq_some_iff.1 hlength).1
  have twelve : (monthLengths (isLeap (yearOfDay day).1)).length = 12 := rfl
  rw [twelve] at hmonth
  refine ⟨Nat.le_add_left 1 _, year_ofDay_le h, Nat.le_add_left 1 _, ?_, Nat.le_add_left 1 _, ?_⟩
  · simp only [ofDay]
    omega
  · simp only [monthLength, ofDay, Nat.add_sub_cancel, hlength, Option.getD_some]
    exact hday

end Date

namespace Moment

variable (m : Moment)

theorem day_lt : m.wall / dayMicros < 3652059 := by
  have := m.inRange
  unfold span dayMicros secondMicros at *
  omega

theorem isValid_date : m.date.IsValid :=
  Date.isValid_ofDay m.day_lt

theorem hour_lt : m.hour < 24 := by
  unfold hour secondOfDay dayMicros secondMicros
  omega

theorem minute_lt : m.minute < 60 := by
  unfold minute
  omega

theorem second_lt : m.second < 60 := by
  unfold second
  omega

theorem micro_lt : m.micro < 1000000 := by
  unfold micro secondMicros
  omega

theorem wallOf_eq : wallOf m.date m.hour m.minute m.second m.micro = m.wall := by
  rw [wallOf, date, Date.toDay_ofDay]
  unfold hour minute second micro secondOfDay dayMicros secondMicros
  omega

theorem ofWall?_wall : ofWall? m.wall (some 0) = some ⟨m.wall, some 0, m.inRange⟩ := by
  have hwall := m.inRange
  rw [ofWall?, dif_pos (by omega)]
  rfl

end Moment

end AnalysisWebhooks.Calendar
