namespace AnalysisWebhooks.Calendar

def isLeap (year : Nat) : Bool :=
  year % 4 == 0 && (year % 100 != 0 || year % 400 == 0)

def monthLengths (leap : Bool) : List Nat :=
  [31, if leap then 29 else 28, 31, 30, 31, 30, 31, 31, 30, 31, 30, 31]

def daysBeforeYear (year : Nat) : Nat :=
  365 * (year - 1) + (year - 1) / 4 - (year - 1) / 100 + (year - 1) / 400

structure Date where
  year : Nat
  month : Nat
  day : Nat
deriving DecidableEq, Repr

namespace Date

def monthLength (d : Date) : Nat :=
  (monthLengths (isLeap d.year))[d.month - 1]?.getD 0

def lastYear : Nat := 9999

def IsValid (d : Date) : Prop :=
  1 ≤ d.year ∧ d.year ≤ lastYear ∧ 1 ≤ d.month ∧ d.month ≤ 12 ∧ 1 ≤ d.day ∧ d.day ≤ d.monthLength

instance (d : Date) : Decidable d.IsValid := by
  unfold IsValid
  infer_instance

def startOf : List Nat → Nat → Nat
  | length :: rest, i + 1 => length + startOf rest i
  | _, _ => 0

def toDay (d : Date) : Nat :=
  daysBeforeYear d.year + startOf (monthLengths (isLeap d.year)) (d.month - 1) + (d.day - 1)

def placeIn : List Nat → Nat → Nat × Nat
  | [], n => (0, n)
  | length :: rest, n =>
    if n < length then (0, n)
    else
      let (i, place) := placeIn rest (n - length)
      (i + 1, place)

theorem startOf_placeIn (lengths : List Nat) (n : Nat) :
    startOf lengths (placeIn lengths n).1 + (placeIn lengths n).2 = n := by
  induction lengths generalizing n with
  | nil => simp [placeIn, startOf]
  | cons length rest ih =>
    rw [placeIn]
    split
    · simp [startOf]
    · have := ih (n - length)
      simp only [startOf]
      omega

def yearOfDay (day : Nat) : Nat × Nat :=
  let quadricentennial := day / 146097
  let day := day % 146097
  let century := min 3 (day / 36524)
  let day := day - century * 36524
  let olympiad := day / 1461
  let day := day % 1461
  let year := min 3 (day / 365)
  (400 * quadricentennial + 100 * century + 4 * olympiad + year + 1, day - year * 365)

def ofDay (day : Nat) : Date :=
  let (year, inYear) := yearOfDay day
  let (month, inMonth) := placeIn (monthLengths (isLeap year)) inYear
  ⟨year, month + 1, inMonth + 1⟩

example : ofDay 0 = ⟨1, 1, 1⟩ := by decide
example : ofDay 3652058 = ⟨9999, 12, 31⟩ := by decide
example : (⟨2024, 2, 29⟩ : Date).toDay = 738944 ∧ ofDay 738944 = ⟨2024, 2, 29⟩ := by decide

def weekday (day : Nat) : Nat :=
  day % 7

def firstMonday (year : Nat) : Nat :=
  let fourth := daysBeforeYear year + 3
  fourth - weekday fourth

def weeksIn (year : Nat) : Nat :=
  (firstMonday (year + 1) - firstMonday year) / 7

def dayOfWeek? (year week weekday : Nat) : Option Nat :=
  if 1 ≤ week ∧ week ≤ weeksIn year ∧ 1 ≤ weekday ∧ weekday ≤ 7 then
    some (firstMonday year + (week - 1) * 7 + (weekday - 1))
  else none

end Date

end AnalysisWebhooks.Calendar
