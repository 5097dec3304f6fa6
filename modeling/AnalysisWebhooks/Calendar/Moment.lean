import AnalysisWebhooks.Calendar.Date

namespace AnalysisWebhooks.Calendar

def secondMicros : Nat := 1000000

def dayMicros : Nat := 86400 * secondMicros

def span : Nat := 3652059 * dayMicros

structure Moment where
  wall : Nat
  offset : Option Int
  inRange : wall < span
deriving DecidableEq, Repr

namespace Moment

def ofWall? (wall : Int) (offset : Option Int) : Option Moment :=
  if h : 0 ≤ wall ∧ wall.toNat < span then some ⟨wall.toNat, offset, h.2⟩ else none

def instant (m : Moment) : Int :=
  m.wall - m.offset.getD 0 * secondMicros

def toUtc? (m : Moment) : Option Moment :=
  ofWall? m.instant (some 0)

theorem instant_of_ofWall? {wall : Int} {offset : Option Int} {m : Moment}
    (h : ofWall? wall offset = some m) :
    m.instant = wall - offset.getD 0 * secondMicros := by
  unfold ofWall? at h
  split at h
  · rename_i hw
    cases h
    simp only [instant]
    omega
  · simp at h

def date (m : Moment) : Date :=
  .ofDay (m.wall / dayMicros)

def secondOfDay (m : Moment) : Nat :=
  m.wall % dayMicros / secondMicros

def hour (m : Moment) : Nat :=
  m.secondOfDay / 3600

def minute (m : Moment) : Nat :=
  m.secondOfDay / 60 % 60

def second (m : Moment) : Nat :=
  m.secondOfDay % 60

def micro (m : Moment) : Nat :=
  m.wall % secondMicros

def wallOf (date : Date) (hour minute second micro : Nat) : Nat :=
  date.toDay * dayMicros + ((hour * 60 + minute) * 60 + second) * secondMicros + micro

end Moment

def noon : Moment :=
  ⟨739906 * dayMicros + 12 * 3600 * secondMicros, some 0, by decide⟩

example : noon.date = ⟨2026, 10, 18⟩ := by decide

end AnalysisWebhooks.Calendar
