import AnalysisWebhooks.Proofs.Calendar.StoredText

namespace AnalysisWebhooks.Calendar

theorem digitChar_lt_iff {a b : Nat} (ha : a < 10) (hb : b < 10) :
    Nat.digitChar a < Nat.digitChar b ↔ a < b :=
  (by decide : ∀ a < 10, ∀ b < 10, (Nat.digitChar a < Nat.digitChar b ↔ a < b)) a ha b hb

theorem digitChar_eq_iff {a b : Nat} (ha : a < 10) (hb : b < 10) :
    Nat.digitChar a = Nat.digitChar b ↔ a = b :=
  (by decide : ∀ a < 10, ∀ b < 10, (Nat.digitChar a = Nat.digitChar b ↔ a = b)) a ha b hb

theorem digits_append_lt {width a b : Nat} {x y : List Char} (ha : a < 10 ^ width)
    (hb : b < 10 ^ width) :
    digits width a ++ x < digits width b ++ y ↔ a < b ∨ a = b ∧ x < y := by
  induction width generalizing a b x y with
  | zero =>
    rw [Nat.pow_zero, Nat.lt_one_iff] at ha hb
    simp [digits, ha, hb]
  | succ width ih =>
    rw [Nat.pow_succ] at ha hb
    rw [digits, digits, List.append_assoc, List.append_assoc, ih (by omega) (by omega),
      List.singleton_append, List.singleton_append, List.cons_lt_cons_iff,
      digitChar_lt_iff (by omega) (by omega), digitChar_eq_iff (by omega) (by omega)]
    by_cases hxy : x < y <;> simp only [hxy, and_true, and_false, or_false] <;> omega

theorem cons_lt_cons_self {c : Char} {x y : List Char} : c :: x < c :: y ↔ x < y := by
  simp

namespace Date

theorem succ_div (n k : Nat) : (n + 1) / k = n / k + if (n + 1) % k = 0 then 1 else 0 := by
  rw [Nat.succ_div]
  simp only [Nat.dvd_iff_mod_eq_zero]

theorem yearLength_add (year : Nat) :
    yearLength year + (if year % 100 = 0 then 1 else 0) =
      365 + (if year % 4 = 0 then 1 else 0) + (if year % 400 = 0 then 1 else 0) := by
  have leap : isLeap year = true ↔ year % 4 = 0 ∧ (year % 100 ≠ 0 ∨ year % 400 = 0) := by
    simp [isLeap]
  simp only [yearLength, leap]
  split_ifs <;> omega

theorem daysBeforeYear_succ {year : Nat} (h : 1 ≤ year) :
    daysBeforeYear (year + 1) = daysBeforeYear year + yearLength year := by
  obtain ⟨n, rfl⟩ := Nat.exists_eq_add_of_le' h
  have length := yearLength_add (n + 1)
  have few : n / 100 ≤ n := Nat.div_le_self n 100
  have single : (if (n + 1) % 100 = 0 then 1 else 0) ≤ 1 := by split <;> omega
  simp only [daysBeforeYear, Nat.add_sub_cancel, succ_div n 4, succ_div n 100, succ_div n 400]
  generalize (if (n + 1) % 4 = 0 then 1 else 0) = four at *
  generalize (if (n + 1) % 100 = 0 then 1 else 0) = hundred at *
  generalize (if (n + 1) % 400 = 0 then 1 else 0) = fourHundred at *
  omega

theorem daysBeforeYear_le {a b : Nat} (ha : 1 ≤ a) (h : a ≤ b) :
    daysBeforeYear a ≤ daysBeforeYear b := by
  induction h with
  | refl => exact Nat.le_refl _
  | step h ih =>
    rw [daysBeforeYear_succ (Nat.le_trans ha h)]
    exact Nat.le_add_right_of_le ih

theorem startOf_monthLengths_le : ∀ leap, ∀ i < 12, ∀ j ≤ 12, i < j →
    startOf (monthLengths leap) i + (monthLengths leap)[i]?.getD 0 ≤
      startOf (monthLengths leap) j := by
  decide

theorem startOf_monthLengths_twelve (year : Nat) :
    startOf (monthLengths (isLeap year)) 12 = yearLength year := by
  unfold yearLength
  cases isLeap year <;> rfl

variable {d e : Date}

theorem IsValid.day_le_month (h : d.IsValid) {month : Nat} (hlater : d.month < month)
    (htwelve : month ≤ 13) :
    startOf (monthLengths (isLeap d.year)) (d.month - 1) + d.day ≤
      startOf (monthLengths (isLeap d.year)) (month - 1) := by
  obtain ⟨-, -, hmonth, -, -, hday⟩ := h
  have := startOf_monthLengths_le (isLeap d.year) (d.month - 1) (by omega) (month - 1) (by omega)
    (by omega)
  unfold monthLength at hday
  omega

theorem IsValid.toDay_lt_year (h : d.IsValid) {year : Nat} (hlater : d.year < year) :
    d.toDay < daysBeforeYear year := by
  have hlast := h.day_le_month (Nat.lt_succ_of_le h.2.2.2.1) (Nat.le_refl 13)
  obtain ⟨hyear, -, -, -, hday, -⟩ := h
  have hnext := daysBeforeYear_succ hyear
  have hmono := daysBeforeYear_le (Nat.le_add_left 1 d.year) (Nat.succ_le_of_lt hlater)
  rw [Nat.succ_sub_one, startOf_monthLengths_twelve] at hlast
  unfold toDay
  omega

def Before (d e : Date) : Prop :=
  d.year < e.year ∨ d.year = e.year ∧ (d.month < e.month ∨ d.month = e.month ∧ d.day < e.day)

theorem IsValid.toDay_lt_of_before (hd : d.IsValid) (he : e.IsValid) (h : d.Before e) :
    d.toDay < e.toDay := by
  rcases h with h | ⟨hyear, h | ⟨hmonth, h⟩⟩
  · have := hd.toDay_lt_year h
    unfold toDay at *
    omega
  · obtain ⟨-, -, -, htwelve, -, -⟩ := he
    have := hd.day_le_month h (by omega)
    obtain ⟨-, -, -, -, hday, -⟩ := hd
    unfold toDay
    rw [← hyear]
    omega
  · obtain ⟨-, -, -, -, hday, -⟩ := hd
    unfold toDay
    rw [← hyear, ← hmonth]
    omega

theorem before_trichotomy (d e : Date) : d.Before e ∨ d = e ∨ e.Before d := by
  obtain ⟨y, m, a⟩ := d
  obtain ⟨y', m', a'⟩ := e
  simp only [Before, mk.injEq]
  omega

theorem IsValid.toDay_lt_iff (hd : d.IsValid) (he : e.IsValid) :
    d.toDay < e.toDay ↔ d.Before e := by
  refine ⟨fun h => ?_, hd.toDay_lt_of_before he⟩
  rcases before_trichotomy d e with hbefore | rfl | hafter
  · exact hbefore
  · omega
  · have := he.toDay_lt_of_before hd hafter
    omega

theorem IsValid.toDay_eq_iff (hd : d.IsValid) (he : e.IsValid) : d.toDay = e.toDay ↔ d = e := by
  refine ⟨fun h => ?_, fun h => h ▸ rfl⟩
  rcases before_trichotomy d e with hbefore | heq | hafter
  · have := hd.toDay_lt_of_before he hbefore
    omega
  · exact heq
  · have := he.toDay_lt_of_before hd hafter
    omega

theorem dateText_append_lt (hd : d.IsValid) (he : e.IsValid) {x y : List Char} :
    dateText d ++ x < dateText e ++ y ↔ d.toDay < e.toDay ∨ d.toDay = e.toDay ∧ x < y := by
  have hlength := monthLength_lt
  rw [hd.toDay_lt_iff he, hd.toDay_eq_iff he]
  obtain ⟨-, hyear, -, hmonth, -, hday⟩ := hd
  obtain ⟨-, hyear', -, hmonth', -, hday'⟩ := he
  have hd := hlength d
  have he := hlength e
  rw [lastYear] at hyear hyear'
  obtain ⟨y, m, a⟩ := d
  obtain ⟨y', m', a'⟩ := e
  simp only [dateText, List.append_assoc, List.cons_append, Before, mk.injEq] at *
  rw [digits_append_lt (by omega) (by omega), cons_lt_cons_self,
    digits_append_lt (by omega) (by omega), cons_lt_cons_self,
    digits_append_lt (by omega) (by omega)]
  grind

end Date

namespace ClockReading

variable {r s : ClockReading}

def micros (r : ClockReading) : Nat :=
  ((r.hour * 60 + r.minute) * 60 + r.second) * secondMicros + r.micro

theorem IsOpen.micros_lt (h : r.IsOpen) : r.micros < dayMicros := by
  have hhour := h.hour
  have hminute := h.minute
  have hsecond := h.second
  have hmicro := h.micro
  unfold micros dayMicros secondMicros
  omega

theorem timeText_append_lt (hr : r.IsOpen) (hs : s.IsOpen) {x y : List Char} :
    timeText r ++ x < timeText s ++ y ↔ r.micros < s.micros ∨ r.micros = s.micros ∧ x < y := by
  obtain ⟨hhour, hminute, hsecond, hmicro, -⟩ := hr
  obtain ⟨hhour', hminute', hsecond', hmicro', -⟩ := hs
  simp only [timeText, List.append_assoc, List.cons_append]
  rw [digits_append_lt (by omega) (by omega), cons_lt_cons_self,
    digits_append_lt (by omega) (by omega), cons_lt_cons_self,
    digits_append_lt (by omega) (by omega), cons_lt_cons_self,
    digits_append_lt (by omega) (by omega)]
  unfold micros secondMicros
  by_cases hxy : x < y <;> simp only [hxy, and_true, and_false, or_false] <;> omega

end ClockReading

namespace Moment

variable {u v : Moment}

theorem wall_eq (u : Moment) : u.wall = u.date.toDay * dayMicros + u.reading.micros := by
  rw [← u.wallOf_eq, wallOf, Nat.add_assoc]
  rfl

theorem utcChars_of_four (h : 1000 ≤ u.date.year) :
    u.utcChars = dateText u.date ++ 'T' :: (timeText u.reading ++ ['Z']) := by
  obtain ⟨width, -, hfour, htext⟩ := u.utcChars_eq
  obtain rfl := hfour.1 h
  rw [htext]
  simp [afterYear, dateText]

theorem utcChars_lt_iff (hu : 1000 ≤ u.date.year) (hv : 1000 ≤ v.date.year) :
    u.utcChars < v.utcChars ↔ u.wall < v.wall := by
  rw [utcChars_of_four hu, utcChars_of_four hv,
    Date.dateText_append_lt u.isValid_date v.isValid_date, cons_lt_cons_self,
    ClockReading.timeText_append_lt u.isOpen_reading v.isOpen_reading, u.wall_eq, v.wall_eq]
  have hless := u.isOpen_reading.micros_lt
  have hless' := v.isOpen_reading.micros_lt
  simp only [List.lt_irrefl, and_false, or_false]
  unfold dayMicros secondMicros at *
  omega

theorem utcChars_congr (h : u.wall = v.wall) : u.utcChars = v.utcChars := by
  simp only [utcChars, timeChars, date, hour, minute, second, micro, secondOfDay, h]

theorem utcText_lt_iff (hu : 1000 ≤ u.date.year) (hv : 1000 ≤ v.date.year) :
    String.ofList u.utcChars < String.ofList v.utcChars ↔ u.wall < v.wall := by
  rw [String.lt_iff, String.toList_ofList, String.toList_ofList, utcChars_lt_iff hu hv]

theorem utcText_eq_iff (hu : 1000 ≤ u.date.year) (hv : 1000 ≤ v.date.year) :
    String.ofList u.utcChars = String.ofList v.utcChars ↔ u.wall = v.wall := by
  refine ⟨fun h => ?_, fun h => congrArg String.ofList (utcChars_congr h)⟩
  have hnot := (utcText_lt_iff hu hv).not.1 (h ▸ String.lt_irrefl _)
  have hnot' := (utcText_lt_iff hv hu).not.1 (h ▸ String.lt_irrefl _)
  omega

theorem offset_of_ofWall? {wall : Int} {offset : Option Int} {m : Moment}
    (h : ofWall? wall offset = some m) : m.offset = offset := by
  unfold ofWall? at h
  split at h
  · cases h
    rfl
  · cases h

end Moment

def Yields {ε α : Type} (P : α → Prop) (x : Except ε α) : Prop :=
  ∀ a, x = .ok a → P a

section Yields

variable {ε α β : Type} {P : β → Prop}

theorem yields_throw (e : ε) : Yields P (throw e : Except ε β) := by
  intro b h
  cases h

theorem yields_pure {b : β} (h : P b) : Yields P (pure b : Except ε β) := by
  intro c hc
  cases hc
  exact h

theorem yields_bind {x : Except ε α} {f : α → Except ε β} (h : ∀ a, Yields P (f a)) :
    Yields P (x >>= f) := by
  cases x with
  | error e => exact yields_throw e
  | ok a => exact h a

end Yields

theorem yields_storedInstant (s : String) :
    Yields (fun m : Moment => m.offset = some 0) (storedInstant s) := by
  unfold storedInstant
  dsimp only
  repeat' first
    | exact yields_throw _
    | refine yields_bind fun _ => ?_
    | split
  all_goals exact yields_pure (Moment.offset_of_ofWall? ‹_›)

theorem offset_of_readStored {s : String} {m : Moment} (h : readStored s = .ok m) :
    m.offset = some 0 := by
  rw [readStored] at h
  exact yields_storedInstant _ m h

end AnalysisWebhooks.Calendar
