import AnalysisWebhooks.Proofs.Calendar.Order
import Mathlib.Data.List.Forall2

namespace AnalysisWebhooks.Calendar

open Decimal

structure IsWholeMinutes (offset : Int) : Prop where
  minutes : offset % 60 = 0
  lt_day : offset.natAbs < 86400

theorem isWholeMinutes_zero : IsWholeMinutes 0 := ⟨by decide, by decide⟩

theorem isWholeMinutes_of_clock {sign : Int} {hours minutes : Nat} (hsign : sign = 1 ∨ sign = -1)
    (hhours : hours < 24) (hminutes : minutes < 60) :
    IsWholeMinutes (sign * (hours * 3600 + minutes * 60)) := by
  rcases hsign with rfl | rfl <;> constructor <;> omega

def Gives {α : Type} (P : α → Prop) (x : Option α) : Prop :=
  ∀ a, x = some a → P a

section Gives

variable {α β : Type} {P : β → Prop}

theorem gives_none : Gives P none := by
  intro b h
  cases h

theorem gives_some {b : β} (h : P b) : Gives P (some b) := by
  intro c hc
  cases hc
  exact h

theorem gives_bind {x : Option α} {f : α → Option β} (h : ∀ a, x = some a → Gives P (f a)) :
    Gives P (x >>= f) := by
  cases x with
  | none => exact gives_none
  | some a => exact h a rfl

end Gives

theorem gives_requestOffset? (s : List Char) :
    Gives (fun offset => IsWholeMinutes (offset.getD 0)) (requestOffset? s) := by
  cases s with
  | nil => exact gives_some isWholeMinutes_zero
  | cons c rest =>
    rw [requestOffset?]
    split
    · split
      · exact gives_some isWholeMinutes_zero
      · exact gives_none
    · dsimp only
      repeat' first
        | exact gives_none
        | refine gives_bind fun _ _ => ?_
        | split
      -- in either branch the sign is a number, and the hours and minutes are in their ranges
      all_goals
        rename_i hsign _ _ _ _ hrange
        cases hsign
        exact gives_some (isWholeMinutes_of_clock (by decide) hrange.1 hrange.2.1)

theorem gives_requestTime? (s : List Char) :
    Gives (fun time : Nat × Option Int => IsWholeMinutes (time.2.getD 0)) (requestTime? s) := by
  unfold requestTime?
  dsimp only
  repeat' first
    | exact gives_none
    | refine gives_bind fun _ _ => ?_
    | split
  all_goals exact gives_some (gives_requestOffset? _ _ ‹_›)

namespace Moment

def HasPublicOffset (m : Moment) : Prop :=
  IsWholeMinutes (m.offset.getD 0)

theorem gives_ofWall? {wall : Int} {offset : Option Int} (h : IsWholeMinutes (offset.getD 0)) :
    Gives HasPublicOffset (ofWall? wall offset) := by
  intro m hm
  rw [HasPublicOffset, offset_of_ofWall? hm]
  exact h

end Moment

theorem gives_ofSeconds? (seconds : Int) (micros : Nat) :
    Gives Moment.HasPublicOffset (ofSeconds? seconds micros) :=
  Moment.gives_ofWall? isWholeMinutes_zero

theorem gives_ofCount? (n : Int) : Gives Moment.HasPublicOffset (ofCount? n) := by
  unfold ofCount?
  split <;> exact gives_ofSeconds? _ _

theorem gives_ofReal? (x : Float) : Gives Moment.HasPublicOffset (ofReal? x) := by
  unfold ofReal?
  dsimp only
  repeat' first
    | exact gives_none
    | exact gives_ofSeconds? _ _
    | split

theorem gives_calendarMoment? (s : List Char) :
    Gives Moment.HasPublicOffset (calendarMoment? s) := by
  unfold calendarMoment?
  dsimp only
  repeat' first
    | exact gives_none
    | refine gives_bind fun _ _ => ?_
    | split
  case h_1.isTrue htime _ =>
    cases htime
    exact Moment.gives_ofWall? isWholeMinutes_zero
  case h_2.isTrue htime _ => exact Moment.gives_ofWall? (gives_requestTime? _ _ htime)

theorem gives_countMoment? (s : List Char) : Gives Moment.HasPublicOffset (countMoment? s) := by
  unfold countMoment?
  dsimp only
  repeat' first
    | exact gives_none
    | exact gives_ofReal? _
    | exact gives_ofCount? _
    | split

theorem gives_requestMoment? (s : String) : Gives Moment.HasPublicOffset (requestMoment? s) := by
  unfold requestMoment?
  split
  · rename_i hcount
    exact gives_some (gives_countMoment? _ _ hcount)
  · exact gives_calendarMoment? _

def zoneText (offset : Int) : List Char :=
  (if offset < 0 then '-' else '+') ::
    (digits 2 (offset.natAbs / 3600) ++ digits 2 (offset.natAbs / 60 % 60))

def clockText (m : Moment) : List Char :=
  digits 2 m.hour ++ ':' :: (digits 2 m.minute ++ ':' :: digits 2 m.second)

def Fits (place c : Char) : Prop :=
  if place = '0' then isDigit c = true else if place = '+' then c = '+' ∨ c = '-' else c = place

theorem fits_digits (width n : Nat) :
    List.Forall₂ Fits (List.replicate width '0') (digits width n) := by
  induction width generalizing n with
  | zero => exact .nil
  | succ width ih =>
    rw [List.replicate_succ', digits]
    exact List.rel_append (ih _) (.cons (isDigit_digitChar (by omega)) .nil)

theorem fits_dateText (d : Date) : List.Forall₂ Fits "0000-00-00".toList (dateText d) :=
  List.rel_append (fits_digits 4 _) <| .cons rfl <|
    List.rel_append (fits_digits 2 _) <| .cons rfl (fits_digits 2 _)

theorem fits_clockText (m : Moment) : List.Forall₂ Fits "00:00:00".toList (clockText m) :=
  List.rel_append (fits_digits 2 _) <| .cons rfl <|
    List.rel_append (fits_digits 2 _) <| .cons rfl (fits_digits 2 _)

theorem fits_zoneText (offset : Int) : List.Forall₂ Fits "+0000".toList (zoneText offset) := by
  refine .cons ?_ (List.rel_append (fits_digits 2 _) (fits_digits 2 _))
  split
  · exact .inr rfl
  · exact .inl rfl

section Reading

variable {offset : Int} {m : Moment}

theorem offsetChars_eq_zoneText (h : IsWholeMinutes offset) :
    offsetChars [] offset = zoneText offset := by
  obtain ⟨hminutes, hday⟩ := h
  have hseconds : offset.natAbs % 60 = 0 := by omega
  rw [offsetChars, padded_eq_digits (by omega), padded_eq_digits (by omega), zoneText]
  simp [hseconds]

theorem timeChars_eq_clockText (m : Moment) : timeChars m = clockText m := by
  have hhour := m.hour_lt
  have hminute := m.minute_lt
  have hsecond := m.second_lt
  rw [timeChars, padded_eq_digits (by omega), padded_eq_digits (by omega),
    padded_eq_digits (by omega)]
  rfl

theorem requestOffset?_clock {sign : Char} {unit : Int} {hours minutes : Nat}
    (hsign : sign = '+' ∧ unit = 1 ∨ sign = '-' ∧ unit = -1) (hhours : hours < 24)
    (hminutes : minutes < 60) :
    requestOffset? (sign :: (digits 2 hours ++ digits 2 minutes)) =
      some (some (unit * (hours * 3600 + minutes * 60))) := by
  have readHours := twoDigits?_digits (n := hours) (by omega) (digits 2 minutes)
  have readMinutes := twoDigits?_digits (n := minutes) (by omega) []
  rw [List.append_nil] at readMinutes
  obtain ⟨a, b, hab, ha, -⟩ := exists_digits_two minutes
  have hcolon : a ≠ ':' := ne_of_isDigit ha (by decide)
  -- a colon after the hours would be skipped, so the first digit of the minutes has to be seen
  rw [hab] at readHours readMinutes ⊢
  rw [requestOffset?]
  rcases hsign with ⟨rfl, rfl⟩ | ⟨rfl, rfl⟩ <;>
    simp [readHours, readMinutes, hcolon, hhours, hminutes]

theorem requestOffset?_zoneText (h : IsWholeMinutes offset) :
    requestOffset? (zoneText offset) = some (some offset) := by
  obtain ⟨hminutes, hday⟩ := h
  rw [zoneText]
  split
  · rw [requestOffset?_clock (.inr ⟨rfl, rfl⟩) (by omega) (by omega)]
    congr 2
    omega
  · rw [requestOffset?_clock (.inl ⟨rfl, rfl⟩) (by omega) (by omega)]
    congr 2
    omega

theorem splitDigits_digits {width n : Nat} {c : Char} (hc : isDigit c = false)
    (rest : List Char) :
    splitDigits (digits width n ++ c :: rest) = (digits width n, c :: rest) := by
  have hdigits : ∀ d ∈ digits width n, isDigit d = true := fun d hd => isDigit_of_mem_digits hd
  rw [splitDigits, List.takeWhile_append_of_pos hdigits, List.dropWhile_append_of_pos hdigits]
  simp [hc]

theorem splitSign_digits (width n : Nat) (rest : List Char) :
    splitSign (digits (width + 1) n ++ rest) = (false, digits (width + 1) n ++ rest) := by
  obtain ⟨c, more, hdigits⟩ :=
    List.exists_cons_of_ne_nil (List.ne_nil_of_length_eq_add_one (length_digits (width + 1) n))
  have hc : isDigit c = true := isDigit_of_mem_digits (hdigits ▸ List.mem_cons_self)
  have hminus : c ≠ '-' := ne_of_isDigit hc (by decide)
  have hplus : c ≠ '+' := ne_of_isDigit hc (by decide)
  rw [hdigits]
  simp [splitSign, hminus, hplus]

theorem countMoment?_dateText (d : Date) (rest : List Char) :
    countMoment? (dateText d ++ rest) = none := by
  have hfour : (digits 4 d.year).isEmpty = false := rfl
  rw [dateText, List.append_assoc, List.cons_append, countMoment?, splitSign_digits]
  dsimp only
  rw [splitPlain, splitDigits_digits (by decide)]
  simp [hfour]

theorem exists_sign (offset : Int) :
    ∃ sign rest, zoneText offset = sign :: rest ∧ (sign = '+' ∨ sign = '-') := by
  refine ⟨_, _, rfl, ?_⟩
  split
  · exact .inr rfl
  · exact .inl rfl

theorem requestTime?_clockText (h : IsWholeMinutes offset) :
    requestTime? (clockText m ++ zoneText offset) =
      some (((m.hour * 60 + m.minute) * 60 + m.second) * secondMicros, some offset) := by
  have hhour := m.hour_lt
  have hminute := m.minute_lt
  have hsecond := m.second_lt
  have readSecond := twoDigits?_digits (n := m.second) (by omega) (zoneText offset)
  have readMinute := twoDigits?_digits (n := m.minute) (by omega)
    (':' :: (digits 2 m.second ++ zoneText offset))
  have readHour := twoDigits?_digits (n := m.hour) (by omega)
    (':' :: (digits 2 m.minute ++ ':' :: (digits 2 m.second ++ zoneText offset)))
  have readOffset := requestOffset?_zoneText h
  obtain ⟨sign, rest, hzone, hsign⟩ := exists_sign offset
  have hpoint : ¬ (sign = '.' ∨ sign = ',') := by
    rcases hsign with rfl | rfl <;> decide
  rw [clockText, requestTime?]
  rw [hzone] at readHour readMinute readSecond readOffset ⊢
  simp [readHour, readMinute, readSecond, readOffset, skipOne?, hpoint, hhour, hminute, hsecond]

theorem calendarMoment?_dateText {d : Date} (hd : d.IsValid) {time : List Char} {micros : Nat}
    {told : Option Int} (h : requestTime? time = some (micros, told)) :
    calendarMoment? (dateText d ++ 'T' :: time) =
      Moment.ofWall? (d.toDay * dayMicros + micros) told := by
  have hlength := monthLength_lt d
  obtain ⟨-, hyear, -, hmonth, -, hday⟩ := id hd
  rw [Date.lastYear] at hyear
  have readDay := twoDigits?_digits (n := d.day) (by omega) ('T' :: time)
  have readMonth := twoDigits?_digits (n := d.month) (by omega)
    ('-' :: (digits 2 d.day ++ 'T' :: time))
  have readYear := fourDigits?_digits (n := d.year) (by omega)
    ('-' :: (digits 2 d.month ++ '-' :: (digits 2 d.day ++ 'T' :: time)))
  rw [dateText]
  simp only [List.append_assoc, List.cons_append]
  rw [calendarMoment?, readYear]
  have skipDash (rest : List Char) : skipOne? ['-'] ('-' :: rest) = some rest := rfl
  have skipT (rest : List Char) : skipOne? ['T', 't', '_', ' '] ('T' :: rest) = some rest := rfl
  simp only [Option.bind_eq_bind, Option.bind_some, skipDash, readMonth, readDay, skipT, h]
  exact if_pos hd

end Reading

namespace Moment

variable {m : Moment}

def toSecond (m : Moment) : Moment where
  wall := m.wall - m.wall % secondMicros
  offset := some (m.offset.getD 0)
  inRange := Nat.lt_of_le_of_lt (Nat.sub_le _ _) m.inRange

theorem publicText_of_four (h : m.HasPublicOffset) (four : 1000 ≤ m.date.year) :
    m.publicText.toList =
      dateText m.date ++ 'T' :: (clockText m ++ zoneText (m.offset.getD 0)) := by
  obtain ⟨-, hyear, -, hmonth, -, hday⟩ := m.isValid_date
  have hlength := monthLength_lt m.date
  rw [Date.lastYear] at hyear
  have yearChars : Nat.toDigits 10 m.date.year = digits 4 m.date.year :=
    toDigits_eq_digits (by omega) (by omega)
  rw [publicText, String.toList_ofList, dateChars, padded_one, yearChars,
    padded_eq_digits (by omega), padded_eq_digits (by omega), timeChars_eq_clockText,
    offsetChars_eq_zoneText h]
  rfl

theorem fits_publicText (h : m.HasPublicOffset) (four : 1000 ≤ m.date.year) :
    List.Forall₂ Fits "0000-00-00T00:00:00+0000".toList m.publicText.toList := by
  rw [publicText_of_four h four]
  exact List.rel_append (fits_dateText _) <| .cons rfl <|
    List.rel_append (fits_clockText m) (fits_zoneText _)

theorem ofWall?_natCast {wall : Nat} (h : wall < span) (offset : Option Int) :
    ofWall? wall offset = some ⟨wall, offset, h⟩ := by
  rw [ofWall?, dif_pos ⟨Int.natCast_nonneg wall, h⟩]
  rfl

theorem wall_toSecond (m : Moment) : m.toSecond.wall =
    m.date.toDay * dayMicros + ((m.hour * 60 + m.minute) * 60 + m.second) * secondMicros := by
  have hwall := m.wallOf_eq
  unfold wallOf micro at hwall
  unfold toSecond
  dsimp only
  omega

theorem requestMoment?_publicText (h : m.HasPublicOffset) (four : 1000 ≤ m.date.year) :
    requestMoment? m.publicText = some m.toSecond := by
  rw [requestMoment?, publicText_of_four h four, countMoment?_dateText]
  dsimp only
  rw [calendarMoment?_dateText m.isValid_date (requestTime?_clockText h),
    ← Int.natCast_mul, ← Int.natCast_add, ← wall_toSecond]
  exact ofWall?_natCast m.toSecond.inRange _

theorem instant_toSecond (m : Moment) :
    m.toSecond.instant = m.instant - m.instant % secondMicros := by
  have hwall := Nat.mod_le m.wall secondMicros
  unfold instant toSecond secondMicros at *
  simp only [Option.getD_some]
  omega

end Moment

end AnalysisWebhooks.Calendar
