import AnalysisWebhooks.Proofs.Calendar.Days
import AnalysisWebhooks.Proofs.Calendar.Digits

namespace AnalysisWebhooks.Calendar

open Decimal Text

theorem ne_of_isDigit {c other : Char} (h : isDigit c = true) (hother : isDigit other = false) :
    c ≠ other := by
  rintro rfl
  rw [h] at hother
  cases hother

theorem exists_digits_two (n : Nat) :
    ∃ a b, digits 2 n = [a, b] ∧ isDigit a = true ∧ isDigit b = true :=
  ⟨_, _, rfl, isDigit_digitChar (by omega), isDigit_digitChar (by omega)⟩

def dateText (d : Date) : List Char :=
  digits 4 d.year ++ '-' :: (digits 2 d.month ++ '-' :: digits 2 d.day)

theorem dateFields?_dateText {d : Date} (hyear : d.year < 10000) (hmonth : d.month < 100)
    (hday : d.day < 100) : dateFields? (dateText d) = some (.calendar d) := by
  have readMonth := twoDigits?_digits hmonth ('-' :: digits 2 d.day)
  have readDay := twoDigits?_digits hday []
  rw [List.append_nil] at readDay
  obtain ⟨a, b, hab, ha, -⟩ := exists_digits_two d.month
  have hweek : a ≠ 'W' := ne_of_isDigit ha (by decide)
  rw [dateFields?, dateText, fourDigits?_digits hyear]
  rw [hab] at readMonth ⊢
  simp only [List.cons_append, List.nil_append] at readMonth ⊢
  simp [readMonth, readDay, skipOne?, hweek]

section ReadClock

variable {ended colons : Bool} {r : ClockReading} {places n : Nat} {after : List Char}

theorem readClock?_colon (h : n < 100) (hcolons : places = 2 ∨ colons = true)
    (hafter : after ≠ []) :
    readClock? ended colons r (places + 1) (digits 2 n ++ ':' :: after) =
      readClock? ended true (r.set (2 - places) n) places after := by
  obtain ⟨c, rest, rfl⟩ := List.exists_cons_of_ne_nil hafter
  rw [readClock?, twoDigits?_digits h]
  rcases hcolons with rfl | rfl <;> simp

theorem readClock?_point (h : n < 100) (hplaces : places ≠ 2) (hafter : after ≠ []) :
    readClock? ended true r (places + 1) (digits 2 n ++ '.' :: after) =
      readFraction? ended (r.set (2 - places) n) after := by
  obtain ⟨c, rest, rfl⟩ := List.exists_cons_of_ne_nil hafter
  rw [readClock?, twoDigits?_digits h]
  simp [hplaces]

end ReadClock

theorem readFraction?_digits {ended : Bool} {r : ClockReading} {n : Nat} (h : n < 1000000) :
    readFraction? ended r (digits 6 n) = some { r with micro := n, complete := ended } := by
  have htake : (digits 6 n).take 6 = digits 6 n :=
    List.take_of_length_le (Nat.le_of_eq (length_digits 6 n))
  have hdrop : (digits 6 n).drop 6 = [] :=
    List.drop_of_length_le (Nat.le_of_eq (length_digits 6 n))
  have hall : (digits 6 n).all isDigit = true := by
    rw [List.all_eq_true]
    exact fun c hc => isDigit_of_mem_digits hc
  have hmicros : microsOf (digits 6 n) = n := by
    rw [microsOf, List.take_append_of_le_length (Nat.le_of_eq (length_digits 6 n).symm), htake,
      ofDigits_digits h]
  rw [readFraction?, htake, hdrop, hall, hmicros]
  rfl

def timeText (r : ClockReading) : List Char :=
  digits 2 r.hour ++ ':' :: (digits 2 r.minute ++ ':' ::
    (digits 2 r.second ++ '.' :: digits 6 r.micro))

structure ClockReading.IsOpen (r : ClockReading) : Prop where
  hour : r.hour < 24
  minute : r.minute < 60
  second : r.second < 60
  micro : r.micro < 1000000
  incomplete : r.complete = false

section TimeText

variable {r : ClockReading} (h : r.IsOpen)
include h

theorem readClock?_timeText : readClock? false false {} 3 (timeText r) = some r := by
  rw [timeText, readClock?_colon (Nat.lt_trans h.hour (by decide)) (.inl rfl) (by simp [digits]),
    readClock?_colon (Nat.lt_trans h.minute (by decide)) (.inr rfl) (by simp [digits]),
    readClock?_point (Nat.lt_trans h.second (by decide)) (by decide) (by simp [digits]),
    readFraction?_digits h.micro, ← h.incomplete]
  rfl

omit h in
theorem not_zone_of_mem_timeText {c : Char} (hc : c ∈ timeText r) :
    c ≠ '+' ∧ c ≠ '-' ∧ c ≠ 'Z' := by
  have ofDigit : isDigit c = true → c ≠ '+' ∧ c ≠ '-' ∧ c ≠ 'Z' := fun hc =>
    ⟨ne_of_isDigit hc (by decide), ne_of_isDigit hc (by decide), ne_of_isDigit hc (by decide)⟩
  simp only [timeText, List.mem_append, List.mem_cons] at hc
  rcases hc with hc | rfl | hc | rfl | hc | rfl | hc
  · exact ofDigit (isDigit_of_mem_digits hc)
  · decide
  · exact ofDigit (isDigit_of_mem_digits hc)
  · decide
  · exact ofDigit (isDigit_of_mem_digits hc)
  · decide
  · exact ofDigit (isDigit_of_mem_digits hc)

theorem timeFields?_timeText :
    timeFields? (timeText r ++ "+00:00".toList) = some ⟨r, some 0⟩ := by
  have hzone : ∀ c ∈ timeText r, (!(c = '+' || c = '-' || c = 'Z')) = true := by
    intro c hc
    obtain ⟨hplus, hminus, hz⟩ := not_zone_of_mem_timeText hc
    simp [hplus, hminus, hz]
  have hrest : "+00:00".toList = ['+', '0', '0', ':', '0', '0'] := rfl
  rw [timeFields?, hrest]
  dsimp only
  rw [List.takeWhile_append_of_pos hzone, List.dropWhile_append_of_pos hzone]
  have htake : ['+', '0', '0', ':', '0', '0'].takeWhile
      (fun c => !(c = '+' || c = '-' || c = 'Z')) = [] := by decide
  have hdrop : ['+', '0', '0', ':', '0', '0'].dropWhile
      (fun c => !(c = '+' || c = '-' || c = 'Z')) = ['+', '0', '0', ':', '0', '0'] := by decide
  have hoffset : readClock? true false {} 3 ['0', '0', ':', '0', '0'] = some {} := by decide
  rw [htake, hdrop, List.append_nil, readClock?_timeText h]
  dsimp only
  rw [hoffset]
  rfl

end TimeText

theorem exists_width {n : Nat} (hpos : 1 ≤ n) (h : n ≤ Date.lastYear) :
    ∃ width ≤ 3, 10 ^ width ≤ n ∧ n < 10 ^ (width + 1) ∧ (1000 ≤ n ↔ width = 3) := by
  rw [Date.lastYear] at h
  by_cases h1 : n < 10
  · exact ⟨0, by omega, by omega, by omega, by omega⟩
  by_cases h2 : n < 100
  · exact ⟨1, by omega, by omega, by omega, by omega⟩
  by_cases h3 : n < 1000
  · exact ⟨2, by omega, by omega, by omega, by omega⟩
  · exact ⟨3, by omega, by omega, by omega, by omega⟩

theorem monthLength_lt (d : Date) : d.monthLength < 100 := by
  have all : ∀ leap, ∀ length ∈ monthLengths leap, length < 100 := by decide
  unfold Date.monthLength
  cases h : (monthLengths (isLeap d.year))[d.month - 1]? with
  | none => decide
  | some length => exact all _ _ (List.mem_of_getElem? h)

def afterYear (d : Date) (r : ClockReading) : List Char :=
  '-' :: (digits 2 d.month ++ '-' :: (digits 2 d.day ++ 'T' :: timeText r))

namespace Moment

variable (u : Moment)

def reading : ClockReading :=
  ⟨u.hour, u.minute, u.second, u.micro, false⟩

theorem isOpen_reading : u.reading.IsOpen :=
  ⟨u.hour_lt, u.minute_lt, u.second_lt, u.micro_lt, rfl⟩

theorem utcChars_eq :
    ∃ width ≤ 3, (1000 ≤ u.date.year ↔ width = 3) ∧
      u.utcChars = digits (width + 1) u.date.year ++ (afterYear u.date u.reading ++ ['Z']) := by
  obtain ⟨hfirst, hlast, -, hmonth, -, hday⟩ := u.isValid_date
  obtain ⟨width, hwidth, hlow, hhigh, hfour⟩ := exists_width hfirst hlast
  refine ⟨width, hwidth, hfour, ?_⟩
  have hlength := monthLength_lt u.date
  have hhour := u.hour_lt
  have hminute := u.minute_lt
  have hsecond := u.second_lt
  rw [utcChars, dateChars, padded_one, toDigits_eq_digits hlow hhigh, timeChars,
    padded_eq_digits (by omega), padded_eq_digits (by omega), padded_eq_digits (by omega),
    padded_eq_digits (by omega), padded_eq_digits (by omega), padded_eq_digits u.micro_lt]
  simp [reading, afterYear, timeText]

end Moment

theorem trimChars_eq_self {a z : Char} {mid : List Char} (ha : isBlank a = false)
    (hz : isBlank z = false) : trimChars (a :: (mid ++ [z])) = a :: (mid ++ [z]) := by
  rw [trimChars, trimStart, List.dropWhile_cons_of_neg (by simp [ha]), trimEnd]
  simp [hz]

theorem isBlank_of_isDigit {c : Char} (h : isDigit c = true) : isBlank c = false := by
  have hc : 48 ≤ c.toNat ∧ c.toNat ≤ 57 := by
    simpa [isDigit, Char.le_def, UInt32.le_iff_toNat_le] using h
  rw [← Bool.not_eq_true]
  intro hblank
  simp only [isBlank, Bool.or_eq_true, Bool.and_eq_true, decide_eq_true_eq, beq_iff_eq] at hblank
  omega

theorem readStored_zone {a : Char} {rest : List Char} (ha : isDigit a = true) :
    readStored (String.ofList (a :: rest ++ ['Z'])) =
      storedInstant (String.ofList (a :: rest ++ "+00:00".toList)) := by
  have htrim : trimChars (a :: (rest ++ ['Z'])) = a :: (rest ++ ['Z']) :=
    trimChars_eq_self (isBlank_of_isDigit ha) (by decide)
  rw [readStored, String.toList_ofList, List.cons_append, htrim, ← List.cons_append,
    List.getLast?_concat, if_pos rfl, List.dropLast_concat]

theorem dateLength_of_dashes {a b c d e f : Char} {rest : List Char} (he : e ≠ 'W')
    (h : 2 ≤ rest.length) : dateLength (a :: b :: c :: d :: '-' :: e :: f :: rest) = 10 := by
  have hlong : (a :: b :: c :: d :: '-' :: e :: f :: rest).length ≠ 7 := by
    simp only [List.length_cons]
    omega
  rw [dateLength, if_neg hlong]
  simp [he]

theorem exists_digits_four (n : Nat) : ∃ a b c d, digits 4 n = [a, b, c, d] :=
  ⟨_, _, _, _, rfl⟩

theorem Date.check_eq_ok {d : Date} (h : d.IsValid) : d.check = .ok d := by
  obtain ⟨h1, h2, h3, h4, h5, h6⟩ := h
  rw [check, if_neg (by omega), if_neg (by omega), if_neg (by omega)]

theorem ClockReading.check_eq_ok {r : ClockReading} (h : r.IsOpen) : r.check = .ok r := by
  have hhour := h.hour
  have hminute := h.minute
  have hsecond := h.second
  rw [check, if_neg (by omega), if_neg (by omega), if_neg (by omega)]

theorem ok_bind {ε α β : Type} (a : α) (f : α → Except ε β) : Except.ok a >>= f = f a := rfl

section Instant

variable {d : Date} {r : ClockReading}

theorem dateLength_afterYear (zone : List Char) :
    dateLength (digits 4 d.year ++ (afterYear d r ++ zone)) = 10 := by
  obtain ⟨a, b, c, e, hyear⟩ := exists_digits_four d.year
  obtain ⟨f, g, hmonth, hf, -⟩ := exists_digits_two d.month
  rw [hyear, afterYear, hmonth]
  simp only [List.cons_append, List.nil_append]
  refine dateLength_of_dashes (ne_of_isDigit hf (by decide)) ?_
  simp only [List.length_cons, List.length_append, length_digits]
  omega

theorem storedInstant_afterYear {m : Moment} (hd : d.IsValid) (hr : r.IsOpen)
    (h : Moment.ofWall? (Moment.wallOf d r.hour r.minute r.second r.micro) (some 0) = some m) :
    storedInstant (String.ofList (digits 4 d.year ++ (afterYear d r ++ "+00:00".toList))) =
      .ok m := by
  have hlength := monthLength_lt d
  have hsplit : digits 4 d.year ++ (afterYear d r ++ "+00:00".toList) =
      dateText d ++ 'T' :: (timeText r ++ "+00:00".toList) := by
    simp [afterYear, dateText]
  have hten : (dateText d).length = 10 := by
    simp [dateText, length_digits]
  have hfields : dateFields? (dateText d) = some (.calendar d) := by
    obtain ⟨-, hyear, -, hmonth, -, hday⟩ := hd
    rw [Date.lastYear] at hyear
    exact dateFields?_dateText (by omega) (by omega) (by omega)
  rw [storedInstant, String.toList_ofList, dateLength_afterYear, hsplit]
  dsimp only
  rw [List.take_left' hten, List.drop_left' hten, hfields, if_neg]
  · simp only [Option.bind_some, DateFields.date?, pure_bind, Option.getD_some,
      timeFields?_timeText hr]
    rw [if_neg (by decide), Date.check_eq_ok hd, ClockReading.check_eq_ok hr, ok_bind, ok_bind,
      Int.sub_zero, h]
    rfl
  · simp only [List.length_append, hten]
    omega

end Instant

theorem seven_le_dateLength (s : List Char) : 7 ≤ dateLength s := by
  unfold dateLength
  grind

theorem isSome_fourDigits? {s : List Char} (h : (dateFields? s).isSome = true) :
    (fourDigits? s).isSome = true := by
  unfold dateFields? at h
  cases hyear : fourDigits? s with
  | none => simp [hyear] at h
  | some year => rfl

theorem isDigit_of_storedInstant {s : String} {m : Moment} (h : storedInstant s = .ok m) :
    ∀ c ∈ s.toList.take 4, isDigit c = true := by
  have hfields : (dateFields? (s.toList.take (dateLength s.toList))).isSome = true := by
    cases hnone : dateFields? (s.toList.take (dateLength s.toList)) with
    | some fields => rfl
    | none =>
      rw [storedInstant] at h
      dsimp only at h
      rw [hnone] at h
      split at h <;> cases h
  have hyear := isDigit_of_fourDigits? (isSome_fourDigits? hfields)
  have hlength := seven_le_dateLength s.toList
  rw [List.take_take, Nat.min_eq_left (by omega)] at hyear
  exact hyear

theorem readStored_utcChars {u : Moment} {width : Nat}
    (h : u.utcChars = digits (width + 1) u.date.year ++ (afterYear u.date u.reading ++ ['Z'])) :
    readStored (String.ofList u.utcChars) =
      storedInstant (String.ofList (digits (width + 1) u.date.year ++
        (afterYear u.date u.reading ++ "+00:00".toList))) := by
  have hlength := length_digits (width + 1) u.date.year
  obtain ⟨a, rest, hdigits⟩ :=
    List.exists_cons_of_ne_nil (List.ne_nil_of_length_eq_add_one hlength)
  have ha : isDigit a = true := isDigit_of_mem_digits (hdigits ▸ List.mem_cons_self)
  rw [h, hdigits, ← List.append_assoc, ← List.append_assoc, List.cons_append]
  exact readStored_zone ha

theorem readStored_utcText {u : Moment} (h : 1000 ≤ u.date.year) :
    readStored (String.ofList u.utcChars) = .ok ⟨u.wall, some 0, u.inRange⟩ := by
  obtain ⟨width, -, hfour, htext⟩ := u.utcChars_eq
  obtain rfl := hfour.1 h
  have hwall : Moment.wallOf u.date u.reading.hour u.reading.minute u.reading.second
      u.reading.micro = u.wall := u.wallOf_eq
  rw [readStored_utcChars htext]
  refine storedInstant_afterYear u.isValid_date u.isOpen_reading ?_
  rw [hwall]
  exact u.ofWall?_wall

theorem exists_readStored_utcChars (u : Moment) :
    (∃ m, readStored (String.ofList u.utcChars) = .ok m) ↔ 1000 ≤ u.date.year := by
  obtain ⟨width, hwidth, hfour, htext⟩ := u.utcChars_eq
  rw [readStored_utcChars htext, hfour]
  constructor
  · rintro ⟨m, h⟩
    by_cases hthree : width = 3
    · exact hthree
    · -- the dash after a shorter year stands where its last digit would be
      obtain ⟨rest, hrest⟩ : ∃ rest, 4 - (width + 1) = rest + 1 := ⟨2 - width, by omega⟩
      have hdash : '-' ∈ (digits (width + 1) u.date.year ++
          (afterYear u.date u.reading ++ "+00:00".toList)).take 4 := by
        rw [List.take_append, length_digits, afterYear, hrest]
        simp
      have hdigit := isDigit_of_storedInstant h '-' (by rwa [String.toList_ofList])
      exact absurd hdigit (by decide)
  · intro h
    exact ⟨_, (readStored_utcChars htext).symm.trans (readStored_utcText (hfour.2 h))⟩

end AnalysisWebhooks.Calendar
