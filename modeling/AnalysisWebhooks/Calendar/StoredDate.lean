import AnalysisWebhooks.Calendar.RequestDate
import AnalysisWebhooks.Text.Quoted

namespace AnalysisWebhooks.Calendar

open Decimal Text

inductive StoredDateFault where
  | shape (text : String)
  | year (year : Nat)
  | month
  | day
  | hour
  | minute
  | second
  | offset (micros : Int)
  | range
deriving DecidableEq, Repr

def durationText (micros : Int) : String :=
  let days := micros / dayMicros
  let rest := (micros % dayMicros).toNat
  let part (name : String) (n : Int) : List String :=
    if n = 0 then [] else [name ++ "=" ++ toString n]
  let parts := part "days" days ++ part "seconds" (rest / secondMicros : Nat) ++
    part "microseconds" (rest % secondMicros : Nat)
  "datetime.timedelta(" ++ (if parts.isEmpty then "0" else ", ".intercalate parts) ++ ")"

def StoredDateFault.message : StoredDateFault → String
  | shape text => "Invalid isoformat string: " ++ quoted text
  | year y => "year " ++ toString y ++ " is out of range"
  | month => "month must be in 1..12"
  | day => "day is out of range for month"
  | hour => "hour must be in 0..23"
  | minute => "minute must be in 0..59"
  | second => "second must be in 0..59"
  | offset micros => "offset must be a timedelta strictly between -timedelta(hours=24) and " ++
      "timedelta(hours=24), not " ++ durationText micros ++ "."
  | range => "date value out of range"

inductive DateFields where
  | calendar (date : Date)
  | week (year week weekday : Nat)
deriving DecidableEq, Repr

def dateLength (s : List Char) : Nat :=
  let at_ (i : Nat) : Char := s[i]?.getD '\x00'
  if s.length = 7 then 7
  else if at_ 4 = '-' then
    if at_ 5 = 'W' then
      if s.length > 8 && at_ 8 = '-' then
        if s.length > 10 && isDigit (at_ 10) then 8 else 10
      else 8
    else 10
  else if at_ 4 = 'W' then
    let digits := 7 + ((s.drop 7).takeWhile isDigit).length
    if digits < 9 then digits else if digits % 2 = 0 then 7 else 8
  else 8

def dateFields? (s : List Char) : Option DateFields := do
  let (year, rest) ← fourDigits? s
  let (separated, rest) := match rest with
    | '-' :: after => (true, after)
    | _ => (false, rest)
  let skip (s : List Char) : Option (List Char) := if separated then skipOne? ['-'] s else some s
  match rest with
  | 'W' :: after => do
    let (week, rest) ← twoDigits? after
    match rest with
    | [] => some (.week year week 1)
    | _ =>
      match ← skip rest with
      | [c] => if isDigit c then some (.week year week (ofDigits [c])) else none
      | _ => none
  | _ => do
    let (month, rest) ← twoDigits? rest
    let (day, rest) ← twoDigits? (← skip rest)
    if rest.isEmpty then some (.calendar ⟨year, month, day⟩) else none

structure ClockReading where
  hour : Nat := 0
  minute : Nat := 0
  second : Nat := 0
  micro : Nat := 0
  complete : Bool := true
deriving DecidableEq, Repr

def ClockReading.set (r : ClockReading) (place value : Nat) : ClockReading :=
  if place = 0 then { r with hour := value }
  else if place = 1 then { r with minute := value }
  else { r with second := value }

def atEnd (ended : Bool) : List Char → Bool
  | [] => ended
  | c :: _ => c = '\x00'

def readFraction? (ended : Bool) (r : ClockReading) (s : List Char) : Option ClockReading :=
  let counted := s.take 6
  if counted.all isDigit then
    let rest := s.drop 6 |>.dropWhile isDigit
    some { r with micro := microsOf counted, complete := atEnd ended rest }
  else none

def readClock? (ended : Bool) (colons : Bool) (r : ClockReading) :
    (places : Nat) → List Char → Option ClockReading
  | 0, s => readFraction? ended r s
  | places + 1, s =>
    match twoDigits? s with
    | none => none
    | some (value, rest) =>
      let r := r.set (2 - places) value
      match rest with
      | [] => some { r with complete := atEnd ended rest }
      | [c] => if c.toNat < 128 then some { r with complete := atEnd ended rest } else none
      | c :: after =>
        let colons := if places = 2 then c = ':' else colons
        if colons && c = ':' then readClock? ended colons r places after
        else if c = '.' ∨ c = ',' then readFraction? ended r after
        else if colons then none
        else readClock? ended colons r places (c :: after)

structure TimeFields where
  clock : ClockReading
  offset : Option Int
deriving DecidableEq, Repr

def timeFields? (s : List Char) : Option TimeFields := do
  let isZone (c : Char) : Bool := c = '+' || c = '-' || c = 'Z'
  let time := s.takeWhile (!isZone ·)
  match s.dropWhile (!isZone ·) with
  | [] => do
    let clock ← readClock? true false {} 3 time
    if clock.complete then some ⟨clock, none⟩ else none
  | sign :: zone => do
    let clock ← readClock? false false {} 3 time
    if sign = 'Z' then
      if atEnd true zone then some ⟨clock, some 0⟩ else none
    else do
      let z ← readClock? true false {} 3 zone
      let seconds := z.hour * 3600 + z.minute * 60 + z.second
      let micros : Int := if seconds = 0 then 0 else seconds * secondMicros + z.micro
      if z.complete then some ⟨clock, some (if sign = '-' then -micros else micros)⟩ else none

def Date.check (d : Date) : Except StoredDateFault Date :=
  if d.year < 1 ∨ Date.lastYear < d.year then .error (.year d.year)
  else if d.month < 1 ∨ 12 < d.month then .error .month
  else if d.day < 1 ∨ d.monthLength < d.day then .error .day
  else .ok d

def ClockReading.check (r : ClockReading) : Except StoredDateFault ClockReading :=
  if 24 ≤ r.hour then .error .hour
  else if 60 ≤ r.minute then .error .minute
  else if 60 ≤ r.second then .error .second
  else .ok r

def DateFields.date? : DateFields → Option Date
  | calendar date => some date
  | week year number weekday =>
    if year = 0 then
      if 1 ≤ number ∧ number ≤ 52 ∧ 1 ≤ weekday ∧ weekday ≤ 7 then some ⟨1, 0, 1⟩ else none
    else (Date.dayOfWeek? year number weekday).map Date.ofDay

def storedInstant (s : String) : Except StoredDateFault Moment := do
  let chars := s.toList
  let fault := StoredDateFault.shape s
  if chars.length < 7 then throw fault
  let length := dateLength chars
  let some date := (dateFields? (chars.take length)).bind DateFields.date? | throw fault
  let time : TimeFields ← match chars.drop length with
    | [] => pure ⟨{}, none⟩
    | _ :: after =>
      match timeFields? after with
      | some time => pure time
      | none => throw fault
  let offset := time.offset.getD 0
  if (dayMicros : Int) ≤ offset.natAbs then throw (.offset offset)
  let date ← date.check
  let clock ← time.clock.check
  let wall := Moment.wallOf date clock.hour clock.minute clock.second clock.micro
  match Moment.ofWall? (wall - offset) (some 0) with
  | some m => pure m
  | none => throw .range

def readStored (s : String) : Except StoredDateFault Moment :=
  let chars := trimChars s.toList
  storedInstant <| String.ofList <|
    if chars.getLast? = some 'Z' then chars.dropLast ++ "+00:00".toList else chars

end AnalysisWebhooks.Calendar
