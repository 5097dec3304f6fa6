import AnalysisWebhooks.Calendar.Moment
import AnalysisWebhooks.Decimal.Reading

namespace AnalysisWebhooks.Calendar

open Decimal

def twoDigits? : List Char → Option (Nat × List Char)
  | a :: b :: rest => if isDigit a && isDigit b then some (ofDigits [a, b], rest) else none
  | _ => none

def fourDigits? (s : List Char) : Option (Nat × List Char) := do
  let (high, rest) ← twoDigits? s
  let (low, rest) ← twoDigits? rest
  return (high * 100 + low, rest)

def skipOne? (allowed : List Char) : List Char → Option (List Char)
  | c :: rest => if allowed.contains c then some rest else none
  | [] => none

def microsOf (digits : List Char) : Nat :=
  ofDigits ((digits ++ List.replicate 6 '0').take 6)

def requestOffset? : List Char → Option (Option Int)
  | [] => some none
  | c :: rest =>
    if c = 'Z' ∨ c = 'z' then if rest.isEmpty then some (some 0) else none
    else do
      let sign : Int ←
        if c = '+' then some 1 else if c = '-' ∨ c = '\u2212' then some (-1) else none
      let (hours, rest) ← twoDigits? rest
      let (minutes, rest) ← twoDigits? (match rest with | ':' :: after => after | _ => rest)
      if hours < 24 ∧ minutes < 60 ∧ rest.isEmpty then
        some (some (sign * (hours * 3600 + minutes * 60)))
      else none

def requestTime? (s : List Char) : Option (Nat × Option Int) := do
  let (hour, rest) ← twoDigits? s
  let rest ← skipOne? [':'] rest
  let (minute, rest) ← twoDigits? rest
  let (second, micro, rest) ← match rest with
    | ':' :: after => do
      let (second, rest) ← twoDigits? after
      match rest with
      | c :: after =>
        if c = '.' ∨ c = ',' then
          let (digits, rest) := splitDigits after
          if digits.isEmpty then none else some (second, microsOf digits, rest)
        else some (second, 0, rest)
      | [] => some (second, 0, [])
    | _ => some (0, 0, rest)
  let offset ← requestOffset? rest
  if hour < 24 ∧ minute < 60 ∧ second < 60 then
    some (((hour * 60 + minute) * 60 + second) * secondMicros + micro, offset)
  else none

def calendarMoment? (s : List Char) : Option Moment := do
  let (year, rest) ← fourDigits? s
  let rest ← skipOne? ['-'] rest
  let (month, rest) ← twoDigits? rest
  let rest ← skipOne? ['-'] rest
  let (day, rest) ← twoDigits? rest
  let date : Date := ⟨year, month, day⟩
  let (micros, offset) ← match rest with
    | [] => some (0, none)
    | _ => do requestTime? (← skipOne? ['T', 't', '_', ' '] rest)
  if date.IsValid then Moment.ofWall? (date.toDay * dayMicros + micros) offset else none

def epochMicros : Nat := 719162 * dayMicros

def lastSecondsCount : Nat := 20000000000

def ofSeconds? (seconds : Int) (micros : Nat) : Option Moment :=
  Moment.ofWall? (epochMicros + seconds * secondMicros + micros) (some 0)

def ofCount? (n : Int) : Option Moment :=
  if lastSecondsCount < n.natAbs then ofSeconds? (n / 1000) ((n % 1000).toNat * 1000)
  else ofSeconds? n 0

def ofReal? (x : Float) : Option Moment :=
  let seconds := if x.abs > Float.ofNat lastSecondsCount then x / 1000 else x
  match Binary.ofFloat seconds with
  | .finite d =>
    -- far more than the years hold, and small enough to count exactly
    if seconds.abs > 1e15 then none
    else
      match truncated? ((seconds - seconds.floor) * 1e6).round with
      | some micros => ofSeconds? d.floor micros.toNat
      | none => none
  | _ => none

def countMoment? (s : List Char) : Option Moment :=
  let (negative, unsigned) := splitSign s
  match splitPlain splitDigits unsigned with
  | some (plain, []) =>
    if unsigned.contains '.' then
      ofReal? (floatOfDigits negative (ofDigits plain.digits) (-plain.places))
    else ofCount? (if negative then -(ofDigits plain.digits) else ofDigits plain.digits)
  | _ => none

def requestMoment? (s : String) : Option Moment :=
  match countMoment? s.toList with
  | some m => some m
  | none => calendarMoment? s.toList

end AnalysisWebhooks.Calendar
