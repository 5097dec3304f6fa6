import AnalysisWebhooks.Calendar.Moment

namespace AnalysisWebhooks.Calendar

def padded (width n : Nat) : List Char :=
  let digits := Nat.toDigits 10 n
  List.replicate (width - digits.length) '0' ++ digits

def dateChars (yearWidth : Nat) (d : Date) : List Char :=
  padded yearWidth d.year ++ '-' :: (padded 2 d.month ++ '-' :: padded 2 d.day)

def timeChars (m : Moment) : List Char :=
  padded 2 m.hour ++ ':' :: (padded 2 m.minute ++ ':' :: padded 2 m.second)

def offsetChars (separator : List Char) (offset : Int) : List Char :=
  let n := offset.natAbs
  let seconds := if n % 60 = 0 then [] else separator ++ padded 2 (n % 60)
  (if offset < 0 then '-' else '+') ::
    (padded 2 (n / 3600) ++ separator ++ padded 2 (n / 60 % 60) ++ seconds)

namespace Moment

def isoText (m : Moment) : String :=
  let fraction := if m.micro = 0 then [] else '.' :: padded 6 m.micro
  let offset := match m.offset with
    | none => []
    | some offset => offsetChars [':'] offset
  String.ofList (dateChars 4 m.date ++ 'T' :: (timeChars m ++ fraction ++ offset))

def publicText (m : Moment) : String :=
  String.ofList
    (dateChars 1 m.date ++ 'T' :: (timeChars m ++ offsetChars [] (m.offset.getD 0)))

def utcChars (m : Moment) : List Char :=
  dateChars 1 m.date ++ 'T' :: (timeChars m ++ '.' :: (padded 6 m.micro ++ ['Z']))

def storedText? (m : Moment) : Option String :=
  m.toUtc?.map fun u => String.ofList u.utcChars

end Moment

end AnalysisWebhooks.Calendar
