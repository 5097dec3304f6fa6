import AnalysisWebhooks.Calendar.RequestDate
import AnalysisWebhooks.Calendar.StoredDate
import AnalysisWebhooks.Check.Basic
import AnalysisWebhooks.Json.Basic

namespace AnalysisWebhooks.Check

open Calendar Decimal

def text : Json → Check RawText
  | .text s => ok s
  | _ => fail .notText

def plainText : Json → Check String
  | .text (.plain s) => ok s
  | .text _ => fail .notUnicode
  | _ => fail .notText

def falseWords : List String := ["0", "off", "f", "false", "n", "no"]

def trueWords : List String := ["1", "on", "t", "true", "y", "yes"]

def boolean : Json → Check Bool
  | .bool b => ok b
  | .int n =>
    if n = 0 then ok false else if n = 1 then ok true else fail .unreadableBoolean
  | .real x =>
    if x == 0 then ok false else if x == 1 then ok true else fail .notBoolean
  | .text (.plain s) =>
    let word := String.ofList (asciiLower s.toList)
    if falseWords.contains word then ok false
    else if trueWords.contains word then ok true
    else fail .unreadableBoolean
  | .text _ => fail .notUnicode
  | _ => fail .notBoolean

def wholeBound : Int := 9223372036854775808

def integer : Json → Check Int
  | .int n => ok n
  | .bool b => ok (if b then 1 else 0)
  | .real x =>
    match Binary.ofFloat x with
    | .finite d =>
      if !d.isInteger then fail .fractionalInteger
      else if d.truncated.natAbs < wholeBound.natAbs then ok d.truncated
      else fail .oversizedInteger
    | _ => fail .notFinite
  | .text (.plain s) =>
    match readInteger s with
    | .ok n => ok n
    | .error .notANumber => fail .unreadableInteger
    | .error .tooLong => fail .oversizedInteger
  | .text _ => fail .notUnicode
  | _ => fail .notInteger

def number : Json → Check Float
  | .real x => ok x
  | .int n =>
    match floatOfInt? n with
    | some x => ok x
    | none => fail .notNumber
  | .bool b => ok (if b then 1 else 0)
  | .text (.plain s) =>
    match readFloat? s with
    | some x => ok x
    | none => fail .unreadableNumber
  | .text _ => fail .notUnicode
  | _ => fail .notNumber

def oneOf {α : Type} (names : List (String × α)) : Json → Check α
  | .text (.plain s) =>
    match names.lookup s with
    | some a => ok a
    | none => fail (.notOneOf (names.map (·.1)))
  | .text _ => fail .notUnicode
  | _ => fail (.notOneOf (names.map (·.1)))

def ofMoment? : Option Moment → Check Moment
  | some m => ok m
  | none => fail .unreadableMoment

def moment : Json → Check Moment
  | .text (.plain s) => ofMoment? (requestMoment? s)
  | .text _ => fail .notUnicode
  | .int n => ofMoment? (ofCount? n)
  | .real x => ofMoment? (ofReal? x)
  | _ => fail .notMoment

def storedText (s : String) : Check Moment :=
  match readStored s with
  | .ok m => ok m
  | .error .range => fail .outOfYears
  | .error fault => fail (.rule fault.message)

def kindName : Json → String
  | .null => "NoneType"
  | .bool _ => "bool"
  | .int _ => "int"
  | .real _ => "float"
  | .text _ => "str"
  | .array _ => "list"
  | .object _ => "dict"

def storedMoment : Json → Check Moment
  | .text s => storedText s.shown
  | j => fail (.rule ("Unsupported datetime value type: <class '" ++ kindName j ++ "'>"))

def nullable {α : Type} (read : Json → Check α) : Json → Check (Option α)
  | .null => ok none
  | j => some <$> read j

end AnalysisWebhooks.Check
