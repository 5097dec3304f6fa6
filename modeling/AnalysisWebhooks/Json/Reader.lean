import AnalysisWebhooks.Decimal.Reading
import AnalysisWebhooks.Json.Basic

namespace AnalysisWebhooks.Json

open Text Decimal

def isSpace (c : Char) : Bool :=
  c == ' ' || c == '\n' || c == '\r' || c == '\t'

def skipSpace (s : List Char) : List Char :=
  s.dropWhile isSpace

def hexUnit? (a b c d : Char) : Option CodeUnit := do
  let a ← hexValue? a
  let b ← hexValue? b
  let c ← hexValue? c
  let d ← hexValue? d
  return unit (((a * 16 + b) * 16 + c) * 16 + d)

def escape? (c : Char) : Option Char :=
  if c = '"' ∨ c = '\\' ∨ c = '/' then some c
  else if c = 'n' then some '\n'
  else if c = 'r' then some '\r'
  else if c = 't' then some '\t'
  else if c = 'b' then some '\x08'
  else if c = 'f' then some '\x0c'
  else none

def readUnits : List Char → Option (List CodeUnit × List Char)
  | [] => none
  | '"' :: rest => some ([], rest)
  | '\\' :: 'u' :: a :: b :: c :: d :: rest =>
    match hexUnit? a b c d with
    | none => none
    | some n => (readUnits rest).map fun r => (n :: r.1, r.2)
  | '\\' :: c :: rest =>
    match escape? c with
    | none => none
    | some e => (readUnits rest).map fun r => (codeUnits e ++ r.1, r.2)
  | c :: rest =>
    if c = '\\' ∨ c.toNat < 32 then none
    else (readUnits rest).map fun r => (codeUnits c ++ r.1, r.2)

def readText (s : List Char) : Option (RawText × List Char) :=
  (readUnits s).map fun r => (.ofUnits r.1, r.2)

def readNumber (s : List Char) : Option (Json × List Char) :=
  let (negative, unsigned) := match s with
    | '-' :: rest => (true, rest)
    | rest => (false, rest)
  let (whole, rest) := match unsigned with
    | '0' :: rest => (['0'], rest)
    | _ => splitDigits unsigned
  if whole.isEmpty then none
  else
    let (fraction, rest) := match rest with
      | '.' :: after =>
        let (digits, after') := splitDigits after
        if digits.isEmpty then ([], rest) else (digits, after')
      | _ => ([], rest)
    let (exponent, rest') := splitExponent splitDigits rest
    if fraction.isEmpty && rest'.length == rest.length then
      some (int (if negative then -(ofDigits whole) else ofDigits whole), rest')
    else
      some (real (floatOfDigits negative (ofDigits (whole ++ fraction))
        (exponent - fraction.length)), rest')

def splitWord? : List Char → List Char → Option (List Char)
  | [], s => some s
  | c :: word, d :: s => if c = d then splitWord? word s else none
  | _ :: _, [] => none

def words : List (List Char × Json) := [
  ("null".toList, null), ("true".toList, bool true), ("false".toList, bool false),
  ("NaN".toList, real (0.0 / 0.0)), ("Infinity".toList, real (1.0 / 0.0)),
  ("-Infinity".toList, real (-1.0 / 0.0))]

def readWord (s : List Char) : Option (Json × List Char) :=
  words.findSome? fun w => (splitWord? w.1 s).map fun rest => (w.2, rest)

mutual

def readValue : (fuel : Nat) → List Char → Option (Json × List Char)
  | 0, _ => none
  | _ + 1, [] => none
  | fuel + 1, c :: rest =>
    if c = '"' then (readText rest).map fun r => (text r.1, r.2)
    else if c = '[' then
      match skipSpace rest with
      | ']' :: after => some (array [], after)
      | start => (readItems fuel start).map fun r => (array r.1, r.2)
    else if c = '\x7b' then
      match skipSpace rest with
      | '\x7d' :: after => some (object [], after)
      | start => (readMembers fuel start).map fun r => (object r.1, r.2)
    else
      match readWord (c :: rest) with
      | some r => some r
      | none => readNumber (c :: rest)

def readItems : (fuel : Nat) → List Char → Option (List Json × List Char)
  | 0, _ => none
  | fuel + 1, s =>
    match readValue fuel s with
    | none => none
    | some (j, rest) =>
      match skipSpace rest with
      | ']' :: after => some ([j], after)
      | ',' :: after => (readItems fuel (skipSpace after)).map fun r => (j :: r.1, r.2)
      | _ => none

def readMembers : (fuel : Nat) → List Char → Option (Members × List Char)
  | 0, _ => none
  | fuel + 1, s =>
    match s with
    | '"' :: inner =>
      match readText inner with
      | none => none
      | some (key, rest) =>
        match skipSpace rest with
        | ':' :: after =>
          match readValue fuel (skipSpace after) with
          | none => none
          | some (j, rest) =>
            match skipSpace rest with
            | '\x7d' :: after => some ([(key, j)], after)
            | ',' :: after =>
              (readMembers fuel (skipSpace after)).map fun r =>
                ((key, j) :: r.1, r.2)
            | _ => none
        | _ => none
    | _ => none

end

def parse? (s : String) : Option Json :=
  match readValue (2 * s.toList.length + 2) (skipSpace s.toList) with
  | some (j, rest) => if (skipSpace rest).isEmpty then some j else none
  | none => none

def ofText? (s : String) : Option Json :=
  (parse? s).map merged

end AnalysisWebhooks.Json
