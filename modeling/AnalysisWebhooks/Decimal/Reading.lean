import AnalysisWebhooks.Decimal.Binary
import AnalysisWebhooks.Text.Blank

namespace AnalysisWebhooks.Decimal

open Text

def isDigit (c : Char) : Bool :=
  '0' ≤ c && c ≤ '9'

def ofDigits (digits : List Char) : Nat :=
  digits.foldl (fun n c => 10 * n + (c.toNat - 48)) 0

def splitSign : List Char → Bool × List Char
  | '-' :: rest => (true, rest)
  | '+' :: rest => (false, rest)
  | rest => (false, rest)

def splitDigits (s : List Char) : List Char × List Char :=
  (s.takeWhile isDigit, s.dropWhile isDigit)

def splitGrouped : List Char → List Char × List Char
  | [] => ([], [])
  | [c] => if isDigit c then ([c], []) else ([], [c])
  | c :: d :: rest =>
    if isDigit c then
      if d = '_' && (rest.head?.any isDigit) then
        let (digits, after) := splitGrouped rest
        (c :: digits, after)
      else
        let (digits, after) := splitGrouped (d :: rest)
        (c :: digits, after)
    else ([], c :: d :: rest)

inductive IntegerFault where
  | notANumber
  | tooLong
deriving DecidableEq, Repr

def integerLength : Nat := 4300

def readInteger (s : String) : Except IntegerFault Int :=
  let trimmed := trimChars s.toList
  if integerLength < trimmed.length then .error .tooLong
  else
    let (negative, unsigned) := splitSign trimmed
    let (digits, rest) := splitGrouped unsigned
    let ends := match rest with
      | [] => true
      | '.' :: zeros => !zeros.isEmpty && zeros.all (· == '0')
      | _ => false
    if digits.isEmpty || !ends then .error .notANumber
    else .ok (if negative then -(ofDigits digits) else ofDigits digits)

structure Plain where
  digits : List Char
  places : Nat
deriving DecidableEq, Repr

def splitPlain (digitsOf : List Char → List Char × List Char) (s : List Char) :
    Option (Plain × List Char) :=
  let (whole, rest) := digitsOf s
  let (fraction, rest) := match rest with
    | '.' :: after => digitsOf after
    | _ => ([], rest)
  if whole.isEmpty && fraction.isEmpty then none
  else some (⟨whole ++ fraction, fraction.length⟩, rest)

def splitExponent (digitsOf : List Char → List Char × List Char) : List Char → Int × List Char
  | [] => (0, [])
  | c :: after =>
    if c = 'e' ∨ c = 'E' then
      let (negative, unsigned) := splitSign after
      let (digits, rest) := digitsOf unsigned
      if digits.isEmpty then (0, c :: after)
      else ((if negative then -(ofDigits digits : Int) else ofDigits digits), rest)
    else (0, c :: after)

def asciiLower (s : List Char) : List Char :=
  s.map Char.toLower

def readFloat? (s : String) : Option Float :=
  let (negative, unsigned) := splitSign (trimChars s.toList)
  let word := String.ofList (asciiLower unsigned)
  if word = "inf" ∨ word = "infinity" then
    some (floatOfBits negative infiniteBits)
  else if word = "nan" then some (0.0 / 0.0)
  else
    match splitPlain splitGrouped unsigned with
    | none => none
    | some (plain, rest) =>
      let (exponent, rest) := splitExponent splitGrouped rest
      if rest.isEmpty then
        some (floatOfDigits negative (ofDigits plain.digits) (exponent - plain.places))
      else none

end AnalysisWebhooks.Decimal
