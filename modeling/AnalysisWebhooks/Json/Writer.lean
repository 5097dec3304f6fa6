import AnalysisWebhooks.Decimal.Layout
import AnalysisWebhooks.Json.Basic

namespace AnalysisWebhooks.Json

open Text

def escapedUnit (u : CodeUnit) : List Char :=
  '\\' :: 'u' :: hexDigits 4 u.val

def shortEscapes : List (Char × Char) :=
  [('"', '"'), ('\\', '\\'), ('\n', 'n'), ('\r', 'r'), ('\t', 't'), ('\x08', 'b'), ('\x0c', 'f')]

def escaped (u : CodeUnit) : List Char :=
  let c := Char.ofNat u.val
  match shortEscapes.lookup c with
  | some letter => ['\\', letter]
  | none => if 32 ≤ u.val ∧ u.val < 127 then [c] else escapedUnit u

def textChars (t : RawText) : List Char :=
  '"' :: (t.units.flatMap escaped ++ ['"'])

def intChars (n : Int) : List Char :=
  if n < 0 then '-' :: Nat.toDigits 10 n.natAbs else Nat.toDigits 10 n.natAbs

mutual

def chars : Json → List Char
  | null => ['n', 'u', 'l', 'l']
  | bool true => ['t', 'r', 'u', 'e']
  | bool false => ['f', 'a', 'l', 's', 'e']
  | int n => intChars n
  | real x => (Decimal.floatText x).toList
  | text s => textChars s
  | array items => '[' :: (itemChars items ++ [']'])
  | object members => '\x7b' :: (memberChars members ++ ['\x7d'])

def itemChars : List Json → List Char
  | [] => []
  | [j] => chars j
  | j :: k :: rest => chars j ++ ',' :: itemChars (k :: rest)

def memberChars : Members → List Char
  | [] => []
  | [(key, j)] => textChars key ++ ':' :: chars j
  | (key, j) :: m :: rest =>
    textChars key ++ ':' :: (chars j ++ ',' :: memberChars (m :: rest))

end

def write (j : Json) : String :=
  String.ofList (chars j)

end AnalysisWebhooks.Json
