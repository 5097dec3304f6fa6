import AnalysisWebhooks.Text.Blank
import AnalysisWebhooks.Text.Hex
import AnalysisWebhooks.Text.Utf8

namespace AnalysisWebhooks.Text

def isUnreserved (b : Nat) : Bool :=
  (0x30 ≤ b && b ≤ 0x39) || (0x41 ≤ b && b ≤ 0x5A) || (0x61 ≤ b && b ≤ 0x7A) || b == 0x5F ||
    b == 0x2E || b == 0x2D || b == 0x7E

def formByte (b : Nat) : List Char :=
  if isUnreserved b then [Char.ofNat b]
  else if b = 0x20 then ['+']
  else ['%', upperHexDigit (b / 16), upperHexDigit (b % 16)]

def formChars (s : List Char) : List Char :=
  s.flatMap fun c => (utf8 c).flatMap formByte

def formEncode (s : String) : String :=
  String.ofList (formChars s.toList)

def formBytes : List Char → List Nat
  | [] => []
  | '%' :: a :: b :: rest =>
    match hexValue? a, hexValue? b with
    | some high, some low => (high * 16 + low) :: formBytes rest
    | _, _ => 0x25 :: formBytes (a :: b :: rest)
  | c :: rest => if c = '+' then 0x20 :: formBytes rest else utf8 c ++ formBytes rest

def formDecode (s : List Char) : String :=
  String.ofList (decodeUtf8 (formBytes s))

def formPairs (query : List Char) : List (String × String) :=
  ((pieces '&' query).filter (· ≠ [])).map fun piece =>
    (formDecode (piece.takeWhile (· ≠ '=')), formDecode ((piece.dropWhile (· ≠ '=')).drop 1))

example : formEncode "a b&ü" = "a+b%26%C3%BC" := by decide +kernel
example : formPairs "a=1&b=%C3%BC+x".toList = [("a", "1"), ("b", "ü x")] := by decide +kernel

end AnalysisWebhooks.Text
