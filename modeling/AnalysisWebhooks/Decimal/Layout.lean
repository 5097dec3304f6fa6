import AnalysisWebhooks.Decimal.Shortest

namespace AnalysisWebhooks.Decimal

structure Layout where
  firstPoint : Int
  lastPoint : Int
  wholeZero : Bool
deriving DecidableEq, Repr

def Layout.plain : Layout := ⟨-3, 16, true⟩

def Layout.cell : Layout := ⟨-3, 6, false⟩

def exponentText (e : Int) : List Char :=
  let digits := Nat.toDigits 10 e.natAbs
  let padded := if digits.length < 2 then '0' :: digits else digits
  (if e < 0 then '-' else '+') :: padded

def Layout.write (layout : Layout) (d : Digits) : List Char :=
  let digits := d.text
  let point := d.point
  if d.coefficient == 0 then
    if layout.wholeZero then ['0', '.', '0'] else ['0']
  else if layout.firstPoint ≤ point && point ≤ layout.lastPoint then
    if point ≤ 0 then
      '0' :: '.' :: List.replicate point.natAbs '0' ++ digits
    else if digits.length ≤ point.toNat then
      digits ++ List.replicate (point.toNat - digits.length) '0' ++
        if layout.wholeZero then ['.', '0'] else []
    else
      digits.take point.toNat ++ '.' :: digits.drop point.toNat
  else
    let tail := digits.drop 1
    digits.take 1 ++ (if tail.isEmpty then [] else '.' :: tail) ++ 'e' :: exponentText (point - 1)

def floatText (x : Float) : String :=
  match Binary.ofFloat x with
  | .notANumber => "nan"
  | .infinite negative => if negative then "-inf" else "inf"
  | .finite d =>
    let text := Layout.plain.write d.shortest
    String.ofList (if d.negative then '-' :: text else text)

def cellText (x : Float) : String :=
  match Binary.ofFloat x with
  | .notANumber => "nan"
  | .infinite negative => if negative then "-inf" else "inf"
  | .finite d =>
    let text := Layout.cell.write (d.significant 6)
    String.ofList (if d.negative then '-' :: text else text)

def sampleText (x : Float) : String :=
  match Binary.ofFloat x with
  | .notANumber => "NaN"
  | .infinite negative => if negative then "-Inf" else "+Inf"
  | .finite d =>
    let text := Layout.plain.write d.shortest
    let whole := text.takeWhile (· ≠ '.')
    if !d.negative && text.contains '.' && !text.contains 'e' && 6 < whole.length then
      let digits := whole.drop 1 ++ text.drop (whole.length + 1)
      let trimmed := (whole.take 1 ++ '.' :: digits).reverse.dropWhile fun c => c == '0' || c == '.'
      String.ofList (trimmed.reverse ++ 'e' :: '+' :: '0' :: Nat.toDigits 10 (whole.length - 1))
    else
      String.ofList (if d.negative then '-' :: text else text)

end AnalysisWebhooks.Decimal
