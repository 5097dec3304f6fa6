import AnalysisWebhooks.Decimal.Binary

namespace AnalysisWebhooks.Decimal

structure Digits where
  coefficient : Nat
  exponent : Int
deriving DecidableEq, Repr

def Digits.text (d : Digits) : List Char :=
  Nat.toDigits 10 d.coefficient

def Digits.stripped : (fuel : Nat) → Digits → Digits
  | 0, d => d
  | fuel + 1, d =>
    if d.coefficient % 10 == 0 && d.coefficient != 0 then
      Digits.stripped fuel ⟨d.coefficient / 10, d.exponent + 1⟩
    else d

def Digits.point (d : Digits) : Int :=
  d.text.length + d.exponent

def leadingExponent (num den : Nat) : Int :=
  if den ≤ num then ((Nat.toDigits 10 (num / den)).length : Int) - 1
  else -((Nat.toDigits 10 ((den + num - 1) / num - 1)).length : Int)

def neighbour? (d : Dyadic) (count : Nat) : Option Digits :=
  -- everything is measured in quarters of the last binary place
  let value := 4 * d.mantissa
  let low := value - if d.narrow then 1 else 2
  let high := value + 2
  let unit : Dyadic := { d with mantissa := 1, exponent := d.exponent - 2 }
  let exponent := leadingExponent d.fraction.1 d.fraction.2 - count + 1
  let grid := Nat.pow 10 exponent.toNat * unit.fraction.2
  let scale := Nat.pow 10 (-exponent).toNat * unit.fraction.1
  let closed := d.mantissa % 2 == 0
  let below := value * scale / grid
  let above := below + 1
  let belowHits := if closed then low * scale ≤ below * grid else low * scale < below * grid
  let aboveHits := if closed then above * grid ≤ high * scale else above * grid < high * scale
  let toBelow := value * scale - below * grid
  let toAbove := above * grid - value * scale
  if belowHits then
    if aboveHits && (toAbove < toBelow || (toAbove == toBelow && above % 2 == 0)) then
      some ⟨above, exponent⟩
    else some ⟨below, exponent⟩
  else if aboveHits then some ⟨above, exponent⟩
  else none

def Dyadic.shortest (d : Dyadic) : Digits :=
  if d.mantissa == 0 then ⟨0, 0⟩
  else (((List.range 17).findSome? fun i => neighbour? d (i + 1)).getD ⟨0, 0⟩).stripped 17

def Dyadic.significant (count : Nat) (d : Dyadic) : Digits :=
  if d.mantissa == 0 then ⟨0, 0⟩
  else
    let exponent := leadingExponent d.fraction.1 d.fraction.2 - count + 1
    let n := d.fraction.1 * Nat.pow 10 (-exponent).toNat
    let m := d.fraction.2 * Nat.pow 10 exponent.toNat
    let q := n / m
    let r := n % m
    let rounded := if 2 * r > m || (2 * r == m && q % 2 == 1) then q + 1 else q
    Digits.stripped count ⟨rounded, exponent⟩

end AnalysisWebhooks.Decimal
