namespace AnalysisWebhooks.Decimal

structure Dyadic where
  negative : Bool
  mantissa : Nat
  exponent : Int
  narrow : Bool
deriving DecidableEq, Repr

inductive Binary where
  | finite (value : Dyadic)
  | infinite (negative : Bool)
  | notANumber
deriving DecidableEq, Repr

def leadingBit : Nat := 1 <<< 52

def signBit : Nat := 1 <<< 63

def infiniteBits : Nat := 2047 * leadingBit

def Binary.ofBits (bits : Nat) : Binary :=
  let negative := bits / signBit == 1
  let exponent : Nat := bits / leadingBit % 2048
  let fraction := bits % leadingBit
  if exponent == 2047 then
    if fraction == 0 then .infinite negative else .notANumber
  else if exponent == 0 then
    .finite ⟨negative, fraction, -1074, false⟩
  else
    .finite ⟨negative, fraction + leadingBit, (exponent : Int) - 1075,
      fraction == 0 && exponent != 1⟩

def Binary.ofFloat (x : Float) : Binary :=
  .ofBits x.toBits.toNat

def Dyadic.fraction (d : Dyadic) : Nat × Nat :=
  (d.mantissa <<< d.exponent.toNat, 1 <<< (-d.exponent).toNat)

def Dyadic.truncated (d : Dyadic) : Int :=
  let magnitude : Int := (d.fraction.1 / d.fraction.2 : Nat)
  if d.negative then -magnitude else magnitude

def Dyadic.floor (d : Dyadic) : Int :=
  if d.negative then -(((d.fraction.1 + d.fraction.2 - 1) / d.fraction.2 : Nat) : Int)
  else (d.fraction.1 / d.fraction.2 : Nat)

def Dyadic.isInteger (d : Dyadic) : Bool :=
  d.fraction.1 % d.fraction.2 == 0

def truncated? (x : Float) : Option Int :=
  match Binary.ofFloat x with
  | .finite d => some d.truncated
  | _ => none

def roundedQuotient (n d : Nat) : Nat :=
  let q := n / d
  let r := n % d
  if 2 * r > d || (2 * r == d && q % 2 == 1) then q + 1 else q

def scaled (num den : Nat) (e : Int) : Nat × Nat :=
  (num <<< (-e).toNat, den <<< e.toNat)

def quotientExponent (num den : Nat) : Int :=
  let width : Int := (num.log2 : Int) - den.log2
  let guess := max (width - 52) (-1074)
  let (n, d) := scaled num den guess
  if n / d < leadingBit && guess > -1074 then guess - 1 else guess

def nearestBits (num den : Nat) : Nat :=
  if num == 0 then 0
  else
    let exponent := quotientExponent num den
    let (n, d) := scaled num den exponent
    let q := roundedQuotient n d
    -- rounding up to the next power of two moves on to the next exponent by itself
    let bits := if q < leadingBit then q else (exponent + 1074).toNat * leadingBit + q
    min bits infiniteBits

def floatOfBits (negative : Bool) (bits : Nat) : Float :=
  Float.ofBits (UInt64.ofNat (bits + if negative then signBit else 0))

def nearestFloat (negative : Bool) (num den : Nat) : Float :=
  floatOfBits negative (nearestBits num den)

def floatOfInt? (n : Int) : Option Float :=
  let bits := nearestBits n.natAbs 1
  if bits == infiniteBits then none else some (floatOfBits (n < 0) bits)

def floatOfDigits (negative : Bool) (digits : Nat) (exponent : Int) : Float :=
  let width : Int := (Nat.toDigits 10 digits).length
  if digits == 0 || exponent + width < -400 then floatOfBits negative 0
  else if exponent + width > 400 then floatOfBits negative infiniteBits
  else nearestFloat negative (digits * Nat.pow 10 exponent.toNat) (Nat.pow 10 (-exponent).toNat)

end AnalysisWebhooks.Decimal
