import AnalysisWebhooks.Text.Blank
import AnalysisWebhooks.Text.Hex

namespace AnalysisWebhooks

namespace Text

abbrev CodeUnit := Fin 0x10000

def unit (n : Nat) : CodeUnit :=
  Fin.ofNat _ n

def codeUnits (c : Char) : List CodeUnit :=
  let n := c.toNat
  if n < 0x10000 then [unit n]
  else [unit (0xD800 + (n - 0x10000) / 0x400), unit (0xDC00 + (n - 0x10000) % 0x400)]

def isLead (u : CodeUnit) : Bool :=
  0xD800 ≤ u.val && u.val < 0xDC00

def isTrail (u : CodeUnit) : Bool :=
  0xDC00 ≤ u.val && u.val < 0xE000

inductive CodePoint where
  | scalar (c : Char)
  | lone (unit : CodeUnit)
deriving DecidableEq, Repr

namespace CodePoint

def ofUnit (u : CodeUnit) : CodePoint :=
  if isLead u || isTrail u then lone u else scalar (Char.ofNat u.val)

def ofPair (u v : CodeUnit) : CodePoint :=
  scalar (Char.ofNat (0x10000 + (u.val - 0xD800) * 0x400 + (v.val - 0xDC00)))

def scalar? : CodePoint → Option Char
  | scalar c => some c
  | lone _ => none

def isLone (p : CodePoint) : Bool :=
  p.scalar?.isNone

def replacement : List Char := List.replicate 3 '\ufffd'

def shown : CodePoint → List Char
  | scalar c => [c]
  | lone _ => replacement

end CodePoint

def codePoints : List CodeUnit → List CodePoint
  | [] => []
  | [u] => [.ofUnit u]
  | u :: v :: rest =>
    if isLead u && isTrail v then .ofPair u v :: codePoints rest
    else .ofUnit u :: codePoints (v :: rest)

def characters? (units : List CodeUnit) : Option (List Char) :=
  (codePoints units).mapM CodePoint.scalar?

end Text

open Text

-- A text as a document carries it: one that no encoder takes still has its code units.
inductive RawText where
  | plain (text : String)
  | broken (units : List CodeUnit) (lone : characters? units = none)
deriving DecidableEq, Repr

namespace RawText

instance : Coe String RawText := ⟨plain⟩

def ofUnits (units : List CodeUnit) : RawText :=
  match h : characters? units with
  | some cs => plain (String.ofList cs)
  | none => broken units h

def units : RawText → List CodeUnit
  | plain text => text.toList.flatMap codeUnits
  | broken units _ => units

def plain? : RawText → Option String
  | plain text => some text
  | broken .. => none

def isUnicode (t : RawText) : Bool :=
  t.plain?.isSome

def isEmpty : RawText → Bool
  | plain text => text.isEmpty
  | broken .. => false

def startsWith (t : RawText) (start : String) : Bool :=
  (units start).isPrefixOf t.units

def shown : RawText → String
  | plain text => text
  | broken units _ => String.ofList ((codePoints units).flatMap CodePoint.shown)

def isBlankUnit (u : CodeUnit) : Bool :=
  isBlank (Char.ofNat u.val)

def trim : RawText → RawText
  | plain text => Text.trim text
  | broken units _ =>
    ofUnits ((units.dropWhile isBlankUnit).reverse.dropWhile isBlankUnit).reverse

def joined (sep : Char) (texts : List RawText) : RawText :=
  ofUnits ((codeUnits sep).intercalate (texts.map units))

end RawText

end AnalysisWebhooks
