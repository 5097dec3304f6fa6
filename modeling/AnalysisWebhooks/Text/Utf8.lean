namespace AnalysisWebhooks.Text

def utf8 (c : Char) : List Nat :=
  let n := c.toNat
  if n < 0x80 then [n]
  else if n < 0x800 then [0xC0 + n / 64, 0x80 + n % 64]
  else if n < 0x10000 then [0xE0 + n / 4096, 0x80 + n / 64 % 64, 0x80 + n % 64]
  else [0xF0 + n / 262144, 0x80 + n / 4096 % 64, 0x80 + n / 64 % 64, 0x80 + n % 64]

structure Lead where
  bits : Nat
  low : Nat
  high : Nat
  following : Nat
deriving DecidableEq, Repr

def lead? (b : Nat) : Option Lead :=
  if b < 0x80 then some ⟨b, 0, 0, 0⟩
  else if b < 0xC2 then none
  else if b < 0xE0 then some ⟨b - 0xC0, 0x80, 0xBF, 1⟩
  else if b < 0xF0 then
    some ⟨b - 0xE0, if b = 0xE0 then 0xA0 else 0x80, if b = 0xED then 0x9F else 0xBF, 2⟩
  else if b < 0xF5 then
    some ⟨b - 0xF0, if b = 0xF0 then 0x90 else 0x80, if b = 0xF4 then 0x8F else 0xBF, 3⟩
  else none

def replacement : Char := '\ufffd'

def decodeFrom (state : Lead) : List Nat → List Char
  | [] => if state.following = 0 then [] else [replacement]
  | b :: rest =>
    let fresh : Unit → List Char := fun _ =>
      match lead? b with
      | none => replacement :: decodeFrom ⟨0, 0, 0, 0⟩ rest
      | some start =>
        if start.following = 0 then Char.ofNat start.bits :: decodeFrom ⟨0, 0, 0, 0⟩ rest
        else decodeFrom start rest
    if state.following = 0 then fresh ()
    else if state.low ≤ b ∧ b ≤ state.high then
      let bits := state.bits * 64 + (b - 0x80)
      if state.following = 1 then Char.ofNat bits :: decodeFrom ⟨0, 0, 0, 0⟩ rest
      else decodeFrom ⟨bits, 0x80, 0xBF, state.following - 1⟩ rest
    else replacement :: fresh ()

def decodeUtf8 (bytes : List Nat) : List Char :=
  decodeFrom ⟨0, 0, 0, 0⟩ bytes

end AnalysisWebhooks.Text
