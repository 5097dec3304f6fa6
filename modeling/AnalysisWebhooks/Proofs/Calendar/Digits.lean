import Mathlib.Algebra.Order.Ring.Nat
import AnalysisWebhooks.Calendar.StoredDate
import AnalysisWebhooks.Calendar.Writing

namespace AnalysisWebhooks.Calendar

open Decimal

def digits : (width n : Nat) → List Char
  | 0, _ => []
  | width + 1, n => digits width (n / 10) ++ [Nat.digitChar (n % 10)]

theorem length_digits (width n : Nat) : (digits width n).length = width := by
  induction width generalizing n with
  | zero => rfl
  | succ width ih => rw [digits, List.length_append, ih, List.length_singleton]

theorem isDigit_digitChar {n : Nat} (h : n < 10) : isDigit (Nat.digitChar n) = true :=
  (by decide : ∀ n < 10, isDigit (Nat.digitChar n) = true) n h

theorem isDigit_of_mem_digits {width n : Nat} {c : Char} (h : c ∈ digits width n) :
    isDigit c = true := by
  induction width generalizing n with
  | zero => cases h
  | succ width ih =>
    rcases List.mem_append.1 h with h | h
    · exact ih h
    · rw [List.mem_singleton.1 h]
      exact isDigit_digitChar (by omega)

theorem ofDigits_append_singleton (s : List Char) (c : Char) :
    ofDigits (s ++ [c]) = 10 * ofDigits s + (c.toNat - 48) := by
  rw [ofDigits, List.foldl_append]
  rfl

theorem ofDigits_digits {width n : Nat} (h : n < 10 ^ width) : ofDigits (digits width n) = n := by
  induction width generalizing n with
  | zero =>
    rw [Nat.pow_zero, Nat.lt_one_iff] at h
    rw [h]
    rfl
  | succ width ih =>
    have hfront : n / 10 < 10 ^ width := by
      rw [Nat.pow_succ] at h
      omega
    rw [digits, ofDigits_append_singleton, ih hfront,
      Nat.toNat_digitChar_sub_48_of_lt_ten (by omega)]
    omega

theorem digits_zero (width : Nat) : digits width 0 = List.replicate width '0' := by
  induction width with
  | zero => rfl
  | succ width ih =>
    rw [digits, ih, List.replicate_succ']
    rfl

theorem padded_eq_digits {width n : Nat} (h : n < 10 ^ (width + 1)) :
    padded (width + 1) n = digits (width + 1) n := by
  induction width generalizing n with
  | zero =>
    have hn : n < 10 := by simpa using h
    rw [padded, Nat.toDigits_of_lt_base hn, digits, Nat.mod_eq_of_lt hn]
    rfl
  | succ width ih =>
    by_cases hn : n < 10
    · rw [padded, Nat.toDigits_of_lt_base hn, digits, Nat.div_eq_of_lt hn, digits_zero,
        Nat.mod_eq_of_lt hn]
      rfl
    · have hfront : n / 10 < 10 ^ (width + 1) := by
        rw [Nat.pow_succ] at h
        omega
      have hshort : padded (width + 2) n =
          padded (width + 1) (n / 10) ++ [Nat.digitChar (n % 10)] := by
        rw [padded, Nat.toDigits_of_base_le (by omega) (by omega), padded, List.length_append,
          List.length_singleton, List.append_assoc]
        congr 2
        omega
      rw [hshort, ih hfront]
      rfl

theorem toDigits_eq_digits {width n : Nat} (hlow : 10 ^ width ≤ n) (hhigh : n < 10 ^ (width + 1)) :
    Nat.toDigits 10 n = digits (width + 1) n := by
  induction width generalizing n with
  | zero =>
    have hn : n < 10 := by simpa using hhigh
    rw [Nat.toDigits_of_lt_base hn, digits, Nat.mod_eq_of_lt hn]
    rfl
  | succ width ih =>
    have hten : 10 ≤ n := by
      have := Nat.one_le_pow width 10 (by omega)
      rw [Nat.pow_succ] at hlow
      omega
    have hfrontLow : 10 ^ width ≤ n / 10 := by
      rw [Nat.pow_succ] at hlow
      omega
    have hfrontHigh : n / 10 < 10 ^ (width + 1) := by
      rw [Nat.pow_succ] at hhigh
      omega
    rw [Nat.toDigits_of_base_le (by omega) hten, ih hfrontLow hfrontHigh]
    rfl

theorem padded_one (n : Nat) : padded 1 n = Nat.toDigits 10 n := by
  have hpos : 0 < (Nat.toDigits 10 n).length := Nat.length_toDigits_pos
  have hnone : 1 - (Nat.toDigits 10 n).length = 0 := by omega
  rw [padded, hnone]
  rfl

theorem twoDigits?_digits {n : Nat} (h : n < 100) (rest : List Char) :
    twoDigits? (digits 2 n ++ rest) = some (n, rest) := by
  have hvalue : ofDigits (digits 2 n) = n := ofDigits_digits h
  have hfirst : isDigit (Nat.digitChar (n / 10 % 10)) = true := isDigit_digitChar (by omega)
  have hsecond : isDigit (Nat.digitChar (n % 10)) = true := isDigit_digitChar (by omega)
  simp only [digits, List.nil_append, List.cons_append] at hvalue ⊢
  rw [twoDigits?, hfirst, hsecond, hvalue]
  rfl

theorem fourDigits?_digits {n : Nat} (h : n < 10000) (rest : List Char) :
    fourDigits? (digits 4 n ++ rest) = some (n, rest) := by
  have hsplit : digits 4 n = digits 2 (n / 100) ++ digits 2 (n % 100) := by
    simp only [digits, List.nil_append, List.cons_append]
    have h1 : n / 10 / 10 = n / 100 := by omega
    have h2 : n % 100 / 10 % 10 = n / 10 % 10 := by omega
    have h3 : n % 100 % 10 = n % 10 := by omega
    rw [h1, h2, h3]
  rw [hsplit, List.append_assoc, fourDigits?, twoDigits?_digits (by omega)]
  simp only [Option.bind_eq_bind, Option.bind_some]
  rw [twoDigits?_digits (by omega)]
  simp only [Option.bind_some, Option.pure_def, Option.some.injEq, Prod.mk.injEq, and_true]
  omega

theorem isDigit_of_twoDigits? {s rest : List Char} {n : Nat} (h : twoDigits? s = some (n, rest)) :
    ∃ a b, s = a :: b :: rest ∧ isDigit a = true ∧ isDigit b = true := by
  unfold twoDigits? at h
  split at h
  · rename_i a b rest'
    split at h
    · rename_i hab
      cases h
      exact ⟨a, b, rfl, Bool.and_eq_true_iff.1 hab⟩
    · cases h
  · cases h

theorem isDigit_of_fourDigits? {s : List Char} (h : (fourDigits? s).isSome = true) :
    ∀ c ∈ s.take 4, isDigit c = true := by
  unfold fourDigits? at h
  cases hfirst : twoDigits? s with
  | none => simp [hfirst] at h
  | some first =>
    obtain ⟨high, rest⟩ := first
    cases hsecond : twoDigits? rest with
    | none => simp [hfirst, hsecond] at h
    | some second =>
      obtain ⟨low, rest'⟩ := second
      obtain ⟨a, b, rfl, ha, hb⟩ := isDigit_of_twoDigits? hfirst
      obtain ⟨c, d, rfl, hc, hd⟩ := isDigit_of_twoDigits? hsecond
      simp [ha, hb, hc, hd]

end AnalysisWebhooks.Calendar
