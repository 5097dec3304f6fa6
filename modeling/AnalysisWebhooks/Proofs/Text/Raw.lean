import AnalysisWebhooks.Text.Raw
import Mathlib.Data.List.Basic

namespace AnalysisWebhooks

namespace Text

theorem val_unit {n : Nat} (h : n < 0x10000) : (unit n).val = n :=
  Nat.mod_eq_of_lt h

theorem eq_unit {u : CodeUnit} {n : Nat} (h : u.val = n) : unit n = u :=
  Fin.ext ((val_unit (h ▸ u.isLt)).trans h.symm)

theorem toNat_ofNat {n : Nat} (h : n.isValidChar) : (Char.ofNat n).toNat = n := by
  rw [Char.ofNat, dif_pos h]
  rfl

theorem codePoints_codeUnits_append (c : Char) (rest : List CodeUnit) :
    codePoints (codeUnits c ++ rest) = .scalar c :: codePoints rest := by
  have hof : Char.ofNat c.toNat = c := Char.ofNat_toNat c
  have hc : c.toNat < 0xD800 ∨ 0xDFFF < c.toNat ∧ c.toNat < 0x110000 := c.valid
  unfold codeUnits
  generalize c.toNat = n at *
  dsimp only
  split
  · rename_i hn
    have hl : isLead (unit n) = false := by
      simp only [isLead, val_unit hn, Bool.and_eq_false_iff, decide_eq_false_iff_not]
      omega
    have ht : isTrail (unit n) = false := by
      simp only [isTrail, val_unit hn, Bool.and_eq_false_iff, decide_eq_false_iff_not]
      omega
    cases rest <;> simp [codePoints, CodePoint.ofUnit, hl, ht, val_unit hn, hof]
  · have hlead := val_unit (n := 0xD800 + (n - 0x10000) / 0x400) (by omega)
    have htrail := val_unit (n := 0xDC00 + (n - 0x10000) % 0x400) (by omega)
    have hl : isLead (unit (0xD800 + (n - 0x10000) / 0x400)) = true := by
      simp only [isLead, hlead, Bool.and_eq_true, decide_eq_true_eq]
      omega
    have ht : isTrail (unit (0xDC00 + (n - 0x10000) % 0x400)) = true := by
      simp only [isTrail, htrail, Bool.and_eq_true, decide_eq_true_eq]
      omega
    have hn : 0x10000 + (0xD800 + (n - 0x10000) / 0x400 - 0xD800) * 0x400 +
        (0xDC00 + (n - 0x10000) % 0x400 - 0xDC00) = n := by
      omega
    simp only [List.cons_append, List.nil_append, codePoints, hl, ht, Bool.and_self, if_true,
      CodePoint.ofPair, hlead, htrail, hn, hof]

theorem characters?_flatMap_codeUnits (s : List Char) :
    characters? (s.flatMap codeUnits) = some s := by
  induction s with
  | nil => rfl
  | cons c rest ih =>
    rw [characters?, List.flatMap_cons, codePoints_codeUnits_append, List.mapM_cons,
      ← characters?, ih]
    rfl

theorem codeUnits_of_ofUnit {u : CodeUnit} {c : Char} (h : CodePoint.ofUnit u = .scalar c) :
    codeUnits c = [u] := by
  unfold CodePoint.ofUnit at h
  split at h
  · cases h
  · rename_i hu
    cases h
    have hlt := u.isLt
    simp only [isLead, isTrail, Bool.or_eq_true, Bool.and_eq_true, decide_eq_true_eq] at hu
    have hvalid : u.val.isValidChar := by
      unfold Nat.isValidChar
      omega
    rw [codeUnits, toNat_ofNat hvalid, if_pos hlt, eq_unit rfl]

end Text

open Text

namespace RawText

theorem ofUnits_units (t : RawText) : ofUnits t.units = t := by
  unfold ofUnits
  cases t with
  | plain text =>
    have h : characters? (units (plain text)) = some text.toList :=
      characters?_flatMap_codeUnits _
    split
    · rename_i h'
      rw [← Option.some.inj (h.symm.trans h'), String.ofList_toList]
    · rename_i h'
      cases h.symm.trans h'
  | broken us lone =>
    split
    · rename_i h
      cases lone.symm.trans h
    · rfl

theorem flatMap_intercalate {α β : Type} (f : α → List β) (sep : List α) (parts : List (List α)) :
    (sep.intercalate parts).flatMap f = (sep.flatMap f).intercalate (parts.map (·.flatMap f)) := by
  induction parts with
  | nil => rfl
  | cons part rest ih =>
    cases rest with
    | nil => simp
    | cons next rest =>
      rw [List.intercalate_cons_cons, List.flatMap_append, List.flatMap_append, ih]
      simp only [List.map_cons, List.intercalate_cons_cons, List.append_assoc]

theorem joined_plain (texts : List String) :
    joined ',' (texts.map .plain) = .plain (",".intercalate texts) := by
  have comma : ",".toList.flatMap codeUnits = codeUnits ',' := by decide
  have joins : (plain (",".intercalate texts)).units =
      (codeUnits ',').intercalate ((texts.map .plain).map units) := by
    show (",".intercalate texts).toList.flatMap codeUnits = _
    rw [String.toList_intercalate, flatMap_intercalate, comma, List.map_map, List.map_map]
    rfl
  rw [joined, ← joins, ofUnits_units]

end RawText

end AnalysisWebhooks
