import AnalysisWebhooks.Json.Reader
import AnalysisWebhooks.Json.Writer
import AnalysisWebhooks.Proofs.Text.Raw

namespace AnalysisWebhooks

open Text

def Printable (c : Char) : Prop :=
  0x20 ≤ c.toNat ∧ c.toNat ≤ 0x7E

instance (c : Char) : Decidable (Printable c) :=
  inferInstanceAs (Decidable (_ ∧ _))

namespace Text

theorem printable_hexDigit : ∀ n < 16, Printable (hexDigit n) := by decide

theorem codeUnits_ofNat {u : CodeUnit} (h : Char.ofNat u.val ≠ '\x00') :
    codeUnits (Char.ofNat u.val) = [u] := by
  refine codeUnits_of_ofUnit (if_neg fun hu => h ?_)
  simp only [isLead, isTrail, Bool.or_eq_true, Bool.and_eq_true, decide_eq_true_eq] at hu
  have hinvalid : ¬ u.val.isValidChar := by
    unfold Nat.isValidChar
    omega
  rw [Char.ofNat, dif_neg hinvalid]
  rfl

end Text

namespace Json

theorem escape?_of_shortEscapes : ∀ p ∈ shortEscapes,
    p.1 ≠ '\x00' ∧ p.2 ≠ 'u' ∧ escape? p.2 = some p.1 ∧ Printable p.2 := by decide

theorem mem_shortEscapes_of_lookup {c e : Char} (h : shortEscapes.lookup c = some e) :
    (c, e) ∈ shortEscapes := by
  obtain ⟨before, after, heq, -⟩ := List.lookup_eq_some_iff.1 h
  rw [heq]
  exact List.mem_append_right before List.mem_cons_self

theorem ne_of_lookup_shortEscapes {c : Char} (h : shortEscapes.lookup c = none) :
    c ≠ '"' ∧ c ≠ '\\' := by
  have hne (p : Char × Char) (hp : p ∈ shortEscapes) : c ≠ p.1 := by
    simpa using List.lookup_eq_none_iff.1 h p hp
  exact ⟨hne ('"', '"') (by decide), hne ('\\', '\\') (by decide)⟩

theorem escaped_cases (u : CodeUnit) :
    (∃ c e, escaped u = ['\\', e] ∧ codeUnits c = [u] ∧ e ≠ 'u' ∧ escape? e = some c ∧
      Printable e) ∨
    (∃ c, escaped u = [c] ∧ codeUnits c = [u] ∧ c ≠ '"' ∧ c ≠ '\\' ∧ Printable c) ∨
    escaped u = escapedUnit u := by
  unfold escaped
  dsimp only
  split
  · rename_i e he
    obtain ⟨hzero, hu, hescape, hprintable⟩ :=
      escape?_of_shortEscapes _ (mem_shortEscapes_of_lookup he)
    exact .inl ⟨_, e, rfl, codeUnits_ofNat hzero, hu, hescape, hprintable⟩
  · rename_i hnone
    split
    · rename_i hrange
      have hvalid : u.val.isValidChar := .inl (by omega)
      have hprintable : Printable (Char.ofNat u.val) := by
        rw [Printable, toNat_ofNat hvalid]
        omega
      have hzero : Char.ofNat u.val ≠ '\x00' := fun heq => by
        rw [heq] at hprintable
        exact absurd hprintable (by decide)
      exact .inr (.inl ⟨_, rfl, codeUnits_ofNat hzero, (ne_of_lookup_shortEscapes hnone).1,
        (ne_of_lookup_shortEscapes hnone).2, hprintable⟩)
    · exact .inr (.inr rfl)

theorem readUnits_escape {e c : Char} (hu : e ≠ 'u') (h : escape? e = some c) (rest : List Char) :
    readUnits ('\\' :: e :: rest) = (readUnits rest).map fun r => (codeUnits c ++ r.1, r.2) := by
  rw [readUnits.eq_def]
  split <;> grind

theorem readUnits_self {c : Char} (hquote : c ≠ '"') (hslash : c ≠ '\\') (h : Printable c)
    (rest : List Char) :
    readUnits (c :: rest) = (readUnits rest).map fun r => (codeUnits c ++ r.1, r.2) := by
  have hnot : ¬ (c = '\\' ∨ c.toNat < 32) := fun hor => hor.elim hslash (Nat.not_lt.2 h.1)
  rw [readUnits.eq_def]
  split <;> grind

theorem readUnits_escapedUnit (u : CodeUnit) (rest : List Char) :
    readUnits (escapedUnit u ++ rest) = (readUnits rest).map fun r => (u :: r.1, r.2) := by
  have hlt := u.isLt
  have hdigit (k : Nat) : hexValue? (hexDigit (k % 16)) = some (k % 16) :=
    hexValue?_hexDigit _ (Nat.mod_lt k (by decide))
  have hn : ((u.val / 16 / 16 / 16 % 16 * 16 + u.val / 16 / 16 % 16) * 16 + u.val / 16 % 16) * 16 +
      u.val % 16 = u.val := by omega
  simp [escapedUnit, hexDigits, readUnits, hexUnit?, hdigit, hn, eq_unit (u := u) rfl]

theorem readUnits_escaped (u : CodeUnit) (rest : List Char) :
    readUnits (escaped u ++ rest) = (readUnits rest).map fun r => (u :: r.1, r.2) := by
  rcases escaped_cases u with
    ⟨c, e, hu, hc, he, hescape, -⟩ | ⟨c, hu, hc, hquote, hslash, hprintable⟩ | hu
  · rw [hu]
    simpa [hc] using readUnits_escape he hescape rest
  · rw [hu]
    simpa [hc] using readUnits_self hquote hslash hprintable rest
  · rw [hu]
    exact readUnits_escapedUnit u rest

theorem readUnits_flatMap_escaped (units : List CodeUnit) (rest : List Char) :
    readUnits (units.flatMap escaped ++ '"' :: rest) = some (units, rest) := by
  induction units with
  | nil => rfl
  | cons u units ih =>
    rw [List.flatMap_cons, List.append_assoc, readUnits_escaped, ih]
    rfl

theorem readText_flatMap_escaped (t : RawText) (rest : List Char) :
    readText (t.units.flatMap escaped ++ '"' :: rest) = some (t, rest) := by
  rw [readText, readUnits_flatMap_escaped, Option.map_some, RawText.ofUnits_units]

theorem printable_of_mem_escapedUnit {u : CodeUnit} {c : Char} (h : c ∈ escapedUnit u) :
    Printable c := by
  have hdigit (k : Nat) : Printable (hexDigit (k % 16)) :=
    printable_hexDigit _ (Nat.mod_lt k (by decide))
  simp only [escapedUnit, hexDigits, List.nil_append, List.cons_append, List.mem_cons,
    List.not_mem_nil, or_false] at h
  rcases h with rfl | rfl | rfl | rfl | rfl | rfl
  · decide
  · decide
  all_goals exact hdigit _

theorem printable_of_mem_escaped {u : CodeUnit} {d : Char} (h : d ∈ escaped u) : Printable d := by
  rcases escaped_cases u with ⟨c, e, hu, -, -, -, he⟩ | ⟨c, hu, -, -, -, hprintable⟩ | hu
  · simp only [hu, List.mem_cons, List.not_mem_nil, or_false] at h
    rcases h with rfl | rfl
    · decide
    · exact he
  · rw [hu, List.mem_singleton] at h
    exact h ▸ hprintable
  · exact printable_of_mem_escapedUnit (hu ▸ h)

theorem printable_of_mem_textChars {t : RawText} {c : Char} (h : c ∈ textChars t) :
    Printable c := by
  simp only [textChars, List.mem_cons, List.mem_append, List.not_mem_nil, or_false] at h
  rcases h with rfl | h | rfl
  · decide
  · obtain ⟨u, -, hc⟩ := List.mem_flatMap.1 h
    exact printable_of_mem_escaped hc
  · decide

end Json

end AnalysisWebhooks
