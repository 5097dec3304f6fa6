import AnalysisWebhooks.Text.Form
import Mathlib.Data.List.Basic
import Mathlib.Data.List.TakeWhile

namespace AnalysisWebhooks.Text

theorem decodeUtf8_utf8_append (c : Char) (rest : List Nat) :
    decodeUtf8 (utf8 c ++ rest) = c :: decodeUtf8 rest := by
  have hof : Char.ofNat c.toNat = c := Char.ofNat_toNat c
  have hc : c.toNat < 0xD800 ∨ 0xDFFF < c.toNat ∧ c.toNat < 0x110000 := c.valid
  unfold decodeUtf8 utf8
  generalize c.toNat = n at *
  have hof' : ∀ m, m = n → Char.ofNat m = c := fun m h => h ▸ hof
  dsimp only
  split
  · rename_i h
    simp [decodeFrom, lead?, h, hof]
  · split
    · rename_i h₁ h₂
      have hb : ¬ 0xC0 + n / 64 < 0x80 := by omega
      have hb' : ¬ 0xC0 + n / 64 < 0xC2 := by omega
      have hb'' : 0xC0 + n / 64 < 0xE0 := by omega
      have h3 : 0x80 + n % 64 ≤ 0xBF := by omega
      simp only [List.cons_append, List.nil_append, decodeFrom, lead?, hb, hb', hb'', if_true,
        if_false]
      simp [h3]
      exact hof' _ (by omega)
    · split
      · rename_i h₁ h₂ h₃
        have hb : ¬ 0xE0 + n / 4096 < 0x80 := by omega
        have hb' : ¬ 0xE0 + n / 4096 < 0xC2 := by omega
        have hb'' : ¬ 0xE0 + n / 4096 < 0xE0 := by omega
        have hb3 : 0xE0 + n / 4096 < 0xF0 := by omega
        have hlow : (if 0xE0 + n / 4096 = 0xE0 then 0xA0 else 0x80) ≤ 0x80 + n / 64 % 64 := by
          split <;> omega
        have hhigh : 0x80 + n / 64 % 64 ≤ (if 0xE0 + n / 4096 = 0xED then 0x9F else 0xBF) := by
          split <;> omega
        have h4 : 0x80 + n % 64 ≤ 0xBF := by omega
        simp only [List.cons_append, List.nil_append, decodeFrom, lead?, hb, hb', hb'', hb3,
          if_true,
          if_false, hlow, hhigh]
        simp [h4]
        exact hof' _ (by omega)
      · rename_i h₁ h₂ h₃
        have hb : ¬ 0xF0 + n / 262144 < 0x80 := by omega
        have hb' : ¬ 0xF0 + n / 262144 < 0xC2 := by omega
        have hb'' : ¬ 0xF0 + n / 262144 < 0xE0 := by omega
        have hb3 : ¬ 0xF0 + n / 262144 < 0xF0 := by omega
        have hb4 : 0xF0 + n / 262144 < 0xF5 := by omega
        have hlow : (if 0xF0 + n / 262144 = 0xF0 then 0x90 else 0x80) ≤ 0x80 + n / 4096 % 64 := by
          split <;> omega
        have hhigh : 0x80 + n / 4096 % 64 ≤ (if 0xF0 + n / 262144 = 0xF4 then 0x8F else 0xBF) := by
          split <;> omega
        have h4 : 0x80 + n % 64 ≤ 0xBF := by omega
        have h5 : 0x80 + n / 64 % 64 ≤ 0xBF := by omega
        simp only [List.cons_append, List.nil_append, decodeFrom, lead?, hb, hb', hb'', hb3, hb4,
          if_true, if_false, hlow, hhigh]
        simp [h4, h5]
        exact hof' _ (by omega)

theorem decodeUtf8_flatMap_utf8 (s : List Char) : decodeUtf8 (s.flatMap utf8) = s := by
  induction s with
  | nil => rfl
  | cons c rest ih => rw [List.flatMap_cons, decodeUtf8_utf8_append, ih]

theorem ofNat_of_isUnreserved : ∀ b < 128, isUnreserved b = true →
    Char.ofNat b ≠ '%' ∧ Char.ofNat b ≠ '+' ∧ utf8 (Char.ofNat b) = [b] := by decide

theorem lt_of_isUnreserved {b : Nat} (h : isUnreserved b = true) : b < 128 := by
  simp only [isUnreserved, Bool.or_eq_true, Bool.and_eq_true, decide_eq_true_eq, beq_iff_eq] at h
  omega

theorem lt_of_mem_utf8 {c : Char} {b : Nat} (h : b ∈ utf8 c) : b < 256 := by
  have hc : c.toNat < 0xD800 ∨ 0xDFFF < c.toNat ∧ c.toNat < 0x110000 := c.valid
  unfold utf8 at h
  generalize c.toNat = n at *
  dsimp only at h
  split at h
  · simp only [List.mem_singleton] at h
    omega
  · split at h
    · simp only [List.mem_cons, List.not_mem_nil, or_false] at h
      omega
    · split at h <;>
      · simp only [List.mem_cons, List.not_mem_nil, or_false] at h
        omega

theorem formBytes_formByte_append {b : Nat} (h : b < 256) (rest : List Char) :
    formBytes (formByte b ++ rest) = b :: formBytes rest := by
  unfold formByte
  split
  · rename_i hu
    obtain ⟨hp, hq, h8⟩ := ofNat_of_isUnreserved b (lt_of_isUnreserved hu) hu
    simp [formBytes, hp, hq, h8]
  · split
    · rename_i hb
      simp [formBytes, hb]
    · have h1 := hexValue?_upperHexDigit (b / 16) (by omega)
      have h2 := hexValue?_upperHexDigit (b % 16) (by omega)
      simp only [List.cons_append, List.nil_append, formBytes, h1, h2, List.cons.injEq, and_true]
      omega

theorem formBytes_flatMap_append {bytes : List Nat} (h : ∀ b ∈ bytes, b < 256)
    (rest : List Char) :
    formBytes (bytes.flatMap formByte ++ rest) = bytes ++ formBytes rest := by
  induction bytes with
  | nil => rfl
  | cons b more ih =>
    rw [List.flatMap_cons, List.append_assoc,
      formBytes_formByte_append (h b List.mem_cons_self),
      ih fun c hc => h c (List.mem_cons_of_mem _ hc)]
    rfl

theorem formBytes_formChars (s : List Char) : formBytes (formChars s) = s.flatMap utf8 := by
  induction s with
  | nil => rfl
  | cons c rest ih =>
    rw [formChars, List.flatMap_cons, formBytes_flatMap_append fun _ => lt_of_mem_utf8,
      ← formChars, ih, List.flatMap_cons]

theorem formDecode_formEncode (s : String) : formDecode (formEncode s).toList = s := by
  simp [formDecode, formEncode, formBytes_formChars, decodeUtf8_flatMap_utf8]

theorem pieces_ne_nil (sep : Char) (s : List Char) : pieces sep s ≠ [] := by
  cases s with
  | nil => simp [pieces]
  | cons c rest =>
    rw [pieces]
    split
    · simp
    · split <;> simp

theorem pieces_eq_splitOn (sep : Char) (s : List Char) : pieces sep s = s.splitOn sep := by
  induction s with
  | nil => rfl
  | cons c rest ih =>
    rw [pieces, List.splitOn, List.splitOnP_cons_eq_if_modifyHead, ← List.splitOn, ← ih]
    by_cases hc : c = sep
    · simp [hc]
    · rw [if_neg hc, if_neg (by simpa using hc)]
      cases hp : pieces sep rest with
      | nil => exact absurd hp (pieces_ne_nil sep rest)
      | cons p ps => rfl

theorem pieces_intercalate {sep : Char} {parts : List (List Char)} (h : ∀ p ∈ parts, sep ∉ p)
    (hne : parts ≠ []) : pieces sep ([sep].intercalate parts) = parts :=
  (pieces_eq_splitOn sep _).trans (List.splitOn_intercalate sep h hne)

def IsPlain (c : Char) : Prop :=
  c.isAlphanum = true ∨ c ∈ "_.-~%+".toList

instance : DecidablePred IsPlain := fun c =>
  inferInstanceAs (Decidable (c.isAlphanum = true ∨ c ∈ "_.-~%+".toList))

def Plain (s : List Char) : Prop :=
  ∀ c ∈ s, IsPlain c

instance : DecidablePred Plain := fun s =>
  inferInstanceAs (Decidable (∀ c ∈ s, IsPlain c))

theorem Plain.not_mem {s : List Char} (h : Plain s) {c : Char} (hc : ¬ IsPlain c) : c ∉ s :=
  fun hs => hc (h c hs)

theorem isPlain_ofNat : ∀ b < 128, isUnreserved b = true → IsPlain (Char.ofNat b) := by decide

theorem isPlain_upperHexDigit : ∀ n < 16, IsPlain (upperHexDigit n) := by decide

theorem plain_formByte {b : Nat} (h : b < 256) : Plain (formByte b) := by
  unfold formByte
  split
  · rename_i hu
    exact List.forall_mem_singleton.2 (isPlain_ofNat b (lt_of_isUnreserved hu) hu)
  · split
    · exact List.forall_mem_singleton.2 (by decide)
    · simp only [Plain, List.forall_mem_cons]
      exact ⟨by decide, isPlain_upperHexDigit _ (by omega), isPlain_upperHexDigit _ (by omega),
        List.forall_mem_nil _⟩

theorem plain_formEncode (s : String) : Plain (formEncode s).toList := by
  rw [formEncode, String.toList_ofList]
  intro c hc
  obtain ⟨d, -, hd⟩ := List.mem_flatMap.1 hc
  obtain ⟨b, hb, hcb⟩ := List.mem_flatMap.1 hd
  exact plain_formByte (lt_of_mem_utf8 hb) c hcb

theorem toList_eq_dropEnd_append (c : Char) (s : String) :
    ∃ n, s.toList = (dropEnd c s).toList ++ List.replicate n c := by
  refine ⟨(s.toList.reverse.takeWhile (· == c)).length, ?_⟩
  have hdropped : s.toList.reverse.takeWhile (· == c) = List.replicate _ c :=
    List.eq_replicate_iff.2 ⟨rfl, fun d hd => by simpa using List.mem_takeWhile_imp hd⟩
  have hparts : (s.toList.reverse.takeWhile (· == c) ++
      s.toList.reverse.dropWhile (· == c)).reverse = s.toList := by
    rw [List.takeWhile_append_dropWhile, List.reverse_reverse]
  rw [List.reverse_append, hdropped, List.reverse_replicate] at hparts
  rw [dropEnd, String.toList_ofList]
  exact hparts.symm

theorem getLast?_dropEnd (c : Char) (s : String) : (dropEnd c s).toList.getLast? ≠ some c := by
  rw [dropEnd, String.toList_ofList, List.getLast?_reverse]
  intro hlast
  have hnot := List.head?_dropWhile_not (· == c) s.toList.reverse
  rw [hlast] at hnot
  simp at hnot

theorem formDecode_of_plain {s : String} (h : formEncode s = s) : formDecode s.toList = s :=
  calc formDecode s.toList = formDecode (formEncode s).toList := by rw [h]
    _ = s := formDecode_formEncode s

theorem takeWhile_ne_append {c : Char} {s : List Char} (h : c ∉ s) (rest : List Char) :
    (s ++ c :: rest).takeWhile (· ≠ c) = s := by
  have before : ∀ d ∈ s, decide (d ≠ c) = true := fun d hd =>
    decide_eq_true (ne_of_mem_of_not_mem hd h)
  rw [List.takeWhile_append_of_pos before]
  simp

end AnalysisWebhooks.Text
