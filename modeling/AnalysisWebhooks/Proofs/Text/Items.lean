import AnalysisWebhooks.Proofs.Text.Form
import Mathlib.Data.List.DropRight

namespace AnalysisWebhooks.Text

theorem cut_induction (sep : Char) {motive : List Char → Prop}
    (whole : ∀ s, sep ∉ s → motive s)
    (cut : ∀ first rest, sep ∉ first → motive rest → motive (first ++ sep :: rest))
    (s : List Char) : motive s := by
  by_cases h : sep ∈ s
  · obtain ⟨first, rest, parts, free⟩ := List.eq_append_cons_of_mem h
    rw [parts]
    exact cut first rest free (cut_induction sep whole cut rest)
  · exact whole s h
termination_by s.length
decreasing_by
  rw [parts, List.length_append, List.length_cons]
  omega

section Trimming

variable {c : Char}

theorem trimChars_cons_of_isBlank (h : isBlank c = true) (s : List Char) :
    trimChars (c :: s) = trimChars s := by
  rw [trimChars, trimStart, List.dropWhile_cons_of_pos h]
  rfl

theorem trimEnd_concat_of_isBlank (h : isBlank c = true) (s : List Char) :
    trimEnd (s ++ [c]) = trimEnd s :=
  List.rdropWhile_concat_pos isBlank s c h

theorem trimChars_concat_of_isBlank (h : isBlank c = true) (s : List Char) :
    trimChars (s ++ [c]) = trimChars s := by
  rw [trimChars, trimChars, trimStart, trimStart, List.dropWhile_append]
  split
  · rename_i blank
    rw [List.isEmpty_iff.1 blank, List.dropWhile_cons_of_pos h]
    rfl
  · exact trimEnd_concat_of_isBlank h _

theorem apply_trimChars {β : Type} {f : List Char → β}
    (start : ∀ c s, isBlank c = true → f (c :: s) = f s)
    (stop : ∀ c s, isBlank c = true → f (s ++ [c]) = f s) (s : List Char) :
    f (trimChars s) = f s := by
  have atStart (s : List Char) : f (trimStart s) = f s := by
    induction s with
    | nil => rfl
    | cons c s ih =>
      by_cases h : isBlank c = true
      · rw [trimStart, List.dropWhile_cons_of_pos h, start c s h]
        exact ih
      · rw [trimStart, List.dropWhile_cons_of_neg h]
  have atEnd (s : List Char) : f (trimEnd s) = f s := by
    induction s using List.reverseRecOn with
    | nil => rfl
    | append_singleton s c ih =>
      by_cases h : isBlank c = true
      · rw [trimEnd_concat_of_isBlank h, stop c s h]
        exact ih
      · exact congrArg f (List.rdropWhile_concat_neg isBlank s c h)
  rw [trimChars, atEnd, atStart]

theorem trimChars_trimChars (s : List Char) : trimChars (trimChars s) = trimChars s :=
  apply_trimChars (fun _ s h => trimChars_cons_of_isBlank h s)
    (fun _ s h => trimChars_concat_of_isBlank h s) s

theorem trimChars_sublist (s : List Char) : (trimChars s).Sublist s :=
  (List.rdropWhile_prefix isBlank (trimStart s)).sublist.trans (List.dropWhile_sublist isBlank)

end Trimming

def charItems (s : List Char) : List (List Char) :=
  ((pieces ',' s).map trimChars).filter (· ≠ [])

section Items

variable {s : List Char}

theorem charItems_append (first rest : List Char) :
    charItems (first ++ ',' :: rest) = charItems first ++ charItems rest := by
  simp only [charItems, pieces_eq_splitOn]
  rw [List.splitOn_append_cons_self, List.map_append, List.filter_append]

theorem charItems_of_not_mem (h : ',' ∉ s) : charItems s = [trimChars s].filter (· ≠ []) := by
  rw [charItems, pieces_eq_splitOn, List.splitOn_eq_singleton h, List.map_singleton]

theorem charItems_cons_of_isBlank {c : Char} (h : isBlank c = true) (s : List Char) :
    charItems (c :: s) = charItems s := by
  have other : ',' ≠ c := by
    rintro rfl
    revert h
    decide
  have plain {s : List Char} (free : ',' ∉ s) : charItems (c :: s) = charItems s := by
    have free' : ',' ∉ c :: s := List.not_mem_cons_of_ne_of_not_mem other free
    rw [charItems_of_not_mem free', charItems_of_not_mem free, trimChars_cons_of_isBlank h]
  induction s using cut_induction ',' with
  | whole s free => exact plain free
  | cut first rest free _ =>
    rw [← List.cons_append, charItems_append, charItems_append, plain free]

theorem charItems_concat_of_isBlank {c : Char} (h : isBlank c = true) (s : List Char) :
    charItems (s ++ [c]) = charItems s := by
  have other : ',' ≠ c := by
    rintro rfl
    revert h
    decide
  induction s using cut_induction ',' with
  | whole s free =>
    have free' : ',' ∉ s ++ [c] := by simpa using ⟨free, other⟩
    rw [charItems_of_not_mem free', charItems_of_not_mem free, trimChars_concat_of_isBlank h]
  | cut first rest _ ih =>
    rw [List.append_assoc, List.cons_append, charItems_append, charItems_append, ih]

theorem charItems_trimChars (s : List Char) : charItems (trimChars s) = charItems s :=
  apply_trimChars (fun _ s h => charItems_cons_of_isBlank h s)
    (fun _ s h => charItems_concat_of_isBlank h s) s

theorem charItems_intercalate (parts : List (List Char)) :
    charItems ([','].intercalate parts) = parts.flatMap charItems := by
  induction parts with
  | nil => rfl
  | cons part rest ih =>
    cases rest with
    | nil => simp
    | cons next rest =>
      rw [List.intercalate_cons_cons, List.append_assoc, List.singleton_append, charItems_append,
        ih, ← List.flatMap_cons]

theorem not_mem_of_mem_pieces {sep : Char} {piece : List Char} (h : piece ∈ pieces sep s) :
    sep ∉ piece := by
  rw [pieces_eq_splitOn] at h
  induction s using cut_induction sep with
  | whole s free =>
    rw [List.splitOn_eq_singleton free, List.mem_singleton] at h
    rwa [h]
  | cut first rest free ih =>
    rw [List.splitOn_append_cons_self_of_not_mem free, List.mem_cons] at h
    rcases h with rfl | h
    · exact free
    · exact ih h

theorem charItems_of_mem {item : List Char} (h : item ∈ charItems s) : charItems item = [item] := by
  obtain ⟨found, filled⟩ := List.mem_filter.1 h
  obtain ⟨piece, hpiece, rfl⟩ := List.mem_map.1 found
  have free : ',' ∉ trimChars piece := fun inside =>
    not_mem_of_mem_pieces hpiece ((trimChars_sublist piece).subset inside)
  rw [charItems_of_not_mem free, trimChars_trimChars]
  exact List.filter_cons_of_pos filled

end Items

section Texts

variable {s : String}

theorem commaItems_eq (s : String) : commaItems s = (charItems s.toList).map String.ofList := rfl

theorem commaItems_trim (s : String) : commaItems (trim s) = commaItems s := by
  rw [commaItems_eq, trim, String.toList_ofList, charItems_trimChars]
  rfl

theorem commaItems_intercalate (texts : List String) :
    commaItems (",".intercalate texts) = texts.flatMap commaItems := by
  have comma : ",".toList = [','] := rfl
  rw [commaItems_eq, String.toList_intercalate, comma, charItems_intercalate, List.flatMap_map,
    List.map_flatMap]
  rfl

def trimmedPieces (s : String) : List String :=
  ((s.toList.splitOn ',').map fun piece => trim (String.ofList piece)).filter (· ≠ "")

theorem commaItems_eq_trimmedPieces : commaItems = trimmedPieces := by
  have filled : (fun text : String => decide (text ≠ "")) ∘ String.ofList =
      fun piece => decide (piece ≠ []) := by
    funext piece
    simp
  funext s
  calc commaItems s
      = (((s.toList.splitOn ',').map trimChars).map String.ofList).filter (· ≠ "") := by
        rw [List.filter_map, filled, ← pieces_eq_splitOn]
        rfl
    _ = trimmedPieces s := by
        rw [List.map_map, trimmedPieces]
        simp only [Function.comp_def, trim, String.toList_ofList]

theorem trimmedPieces_of_not_mem (h : ',' ∉ s.toList) :
    trimmedPieces s = [trim s].filter (· ≠ "") := by
  rw [trimmedPieces, List.splitOn_eq_singleton h, List.map_singleton, String.ofList_toList]

theorem commaItems_of_mem {item : String} (h : item ∈ commaItems s) : commaItems item = [item] := by
  rw [commaItems_eq] at h
  obtain ⟨chars, hchars, rfl⟩ := List.mem_map.1 h
  rw [commaItems_eq, String.toList_ofList, charItems_of_mem hchars, List.map_singleton]

theorem flatMap_commaItems {items : List String} (h : ∀ item ∈ items, commaItems item = [item]) :
    items.flatMap commaItems = items :=
  calc items.flatMap commaItems = items.flatMap fun item => [item] := List.flatMap_congr h
    _ = items := List.flatMap_singleton' items

end Texts

end AnalysisWebhooks.Text
