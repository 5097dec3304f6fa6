import Mathlib.Data.List.Nodup
import AnalysisWebhooks.Proofs.Outcome
import AnalysisWebhooks.Store.Analyses

namespace AnalysisWebhooks

variable {α : Type} {key : α → String} {k : String} {merge : α → α} {fresh : α} {rows : List α}

theorem mem_upserted {α : Type} {sameKey : α → Bool} {merge : α → α} {fresh x : α}
    {rows : List α} (h : x ∈ upserted sameKey merge fresh rows) :
    x = fresh ∨ x ∈ rows ∨ ∃ row ∈ rows, sameKey row = true ∧ x = merge row := by
  induction rows with
  | nil => simp [upserted] at h; exact .inl h
  | cons row rest ih =>
    rw [upserted] at h
    split at h
    · rename_i hk
      rcases List.mem_cons.1 h with rfl | h
      · exact .inr (.inr ⟨row, List.mem_cons_self, hk, rfl⟩)
      · exact .inr (.inl (List.mem_cons_of_mem _ h))
    · rcases List.mem_cons.1 h with rfl | h
      · exact .inr (.inl List.mem_cons_self)
      · rcases ih h with h | h | ⟨r, hr, hk, hx⟩
        · exact .inl h
        · exact .inr (.inl (List.mem_cons_of_mem _ h))
        · exact .inr (.inr ⟨r, List.mem_cons_of_mem _ hr, hk, hx⟩)

theorem upserted_of_forall_ne (h : ∀ row ∈ rows, key row ≠ k) :
    upserted (fun row => key row = k) merge fresh rows = rows ++ [fresh] := by
  induction rows with
  | nil => rfl
  | cons row rest ih =>
    obtain ⟨hrow, hrest⟩ := List.forall_mem_cons.1 h
    rw [upserted, if_neg (by simpa using hrow), ih hrest, List.cons_append]

theorem find?_upserted (hmerge : ∀ row, key row = k → key (merge row) = k)
    (hfresh : key fresh = k) :
    (upserted (fun row => key row = k) merge fresh rows).find? (fun row => key row = k) =
      some (((rows.find? fun row => key row = k).map merge).getD fresh) := by
  induction rows with
  | nil => simp [upserted, hfresh]
  | cons row rest ih =>
    by_cases hrow : key row = k
    · simp [upserted, hrow, hmerge row hrow]
    · simpa [upserted, hrow] using ih

theorem upserted_of_mem (distinct : (rows.map key).Nodup) (h : k ∈ rows.map key) :
    upserted (fun row => key row = k) merge fresh rows =
      rows.map fun row => if key row = k then merge row else row := by
  induction rows with
  | nil => cases h
  | cons row rest ih =>
    obtain ⟨hout, distinct⟩ := List.nodup_cons.1 distinct
    rw [upserted, List.map_cons]
    by_cases hrow : key row = k
    · have others : ∀ other ∈ rest, (if key other = k then merge other else other) = other := by
        intro other hother
        refine if_neg fun hk => hout ?_
        rw [hrow, ← hk]
        exact List.mem_map_of_mem hother
      rw [if_pos (by simpa using hrow), if_pos hrow, List.map_congr_left others, List.map_id']
    · have hrest : k ∈ rest.map key := by
        rw [List.map_cons, List.mem_cons] at h
        exact h.resolve_left fun hk => hrow hk.symm
      rw [if_neg (by simpa using hrow), if_neg hrow, ih distinct hrest]

theorem mem_upserted_iff (distinct : (rows.map key).Nodup) {x : α} :
    x ∈ upserted (fun row => key row = k) merge fresh rows ↔
      (x ∈ rows ∧ key x ≠ k) ∨ (∃ row ∈ rows, key row = k ∧ x = merge row) ∨
        ((∀ row ∈ rows, key row ≠ k) ∧ x = fresh) := by
  by_cases h : k ∈ rows.map key
  · rw [upserted_of_mem distinct h, List.mem_map]
    obtain ⟨old, hold, hkey⟩ := List.mem_map.1 h
    constructor
    · rintro ⟨row, hrow, rfl⟩
      split
      · rename_i hk
        exact .inr (.inl ⟨row, hrow, hk, rfl⟩)
      · rename_i hk
        exact .inl ⟨hrow, hk⟩
    · rintro (⟨hx, hk⟩ | ⟨row, hrow, hk, rfl⟩ | ⟨hne, -⟩)
      · exact ⟨x, hx, if_neg hk⟩
      · exact ⟨row, hrow, if_pos hk⟩
      · exact absurd hkey (hne old hold)
  · have hne : ∀ row ∈ rows, key row ≠ k := fun row hrow hk => h (hk ▸ List.mem_map_of_mem hrow)
    rw [upserted_of_forall_ne hne, List.mem_append, List.mem_singleton]
    constructor
    · rintro (hx | rfl)
      · exact .inl ⟨hx, hne x hx⟩
      · exact .inr (.inr ⟨hne, rfl⟩)
    · rintro (⟨hx, -⟩ | ⟨row, hrow, hk, -⟩ | ⟨-, rfl⟩)
      · exact .inl hx
      · exact absurd hk (hne row hrow)
      · exact .inr rfl

theorem keys_upserted (distinct : (rows.map key).Nodup)
    (hmerge : ∀ row, key row = k → key (merge row) = k) (hfresh : key fresh = k) :
    ((upserted (fun row => key row = k) merge fresh rows).map key).Nodup := by
  by_cases h : k ∈ rows.map key
  · rw [upserted_of_mem distinct h, List.map_map]
    have same : key ∘ (fun row => if key row = k then merge row else row) = key := by
      funext row
      rw [Function.comp_apply]
      split
      · rename_i hk
        exact (hmerge row hk).trans hk.symm
      · rfl
    rw [same]
    exact distinct
  · have hne : ∀ row ∈ rows, key row ≠ k := fun row hrow hk => h (hk ▸ List.mem_map_of_mem hrow)
    rw [upserted_of_forall_ne hne, List.map_append, List.map_singleton, hfresh,
      ← List.concat_eq_append]
    exact distinct.concat h

theorem length_le_one_iff (distinct : (rows.map key).Nodup) :
    rows.length ≤ 1 ↔ ∀ a ∈ rows, ∀ b ∈ rows, key a = key b := by
  constructor
  · intro h a ha b hb
    match rows, h with
    | [row], _ => rw [List.mem_singleton.1 ha, List.mem_singleton.1 hb]
  · intro h
    match rows with
    | [] => simp
    | [_] => simp
    | a :: b :: rest =>
      have same := h a List.mem_cons_self b (List.mem_cons_of_mem a List.mem_cons_self)
      simp [same] at distinct

end AnalysisWebhooks
