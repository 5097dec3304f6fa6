import AnalysisWebhooks.Proofs.Store.Edits
import AnalysisWebhooks.Proofs.Store.Tasks

namespace AnalysisWebhooks

open Calendar

section Upserted

variable {α : Type} {key : α → String} {rows : List α}

theorem filter_upserted_key (row : α) (distinct : (rows.map key).Nodup) :
    (upserted (fun old => key old = key row) (fun _ => row) row rows).filter
      (fun old => key old = key row) = [row] := by
  induction rows with
  | nil => rw [upserted, List.filter_cons_of_pos (by simp), List.filter_nil]
  | cons old rest ih =>
    obtain ⟨absent, distinct⟩ := List.nodup_cons.1 distinct
    rw [upserted]
    by_cases h : key old = key row
    · have others : rest.filter (fun old => key old = key row) = [] := by
        refine List.filter_eq_nil_iff.2 fun other hother hkey => absent ?_
        rw [h, ← of_decide_eq_true hkey]
        exact List.mem_map_of_mem hother
      rw [if_pos (decide_eq_true h), List.filter_cons_of_pos (by simp), others]
    · rw [if_neg (by simpa using h), List.filter_cons_of_neg (by simpa using h), ih distinct]

end Upserted

namespace Store

structure Keyed (s : Store) : Prop where
  components : (s.components.map (·.uuid)).Nodup
  branches : (s.branches.map (·.uuid)).Nodup

variable {s t : Store} {now : Moment}

theorem Keyed.empty : ({} : Store).Keyed :=
  ⟨List.nodup_nil, List.nodup_nil⟩

theorem Keyed.edit (h : s.Keyed) (ht : Edit now s t) : t.Keyed := by
  cases ht with
  | component uuid key name root mainProject =>
    exact ⟨keys_upserted h.components (fun _ _ => rfl) rfl, h.branches⟩
  | @branch _ uuid project key kind ht =>
    rw [withBranch_eq_ok ht]
    exact ⟨h.components, keys_upserted h.branches (fun _ _ => rfl) rfl⟩
  | snapshot ht =>
    obtain ⟨_, -, rfl⟩ := withSnapshot_eq_ok ht
    exact ⟨h.components, h.branches⟩
  | activity ht =>
    obtain ⟨_, _, -, -, rfl⟩ := withActivity_eq_ok ht
    exact ⟨h.components, h.branches⟩
  | others ht =>
    rw [ht]
    exact ⟨h.components, h.branches⟩

theorem Keyed.edits (h : s.Keyed) (ht : Edits now s t) : t.Keyed := by
  induction ht with
  | refl => exact h
  | tail _ ht ih => exact ih.edit ht

end Store

end AnalysisWebhooks
