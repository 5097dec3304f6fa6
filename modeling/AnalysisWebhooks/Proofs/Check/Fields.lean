import AnalysisWebhooks.Check.Record
import AnalysisWebhooks.Check.Scalar
import Mathlib.Data.List.Forall2

namespace AnalysisWebhooks.Check

variable {α : Type} {k : Key} {read : Json → Check α} {members : Json.Members}

theorem text_eq_ok {j : Json} {s : RawText} : text j = ok s ↔ j = .text s := by
  cases j <;> simp [text, fail]

theorem items_eq_ok {place : Nat} {js : List Json} {values : List α} :
    items read place js = ok values ↔ List.Forall₂ (fun j a => read j = ok a) js values := by
  induction js generalizing place values with
  | nil => simp [items, eq_comm]
  | cons j rest ih =>
    simp only [items, seq_eq_ok, map_eq_ok, within_eq_ok, ih, List.forall₂_cons_left_iff]
    constructor
    · rintro ⟨_, more, ⟨a, first, rfl⟩, others, rfl⟩
      exact ⟨a, more, first, others, rfl⟩
    · rintro ⟨a, more, first, others, rfl⟩
      exact ⟨_, more, ⟨a, first, rfl⟩, others, rfl⟩

theorem record_eq_ok {name : String} {read : Json.Members → Check α} {j : Json} {a : α} :
    record name read j = ok a ↔ ∃ m, j = .object m ∧ read m = ok a := by
  cases j <;> simp [record, fail]

theorem closed_eq_ok {keys : List Key} {read : Json.Members → Check α} {a : α} :
    closed keys read members = ok a ↔
      (∀ m ∈ members, m.1.isUnicode) ∧ read members = ok a ∧ unexpected keys members = [] := by
  unfold closed
  split
  · rename_i hplain
    rw [withFaults_eq_ok]
    exact ⟨fun h => ⟨List.all_eq_true.1 hplain, h⟩, fun h => h.2⟩
  · rename_i hplain
    exact ⟨nofun, fun h => absurd (List.all_eq_true.2 h.1) hplain⟩

theorem required_eq_ok {a : α} : required k read members = ok a ↔
    ∃ name j, k.find? members = some (name, j) ∧ read j = ok a := by
  unfold required
  rcases k.find? members with _ | ⟨name, j⟩
  · simp
  · simp [within_eq_ok, and_assoc]

theorem optional_eq_ok {fallback a : α} : optional k fallback read members = ok a ↔
    (k.find? members = none ∧ a = fallback) ∨
      ∃ name j, k.find? members = some (name, j) ∧ read j = ok a := by
  unfold optional
  rcases k.find? members with _ | ⟨name, j⟩
  · simp [eq_comm]
  · simp [within_eq_ok, and_assoc]

theorem nullable_of_ne {j : Json} (h : j ≠ .null) : nullable read j = some <$> read j := by
  cases j with
  | null => exact absurd rfl h
  | bool _ | int _ | real _ | text _ | array _ | object _ => rfl

theorem maybe_eq_optional : maybe k read = optional k none (nullable read) := by
  funext members
  congr 1

theorem maybe_eq_some {a : α} : maybe k read members = ok (some a) ↔
    ∃ name j, k.find? members = some (name, j) ∧ j ≠ .null ∧ read j = ok a := by
  simp only [maybe_eq_optional, optional_eq_ok, reduceCtorEq, and_false, false_or]
  refine exists_congr fun name => exists_congr fun j => and_congr_right fun _ => ?_
  by_cases hj : j = .null
  · simp [hj, nullable]
  · simp [hj, nullable_of_ne, map_eq_ok]

theorem maybe_eq_none : maybe k read members = ok none ↔
    k.find? members = none ∨ ∃ name, k.find? members = some (name, .null) := by
  simp only [maybe_eq_optional, optional_eq_ok, and_true]
  refine or_congr_right (exists_congr fun name => ⟨?_, fun h => ⟨.null, h, rfl⟩⟩)
  rintro ⟨j, hfind, hj⟩
  by_cases hnull : j = .null
  · rwa [hnull] at hfind
  · rw [nullable_of_ne hnull, map_eq_ok] at hj
    simp at hj

end AnalysisWebhooks.Check
