import AnalysisWebhooks.Store.Sorted

namespace AnalysisWebhooks

variable {α : Type} {r : α → α → Bool}

theorem placed_perm (mayPrecede : α → α → Bool) (x : α) (l : List α) :
    (placed mayPrecede x l).Perm (x :: l) := by
  induction l with
  | nil => exact .refl _
  | cons y rest ih =>
    rw [placed]
    split
    · exact .refl _
    · exact (ih.cons y).trans (.swap x y rest)

theorem sorted_perm (mayPrecede : α → α → Bool) (l : List α) : (sorted mayPrecede l).Perm l := by
  induction l with
  | nil => exact .refl _
  | cons x rest ih => exact (placed_perm mayPrecede x _).trans (ih.cons x)

theorem mem_placed {x y : α} {l : List α} : y ∈ placed r x l ↔ y = x ∨ y ∈ l := by
  rw [(placed_perm r x l).mem_iff, List.mem_cons]

theorem mem_sorted {y : α} {l : List α} : y ∈ sorted r l ↔ y ∈ l :=
  (sorted_perm r l).mem_iff

theorem placed_eq_cons {x : α} {l : List α} (h : ∀ y ∈ l, r x y = true) :
    placed r x l = x :: l := by
  cases l with
  | nil => rfl
  | cons y rest => rw [placed, if_pos (h y List.mem_cons_self)]

theorem take_placed_take (n : Nat) (x : α) (l : List α) :
    (placed r x (l.take n)).take n = (placed r x l).take n := by
  induction l generalizing n with
  | nil => simp
  | cons y rest ih =>
    cases n with
    | zero => simp
    | succ n =>
      rw [List.take_succ_cons, placed, placed]
      split
      · simp only [List.take_succ_cons]
        cases n with
        | zero => simp
        | succ n => simp [List.take_take]
      · rw [List.take_succ_cons, List.take_succ_cons, ih]

theorem placed_map {β : Type} {q : β → β → Bool} (f : α → β) {x : α} {l : List α}
    (h : ∀ y ∈ l, r x y = q (f x) (f y)) : (placed r x l).map f = placed q (f x) (l.map f) := by
  induction l with
  | nil => rfl
  | cons y rest ih =>
    rw [placed, List.map_cons, placed, ← h y List.mem_cons_self]
    split
    · rfl
    · rw [List.map_cons, ih fun z hz => h z (List.mem_cons_of_mem y hz)]

theorem sorted_congr {q : α → α → Bool} {l : List α} (h : ∀ x ∈ l, ∀ y ∈ l, r x y = q x y) :
    sorted r l = sorted q l := by
  induction l with
  | nil => rfl
  | cons x rest ih =>
    have hrest : sorted r rest = sorted q rest :=
      ih fun y hy z hz => h y (List.mem_cons_of_mem x hy) z (List.mem_cons_of_mem x hz)
    have hplaced := placed_map (r := r) (q := q) id (x := x) (l := sorted q rest) fun y hy =>
      h x List.mem_cons_self y (List.mem_cons_of_mem x (mem_sorted.1 hy))
    rw [sorted, sorted, hrest]
    simpa using hplaced

section Preorder

variable (total : ∀ a b, r a b = true ∨ r b a = true)
  (trans : ∀ a b c, r a b = true → r b c = true → r a c = true)
include total trans

theorem placed_pairwise {x : α} {l : List α} (h : l.Pairwise (r · · = true)) :
    (placed r x l).Pairwise (r · · = true) := by
  induction l with
  | nil => simp [placed]
  | cons y rest ih =>
    obtain ⟨hy, hrest⟩ := List.pairwise_cons.1 h
    rw [placed]
    split
    · rename_i hxy
      refine List.pairwise_cons.2 ⟨?_, h⟩
      intro z hz
      rcases List.mem_cons.1 hz with rfl | hz
      · exact hxy
      · exact trans x y z hxy (hy z hz)
    · rename_i hxy
      refine List.pairwise_cons.2 ⟨?_, ih hrest⟩
      intro z hz
      rcases mem_placed.1 hz with rfl | hz
      · exact (total z y).resolve_left hxy
      · exact hy z hz

theorem sorted_pairwise (l : List α) : (sorted r l).Pairwise (r · · = true) := by
  induction l with
  | nil => exact .nil
  | cons x rest ih => exact placed_pairwise total trans ih

omit total in
theorem filter_placed (p : α → Bool) {x : α} {l : List α} (h : l.Pairwise (r · · = true)) :
    (placed r x l).filter p =
      if p x = true then placed r x (l.filter p) else l.filter p := by
  induction l with
  | nil => cases hx : p x <;> simp [placed, hx]
  | cons y rest ih =>
    obtain ⟨hy, hrest⟩ := List.pairwise_cons.1 h
    rw [placed]
    split
    · rename_i hxy
      have hfront : placed r x ((y :: rest).filter p) = x :: (y :: rest).filter p := by
        apply placed_eq_cons
        intro z hz
        rcases List.mem_cons.1 (List.mem_filter.1 hz).1 with rfl | hz
        · exact hxy
        · exact trans x y z hxy (hy z hz)
      rw [hfront, List.filter_cons]
    · rename_i hxy
      rw [List.filter_cons, ih hrest, List.filter_cons]
      cases p x <;> cases p y <;> simp [placed, hxy]

theorem filter_sorted (p : α → Bool) (l : List α) :
    (sorted r l).filter p = sorted r (l.filter p) := by
  induction l with
  | nil => rfl
  | cons x rest ih =>
    rw [sorted, filter_placed trans p (sorted_pairwise total trans rest), ih, List.filter_cons]
    cases p x <;> rfl

end Preorder

theorem sorted_eq_self {l : List α} (h : ∀ x ∈ l, ∀ y ∈ l, r x y = true) : sorted r l = l := by
  induction l with
  | nil => rfl
  | cons x rest ih =>
    rw [sorted, ih fun y hy z hz => h y (List.mem_cons_of_mem x hy) z (List.mem_cons_of_mem x hz)]
    exact placed_eq_cons fun y hy => h x List.mem_cons_self y (List.mem_cons_of_mem x hy)

end AnalysisWebhooks
