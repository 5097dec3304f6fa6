import AnalysisWebhooks.Proofs.Store.Sorted
import AnalysisWebhooks.Store.Deliveries

namespace AnalysisWebhooks

variable {Body : Type}

theorem newestFirst_append_singleton (rows : List (DeliveryRow Body String))
    (row : DeliveryRow Body String) :
    newestFirst (rows ++ [row]) =
      placed (fun a b => decide (b.createdAt ≤ a.createdAt)) row (newestFirst rows) := by
  simp [newestFirst, sorted]

theorem newestFirst_perm (rows : List (DeliveryRow Body String)) :
    (newestFirst rows).Perm rows :=
  (sorted_perm _ _).trans rows.reverse_perm

def newer (a b : DeliveryRow Body String) : Bool :=
  decide (b.createdAt ≤ a.createdAt)

theorem newer_total (a b : DeliveryRow Body String) : newer a b = true ∨ newer b a = true := by
  simpa [newer] using String.le_total b.createdAt a.createdAt

theorem newer_trans (a b c : DeliveryRow Body String) (hab : newer a b = true)
    (hbc : newer b c = true) : newer a c = true := by
  simp only [newer, decide_eq_true_eq] at *
  exact String.le_trans hbc hab

theorem newestFirst_eq_sorted (rows : List (DeliveryRow Body String)) :
    newestFirst rows = sorted newer rows.reverse := rfl

theorem filter_newestFirst (p : DeliveryRow Body String → Bool)
    (rows : List (DeliveryRow Body String)) :
    (newestFirst rows).filter p = newestFirst (rows.filter p) := by
  rw [newestFirst_eq_sorted, filter_sorted newer_total newer_trans, List.filter_reverse]
  rfl

theorem take_newestFirst_append (k : Nat) (rows : List (DeliveryRow Body String))
    (row : DeliveryRow Body String) :
    (newestFirst (rows ++ [row])).take k =
      (placed newer row ((newestFirst rows).take k)).take k := by
  rw [newestFirst_append_singleton, take_placed_take]
  rfl

abbrev Numbered (Body : Type) := DeliveryRow Body String × Nat

def Rising (entries : List (Numbered Body)) : Prop :=
  entries.Pairwise fun a b => a.2 < b.2

def listedBefore (a b : Numbered Body) : Bool :=
  decide (b.1.createdAt < a.1.createdAt) ||
    (decide (a.1.createdAt = b.1.createdAt) && decide (b.2 ≤ a.2))

def listing (entries : List (Numbered Body)) : List (Numbered Body) :=
  sorted listedBefore entries

theorem listedBefore_iff {a b : Numbered Body} : listedBefore a b = true ↔
    b.1.createdAt < a.1.createdAt ∨ (a.1.createdAt = b.1.createdAt ∧ b.2 ≤ a.2) := by
  simp [listedBefore]

theorem listedBefore_total (a b : Numbered Body) :
    listedBefore a b = true ∨ listedBefore b a = true := by
  simp only [listedBefore_iff]
  rcases String.le_total a.1.createdAt b.1.createdAt with h | h
  · rcases Std.le_iff_lt_or_eq.1 h with h | h
    · exact .inr (.inl h)
    · rcases Nat.le_total a.2 b.2 with hn | hn
      · exact .inr (.inr ⟨h.symm, hn⟩)
      · exact .inl (.inr ⟨h, hn⟩)
  · rcases Std.le_iff_lt_or_eq.1 h with h | h
    · exact .inl (.inl h)
    · rcases Nat.le_total a.2 b.2 with hn | hn
      · exact .inr (.inr ⟨h, hn⟩)
      · exact .inl (.inr ⟨h.symm, hn⟩)

theorem listedBefore_trans (a b c : Numbered Body) (hab : listedBefore a b = true)
    (hbc : listedBefore b c = true) : listedBefore a c = true := by
  rw [listedBefore_iff] at *
  rcases hab with hab | ⟨hab, hn⟩ <;> rcases hbc with hbc | ⟨hbc, hm⟩
  · exact .inl (Std.lt_trans hbc hab)
  · exact .inl (hbc ▸ hab)
  · exact .inl (hab ▸ hbc)
  · exact .inr ⟨hab.trans hbc, Nat.le_trans hm hn⟩

theorem listedBefore_antisymm {a b : Numbered Body} (hab : listedBefore a b = true)
    (hba : listedBefore b a = true) : a.2 = b.2 := by
  rw [listedBefore_iff] at *
  rcases hab with hab | ⟨hab, hn⟩ <;> rcases hba with hba | ⟨hba, hm⟩
  · exact absurd (Std.lt_trans hab hba) (String.lt_irrefl _)
  · exact absurd (hba ▸ hab) (String.lt_irrefl _)
  · exact absurd (hab ▸ hba) (String.lt_irrefl _)
  · exact Nat.le_antisymm hm hn

theorem eq_of_number_eq {entries : List (Numbered Body)} (h : Rising entries) {a b : Numbered Body}
    (ha : a ∈ entries) (hb : b ∈ entries) (hn : a.2 = b.2) : a = b := by
  induction entries with
  | nil => cases ha
  | cons e rest ih =>
    obtain ⟨he, hrest⟩ := List.pairwise_cons.1 h
    rcases List.mem_cons.1 ha with ha | ha <;> rcases List.mem_cons.1 hb with hb | hb
    · rw [ha, hb]
    · have := he b hb
      rw [ha] at hn
      omega
    · have := he a ha
      rw [hb] at hn
      omega
    · exact ih hrest ha hb

theorem listing_reverse {entries : List (Numbered Body)} (h : Rising entries) :
    listing entries.reverse = listing entries := by
  have ordered (l : List (Numbered Body)) :
      (listing l).Pairwise (listedBefore · · = true) :=
    sorted_pairwise listedBefore_total listedBefore_trans l
  have perm : (listing entries.reverse).Perm (listing entries) :=
    (sorted_perm _ _).trans ((List.reverse_perm _).trans (sorted_perm _ _).symm)
  refine perm.eq_of_pairwise ?_ (ordered _) (ordered _)
  intro a b ha hb hab hba
  have ha' : a ∈ entries := List.mem_reverse.1 (mem_sorted.1 ha)
  exact eq_of_number_eq h ha' (mem_sorted.1 hb) (listedBefore_antisymm hab hba)

theorem map_listing_of_falling {entries : List (Numbered Body)}
    (h : entries.Pairwise fun a b => b.2 < a.2) :
    (listing entries).map (·.1) = sorted newer (entries.map (·.1)) := by
  induction entries with
  | nil => rfl
  | cons e rest ih =>
    obtain ⟨he, hrest⟩ := List.pairwise_cons.1 h
    rw [List.map_cons, sorted, ← ih hrest]
    refine placed_map _ fun y hy => ?_
    -- the entry in front has the highest number, so that its date alone decides
    have hn : y.2 ≤ e.2 := Nat.le_of_lt (he y (mem_sorted.1 hy))
    rw [Bool.eq_iff_iff, listedBefore_iff, newer, decide_eq_true_eq]
    simp only [hn, and_true, Std.le_iff_lt_or_eq (a := y.1.createdAt),
      eq_comm (a := e.1.createdAt)]

theorem map_listing {entries : List (Numbered Body)} (h : Rising entries) :
    (listing entries).map (·.1) = newestFirst (entries.map (·.1)) := by
  rw [← listing_reverse h, map_listing_of_falling (List.pairwise_reverse.2 h), List.map_reverse]
  rfl

theorem rising_zipIdx (rows : List (DeliveryRow Body String)) (n : Nat) :
    Rising (rows.zipIdx n) := by
  induction rows generalizing n with
  | nil => exact .nil
  | cons row rest ih =>
    refine List.pairwise_cons.2 ⟨?_, ih (n + 1)⟩
    intro e he
    exact List.le_snd_of_mem_zipIdx he

end AnalysisWebhooks
