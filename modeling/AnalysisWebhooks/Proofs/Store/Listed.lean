import AnalysisWebhooks.Proofs.Outcome
import AnalysisWebhooks.Proofs.Store.Reading
import AnalysisWebhooks.Proofs.Store.Retention

namespace AnalysisWebhooks

open Calendar

def Precedes {Body : Type} (a b : Numbered Body) : Prop :=
  b.1.createdAt < a.1.createdAt ∨ a.1.createdAt = b.1.createdAt ∧ b.2 < a.2

theorem precedes_of_listedBefore {Body : Type} {a b : Numbered Body}
    (h : listedBefore a b = true) (hn : a.2 ≠ b.2) : Precedes a b := by
  rcases listedBefore_iff.1 h with hdate | ⟨hdate, hle⟩
  · exact .inl hdate
  · exact .inr ⟨hdate, by omega⟩

theorem precedes_listing {Body : Type} {entries : List (Numbered Body)} (h : Rising entries) :
    (listing entries).Pairwise Precedes := by
  have ordered : (listing entries).Pairwise (listedBefore · · = true) :=
    sorted_pairwise listedBefore_total listedBefore_trans entries
  have rising : entries.Pairwise fun a b => a.2 ≠ b.2 := h.imp Nat.ne_of_lt
  have distinct : (listing entries).Pairwise fun a b => a.2 ≠ b.2 :=
    rising.perm (sorted_perm _ entries).symm fun h => h.symm
  exact ordered.imp₂ (fun _ _ => precedes_of_listedBefore) distinct

namespace DeliveryRow

variable {Body Date : Type}

def IsAskedFor (project task : Option String) (row : DeliveryRow Body Date) : Prop :=
  (∀ p ∈ project, row.project = p) ∧ ∀ t ∈ task, row.task = some t

instance (project task : Option String) (row : DeliveryRow Body Date) :
    Decidable (row.IsAskedFor project task) :=
  inferInstanceAs (Decidable (_ ∧ _))

theorem isAskedFor_iff {project task : Option String} {row : DeliveryRow Body Date} :
    (project.all (row.project = ·) && task.all fun task => row.task = some task) = true ↔
      row.IsAskedFor project task := by
  cases project <;> cases task <;> simp [IsAskedFor]

end DeliveryRow

section Shown

variable {rows : List (DeliveryRow String String)}
  {shown : List (DeliveryRow (Option String) Moment)}

theorem map_uuid_of_read (read : List.Forall₂ (fun row r => row.read false = .ok r) rows shown) :
    shown.map (·.uuid) = rows.map (·.uuid) := by
  induction read with
  | nil => rfl
  | cons h _ ih => rw [List.map_cons, List.map_cons, ih, (DeliveryRow.read_eq_ok.1 h).2]

theorem prefix_of_read {n : Nat} {longer : List (DeliveryRow (Option String) Moment)}
    (first : List.Forall₂ (fun row r => row.read false = .ok r) (rows.take n) shown)
    (all : List.Forall₂ (fun row r => row.read false = .ok r) rows longer) : shown <+: longer := by
  have same : shown = longer.take n :=
    List.right_unique_forall₂' (fun _ _ _ ha hb => Except.ok.inj (ha.symm.trans hb)) first
      (List.forall₂_take n all)
  rw [same]
  exact List.take_prefix n longer

end Shown

namespace Store

variable {s : Store} {project task : Option String} {limit more : Int} {count : Nat}

def deliveriesFor (s : Store) (project task : Option String) : List (DeliveryRow String String) :=
  s.deliveries.filter fun row =>
    project.all (row.project = ·) && task.all fun task => row.task = some task

theorem deliveriesFor_eq (s : Store) (project task : Option String) : s.deliveriesFor project task =
    s.deliveries.filter fun row => row.IsAskedFor project task := by
  refine List.filter_congr fun row _ => ?_
  rw [Bool.eq_iff_iff, DeliveryRow.isAskedFor_iff, decide_eq_true_iff]

theorem mem_deliveriesFor {row : DeliveryRow String String} :
    row ∈ s.deliveriesFor project task ↔ row ∈ s.deliveries ∧ row.IsAskedFor project task := by
  rw [deliveriesFor_eq, List.mem_filter, decide_eq_true_iff]

theorem length_deliveriesFor (s : Store) (project task : Option String) :
    (s.deliveriesFor project task).length =
      s.deliveries.countP fun row => row.IsAskedFor project task := by
  rw [deliveriesFor_eq, List.countP_eq_length_filter]

def ReadableDeliveries (s : Store) : Prop :=
  ∀ row ∈ s.deliveries, ∃ m, readStored row.createdAt = .ok m

def listedRows (s : Store) (project task : Option String) (count : Nat) :
    List (DeliveryRow String String) :=
  (newestFirst (s.deliveriesFor project task)).take count

theorem listDeliveries_of_rowLimit (h : rowLimit limit = .ok count) :
    s.listDeliveries project task limit =
      (s.listedRows project task count).mapM (DeliveryRow.read false) := by
  rw [listDeliveries, h]
  rfl

theorem mem_listedRows {row : DeliveryRow String String}
    (h : row ∈ s.listedRows project task count) : row ∈ s.deliveriesFor project task :=
  (newestFirst_perm _).mem_iff.1 (List.mem_of_mem_take h)

theorem ReadableDeliveries.listDeliveries (h : s.ReadableDeliveries)
    (project task : Option String) (hlimit : rowLimit limit = .ok count) :
    ∃ shown, s.listDeliveries project task limit = .ok shown ∧
      List.Forall₂ (fun row r => row.read false = .ok r)
        (s.listedRows project task count) shown := by
  have readable : ∀ row ∈ s.listedRows project task count, ∃ r, row.read false = .ok r := by
    intro row hrow
    obtain ⟨m, hm⟩ := h row (mem_deliveriesFor.1 (mem_listedRows hrow)).1
    exact ⟨{ row with payload := none, createdAt := m }, DeliveryRow.read_eq_ok.2 ⟨hm, rfl⟩⟩
  obtain ⟨shown, hshown⟩ := exists_mapM_eq_ok.2 readable
  exact ⟨shown, (listDeliveries_of_rowLimit hlimit).trans hshown, mapM_eq_ok.1 hshown⟩

structure IsPage (s : Store) (project task : Option String) (count : Nat)
    (page : List (Numbered String)) : Prop where
  recorded : ∀ e ∈ page, e ∈ s.deliveries.zipIdx
  asked : ∀ e ∈ page, e.1.IsAskedFor project task
  ordered : page.Pairwise Precedes
  length : page.length =
    min count (s.deliveries.countP fun row => row.IsAskedFor project task)
  newest : ∀ e ∈ s.deliveries.zipIdx, e.1.IsAskedFor project task → e ∉ page →
    ∀ shown ∈ page, Precedes shown e

def entriesFor (s : Store) (project task : Option String) : List (Numbered String) :=
  s.deliveries.zipIdx.filter fun e => e.1.IsAskedFor project task

theorem mem_entriesFor {e : Numbered String} : e ∈ s.entriesFor project task ↔
    e ∈ s.deliveries.zipIdx ∧ e.1.IsAskedFor project task := by
  rw [entriesFor, List.mem_filter, decide_eq_true_iff]

theorem rising_entriesFor (s : Store) (project task : Option String) :
    Rising (s.entriesFor project task) :=
  (rising_zipIdx s.deliveries 0).filter _

theorem map_entriesFor (s : Store) (project task : Option String) :
    (s.entriesFor project task).map (·.1) = s.deliveriesFor project task := by
  have rows : s.deliveries.zipIdx.map (·.1) = s.deliveries := List.zipIdx_map_fst ..
  rw [deliveriesFor_eq]
  conv => rhs; rw [← rows]
  rw [List.filter_map]
  rfl

def page (s : Store) (project task : Option String) (count : Nat) : List (Numbered String) :=
  (listing (s.entriesFor project task)).take count

theorem map_page (s : Store) (project task : Option String) (count : Nat) :
    (s.page project task count).map (·.1) = s.listedRows project task count := by
  rw [page, List.map_take, map_listing (s.rising_entriesFor project task), map_entriesFor,
    listedRows]

theorem isPage_page (s : Store) (project task : Option String) (count : Nat) :
    s.IsPage project task count (s.page project task count) := by
  have ordered := precedes_listing (s.rising_entriesFor project task)
  have entry {e : Numbered String} : e ∈ listing (s.entriesFor project task) ↔
      e ∈ s.deliveries.zipIdx ∧ e.1.IsAskedFor project task :=
    mem_sorted.trans mem_entriesFor
  constructor
  case recorded => exact fun e he => (entry.1 (List.mem_of_mem_take he)).1
  case asked => exact fun e he => (entry.1 (List.mem_of_mem_take he)).2
  case ordered => exact ordered.sublist (List.take_sublist count _)
  case length =>
    rw [← List.length_map (f := (·.1)), map_page, listedRows, List.length_take,
      (newestFirst_perm _).length_eq, length_deliveriesFor]
  case newest =>
    intro e he asked hout shown hshown
    have hall := List.mem_append.1 <|
      (List.take_append_drop count (listing (s.entriesFor project task))).symm ▸ entry.2 ⟨he, asked⟩
    rw [← List.take_append_drop count (listing (s.entriesFor project task))] at ordered
    exact (List.pairwise_append.1 ordered).2.2 shown hshown e (hall.resolve_left hout)

theorem keptCount_mono (h : limit ≤ more) : keptCount limit ≤ keptCount more := by
  unfold keptCount
  omega

theorem nodup_listedRows (distinct : s.DistinctDeliveries) (k : Nat) :
    ((s.listedRows project task k).map (·.uuid)).Nodup := by
  have asked : ((s.deliveriesFor project task).map (·.uuid)).Nodup :=
    distinct.sublist (List.filter_sublist.map _)
  exact (asked.perm ((newestFirst_perm _).map _).symm).sublist ((List.take_sublist k _).map _)

theorem ReadableDeliveries.list_page (readable : s.ReadableDeliveries)
    (distinct : s.DistinctDeliveries) (project task : Option String) (h : limit < columnBound) :
    ∃ page shown, s.IsPage project task (keptCount limit) page ∧
      s.listDeliveries project task limit = .ok shown ∧
      List.Forall₂ (fun e row => e.1.read false = .ok row) page shown ∧
      (shown.map (·.uuid)).Nodup := by
  obtain ⟨shown, hshown, read⟩ := readable.listDeliveries project task (rowLimit_of_lt h)
  refine ⟨s.page project task (keptCount limit), shown, s.isPage_page .., hshown, ?_, ?_⟩
  · rw [← map_page, List.forall₂_map_left_iff] at read
    exact read
  · rw [map_uuid_of_read read]
    exact nodup_listedRows distinct _

theorem ReadableDeliveries.list_prefix (readable : s.ReadableDeliveries)
    (project task : Option String) (hle : limit ≤ more) (h : more < columnBound) :
    ∃ shown longer, s.listDeliveries project task limit = .ok shown ∧
      s.listDeliveries project task more = .ok longer ∧ shown <+: longer := by
  obtain ⟨shown, hshown, first⟩ :=
    readable.listDeliveries project task (rowLimit_of_lt (Int.lt_of_le_of_lt hle h))
  obtain ⟨longer, hlonger, all⟩ := readable.listDeliveries project task (rowLimit_of_lt h)
  have rows : s.listedRows project task (keptCount limit) =
      (s.listedRows project task (keptCount more)).take (keptCount limit) := by
    rw [listedRows, listedRows, List.take_take, Nat.min_eq_left (keptCount_mono hle)]
  exact ⟨shown, longer, hshown, hlonger, prefix_of_read (rows ▸ first) all⟩

end Store

end AnalysisWebhooks
