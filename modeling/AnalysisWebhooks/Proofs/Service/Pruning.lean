import AnalysisWebhooks.Proofs.Service.Effect
import AnalysisWebhooks.Proofs.Store.Survivors

namespace AnalysisWebhooks

open Calendar

namespace Store

variable {s : Store} {project : String} {k : Nat}

theorem deliveriesFor_project (s : Store) (project : String) :
    s.deliveriesFor (some project) none = s.deliveriesOf project := by
  refine List.filter_congr fun row _ => ?_
  simp

theorem newestOf_eq (s : Store) (project : String) (k : Nat) :
    s.newestOf project k = (s.listedRows (some project) none k).map (·.uuid) := by
  rw [listedRows, deliveriesFor_project]
  rfl

theorem length_deliveries (s : Store) (project : String) :
    s.deliveries.length = (s.deliveriesOf project).length + (s.deliveriesBut project).length := by
  have parts := List.length_eq_length_filter_add (l := s.deliveries) (·.project = project)
  simpa [deliveriesOf, deliveriesBut] using parts

theorem countDeliveries_eq (s : Store) (project : String) :
    s.countDeliveries (some project) = (s.deliveriesOf project).length :=
  List.countP_eq_length_filter

theorem length_deliveriesOf_purged (distinct : s.DistinctDeliveries) :
    ((s.purged project k).deliveriesOf project).length =
      min k (s.countDeliveries (some project)) := by
  rw [← (newestFirst_perm _).length_eq, newestFirst_purged distinct, List.length_take,
    (newestFirst_perm _).length_eq, countDeliveries_eq]

theorem length_sub_length_purged (distinct : s.DistinctDeliveries) :
    s.deliveries.length - (s.purged project k).deliveries.length =
      s.countDeliveries (some project) - k := by
  have before := s.length_deliveries project
  have after := (s.purged project k).length_deliveries project
  rw [length_deliveriesOf_purged distinct, deliveriesBut_purged] at after
  rw [← countDeliveries_eq] at before
  omega

theorem newestOf_purged (distinct : s.DistinctDeliveries) :
    (s.purged project k).newestOf project k = s.newestOf project k := by
  have rows := newestFirst_purged distinct project k
  rw [newestOf, ← deliveriesOf, rows, List.take_take, Nat.min_self]
  rfl

theorem purged_purged (distinct : s.DistinctDeliveries) :
    (s.purged project k).purged project k = s.purged project k := by
  have same : ((s.purged project k).purged project k).deliveries =
      (s.purged project k).deliveries := by
    rw [purged_deliveries, newestOf_purged distinct, purged_deliveries, List.filter_filter]
    simp only [Bool.and_self]
  rw [purged, ← purged_deliveries, same]

end Store

section Purge

variable {s t : Service} {project : String}

theorem Service.trimming_self
    (h : t.store.purged project (keptCount t.settings.retentionCount) = t.store) :
    t.trimmedRows project = 0 ∧ t.trimming project = t := by
  have kept : t.trimming project = t := by
    rw [Service.trimming, h, Nat.sub_self]
    rfl
  exact ⟨by rw [Service.trimmedRows, kept, Nat.sub_self], kept⟩

theorem purge_trimmed (distinct : s.store.DistinctDeliveries)
    (h : s.settings.retentionCount < columnBound) (project : String) (log : List LogLine) :
    purge project { s.trimming project with log } = .ok 0 { s.trimming project with log } := by
  have again : (s.trimming project).store.purged project (keptCount s.settings.retentionCount) =
      (s.trimming project).store := Store.purged_purged distinct
  obtain ⟨none_removed, kept⟩ := Service.trimming_self (t := { s.trimming project with log }) again
  obtain ⟨_, purged, same_log⟩ :=
    purge_of_lt (s := { s.trimming project with log }) h project
  rw [purged, same_log none_removed, none_removed, kept]

theorem trimmedRows_eq (distinct : s.store.DistinctDeliveries) (project : String) :
    (s.trimmedRows project : Int) =
      max 0 (s.store.countDeliveries (some project) - max 1 s.settings.retentionCount) := by
  have rows : s.trimmedRows project =
      s.store.countDeliveries (some project) - keptCount s.settings.retentionCount :=
    Store.length_sub_length_purged distinct
  rw [rows, keptCount]
  omega

end Purge

theorem purge_keeps_listed {s : Service} (distinct : s.store.DistinctDeliveries)
    (readable : s.store.ReadableDeliveries) :
    (s.settings.retentionCount < columnBound → ∀ project, ∃ shown removed log t,
      s.store.listDeliveries (some project) none (max 1 s.settings.retentionCount) = .ok shown ∧
      purge project s = .ok removed t ∧
      t = { s with
        store := { s.store with
          deliveries := s.store.deliveries.filter fun row =>
            row.project ≠ project ∨ row.uuid ∈ shown.map (·.uuid) }
        metrics := { s.metrics with pruned := s.metrics.pruned + removed }
        log } ∧
      (removed : Int) =
        max 0 (s.store.countDeliveries (some project) - max 1 s.settings.retentionCount) ∧
      purge project t = .ok 0 t) ∧
    ∀ project task limit, limit < columnBound → ∃ page shown,
      s.store.IsPage project task (keptCount limit) page ∧
      s.store.listDeliveries project task limit = .ok shown ∧
      List.Forall₂ (fun e row => e.1.read false = .ok row) page shown ∧
      (shown.map (·.uuid)).Nodup ∧
      ∀ more, limit ≤ more → more < columnBound → ∃ longer,
        s.store.listDeliveries project task more = .ok longer ∧ shown <+: longer := by
  refine ⟨fun h project => ?_, fun project task limit h => ?_⟩
  · have hlimit : max 1 s.settings.retentionCount < columnBound := by
      rw [columnBound] at h ⊢
      omega
    obtain ⟨shown, hshown, read⟩ :=
      readable.listDeliveries (some project) none (Store.rowLimit_of_lt hlimit)
    obtain ⟨log, purged, -⟩ := purge_of_lt h project
    refine ⟨shown, _, log, _, hshown, purged, ?_, trimmedRows_eq distinct project,
      purge_trimmed distinct h project log⟩
    have same : keptCount (max 1 s.settings.retentionCount) =
        keptCount s.settings.retentionCount := by
      unfold keptCount
      omega
    have named : s.store.newestOf project (keptCount s.settings.retentionCount) =
        shown.map (·.uuid) := by
      rw [map_uuid_of_read read, same, Store.newestOf_eq]
    have left : (s.trimming project).store.deliveries = s.store.deliveries.filter fun row =>
        row.project ≠ project ∨ row.uuid ∈ shown.map (·.uuid) := by
      rw [← named]
      exact List.filter_congr fun row _ => by simp
    rw [← left]
    rfl
  · obtain ⟨page, shown, isPage, hshown, read, once⟩ := readable.list_page distinct project task h
    refine ⟨page, shown, isPage, hshown, read, once, fun more hle hmore => ?_⟩
    obtain ⟨first, longer, hfirst, hlonger, isPrefix⟩ := readable.list_prefix project task hle hmore
    cases hshown.symm.trans hfirst
    exact ⟨longer, hlonger, isPrefix⟩

def tied : Service where
  settings := { retentionCount := 0 }
  store := {
    deliveries := [sampleRow "a" "p" "2026-10-18T12:00:00.000000Z",
      sampleRow "b" "q" "2026-10-18T12:00:00.000000Z",
      sampleRow "c" "p" "2026-10-17T12:00:00.000000Z",
      sampleRow "d" "p" "2026-10-18T12:00:00.000000Z"] }

theorem purge_keeps_listed_tied :
    tied.store.DistinctDeliveries ∧ tied.store.ReadableDeliveries ∧
      tied.settings.retentionCount < columnBound ∧
      (∃ shown t, tied.store.listDeliveries (some "p") none 1 = .ok shown ∧
        shown.map (·.uuid) = ["d"] ∧ purge "p" tied = .ok 2 t ∧
        t.store.deliveries.map (·.uuid) = ["b", "d"] ∧ t.metrics.pruned = 2 ∧
        purge "p" t = .ok 0 t) ∧
      ∃ shown longer, tied.store.listDeliveries (some "p") none (-7) = .ok shown ∧
        tied.store.listDeliveries (some "p") none 2 = .ok longer ∧ shown <+: longer ∧
        longer.map (·.uuid) = ["d", "a"] := by
  have distinct : tied.store.DistinctDeliveries := by decide +kernel
  have readable : tied.store.ReadableDeliveries := by
    have yesterday : 739905 * dayMicros + 12 * 3600 * secondMicros < span := by decide
    have today : readStored "2026-10-18T12:00:00.000000Z" = .ok noon := by rfl
    rintro row (_ | ⟨_, _ | ⟨_, _ | ⟨_, _ | ⟨_, ⟨⟩⟩⟩⟩⟩)
    · exact ⟨noon, today⟩
    · exact ⟨noon, today⟩
    · exact ⟨⟨_, some 0, yesterday⟩, by rfl⟩
    · exact ⟨noon, today⟩
  have uuids (limit : Int) (names : List String)
      (hnames : (tied.store.listedRows (some "p") none (keptCount limit)).map (·.uuid) = names)
      {shown : List (DeliveryRow (Option String) Moment)} (h : limit < columnBound)
      (hshown : tied.store.listDeliveries (some "p") none limit = .ok shown) :
      shown.map (·.uuid) = names := by
    rw [Store.listDeliveries_of_rowLimit (Store.rowLimit_of_lt h)] at hshown
    rw [map_uuid_of_read (mapM_eq_ok.1 hshown), hnames]
  obtain ⟨purges, lists⟩ := purge_keeps_listed distinct readable
  obtain ⟨shown, removed, log, t, hshown, purged, rfl, hremoved, again⟩ := purges (by decide) "p"
  have named := uuids 1 ["d"] (by decide +kernel) (by decide) hshown
  obtain rfl : removed = 2 := Int.ofNat.inj (hremoved.trans (by decide +kernel))
  rw [named] at purged again
  have left : (tied.store.deliveries.filter fun row =>
      row.project ≠ "p" ∨ row.uuid ∈ ["d"]).map (·.uuid) = ["b", "d"] := by decide +kernel
  obtain ⟨-, first, -, hfirst, -, -, goes_on⟩ := lists (some "p") none (-7) (by decide)
  obtain ⟨longer, hlonger, isPrefix⟩ := goes_on 2 (by decide) (by decide)
  exact ⟨distinct, readable, by decide, ⟨shown, _, hshown, named, purged, left, rfl, again⟩, first,
    longer, hfirst, hlonger, isPrefix, uuids 2 ["d", "a"] (by decide +kernel) (by decide) hlonger⟩

end AnalysisWebhooks
