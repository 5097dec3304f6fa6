import Mathlib.Data.List.Nodup
import AnalysisWebhooks.Proofs.Store.Insertions
import AnalysisWebhooks.Proofs.Store.Reading
import AnalysisWebhooks.Proofs.Store.Tasks
import AnalysisWebhooks.Proofs.Store.Sorted

namespace AnalysisWebhooks

open Calendar

section Upserted

variable {α β : Type} {p : α → Bool} {merge : α → α} {fresh : α} {rows : List α}
  {link : α → Option β} {new : Option β}

theorem nodup_filterMap_upserted (distinct : (rows.filterMap link).Nodup)
    (unused : ∀ b, new = some b → b ∉ rows.filterMap link)
    (merged : ∀ row, link (merge row) = new) (inserted : link fresh = new) :
    ((upserted p merge fresh rows).filterMap link).Nodup := by
  induction rows with
  | nil =>
    rw [upserted, List.filterMap_cons, inserted]
    cases new <;> simp
  | cons row rest ih =>
    have restDistinct : (rest.filterMap link).Nodup :=
      distinct.sublist ((List.sublist_cons_self row rest).filterMap link)
    have restUnused : ∀ b, new = some b → b ∉ rest.filterMap link := fun b hb hmem =>
      unused b hb (((List.sublist_cons_self row rest).filterMap link).subset hmem)
    rw [upserted]
    split
    · rw [List.filterMap_cons, merged]
      cases new with
      | none => exact restDistinct
      | some b => exact List.nodup_cons.2 ⟨restUnused b rfl, restDistinct⟩
    · rw [List.filterMap_cons]
      cases hrow : link row with
      | none => exact ih restDistinct restUnused
      | some a =>
        rw [List.filterMap_cons, hrow] at distinct unused
        refine List.nodup_cons.2 ⟨fun hmem => ?_, ih restDistinct restUnused⟩
        obtain ⟨x, hx, hlink⟩ := List.mem_filterMap.1 hmem
        have reused : new ≠ some a := fun hnew => unused a hnew List.mem_cons_self
        rcases mem_upserted hx with rfl | hx | ⟨old, -, -, rfl⟩
        · exact reused (inserted.symm.trans hlink)
        · exact (List.nodup_cons.1 distinct).1 (List.mem_filterMap.2 ⟨x, hx, hlink⟩)
        · exact reused ((merged old).symm.trans hlink)

end Upserted

section Reported

variable {row x : ActivityRow String String} {rows : List (ActivityRow String String)}

theorem analysis_cleared (r : TaskReport) (row : ActivityRow String String) :
    (cleared r row).analysis = row.analysis := by
  obtain ⟨isLast, h⟩ := cleared_cases r row
  rw [h]

theorem filterMap_analysis_cleared (r : TaskReport) (rows : List (ActivityRow String String)) :
    (rows.map (cleared r)).filterMap (·.analysis) = rows.filterMap (·.analysis) := by
  rw [List.filterMap_map]
  exact List.filterMap_congr fun row _ => analysis_cleared r row

theorem link_of_mem_reported (h : x ∈ reported row rows) :
    (x.analysis = row.analysis ∧ x.status = row.status) ∨
      ∃ old ∈ rows, x.analysis = old.analysis ∧ x.status = old.status := by
  rcases mem_upserted h with rfl | h | ⟨old, -, -, rfl⟩
  · exact .inl ⟨rfl, rfl⟩
  · obtain ⟨old, hold, rfl⟩ := List.mem_map.1 h
    obtain ⟨isLast, hcleared⟩ := cleared_cases row.report old
    exact .inr ⟨old, hold, by rw [hcleared], by rw [hcleared]⟩
  · exact .inl ⟨rfl, rfl⟩

end Reported

namespace Store

def HasAnalysis (s : Store) (uuid : String) : Prop :=
  ∃ snapshot ∈ s.snapshots, snapshot.uuid = uuid ∧ snapshot.status = processed

structure Linked (s : Store) : Prop where
  success : ∀ row ∈ s.activities, ∀ analysis, row.analysis = some analysis →
    row.status = TaskStatus.success.name
  analysed : ∀ row ∈ s.activities, ∀ analysis, row.analysis = some analysis →
    s.HasAnalysis analysis
  once : (s.activities.filterMap (·.analysis)).Nodup

variable {s t : Store} {uuid component status : String} {date : Moment}

theorem HasAnalysis.mem (h : s.HasAnalysis uuid) :
    ∃ i ∈ s.snapshots.map (·.insertion), i.uuid = uuid ∧ i.status = processed := by
  obtain ⟨snapshot, hmem, huuid, hstatus⟩ := h
  exact ⟨snapshot.insertion, List.mem_map_of_mem hmem, huuid, hstatus⟩

theorem hasAnalysis_of_mem {i : Insertion} (h : i ∈ s.snapshots.map (·.insertion))
    (status : i.status = processed) : s.HasAnalysis i.uuid := by
  obtain ⟨snapshot, hmem, rfl⟩ := List.mem_map.1 h
  exact ⟨snapshot, hmem, rfl, status⟩

theorem map_insertion_withSnapshot (h : s.withSnapshot uuid component date status = .ok t) :
    t.snapshots.map (·.insertion) =
      s.snapshots.map (·.insertion) ++ [⟨uuid, component, status⟩] := by
  obtain ⟨createdAt, -, rfl⟩ := withSnapshot_inserts h
  exact map_insertion_insertedInto

theorem HasAnalysis.withSnapshot {other : String} (h : s.HasAnalysis other)
    (ht : s.withSnapshot uuid component date status = .ok t) : t.HasAnalysis other := by
  obtain ⟨i, hmem, rfl, hstatus⟩ := h.mem
  refine hasAnalysis_of_mem ?_ hstatus
  rw [map_insertion_withSnapshot ht]
  exact List.mem_append_left _ hmem

theorem hasAnalysis_withSnapshot (h : s.withSnapshot uuid component date processed = .ok t) :
    t.HasAnalysis uuid := by
  have last : ⟨uuid, component, processed⟩ ∈ t.snapshots.map (·.insertion) := by
    rw [map_insertion_withSnapshot h]
    exact List.mem_append_right _ (List.mem_singleton_self _)
  exact hasAnalysis_of_mem last rfl

namespace Linked

theorem empty : ({} : Store).Linked :=
  ⟨by simp, by simp, List.nodup_nil⟩

theorem of_eq (h : s.Linked) (snapshots : t.snapshots = s.snapshots)
    (activities : t.activities = s.activities) : t.Linked where
  success := activities ▸ h.success
  analysed := by
    rw [activities]
    intro row hrow analysis hanalysis
    obtain ⟨snapshot, hmem, hfound⟩ := h.analysed row hrow analysis hanalysis
    exact ⟨snapshot, snapshots ▸ hmem, hfound⟩
  once := activities ▸ h.once

theorem withSnapshot (h : s.Linked) (ht : s.withSnapshot uuid component date status = .ok t) :
    t.Linked := by
  have same : t.activities = s.activities := by
    obtain ⟨_, -, rfl⟩ := withSnapshot_inserts ht
    rfl
  refine ⟨same ▸ h.success, ?_, same ▸ h.once⟩
  rw [same]
  intro row hrow analysis hanalysis
  exact (h.analysed row hrow analysis hanalysis).withSnapshot ht

theorem unlinked_of_withSnapshot (h : s.Linked)
    (ht : s.withSnapshot uuid component date status = .ok t) :
    uuid ∉ t.activities.filterMap (·.analysis) := by
  have fresh := withSnapshot_fresh ht
  obtain ⟨_, -, rfl⟩ := withSnapshot_inserts ht
  intro hmem
  obtain ⟨row, hrow, hanalysis⟩ := List.mem_filterMap.1 hmem
  obtain ⟨snapshot, hsnapshot, huuid, -⟩ := h.analysed row hrow uuid hanalysis
  exact fresh snapshot hsnapshot huuid

theorem reported (h : s.Linked) {row : ActivityRow String String}
    (linked : ∀ analysis, row.analysis = some analysis →
      row.status = TaskStatus.success.name ∧ s.HasAnalysis analysis ∧
        analysis ∉ s.activities.filterMap (·.analysis)) :
    ({ s with activities := AnalysisWebhooks.reported row s.activities } : Store).Linked where
  success := by
    intro x hx analysis hanalysis
    rcases link_of_mem_reported hx with ⟨hlink, hstatus⟩ | ⟨old, hold, hlink, hstatus⟩
    · rw [hstatus]
      exact (linked analysis (hlink.symm.trans hanalysis)).1
    · rw [hstatus]
      exact h.success old hold analysis (hlink.symm.trans hanalysis)
  analysed := by
    intro x hx analysis hanalysis
    rcases link_of_mem_reported hx with ⟨hlink, -⟩ | ⟨old, hold, hlink, -⟩
    · exact (linked analysis (hlink.symm.trans hanalysis)).2.1
    · exact h.analysed old hold analysis (hlink.symm.trans hanalysis)
  once := by
    have same := filterMap_analysis_cleared row.report s.activities
    have unused : ∀ analysis, row.analysis = some analysis →
        analysis ∉ (s.activities.map (cleared row.report)).filterMap (·.analysis) := by
      rw [same]
      exact fun analysis hanalysis => (linked analysis hanalysis).2.2
    exact nodup_filterMap_upserted (same ▸ h.once) unused (fun _ => rfl) rfl

end Linked

theorem map_analysis_isSome (rows : List (ActivityRow String String)) :
    (rows.filter (·.analysis.isSome)).map (·.analysis) =
      (rows.filterMap (·.analysis)).map some := by
  induction rows with
  | nil => rfl
  | cons row rest ih =>
    rw [List.filter_cons, List.filterMap_cons]
    cases h : row.analysis with
    | none => exact ih
    | some analysis => rw [Option.isSome_some, if_pos rfl, List.map_cons, List.map_cons, h, ih]

theorem nodup_map_rowsOf {α β : Type} {keyOf : α → String} {keys : List String} {rows : List α}
    {f : α → β} (h : (rows.map f).Nodup) : ((rowsOf keyOf keys rows).map f).Nodup := by
  have asked : ((rows.filter fun row => keys.contains (keyOf row)).map f).Nodup :=
    h.sublist (List.filter_sublist.map f)
  exact asked.perm ((sorted_perm _ _).map f).symm

theorem map_analysis_read {rows : List (ActivityRow String String)}
    {found : List (ActivityRow TaskStatus Moment)}
    (h : List.Forall₂ (fun row r => ActivityRow.read row = .ok r) rows found) :
    found.map (·.analysis) = rows.map (·.analysis) := by
  induction h with
  | nil => rfl
  | cons hrow _ ih => rw [List.map_cons, List.map_cons, ih, (ActivityRow.read_eq_ok.1 hrow).2.2.2]

theorem Linked.nodup_activitiesOf (h : s.Linked) {analyses : List RawText}
    {found : List (ActivityRow TaskStatus Moment)} (hfound : s.activitiesOf analyses = .ok found) :
    (found.map (·.analysis)).Nodup := by
  have linked : ((s.activities.filter (·.analysis.isSome)).map (·.analysis)).Nodup := by
    rw [map_analysis_isSome]
    exact h.once.map fun _ _ => Option.some.inj
  obtain ⟨keys, -, hfound⟩ := bind_eq_ok.1 hfound
  rw [map_analysis_read (mapM_eq_ok.1 hfound)]
  exact nodup_map_rowsOf linked

end Store

end AnalysisWebhooks
