import AnalysisWebhooks.Proofs.Service.Analysing
import AnalysisWebhooks.Proofs.Store.Links
import AnalysisWebhooks.Proofs.Web.Silencing

namespace AnalysisWebhooks

open AnalysisWebhooks.Action Calendar

namespace FinishedAnalysis

variable {f : FinishedAnalysis} {now : Moment} {s u t : Store}

theorem linked_recordActivity_none (h : u.Linked) (none : f.made = none)
    (task : f.recordActivity now u = .ok t) : t.Linked := by
  obtain ⟨submitted, executed, rfl⟩ := recordActivity_eq_ok task
  refine h.reported fun analysis hanalysis => ?_
  rw [analysis_taskRow, none] at hanalysis
  cases hanalysis

theorem linked_recordActivity_some {info : AnalysisInfo} (h : u.Linked) (made : f.made = some info)
    (has : u.HasAnalysis info.uuid.shown)
    (unused : info.uuid.shown ∉ u.activities.filterMap (·.analysis))
    (task : f.recordActivity now u = .ok t) : t.Linked := by
  obtain ⟨submitted, executed, rfl⟩ := recordActivity_eq_ok task
  refine h.reported fun analysis hanalysis => ?_
  rw [analysis_taskRow, made] at hanalysis
  cases hanalysis
  exact ⟨status_taskRow made submitted executed, has, unused⟩

theorem Comes.linked {inserted : List Insertion} (h : f.Comes now s inserted t) (hs : s.Linked) :
    t.Linked := by
  cases h with
  | refused snapshots activities => exact hs.of_eq snapshots activities
  | unanalysed snapshots activities none task =>
    exact linked_recordActivity_none (hs.of_eq snapshots activities) none task
  | untasked snapshots activities _ analysis =>
    exact (hs.of_eq snapshots activities).withSnapshot analysis
  | finished snapshots activities made analysis task =>
    have before := hs.of_eq snapshots activities
    exact linked_recordActivity_some (before.withSnapshot analysis) made
      (Store.hasAnalysis_withSnapshot analysis) (before.unlinked_of_withSnapshot analysis) task

end FinishedAnalysis

inductive Grown : Store → Prop
  | empty : Grown {}
  | request {s : Service} (r : Request) (grown : Grown s.store) :
      Grown ((handle .webhooks r).after s).store

theorem Reached.grown {s : Store} (h : Reached s) : Grown s := by
  induction h with
  | empty => exact .empty
  | request r _ _ ih => exact .request r ih

theorem Request.linked_after {s : Service} (r : Request) (h : s.store.Linked) :
    ((handle .webhooks r).after s).store.Linked := by
  have recorded : (r.recorded s).store.Linked := by
    unfold Request.recorded
    cases r.finished? with
    | none => exact h
    | some f => exact (f.comes_left s.clock s.store).linked h
  have frame := (tends_handle r s).store
  exact recorded.of_eq (by rw [frame]) (by rw [frame])

theorem Grown.linked {s : Store} (h : Grown s) : s.Linked := by
  induction h with
  | empty => exact .empty
  | request r _ ih => exact r.linked_after ih

theorem nodup_activities_ofBranches {s : Store} (h : s.Linked)
    {branches : List (BranchRow BranchKind)} {last : LastAnalyses}
    (found : LastAnalyses.ofBranches s branches = .ok last) :
    (last.activities.map (·.analysis)).Nodup := by
  obtain ⟨roots, -, found⟩ := bind_eq_ok.1 found
  obtain ⟨snapshots, -, found⟩ := bind_eq_ok.1 found
  obtain ⟨activities, hactivities, found⟩ := bind_eq_ok.1 found
  cases found
  exact h.nodup_activitiesOf hactivities

theorem links_of_grown {s : Store} (grown : Grown s) :
    (∀ row ∈ s.activities, ∀ analysis, row.analysis = some analysis →
      row.status = TaskStatus.success.name ∧
      ∃ snapshot ∈ s.snapshots, snapshot.uuid = analysis ∧ snapshot.status = Store.processed) ∧
    (s.activities.filterMap (·.analysis)).Nodup ∧
    ∀ branches last, LastAnalyses.ofBranches s branches = .ok last →
      (last.activities.map (·.analysis)).Nodup := by
  have linked := grown.linked
  refine ⟨fun row hrow analysis hanalysis => ?_, linked.once, fun branches last found => ?_⟩
  · exact ⟨linked.success row hrow analysis hanalysis, linked.analysed row hrow analysis hanalysis⟩
  · exact nodup_activities_ofBranches linked found

def finishingTask (task project analysis : String) : Request :=
  sending .analysisFinished <| .object [
    ("ceTaskId", .text task),
    ("project", .object [("uuid", .text project), ("key", .text project), ("name", .text project)]),
    ("analysis", .object [("uuid", .text analysis), ("date", .text "2026-10-18")])]

theorem Reached.all {s : Store} (h : Reached s) (requests : List Request) :
    Reached (requests.foldl Store.requested s) := by
  induction requests generalizing s with
  | nil => exact h
  | cons r rest ih => exact ih (h.requested r)

def relinking : List Request :=
  [finishingTask "t" "p" "a", finishingTask "u" "q" "b", finishingTask "t" "q" "c"]

def linkedOnce : Store where
  components := [⟨"p", "p", "p", "p", none⟩]
  snapshots := [⟨"a", "p", "P", true, "2026-10-18T00:00:00.000000Z"⟩]
  activities := [⟨"t", "REPORT", some "p", some "a", "SUCCESS", true, "2026-10-18T12:00:00.000000Z",
    some "2026-10-18T12:00:00.000000Z"⟩]

def linkedTwice : Store where
  components := linkedOnce.components ++ [⟨"q", "q", "q", "q", none⟩]
  snapshots := linkedOnce.snapshots ++ [⟨"b", "q", "P", true, "2026-10-18T00:00:00.000000Z"⟩]
  activities := linkedOnce.activities ++ [⟨"u", "REPORT", some "q", some "b", "SUCCESS", true,
    "2026-10-18T12:00:00.000000Z", some "2026-10-18T12:00:00.000000Z"⟩]

def relinkedStore : Store where
  components := [⟨"p", "p", "p", "p", none⟩, ⟨"q", "q", "q", "q", none⟩]
  snapshots := [⟨"a", "p", "P", true, "2026-10-18T00:00:00.000000Z"⟩,
    ⟨"b", "q", "P", false, "2026-10-18T00:00:00.000000Z"⟩,
    ⟨"c", "q", "P", true, "2026-10-18T00:00:00.000000Z"⟩]
  activities := [⟨"t", "REPORT", some "p", some "c", "SUCCESS", true, "2026-10-18T12:00:00.000000Z",
      some "2026-10-18T12:00:00.000000Z"⟩,
    ⟨"u", "REPORT", some "q", some "b", "SUCCESS", false, "2026-10-18T12:00:00.000000Z",
      some "2026-10-18T12:00:00.000000Z"⟩]

theorem requested_relinking : relinking.foldl Store.requested {} = relinkedStore := by
  have first : ({} : Store).requested (finishingTask "t" "p" "a") = linkedOnce := by
    rw [finishingTask, requested_unhooked ?_ rfl]
    · decide +kernel
    · simp
  have second : linkedOnce.requested (finishingTask "u" "q" "b") = linkedTwice := by
    rw [finishingTask, requested_unhooked ?_ rfl]
    · decide +kernel
    · simp
  rw [relinking, List.foldl_cons, first, List.foldl_cons, second, List.foldl_cons, List.foldl_nil,
    finishingTask, requested_unhooked ?_ rfl]
  · decide +kernel
  · simp

theorem links_of_grown_relinked : Grown relinkedStore ∧
    (∀ row ∈ relinkedStore.activities, ∀ analysis, row.analysis = some analysis →
      row.status = "SUCCESS" ∧
      ∃ snapshot ∈ relinkedStore.snapshots, snapshot.uuid = analysis ∧ snapshot.status = "P") ∧
    (relinkedStore.activities.filterMap (·.analysis)).Nodup := by
  have grown : Grown relinkedStore := by
    rw [← requested_relinking]
    exact (Reached.empty.all relinking).grown
  obtain ⟨linked, once, -⟩ := links_of_grown grown
  exact ⟨grown, linked, once⟩

end AnalysisWebhooks
