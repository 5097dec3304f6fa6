import AnalysisWebhooks.Proofs.Issue.Latest
import AnalysisWebhooks.Proofs.Service.Analysing

namespace AnalysisWebhooks

open Calendar

section Upserted

variable {α : Type} {p q : α → Bool} {merge : α → α} {fresh : α} {rows : List α}

theorem filter_upserted_of_none (none : ∀ row ∈ rows, q row = false)
    (merged : ∀ row, q (merge row) = true) (inserted : q fresh = true) :
    ∃ x, (upserted p merge fresh rows).filter q = [x] ∧
      (x = fresh ∨ ∃ row, p row = true ∧ x = merge row) := by
  induction rows with
  | nil => exact ⟨fresh, List.filter_cons_of_pos inserted, .inl rfl⟩
  | cons row rest ih =>
    obtain ⟨other, others⟩ := List.forall_mem_cons.1 none
    rw [upserted]
    split
    · rename_i hrow
      have nothing : rest.filter q = [] :=
        List.filter_eq_nil_iff.2 fun x hx => by simp [others x hx]
      refine ⟨merge row, ?_, .inr ⟨row, hrow, rfl⟩⟩
      rw [List.filter_cons_of_pos (merged row), nothing]
    · obtain ⟨x, hx, source⟩ := ih others
      refine ⟨x, ?_, source⟩
      rw [List.filter_cons_of_neg (by simp [other]), hx]

end Upserted

theorem filter_reported {row : ActivityRow String String} {rows : List (ActivityRow String String)}
    {analysis : String} (names : row.analysis = some analysis)
    (unused : analysis ∉ rows.filterMap (·.analysis)) :
    ∃ x, (reported row rows).filter (·.analysis = some analysis) = [x] ∧ x.uuid = row.uuid ∧
      x.status = row.status := by
  have none : ∀ old ∈ rows.map (cleared row.report),
      decide (old.analysis = some analysis) = false := by
    rw [List.forall_mem_map]
    intro old hold
    rw [analysis_cleared, decide_eq_false_iff_not]
    exact fun hanalysis => unused (List.mem_filterMap.2 ⟨old, hold, hanalysis⟩)
  have only : ∃ x, (reported row rows).filter (·.analysis = some analysis) = [x] ∧
      (x = row ∨ ∃ old, decide (old.uuid = row.uuid) = true ∧ x = row.renewed old) :=
    filter_upserted_of_none none (fun _ => decide_eq_true names) (decide_eq_true names)
  obtain ⟨x, hx, source⟩ := only
  refine ⟨x, hx, ?_⟩
  rcases source with rfl | ⟨old, hold, rfl⟩
  · exact ⟨rfl, rfl⟩
  · exact ⟨of_decide_eq_true hold, rfl⟩

namespace FinishedAnalysis

structure IsShort (f : FinishedAnalysis) (b : Branch) (info : AnalysisInfo) (main : String) :
    Prop where
  all : f.allStepsExecuted = true
  analysed : f.report.analysis = some info
  branch : f.report.branch = some b
  side : b.isMain = false
  short : b.kind = .short
  main : f.mainProject = some (.plain main)

variable {f : FinishedAnalysis} {b : Branch} {info : AnalysisInfo} {main : String} {now : Moment}
  {s t : Store}

def component (f : FinishedAnalysis) (main : String) : Component :=
  let p := f.report.project
  ⟨p.uuid.shown, p.key.shown, p.name.shown, p.uuid.shown, some main⟩

def branchRow (f : FinishedAnalysis) (b : Branch) (main : String) : BranchRow String :=
  ⟨f.report.project.uuid.shown, main, (f.branchKey b).shown, BranchKind.short.name⟩

def snapshotRow (f : FinishedAnalysis) (info : AnalysisInfo) (createdAt : String) :
    SnapshotRow String :=
  ⟨info.uuid.shown, f.report.project.uuid.shown, Store.processed, true, createdAt⟩

theorem IsShort.made (h : f.IsShort b info main) : f.made = some info := by
  rw [FinishedAnalysis.made, if_pos h.all, h.analysed]

theorem IsShort.sideOf (h : f.IsShort b info main) : f.sideOf = some (.plain main) := by
  rw [FinishedAnalysis.sideOf, h.branch]
  dsimp only
  rw [h.side, h.main]
  rfl

theorem IsShort.recordComponent_eq_ok (h : f.IsShort b info main)
    (ht : f.recordComponent s = .ok t) : t = { s with
      components := upserted (fun old => old.uuid = (f.component main).uuid)
        (fun _ => f.component main) (f.component main) s.components } := by
  obtain ⟨uuid, key, name, side, project, hside, rfl⟩ := FinishedAnalysis.recordComponent_eq_ok ht
  obtain rfl : side = some main := by
    cases side with
    | none => rw [h.sideOf] at hside; cases hside
    | some other => rw [h.sideOf] at hside; cases hside; rfl
  rw [component, project]
  rfl

theorem IsShort.recordBranch_eq_ok (h : f.IsShort b info main) (ht : f.recordBranch s = .ok t) :
    t = { s with
      branches := upserted (fun old => old.uuid = (f.branchRow b main).uuid)
        (fun _ => f.branchRow b main) (f.branchRow b main) s.branches } := by
  rw [recordBranch, h.branch] at ht
  dsimp only at ht
  obtain ⟨uuid, huuid, ht⟩ := bind_eq_ok.1 ht
  rw [h.sideOf, h.short] at ht
  obtain ⟨_, side, ht⟩ := bind_eq_ok.1 ht
  cases side
  obtain ⟨key, hkey, ht⟩ := bind_eq_ok.1 ht
  rw [branchRow, RawText.encoded_eq_ok.1 huuid, RawText.encoded_eq_ok.1 hkey]
  exact Store.withBranch_eq_ok ht

theorem IsShort.recordSnapshot_eq (h : f.IsShort b info main) (ht : f.recordSnapshot s = .ok t) :
    s.withSnapshot info.uuid.shown f.report.project.uuid.shown info.date Store.processed =
      .ok t := by
  obtain ⟨none, -⟩ | ⟨_, uuid, made, named, inserted⟩ := recordSnapshot_eq_ok ht
  · rw [h.made] at none
    cases none
  · rw [h.made] at made
    cases made
    rw [named]
    exact inserted

theorem inserts_snapshotRow
    (ht : s.withSnapshot info.uuid.shown f.report.project.uuid.shown info.date Store.processed =
      .ok t) :
    ∃ createdAt, storedDate info.date = .ok createdAt ∧
      t = { s with snapshots := insertedInto (f.snapshotRow info createdAt) s.snapshots } := by
  obtain ⟨createdAt, hdate, ht⟩ := Store.withSnapshot_inserts ht
  rw [decide_eq_true rfl] at ht
  exact ⟨createdAt, hdate, ht⟩

-- What was bound for the rows is told again as it was reported.
structure Kept (f : FinishedAnalysis) (b : Branch) (info : AnalysisInfo) : Prop where
  task : .plain f.report.taskId.shown = f.report.taskId
  uuid : .plain f.report.project.uuid.shown = f.report.project.uuid
  key : .plain f.report.project.key.shown = f.report.project.key
  name : .plain f.report.project.name.shown = f.report.project.name
  branch : .plain (f.branchKey b).shown = f.branchKey b
  analysis : .plain info.uuid.shown = info.uuid

theorem IsShort.plain_branchKey (h : f.IsShort b info main) (ht : f.recordBranch s = .ok t) :
    .plain (f.branchKey b).shown = f.branchKey b := by
  rw [recordBranch, h.branch] at ht
  obtain ⟨_, -, ht⟩ := bind_eq_ok.1 ht
  rw [h.sideOf] at ht
  obtain ⟨_, -, ht⟩ := bind_eq_ok.1 ht
  obtain ⟨key, hkey, -⟩ := bind_eq_ok.1 ht
  rw [RawText.encoded_eq_ok.1 hkey]
  rfl

theorem IsShort.kept (h : f.IsShort b info main) (ht : f.recorded now s = .ok t) :
    f.Kept b info := by
  obtain ⟨branched, analysed, branch, analysis, task⟩ := recorded_eq_ok ht
  obtain ⟨staged, component, branch⟩ := located_eq_ok.1 branch
  obtain ⟨_, _, _, _, project, -, -⟩ := FinishedAnalysis.recordComponent_eq_ok component
  obtain ⟨_, _, _, taskId, -, -, -⟩ := recordActivity_encodes task
  obtain ⟨none, -⟩ | ⟨_, uuid, made, named, -⟩ := recordSnapshot_eq_ok analysis
  · rw [h.made] at none
    cases none
  · rw [h.made] at made
    cases made
    constructor
    case task => rw [taskId]; rfl
    case uuid => rw [project]; rfl
    case key => rw [project]; rfl
    case name => rw [project]; rfl
    case branch => exact h.plain_branchKey branch
    case analysis => rw [named]; rfl

theorem IsShort.leads (h : f.IsShort b info main) (keyed : s.Keyed) (linked : s.Linked)
    (ht : f.recorded now s = .ok t) :
    ∃ snapshot activity, t.Leads (f.component main) (f.branchRow b main) snapshot activity ∧
      snapshot.uuid = info.uuid.shown ∧ storedDate info.date = .ok snapshot.createdAt ∧
      activity.uuid = f.report.taskId.shown ∧ activity.status = TaskStatus.success.name := by
  obtain ⟨branched, analysed, branch, analysis, task⟩ := recorded_eq_ok ht
  obtain ⟨staged, component, branch⟩ := located_eq_ok.1 branch
  have hbranched := h.recordBranch_eq_ok branch
  rw [h.recordComponent_eq_ok component] at hbranched
  have inserts := h.recordSnapshot_eq analysis
  obtain ⟨createdAt, hdate, hanalysed⟩ := inserts_snapshotRow inserts
  obtain ⟨submitted, executed, hdone⟩ := recordActivity_eq_ok task
  -- before the analysis was inserted no task named it
  have before : branched.Linked := linked.of_eq (by rw [hbranched]) (by rw [hbranched])
  have unused : info.uuid.shown ∉ analysed.activities.filterMap (·.analysis) :=
    before.unlinked_of_withSnapshot inserts
  have names : (f.taskRow submitted executed).analysis = some info.uuid.shown := by
    rw [analysis_taskRow, h.made]
    rfl
  obtain ⟨activity, hactivity, huuid, hstatus⟩ := filter_reported names unused
  have success := status_taskRow h.made submitted executed
  have marked : (f.snapshotRow info createdAt).isLast = true := rfl
  refine ⟨f.snapshotRow info createdAt, activity, ⟨?_, ?_, ?_, ?_⟩, rfl, hdate, huuid,
    hstatus.trans success⟩
  · rw [hdone, hanalysed, hbranched]
    exact filter_upserted_key (f.component main) keyed.components
  · rw [hdone, hanalysed, hbranched]
    exact filter_upserted_key (f.branchRow b main) keyed.branches
  · rw [hdone, hanalysed]
    exact lastRows_insertedInto_self rfl marked
  · rw [hdone]
    exact hactivity

end FinishedAnalysis

end AnalysisWebhooks
