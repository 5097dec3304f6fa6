import AnalysisWebhooks.Proofs.Web.Requests

namespace AnalysisWebhooks

open Calendar TaskReport

def Request.taskReports (r : Request) (s : Service) : List TaskReport :=
  match r.finished? with
  | some f => f.taskReports s.clock s.store
  | none => []

inductive TaskRun : Store → List TaskReport → Prop
  | empty : TaskRun {} []
  | insert {s t : Store} {reports : List TaskReport} {now : Moment} {uuid taskType : String}
      {component analysis : Option String} {status : TaskStatus} {submittedAt : Option Moment}
      (run : TaskRun s reports)
      (h : s.withActivity now uuid component status analysis taskType submittedAt = .ok t) :
      TaskRun t (⟨uuid, component, taskType⟩ :: reports)
  | request {s : Service} {reports : List TaskReport} (r : Request)
      (run : TaskRun s.store reports) :
      TaskRun ((handle .webhooks r).after s).store (r.taskReports s ++ reports)

theorem TaskRun.told {s : Store} {reports : List TaskReport} (run : TaskRun s reports) :
    Told reports s.activities := by
  induction run with
  | empty => exact .nil
  | insert _ h ih => exact ih.withActivity h
  | @request s reports r _ ih =>
    have same :
        ((handle .webhooks r).after s).store.activities = (r.recorded s).store.activities := by
      rw [(tends_handle r s).store]
    rw [same, Request.recorded, Request.taskReports]
    cases r.finished? with
    | none => exact ih
    | some f => exact FinishedAnalysis.told_left ih

theorem lastTasks_of_run {s : Store} {reports : List TaskReport} (run : TaskRun s reports)
    (component taskType : String) :
    ((s.lastTasks component taskType).length ≤ 1 ↔
      ∀ u ∈ recent (some component) taskType reports,
        ∀ v ∈ recent (some component) taskType reports,
          owner? u reports = some (some component, taskType) →
          owner? v reports = some (some component, taskType) → u = v) ∧
    (Faithful reports → (s.lastTasks component taskType).length ≤ 1) := by
  have exactly := run.told.length_lastTasks_le_one_iff component taskType
  refine ⟨exactly, fun faithful => exactly.2 fun u hu v hv ownerU ownerV => ?_⟩
  exact faithful.eq_of_recent hu hv ownerU ownerV

def Store.ofReports : List TaskReport → Except Failure Store
  | [] => .ok {}
  | r :: rest => do
    (← ofReports rest).withActivity noon r.uuid r.component .success none r.taskType none

theorem run_of_ofReports {reports : List TaskReport} {s : Store}
    (h : Store.ofReports reports = .ok s) : TaskRun s reports := by
  induction reports generalizing s with
  | nil =>
    cases h
    exact .empty
  | cons r rest ih =>
    obtain ⟨before, hbefore, h⟩ := bind_eq_ok.1 h
    exact .insert (ih hbefore) h

def resubmitted : List TaskReport :=
  [⟨"t", some "a", "REPORT"⟩, ⟨"u", some "a", "REPORT"⟩, ⟨"t", some "a", "REPORT"⟩]

theorem lastTasks_of_run_resubmitted : ∃ s, TaskRun s resubmitted ∧
    (s.lastTasks "a" "REPORT").map (·.uuid) = ["t"] ∧ (s.lastTasks "a" "REPORT").length ≤ 1 := by
  obtain ⟨s, hs, last⟩ : ∃ s, Store.ofReports resubmitted = .ok s ∧
      (s.lastTasks "a" "REPORT").map (·.uuid) = ["t"] := ⟨_, rfl, by decide +kernel⟩
  refine ⟨s, run_of_ofReports hs, last, ?_⟩
  exact (lastTasks_of_run (run_of_ofReports hs) "a" "REPORT").2 (by decide +kernel)

def moved : List TaskReport :=
  [⟨"t", some "b", "REPORT"⟩, ⟨"u", some "a", "REPORT"⟩, ⟨"t", some "a", "REPORT"⟩]

theorem two_lastTasks_of_moved : ∃ s, TaskRun s moved ∧
    (s.lastTasks "a" "REPORT").map (·.uuid) = ["t", "u"] ∧
    ¬ (s.lastTasks "a" "REPORT").length ≤ 1 := by
  obtain ⟨s, hs, last⟩ : ∃ s, Store.ofReports moved = .ok s ∧
      (s.lastTasks "a" "REPORT").map (·.uuid) = ["t", "u"] := ⟨_, rfl, by decide +kernel⟩
  refine ⟨s, run_of_ofReports hs, last, fun h => ?_⟩
  rw [← List.length_map (f := (·.uuid)), last] at h
  exact absurd h (by decide)

end AnalysisWebhooks
