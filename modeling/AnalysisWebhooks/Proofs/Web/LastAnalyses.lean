import AnalysisWebhooks.Proofs.Service.Analysing
import AnalysisWebhooks.Proofs.Web.Sending

namespace AnalysisWebhooks

open AnalysisWebhooks.Action Calendar

inductive AnalysisStep where
  | insert (uuid component status : String) (date : Moment)
  | request (r : Request)

namespace AnalysisStep

def after : AnalysisStep → Service → Service
  | insert uuid component status date, s =>
    (Action.change fun store => store.withSnapshot uuid component date status).after s
  | request r, s => (handle .webhooks r).after s

def insertions : AnalysisStep → Service → List Insertion
  | insert uuid component status date, s =>
    match s.store.withSnapshot uuid component date status with
    | .ok _ => [⟨uuid, component, status⟩]
    | .error _ => []
  | request r, s =>
    match r.finished? with
    | some f => f.insertions s.store
    | none => []

variable {step : AnalysisStep} {s : Service}

theorem snapshots_request (r : Request) (s : Service) :
    ((request r).after s).store.snapshots = (r.recorded s).store.snapshots := by
  have frame := (tends_handle r s).store
  rw [after, frame]

theorem inserted_after {insertions : List Insertion} (h : Inserted insertions s.store.snapshots) :
    Inserted (step.insertions s ++ insertions) (step.after s).store.snapshots := by
  cases step with
  | insert uuid component status date =>
    rw [AnalysisStep.insertions, after, Action.after, change_apply]
    cases ht : s.store.withSnapshot uuid component date status with
    | ok t => exact h.withSnapshot ht
    | error failure => exact h
  | request r =>
    rw [snapshots_request, AnalysisStep.insertions, Request.recorded]
    cases r.finished? with
    | some f => exact (f.comes_left s.clock s.store).inserted h
    | none => exact h

theorem snapshots_after (h : step.insertions s = []) :
    (step.after s).store.snapshots = s.store.snapshots := by
  cases step with
  | insert uuid component status date =>
    rw [AnalysisStep.insertions] at h
    rw [after, Action.after, change_apply]
    cases ht : s.store.withSnapshot uuid component date status with
    | ok t =>
      rw [ht] at h
      cases h
    | error failure => rfl
  | request r =>
    rw [snapshots_request, Request.recorded]
    rw [AnalysisStep.insertions] at h
    cases hf : r.finished? with
    | some f =>
      rw [hf] at h
      have comes := f.comes_left s.clock s.store
      dsimp only at h
      rw [h] at comes
      exact comes.snapshots
    | none => rfl

end AnalysisStep

inductive AnalysisRun : Store → List Insertion → Prop
  | empty : AnalysisRun {} []
  | step {s : Service} {insertions : List Insertion} (step : AnalysisStep)
      (run : AnalysisRun s.store insertions) :
      AnalysisRun (step.after s).store (step.insertions s ++ insertions)

theorem AnalysisRun.inserted {s : Store} {insertions : List Insertion}
    (run : AnalysisRun s insertions) : Inserted insertions s.snapshots := by
  induction run with
  | empty => exact .nil
  | step step _ ih => exact step.inserted_after ih

theorem lastRows_of_run {s : Store} {insertions : List Insertion} (run : AnalysisRun s insertions) :
    (∀ component,
      (∀ i, insertions.find? (·.marks component) = some i →
        ∃ row, lastRows component s.snapshots = [row] ∧ row.insertion = i) ∧
      ((∀ i ∈ insertions, ¬ i.marks component) → lastRows component s.snapshots = [])) ∧
    ∀ (step : AnalysisStep) (service : Service), service.store = s →
      step.insertions service = [] → (step.after service).store.snapshots = s.snapshots := by
  refine ⟨fun component => ⟨fun i newest => ?_, fun none => ?_⟩, fun step service same fails => ?_⟩
  · have last := run.inserted.last component
    rw [newest] at last
    obtain ⟨row, hrow, hi⟩ := List.map_eq_singleton_iff.1 last
    exact ⟨row, hrow, hi⟩
  · have last := run.inserted.last component
    rw [List.find?_eq_none.2 none] at last
    exact List.map_eq_nil_iff.1 last
  · rw [← same]
    exact AnalysisStep.snapshots_after fails

def afterSteps : List AnalysisStep → Store × List Insertion
  | [] => ({}, [])
  | step :: rest =>
    let (store, insertions) := afterSteps rest
    ((step.after { store }).store, step.insertions { store } ++ insertions)

theorem run_afterSteps (steps : List AnalysisStep) :
    AnalysisRun (afterSteps steps).1 (afterSteps steps).2 := by
  induction steps with
  | nil => exact .empty
  | cons step rest ih => exact .step (s := { store := (afterSteps rest).1 }) step ih

def reportMembers (uuid date : String) : Json.Members := [
  ("ceTaskId", .text "t"),
  ("project", .object [("uuid", .text "c"), ("key", .text "c"), ("name", .text "c")]),
  ("analysis", .object [("uuid", .text uuid), ("date", .text date)])]

def reporting (uuid date : String) : AnalysisStep :=
  .request (sending .analysisFinished (.object (reportMembers uuid date)))

theorem plain_reportMembers (uuid date : String) :
    (Json.object (reportMembers uuid date)).Plain := by
  simp [reportMembers]

theorem insertions_reporting (uuid date : String) (store : Store) :
    (reporting uuid date).insertions { store } =
      (FinishedAnalysis.read (.object (reportMembers uuid date))).value?.elim [] fun f =>
        f.insertions store := by
  rw [reporting, AnalysisStep.insertions, finished?_sending (plain_reportMembers uuid date)]
  cases (FinishedAnalysis.read (.object (reportMembers uuid date))).value? <;> rfl

theorem afterSteps_reporting {rest : List AnalysisStep} {store : Store}
    {insertions : List Insertion} (h : afterSteps rest = (store, insertions))
    (unhooked : store.properties = []) (uuid date : String) :
    afterSteps (reporting uuid date :: rest) =
      (FinishedAnalysis.read (.object (reportMembers uuid date))).value?.elim (store, insertions)
        fun f => (f.left noon store, f.insertions store ++ insertions) := by
  have left : ((reporting uuid date).after { store }).store =
      (FinishedAnalysis.read (.object (reportMembers uuid date))).value?.elim store fun f =>
        f.left noon store := by
    rw [reporting, AnalysisStep.after, ← Store.requested,
      requested_unhooked (plain_reportMembers uuid date) unhooked]
  rw [afterSteps, h]
  dsimp only
  rw [left, insertions_reporting]
  cases (FinishedAnalysis.read (.object (reportMembers uuid date))).value? <;> rfl

def analysedStore : Store where
  components := [⟨"c", "c", "c", "c", none⟩]
  snapshots := [⟨"a", "c", "P", true, "2026-10-18T00:00:00.000000Z"⟩]
  activities := [⟨"t", "REPORT", some "c", some "a", "SUCCESS", true, "2026-10-18T12:00:00.000000Z",
    some "2026-10-18T12:00:00.000000Z"⟩]

def uncountedStore : Store :=
  { analysedStore with
    snapshots := analysedStore.snapshots ++
      [⟨"u", "c", "U", false, "2026-10-18T12:00:00.000000Z"⟩] }

def reorderedStore : Store where
  components := [⟨"c", "c", "c", "c", none⟩]
  snapshots := [⟨"a", "c", "P", false, "2026-10-18T00:00:00.000000Z"⟩,
    ⟨"u", "c", "U", false, "2026-10-18T12:00:00.000000Z"⟩,
    ⟨"b", "c", "P", true, "2025-01-01T00:00:00.000000Z"⟩]
  activities := [⟨"t", "REPORT", some "c", some "b", "SUCCESS", true, "2026-10-18T12:00:00.000000Z",
    some "2026-10-18T12:00:00.000000Z"⟩]

theorem afterSteps_reordered :
    afterSteps [reporting "z" "0001-01-01T00:00:00+05:00", reporting "b" "2025-01-01",
      .insert "u" "c" "U" noon, reporting "a" "2026-10-18"] =
      (reorderedStore, [⟨"b", "c", "P"⟩, ⟨"u", "c", "U"⟩, ⟨"a", "c", "P"⟩]) := by
  have newer : afterSteps [reporting "a" "2026-10-18"] = (analysedStore, [⟨"a", "c", "P"⟩]) := by
    rw [afterSteps_reporting rfl rfl]
    decide +kernel
  have uncounted : afterSteps [.insert "u" "c" "U" noon, reporting "a" "2026-10-18"] =
      (uncountedStore, [⟨"u", "c", "U"⟩, ⟨"a", "c", "P"⟩]) := by
    rw [afterSteps, newer]
    decide +kernel
  have older : afterSteps [reporting "b" "2025-01-01", .insert "u" "c" "U" noon,
      reporting "a" "2026-10-18"] =
      (reorderedStore, [⟨"b", "c", "P"⟩, ⟨"u", "c", "U"⟩, ⟨"a", "c", "P"⟩]) := by
    rw [afterSteps_reporting uncounted rfl]
    decide +kernel
  rw [afterSteps_reporting older rfl]
  decide +kernel

theorem lastRows_of_run_reordered :
    AnalysisRun reorderedStore [⟨"b", "c", "P"⟩, ⟨"u", "c", "U"⟩, ⟨"a", "c", "P"⟩] ∧
      (∃ row, lastRows "c" reorderedStore.snapshots = [row] ∧ row.insertion = ⟨"b", "c", "P"⟩) ∧
      lastRows "d" reorderedStore.snapshots = [] ∧
      ((reporting "b" "2030-01-01").after { store := reorderedStore }).store.snapshots =
        reorderedStore.snapshots := by
  have run := run_afterSteps [reporting "z" "0001-01-01T00:00:00+05:00",
    reporting "b" "2025-01-01", .insert "u" "c" "U" noon, reporting "a" "2026-10-18"]
  rw [afterSteps_reordered] at run
  obtain ⟨marks, fails⟩ := lastRows_of_run run
  refine ⟨run, (marks "c").1 _ (by decide), (marks "d").2 (by decide), ?_⟩
  refine fails (reporting "b" "2030-01-01") { store := reorderedStore } rfl ?_
  rw [insertions_reporting]
  decide +kernel

end AnalysisWebhooks
