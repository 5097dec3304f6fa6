import AnalysisWebhooks.Proofs.Issue.Posting
import AnalysisWebhooks.Proofs.Service.Recording
import AnalysisWebhooks.Store.Backfill
import AnalysisWebhooks.Web.Handler

namespace AnalysisWebhooks

open AnalysisWebhooks.Action

def ProjectAnalysis.notices (a : ProjectAnalysis) (s : Service) : List Notice :=
  if s.settings.webhooksEnabled then
    match a.task.id, a.project.uuid with
    | .plain task, .plain project =>
      match s.store.activity? task with
      | .ok recorded =>
        let analysis := ((recorded.bind (·.analysis)).map .plain).or (a.analysis.map (·.uuid))
        [⟨s.store.configurationFor (some project), ⟨project, some task, analysis⟩, a⟩]
      | .error _ => []
    | _, _ => []
  else []

section Outcome

variable (report : AnalysisReport) (allStepsExecuted : Bool)

theorem AnalysisReport.task_outcome :
    (report.outcome allStepsExecuted).task.id = report.taskId := by
  cases allStepsExecuted <;> rfl

theorem AnalysisReport.project_outcome :
    (report.outcome allStepsExecuted).project = report.project := by
  cases allStepsExecuted <;> rfl

theorem AnalysisReport.analysis_outcome :
    (report.outcome allStepsExecuted).analysis = report.analysis := by
  cases allStepsExecuted <;> rfl

end Outcome

theorem Store.analysis_of_activity? {s : Store} {task : String}
    {recorded : Option (ActivityRow TaskStatus Calendar.Moment)}
    (h : s.activity? task = .ok recorded) : recorded.bind (·.analysis) = s.analysisOfTask task := by
  unfold activity? at h
  rw [analysisOfTask]
  cases found : s.activities.find? (·.uuid = task) with
  | none =>
    rw [found] at h
    cases h
    rfl
  | some row =>
    rw [found] at h
    obtain ⟨read, hread, rfl⟩ := map_eq_ok.1 h
    obtain ⟨-, -, -, same⟩ := ActivityRow.read_eq_ok.1 hread
    rw [same]
    rfl

theorem ProjectAnalysis.of_mem_notices {a : ProjectAnalysis} {s : Service} {n : Notice}
    (h : n ∈ a.notices s) : ∃ task project, a.task.id = .plain task ∧
      a.project.uuid = .plain project ∧
      n = ⟨s.store.configurationFor (some project), ⟨project, some task,
        ((s.store.analysisOfTask task).map .plain).or (a.analysis.map (·.uuid))⟩, a⟩ := by
  unfold notices at h
  split at h
  · split at h
    · rename_i task project htask hproject
      cases hrow : s.store.activity? task with
      | error failure =>
        rw [hrow] at h
        cases h
      | ok recorded =>
        rw [hrow] at h
        refine ⟨task, project, htask, hproject, ?_⟩
        rw [← Store.analysis_of_activity? hrow]
        exact List.mem_singleton.1 h
    · cases h
  · cases h

def Notice.announce (n : Notice) : Action Unit :=
  let telling : Action Unit := do
    let _ ← dispatch n.configuration n.subject (makePayload n.analysis)
    measure (.countDecision .analysis .dispatched)
  orElse telling fun failure => do
    measure (.countError .analysisWebhooks)
    measure (.countDecision .analysis .error)
    throw failure

theorem Notice.bare_after_announce (n : Notice) (s : Service) :
    (n.announce.after s).bare = ((tellAll [n]).after s).bare := by
  unfold announce
  rw [bare_after_orElse (fun _ _ => rfl), tellAll_cons, tellAll, after_bind_pure, n.after_tell,
    after_bind, after]
  cases dispatch n.configuration n.subject (makePayload n.analysis) s <;> rfl

theorem analysisUuidOf_apply (a : ProjectAnalysis) (task : String) (s : Service) :
    analysisUuidOf a task s = match s.store.activity? task with
      | .ok recorded =>
        .ok (((recorded.bind (·.analysis)).map .plain).or (a.analysis.map (·.uuid))) s
      | .error failure => .error failure s := by
  rw [analysisUuidOf, bind_apply, ask_apply]
  cases s.store.activity? task <;> rfl

theorem bare_after_notifyOfAnalysis (a : ProjectAnalysis) (s : Service) :
    ((notifyOfAnalysis a).after s).bare = ((tellAll (a.notices s)).after s).bare := by
  unfold notifyOfAnalysis ProjectAnalysis.notices
  rw [after_get_bind]
  split
  · rw [after_obtain_bind]
    cases a.task.id with
    | broken units lone => rfl
    | plain task =>
      dsimp only [RawText.encoded]
      rw [after_bind, analysisUuidOf_apply]
      cases hrow : s.store.activity? task with
      | error failure => cases a.project.uuid <;> simp only [hrow] <;> rfl
      | ok recorded =>
        dsimp only
        cases a.project.uuid with
        | broken units lone =>
          generalize ((recorded.bind (·.analysis)).map RawText.plain).or _ = analysis
          cases analysis <;> rfl
        | plain project =>
          dsimp only
          rw [hrow]
          dsimp only
          generalize ((recorded.bind (·.analysis)).map RawText.plain).or _ = analysis
          let n : Notice :=
            ⟨s.store.configurationFor (some project), ⟨project, some task, analysis⟩, a⟩
          cases analysis with
          | some uuid => exact n.bare_after_announce s
          | none =>
            -- that there is no analysis is logged before the notice is told
            have logged (log : List LogLine) : ((tellAll [n]).after { s with log }).bare =
                ((tellAll [n]).after s).bare := (blind_tellAll _).bare_after rfl
            exact (n.bare_after_announce _).trans (logged _)
  · rfl

namespace FinishedAnalysis

def notices (f : FinishedAnalysis) (s : Service) : List Notice :=
  match f.recorded s.clock s.store with
  | .ok store => (f.report.outcome f.allStepsExecuted).notices { s with store }
  | .error _ => []

theorem bare_after_finish (report : AnalysisReport) (allStepsExecuted : Bool) (s : Service) :
    ((finish [webhookTask] report allStepsExecuted).after s).bare =
      ((notifyOfAnalysis (report.outcome allStepsExecuted)).after s).bare := by
  have ran : (finish [webhookTask] report allStepsExecuted).after s =
      (webhookTask.attempt (report.outcome allStepsExecuted)).after s := by
    show ((runTasks _ _ >>= fun _ => pure _ : Action _).after s) = _
    rw [after_bind_pure]
    exact after_bind_pure _ _ s
  rw [ran]
  exact bare_after_orElse (fun _ _ => rfl) s

theorem bare_after_handleFinished (f : FinishedAnalysis) (s : Service) :
    ((handleFinished f).after s).bare =
      ((tellAll (f.notices s)).after { s with store := f.left s.clock s.store }).bare := by
  unfold handleFinished notices left
  rw [after_bind, f.record_apply]
  cases f.recorded s.clock s.store with
  | error refused => rfl
  | ok store =>
    dsimp only
    rw [after_bind_ok (log_apply ..), after_bind_pure, bare_after_finish,
      bare_after_notifyOfAnalysis]
    exact (blind_tellAll _).bare_after rfl

variable {f : FinishedAnalysis} {now : Calendar.Moment} {s t : Store}

theorem configurationFor_of_recorded (h : f.recorded now s = .ok t) (project : Option String) :
    t.configurationFor project = s.configurationFor project := by
  obtain ⟨branched, analysed, branch, analysis, task⟩ := recorded_eq_ok h
  obtain ⟨submitted, executed, rfl⟩ := recordActivity_eq_ok task
  rw [recordSnapshot_frame analysis, located_frame branch]
  rfl

theorem made_of_recorded (h : f.recorded now s = .ok t) :
    (f.made.map (·.uuid.shown)).map .plain = f.made.map (·.uuid) := by
  obtain ⟨_, _, -, -, task⟩ := recorded_eq_ok h
  obtain ⟨_, _, made, -, -, hmade, -⟩ := recordActivity_encodes task
  have named := made_of_encoded hmade
  cases hinfo : f.made with
  | none => rfl
  | some info =>
    cases made with
    | none =>
      rw [hinfo] at named
      cases named
    | some uuid =>
      rw [hinfo, Option.map_some, Option.map_some, Option.some.injEq] at named
      rw [Option.map_some, Option.map_some, Option.map_some, named]
      rfl

theorem analysisOfTask_of_recorded (h : f.recorded now s = .ok t) :
    t.analysisOfTask f.report.taskId.shown = f.made.map (·.uuid.shown) := by
  obtain ⟨_, analysed, -, -, task⟩ := recorded_eq_ok h
  obtain ⟨submitted, executed, rfl⟩ := recordActivity_eq_ok task
  exact analysis_find?_reported (f.taskRow submitted executed) analysed.activities

theorem snapshot_of_recorded {info : AnalysisInfo} (h : f.recorded now s = .ok t)
    (made : f.made = some info) : ∃ row ∈ t.snapshots, .plain row.uuid = info.uuid := by
  obtain ⟨branched, analysed, -, analysis, task⟩ := recorded_eq_ok h
  obtain ⟨submitted, executed, rfl⟩ := recordActivity_eq_ok task
  obtain ⟨none, -⟩ | ⟨other, uuid, hother, named, inserted⟩ := recordSnapshot_eq_ok analysis
  · rw [made] at none
    cases none
  · rw [made] at hother
    cases hother
    obtain ⟨createdAt, -, rfl⟩ := Store.withSnapshot_eq_ok inserted
    exact ⟨_, List.mem_append_right _ (List.mem_singleton_self _), named.symm⟩

theorem made_or (f : FinishedAnalysis) : f.made.or f.report.analysis = f.report.analysis := by
  unfold FinishedAnalysis.made
  cases f.allStepsExecuted <;> cases f.report.analysis <;> rfl

theorem recorded_of_mem_notices {s : Service} {n : Notice} (h : n ∈ f.notices s) :
    ∃ t, f.recorded s.clock s.store = .ok t ∧
      n ∈ (f.report.outcome f.allStepsExecuted).notices { s with store := t } := by
  unfold notices at h
  cases recorded : f.recorded s.clock s.store with
  | error refused =>
    rw [recorded] at h
    cases h
  | ok t =>
    rw [recorded] at h
    exact ⟨t, rfl, h⟩

theorem of_mem_notices {s : Service} {n : Notice} (h : n ∈ f.notices s) :
    (∃ t, f.recorded s.clock s.store = .ok t) ∧
      n.configuration = s.store.configurationFor (some f.report.project.uuid.shown) ∧
      n.subject = ⟨f.report.project.uuid.shown, some f.report.taskId.shown,
        f.report.analysis.map (·.uuid)⟩ := by
  obtain ⟨t, recorded, h⟩ := recorded_of_mem_notices h
  obtain ⟨task, project, htask, hproject, rfl⟩ := ProjectAnalysis.of_mem_notices h
  rw [AnalysisReport.task_outcome] at htask
  rw [AnalysisReport.project_outcome] at hproject
  have found := analysisOfTask_of_recorded recorded
  rw [htask, RawText.shown_plain] at found
  refine ⟨⟨t, recorded⟩, ?_, ?_⟩
  · rw [hproject]
    exact configurationFor_of_recorded recorded (some project)
  · rw [found, made_of_recorded recorded, AnalysisReport.analysis_outcome, ← Option.map_or,
      f.made_or, htask, hproject]
    rfl

theorem store_of_not_enabled {s : Service}
    (off : (s.store.configurationFor (some f.report.project.uuid.shown)).isEnabled = false) :
    ((handleFinished f).after s).store = f.left s.clock s.store := by
  have silent : (f.notices s).filter (·.configuration.isEnabled) = [] := by
    refine List.filter_eq_nil_iff.2 fun n hn enabled => ?_
    rw [(of_mem_notices hn).2.1, off] at enabled
    cases enabled
  rw [store_of_bare (bare_after_handleFinished f s), ← tellAll_filter, silent]
  rfl

end FinishedAnalysis

end AnalysisWebhooks
