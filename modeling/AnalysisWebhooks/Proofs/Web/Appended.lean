import AnalysisWebhooks.Proofs.Service.Announcing
import AnalysisWebhooks.Proofs.Service.Appending
import AnalysisWebhooks.Proofs.Web.Attribution

namespace AnalysisWebhooks

open AnalysisWebhooks.Action Calendar

def Request.notices (r : Request) (s : Service) : List Notice :=
  match r.finished?, r.issueChange? with
  | some f, _ => f.notices s
  | none, some (action, change) => action.told change.changes (change.context s.clock) s
  | none, none => []

def Request.appended (r : Request) (s : Service) : List (DeliveryRow String String) :=
  rowsOfNotices (r.notices s) (r.recorded s)

section Requests

variable {r : Request} {s : Service} {f : FinishedAnalysis}

theorem bare_after_finished (h : r.finished? = some f) (s : Service) :
    ((handle .webhooks r).after s).bare = ((tellAll (f.notices s)).after (r.recorded s)).bare := by
  have recorded (u : Service) : r.recorded u = { u with store := f.left u.clock u.store } := by
    rw [Request.recorded, h]
  have answered (u : Service) : ((answer r).after u).bare = ((handleFinished f).after u).bare := by
    unfold Request.finished? at h
    split at h
    · rename_i route
      rw [after_answer route.1 route.2, Route.handle, withBody_of_read h]
    · cases h
  obtain ⟨metrics, counted⟩ := after_handle r s
  rw [recorded, counted, answered, f.bare_after_handleFinished]
  exact (blind_tellAll _).bare_after rfl

theorem told_measured (action : IssueAction) (c : ChangeSet) (context : ChangeContext)
    (s : Service) (metrics : Metrics) :
    action.told c context { s with metrics } = action.told c context s :=
  if_congr ⟨fun h => ⟨h.enabled, h.issues, h.login, h.meaningful⟩,
    fun h => ⟨h.enabled, h.issues, h.login, h.meaningful⟩⟩ rfl rfl

theorem withBody_of_silent {α : Type} {title : String} {read : Json → Check α} {body : String}
    (h : (readBody title read body).toOption = none) (go : α → Action Response) :
    ∃ refusal, withBody title read body go = pure (.refused refusal) := by
  unfold withBody
  cases hbody : readBody title read body with
  | error refusal => exact ⟨refusal, rfl⟩
  | ok a =>
    rw [hbody] at h
    cases h

theorem settles_of_silent {route : Route} (finished : r.finished? = none)
    (change : r.issueChange? = none) (hpath : Route.ofPath? r.path = some route)
    (hmethod : r.method = route.method) : Moves Settles (route.handle .webhooks r) := by
  rw [Request.finished?, hpath] at finished
  rw [Request.issueChange?, hpath] at change
  have refused {α : Type} {title : String} {read : Json → Check α} {go : α → Action Response}
      (h : (readBody title read r.body).toOption = none) :
      Moves Settles (withBody title read r.body go) := by
    obtain ⟨refusal, hrefused⟩ := withBody_of_silent h go
    rw [hrefused]
    exact moves_pure Settles.refl _
  cases route with
  | status => exact moves_pure Settles.refl _
  | metrics => exact moves_get_bind fun _ => moves_pure Settles.refl _
  | analysisFinished =>
    rw [if_pos ⟨rfl, hmethod⟩] at finished
    exact refused finished
  | issueTransition =>
    dsimp only at change
    rw [if_pos hmethod, Option.map_eq_none_iff] at change
    exact refused change
  | issueType =>
    dsimp only at change
    rw [if_pos hmethod, Option.map_eq_none_iff] at change
    exact refused change
  | deliveries => exact settles_handleDeliveries _
  | delivery => exact settles_handleDelivery _
  | setSetting => exact moves_withBody Settles.refl _ _ _ settles_handleSet
  | resetSetting => exact moves_withBody Settles.refl _ _ _ settles_handleReset

theorem deliveries_of_silent (finished : r.finished? = none) (change : r.issueChange? = none)
    (s : Service) : ((handle .webhooks r).after s).store.deliveries = s.store.deliveries := by
  have answered (u : Service) : ((answer r).after u).store.deliveries = u.store.deliveries := by
    rcases after_answer_cases r u with ⟨route, hpath, hmethod, same⟩ | ⟨-, unchanged⟩
    · rw [same]
      exact (settles_of_silent finished change hpath hmethod u).deliveries
    · rw [unchanged]
  obtain ⟨metrics, counted⟩ := after_handle r s
  rw [counted]
  exact answered _

theorem appends_handle (r : Request) (s : Service) :
    ∃ t, Appends s.settings.retentionCount (r.appended s) (r.recorded s).store t ∧
      ((handle .webhooks r).after s).store.deliveries = t.deliveries := by
  have settings : (r.recorded s).settings = s.settings := by
    unfold Request.recorded
    split <;> rfl
  have told := appends_tellAll (r.notices s) (r.recorded s)
  rw [settings] at told
  cases finished : r.finished? with
  | some f =>
    refine ⟨_, told, ?_⟩
    have notices : r.notices s = f.notices s := by rw [Request.notices, finished]
    rw [store_of_bare (bare_after_finished finished s), notices]
  | none =>
    have unrecorded : r.recorded s = s := by rw [Request.recorded, finished]
    cases changes : r.issueChange? with
    | some change =>
      obtain ⟨action, change⟩ := change
      refine ⟨_, told, ?_⟩
      obtain ⟨metrics, same⟩ := bare_after_handle changes s
      have notices : r.notices s = action.told change.changes (change.context s.clock) s := by
        rw [Request.notices, finished, changes]
      have counted : ((tellAll (r.notices s)).after { s with metrics }).bare =
          ((tellAll (r.notices s)).after s).bare := (blind_tellAll _).bare_after rfl
      rw [IssueAction.bare_after_react, told_measured, ← notices, counted] at same
      rw [store_of_bare same, unrecorded]
    | none =>
      have notices : r.notices s = [] := by rw [Request.notices, finished, changes]
      have silent : r.appended s = [] := by rw [Request.appended, notices, rowsOfNotices]
      rw [silent, unrecorded]
      exact ⟨_, .refl _, deliveries_of_silent finished changes s⟩

theorem appended_of_finished (h : r.finished? = some f) {row : DeliveryRow String String}
    (hrow : row ∈ r.appended s) :
    (∃ t, f.recorded s.clock s.store = .ok t) ∧ row.task = some f.report.taskId.shown ∧
      row.analysis.map .plain = f.report.analysis.map (·.uuid) := by
  have notices : r.notices s = f.notices s := by rw [Request.notices, h]
  rw [Request.appended, notices] at hrow
  obtain ⟨n, hn, same⟩ := subject_of_mem_rowsOfNotices hrow
  obtain ⟨recorded, -, subject⟩ := FinishedAnalysis.of_mem_notices hn
  rw [subject, DeliveryRow.webhook, Subject.mk.injEq] at same
  exact ⟨recorded, same.2⟩

theorem tables_of_finished {t : Store} (h : r.finished? = some f)
    (recorded : f.recorded s.clock s.store = .ok t) :
    ((handle .webhooks r).after s).store.activities = t.activities ∧
      ((handle .webhooks r).after s).store.snapshots = t.snapshots := by
  have frame := (tends_handle r s).store
  rw [Request.store_recorded h recorded] at frame
  rw [frame]
  exact ⟨rfl, rfl⟩

theorem analysis_of_unreported (h : r.finished? = none) {row : DeliveryRow String String}
    (hrow : row ∈ r.appended s) :
    ∃ snapshot ∈ ((handle .webhooks r).after s).store.snapshots,
      row.analysis = some snapshot.uuid := by
  have frame := (tends_handle r s).store
  have unrecorded : r.recorded s = s := by rw [Request.recorded, h]
  have kept : ((handle .webhooks r).after s).store.snapshots = s.store.snapshots := by
    rw [frame, unrecorded]
  obtain ⟨n, hn, same⟩ := subject_of_mem_rowsOfNotices hrow
  rw [Request.notices, h] at hn
  rw [kept]
  cases changes : r.issueChange? with
  | none =>
    rw [changes] at hn
    cases hn
  | some change =>
    rw [changes] at hn
    dsimp only [IssueAction.told] at hn
    split at hn
    · obtain ⟨snapshot, hsnapshot, analysis⟩ := ChangeSet.snapshot_of_mem_told hn
      rw [← same] at analysis
      obtain ⟨uuid, hrow, named⟩ := Option.map_eq_some_iff.1 analysis
      cases named
      exact ⟨snapshot, hsnapshot, hrow⟩
    · cases hn

end Requests

def FinishedAnalysis.IsUnmade (f : FinishedAnalysis) : Prop :=
  f.allStepsExecuted = false ∧ f.report.analysis.isSome = true

instance (f : FinishedAnalysis) : Decidable f.IsUnmade :=
  inferInstanceAs (Decidable (_ ∧ _))

theorem FinishedAnalysis.reported_eq_made_iff (f : FinishedAnalysis) :
    f.report.analysis.map (·.uuid) = f.made.map (·.uuid) ↔ ¬ f.IsUnmade := by
  unfold FinishedAnalysis.IsUnmade FinishedAnalysis.made
  cases f.allStepsExecuted <;> cases f.report.analysis <;> simp

theorem analyses_of_appended (r : Request) (s : Service) :
    let left := ((handle .webhooks r).after s).store
    (∃ t, Appends s.settings.retentionCount (r.appended s) (r.recorded s).store t ∧
      left.deliveries = t.deliveries) ∧
    (∀ f, r.finished? = some f → ∀ row ∈ r.appended s,
      row.task = some f.report.taskId.shown ∧
      row.analysis.map .plain = f.report.analysis.map (·.uuid) ∧
      left.analysisOfTask f.report.taskId.shown = f.made.map (·.uuid.shown) ∧
      (row.analysis = left.analysisOfTask f.report.taskId.shown ↔ ¬ f.IsUnmade)) ∧
    ∀ row ∈ r.appended s, ∀ analysis, row.analysis = some analysis →
      (∃ snapshot ∈ left.snapshots, snapshot.uuid = analysis) ∨
        ∃ f, r.finished? = some f ∧ f.IsUnmade := by
  intro left
  refine ⟨appends_handle r s, fun f h row hrow => ?_, fun row hrow analysis named => ?_⟩
  · obtain ⟨⟨t, recorded⟩, task, reported⟩ := appended_of_finished h hrow
    have stored : left.analysisOfTask f.report.taskId.shown = f.made.map (·.uuid.shown) := by
      rw [Store.analysisOfTask, (tables_of_finished h recorded).1]
      exact FinishedAnalysis.analysisOfTask_of_recorded recorded
    refine ⟨task, reported, stored, ?_⟩
    rw [stored, ← (Option.map_injective RawText.plain_injective).eq_iff, reported,
      FinishedAnalysis.made_of_recorded recorded]
    exact f.reported_eq_made_iff
  · cases h : r.finished? with
    | none =>
      obtain ⟨snapshot, hsnapshot, same⟩ := analysis_of_unreported h hrow
      rw [named, Option.some.injEq] at same
      exact .inl ⟨snapshot, hsnapshot, same.symm⟩
    | some f =>
      obtain ⟨⟨t, recorded⟩, -, reported⟩ := appended_of_finished h hrow
      by_cases unmade : f.IsUnmade
      · exact .inr ⟨f, rfl, unmade⟩
      · -- the analysis was made, and it is in the store before anyone is told
        rw [named, f.reported_eq_made_iff.2 unmade] at reported
        obtain ⟨info, made, told⟩ := Option.map_eq_some_iff.1 reported.symm
        obtain ⟨snapshot, hsnapshot, stored⟩ := FinishedAnalysis.snapshot_of_recorded recorded made
        rw [← (tables_of_finished h recorded).2] at hsnapshot
        exact .inl ⟨snapshot, hsnapshot, RawText.plain_injective (stored.trans told)⟩

def reportingSteps (allStepsExecuted : Bool) : Request :=
  sending .analysisFinished <| .object [
    ("ceTaskId", .text "t"),
    ("project", .object [("uuid", .text "p"), ("key", .text "p"), ("name", .text "p")]),
    ("allStepsExecuted", .bool allStepsExecuted),
    ("analysis", .object [("uuid", .text "a"), ("date", .text "2026-10-18T12:00:00Z")])]

def reportedSteps (allStepsExecuted : Bool) : FinishedAnalysis where
  report := ⟨"t", ⟨"p", "p", "p"⟩, none, some ⟨"a", noon⟩, none, []⟩
  allStepsExecuted
  mainProject := none

theorem finished?_reportingSteps (allStepsExecuted : Bool) :
    (reportingSteps allStepsExecuted).finished? = some (reportedSteps allStepsExecuted) := by
  rw [reportingSteps, finished?_sending]
  · cases allStepsExecuted <;> decide +kernel
  · simp

theorem appended_reportingSteps (allStepsExecuted : Bool) :
    ((reportingSteps allStepsExecuted).appended { store := hookedStore }).map
      (fun row => (row.task, row.analysis)) = [(some "t", some "a")] := by
  rw [Request.appended, Request.notices, Request.recorded, finished?_reportingSteps]
  cases allStepsExecuted <;> decide +kernel

theorem analyses_of_appended_made :
    ∃ row ∈ (reportingSteps true).appended { store := hookedStore },
      row.task = some "t" ∧ row.analysis = some "a" ∧
      row.analysis = (hookedStore.requested (reportingSteps true)).analysisOfTask "t" := by
  obtain ⟨row, hrow, -⟩ := List.map_eq_singleton_iff.1 (appended_reportingSteps true)
  have mem : row ∈ (reportingSteps true).appended { store := hookedStore } := by
    rw [hrow]
    exact List.mem_singleton_self row
  obtain ⟨task, analysis, -, agrees⟩ :=
    (analyses_of_appended (reportingSteps true) { store := hookedStore }).2.1 _
      (finished?_reportingSteps true) row mem
  have named : row.analysis = some "a" :=
    Option.map_injective RawText.plain_injective (analysis.trans rfl)
  refine ⟨row, mem, task, named, ?_⟩
  rw [Store.requested]
  exact agrees.2 (by decide)

theorem requested_reportingSteps :
    let left := hookedStore.requested (reportingSteps false)
    (left.deliveries.map fun row => (row.task, row.analysis)) = [(some "t", some "a")] ∧
      left.analysisOfTask "t" = none ∧ ∀ snapshot ∈ left.snapshots, snapshot.uuid ≠ "a" := by
  have left : hookedStore.requested (reportingSteps false) =
      ((handleFinished (reportedSteps false)).after
        (hookedStore.asked .analysisFinished)).store := by
    refine requested_of_finished ?_ (finished?_reportingSteps false) hookedStore
    simp
  rw [left]
  decide +kernel

theorem unmade_analysis_named : Reached hookedStore ∧
    (reportingSteps false).finished? = some (reportedSteps false) ∧
    let left := hookedStore.requested (reportingSteps false)
    (((reportingSteps false).appended { store := hookedStore }).map
      fun row => (row.task, row.analysis)) = [(some "t", some "a")] ∧
    (left.deliveries.map fun row => (row.task, row.analysis)) = [(some "t", some "a")] ∧
    left.analysisOfTask "t" = none ∧ ∀ snapshot ∈ left.snapshots, snapshot.uuid ≠ "a" :=
  ⟨reached_hookedStore, finished?_reportingSteps false, appended_reportingSteps false,
    requested_reportingSteps⟩

end AnalysisWebhooks
