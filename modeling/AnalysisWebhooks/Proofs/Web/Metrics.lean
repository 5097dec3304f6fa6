import AnalysisWebhooks.Proofs.Service.Decisions
import AnalysisWebhooks.Proofs.Web.Appended
import AnalysisWebhooks.Proofs.Web.Settings

namespace AnalysisWebhooks

open AnalysisWebhooks.Action Calendar

theorem Store.Written.exists_activity? {s : Store} (h : s.Written) (task : String) :
    ∃ row, s.activity? task = .ok row := by
  unfold Store.activity?
  split
  · rename_i row found
    obtain ⟨r, hr⟩ := (h.activities row (List.mem_of_find?_eq_some found)).exists_read
    exact ⟨some r, by rw [hr]; rfl⟩
  · exact ⟨none, rfl⟩

section Finished

variable {f : FinishedAnalysis} {s t : Service}

theorem handleFinished_of_recorded {store : Store}
    (recorded : f.recorded s.clock s.store = .ok store) : ∃ log, handleFinished f s =
      match webhookTask.attempt (f.report.outcome f.allStepsExecuted) { s with store, log } with
      | .ok _ u => .ok .done u
      | .error failure u => .error failure u := by
  let v : Service := { s with
    store
    log := s.log ++ [⟨.debug, "Compute task " ++ f.report.taskId.shown ++ " finished"⟩] }
  have stored : f.record s = .ok ⟨⟩ { s with store } := by
    rw [f.record_apply, recorded]
  have finishing : handleFinished f s =
      (finish [webhookTask] f.report f.allStepsExecuted >>= fun _ => pure .done) v := by
    rw [handleFinished, bind_ok stored, log_bind]
  refine ⟨v.log, ?_⟩
  rw [finishing]
  cases attempted : webhookTask.attempt (f.report.outcome f.allStepsExecuted) v with
  | ok _ u =>
    have ran : runTasks (f.report.outcome f.allStepsExecuted) [webhookTask] v = .ok ⟨⟩ u :=
      bind_ok attempted
    exact bind_ok (bind_ok ran)
  | error failure u =>
    have ran : runTasks (f.report.outcome f.allStepsExecuted) [webhookTask] v =
        .error failure u := by
      rw [runTasks, bind_apply, attempted]
    have stopped : finish [webhookTask] f.report f.allStepsExecuted v = .error failure u := by
      show (runTasks _ _ >>= fun _ => pure _ : Action _) v = _
      rw [bind_apply, ran]
    rw [bind_apply, stopped]

theorem handleFinished_of_refused {failure : Failure} {store : Store}
    (refused : f.recorded s.clock s.store = .error (failure, store)) :
    handleFinished f s = .error failure { s with store } := by
  have stopped : f.record s = .error failure { s with store } := by
    rw [f.record_apply, refused]
  rw [handleFinished, bind_apply, stopped]

end Finished

theorem reactToIssues_of_fatal {context : ErrorContext} {what : String} {reaction : Action Nat}
    {s t : Service} {failure : Failure} (h : reaction s = .error failure t)
    (fatal : failure.isOrdinary = false) :
    reactToIssues context what reaction s = .error failure t := by
  unfold reactToIssues
  rw [bind_apply, orElse_apply, h]
  simp only [fatal, if_false, Bool.false_eq_true]

theorem reactToIssues_of_ok {context : ErrorContext} {what : String} {reaction : Action Nat}
    {s t : Service} {n : Nat} (h : reaction s = .ok n t) :
    reactToIssues context what reaction s = .ok .done t := by
  unfold reactToIssues
  rw [bind_apply, orElse_apply, h]
  rfl

def Request.told (r : Request) (s : Service) : Nat :=
  match r.issueChange? with
  | some (action, change) =>
    match action.react change.changes (change.context s.clock) (r.counted s) with
    | .ok n _ => n
    | .error _ _ => 0
  | none => 0

def Request.IsAccepted (r : Request) (response : Response) : Prop :=
  r.IsFor .analysisFinished ∧ response.status = 204

instance (r : Request) (response : Response) : Decidable (r.IsAccepted response) :=
  inferInstanceAs (Decidable (_ ∧ _))

def Request.Booked (r : Request) (s : Service) (response : Response) (t : Service) : Prop :=
  ∃ failed issueFailed, Books {
    rows := (r.appended s).length
    accepted := if r.IsAccepted response then 1 else 0
    failed := failed
    issueFailed := issueFailed
    told := r.told s } s t

theorem resilient_answer (r : Request) : Resilient (answer r) := by
  unfold answer
  split
  · exact resilient_of_ok fun _ => ⟨_, _, rfl⟩
  · split
    · exact resilient_orElse fun _ => resilient_of_ok fun _ => ⟨_, _, rfl⟩
    · exact resilient_of_ok fun _ => ⟨_, _, rfl⟩

theorem resilient_handle (r : Request) : Resilient (handle .webhooks r) := by
  rw [handle_eq]
  split
  · exact resilient_bind (resilient_of_ok fun _ => ⟨_, _, rfl⟩) fun _ => resilient_answer r
  · exact resilient_answer r

section Requests

variable {r : Request} {s t : Service} {response : Response}

theorem books_counted (r : Request) (s : Service) : Books {} s (r.counted s) :=
  .judging (judges_request _ _) rfl

theorem isFor_of_finished {f : FinishedAnalysis} (h : r.finished? = some f) :
    r.IsFor .analysisFinished ∧
      (readBody "AnalysisFinishedRequest" FinishedAnalysis.read r.body).toOption = some f := by
  unfold Request.finished? at h
  split at h
  · rename_i route
    exact ⟨route, h⟩
  · cases h

theorem notices_of_finished {f : FinishedAnalysis} (h : r.finished? = some f) :
    r.notices s = f.notices s := by
  rw [Request.notices, h]

theorem issueChange?_of_finished {f : FinishedAnalysis} (h : r.finished? = some f) :
    r.issueChange? = none := by
  rw [Request.issueChange?, (isFor_of_finished h).1.1]

theorem booked_of_refused {f : FinishedAnalysis} {failure : Failure} {store : Store}
    (h : r.finished? = some f) (refused : f.recorded s.clock s.store = .error (failure, store)) :
    r.Booked s (.refused .broken) { r.counted s with store } := by
  have left : f.left s.clock s.store = store := by rw [FinishedAnalysis.left, refused]
  have deliveries : store.deliveries = s.store.deliveries := by
    rw [← left]
    exact (f.left_frame s.clock s.store).2
  have silent : r.appended s = [] := by
    rw [Request.appended, notices_of_finished h, FinishedAnalysis.notices, refused]
    rfl
  have unaccepted : ¬ r.IsAccepted (.refused .broken) := fun accepted => by cases accepted.2
  have untold : r.told s = 0 := by rw [Request.told, issueChange?_of_finished h]
  refine ⟨0, 0, ?_⟩
  rw [silent, untold, if_neg unaccepted]
  exact (books_counted r s).trans (.restored deliveries)

theorem booked_of_recorded {f : FinishedAnalysis} {store : Store} {log : List LogLine}
    (reached : Reached s.store) (four : s.clock.IsFourDigit) (h : r.finished? = some f)
    (recorded : f.recorded s.clock s.store = .ok store)
    (attempted : webhookTask.attempt (f.report.outcome f.allStepsExecuted)
      { r.counted s with store, log } = .ok ⟨⟩ t) : r.Booked s .done t := by
  have left : f.left s.clock s.store = store := by rw [FinishedAnalysis.left, recorded]
  have deliveries : store.deliveries = s.store.deliveries := by
    rw [← left]
    exact (f.left_frame s.clock s.store).2
  have written : store.Written := by
    rw [← left]
    exact reached.written.edits four (f.edits_left s.clock s.store)
  obtain ⟨_, _, -, -, task⟩ := FinishedAnalysis.recorded_eq_ok recorded
  obtain ⟨taskId, project, _, htask, hproject, -, -⟩ :=
    FinishedAnalysis.recordActivity_encodes task
  obtain ⟨row, readable⟩ := written.exists_activity? taskId
  have outcomeTask := (f.report.task_outcome f.allStepsExecuted).trans htask
  have outcomeProject : (f.report.outcome f.allStepsExecuted).project.uuid = .plain project := by
    rw [AnalysisReport.project_outcome, hproject]
  obtain ⟨failed, books⟩ :=
    books_attempt (s := { r.counted s with store, log }) outcomeTask outcomeProject readable
      attempted
  have before : Books {} s { r.counted s with store, log } :=
    (books_counted r s).trans (.restored deliveries)
  have rows : r.appended s = rowsOfNotices
      ((f.report.outcome f.allStepsExecuted).notices { r.counted s with store, log })
      { r.counted s with store, log } := by
    rw [Request.appended, notices_of_finished h, FinishedAnalysis.notices, recorded,
      Request.recorded, h]
    dsimp only
    rw [left]
    exact rowsOfNotices_of_bare _ rfl
  have accepted : r.IsAccepted .done := ⟨(isFor_of_finished h).1, rfl⟩
  have untold : r.told s = 0 := by rw [Request.told, issueChange?_of_finished h]
  refine ⟨failed, 0, ?_⟩
  rw [rows, untold, if_pos accepted]
  simpa using before.trans books

theorem booked_of_finished {f : FinishedAnalysis} (reached : Reached s.store)
    (four : s.clock.IsFourDigit) (h : r.finished? = some f)
    (answered : handle .webhooks r s = .ok response t) : r.Booked s response t := by
  obtain ⟨isFor, read⟩ := isFor_of_finished h
  have going : Route.analysisFinished.handle .webhooks r = handleFinished f :=
    withBody_of_read read _
  rw [handle_of_isFor isFor (by decide), going, orElse_apply] at answered
  cases recorded : f.recorded s.clock s.store with
  | error refused =>
    obtain ⟨failure, store⟩ := refused
    have stopped : handleFinished f (r.counted s) = .error failure { r.counted s with store } :=
      handleFinished_of_refused recorded
    rw [stopped] at answered
    dsimp only at answered
    split at answered
    · cases answered
      exact booked_of_refused h recorded
    · cases answered
  | ok store =>
    obtain ⟨log, finishing⟩ := handleFinished_of_recorded (s := r.counted s) recorded
    rw [finishing] at answered
    cases attempted : webhookTask.attempt (f.report.outcome f.allStepsExecuted)
        { r.counted s with store, log } with
    | ok _ u =>
      rw [attempted] at answered
      cases answered
      exact booked_of_recorded reached four h recorded attempted
    | error failure u =>
      rw [attempted] at answered
      have fatal := webhookTask.resilient_attempt _ _ _ _ attempted
      simp only [fatal, if_false, Bool.false_eq_true] at answered
      cases answered

theorem exists_route_of_change {action : IssueAction} {change : IssueChange}
    (h : r.issueChange? = some (action, change)) :
    ∃ route context what, r.IsFor route ∧ route ≠ .metrics ∧ route ≠ .analysisFinished ∧
      ∀ s, route.handle .webhooks r s =
        reactToIssues context what (action.react change.changes (change.context s.clock)) s := by
  unfold Request.issueChange? at h
  split at h
  · rename_i hpath
    split at h
    · rename_i hmethod
      obtain ⟨t, told, same⟩ := Option.map_eq_some_iff.1 h
      cases same
      refine ⟨_, .issueTransition, "transition", ⟨hpath, hmethod⟩, by decide, by decide,
        fun s => ?_⟩
      rw [Route.handle, withBody_of_read told]
      rfl
    · cases h
  · rename_i hpath
    split at h
    · rename_i hmethod
      obtain ⟨t, told, same⟩ := Option.map_eq_some_iff.1 h
      cases same
      refine ⟨_, .issueTypeChange, "type change", ⟨hpath, hmethod⟩, by decide, by decide,
        fun s => ?_⟩
      rw [Route.handle, withBody_of_read told]
      rfl
    · cases h
  · cases h

theorem booked_of_change {action : IssueAction} {change : IssueChange}
    (finished : r.finished? = none) (h : r.issueChange? = some (action, change))
    (answered : handle .webhooks r s = .ok response t) : r.Booked s response t := by
  obtain ⟨route, context, what, isFor, counted, other, going⟩ := exists_route_of_change h
  rw [handle_of_isFor isFor counted, orElse_apply, going] at answered
  have unaccepted : ¬ r.IsAccepted response := by
    intro accepted
    have same := isFor.1.symm.trans accepted.1.1
    exact other (Option.some.inj same)
  cases reacted : action.react change.changes (change.context s.clock) (r.counted s) with
  | error failure u =>
    have fatal := action.resilient_react _ _ _ _ _ reacted
    have stopped : reactToIssues context what
        (action.react change.changes (change.context (r.counted s).clock)) (r.counted s) =
          .error failure u := reactToIssues_of_fatal reacted fatal
    rw [stopped] at answered
    simp only [fatal, if_false, Bool.false_eq_true] at answered
    cases answered
  | ok n u =>
    have done : reactToIssues context what
        (action.react change.changes (change.context (r.counted s).clock)) (r.counted s) =
          .ok .done u := reactToIssues_of_ok reacted
    rw [done] at answered
    cases answered
    obtain ⟨issueFailed, books⟩ := IssueAction.books_react reacted
    have told : r.told s = n := by
      rw [Request.told, h]
      dsimp only
      rw [reacted]
    have rows : r.appended s = rowsOfNotices
        (action.told change.changes (change.context s.clock) (r.counted s)) (r.counted s) := by
      have same : (r.counted s).bare = s.bare := rfl
      rw [Request.appended, Request.notices, Request.recorded, finished, h, Request.counted,
        told_measured]
      exact (rowsOfNotices_of_bare _ same).symm
    refine ⟨0, issueFailed, ?_⟩
    rw [rows, told, if_neg unaccepted]
    simpa using (books_counted r s).trans books

theorem Settles.books (h : Settles s t) : Books {} s t := by
  rw [Settles] at h
  rw [h]
  exact .restored rfl

theorem exists_counted (r : Request) (s : Service) :
    ∃ u, Books {} s u ∧ (handle .webhooks r).after s = (answer r).after u := by
  by_cases counted : r.path ≠ Route.metrics.path
  · exact ⟨r.counted s, books_counted r s, after_handle_of_path_ne counted s⟩
  · exact ⟨s, .refl s, by rw [handle_eq, if_neg counted]⟩

theorem not_isAccepted_of_silent (finished : r.finished? = none)
    (answered : handle .webhooks r s = .ok response t) : ¬ r.IsAccepted response := by
  rintro ⟨isFor, status⟩
  have unread :
      (readBody "AnalysisFinishedRequest" FinishedAnalysis.read r.body).toOption = none := by
    rwa [Request.finished?, if_pos ⟨isFor.1, isFor.2⟩] at finished
  obtain ⟨refusal, refused⟩ := withBody_of_silent unread handleFinished
  have going : Route.analysisFinished.handle .webhooks r = pure (.refused refusal) := refused
  rw [handle_of_isFor isFor (by decide), going] at answered
  cases answered
  cases refusal <;> cases status

theorem booked_of_silent (finished : r.finished? = none) (change : r.issueChange? = none)
    (answered : handle .webhooks r s = .ok response t) : r.Booked s response t := by
  obtain ⟨u, counted, left⟩ := exists_counted r s
  have settles : Settles u ((answer r).after u) := by
    rcases after_answer_cases r u with ⟨route, hpath, hmethod, same⟩ | ⟨-, unchanged⟩
    · rw [same]
      exact settles_of_silent finished change hpath hmethod u
    · rw [unchanged]
      exact .refl u
  have silent : r.appended s = [] := by
    rw [Request.appended, Request.notices, finished, change]
    rfl
  have untold : r.told s = 0 := by rw [Request.told, change]
  rw [after_ok answered] at left
  rw [← left] at settles
  refine ⟨0, 0, ?_⟩
  rw [silent, untold, if_neg (not_isAccepted_of_silent finished answered)]
  exact counted.trans settles.books

theorem booked_of_answered (reached : Reached s.store) (four : s.clock.IsFourDigit)
    (answered : handle .webhooks r s = .ok response t) : r.Booked s response t := by
  cases finished : r.finished? with
  | some f => exact booked_of_finished reached four finished answered
  | none =>
    cases change : r.issueChange? with
    | some told => exact booked_of_change finished change answered
    | none => exact booked_of_silent finished change answered

end Requests

structure Ledger where
  persisted : Nat := 0
  accepted : Nat := 0
  told : Nat := 0

def Ledger.adding (l : Ledger) (r : Request) (s : Service) (response : Response) : Ledger where
  persisted := l.persisted + (r.appended s).length
  accepted := l.accepted + if r.IsAccepted response then 1 else 0
  told := l.told + r.told s

inductive Runs : Service → Ledger → Prop
  | fresh {s : Service} (store : s.store = {}) (metrics : s.metrics = {}) (calls : s.calls = []) :
      Runs s {}
  | world {s t : Service} {ledger : Ledger} (run : Runs s ledger) (store : t.store = s.store)
      (metrics : t.metrics = s.metrics) (calls : t.calls = s.calls) : Runs t ledger
  | request {s t : Service} {ledger : Ledger} {response : Response} (r : Request)
      (run : Runs s ledger) (four : s.clock.IsFourDigit)
      (answered : handle .webhooks r s = .ok response t)
      (timely : s.network.Timely s.calls.length s.timer (t.calls.drop s.calls.length)) :
      Runs t (ledger.adding r s response)

structure Service.Balances (s : Service) (ledger : Ledger) : Prop where
  called : s.metrics.deliveries.count true + s.metrics.deliveries.count false = s.calls.length
  timed : s.metrics.durations.length = s.calls.length
  persisted : s.metrics.pruned + s.store.countDeliveries none = ledger.persisted
  accepted : s.metrics.decided .analysis = ledger.accepted
  failed : s.metrics.decisions.count (.analysis, .error) =
    s.metrics.errors.count .analysisWebhooks
  tasks : s.metrics.errors.count .analysisWebhooks = s.metrics.taskErrors.total
  issueFailed : s.metrics.decisions.count (.issue, .error) =
    s.metrics.errors.count .issueWebhooks
  told : s.metrics.decisions.count (.issue, .dispatched) = ledger.told

section Runs

variable {r : Request} {s t : Service} {ledger : Ledger} {response : Response}

theorem Runs.reached (h : Runs s ledger) : Reached s.store := by
  induction h with
  | fresh store => exact store ▸ .empty
  | world run store _ _ ih => exact store ▸ ih
  | request r run four answered _ ih =>
    rw [← after_ok answered]
    exact .request r ih four

theorem Service.Balances.request (h : s.Balances ledger) (booked : r.Booked s response t)
    (timely : s.network.Timely s.calls.length s.timer (t.calls.drop s.calls.length)) :
    t.Balances (ledger.adding r s response) := by
  obtain ⟨failed, issueFailed, books⟩ := booked
  obtain ⟨new, calls, -, counted⟩ := books.calls
  rw [calls, List.drop_left] at timely
  obtain ⟨observed, timed⟩ := counted timely
  have judged := books.judged
  constructor
  case called =>
    have before := h.called
    rw [Metrics.observed, Metrics.observed] at observed
    rw [calls, List.length_append]
    omega
  case timed => rw [timed, calls, List.length_append, h.timed]
  case persisted =>
    have rows := books.rows
    have before := h.persisted
    rw [Store.countDeliveries] at before ⊢
    rw [rows, before]
    rfl
  case accepted => rw [judged.accepted, h.accepted]; rfl
  case failed => rw [judged.failed, judged.contained, h.failed]
  case tasks => rw [judged.contained, judged.tasks, h.tasks]
  case issueFailed => rw [judged.issueFailed, judged.issueContained, h.issueFailed]
  case told => rw [judged.told, h.told]; rfl

end Runs

theorem metrics_balance :
    (∀ (r : Request) (s t : Service) (failure : Failure),
      handle .webhooks r s = .error failure t → failure = .cancelled) ∧
    ∀ (s : Service) (ledger : Ledger), Runs s ledger → s.Balances ledger := by
  refine ⟨fun r s t failure failed => ?_, fun s ledger run => ?_⟩
  · have fatal := resilient_handle r s failure t failed
    simpa [Failure.isOrdinary] using fatal
  induction run with
  | fresh store metrics calls =>
    constructor <;> simp [store, metrics, calls, Tally.count, Tally.total, Metrics.decided,
      Store.countDeliveries]
  | @world s t ledger run store metrics calls ih =>
    obtain ⟨called, timed, persisted, accepted, failed, tasks, issueFailed, told⟩ := ih
    constructor <;> simpa only [store, metrics, calls]
  | request r run four answered timely ih =>
    exact ih.request (booked_of_answered run.reached four answered) timely

theorem timely_default (earlier : Nat) (calls : List Call) :
    ({} : Network).Timely earlier 0 calls := by
  induction calls generalizing earlier with
  | nil => trivial
  | cons call rest ih =>
    have endpoint : ({} : Network).endpoint earlier call.url = {} := rfl
    rw [Network.Timely, endpoint]
    exact ⟨⟨0, by decide +kernel⟩, ih (earlier + 1)⟩

theorem puts_setting (key value : String) :
    (setting key value).Puts ⟨.plain key, .one (.plain value), none⟩ :=
  puts_sending ⟨.plain key, .one (.plain value), none⟩

theorem handle_setting (key value : String) {s : Service} (clock : s.clock = noon) :
    handle .webhooks (setting key value) s = .ok .done { (setting key value).counted s with
      store := { s.store with properties := (s.store.withoutProperty key none).properties ++
        [⟨key, none, some value, "2026-10-18T12:00:00.000000Z"⟩] } } := by
  refine handle_of_puts (puts_setting key value) ?_
  rw [clock]
  exact apply_noon key value none s.store

theorem runs_setting (key value : String) {s : Service} {ledger : Ledger} (run : Runs s ledger)
    (clock : s.clock = noon) :
    Runs { (setting key value).counted s with
      store := { s.store with properties := (s.store.withoutProperty key none).properties ++
        [⟨key, none, some value, "2026-10-18T12:00:00.000000Z"⟩] } } ledger := by
  have path : Route.ofPath? (setting key value).path = some .setSetting := ofPath?_path .setSetting
  have finished : (setting key value).finished? = none := by
    rw [Request.finished?, path]
    rfl
  have change : (setting key value).issueChange? = none := by
    rw [Request.issueChange?, path]
  have same : ledger.adding (setting key value) s .done = ledger := by
    have other : ¬ (setting key value).IsAccepted .done := by
      rintro ⟨⟨reports, -⟩, -⟩
      rw [path] at reports
      cases reports
    rw [Ledger.adding, Request.appended, Request.notices, Request.told, finished, change,
      if_neg other]
    rfl
  have answered := handle_setting key value clock
  have timely : s.network.Timely s.calls.length s.timer (s.calls.drop s.calls.length) := by
    rw [List.drop_length]
    trivial
  rw [← same]
  exact .request _ run (clock ▸ isFourDigit_noon) answered timely

def webhookService : Service where
  store := {
    properties := [⟨"sonar.webhooks.global", none, some "h", "2026-10-18T12:00:00.000000Z"⟩,
      ⟨"sonar.webhooks.global.h.name", none, some "h", "2026-10-18T12:00:00.000000Z"⟩,
      ⟨"sonar.webhooks.global.h.url", none, some "http://h", "2026-10-18T12:00:00.000000Z"⟩] }
  metrics := (((({} : Metrics).countRequest Route.setSetting.path).countRequest
    Route.setSetting.path).countRequest Route.setSetting.path)

theorem runs_webhookService : Runs webhookService {} := by
  have global := runs_setting "sonar.webhooks.global" "h" (.fresh (s := {}) rfl rfl rfl) rfl
  have name := runs_setting "sonar.webhooks.global.h.name" "h" global rfl
  exact runs_setting "sonar.webhooks.global.h.url" "http://h" name rfl

theorem isFor_reportingSteps (allStepsExecuted : Bool) :
    (reportingSteps allStepsExecuted).IsFor .analysisFinished :=
  ⟨ofPath?_path .analysisFinished, rfl⟩

theorem tells_reportingSteps :
    Tells FinishedAnalysis.read (reportingSteps true).body (reportedSteps true) :=
  ⟨_, Json.ofText?_write (by simp), by rfl⟩

theorem answers_reportingSteps : ∃ t, (reportingSteps true).Answers webhookService 204 t := by
  let s := (reportingSteps true).counted webhookService
  have stored : ((reportedSteps true).recorded s.clock s.store).isOk := by decide +kernel
  cases recorded : (reportedSteps true).recorded s.clock s.store with
  | error refused =>
    rw [recorded] at stored
    cases stored
  | ok store =>
    have record : (reportedSteps true).record s = .ok ⟨⟩ { s with store } := by
      rw [FinishedAnalysis.record_apply, recorded]
    exact answers_recorded Network.quiet_default (isFor_reportingSteps true) tells_reportingSteps
      record

theorem exists_error_of_run {α : Type} {x : Action α} {s : Service} (h : (x.run' s).isNone) :
    ∃ failure t, x s = .error failure t := by
  cases result : x s with
  | error failure t => exact ⟨failure, t, rfl⟩
  | ok a t =>
    have same : x.run' s = EStateM.run' (fun _ => x s) s := rfl
    rw [same, result] at h
    cases h

theorem exists_error_reportingSteps :
    let s : Service := { webhookService with
      network := { endpoint := fun _ _ => { fault := some .cancelled } } }
    ∃ failure t, handle .webhooks (reportingSteps true) s = .error failure t := by
  intro s
  have stopped : ((orElse (handleFinished (reportedSteps true)) fun _ =>
      pure (.refused .broken)).run' ((reportingSteps true).counted s)).isNone := by
    decide +kernel
  rw [handle_of_isFor (isFor_reportingSteps true) (by decide), Route.handle,
    withBody_of_tells tells_reportingSteps]
  exact exists_error_of_run stopped

theorem metrics_balance_reported :
    (∃ s t, handle .webhooks (reportingSteps true) s = .error .cancelled t) ∧
    ∃ s ledger, Runs s ledger ∧ s.Balances ledger ∧
      s.calls.length = 1 ∧ ledger.persisted = 1 ∧ ledger.accepted = 1 := by
  obtain ⟨failure, stopping, stopped⟩ := exists_error_reportingSteps
  have cancelled := metrics_balance.1 _ _ _ _ stopped
  obtain ⟨t, response, answered, accepted⟩ := answers_reportingSteps
  have finished := finished?_reportingSteps true
  have timely : webhookService.network.Timely webhookService.calls.length webhookService.timer
      (t.calls.drop webhookService.calls.length) := timely_default _ _
  have run := runs_webhookService.request _ isFourDigit_noon answered timely
  have called : t.calls.length = 1 := by
    rw [← after_ok answered, calls_of_bare (bare_after_finished finished _), Request.recorded,
      finished]
    decide +kernel
  have persisted : ((reportingSteps true).appended webhookService).length = 1 := by
    rw [Request.appended, Request.notices, Request.recorded, finished]
    decide +kernel
  refine ⟨⟨_, stopping, cancelled ▸ stopped⟩, t, _, run, metrics_balance.2 _ _ run, called, ?_, ?_⟩
  · rw [Ledger.adding, persisted]
  · rw [Ledger.adding, if_pos ⟨isFor_reportingSteps true, accepted⟩]

end AnalysisWebhooks
