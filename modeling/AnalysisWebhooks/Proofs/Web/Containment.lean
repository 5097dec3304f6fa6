import AnalysisWebhooks.Proofs.Json.RoundTrip
import AnalysisWebhooks.Proofs.Service.Containing
import AnalysisWebhooks.Proofs.Web.Attribution

namespace AnalysisWebhooks

open AnalysisWebhooks.Action

def Tells {α : Type} (read : Json → Check α) (body : String) (a : α) : Prop :=
  ∃ members, Json.ofText? body = some (.object members) ∧ read (.object members) = .ok a

def Request.IsFor (r : Request) (route : Route) : Prop :=
  Route.ofPath? r.path = some route ∧ r.method = route.method

instance (r : Request) (route : Route) : Decidable (r.IsFor route) :=
  inferInstanceAs (Decidable (_ ∧ _))

def Request.Answers (r : Request) (s : Service) (status : Nat) (t : Service) : Prop :=
  ∃ response, handle .webhooks r s = .ok response t ∧ response.status = status

def Request.counted (r : Request) (s : Service) : Service :=
  { s with metrics := s.metrics.countRequest r.path }

section Bodies

variable {α : Type} (title : String) (read : Json → Check α) {body : String}

theorem readBody_of_not_object (h : ∀ members, Json.ofText? body ≠ some (.object members)) :
    ∃ message, readBody title read body = .error (.badRequest message) := by
  simp only [ne_eq, ← bodyDocument_eq_object] at h
  unfold readBody
  cases hbody : bodyDocument body with
  | error refusal =>
    unfold bodyDocument at hbody
    split at hbody
    · cases hbody
    · split at hbody
      · cases hbody
      · cases hbody
        exact ⟨_, rfl⟩
  | ok j =>
    cases j with
    | object members => exact absurd hbody (h members)
    | _ => exact ⟨_, rfl⟩

theorem readBody_cases (body : String) :
    (∃ a, readBody title read body = .ok a ∧ Tells read body a) ∨
    (¬ ∃ a, Tells read body a) ∧
      ∃ refusal, readBody title read body = .error refusal ∧ refusal.status = 400 := by
  by_cases h : ∃ members, Json.ofText? body = some (.object members)
  · obtain ⟨members, hbody⟩ := h
    have hread := readBody_of_object title read hbody
    cases hvalue : read (.object members) with
    | ok a =>
      rw [hvalue] at hread
      exact .inl ⟨a, hread, members, hbody, hvalue⟩
    | bad faults =>
      rw [hvalue] at hread
      refine .inr ⟨fun ⟨a, others, hothers, ha⟩ => ?_, _, hread, rfl⟩
      rw [hbody] at hothers
      cases hothers
      rw [hvalue] at ha
      cases ha
  · obtain ⟨message, hrefused⟩ := readBody_of_not_object title read
      fun members hmembers => h ⟨members, hmembers⟩
    exact .inr ⟨fun ⟨_, members, hmembers, _⟩ => h ⟨members, hmembers⟩, _, hrefused, rfl⟩

theorem readBody_of_tells {read : Json → Check α} {a : α} (h : Tells read body a) :
    readBody title read body = .ok a := by
  obtain ⟨members, hbody, hread⟩ := h
  rw [readBody_of_object title read hbody, hread]

end Bodies

theorem ok_reactToIssues {s : Service} (quiet : s.network.Quiet) (context : ErrorContext)
    (what : String) {reaction : Action Nat} (h : Contained (·.network.Quiet) reaction) :
    ∃ t, reactToIssues context what reaction s = .ok .done t := by
  obtain ⟨n, t, reacted⟩ : ∃ n t, orElse reaction (fun _ => do
      measure (.countError context)
      log .error ("Exception raised when notifying issue " ++ what)
      return 0) s = .ok n t := ok_orElse h (fun _ _ => ⟨_, _, rfl⟩) quiet
  exact ⟨t, bind_ok reacted⟩

section Handling

variable {r : Request} {s t : Service} {route : Route}

theorem handle_of_isFor (h : r.IsFor route) (hroute : route ≠ .metrics) (s : Service) :
    handle .webhooks r s =
      orElse (route.handle .webhooks r) (fun _ => pure (.refused .broken)) (r.counted s) := by
  have hpath : r.path ≠ Route.metrics.path := by
    intro hpath
    have hmetrics : Route.ofPath? Route.metrics.path = some .metrics := by decide
    rw [Request.IsFor, hpath, hmetrics, Option.some.injEq] at h
    exact hroute h.1.symm
  rw [handle_eq, if_pos hpath, bind_ok (measure_apply ..), answer, h.1]
  dsimp only
  rw [if_pos h.2]
  rfl

theorem handle_ok {response : Response} (h : r.IsFor route) (hroute : route ≠ .metrics)
    (hok : route.handle .webhooks r (r.counted s) = .ok response t) :
    handle .webhooks r s = .ok response t := by
  rw [handle_of_isFor h hroute, orElse_apply, hok]

theorem handle_error {failure : Failure} (h : r.IsFor route) (hroute : route ≠ .metrics)
    (ordinary : failure.isOrdinary = true)
    (herror : route.handle .webhooks r (r.counted s) = .error failure t) :
    handle .webhooks r s = .ok (.refused .broken) t := by
  rw [handle_of_isFor h hroute, orElse_apply, herror]
  dsimp only
  rw [if_pos ordinary]
  rfl

end Handling

structure Request.Refuses {α : Type} (r : Request) (s : Service) (read : Json → Check α) :
    Prop where
  bad : (∃ t, r.Answers s 400 t) ↔ ¬ ∃ a, Tells read r.body a
  counted : ∀ t, r.Answers s 400 t → t = r.counted s

section Answers

variable {α : Type} {title : String} {read : Json → Check α} {go : α → Action Response}
  {r : Request} {s : Service} {route : Route}

theorem Request.Answers.unique {status status' : Nat} {t t' : Service}
    (h : r.Answers s status t) (h' : r.Answers s status' t') : status = status' ∧ t = t' := by
  obtain ⟨response, hr, rfl⟩ := h
  obtain ⟨response', hr', rfl⟩ := h'
  rw [hr] at hr'
  cases hr'
  exact ⟨rfl, rfl⟩

theorem withBody_of_tells {a : α} (h : Tells read r.body a) :
    withBody title read r.body go = go a := by
  rw [withBody, readBody_of_tells title h]

theorem refuses_of_answers (hfor : r.IsFor route) (hroute : route ≠ .metrics)
    (hgo : route.handle .webhooks r = withBody title read r.body go)
    (answers : ∀ a, Tells read r.body a → ∃ status t, status ≠ 400 ∧ r.Answers s status t) :
    r.Refuses s read := by
  rcases readBody_cases title read r.body with ⟨a, -, tells⟩ | ⟨silent, refusal, hread, hstatus⟩
  · obtain ⟨status, t, hstatus, ht⟩ := answers a tells
    have never (u : Service) : ¬ r.Answers s 400 u := fun hu => hstatus (ht.unique hu).1
    exact ⟨iff_of_false (fun ⟨u, hu⟩ => never u hu) (fun h => h ⟨a, tells⟩),
      fun u hu => absurd hu (never u)⟩
  · have refused : r.Answers s 400 (r.counted s) := by
      refine ⟨.refused refusal, handle_ok hfor hroute ?_, hstatus⟩
      rw [hgo, withBody, hread]
      rfl
    exact ⟨iff_of_true ⟨_, refused⟩ silent, fun u hu => (hu.unique refused).2⟩

end Answers

section Requests

variable {r : Request} {s : Service} (quiet : s.network.Quiet)
include quiet

theorem answers_transition (h : r.IsFor .issueTransition) {t : IssueTransition}
    (tells : Tells IssueTransition.read r.body t) : ∃ u, r.Answers s 204 u := by
  obtain ⟨u, hu⟩ := ok_reactToIssues (s := r.counted s) quiet .issueTransition "transition"
    (contained_onTransition t.change.changes t.transition (t.change.context s.clock))
  refine ⟨u, .done, handle_ok h (by decide) ?_, rfl⟩
  rw [Route.handle, withBody_of_tells tells]
  exact hu

theorem answers_typeChange (h : r.IsFor .issueType) {t : IssueTypeChange}
    (tells : Tells IssueTypeChange.read r.body t) : ∃ u, r.Answers s 204 u := by
  obtain ⟨u, hu⟩ := ok_reactToIssues (s := r.counted s) quiet .issueTypeChange "type change"
    (contained_onTypeChange t.change.changes t.type (t.change.context s.clock))
  refine ⟨u, .done, handle_ok h (by decide) ?_, rfl⟩
  rw [Route.handle, withBody_of_tells tells]
  exact hu

theorem answers_recorded (h : r.IsFor .analysisFinished) {f : FinishedAnalysis}
    (tells : Tells FinishedAnalysis.read r.body f) {t : Service}
    (recorded : f.record (r.counted s) = .ok ⟨⟩ t) : ∃ u, r.Answers s 204 u := by
  have left : t = { r.counted s with store := f.left s.clock s.store } :=
    (after_ok recorded).symm.trans (f.after_record _)
  have calm : t.network.Quiet := by
    rw [left]
    exact quiet
  obtain ⟨u, hu⟩ := ok_finish
    (s := { t with
      log := t.log ++ [⟨.debug, "Compute task " ++ f.report.taskId.shown ++ " finished"⟩] })
    calm f.report f.allStepsExecuted
  refine ⟨u, .done, handle_ok h (by decide) ?_, rfl⟩
  rw [Route.handle, withBody_of_tells tells, handleFinished, bind_ok recorded, log_bind]
  exact bind_ok hu

omit quiet in
theorem answers_unrecorded (h : r.IsFor .analysisFinished) {f : FinishedAnalysis}
    (tells : Tells FinishedAnalysis.read r.body f) {failure : Failure} {t : Service}
    (refused : f.record (r.counted s) = .error failure t) :
    r.Answers s 500 t ∧ t.calls = s.calls := by
  have left : f.record.after (r.counted s) = t := by
    rw [after, refused]
  have stopped : handleFinished f (r.counted s) = .error failure t := by
    rw [handleFinished, bind_apply, refused]
  refine ⟨⟨.refused .broken,
    handle_error h (by decide) (contained_record f _ _ _ trivial refused) ?_,
    rfl⟩, ?_⟩
  · rw [Route.handle, withBody_of_tells tells]
    exact stopped
  · rw [← left, f.after_record]
    rfl

end Requests

theorem ofParts_outcome (report : AnalysisReport) (allStepsExecuted : Bool) :
    ProjectAnalysis.ofParts ⟨report.taskId, .ofSteps allStepsExecuted⟩ report.project report.branch
      report.analysis (if allStepsExecuted then report.gate else none) report.properties =
        .ok (report.outcome allStepsExecuted) := by
  cases allStepsExecuted with
  | true => exact dif_pos fun _ => rfl
  | false => rfl

theorem failures_contained (r : Request) (s : Service) (quiet : s.network.Quiet) :
    (r.IsFor .issueTransition → r.Refuses s IssueTransition.read ∧
      ((∃ t, Tells IssueTransition.read r.body t) → ∃ u, r.Answers s 204 u)) ∧
    (r.IsFor .issueType → r.Refuses s IssueTypeChange.read ∧
      ((∃ t, Tells IssueTypeChange.read r.body t) → ∃ u, r.Answers s 204 u)) ∧
    (r.IsFor .analysisFinished → r.Refuses s FinishedAnalysis.read ∧
      ∀ f, Tells FinishedAnalysis.read r.body f →
        (∀ failure t, f.record (r.counted s) = .error failure t →
          r.Answers s 500 t ∧ t.calls = s.calls) ∧
        ∀ t, f.record (r.counted s) = .ok ⟨⟩ t → ∃ u, r.Answers s 204 u) ∧
    ∀ (report : AnalysisReport) (allStepsExecuted : Bool),
      ProjectAnalysis.ofParts ⟨report.taskId, .ofSteps allStepsExecuted⟩ report.project
        report.branch report.analysis (if allStepsExecuted then report.gate else none)
        report.properties = .ok (report.outcome allStepsExecuted) := by
  refine ⟨fun h => ⟨?_, fun ⟨t, tells⟩ => answers_transition quiet h tells⟩,
    fun h => ⟨?_, fun ⟨t, tells⟩ => answers_typeChange quiet h tells⟩, fun h => ⟨?_, fun f tells =>
      ⟨fun failure t refused => answers_unrecorded h tells refused,
        fun t recorded => answers_recorded quiet h tells recorded⟩⟩, ofParts_outcome⟩
  · refine refuses_of_answers h (by decide) rfl fun t tells => ?_
    obtain ⟨u, hu⟩ := answers_transition quiet h tells
    exact ⟨204, u, by decide, hu⟩
  · refine refuses_of_answers h (by decide) rfl fun t tells => ?_
    obtain ⟨u, hu⟩ := answers_typeChange quiet h tells
    exact ⟨204, u, by decide, hu⟩
  · refine refuses_of_answers h (by decide) rfl fun f tells => ?_
    cases record : f.record (r.counted s) with
    | ok _ t =>
      obtain ⟨u, hu⟩ := answers_recorded quiet h tells record
      exact ⟨204, u, by decide, hu⟩
    | error failure t => exact ⟨500, t, by decide, (answers_unrecorded h tells record).1⟩

theorem failures_contained_resolving :
    let refused := sending .issueTransition (.array [])
    ({} : Network).Quiet ∧ resolvingIssue.IsFor .issueTransition ∧
    (∃ t, Tells IssueTransition.read resolvingIssue.body t) ∧
    (∃ u, resolvingIssue.Answers { store := hookedStore } 204 u) ∧
    refused.IsFor .issueTransition ∧ ¬ (∃ t, Tells IssueTransition.read refused.body t) ∧
    refused.Answers { store := hookedStore } 400
      (refused.counted { store := hookedStore }) := by
  intro refused
  have resolvingFor : resolvingIssue.IsFor .issueTransition := by decide +kernel
  have refusedFor : refused.IsFor .issueTransition := by decide +kernel
  have told : ∃ t, Tells IssueTransition.read resolvingIssue.body t :=
    ⟨⟨⟨issuesOf ["b"], some "user"⟩, "resolve"⟩, _, Json.ofText?_write (by simp), rfl⟩
  have silent : ¬ ∃ t, Tells IssueTransition.read refused.body t := by
    rintro ⟨t, members, hbody, -⟩
    have array : Json.ofText? refused.body = some (.array []) := Json.ofText?_write (.array nofun)
    rw [array] at hbody
    cases hbody
  have resolved := (failures_contained resolvingIssue { store := hookedStore }
    Network.quiet_default).1
    resolvingFor
  have refuses := (failures_contained refused { store := hookedStore } Network.quiet_default).1
    refusedFor
  obtain ⟨u, hu⟩ := refuses.1.bad.2 silent
  have counted := refuses.1.counted u hu
  exact ⟨Network.quiet_default, resolvingFor, told, resolved.2 told, refusedFor, silent,
    counted ▸ hu⟩

end AnalysisWebhooks
