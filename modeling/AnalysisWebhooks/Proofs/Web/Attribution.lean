import AnalysisWebhooks.Proofs.Service.Effect
import AnalysisWebhooks.Proofs.Service.ShortReport
import AnalysisWebhooks.Proofs.Web.Links

namespace AnalysisWebhooks

open AnalysisWebhooks.Action Calendar

def Request.issueChange? (r : Request) : Option (IssueAction × IssueChange) :=
  match Route.ofPath? r.path with
  | some .issueTransition =>
    if r.method = Route.issueTransition.method then
      (readBody "IssueTransitionRequest" IssueTransition.read r.body).toOption.map fun t =>
        (.transition t.transition, t.change)
    else none
  | some .issueType =>
    if r.method = Route.issueType.method then
      (readBody "IssueTypeRequest" IssueTypeChange.read r.body).toOption.map fun t =>
        (.typeChange t.type, t.change)
    else none
  | _ => none

theorem issueChange?_sending {members : Json.Members} (plain : (Json.object members).Plain) :
    (sending .issueTransition (.object members)).issueChange? =
      (IssueTransition.read (.object members)).value?.map fun t =>
        (.transition t.transition, t.change) := by
  have hroute : Route.ofPath? (sending .issueTransition (.object members)).path =
      some .issueTransition := ofPath?_path .issueTransition
  have hmethod : (sending .issueTransition (.object members)).method =
      Route.issueTransition.method := rfl
  rw [Request.issueChange?, hroute]
  dsimp only
  rw [if_pos hmethod, readBody_sending plain]
  cases IssueTransition.read (.object members) <;> rfl

section Requests

variable {r : Request} {action : IssueAction} {change : IssueChange}

theorem bare_after_reactToIssues (context : ErrorContext) (what : String) (reaction : Action Nat)
    (s : Service) :
    ((reactToIssues context what reaction).after s).bare = (reaction.after s).bare := by
  unfold reactToIssues
  rw [after_bind_pure]
  exact bare_after_orElse (fun _ _ => rfl) s

theorem bare_after_answer (h : r.issueChange? = some (action, change)) (s : Service) :
    ((answer r).after s).bare =
      ((action.react change.changes (change.context s.clock)).after s).bare := by
  unfold Request.issueChange? at h
  split at h
  · rename_i hpath
    split at h
    · rename_i hmethod
      obtain ⟨t, told, same⟩ := Option.map_eq_some_iff.1 h
      cases same
      rw [after_answer hpath hmethod, Route.handle, withBody_of_read told]
      exact bare_after_reactToIssues _ _ _ s
    · cases h
  · rename_i hpath
    split at h
    · rename_i hmethod
      obtain ⟨t, told, same⟩ := Option.map_eq_some_iff.1 h
      cases same
      rw [after_answer hpath hmethod, Route.handle, withBody_of_read told]
      exact bare_after_reactToIssues _ _ _ s
    · cases h
  · cases h

theorem bare_after_handle (h : r.issueChange? = some (action, change)) (s : Service) :
    ∃ metrics, ((handle .webhooks r).after s).bare =
      ((action.react change.changes (change.context s.clock)).after { s with metrics }).bare := by
  obtain ⟨metrics, answered⟩ := after_handle r s
  rw [answered]
  exact ⟨metrics, bare_after_answer h _⟩

theorem after_handle_of_askable {s : Service} (h : r.issueChange? = some (action, change))
    (counts : action.Counts change.changes (change.context s.clock) s)
    (askable : change.changes.Askable s.store)
    (readable : s.store.Readable (change.changes.roots s.store)) :
    ((handle .webhooks r).after s).bare =
      ((tellAll (change.changes.notices s.store)).after s).bare := by
  obtain ⟨metrics, hmetrics⟩ := bare_after_handle h s
  have counts : action.Counts change.changes (change.context s.clock) { s with metrics } :=
    ⟨counts.enabled, counts.issues, counts.login, counts.meaningful⟩
  have told : ((tellAll (change.changes.notices s.store)).after { s with metrics }).bare =
      ((tellAll (change.changes.notices s.store)).after s).bare := (blind_tellAll _).bare_after rfl
  rw [hmetrics]
  exact (IssueAction.react_of_askable counts askable readable).trans told

end Requests

theorem Reached.keyed {s : Store} (h : Reached s) : s.Keyed := by
  induction h with
  | empty => exact .empty
  | @request s r _ _ ih => exact ih.edits (edits_handle r s)

namespace FinishedAnalysis

variable {f : FinishedAnalysis} {b : Branch} {info : AnalysisInfo} {main : String}

def notice (f : FinishedAnalysis) (b : Branch) (info : AnalysisInfo) (main : String)
    (s : Store) : Notice where
  configuration := s.configurationFor (some main)
  subject := ⟨main, some f.report.taskId.shown, some info.uuid⟩
  analysis := {
    task := ⟨f.report.taskId, .success⟩
    project := f.report.project
    branch := some ⟨false, some (f.branchKey b), .short⟩
    analysis := none
    gate := none
    properties := []
    gated := by simp }

def issueDocument (f : FinishedAnalysis) (b : Branch) (server : Server) (now : Moment) : Json :=
  let p := f.report.project
  .object [("serverUrl", .text server.url), ("taskId", .text f.report.taskId),
    ("status", .text "SUCCESS"), ("changedAt", .text now.publicText),
    ("project", .object [("key", .text p.key), ("name", .text p.name),
      ("url", .text (server.projectLink p.key.shown))]),
    ("branch", .object [("name", .text (f.branchKey b)), ("type", .text "SHORT"),
      ("isMain", .bool false),
      ("url", .text (server.branchLink p.key.shown ⟨false, some (f.branchKey b), .short⟩))]),
    ("properties", .object [])]

theorem document_notice (f : FinishedAnalysis) (b : Branch) (info : AnalysisInfo) (main : String)
    (s : Store) (server : Server) (now : Moment) :
    (f.notice b info main s).analysis.document server now = f.issueDocument b server now := rfl

theorem leads_after {s : Service} {r : Request} {t : Store} (reached : Reached s.store)
    (reports : r.finished? = some f) (accepted : f.recorded s.clock s.store = .ok t)
    (short : f.IsShort b info main) :
    ∃ snapshot activity, ((handle .webhooks r).after s).store.Leads (f.component main)
        (f.branchRow b main) snapshot activity ∧
      snapshot.uuid = info.uuid.shown ∧ storedDate info.date = .ok snapshot.createdAt ∧
      activity.uuid = f.report.taskId.shown ∧ activity.status = TaskStatus.success.name := by
  obtain ⟨snapshot, activity, leads, told⟩ :=
    short.leads reached.keyed reached.grown.linked accepted
  have frame := (tends_handle r s).store
  rw [Request.store_recorded reports accepted] at frame
  exact ⟨snapshot, activity, leads.others frame, told⟩

theorem notices_after {s : Service} {r : Request} {t store : Store} {c : ChangeSet}
    (reached : Reached s.store) (four : s.clock.IsFourDigit) (reports : r.finished? = some f)
    (accepted : f.recorded s.clock s.store = .ok t) (short : f.IsShort b info main)
    (dated : info.date.IsFourDigit) (hstore : store = ((handle .webhooks r).after s).store)
    (issues : c.IsOf f.report.project.uuid.shown) :
    c.Askable store ∧ store.Readable (c.roots store) ∧
      c.notices store = [f.notice b info main store] := by
  obtain ⟨snapshot, activity, leads, huuid, hdate, htask, hstatus⟩ :=
    leads_after reached reports accepted short
  rw [← hstore] at leads
  have written : store.Written := by
    rw [hstore]
    exact (Reached.request r reached four).written
  have issues : c.IsOf (f.component main).uuid := issues
  have rooted := issues.mem_roots_iff leads rfl rfl
  have hnotice : store.notice? (f.branchRow b main) = some (f.notice b info main store) := by
    have kept := short.kept accepted
    rw [leads.notice?_eq hstatus, htask, huuid, kept.task, kept.analysis]
    dsimp only [component, branchRow]
    rw [kept.uuid, kept.key, kept.name, kept.branch]
    rfl
  refine ⟨issues.askable leads rfl rfl, written.readable_iff.2 ?_,
    issues.notices_eq leads rfl rfl rfl hnotice⟩
  -- the only last analysis that is looked up is the one that was reported
  intro row hrow last hlast marked hcomponent
  rw [leads.shortBranchRows_eq rfl rooted, List.mem_singleton] at hrow
  have mem : last ∈ lastRows (f.component main).uuid store.snapshots := by
    refine List.mem_filter.2 ⟨hlast, ?_⟩
    rw [SnapshotRow.isLastOf, marked, hcomponent, hrow, Bool.and_true]
    exact decide_eq_true rfl
  rw [leads.snapshots, List.mem_singleton] at mem
  rw [mem]
  exact isDated_storedDate hdate dated

end FinishedAnalysis

theorem issues_told_of_report {s u : Service} {r q : Request} {f : FinishedAnalysis} {b : Branch}
    {info : AnalysisInfo} {main : String} {action : IssueAction} {change : IssueChange}
    (reached : Reached s.store) (four : s.clock.IsFourDigit) (reports : r.finished? = some f)
    (accepted : ∃ t, f.recorded s.clock s.store = .ok t) (short : f.IsShort b info main)
    (dated : info.date.IsFourDigit) (next : u.store = ((handle .webhooks r).after s).store)
    (enabled : (u.store.configurationFor (some main)).isEnabled = true)
    (tells : q.issueChange? = some (action, change))
    (counts : action.Counts change.changes (change.context u.clock) u)
    (issues : ∀ i ∈ change.changes.issues, i.component = f.report.project.uuid)
    (unnamed : change.changes.components = []) :
    let configuration := u.store.configurationFor (some main)
    let subject : Subject := ⟨main, some f.report.taskId.shown, some info.uuid⟩
    (∃ lookup target, change.changes.lookUp u.store = .ok (some lookup) ∧
      lookup.targets = [(configuration, target)] ∧ target.subject = subject ∧
      target.outcome.document u.server u.clock = f.issueDocument b u.server u.clock) ∧
    (configuration.webhooks subject = [] → ((handle .webhooks q).after u).calls = u.calls) ∧
    (configuration.webhooks subject ≠ [] →
      ∃ told, told ≠ [] ∧ told <+: configuration.webhooks subject ∧
        ((handle .webhooks q).after u).calls = u.calls ++ told.map (·.request
          ⟨f.report.project.key.shown, (f.issueDocument b u.server u.clock).write⟩
          u.settings.timeoutSeconds)) := by
  intro configuration subject
  obtain ⟨t, accepted⟩ := accepted
  have only : change.changes.IsOf f.report.project.uuid.shown :=
    ⟨counts.issues, fun i hi => (issues i hi).trans (short.kept accepted).uuid.symm, unnamed⟩
  obtain ⟨askable, readable, notices⟩ :=
    FinishedAnalysis.notices_after reached four reports accepted short dated next only
  let n := f.notice b info main u.store
  have told : ((handle .webhooks q).after u).calls = (n.tell.after u).calls := by
    rw [calls_of_bare (after_handle_of_askable tells counts askable readable), notices,
      tellAll_cons, tellAll, after_bind_pure]
  refine ⟨?_, fun none => ?_, fun hooks => ?_⟩
  · obtain ⟨lookup, target, hlookup, targets, hsubject, houtcome⟩ :=
      ChangeSet.target_of_notice askable readable notices enabled
    refine ⟨lookup, target, hlookup, targets, hsubject, ?_⟩
    rw [houtcome]
    exact f.document_notice b info main u.store u.server u.clock
  · have silent : n.tell.after u = u := by
      rw [Notice.after_tell, dispatch_of_webhooks_eq_nil n.configuration n.subject n.analysis none]
      rfl
    rw [told, silent]
  · have mem : n ∈ change.changes.notices u.store := by
      rw [notices]
      exact List.mem_singleton_self n
    have linkable := change.changes.isLinkable_of_mem_notices n mem
    rw [told, Notice.after_tell]
    exact calls_dispatch_of_supplied hooks (makePayload_apply linkable u)

def hooking (key value : String) : Request :=
  sending .setSetting
    (.object [("key", .text key), ("value", .text value), ("component", .text "p")])

theorem requested_hooking (key value : String) (store : Store) :
    store.requested (hooking key value) =
      { store with properties := (store.withoutProperty key (some "p")).properties ++
          [⟨key, some "p", some value, "2026-10-18T12:00:00.000000Z"⟩] } := by
  have told : SetSetting.read (.object [("key", .text key), ("value", .text value),
      ("component", .text "p")]) = .ok ⟨key, .one value, some "p"⟩ := rfl
  exact @requested_set _ key value (some "p") (by simp) told store

def projectHookedStore : Store :=
  { datedStore with
    properties := [⟨"sonar.webhooks.project", some "p", some "h", "2026-10-18T12:00:00.000000Z"⟩,
      ⟨"sonar.webhooks.project.h.name", some "p", some "h", "2026-10-18T12:00:00.000000Z"⟩,
      ⟨"sonar.webhooks.project.h.url", some "p", some "http://h", "2026-10-18T12:00:00.000000Z"⟩] }

theorem requested_hookings : [hooking "sonar.webhooks.project" "h",
    hooking "sonar.webhooks.project.h.name" "h",
    hooking "sonar.webhooks.project.h.url" "http://h"].foldl Store.requested datedStore =
      projectHookedStore := by
  rw [List.foldl_cons, List.foldl_cons, List.foldl_cons, List.foldl_nil, requested_hooking,
    requested_hooking, requested_hooking]
  decide +kernel

theorem reached_projectHookedStore : Reached projectHookedStore := by
  rw [← requested_hookings, ← requested_finishing_dated]
  exact (Reached.empty.requested _).all _

def reanalysing : Request :=
  sending .analysisFinished <| .object [
    ("ceTaskId", .text "n"),
    ("project", .object [("uuid", .text "b"), ("key", .text "b"), ("name", .text "b")]),
    ("branch", .object [("isMain", .bool false), ("name", .text "new"), ("type", .text "SHORT")]),
    ("analysis", .object [("uuid", .text "n"), ("date", .text "2026-10-18T12:00:00Z")]),
    ("mainBranchProjectUuid", .text "p")]

def newBranch : Branch :=
  ⟨false, some "new", .short⟩

def reanalysed : FinishedAnalysis where
  report := ⟨"n", ⟨"b", "b", "b"⟩, some newBranch, some ⟨"n", noon⟩, none, []⟩
  allStepsExecuted := true
  mainProject := some "p"

def reanalysedStore : Store :=
  { projectHookedStore with
    branches := [⟨"b", "p", "new", "SHORT"⟩]
    snapshots := [⟨"b", "b", "P", false, "2026-10-18T00:00:00.000000Z"⟩,
      ⟨"n", "b", "P", true, "2026-10-18T12:00:00.000000Z"⟩]
    activities := [⟨"b", "REPORT", some "b", some "b", "SUCCESS", false,
        "2026-10-18T12:00:00.000000Z", some "2026-10-18T12:00:00.000000Z"⟩,
      ⟨"n", "REPORT", some "b", some "n", "SUCCESS", true, "2026-10-18T12:00:00.000000Z",
        some "2026-10-18T12:00:00.000000Z"⟩] }

theorem recorded_reanalysed : reanalysing.finished? = some reanalysed ∧
    (reanalysed.recorded noon projectHookedStore).toBool = true := by
  rw [reanalysing, finished?_sending]
  · decide +kernel
  · simp

theorem requested_reanalysing :
    ((handle .webhooks reanalysing).after { store := projectHookedStore }).store =
      reanalysedStore := by
  have off : (projectHookedStore.configurationFor (some "b")).isEnabled = false := by
    decide +kernel
  have finished := recorded_reanalysed.1
  rw [reanalysing] at finished ⊢
  rw [← Store.requested, requested_of_finished _ finished,
    FinishedAnalysis.store_of_not_enabled off]
  · decide +kernel
  · simp

def resolvingIssue : Request :=
  sending .issueTransition <| .object [
    ("issues", .array [.object [("key", .text "b"), ("componentUuid", .text "b")]]),
    ("login", .text "user"), ("transition", .text "resolve")]

theorem issueChange?_resolvingIssue :
    resolvingIssue.issueChange? = some (resolving, ⟨issuesOf ["b"], some "user"⟩) := by
  rw [resolvingIssue, issueChange?_sending]
  · decide +kernel
  · simp

theorem issues_told_of_report_reanalysed :
    let u : Service := { store := reanalysedStore }
    (∃ lookup target, (issuesOf ["b"]).lookUp u.store = .ok (some lookup) ∧
      lookup.targets = [(u.store.configurationFor (some "p"), target)] ∧
      target.subject = ⟨"p", some "n", some "n"⟩) ∧
    ∃ told : List Webhook, told ≠ [] ∧
      ((handle .webhooks resolvingIssue).after u).calls = told.map (·.request
        ⟨"b", (reanalysed.issueDocument newBranch u.server u.clock).write⟩
        u.settings.timeoutSeconds) := by
  intro u
  obtain ⟨reports, accepts⟩ := recorded_reanalysed
  have accepted : ∃ t, reanalysed.recorded noon projectHookedStore = .ok t := by
    cases h : reanalysed.recorded noon projectHookedStore with
    | ok t => exact ⟨t, rfl⟩
    | error failure =>
      rw [h] at accepts
      cases accepts
  have short : reanalysed.IsShort newBranch ⟨"n", noon⟩ "p" := ⟨rfl, rfl, rfl, rfl, rfl, rfl⟩
  have counts : resolving.Counts (issuesOf ["b"]) (.user "user" noon) u :=
    ⟨rfl, by decide, rfl, by decide⟩
  obtain ⟨⟨lookup, target, hlookup, targets, hsubject, -⟩, -, calls⟩ :=
    issues_told_of_report (s := { store := projectHookedStore }) (u := u)
      reached_projectHookedStore isFourDigit_noon reports accepted short isFourDigit_noon
      requested_reanalysing.symm (by decide +kernel) issueChange?_resolvingIssue counts
      (by decide) rfl
  obtain ⟨told, some, -, hcalls⟩ := calls (by decide +kernel)
  exact ⟨⟨lookup, target, hlookup, targets, hsubject⟩, told, some, hcalls⟩

end AnalysisWebhooks
