import AnalysisWebhooks.Proofs.Service.Accounts

namespace AnalysisWebhooks

open AnalysisWebhooks.Action

section Bare

variable {s t : Service}

theorem rowsOfCalls_of_bare (payload : Payload) (webhooks : List Webhook) (h : s.bare = t.bare) :
    rowsOfCalls payload webhooks s = rowsOfCalls payload webhooks t := by
  rw [rowsOfCalls, rowsOfCalls, store_of_bare h,
    store_of_bare ((blind_deliverAll payload webhooks).bare_after h)]

theorem Notice.rows_of_bare (n : Notice) (h : s.bare = t.bare) : n.rows s = n.rows t := by
  have payload : n.analysis.payload t.server t.clock = n.analysis.payload s.server s.clock := by
    rw [Service.eq_of_bare h]
    rfl
  rw [rows, rows, payload, rowsOfCalls_of_bare _ _ h]

theorem Notice.blind_tell (n : Notice) : Blind n.tell :=
  alike_orElse (blind_bind (blind_dispatch _ _ _) fun _ => blind_pure _) fun _ => blind_pure _

theorem rowsOfNotices_of_bare (notices : List Notice) (h : s.bare = t.bare) :
    rowsOfNotices notices s = rowsOfNotices notices t := by
  induction notices generalizing s t with
  | nil => rfl
  | cons n rest ih =>
    have told := n.blind_tell s t h
    rw [rowsOfNotices, rowsOfNotices, n.rows_of_bare h]
    generalize n.tell s = x, n.tell t = y at told
    cases told with
    | ok _ services => exact congrArg (n.rows t ++ ·) (ih services)
    | error failure services => rfl

end Bare

theorem Books.logged {e : Entry} {s t : Service} {log : List LogLine}
    (h : Books e { s with log } t) : Books e s t :=
  ⟨⟨h.network, h.calls⟩, h.rows, h.judged⟩

section Analyses

namespace Notice

variable (n : Notice) {s t : Service}

theorem dispatch_cases (s : Service) :
    (∃ deliveries t, dispatch n.configuration n.subject (makePayload n.analysis) s =
      .ok deliveries t ∧ Books { rows := (n.rows s).length } s t) ∨
    ∃ failure t, dispatch n.configuration n.subject (makePayload n.analysis) s =
      .error failure t ∧ (failure.isOrdinary = true → Books { rows := (n.rows s).length } s t) := by
  have books := n.books_dispatch (s := s)
  rw [after] at books
  cases sent : dispatch n.configuration n.subject (makePayload n.analysis) s with
  | ok deliveries t =>
    rw [sent] at books
    exact .inl ⟨deliveries, t, rfl, books fun u cancelled => by cases cancelled⟩
  | error failure t =>
    rw [sent] at books
    refine .inr ⟨failure, t, rfl, fun ordinary => books fun u cancelled => ?_⟩
    cases cancelled
    cases ordinary

theorem announce_apply (s : Service) : n.announce s =
    match dispatch n.configuration n.subject (makePayload n.analysis) s with
    | .ok _ t => .ok ⟨⟩ { t with metrics := t.metrics.countDecision .analysis .dispatched }
    | .error failure t =>
      if failure.isOrdinary then
        .error failure { t with
          metrics := (t.metrics.countError .analysisWebhooks).countDecision .analysis .error }
      else .error failure t := by
  unfold announce
  rw [orElse_apply, bind_apply]
  cases dispatch n.configuration n.subject (makePayload n.analysis) s with
  | ok deliveries t => rfl
  | error failure t =>
    dsimp only
    split <;> rfl

theorem books_announce {x : Action Unit} {name text : String} {u : Service}
    (announced : x s = n.announce u) (h : orElse x (fun _ => do
      measure (.countTaskError name)
      log .error text) s = .ok ⟨⟩ t) :
    ∃ failed, Books { rows := (n.rows u).length, accepted := 1, failed } u t := by
  rw [orElse_apply, announced, announce_apply] at h
  rcases n.dispatch_cases u with ⟨deliveries, v, sent, first⟩ | ⟨failure, v, sent, first⟩
  · rw [sent] at h
    cases h
    have judged : Books { accepted := 1 } v
        { v with metrics := v.metrics.countDecision .analysis .dispatched } :=
      .judging (judges_dispatched _) rfl
    exact ⟨0, by simpa using first.trans judged⟩
  · rw [sent] at h
    cases ordinary : failure.isOrdinary with
    | false =>
      simp only [ordinary, if_false, Bool.false_eq_true] at h
      cases h
    | true =>
      simp only [ordinary, if_true] at h
      cases h
      have judged : Books { accepted := 1, failed := 1 } v { v with
          metrics := ((v.metrics.countError .analysisWebhooks).countDecision .analysis
            .error).countTaskError name
          log := v.log ++ [⟨.error, text⟩] } :=
        .judging (judges_failed _ name) rfl
      exact ⟨1, by simpa using (first ordinary).trans judged⟩

end Notice

variable {a : ProjectAnalysis} {task project : String} {s t : Service}
  {row : Option (ActivityRow TaskStatus Calendar.Moment)}

theorem notifyOfAnalysis_cases (htask : a.task.id = .plain task)
    (hproject : a.project.uuid = .plain project) (readable : s.store.activity? task = .ok row) :
    (a.notices s = [] ∧ notifyOfAnalysis a s =
      .ok ⟨⟩ { s with metrics := s.metrics.countDecision .analysis .disabled }) ∨
    ∃ n log, a.notices s = [n] ∧ notifyOfAnalysis a s = n.announce { s with log } := by
  unfold notifyOfAnalysis ProjectAnalysis.notices
  rw [get_bind, htask, hproject]
  cases s.settings.webhooksEnabled with
  | false => exact .inl ⟨rfl, rfl⟩
  | true =>
    have named : Action.obtain (RawText.plain task).encoded s = .ok task s := rfl
    have asked := analysisUuidOf_apply a task s
    rw [readable] at asked
    simp only [if_true]
    rw [bind_ok named, bind_ok asked, readable]
    dsimp only
    cases ((row.bind (·.analysis)).map RawText.plain).or (a.analysis.map (·.uuid)) with
    | some uuid => exact .inr ⟨_, s.log, rfl, rfl⟩
    | none => exact .inr ⟨_, _, rfl, rfl⟩

theorem books_attempt (htask : a.task.id = .plain task) (hproject : a.project.uuid = .plain project)
    (readable : s.store.activity? task = .ok row) (h : webhookTask.attempt a s = .ok ⟨⟩ t) :
    ∃ failed,
      Books { rows := (rowsOfNotices (a.notices s) s).length, accepted := 1, failed } s t := by
  unfold PostTask.attempt at h
  rcases notifyOfAnalysis_cases htask hproject readable with ⟨silent, disabled⟩ |
    ⟨n, log, notices, announced⟩
  · have disabled : webhookTask.run a s = _ := disabled
    rw [orElse_apply, disabled] at h
    cases h
    rw [silent]
    exact ⟨0, .judging (judges_disabled _) rfl⟩
  · have announced : webhookTask.run a s = n.announce { s with log } := announced
    have rows : (rowsOfNotices (a.notices s) s).length = (n.rows { s with log }).length := by
      have same : n.rows s = n.rows { s with log } := n.rows_of_bare rfl
      rw [notices, rowsOfNotices, List.length_append, ← same]
      cases n.tell s <;> rfl
    obtain ⟨failed, books⟩ := n.books_announce announced h
    rw [rows]
    exact ⟨failed, books.logged⟩

theorem PostTask.resilient_attempt (task : PostTask) (a : ProjectAnalysis) :
    Resilient (task.attempt a) :=
  resilient_orElse fun _ => resilient_of_ok fun _ => ⟨_, _, rfl⟩

end Analyses

section Branches

variable {s u : Service}

theorem notifyOfBranch_apply (configuration : Configuration) (t : IssueTarget) (s : Service) :
    ∃ text : String, notifyOfBranch configuration t s =
      match dispatch configuration t.subject (makePayload t.outcome) s with
      | .ok _ u => .ok true { u with metrics := u.metrics.countDecision .issue .dispatched }
      | .error failure u =>
        if failure.isOrdinary then
          .ok false { u with
            metrics := (u.metrics.countError .issueWebhooks).countDecision .issue .error
            log := u.log ++ [⟨.error, text⟩] }
        else .error failure u := by
  refine ⟨"Webhooks for branch " ++ t.branch.key ++ " of project " ++ t.branch.project ++ " failed",
    ?_⟩
  unfold notifyOfBranch
  rw [orElse_apply, bind_apply]
  cases dispatch configuration t.subject (makePayload t.outcome) s with
  | ok deliveries u => rfl
  | error failure u =>
    dsimp only
    split <;> rfl

theorem resilient_notifyOfBranch (configuration : Configuration) (t : IssueTarget) :
    Resilient (notifyOfBranch configuration t) :=
  resilient_orElse fun _ => resilient_of_ok fun _ => ⟨_, _, rfl⟩

theorem books_notifyOfBranch {configuration : Configuration} {t : IssueTarget} {told : Bool}
    (h : notifyOfBranch configuration t s = .ok told u) :
    ∃ issueFailed, Books {
      rows := ((t.notice configuration).rows s).length
      issueFailed := issueFailed
      told := if told then 1 else 0 } s u := by
  obtain ⟨text, applied⟩ := notifyOfBranch_apply configuration t s
  rw [applied] at h
  rcases (t.notice configuration).dispatch_cases s with
    ⟨deliveries, v, sent, first⟩ | ⟨failure, v, sent, first⟩
  · have sent : dispatch configuration t.subject (makePayload t.outcome) s = .ok deliveries v :=
      sent
    rw [sent] at h
    cases h
    have judged : Books { told := 1 } v
        { v with metrics := v.metrics.countDecision .issue .dispatched } :=
      .judging (judges_issueTold _) rfl
    exact ⟨0, by simpa using first.trans judged⟩
  · have sent : dispatch configuration t.subject (makePayload t.outcome) s = .error failure v :=
      sent
    rw [sent] at h
    cases ordinary : failure.isOrdinary with
    | false =>
      simp only [ordinary, if_false, Bool.false_eq_true] at h
      cases h
    | true =>
      simp only [ordinary, if_true] at h
      cases h
      have judged : Books { issueFailed := 1 } v { v with
          metrics := (v.metrics.countError .issueWebhooks).countDecision .issue .error
          log := v.log ++ [⟨.error, text⟩] } :=
        .judging (judges_issueFailed _) rfl
      exact ⟨1, by simpa using (first ordinary).trans judged⟩

theorem resilient_notifyOfBranches (targets : List (Configuration × IssueTarget)) :
    Resilient (notifyOfBranches targets) := by
  induction targets with
  | nil => exact resilient_of_ok fun s => ⟨0, s, rfl⟩
  | cons first rest ih =>
    obtain ⟨configuration, t⟩ := first
    exact resilient_bind (resilient_notifyOfBranch configuration t) fun _ =>
      resilient_bind ih fun _ => resilient_of_ok fun s => ⟨_, s, rfl⟩

theorem books_notifyOfBranches {targets : List (Configuration × IssueTarget)} {n : Nat}
    (h : notifyOfBranches targets s = .ok n u) :
    ∃ issueFailed, Books {
      rows := (rowsOfNotices
        (targets.map fun (configuration, t) => t.notice configuration) s).length
      issueFailed := issueFailed
      told := n } s u := by
  induction targets generalizing s n with
  | nil =>
    cases h
    exact ⟨0, .refl _⟩
  | cons first rest ih =>
    obtain ⟨configuration, t⟩ := first
    obtain ⟨told, v, hfirst, others⟩ := exists_of_bind_ok h
    obtain ⟨more, w, hrest, done⟩ := exists_of_bind_ok others
    cases done
    obtain ⟨one, books⟩ := books_notifyOfBranch hfirst
    obtain ⟨failures, booksRest⟩ := ih hrest
    -- the rows of the rest are those after the first notice was told
    have alike := alike_notifyOfBranch configuration t s s rfl
    rw [hfirst] at alike
    refine ⟨one + failures, ?_⟩
    rw [List.map_cons, rowsOfNotices, List.length_append]
    generalize (t.notice configuration).tell s = x at alike
    cases alike with
    | ok _ services =>
      dsimp only
      rw [← rowsOfNotices_of_bare _ services]
      simpa using books.trans booksRest

theorem resilient_notifyOfIssues (c : ChangeSet) : Resilient (notifyOfIssues c) := by
  unfold notifyOfIssues
  refine resilient_get_bind fun s => ?_
  split
  · split
    · exact resilient_of_ok fun _ => ⟨_, _, rfl⟩
    · exact resilient_of_ok fun _ => ⟨_, _, rfl⟩
    · rename_i lookup _
      refine resilient_bind (resilient_of_ok fun u => ?_) fun _ => resilient_notifyOfBranches _
      obtain ⟨log, skipped⟩ := logSkipped_apply lookup.branches u
      exact ⟨_, _, skipped⟩
  · exact resilient_of_ok fun _ => ⟨_, _, rfl⟩

theorem books_notifyOfIssues {c : ChangeSet} {n : Nat} (h : notifyOfIssues c s = .ok n u) :
    ∃ issueFailed, Books {
      rows := (rowsOfNotices (if s.settings.webhooksEnabled then c.told s.store else []) s).length
      issueFailed := issueFailed
      told := n } s u := by
  unfold notifyOfIssues at h
  unfold ChangeSet.told
  rw [get_bind] at h
  cases enabled : s.settings.webhooksEnabled with
  | false =>
    rw [enabled] at h
    cases h
    exact ⟨0, .judging (judges_issueSilent _ nofun nofun) rfl⟩
  | true =>
    simp only [enabled, if_true] at h ⊢
    cases found : c.lookUp s.store with
    | error failure =>
      rw [found] at h
      cases h
      exact ⟨0, .judging (judges_issueLookup _) rfl⟩
    | ok lookup =>
      cases lookup with
      | none =>
        rw [found] at h
        cases h
        exact ⟨0, .judging (judges_issueSilent _ nofun nofun) rfl⟩
      | some lookup =>
        rw [found] at h
        dsimp only at h ⊢
        obtain ⟨log, skipped⟩ := logSkipped_apply lookup.branches s
        rw [bind_ok skipped] at h
        obtain ⟨issueFailed, books⟩ := books_notifyOfBranches h
        have same : ({ s with log } : Service).bare = s.bare := rfl
        rw [rowsOfNotices_of_bare _ same] at books
        exact ⟨issueFailed, books.logged⟩

end Branches

namespace IssueAction

variable {action : IssueAction} {c : ChangeSet} {context : ChangeContext} {s u : Service}

def IsDue (action : IssueAction) (c : ChangeSet) (context : ChangeContext) : Prop :=
  c.issues ≠ [] ∧ context.login.isSome = true ∧ action.IsMeaningful

theorem told_of_isDue (due : action.IsDue c context) :
    action.told c context s = if s.settings.webhooksEnabled then c.told s.store else [] :=
  if_congr ⟨fun h => h.enabled, fun enabled => ⟨enabled, due.1, due.2.1, due.2.2⟩⟩ rfl rfl

theorem told_of_not_isDue (idle : ¬ action.IsDue c context) : action.told c context s = [] :=
  if_neg fun h => idle ⟨h.issues, h.login, h.meaningful⟩

theorem onTransition_cases (key : Option RawText) (c : ChangeSet) (context : ChangeContext) :
    (¬ (transition key).IsDue c context ∧ onTransition c key context = pure 0) ∨
      (transition key).IsDue c context ∧ onTransition c key context = notifyOfIssues c := by
  have due : (transition key).IsDue c context ↔
      ¬ (c.isEmpty || !key.any meaningfulTransitions.contains || !context.isUserChange) = true := by
    simp only [IsDue, ← contains_meaningfulTransitions, Bool.or_eq_true, Bool.not_eq_true', not_or,
      Bool.not_eq_false, ChangeSet.isEmpty, ChangeContext.isUserChange, and_assoc,
      List.isEmpty_iff, ne_eq]
    exact and_congr_right fun _ => and_comm
  unfold onTransition
  split
  · rename_i shut
    exact .inl ⟨fun h => due.1 h shut, rfl⟩
  · rename_i free
    exact .inr ⟨due.2 free, rfl⟩

theorem react_cases (action : IssueAction) (c : ChangeSet) (context : ChangeContext) (s : Service) :
    (¬ action.IsDue c context ∧ action.react c context s = .ok 0 s) ∨
      action.IsDue c context ∧
        ∃ log, action.react c context s = notifyOfIssues c { s with log } := by
  cases action with
  | transition key =>
    rcases onTransition_cases key c context with ⟨idle, none⟩ | ⟨due, notified⟩
    · exact .inl ⟨idle, congrFun none s⟩
    · exact .inr ⟨due, s.log, congrFun notified s⟩
  | typeChange type =>
    unfold react onTypeChange
    cases login : context.login with
    | none => exact .inl ⟨fun due => by simp [IsDue, login] at due, rfl⟩
    | some user =>
      dsimp only
      split
      · rename_i empty
        exact .inl ⟨fun due => due.1 (by simpa [ChangeSet.isEmpty] using empty), rfl⟩
      · rename_i issues
        exact .inr ⟨⟨by simpa [ChangeSet.isEmpty] using issues, by simp [login], trivial⟩, _, rfl⟩

theorem resilient_react (action : IssueAction) (c : ChangeSet) (context : ChangeContext) :
    Resilient (action.react c context) := by
  intro s failure t h
  rcases react_cases action c context s with ⟨-, none⟩ | ⟨-, log, notified⟩
  · rw [none] at h
    cases h
  · rw [notified] at h
    exact resilient_notifyOfIssues c _ failure t h

theorem books_react {n : Nat} (h : action.react c context s = .ok n u) :
    ∃ issueFailed, Books {
      rows := (rowsOfNotices (action.told c context s) s).length
      issueFailed := issueFailed
      told := n } s u := by
  rcases react_cases action c context s with ⟨idle, none⟩ | ⟨due, log, notified⟩
  · rw [none] at h
    cases h
    rw [told_of_not_isDue idle]
    exact ⟨0, .refl _⟩
  · rw [notified] at h
    obtain ⟨issueFailed, books⟩ := books_notifyOfIssues h
    have same : ({ s with log } : Service).bare = s.bare := rfl
    rw [rowsOfNotices_of_bare _ same] at books
    rw [told_of_isDue due]
    exact ⟨issueFailed, books.logged⟩

end IssueAction

end AnalysisWebhooks
