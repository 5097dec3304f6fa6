import AnalysisWebhooks.Proofs.Issue.Targets
import AnalysisWebhooks.Proofs.Service.Dispatch
import AnalysisWebhooks.Proofs.Webhook.Configured

namespace AnalysisWebhooks

open AnalysisWebhooks.Action Calendar

theorem tellAll_cons (n : Notice) (rest : List Notice) :
    tellAll (n :: rest) = n.tell >>= fun _ => tellAll rest := rfl

namespace Notice

def IsAddressed (n : Notice) : Prop :=
  n.configuration.webhooks n.subject ≠ []

instance (n : Notice) : Decidable n.IsAddressed :=
  inferInstanceAs (Decidable (_ ≠ []))

variable (n : Notice)

theorem after_tell (s : Service) : n.tell.after s =
    (dispatch n.configuration n.subject (makePayload n.analysis)).after s := by
  rw [tell, after_orElse_pure, after_bind_pure]

variable {n} in
theorem calls_tell (addressed : n.IsAddressed) (linkable : n.analysis.IsLinkable) (s : Service) :
    Calls s (n.tell.after s) := by
  rw [after_tell]
  exact calls_dispatch _ _ linkable addressed s

end Notice

theorem tell_bind_of_not_enabled {n : Notice} (h : n.configuration.isEnabled = false)
    (x : Action Unit) : (n.tell >>= fun _ => x) = x := by
  funext s
  rw [Notice.tell, dispatch_of_webhooks_eq_nil _ _ _ (Configuration.webhooks_eq_nil h _),
    bind_apply,
    orElse_apply]
  rfl

theorem tellAll_filter (notices : List Notice) :
    tellAll (notices.filter (·.configuration.isEnabled)) = tellAll notices := by
  induction notices with
  | nil => rfl
  | cons n rest ih =>
    rw [tellAll_cons, List.filter_cons]
    cases h : n.configuration.isEnabled with
    | false =>
      rw [tell_bind_of_not_enabled h, ← ih]
      rfl
    | true =>
      simp only [if_true]
      rw [tellAll_cons, ih]

theorem blind_tellAll (notices : List Notice) : Blind (tellAll notices) := by
  induction notices with
  | nil => exact blind_pure _
  | cons n rest ih =>
    refine blind_bind (alike_orElse ?_ fun _ => blind_pure _) fun _ => ih
    exact blind_bind (blind_dispatch _ _ _) fun _ => blind_pure _

theorem alike_notifyOfBranch (configuration : Configuration) (t : IssueTarget) :
    Alike (fun _ _ => True) (notifyOfBranch configuration t) (t.notice configuration).tell := by
  refine alike_orElse ?_ fun _ => ?_
  · refine alike_bind (blind_dispatch configuration t.subject t.outcome) fun _ _ _ => ?_
    exact alike_measure_bind (alike_pure trivial)
  · exact alike_measure_bind (alike_measure_bind (alike_log_bind (alike_pure trivial)))

theorem alike_notifyOfBranches (targets : List (Configuration × IssueTarget)) :
    Alike (fun _ _ => True) (notifyOfBranches targets)
      (tellAll (targets.map fun (configuration, t) => t.notice configuration)) := by
  induction targets with
  | nil => exact alike_pure trivial
  | cons first rest ih =>
    obtain ⟨configuration, t⟩ := first
    rw [List.map_cons, tellAll_cons]
    refine alike_bind (alike_notifyOfBranch configuration t) fun told _ _ => ?_
    rw [← bind_pure (tellAll _)]
    exact alike_bind ih fun _ _ _ => alike_pure trivial

theorem logSkipped_apply (branches : List (BranchRow BranchKind × Option IssueTarget))
    (s : Service) : ∃ log, logSkipped branches s = .ok ⟨⟩ { s with log } := by
  induction branches generalizing s with
  | nil => exact ⟨s.log, rfl⟩
  | cons first rest ih =>
    obtain ⟨branch, target?⟩ := first
    cases target? with
    | some t => exact ih s
    | none =>
      obtain ⟨log, h⟩ := ih { s with log := s.log ++ [⟨.debug, _⟩] }
      exact ⟨log, h⟩

theorem alike_logSkipped {α β : Type} {r : α → β → Prop} {x : Action α} {y : Action β}
    (branches : List (BranchRow BranchKind × Option IssueTarget)) (h : Alike r x y) :
    Alike r (logSkipped branches >>= fun _ => x) y := by
  intro s t hst
  obtain ⟨log, hlog⟩ := logSkipped_apply branches s
  rw [bind_ok hlog]
  exact h _ t hst

namespace ChangeSet

variable {c : ChangeSet} {s : Store}

variable {components : List ComponentRef}

theorem notices_filter_eq_nil (h : c.branchComponents s = .ok components)
    (none : enabledConfigurations s components = .ok []) :
    (c.notices s).filter (·.configuration.isEnabled) = [] := by
  refine List.filter_eq_nil_iff.2 fun n hn henabled => ?_
  obtain ⟨row, hrow, hnotice⟩ := List.mem_filterMap.1 hn
  have hmain := (List.mem_filter.1 hrow).2
  rw [Store.configuration_of_notice? hnotice] at henabled
  have found := lookup_enabledConfigurations h none row.project
  rw [hmain, henabled] at found
  cases found

theorem lookUp_of_askable (askable : c.Askable s) (readable : s.Readable (c.roots s)) :
    (c.lookUp s = .ok none ∧ (c.notices s).filter (·.configuration.isEnabled) = []) ∨
      ∃ lookup, c.lookUp s = .ok (some lookup) ∧
        lookup.targets.map (fun (configuration, t) => t.notice configuration) =
          (c.notices s).filter (·.configuration.isEnabled) := by
  obtain ⟨components, hcomponents⟩ := exists_branchComponents.2 askable.components
  obtain ⟨configurations, henabled⟩ :=
    (exists_enabledConfigurations hcomponents).2 askable.mainProjects
  cases configurations with
  | nil =>
    refine .inl ⟨?_, notices_filter_eq_nil hcomponents henabled⟩
    exact bind_eq_ok.2 ⟨components, hcomponents, bind_eq_ok.2 ⟨[], henabled, rfl⟩⟩
  | cons first rest =>
    obtain ⟨found, hfound⟩ :=
      (exists_resolveBranches (mem_roots hcomponents)).2 ⟨askable.roots, readable⟩
    obtain ⟨branches, hread, heq⟩ := resolveBranches_eq_ok (mem_roots hcomponents) hfound
    refine .inr ⟨⟨first :: rest, found⟩, ?_, ?_⟩
    · exact bind_eq_ok.2 ⟨components, hcomponents, bind_eq_ok.2
        ⟨_, henabled, bind_eq_ok.2 ⟨found, hfound, rfl⟩⟩⟩
    · rw [heq]
      exact targets_eq hcomponents henabled hread

theorem askable_of_lookUp {lookup : IssueLookup} (h : c.lookUp s = .ok (some lookup)) :
    c.Askable s ∧ s.Readable (c.roots s) := by
  obtain ⟨components, hcomponents, h⟩ := bind_eq_ok.1 h
  obtain ⟨configurations, henabled, h⟩ := bind_eq_ok.1 h
  cases configurations with
  | nil => cases h
  | cons first rest =>
    obtain ⟨found, hfound, -⟩ := bind_eq_ok.1 h
    obtain ⟨roots, readable⟩ :=
      (exists_resolveBranches (mem_roots hcomponents)).1 ⟨found, hfound⟩
    exact ⟨⟨exists_branchComponents.1 ⟨_, hcomponents⟩,
      (exists_enabledConfigurations hcomponents).1 ⟨_, henabled⟩, roots⟩, readable⟩

def told (c : ChangeSet) (s : Store) : List Notice :=
  match c.lookUp s with
  | .ok (some lookup) => lookup.targets.map fun (configuration, t) => t.notice configuration
  | _ => []

theorem told_of_askable (askable : c.Askable s) (readable : s.Readable (c.roots s)) :
    c.told s = (c.notices s).filter (·.configuration.isEnabled) := by
  unfold told
  obtain ⟨h, hnone⟩ | ⟨lookup, h, hsome⟩ := c.lookUp_of_askable askable readable
  · rw [h, hnone]
  · rw [h, ← hsome]

theorem told_eq_nil (h : ¬ (c.Askable s ∧ s.Readable (c.roots s))) : c.told s = [] := by
  unfold told
  split
  · rename_i lookup hlookup
    exact absurd (askable_of_lookUp hlookup) h
  · rfl

theorem snapshot_of_mem_told {n : Notice} (h : n ∈ c.told s) :
    ∃ snapshot ∈ s.snapshots, n.subject.analysis = some (.plain snapshot.uuid) := by
  by_cases resolved : c.Askable s ∧ s.Readable (c.roots s)
  · rw [told_of_askable resolved.1 resolved.2] at h
    obtain ⟨row, -, hn⟩ := List.mem_filterMap.1 (List.mem_of_mem_filter h)
    exact Store.snapshot_of_notice? hn
  · rw [told_eq_nil resolved] at h
    cases h

end ChangeSet

theorem bare_after_notifyOfIssues {c : ChangeSet} {s : Service}
    (enabled : s.settings.webhooksEnabled = true) :
    ((notifyOfIssues c).after s).bare = ((tellAll (c.told s.store)).after s).bare := by
  unfold notifyOfIssues ChangeSet.told
  rw [after_get_bind, if_pos enabled]
  split
  · rename_i h
    rw [h]
    rfl
  · rename_i h
    rw [h]
    rfl
  · rename_i lookup h
    rw [h]
    exact (alike_logSkipped _ (alike_notifyOfBranches _)).bare_after rfl

theorem notifyOfIssues_of_disabled {c : ChangeSet} {s : Service}
    (disabled : s.settings.webhooksEnabled = false) :
    ((notifyOfIssues c).after s).bare = s.bare := by
  unfold notifyOfIssues
  rw [after_get_bind, if_neg (by simp [disabled])]
  rfl

namespace IssueAction

variable {action : IssueAction} {c : ChangeSet} {context : ChangeContext} {s : Service}

theorem contains_meaningfulTransitions (key : Option RawText) :
    key.any meaningfulTransitions.contains = true ↔ (transition key).IsMeaningful := by
  cases key with
  | none => simp [IsMeaningful]
  | some key => simp [IsMeaningful, meaningfulTransitions]

theorem react_of_counts (h : action.Counts c context s) :
    ∃ log, (action.react c context).after s = (notifyOfIssues c).after { s with log } := by
  have hissues : c.isEmpty = false := by simpa [ChangeSet.isEmpty] using h.issues
  cases action with
  | transition key =>
    have hkey := (contains_meaningfulTransitions key).2 h.meaningful
    have huser : context.isUserChange = true := h.login
    rw [react, onTransition, hissues, hkey, huser]
    exact ⟨s.log, rfl⟩
  | typeChange type =>
    obtain ⟨login, hlogin⟩ := Option.isSome_iff_exists.1 h.login
    rw [react, onTypeChange, hlogin]
    dsimp only
    rw [hissues]
    exact ⟨_, after_bind_ok (log_apply ..)⟩

theorem onTransition_of_not_counts {key : Option RawText}
    (h : ¬ (transition key).Counts c context s) :
    ((onTransition c key context).after s).bare = s.bare := by
  unfold onTransition
  split
  · rfl
  · rename_i hopen
    simp only [Bool.or_eq_true, Bool.not_eq_true', not_or, Bool.not_eq_false] at hopen
    obtain ⟨⟨hissues, hkey⟩, hlogin⟩ := hopen
    have disabled : s.settings.webhooksEnabled = false := by
      rw [← Bool.not_eq_true]
      intro enabled
      exact h ⟨enabled, by simpa [ChangeSet.isEmpty] using hissues, hlogin,
        (contains_meaningfulTransitions key).1 hkey⟩
    exact notifyOfIssues_of_disabled disabled

theorem onTypeChange_of_not_counts {type : RawText}
    (h : ¬ (typeChange type).Counts c context s) :
    ((onTypeChange c type context).after s).bare = s.bare := by
  unfold onTypeChange
  cases hlogin : context.login with
  | none => rfl
  | some login =>
    dsimp only
    split
    · rfl
    · rename_i hissues
      have disabled : s.settings.webhooksEnabled = false := by
        rw [← Bool.not_eq_true]
        intro enabled
        exact h ⟨enabled, by simpa [ChangeSet.isEmpty] using hissues, by simp [hlogin], trivial⟩
      rw [after_bind_ok (log_apply ..)]
      exact notifyOfIssues_of_disabled disabled

theorem react_of_not_counts (h : ¬ action.Counts c context s) :
    ((action.react c context).after s).bare = s.bare := by
  cases action with
  | transition key => exact onTransition_of_not_counts h
  | typeChange type => exact onTypeChange_of_not_counts h

def told (action : IssueAction) (c : ChangeSet) (context : ChangeContext) (s : Service) :
    List Notice :=
  if action.Counts c context s then c.told s.store else []

theorem bare_after_react (action : IssueAction) (c : ChangeSet) (context : ChangeContext)
    (s : Service) :
    ((action.react c context).after s).bare =
      ((tellAll (action.told c context s)).after s).bare := by
  unfold told
  split
  · rename_i counts
    obtain ⟨log, hlog⟩ := react_of_counts counts
    have same : ((tellAll (c.told s.store)).after { s with log }).bare =
        ((tellAll (c.told s.store)).after s).bare := (blind_tellAll _).bare_after rfl
    rw [hlog]
    exact (bare_after_notifyOfIssues (s := { s with log }) counts.enabled).trans same
  · rename_i h
    exact react_of_not_counts h

theorem react_of_askable (h : action.Counts c context s) (askable : c.Askable s.store)
    (readable : s.store.Readable (c.roots s.store)) :
    ((action.react c context).after s).bare = ((tellAll (c.notices s.store)).after s).bare := by
  rw [bare_after_react, told, if_pos h, ChangeSet.told_of_askable askable readable, tellAll_filter]

theorem react_of_not_resolved
    (h : ¬ (c.Askable s.store ∧ s.store.Readable (c.roots s.store))) :
    ((action.react c context).after s).bare = s.bare := by
  have silent : action.told c context s = [] := by
    rw [told, ChangeSet.told_eq_nil h, ite_self]
  rw [bare_after_react, silent]
  rfl

end IssueAction

theorem calls_of_bare {s t : Service} (h : s.bare = t.bare) : s.calls = t.calls := by
  rw [Service.eq_of_bare h]

theorem store_of_bare {s t : Service} (h : s.bare = t.bare) : s.store = t.store := by
  rw [Service.eq_of_bare h]

theorem react_tells_notices (action : IssueAction) (c : ChangeSet) (context : ChangeContext)
    (s : Service) :
    (¬ action.Counts c context s →
      ((action.react c context).after s).calls = s.calls ∧
      ((action.react c context).after s).store = s.store) ∧
    (action.Counts c context s → s.store.Readable (c.roots s.store) → c.Askable s.store →
      ((action.react c context).after s).calls = ((tellAll (c.notices s.store)).after s).calls ∧
      ((action.react c context).after s).store = ((tellAll (c.notices s.store)).after s).store) ∧
    (¬ c.Askable s.store →
      ((action.react c context).after s).calls = s.calls ∧
      ((action.react c context).after s).store = s.store) := by
  refine ⟨fun h => ?_, fun h readable askable => ?_, fun h => ?_⟩
  · have same := IssueAction.react_of_not_counts h
    exact ⟨calls_of_bare same, store_of_bare same⟩
  · have same := IssueAction.react_of_askable h askable readable
    exact ⟨calls_of_bare same, store_of_bare same⟩
  · have same : ((action.react c context).after s).bare = s.bare :=
      IssueAction.react_of_not_resolved fun resolved => h resolved.1
    exact ⟨calls_of_bare same, store_of_bare same⟩

def branchStore : Store where
  properties := [⟨"sonar.webhooks.project", some "p", some "h", "2026"⟩,
    ⟨"sonar.webhooks.project.h.name", some "p", some "hook", "2026"⟩,
    ⟨"sonar.webhooks.project.h.url", some "p", some "http://hook.example.com", "2026"⟩]
  components := [⟨"p", "project", "Project", "p", none⟩, ⟨"b", "branch", "Branch", "b", some "p"⟩]
  branches := [⟨"p", "p", "main", "LONG"⟩, ⟨"b", "p", "feature", "SHORT"⟩]
  snapshots := [⟨"a", "b", "P", true, "2026-10-18T12:00:00.000000Z"⟩]
  activities := [⟨"t", "REPORT", some "b", some "a", "SUCCESS", true, "2026-10-18T12:00:00.000000Z",
    some "2026-10-18T12:00:00.000000Z"⟩]

def branchChange : ChangeSet where
  issues := [⟨"i", "f"⟩, ⟨"j", "f"⟩]
  components := [⟨"f", "file", "File", "b", some "p"⟩]

theorem askable_branchChange :
    branchChange.Askable branchStore ∧ branchStore.Readable (branchChange.roots branchStore) :=
  ChangeSet.askable_of_lookUp rfl

theorem react_tells_notices_branch :
    let s : Service := { store := branchStore }
    let told := (tellAll (branchChange.notices branchStore)).after s
    let left := ((IssueAction.transition (some "resolve")).react branchChange
      (.user "user" noon)).after s
    (branchChange.notices branchStore).map (·.subject) = [⟨"p", some "t", some "a"⟩] ∧
      left.calls = told.calls ∧ left.store = told.store := by
  have counts : (IssueAction.transition (some "resolve")).Counts branchChange (.user "user" noon)
      { store := branchStore } := ⟨rfl, by decide, rfl, by decide⟩
  obtain ⟨askable, readable⟩ := askable_branchChange
  exact ⟨by decide +kernel, (react_tells_notices _ _ _ _).2.1 counts readable askable⟩

def mixedChange : ChangeSet :=
  { branchChange with issues := branchChange.issues ++ [⟨"k", .loneLead⟩] }

-- One issue that names no component silences the branch of the others.
theorem lone_surrogate_silences :
    let s : Service := { store := branchStore }
    let told := (tellAll (mixedChange.notices branchStore)).after s
    let left := ((IssueAction.transition (some "resolve")).react mixedChange
      (.user "user" noon)).after s
    (IssueAction.transition (some "resolve")).Counts mixedChange (.user "user" noon) s ∧
      branchStore.Readable (mixedChange.roots branchStore) ∧ s.network.Quiet ∧
      told.calls ≠ [] ∧ left.calls = [] := by
  have silent : ¬ mixedChange.Askable branchStore := fun askable => by
    have unicode := askable.components.unicode .loneLead (by decide)
    cases unicode
  have same : mixedChange.notices branchStore = branchChange.notices branchStore := by
    decide +kernel
  obtain ⟨n, hn, addressed, linkable⟩ : ∃ n, branchChange.notices branchStore = [n] ∧
      n.IsAddressed ∧ n.analysis.IsLinkable := ⟨_, rfl, by decide +kernel, by decide +kernel⟩
  refine ⟨⟨rfl, by decide, rfl, by decide⟩, ?_, Network.quiet_default, ?_,
    calls_of_bare (IssueAction.react_of_not_resolved fun resolved => silent resolved.1)⟩
  · exact askable_branchChange.2
  · rw [same, hn, tellAll_cons, tellAll, after_bind_pure]
    exact List.ne_nil_of_length_pos (n.calls_tell addressed linkable { store := branchStore })

end AnalysisWebhooks
