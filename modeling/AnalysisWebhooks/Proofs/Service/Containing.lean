import AnalysisWebhooks.Proofs.Service.Announcing

namespace AnalysisWebhooks

open AnalysisWebhooks.Action Calendar

theorem ordinary_orFailure {α : Type} (name : String) (c : Check α) :
    Ordinary (c.orFailure name) := by
  unfold Check.orFailure
  split
  · exact ordinary_ok _
  · split <;> exact ordinary_error rfl

theorem ordinary_activity? (s : Store) (uuid : String) : Ordinary (s.activity? uuid) := by
  unfold Store.activity?
  split
  · exact ordinary_map (ordinary_orFailure _ _)
  · exact ordinary_ok _

section OrElse

variable {α : Type} {x : Action α} {handle : Failure → Action α} {p : Service → Prop}

theorem Action.contained_orElse (keeps : ∀ s, p s → p (x.after s)) (hx : Contained p x)
    (hh : ∀ failure, failure.isOrdinary = true → Contained p (handle failure)) :
    Contained p (orElse x handle) := by
  intro s failure t hs h
  rw [orElse_apply] at h
  cases hxs : x s with
  | ok a u =>
    rw [hxs] at h
    cases h
  | error other u =>
    have ordinary := hx s other u hs hxs
    have hu : p u := by
      have hafter := keeps s hs
      rwa [after, hxs] at hafter
    rw [hxs] at h
    simp only [ordinary, if_true] at h
    exact hh other ordinary u failure t hu h

end OrElse

theorem contained_analysisUuidOf (a : ProjectAnalysis) (task : String) :
    Contained (·.network.Quiet) (analysisUuidOf a task) :=
  contained_of_always <| contained_bind_always (contained_ask fun s => ordinary_activity? s task)
    fun _ => contained_pure _

theorem sends_analysisUuidOf (a : ProjectAnalysis) (task : String) :
    Moves (Sends fun _ => True) (analysisUuidOf a task) :=
  sends_bind (moves_ask Sends.refl _) fun _ => moves_pure Sends.refl _

theorem contained_encoded (t : RawText) :
    Contained (·.network.Quiet) (Action.obtain t.encoded) :=
  contained_obtain t.ordinary_encoded

theorem sends_encoded (t : RawText) :
    Moves (Sends fun _ => True) (Action.obtain t.encoded) :=
  moves_obtain Sends.refl _

theorem contained_announce (n : Notice) : Contained (·.network.Quiet) n.announce := by
  have moves := sends_dispatch_any n.configuration n.subject n.analysis
  refine contained_orElse (fun s hs => ?_) ?_ fun failure ordinary => ?_
  · exact (sends_bind moves (fun _ => sends_measure _) s).quiet hs
  · exact contained_sends moves (contained_dispatch _ _ _) fun _ => contained_measure _
  · exact contained_of_always <| contained_bind_always (contained_measure _) fun _ =>
      contained_bind_always (contained_measure _) fun _ => contained_throw ordinary

theorem contained_notifyOfAnalysis (a : ProjectAnalysis) :
    Contained (·.network.Quiet) (notifyOfAnalysis a) := by
  unfold notifyOfAnalysis
  refine contained_get_bind fun s => ?_
  split
  · refine contained_sends (sends_encoded _) (contained_encoded _) fun task => ?_
    refine contained_sends (sends_analysisUuidOf a task) (contained_analysisUuidOf a task)
      fun analysis => ?_
    have named : Contained (·.network.Quiet) (do
        let project ← Action.obtain a.project.uuid.encoded
        let configuration ← ask fun store => .ok (store.configurationFor (some project))
        Notice.announce ⟨configuration, ⟨project, some task, analysis⟩, a⟩) :=
      contained_sends (sends_encoded _) (contained_encoded _) fun project =>
        contained_bind (fun _ hs => hs) (contained_ask fun _ => ordinary_ok _)
          fun configuration => contained_announce ⟨configuration, _, a⟩
    dsimp only
    split
    · exact contained_bind (fun _ hs => hs) (contained_log _ _) fun _ => named
    · exact named
  · exact contained_measure _

theorem ok_attempt {s : Service} (quiet : s.network.Quiet) (a : ProjectAnalysis) :
    ∃ t, webhookTask.attempt a s = .ok ⟨⟩ t := by
  obtain ⟨_, t, h⟩ : ∃ u t, webhookTask.attempt a s = .ok u t :=
    ok_orElse (contained_notifyOfAnalysis a) (fun _ _ => ⟨_, _, rfl⟩) quiet
  exact ⟨t, h⟩

theorem ok_finish {s : Service} (quiet : s.network.Quiet) (report : AnalysisReport)
    (allStepsExecuted : Bool) :
    ∃ t, finish [webhookTask] report allStepsExecuted s =
      .ok (some (report.outcome allStepsExecuted)) t := by
  obtain ⟨t, attempted⟩ := ok_attempt quiet (report.outcome allStepsExecuted)
  have ran : runTasks (report.outcome allStepsExecuted) [webhookTask] s = .ok ⟨⟩ t :=
    bind_ok attempted
  exact ⟨t, bind_ok ran⟩

theorem contained_notifyOfBranch (configuration : Configuration) (t : IssueTarget) :
    Contained (·.network.Quiet) (notifyOfBranch configuration t) := by
  have moves := sends_dispatch_any configuration t.subject t.outcome
  refine contained_orElse (fun s hs => ?_) ?_ fun failure _ => ?_
  · exact (sends_bind moves (fun _ => sends_bind (sends_measure _) fun _ =>
      moves_pure Sends.refl _) s).quiet hs
  · exact contained_sends moves (contained_dispatch _ _ _) fun _ => contained_of_always <|
      contained_bind_always (contained_measure _) fun _ => contained_pure _
  · exact contained_of_always <| contained_bind_always (contained_measure _) fun _ =>
      contained_bind_always (contained_measure _) fun _ =>
        contained_bind_always (contained_log _ _) fun _ => contained_pure _

theorem contained_notifyOfBranches (targets : List (Configuration × IssueTarget)) :
    Contained (·.network.Quiet) (notifyOfBranches targets) := by
  induction targets with
  | nil => exact contained_pure _
  | cons first rest ih =>
    exact contained_sends (sends_notifyOfBranch _ _) (contained_notifyOfBranch _ _) fun _ =>
      contained_sends (sends_notifyOfBranches rest) ih fun _ => contained_pure _

theorem contained_logSkipped (branches : List (BranchRow BranchKind × Option IssueTarget)) :
    Contained (fun _ => True) (logSkipped branches) := by
  induction branches with
  | nil => exact contained_pure _
  | cons first rest ih =>
    obtain ⟨branch, _ | target⟩ := first
    · exact contained_bind_always (contained_log _ _) fun _ => ih
    · exact ih

theorem contained_notifyOfIssues (c : ChangeSet) :
    Contained (·.network.Quiet) (notifyOfIssues c) := by
  unfold notifyOfIssues
  refine contained_get_bind fun s => ?_
  split
  · split
    · exact contained_of_always <| contained_bind_always (contained_measure _) fun _ =>
        contained_bind_always (contained_log _ _) fun _ => contained_pure _
    · exact contained_of_always <| contained_bind_always (contained_measure _) fun _ =>
        contained_pure _
    · rename_i lookup _
      have moves : Moves (Sends fun _ => True) (logSkipped lookup.branches) := sends_logSkipped _
      exact contained_sends moves (contained_of_always (contained_logSkipped _)) fun _ =>
        contained_notifyOfBranches _
  · exact contained_of_always <| contained_bind_always (contained_measure _) fun _ =>
      contained_pure _

theorem contained_onTransition (c : ChangeSet) (transition : Option RawText)
    (context : ChangeContext) :
    Contained (·.network.Quiet) (onTransition c transition context) := by
  unfold onTransition
  split
  · exact contained_pure _
  · exact contained_notifyOfIssues c

theorem contained_onTypeChange (c : ChangeSet) (type : RawText) (context : ChangeContext) :
    Contained (·.network.Quiet) (onTypeChange c type context) := by
  unfold onTypeChange
  split
  · exact contained_pure _
  · split
    · exact contained_pure _
    · exact contained_bind (fun _ hs => hs) (contained_log _ _) fun _ => contained_notifyOfIssues c

theorem ordinary_recordComponent (f : FinishedAnalysis) (s : Store) :
    Ordinary (f.recordComponent s) :=
  ordinary_bind (RawText.ordinary_encoded _) fun _ =>
    ordinary_bind (RawText.ordinary_encoded _) fun _ =>
      ordinary_bind (RawText.ordinary_encoded _) fun _ =>
        ordinary_bind (RawText.ordinary_option_mapM_encoded _) fun _ => ordinary_ok _

theorem ordinary_recordBranch (f : FinishedAnalysis) (s : Store) : Ordinary (f.recordBranch s) := by
  have inserted (uuid project key : String) (kind : BranchKind) :
      Ordinary (s.withBranch uuid project key kind) := by
    unfold Store.withBranch
    split
    · exact ordinary_error rfl
    · exact ordinary_ok _
  unfold FinishedAnalysis.recordBranch
  split
  · exact ordinary_ok _
  · refine ordinary_bind (RawText.ordinary_encoded _) fun uuid => ?_
    split
    · exact ordinary_bind (RawText.ordinary_encoded _) fun main =>
        ordinary_bind (RawText.ordinary_encoded _) fun key => inserted _ _ _ _
    · exact ordinary_bind (RawText.ordinary_encoded _) fun key => inserted _ _ _ _

theorem ordinary_recordSnapshot (f : FinishedAnalysis) (s : Store) :
    Ordinary (f.recordSnapshot s) := by
  have inserted (uuid component : String) (date : Moment) (status : String) :
      Ordinary (s.withSnapshot uuid component date status) := by
    refine ordinary_bind (ordinary_storedDate _) fun createdAt => ?_
    dsimp only
    split
    · exact ordinary_bind (ordinary_error rfl) fun _ => ordinary_ok _
    · exact ordinary_ok _
  unfold FinishedAnalysis.recordSnapshot
  split
  · exact ordinary_ok _
  · exact ordinary_bind (ordinary_storedDate _) fun _ =>
      ordinary_bind (RawText.ordinary_encoded _) fun _ =>
        ordinary_bind (RawText.ordinary_encoded _) fun _ => inserted _ _ _ _

theorem ordinary_recordActivity (f : FinishedAnalysis) (now : Moment) (s : Store) :
    Ordinary (f.recordActivity now s) := by
  have made : Ordinary (f.made.mapM (·.uuid.encoded)) := by
    cases f.made with
    | none => exact ordinary_ok none
    | some info => exact ordinary_map info.uuid.ordinary_encoded
  exact ordinary_bind (ordinary_storedDate _) fun _ =>
    ordinary_bind (RawText.ordinary_encoded _) fun _ =>
      ordinary_bind (RawText.ordinary_encoded _) fun _ => ordinary_bind made fun _ =>
        ordinary_bind (ordinary_storedDate _) fun _ =>
          ordinary_bind (ordinary_ok _) fun _ => ordinary_ok _

theorem contained_record (f : FinishedAnalysis) : Contained (fun _ => True) f.record :=
  contained_bind_always (contained_change (ordinary_recordComponent f)) fun _ =>
    contained_bind_always (contained_change (ordinary_recordBranch f)) fun _ =>
      contained_bind_always (contained_change (ordinary_recordSnapshot f)) fun _ =>
        contained_get_bind fun s => contained_change (ordinary_recordActivity f s.clock)

end AnalysisWebhooks
